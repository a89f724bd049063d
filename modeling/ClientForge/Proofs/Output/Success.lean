import ClientForge.Proofs.Output.Slots
import Mathlib.Data.List.Nodup

namespace ClientForge

open Disk (Path SameDirectories KeepsDirectories place)

def Disk.Adds (allowed : Path → Prop) (disk other : Disk) : Prop :=
  ∀ p node, other.at? p = some node → disk.at? p = some node ∨ node = .directory ∨ node = .file [] ∧ allowed p

namespace Output

variable {disk next : Disk} {root : Path} {marksPackages : Bool} {entries : List (Slot × String)}
  {w after : Workspace}

theorem extends_adds (allowed : Path → Prop) : Disk.Extends (Disk.Adds allowed) := by
  refine ⟨fun _ _ _ => .inl, ?_, ?_⟩
  · intro disk other third h h' p node hnode
    rcases h' p node hnode with hother | hnew
    · exact h p node hother
    · exact .inr hnew
  · intro disk q hnone p node hnode
    rcases Disk.at?_put_eq_some hnone hnode with hold | ⟨-, rfl⟩
    · exact .inl hold
    · exact .inr (.inl rfl)

def Marks (slot marker : Slot) : Prop :=
  marker.file = packageMarker ∧ marker.directory ≠ [] ∧ marker.directory <+: slot.directory

theorem openAll_adds (root : Path) (marksPackages : Bool) (entries : List (Slot × String)) (w : Workspace) :
    w.disk.Adds (fun p => ∃ entry ∈ entries, ∃ marker, Marks entry.1 marker ∧ p = place (marker.target root))
      ((openAll root marksPackages entries).run w).2.disk := by
  refine leads_openAll (extends_adds _) marksPackages ?_ w
  intro entry hentry inner hne hinner
  apply Disk.leads_touch (extends_adds _).refl
  intro disk hnone p node hnode
  rcases Disk.at?_put_eq_some hnone hnode with hold | ⟨hp, rfl⟩
  · exact .inl hold
  · exact .inr (.inr ⟨rfl, entry, hentry, _, ⟨rfl, hne, hinner⟩, hp⟩)

structure Separate (targets : List (Path × String)) : Prop where
  places : (targets.map fun entry => place entry.1).Nodup
  staged : (targets.map fun entry => place (staging entry.1)).Nodup
  disjoint : ∀ a ∈ targets, ∀ b ∈ targets, place a.1 ≠ place (staging b.1)

theorem Separate.of_cons {first : Path × String} {rest : List (Path × String)} (h : Separate (first :: rest)) :
    Separate rest ∧ place first.1 ≠ place (staging first.1) ∧ ∀ entry ∈ rest,
      (place first.1 ≠ place entry.1 ∧ place first.1 ≠ place (staging entry.1)) ∧
        place (staging first.1) ≠ place entry.1 ∧ place (staging first.1) ≠ place (staging entry.1) := by
  obtain ⟨htargets, hstaged, hdisjoint⟩ := h
  rw [List.map_cons, List.nodup_cons] at htargets hstaged
  refine ⟨⟨htargets.2, hstaged.2, ?_⟩, hdisjoint _ List.mem_cons_self _ List.mem_cons_self, ?_⟩
  · intro a ha b hb
    exact hdisjoint a (List.mem_cons_of_mem _ ha) b (List.mem_cons_of_mem _ hb)
  · intro entry hentry
    have hmem := List.mem_cons_of_mem first hentry
    refine ⟨⟨?_, hdisjoint _ List.mem_cons_self _ hmem⟩, (hdisjoint _ hmem _ List.mem_cons_self).symm, ?_⟩
    · intro heq
      exact htargets.1 (heq ▸ List.mem_map_of_mem hentry)
    · intro heq
      exact hstaged.1 (heq ▸ List.mem_map_of_mem hentry)

structure Replaced (before after : Disk) (targets : List (Path × String)) : Prop where
  same : SameDirectories before after
  content : ∀ entry ∈ targets,
    after.at? (place entry.1) = some (.file (Text.Utf8.encode entry.2.toList))
  cleared : ∀ entry ∈ targets, after.at? (place (staging entry.1)) = none
  others : ∀ p, (∀ entry ∈ targets, p ≠ place entry.1 ∧ p ≠ place (staging entry.1)) →
    after.at? p = before.at? p

theorem replace_ok {staged : List Path} {targets : List (Path × String)}
    (h : (replace staged (targets.map (·.1))).run disk = (.ok (), next))
    (hseparate : Separate targets)
    (hcontent : ∀ entry ∈ targets,
      disk.find? (staging entry.1) = some (.file (Text.Utf8.encode entry.2.toList))) :
    Replaced disk next targets := by
  induction targets generalizing disk with
  | nil =>
    cases h
    exact ⟨.refl _, by simp, by simp, fun _ _ => rfl⟩
  | cons first rest ih =>
    obtain ⟨target, content⟩ := first
    obtain ⟨hseparate, hfirst, hrest⟩ := hseparate.of_cons
    rw [List.forall_mem_cons] at hcontent
    rw [List.map_cons, replace, run_bind, run_adapt] at h
    rcases hmove : (Disk.move (staging target) target).run disk with ⟨_ | _, middle⟩
    · rw [hmove] at h
      cases h
    rw [hmove] at h
    obtain ⟨hsame, hmoved⟩ := Disk.moved hmove hcontent.1 Node.noConfusion
    -- no later move goes to or from the places of the first one, and the first leaves theirs alone
    have hreplaced : Replaced middle next rest := by
      apply ih h hseparate
      intro entry hentry
      obtain ⟨htarget, hstaging⟩ := hrest entry hentry
      rw [← hsame.find?_congr, hcontent.2 entry hentry]
      rw [hmoved, if_neg htarget.2.symm, if_neg hstaging.2.symm]
    constructor
    · exact hsame.trans hreplaced.same
    · rw [List.forall_mem_cons]
      refine ⟨?_, hreplaced.content⟩
      rw [hreplaced.others _ fun entry hentry => (hrest entry hentry).1, hmoved, if_pos rfl]
    · rw [List.forall_mem_cons]
      refine ⟨?_, hreplaced.cleared⟩
      rw [hreplaced.others _ fun entry hentry => (hrest entry hentry).2, hmoved, if_neg hfirst.symm, if_pos rfl]
    · intro p hp
      rw [List.forall_mem_cons] at hp
      rw [hreplaced.others p hp.2, hmoved, if_neg hp.1.1, if_neg hp.1.2]

structure Written (root : Path) (entries : List (Slot × String)) (before after : Disk) : Prop where
  directories : KeepsDirectories before after
  content : ∀ entry ∈ entries,
    after.find? (entry.1.target root) = some (.file (Text.Utf8.encode entry.2.toList))
  others : ∀ p node, before.at? p = some node →
    (∀ entry ∈ entries, p ≠ place (entry.1.target root) ∧ p ≠ place (entry.1.staged.target root)) →
    after.at? p = some node
  files : ∀ p bytes, after.at? p = some (.file bytes) →
    (∃ entry ∈ entries, p = place (entry.1.target root)) ∨ before.at? p = some (.file bytes) ∨
      bytes = [] ∧ ∃ entry ∈ entries, ∃ marker, Marks entry.1 marker ∧ p = place (marker.target root)

structure Proper (entries : List (Slot × String)) : Prop where
  plain : ∀ entry ∈ entries, entry.1.IsPlain
  visible : ∀ entry ∈ entries, entry.1.IsVisible
  nodup : (entries.map (·.1)).Nodup

theorem apart_of_visible (hplain : ∀ entry ∈ entries, entry.1.IsPlain) (hvisible : ∀ entry ∈ entries, entry.1.IsVisible)
    (root : Path) : ∀ a ∈ entries, ∀ b ∈ entries, place (a.1.target root) ≠ place (staging (b.1.target root)) := by
  intro a ha b hb hplace
  rw [Slot.staging_target (hplain b hb)] at hplace
  exact (hvisible a ha).ne_staged _ (Slot.place_target_injective (hplain a ha) (Slot.staged_isPlain (hplain b hb)) hplace)

theorem apart_targets (h : ∀ a ∈ entries, ∀ b ∈ entries, place (a.1.target root) ≠ place (staging (b.1.target root))) :
    ∀ a ∈ targets root entries, ∀ b ∈ targets root entries, place a.1 ≠ place (staging b.1) :=
  forall_mem_targets.mpr fun a ha => forall_mem_targets.mpr (h a ha)

theorem Proper.separate (h : Proper entries) (root : Path) : Separate (targets root entries) := by
  have hstaging : ∀ slot ∈ entries.map (·.1), slot.IsPlain ∧ slot.staged.IsPlain ∧
      staging (slot.target root) = slot.staged.target root := by
    intro slot hslot
    obtain ⟨entry, hentry, rfl⟩ := List.mem_map.mp hslot
    have hplain := h.plain entry hentry
    exact ⟨hplain, Slot.staged_isPlain hplain, Slot.staging_target hplain root⟩
  constructor
  · have hmap : ((entries.map (·.1)).map fun slot => place (slot.target root)).Nodup := by
      apply h.nodup.map_on
      intro a ha b hb hplace
      exact Slot.place_target_injective (hstaging a ha).1 (hstaging b hb).1 hplace
    simpa [targets, Function.comp_def] using hmap
  · have hmap : ((entries.map (·.1)).map fun slot => place (staging (slot.target root))).Nodup := by
      apply h.nodup.map_on
      intro a ha b hb hplace
      obtain ⟨-, haplain, hastaging⟩ := hstaging a ha
      obtain ⟨-, hbplain, hbstaging⟩ := hstaging b hb
      rw [hastaging, hbstaging] at hplace
      exact Slot.staged_injective (Slot.place_target_injective haplain hbplain hplace)
    simpa [targets, Function.comp_def] using hmap
  · exact apart_targets (apart_of_visible h.plain h.visible root)

theorem writeFiles_ok {targets : List (Path × String)} {names : List String}
    (h : (writeFiles targets).run w = (.ok names, after)) :
    (stageAndReplace targets).run w.disk = (.ok (), after.disk) ∧
      names = targets.map fun target => target.1.text := by
  rw [writeFiles, run_bind_ok (run_get w)] at h
  rcases hrun : (stageAndReplace targets).run w.disk with ⟨stop | _, disk⟩
  · rw [hrun] at h
    dsimp only at h
    rw [run_bind_ok (run_set _ _), run_bind, Work.run_onDisk] at h
    dsimp only at h
    cases hresult : ((stop.staged.forM Disk.unlink).run disk).1 <;>
    · rw [hresult] at h
      cases h
  · rw [hrun] at h
    cases h
    exact ⟨rfl, rfl⟩

theorem stageAndReplace_ok {targets : List (Path × String)} (hseparate : Separate targets)
    (h : (stageAndReplace targets).run disk = (.ok (), next)) :
    Replaced disk next targets ∧ ∀ entry ∈ targets, next.resolve entry.1 = .ok (place entry.1) := by
  rw [stageAndReplace, run_bind] at h
  rcases run_stage [] targets disk with ⟨full, hstage, hstaged⟩ | ⟨_, _, _, _, _, hstage, -⟩
  · rw [hstage] at h
    have hcontent : ∀ entry ∈ targets, full.find? (staging entry.1) =
        some (.file (Text.Utf8.encode entry.2.toList)) :=
      fun entry hentry => content_of_stage hstage hseparate.staged hentry
    have hreplaced := replace_ok h hseparate hcontent
    refine ⟨⟨hstaged.same.trans hreplaced.same, hreplaced.content, hreplaced.cleared, ?_⟩, ?_⟩
    · intro p hp
      rw [hreplaced.others p hp, hstaged.others]
      intro hmem
      obtain ⟨file, hfile, rfl⟩ := List.mem_map.mp hmem
      obtain ⟨entry, hentry, rfl⟩ := List.mem_map.mp hfile
      exact (hp entry hentry).2 rfl
    · intro entry hentry
      have hresolve := (Disk.find?_eq_some.mp (hcontent entry hentry)).1
      exact hreplaced.same.resolve_iff.mp (Disk.resolve_of_sibling hresolve)
  · rw [hstage] at h
    cases h

theorem Proper.replaced {names : List String} (hproper : Proper entries)
    (h : (writeAll (.files root marksPackages) entries).run w = (.ok names, after)) :
    Replaced ((openAll root marksPackages entries).run w).2.disk after.disk (targets root entries) ∧
      (∀ entry ∈ targets root entries, after.disk.resolve entry.1 = .ok (place entry.1)) ∧
      names = entries.map fun entry => (entry.1.target root).text := by
  obtain ⟨opened, hopen, hwrite⟩ := writeAll_eq_ok h
  obtain ⟨hrun, rfl⟩ := writeFiles_ok hwrite
  obtain ⟨hreplaced, hresolve⟩ := stageAndReplace_ok (hproper.separate root) hrun
  rw [hopen]
  exact ⟨hreplaced, hresolve, by simp [targets]⟩

theorem Proper.written {names : List String} (hproper : Proper entries)
    (h : (writeAll (.files root marksPackages) entries).run w = (.ok names, after)) :
    Written root entries w.disk after.disk ∧ names = entries.map fun entry => (entry.1.target root).text := by
  obtain ⟨hreplaced, hresolve, hnames⟩ := hproper.replaced h
  have hgrows := openAll_grows root marksPackages entries w
  have hadds := openAll_adds root marksPackages entries w
  have hmem : ∀ entry ∈ entries, (entry.1.target root, entry.2) ∈ targets root entries :=
    fun entry hentry => List.mem_map_of_mem hentry
  have hothers (p : Path) (hp : ∀ entry ∈ entries,
      p ≠ place (entry.1.target root) ∧ p ≠ place (entry.1.staged.target root)) :
      after.disk.at? p = ((openAll root marksPackages entries).run w).2.disk.at? p := by
    apply hreplaced.others
    rw [forall_mem_targets]
    intro entry hentry
    rw [Slot.staging_target (hproper.plain entry hentry)]
    exact hp entry hentry
  refine ⟨⟨?_, ?_, ?_, ?_⟩, hnames⟩
  · intro p hp
    exact (hreplaced.same p).mp (hgrows p _ hp)
  · intro entry hentry
    exact Disk.find?_eq_some.mpr
      ⟨hresolve _ (hmem entry hentry), hreplaced.content _ (hmem entry hentry)⟩
  · intro p node hnode hp
    rw [hothers p hp]
    exact hgrows p node hnode
  · intro p bytes hbytes
    by_cases htarget : ∃ entry ∈ entries, p = place (entry.1.target root)
    · exact .inl htarget
    right
    have hp : ∀ entry ∈ entries,
        p ≠ place (entry.1.target root) ∧ p ≠ place (entry.1.staged.target root) := by
      intro entry hentry
      refine ⟨fun hp => htarget ⟨entry, hentry, hp⟩, ?_⟩
      rintro rfl
      rw [← Slot.staging_target (hproper.plain entry hentry), hreplaced.cleared _ (hmem entry hentry)] at hbytes
      cases hbytes
    rw [hothers p hp] at hbytes
    rcases hadds p _ hbytes with hold | hdirectory | ⟨hempty, hmarker⟩
    · exact .inl hold
    · cases hdirectory
    · cases hempty
      exact .inr ⟨rfl, hmarker⟩

end Output

end ClientForge
