import ClientForge.Proofs.DefinitionFile
import ClientForge.Proofs.Output.Reopening

namespace ClientForge

open Disk (Path place Writable SameDirectories KeepsDirectories)

structure Slot.IsModule (slot : Slot) : Prop where
  plain : slot.IsPlain
  visible : slot.IsVisible
  revealed : ∀ part ∈ slot.directory, part.toList.head? ≠ some '.'
  ending : ∃ stem, slot.file = stem ++ ".py"

namespace Output

variable {disk other : Disk} {root : Path} {marksPackages : Bool} {slot : Slot}
  {entries : List (Slot × String)} {names : List String} {w after : Workspace}

theorem marker_visible (inner : List String) : Slot.IsVisible ⟨inner, packageMarker⟩ := by
  change packageMarker.toList.head? ≠ some '.'
  decide

theorem staged_not_onWay (hslot : slot.IsPlain) {way : Slot} (hway : way.IsModule) :
    ¬OnWay root way.directory (place (slot.staged.target root)) := by
  have hstaged := Slot.staged_isPlain hslot
  rintro ⟨inner, hne, hinner, hplace⟩
  have hplain : ∀ part ∈ inner, Path.IsPlain part :=
    fun part hpart => (Slot.isPlain_iff.mp hway.plain).1 part (hinner.subset hpart)
  rw [Slot.place_target hstaged, Path.foldl_join root hplain, Disk.place_append root hplain] at hplace
  have hmem : slot.staged.file ∈ inner := by
    rw [← List.append_cancel_left hplace, Slot.parts]
    exact List.mem_append_right _ (List.mem_singleton_self _)
  exact hway.revealed _ (hinner.subset hmem) (by simp [Slot.staged])

theorem staged_not_marksWay (hslot : slot.IsPlain) {way : Slot} (hway : way.IsPlain) :
    ¬MarksWay root marksPackages way.directory (place (slot.staged.target root)) := by
  rintro ⟨-, inner, hne, hinner, hplace⟩
  have hplain : Slot.IsPlain ⟨inner, packageMarker⟩ := Marks.isPlain ⟨rfl, hne, hinner⟩ hway
  have hmarker := Slot.place_target_injective (Slot.staged_isPlain hslot) hplain hplace
  exact (marker_visible inner).ne_staged slot hmarker.symm

theorem staged_of_openAll {targets : List (Path × String)} (hslot : slot.IsPlain)
    (hmodules : ∀ entry ∈ entries, entry.1.IsModule) (hroot : w.disk.isDirectory root = true)
    (hnone : w.disk.at? (place (slot.staged.target root)) = none)
    (h : (openAll root marksPackages entries).run w = (.ok targets, after)) :
    after.disk.at? (place (slot.staged.target root)) = none := by
  obtain ⟨-, hgains⟩ := openAll_ok h
  rcases hgains (place (slot.staged.target root)) with
    hsame | ⟨-, ⟨-, entry, hentry, hleads⟩ | ⟨-, entry, hentry, hmarks⟩⟩
  · rw [hsame, hnone]
  · rcases hleads with ⟨front, hfront, hplace⟩ | hway
    · rw [hplace, Disk.at?_of_isDirectory hroot hfront] at hnone
      cases hnone
    · exact absurd hway (staged_not_onWay hslot (hmodules entry hentry))
  · exact absurd hmarks (staged_not_marksWay hslot (hmodules entry hentry).plain)

theorem Opened.keeps (h : Opened root marksPackages slot disk) (hplain : slot.IsPlain)
    (hdirectories : KeepsDirectories disk other)
    (hpresent : ∀ marker : Slot, marker.IsPlain → marker.IsVisible → ∀ node,
      disk.at? (place (marker.target root)) = some node → ∃ kept, other.at? (place (marker.target root)) = some kept) :
    Opened root marksPackages slot other :=
  h.kept hdirectories fun inner hne hinner =>
    hpresent _ (Marks.isPlain ⟨rfl, hne, hinner⟩ hplain) (marker_visible inner)

theorem Written.at?_eq (h : Written root entries disk other) (hproper : Proper entries) (hplain : slot.IsPlain)
    (hvisible : slot.IsVisible) {node : Node} (hnode : disk.at? (place (slot.target root)) = some node)
    (hslot : slot ∉ entries.map (·.1)) : other.at? (place (slot.target root)) = some node := by
  apply h.others _ _ hnode
  intro entry hentry
  have hentryPlain := hproper.plain entry hentry
  constructor
  · intro hplace
    apply hslot
    rw [Slot.place_target_injective hplain hentryPlain hplace]
    exact List.mem_map_of_mem hentry
  · intro hplace
    exact hvisible.ne_staged _ (Slot.place_target_injective hplain (Slot.staged_isPlain hentryPlain) hplace)

theorem Written.find?_of_mem (h : Written root entries disk other) (hslot : slot ∈ entries.map (·.1)) :
    ∃ bytes, other.find? (slot.target root) = some (.file bytes) := by
  obtain ⟨entry, hentry, rfl⟩ := List.mem_map.mp hslot
  exact ⟨_, h.content entry hentry⟩

theorem Opened.written (h : Opened root marksPackages slot disk) (hplain : slot.IsPlain) (hproper : Proper entries)
    (hwritten : Written root entries disk other) : Opened root marksPackages slot other := by
  apply h.keeps hplain hwritten.directories
  intro marker hmarker hvisible node hnode
  by_cases hmem : marker ∈ entries.map (·.1)
  · obtain ⟨bytes, hfile⟩ := hwritten.find?_of_mem hmem
    exact ⟨_, (Disk.find?_eq_some.mp hfile).2⟩
  · exact ⟨node, hwritten.at?_eq hproper hmarker hvisible hnode hmem⟩

structure Settled (root : Path) (marksPackages : Bool) (slot : Slot) (disk : Disk) : Prop where
  opened : Opened root marksPackages slot disk
  target : ∃ bytes, disk.find? (slot.target root) = some (.file bytes)
  staged : disk.at? (place (slot.staged.target root)) = none

theorem staged_of_writeAll (hproper : Proper entries)
    (h : (writeAll (.files root marksPackages) entries).run w = (.ok names, after)) (hslot : slot ∈ entries.map (·.1)) :
    after.disk.at? (place (slot.staged.target root)) = none := by
  obtain ⟨hreplaced, -⟩ := hproper.replaced h
  obtain ⟨entry, hentry, rfl⟩ := List.mem_map.mp hslot
  rw [← Slot.staging_target (hproper.plain entry hentry)]
  exact hreplaced.cleared _ (List.mem_map_of_mem hentry)

theorem settled_of_writeAll (hproper : Proper entries)
    (h : (writeAll (.files root marksPackages) entries).run w = (.ok names, after)) (hslot : slot ∈ entries.map (·.1)) :
    Settled root marksPackages slot after.disk := by
  have hopened : Opened root marksPackages slot after.disk := by
    obtain ⟨opened, hopen, hwrite⟩ := writeAll_eq_ok h
    obtain ⟨hall, -⟩ := openAll_ok hopen
    -- with all directories open the call would have done the rest just so
    have hagain : (writeAll (.files root marksPackages) entries).run opened = (.ok names, after) := by
      rw [writeAll_files, run_bind_ok (run_openAll hall)]
      exact hwrite
    obtain ⟨hwritten, -⟩ := hproper.written hagain
    obtain ⟨entry, hentry, rfl⟩ := List.mem_map.mp hslot
    exact (hall entry hentry).written (hproper.plain entry hentry) hproper hwritten
  obtain ⟨hwritten, -⟩ := hproper.written h
  exact ⟨hopened, hwritten.find?_of_mem hslot, staged_of_writeAll hproper h hslot⟩

theorem Settled.writeAll (hsettled : Settled root marksPackages slot w.disk) (hslot : slot.IsModule)
    (hproper : Proper entries) (hmodules : ∀ entry ∈ entries, entry.1.IsModule)
    (h : (writeAll (.files root marksPackages) entries).run w = (.ok names, after)) :
    Settled root marksPackages slot after.disk := by
  by_cases hmem : slot ∈ entries.map (·.1)
  · exact settled_of_writeAll hproper h hmem
  obtain ⟨hwritten, -⟩ := hproper.written h
  refine ⟨hsettled.opened.written hslot.plain hproper hwritten, ?_, ?_⟩
  · obtain ⟨bytes, hfile⟩ := hsettled.target
    obtain ⟨hresolve, hat⟩ := Disk.find?_eq_some.mp hfile
    exact ⟨bytes, Disk.find?_eq_some.mpr ⟨Disk.resolve_mono hwritten.directories hresolve,
      hwritten.at?_eq hproper hslot.plain hslot.visible hat hmem⟩⟩
  · obtain ⟨hreplaced, -⟩ := hproper.replaced h
    obtain ⟨opened, hopen, -⟩ := writeAll_eq_ok h
    rw [hopen] at hreplaced
    rw [hreplaced.others, staged_of_openAll hslot.plain hmodules hsettled.opened.base hsettled.staged hopen]
    · rw [forall_mem_targets]
      intro entry hentry
      have hplain := hproper.plain entry hentry
      have hstaged := Slot.staged_isPlain hslot.plain
      rw [Slot.staging_target hplain]
      constructor
      · intro hplace
        exact (hproper.visible entry hentry).ne_staged _ (Slot.place_target_injective hplain hstaged hplace.symm)
      · intro hplace
        apply hmem
        rw [Slot.staged_injective (Slot.place_target_injective hstaged (Slot.staged_isPlain hplain) hplace)]
        exact List.mem_map_of_mem hentry

theorem target_eq_sibling (hplain : slot.IsPlain) (root : Path) :
    slot.target root = (slot.staged.target root).sibling slot.file := by
  rw [Slot.target_eq hplain, Slot.target_eq (Slot.staged_isPlain hplain), Slot.parts, Slot.parts, Path.sibling,
    ← List.append_assoc, ← List.append_assoc, List.dropLast_concat]
  rfl

theorem Settled.writable (h : Settled root marksPackages slot disk) (hplain : slot.IsPlain) :
    Writable disk (staging (slot.target root)) := by
  obtain ⟨bytes, hfile⟩ := h.target
  obtain ⟨hresolve, -⟩ := Disk.find?_eq_some.mp hfile
  rw [target_eq_sibling hplain] at hresolve
  rw [Slot.staging_target hplain]
  exact ⟨Disk.resolve_of_sibling hresolve, by rw [h.staged]; exact nofun⟩

theorem Settled.replaceable (h : Settled root marksPackages slot disk) (hplain : slot.IsPlain) :
    replaceable disk (slot.target root) = true := by
  obtain ⟨bytes, hfile⟩ := h.target
  have hlast : (slot.target root).getLast? = some slot.file := by
    rw [Slot.target_eq hplain, Slot.parts, ← List.append_assoc, List.getLast?_concat]
  have hup : slot.file ≠ ".." := (Slot.isPlain_iff.mp hplain).2.ne_above
  rw [Output.replaceable, hlast, (Disk.find?_eq_some.mp hfile).2]
  simp [hup]

theorem run_stage_of_writable {targets : List (Path × String)} (staged : List Path)
    (h : ∀ entry ∈ targets, Writable disk (staging entry.1)) :
    ∃ next, (stage staged targets).run disk = (.ok (staged ++ targets.map (staging ·.1)), next) := by
  induction targets generalizing staged disk with
  | nil => exact ⟨disk, by simp [stage]⟩
  | cons entry rest ih =>
    obtain ⟨target, content⟩ := entry
    rw [List.forall_mem_cons] at h
    have hsame := Disk.sameDirectories_put h.1.2 (Node.noConfusion :
      Node.file (Text.Utf8.encode content.toList) ≠ .directory)
    obtain ⟨next, hnext⟩ := ih (staged ++ [staging target]) fun other hother => hsame.writable_iff.mp (h.2 other hother)
    refine ⟨next, ?_⟩
    rw [run_stage_of_write staged rest (Disk.run_write h.1 _), hnext]
    simp

theorem run_stageAndReplace {targets : List (Path × String)} (hseparate : Separate targets)
    (hwritable : ∀ entry ∈ targets, Writable disk (staging entry.1))
    (hreplaceable : ∀ entry ∈ targets, replaceable disk entry.1 = true) :
    ∃ next, (stageAndReplace targets).run disk = (.ok (), next) := by
  obtain ⟨full, hstage⟩ := run_stage_of_writable [] hwritable
  have hstaged : Staged disk full (targets.map (staging ·.1)) := by
    rcases run_stage [] targets disk with ⟨next, hrun, hstaged⟩ | ⟨_, _, _, _, _, hrun, -⟩
    · rw [hstage] at hrun
      cases hrun
      exact hstaged
    · rw [hstage] at hrun
      cases hrun
  have hcontent : ∀ entry ∈ targets, full.find? (staging entry.1) = some (.file (Text.Utf8.encode entry.2.toList)) :=
    fun entry hentry => content_of_stage hstage hseparate.staged hentry
  have hall : targets.takeWhile (fun entry => replaceable full entry.1) = targets := by
    rw [List.takeWhile_eq_self_iff, ← replaceable_congr hstaged.same]
    exact hreplaceable
  obtain ⟨result, next, hrun, hstop, -⟩ := run_replace ([] ++ targets.map (staging ·.1)) hstaged.writable_targets
  rw [stageAndReplace, run_bind_ok hstage]
  cases result with
  | ok _ => exact ⟨next, hrun⟩
  | error stop =>
    obtain ⟨-, hless⟩ := hstop stop rfl
    rw [replaced_eq_takeWhile hcontent hseparate.staged hseparate.disjoint, hall] at hless
    simp at hless

theorem run_writeFiles {targets : List (Path × String)} {next : Disk}
    (h : (stageAndReplace targets).run w.disk = (.ok (), next)) :
    ∃ after, (writeFiles targets).run w = (.ok (targets.map (·.1.text)), after) ∧ after.disk = next := by
  rw [writeFiles, run_bind_ok (run_get w), h]
  exact ⟨_, rfl, rfl⟩

theorem run_writeAll (hproper : Proper entries)
    (h : ∀ entry ∈ entries, Settled root marksPackages entry.1 w.disk) :
    ∃ after, (writeAll (.files root marksPackages) entries).run w =
        (.ok (entries.map fun entry => (entry.1.target root).text), after) ∧
      ∀ p, (∀ entry ∈ entries, p ≠ place (entry.1.target root)) → after.disk.at? p = w.disk.at? p := by
  obtain ⟨next, hrun⟩ := run_stageAndReplace (hproper.separate root)
    (forall_mem_targets.mpr fun entry hentry => (h entry hentry).writable (hproper.plain entry hentry))
    (forall_mem_targets.mpr fun entry hentry => (h entry hentry).replaceable (hproper.plain entry hentry))
  obtain ⟨after, hwrite, rfl⟩ := run_writeFiles hrun
  have hopen := run_openAll fun entry hentry => (h entry hentry).opened
  have hall : (writeAll (.files root marksPackages) entries).run w =
      (.ok (entries.map fun entry => (entry.1.target root).text), after) := by
    rw [writeAll_files, run_bind_ok hopen, hwrite]
    simp [targets, Function.comp_def]
  refine ⟨after, hall, fun p hp => ?_⟩
  obtain ⟨hreplaced, -⟩ := hproper.replaced hall
  rw [hopen] at hreplaced
  by_cases hstaged : ∃ entry ∈ entries, p = place (entry.1.staged.target root)
  · obtain ⟨entry, hentry, rfl⟩ := hstaged
    rw [staged_of_writeAll hproper hall (List.mem_map_of_mem hentry), (h entry hentry).staged]
  · apply hreplaced.others
    rw [forall_mem_targets]
    intro entry hentry
    rw [Slot.staging_target (hproper.plain entry hentry)]
    exact ⟨hp entry hentry, fun hplace => hstaged ⟨entry, hentry, hplace⟩⟩

end Output

end ClientForge
