import ClientForge.Proofs.Output.Contents
import ClientForge.Proofs.Output.Reopening

namespace ClientForge

open Disk (Path place GainsAt Writable SameDirectories)

namespace Disk

theorem place_concat (front : Path) {last : String} (h : last ≠ "..") : place (front ++ [last]) = place front ++ [last] := by
  rw [place, placeFrom_append, placeFrom, if_neg h]
  rfl

end Disk

namespace Output

variable {disk next : Disk} {root : Path} {marksPackages : Bool} {entries : List (Slot × String)}
  {names : List String} {w after : Workspace}

theorem hidden_ne_above (name : String) : "." ++ name ++ ".tmp" ≠ ".." := by
  intro h
  have hlength := congrArg (·.toList.length) h
  simp only [String.toList_append, List.length_append] at hlength
  have hend : ".tmp".toList.length = 4 := rfl
  have hup : "..".toList.length = 2 := rfl
  omega

theorem place_staging {target : Path} (hne : target ≠ []) (hup : target.getLast? ≠ some "..") :
    place (staging target) = staging (place target) := by
  obtain ⟨front, last, rfl⟩ := (List.eq_nil_or_concat target).resolve_left hne
  rw [List.concat_eq_append] at hup ⊢
  rw [List.getLast?_concat, Ne, Option.some.injEq] at hup
  rw [Disk.place_concat front hup, staging, staging, Path.sibling, Path.sibling, Path.name, Path.name,
    List.getLast?_concat, List.getLast?_concat, List.dropLast_concat, List.dropLast_concat,
    Disk.place_concat _ (hidden_ne_above _)]

theorem getLast?_place_staging (target : Path) :
    (place (staging target)).getLast? = some ("." ++ target.name ++ ".tmp") := by
  rw [staging, Path.sibling, Disk.place_concat _ (hidden_ne_above _), List.getLast?_concat]

theorem ne_place_staging {p : Path} (hp : p.getLast? = some packageMarker) (target : Path) : p ≠ place (staging target) := by
  rintro rfl
  rw [getLast?_place_staging, Option.some.injEq] at hp
  have hhead := congrArg (·.toList.head?) hp
  simp [packageMarker] at hhead

theorem getLast?_marker (root : Path) (inner : List String) :
    (place (Slot.target root ⟨inner, packageMarker⟩)).getLast? = some packageMarker := by
  have hplain : Path.IsPlain packageMarker := by decide
  rw [Slot.target, Path.join_plain _ hplain, Disk.place_concat _ hplain.ne_above, List.getLast?_concat]

theorem replace_cons_ok {staged rest : List Path} {target : Path}
    (h : (replace staged (target :: rest)).run disk = (.ok (), next)) (hfile : Writable disk (staging target)) :
    ∃ middle node, (replace staged rest).run middle = (.ok (), next) ∧ SameDirectories disk middle ∧
      disk.at? (place (staging target)) = some node ∧ Writable disk target ∧ target.getLast? ≠ some ".." ∧
      ∀ p, middle.at? p =
        if p = place target then some node else if p = place (staging target) then none else disk.at? p := by
  rw [replace, run_bind, run_adapt] at h
  rcases hmove : (Disk.move (staging target) target).run disk with ⟨_ | _, middle⟩
  · rw [hmove] at h
    cases h
  rw [hmove] at h
  obtain ⟨node, hsource, htarget, hup, -⟩ := Disk.move_ok hmove
  have hnode := (Disk.find?_eq_some.mp hsource).2
  have hne : node ≠ .directory := by
    rintro rfl
    exact hfile.2 hnode
  obtain ⟨hsame, hmoved⟩ := Disk.moved hmove hsource hne
  exact ⟨middle, node, h, hsame, hnode, htarget, hup, hmoved⟩

theorem sources_of_replace {staged targets : List Path} (h : (replace staged targets).run disk = (.ok (), next))
    (hfiles : ∀ target ∈ targets, Writable disk (staging target))
    (hapart : ∀ a ∈ targets, ∀ b ∈ targets, place a ≠ place (staging b)) :
    (∀ target ∈ targets, disk.at? (place (staging target)) ≠ none ∧ target ≠ [] ∧ target.getLast? ≠ some "..") ∧
      (targets.map fun target => place (staging target)).Nodup := by
  -- a staging file in the place of the first would be gone when its own turn comes
  induction targets generalizing disk with
  | nil => exact ⟨nofun, List.nodup_nil⟩
  | cons target rest ih =>
    rw [List.forall_mem_cons] at hfiles
    obtain ⟨middle, node, hrest, hsame, hnode, htarget, hup, hmoved⟩ := replace_cons_ok h hfiles.1
    obtain ⟨hsources, hnodup⟩ := ih hrest (fun other hother => hsame.writable_iff.mp (hfiles.2 other hother))
      fun a ha b hb => hapart a (List.mem_cons_of_mem _ ha) b (List.mem_cons_of_mem _ hb)
    have hne : target ≠ [] := by
      rintro rfl
      exact htarget.2 rfl
    have hothers : ∀ other ∈ rest, place (staging other) ≠ place (staging target) ∧ disk.at? (place (staging other)) ≠ none := by
      intro other hother
      have hsource := (hsources other hother).1
      rw [hmoved, if_neg (hapart _ List.mem_cons_self other (List.mem_cons_of_mem _ hother)).symm] at hsource
      by_cases hplace : place (staging other) = place (staging target)
      · rw [if_pos hplace] at hsource
        exact absurd rfl hsource
      · rw [if_neg hplace] at hsource
        exact ⟨hplace, hsource⟩
    constructor
    · rw [List.forall_mem_cons]
      refine ⟨⟨by simp [hnode], hne, hup⟩, ?_⟩
      intro other hother
      exact ⟨(hothers other hother).2, (hsources other hother).2⟩
    · rw [List.map_cons, List.nodup_cons]
      refine ⟨?_, hnodup⟩
      intro hmem
      obtain ⟨other, hother, hplace⟩ := List.mem_map.mp hmem
      exact (hothers other hother).1 hplace

theorem separate_of_ok {targets : List (Path × String)} (h : (stageAndReplace targets).run disk = (.ok (), next))
    (hapart : ∀ a ∈ targets, ∀ b ∈ targets, place a.1 ≠ place (staging b.1)) : Separate targets := by
  rw [stageAndReplace, run_bind] at h
  rcases run_stage [] targets disk with ⟨full, hstage, hstaged⟩ | ⟨_, _, _, _, _, hstage, -⟩
  · rw [hstage] at h
    obtain ⟨hsources, hnodup⟩ := sources_of_replace h hstaged.writable_targets (by
      intro a ha b hb
      obtain ⟨first, hfirst, rfl⟩ := List.mem_map.mp ha
      obtain ⟨second, hsecond, rfl⟩ := List.mem_map.mp hb
      exact hapart first hfirst second hsecond)
    rw [List.map_map] at hnodup
    refine ⟨?_, hnodup, hapart⟩
    -- a staging file is where its target is, so that targets in one place would have been staged in one
    have hplaces : (targets.map fun entry => place (staging entry.1)) = (targets.map fun entry => place entry.1).map staging := by
      rw [List.map_map]
      apply List.map_congr_left
      intro entry hentry
      obtain ⟨-, hne, hup⟩ := hsources entry.1 (List.mem_map_of_mem hentry)
      exact place_staging hne hup
    exact List.Nodup.of_map staging (hplaces ▸ hnodup)
  · rw [hstage] at h
    cases h

structure Delivered (root : Path) (marksPackages : Bool) (entries : List (Slot × String)) (before after : Disk) :
    Prop where
  content : ∀ entry ∈ entries, after.find? (entry.1.target root) = some (.file (Text.Utf8.encode entry.2.toList))
  opened : ∀ entry ∈ entries, Opened root marksPackages entry.1 after
  cleared : ∀ entry ∈ entries, after.at? (place (staging (entry.1.target root))) = none
  markers : ∀ p, p.getLast? = some packageMarker → (∀ entry ∈ entries, p ≠ place (entry.1.target root)) →
    GainsAt (DirectoryFor root entries) (MarkerFor root marksPackages entries) before after p
  others : ∀ p, (∀ entry ∈ entries, p ≠ place (entry.1.target root) ∧ p ≠ place (staging (entry.1.target root))) →
    GainsAt (DirectoryFor root entries) (MarkerFor root marksPackages entries) before after p

/-- A call that succeeds, and stages no file in the place of a target, writes its targets and nothing else. -/
theorem writeAll_delivers
    (hapart : ∀ a ∈ entries, ∀ b ∈ entries, place (a.1.target root) ≠ place (staging (b.1.target root)))
    (h : (writeAll (.files root marksPackages) entries).run w = (.ok names, after)) :
    names = entries.map (fun entry => (entry.1.target root).text) ∧ after.written = w.written ++ names ∧
      Delivered root marksPackages entries w.disk after.disk := by
  obtain ⟨opened, hopen, hwrite⟩ := writeAll_eq_ok h
  obtain ⟨hall, hgains⟩ := openAll_ok hopen
  obtain ⟨hrun, hnames⟩ := writeFiles_ok hwrite
  obtain ⟨hreplaced, hresolve⟩ := stageAndReplace_ok (separate_of_ok hrun (apart_targets hapart)) hrun
  have hmem : ∀ entry ∈ entries, (entry.1.target root, entry.2) ∈ targets root entries :=
    fun entry hentry => List.mem_map_of_mem hentry
  have hwritten : opened.written = w.written := by
    have hsame := leads_openAll_written root marksPackages entries w
    rwa [hopen] at hsame
  have hothers : ∀ p, (∀ entry ∈ entries, p ≠ place (entry.1.target root) ∧ p ≠ place (staging (entry.1.target root))) →
      after.disk.at? p = opened.disk.at? p := by
    intro p hp
    apply hreplaced.others
    rw [forall_mem_targets]
    exact hp
  have hkept : ∀ p, p.getLast? = some packageMarker → (∀ entry ∈ entries, p ≠ place (entry.1.target root)) →
      after.disk.at? p = opened.disk.at? p :=
    fun p hmarker hp => hothers p fun entry hentry => ⟨hp entry hentry, ne_place_staging hmarker _⟩
  refine ⟨?_, ?_, ?_, ?_, ?_, ?_, ?_⟩
  · rw [hnames, targets, List.map_map]
    rfl
  · rw [written_of_writeFiles hwrite, hwritten]
    rfl
  · intro entry hentry
    exact Disk.find?_eq_some.mpr ⟨hresolve _ (hmem entry hentry), hreplaced.content _ (hmem entry hentry)⟩
  · intro entry hentry
    apply (hall entry hentry).kept fun p => (hreplaced.same p).mp
    intro inner _ _ node hnode
    by_cases htarget : ∃ other ∈ entries, place (Slot.target root ⟨inner, packageMarker⟩) = place (other.1.target root)
    · obtain ⟨other, hother, hplace⟩ := htarget
      rw [hplace]
      exact ⟨_, hreplaced.content _ (hmem other hother)⟩
    · rw [hkept _ (getLast?_marker root inner) fun other hother hplace => htarget ⟨other, hother, hplace⟩]
      exact ⟨node, hnode⟩
  · intro entry hentry
    exact hreplaced.cleared _ (hmem entry hentry)
  · intro p hmarker hp
    rw [GainsAt, hkept p hmarker hp]
    exact hgains p
  · intro p hp
    rw [GainsAt, hothers p hp]
    exact hgains p

theorem writeAll_delivers_package :
    let disk : Disk := ⟨[(["out"], .directory), (["out", "a.py"], .file [65]), (["out", ".a.py.tmp"], .file [66])]⟩
    let entries : List (Slot × String) :=
      [(⟨["cat"], "__init__.py"⟩, "CAT = 1\n"), (⟨["cat", "nodes"], "stats.py"⟩, "STATS = 1\n"), (⟨[], "a.py"⟩, "A = 1\n")]
    (∀ a ∈ entries, ∀ b ∈ entries, place (a.1.target ["out"]) ≠ place (staging (b.1.target ["out"]))) ∧
      ∃ names after, (writeAll (.files ["out"] true) entries).run (.ofDisk disk) = (.ok names, after) ∧
        names = entries.map (fun entry => (entry.1.target ["out"]).text) ∧ after.written = names ∧
        Delivered ["out"] true entries disk after.disk := by
  intro disk entries
  have hapart := apart_of_visible (by decide : ∀ entry ∈ entries, entry.1.IsPlain)
    (by decide : ∀ entry ∈ entries, entry.1.IsVisible) ["out"]
  have hcheck : ((writeAll (.files ["out"] true) entries).run (.ofDisk disk)).map Except.isOk (fun _ => ()) =
      (true, ()) := by
    decide +kernel
  clear_value disk entries
  obtain ⟨names, after, hrun, -⟩ := ok_of_check hcheck
  exact ⟨hapart, names, after, hrun, writeAll_delivers hapart hrun⟩

theorem writeAll_loses_staged_target :
    let disk : Disk := ⟨[(["out"], .directory), (["out", "sub"], .directory)]⟩
    let entries : List (Slot × String) := [(⟨[], "sub/.a.py.tmp"⟩, "X\n"), (⟨[], "sub/a.py"⟩, "Y\n")]
    (∀ entry ∈ entries, (∀ part ∈ entry.1.directory, Path.IsPlain part) ∧ entry.1.IsVisible) ∧
      (entries.map (·.1.target ["out"])).Nodup ∧
      ∃ names after, (writeAll (.files ["out"] true) entries).run (.ofDisk disk) = (.ok names, after) ∧
        after.disk.find? (Slot.target ["out"] ⟨[], "sub/.a.py.tmp"⟩) = none ∧
        after.disk.find? (Slot.target ["out"] ⟨[], "sub/a.py"⟩) = some (.file (Text.Utf8.encode "X\n".toList)) := by
  intro disk entries
  refine ⟨by decide, by decide, ?_⟩
  have hcheck : ((writeAll (.files ["out"] true) entries).run (.ofDisk disk)).map Except.isOk (fun after =>
        (after.disk.find? (Slot.target ["out"] ⟨[], "sub/.a.py.tmp"⟩),
          after.disk.find? (Slot.target ["out"] ⟨[], "sub/a.py"⟩))) =
      (true, none, some (.file (Text.Utf8.encode "X\n".toList))) := by
    decide +kernel
  clear_value disk entries
  obtain ⟨names, after, hrun, hview⟩ := ok_of_check hcheck
  exact ⟨names, after, hrun, congrArg Prod.fst hview, congrArg Prod.snd hview⟩

end Output

end ClientForge
