import ClientForge.Proofs.Output.Staging
import Mathlib.Data.List.TakeWhile

namespace ClientForge.Output

open Disk (Path Writable SameDirectories place)

structure Attempt where
  opened : Disk
  staged : List Path
  replaced : List (Path × Node)

def attempt (root : Path) (marksPackages : Bool) (entries : List (Slot × String)) (w : Workspace) :
    Attempt :=
  match (openAll root marksPackages entries).run w with
  | (.error _, opened) => ⟨opened.disk, [], []⟩
  | (.ok targets, opened) =>
    match (stage [] targets).run opened.disk with
    | (.error stop, _) => ⟨opened.disk, stop.staged.dropLast, []⟩
    | (.ok staged, full) => ⟨opened.disk, staged, replaced full (targets.map (·.1))⟩

def targets (root : Path) (entries : List (Slot × String)) : List (Path × String) :=
  entries.map fun entry => (entry.1.target root, entry.2)

variable {root : Path} {marksPackages : Bool} {entries : List (Slot × String)} {w after : Workspace}
  {failure : Failure}

theorem forall_mem_targets {p : Path × String → Prop} :
    (∀ target ∈ targets root entries, p target) ↔ ∀ entry ∈ entries, p (entry.1.target root, entry.2) :=
  List.forall_mem_map

theorem writeAll_eq_ok {names : List String}
    (h : (writeAll (.files root marksPackages) entries).run w = (.ok names, after)) :
    ∃ opened, (openAll root marksPackages entries).run w = (.ok (targets root entries), opened) ∧
      (writeFiles (targets root entries)).run opened = (.ok names, after) := by
  rw [writeAll_files] at h
  obtain ⟨opening, opened, hopen, hwrite⟩ := run_bind_eq_ok.mp h
  obtain rfl : opening = targets root entries := openAll_eq_ok hopen
  exact ⟨opened, hopen, hwrite⟩

theorem attempt_cases (root : Path) (marksPackages : Bool) (entries : List (Slot × String))
    (w : Workspace) :
    (∃ failure opened, (openAll root marksPackages entries).run w = (.error failure, opened) ∧
        attempt root marksPackages entries w = ⟨opened.disk, [], []⟩) ∨
      ∃ opened, (openAll root marksPackages entries).run w = (.ok (targets root entries), opened) ∧
        ((∃ written blocked stop full, (stage [] (targets root entries)).run opened.disk =
              (.error stop, full) ∧ stop.staged = written ++ [blocked] ∧
            written ⊆ (targets root entries).map (staging ·.1) ∧ Staged opened.disk full written ∧
            ¬Writable full blocked ∧
            attempt root marksPackages entries w = ⟨opened.disk, written, []⟩) ∨
          ∃ full, (stage [] (targets root entries)).run opened.disk =
              (.ok ((targets root entries).map (staging ·.1)), full) ∧
            Staged opened.disk full ((targets root entries).map (staging ·.1)) ∧
            attempt root marksPackages entries w = ⟨opened.disk,
              (targets root entries).map (staging ·.1),
              replaced full ((targets root entries).map (·.1))⟩) := by
  rcases hopen : (openAll root marksPackages entries).run w with ⟨failure | opening, opened⟩
  · exact .inl ⟨failure, opened, rfl, by rw [attempt, hopen]⟩
  · obtain rfl : opening = targets root entries := openAll_eq_ok hopen
    right
    refine ⟨opened, rfl, ?_⟩
    rcases run_stage [] (targets root entries) opened.disk with
      ⟨full, hstage, hstaged⟩ |
        ⟨written, blocked, target, fault, full, hstage, hsub, hstaged, hblocked⟩
    · rw [List.nil_append] at hstage
      exact .inr ⟨full, hstage, hstaged, by rw [attempt, hopen]; dsimp only; rw [hstage]⟩
    · rw [List.nil_append] at hstage
      refine .inl ⟨written, blocked, _, full, hstage, rfl, fun _ hfile => hsub (List.mem_append_left _ hfile), hstaged,
        hblocked, ?_⟩
      rw [attempt, hopen]
      dsimp only
      rw [hstage]
      simp

theorem writeFiles_error {targets : List (Path × String)}
    (h : (writeFiles targets).run w = (.error failure, after)) :
    ∃ stop disk, (stageAndReplace targets).run w.disk = (.error stop, disk) ∧
      after.disk = ((stop.staged.forM Disk.unlink).run disk).2 := by
  rw [writeFiles, run_bind_ok (run_get w)] at h
  split at h
  · next stop disk hstop =>
    refine ⟨stop, disk, hstop, ?_⟩
    rw [run_bind_ok (run_set _ _), run_bind, Work.run_onDisk] at h
    dsimp only at h
    cases hresult : ((stop.staged.forM Disk.unlink).run disk).1 <;>
    · rw [hresult] at h
      cases h
      rfl
  · cases h

structure Attempt.Leaves (attempt : Attempt) (after : Disk) : Prop where
  same : SameDirectories attempt.opened after
  at_eq : ∀ p, after.at? p =
    if p ∈ attempt.staged.map place then none
    else (newest attempt.replaced p).or (attempt.opened.at? p)

theorem leaves_of_blocked {opened full : Disk} {written : List Path} {blocked : Path}
    (hstaged : Staged opened full written) (hblocked : ¬Writable full blocked) :
    Attempt.Leaves ⟨opened, written, []⟩ (((written ++ [blocked]).forM Disk.unlink).run full).2 := by
  obtain ⟨_, cleared, hclear, hsame, hcleared⟩ := run_clear hstaged.writable
    (by simpa using hblocked : ∀ file ∈ [blocked], ¬Writable full file)
  rw [hclear]
  refine ⟨hstaged.same.trans hsame, ?_⟩
  intro p
  rw [hcleared p]
  split
  · rfl
  · next hp => exact hstaged.others p hp

theorem leaves_of_stopped {opened full disk : Disk} {targets : List (Path × String)}
    {stop : Interruption} (hstaged : Staged opened full (targets.map (staging ·.1)))
    (hreplace : (replace (targets.map (staging ·.1)) (targets.map (·.1))).run full = (.error stop, disk)) :
    Attempt.Leaves ⟨opened, targets.map (staging ·.1), replaced full (targets.map (·.1))⟩
      ((stop.staged.forM Disk.unlink).run disk).2 := by
  obtain ⟨result, last, hrun, hstopped, hlast, hat⟩ :=
    run_replace (targets.map (staging ·.1)) hstaged.writable_targets
  rw [hrun] at hreplace
  cases hreplace
  obtain ⟨_, cleared, hclear, hsame, hcleared⟩ := run_clear
    (fun file hfile => hlast.writable_iff.mp (hstaged.writable file hfile))
    (by simp : ∀ file ∈ [], ¬Writable disk file)
  rw [List.append_nil] at hclear
  rw [(hstopped _ rfl).1, hclear]
  refine ⟨hstaged.same.trans (hlast.trans hsame), ?_⟩
  intro p
  rw [hcleared p]
  split
  · rfl
  · next hp => rw [hat p (by simpa using hp), hstaged.others p hp]

theorem attempt_leaves
    (h : (writeAll (.files root marksPackages) entries).run w = (.error failure, after)) :
    (attempt root marksPackages entries w).Leaves after.disk := by
  rw [writeAll_files, run_bind] at h
  rcases attempt_cases root marksPackages entries w with ⟨_, opened, hopen, hattempt⟩ |
      ⟨opened, hopen, ⟨written, blocked, stop, full, hstage, hstop, -, hstaged, hblocked, hattempt⟩ |
        ⟨full, hstage, hstaged, hattempt⟩⟩
  · rw [hopen] at h
    cases h
    rw [hattempt]
    exact ⟨.refl _, fun p => by simp [newest]⟩
  · rw [hopen] at h
    obtain ⟨stop', disk, hrun, hafter⟩ := writeFiles_error h
    rw [stageAndReplace, run_bind, hstage] at hrun
    cases hrun
    rw [hattempt, hafter, hstop]
    exact leaves_of_blocked hstaged hblocked
  · rw [hopen] at h
    obtain ⟨stop, disk, hrun, hafter⟩ := writeFiles_error h
    rw [stageAndReplace, run_bind, hstage] at hrun
    rw [hattempt, hafter]
    exact leaves_of_stopped hstaged hrun

theorem opened_grows (root : Path) (marksPackages : Bool) (entries : List (Slot × String))
    (w : Workspace) : w.disk.Grows (attempt root marksPackages entries w).opened := by
  have hgrows := openAll_grows root marksPackages entries w
  rcases attempt_cases root marksPackages entries w with ⟨_, opened, hopen, hattempt⟩ |
      ⟨opened, hopen, ⟨_, _, _, _, -, -, -, -, -, hattempt⟩ | ⟨_, -, -, hattempt⟩⟩ <;>
  · rw [hopen] at hgrows
    rw [hattempt]
    exact hgrows

theorem resolve_of_replaced (h : (attempt root marksPackages entries w).replaced ≠ [])
    {entry : Slot × String} (hentry : entry ∈ entries) :
    (attempt root marksPackages entries w).opened.resolve (entry.1.target root) =
      .ok (place (entry.1.target root)) := by
  rcases attempt_cases root marksPackages entries w with ⟨_, _, -, hattempt⟩ |
      ⟨_, -, ⟨_, _, _, _, -, -, -, -, -, hattempt⟩ | ⟨full, -, hstaged, hattempt⟩⟩
  · rw [hattempt] at h
    exact absurd rfl h
  · rw [hattempt] at h
    exact absurd rfl h
  · rw [hattempt]
    have hmem : staging (entry.1.target root) ∈ (targets root entries).map (staging ·.1) := by
      rw [targets, List.map_map]
      exact List.mem_map_of_mem hentry
    have hwritable := hstaged.same.writable_iff.mpr (hstaged.writable _ hmem)
    exact Disk.resolve_of_sibling hwritable.1

/-- Whether a failing call leaves what a path leads to as it was before: no file was staged there, or
nothing was there; what was put there is what was there; and nothing is there for the first time. -/
def Attempt.Spares (attempt : Attempt) (before : Disk) (path : Path) : Prop :=
  if place path ∈ attempt.staged.map place then before.find? path = none
  else match newest attempt.replaced (place path) with
    | some node => before.find? path = some node
    | none => before.find? path ≠ none ∨ attempt.opened.find? path = none

theorem Attempt.Leaves.find?_eq_iff {attempt : Attempt} {before after : Disk} {path : Path}
    (h : attempt.Leaves after) (hgrows : before.Grows attempt.opened)
    (hresolve : attempt.replaced ≠ [] → attempt.opened.resolve path = .ok (place path)) :
    after.find? path = before.find? path ↔ attempt.Spares before path := by
  have hat := h.at_eq (place path)
  rw [Attempt.Spares]
  split
  · next hstaged =>
    rw [if_pos hstaged] at hat
    have hnone : after.find? path = none := by
      rw [Option.eq_none_iff_forall_ne_some]
      intro node hnode
      rw [Disk.find?_eq_some, hat] at hnode
      cases hnode.2
    rw [hnone]
    exact eq_comm
  · next hstaged =>
    rw [if_neg hstaged] at hat
    split
    · next node hnode =>
      rw [hnode] at hat
      have hne : attempt.replaced ≠ [] := by
        intro hnil
        rw [hnil] at hnode
        cases hnode
      have hfind : after.find? path = some node :=
        Disk.find?_eq_some.mpr ⟨h.same.resolve_iff.mp (hresolve hne), hat⟩
      rw [hfind]
      exact eq_comm
    · next hnone =>
      rw [hnone] at hat
      have hfind : after.find? path = attempt.opened.find? path :=
        (h.same.find?_congr hat.symm).symm
      rw [hfind]
      cases hbefore : before.find? path with
      | none => simp
      | some node => simp [hgrows.find? hbefore]

/-- A call that fails leaves all its targets as they were exactly where it spares each of them. -/
theorem failed_writeAll_keeps_iff
    (h : (writeAll (.files root marksPackages) entries).run w = (.error failure, after)) :
    (∀ entry ∈ entries,
        after.disk.find? (entry.1.target root) = w.disk.find? (entry.1.target root)) ↔
      ∀ entry ∈ entries,
        (attempt root marksPackages entries w).Spares w.disk (entry.1.target root) := by
  have hleaves := attempt_leaves h
  have hgrows := opened_grows root marksPackages entries w
  apply forall₂_congr
  intro entry hentry
  exact hleaves.find?_eq_iff hgrows fun hne => resolve_of_replaced hne hentry

theorem failed_writeAll_keeps_without_directory :
    let disk : Disk := ⟨[(["out"], .directory), (["out", "tests"], .file [])]⟩
    let entries : List (Slot × String) :=
      [(⟨["cat"], "nodes.py"⟩, "NODES = 1\n"),
        (⟨["tests", "api", "cat"], "test_nodes.py"⟩, "TEST = 1\n")]
    ∃ failure after, (writeAll (.files ["out"] true) entries).run (.ofDisk disk) =
        (.error failure, after) ∧
      (∀ entry ∈ entries, (attempt ["out"] true entries (.ofDisk disk)).Spares disk
        (entry.1.target ["out"])) ∧
      ∀ entry ∈ entries,
        after.disk.find? (entry.1.target ["out"]) = disk.find? (entry.1.target ["out"]) := by
  intro disk entries
  obtain ⟨failure, hrun⟩ := run_of_isOk_eq_false
    (by decide +kernel : ((writeAll (.files ["out"] true) entries).run (.ofDisk disk)).1.isOk = false)
  have hkept : ∀ entry ∈ entries,
      ((writeAll (.files ["out"] true) entries).run (.ofDisk disk)).2.disk.find?
        (entry.1.target ["out"]) = disk.find? (entry.1.target ["out"]) := by
    decide +kernel
  clear_value disk entries
  exact ⟨_, _, hrun, (failed_writeAll_keeps_iff hrun).mp hkept, hkept⟩

theorem failed_writeAll_leaves_target :
    let disk : Disk := ⟨[(["out"], .directory), (["out", "b.py"], .directory)]⟩
    ∃ failure after, (writeAll (.files ["out"] true)
          [(⟨[], "a.py"⟩, "A = 1\n"), (⟨[], "b.py"⟩, "B = 1\n")]).run (.ofDisk disk) =
        (.error failure, after) ∧
      disk.find? (Slot.target ["out"] ⟨[], "a.py"⟩) = none ∧
      after.disk.find? (Slot.target ["out"] ⟨[], "a.py"⟩) =
        some (.file (Text.Utf8.encode "A = 1\n".toList)) := by
  intro disk
  obtain ⟨failure, hrun⟩ := run_of_isOk_eq_false
    (by decide +kernel : ((writeAll (.files ["out"] true)
      [(⟨[], "a.py"⟩, "A = 1\n"), (⟨[], "b.py"⟩, "B = 1\n")]).run (.ofDisk disk)).1.isOk = false)
  exact ⟨failure, _, hrun, by decide +kernel, by decide +kernel⟩

structure Apart (root : Path) (entries : List (Slot × String)) : Prop where
  nodup : ((targets root entries).map fun entry => place (staging entry.1)).Nodup
  disjoint : ∀ a ∈ targets root entries, ∀ b ∈ targets root entries, place a.1 ≠ place (staging b.1)

theorem Apart.not_mem_staged (h : Apart root entries) {entry : Slot × String} (hentry : entry ∈ entries) :
    place (entry.1.target root) ∉ (attempt root marksPackages entries w).staged.map place := by
  have htarget : (entry.1.target root, entry.2) ∈ targets root entries := List.mem_map_of_mem hentry
  have hstaged : (attempt root marksPackages entries w).staged ⊆
      (targets root entries).map (staging ·.1) := by
    rcases attempt_cases root marksPackages entries w with ⟨_, _, -, hattempt⟩ |
        ⟨_, -, ⟨_, _, _, _, -, -, hsub, -, -, hattempt⟩ | ⟨_, -, -, hattempt⟩⟩
    · rw [hattempt]
      exact List.nil_subset _
    · rw [hattempt]
      exact hsub
    · rw [hattempt]
      exact List.Subset.refl _
  intro hmem
  obtain ⟨file, hfile, hplace⟩ := List.mem_map.mp hmem
  obtain ⟨other, hother, rfl⟩ := List.mem_map.mp (hstaged hfile)
  exact h.disjoint _ htarget other hother hplace.symm

theorem Apart.replaced_eq (h : Apart root entries) (marksPackages : Bool) (w : Workspace) :
    (attempt root marksPackages entries w).replaced = [] ∨
      (attempt root marksPackages entries w).replaced =
        ((targets root entries).takeWhile fun entry =>
          replaceable (attempt root marksPackages entries w).opened entry.1).map fun entry =>
            (entry.1, .file (Text.Utf8.encode entry.2.toList)) := by
  rcases attempt_cases root marksPackages entries w with ⟨_, _, -, hattempt⟩ |
      ⟨_, -, ⟨_, _, _, _, -, -, -, -, -, hattempt⟩ | ⟨full, hstage, hstaged, hattempt⟩⟩
  · exact .inl (by rw [hattempt])
  · exact .inl (by rw [hattempt])
  · right
    rw [hattempt, replaceable_congr hstaged.same]
    apply replaced_eq_takeWhile _ h.nodup h.disjoint
    intro entry hentry
    exact content_of_stage hstage h.nodup hentry

theorem replaced_length_lt
    (h : (writeAll (.files root marksPackages) entries).run w = (.error failure, after))
    (hne : (attempt root marksPackages entries w).replaced ≠ []) :
    (attempt root marksPackages entries w).replaced.length < entries.length := by
  rw [writeAll_files, run_bind] at h
  rcases attempt_cases root marksPackages entries w with ⟨_, _, -, hattempt⟩ |
      ⟨opened, hopen, ⟨_, _, _, _, -, -, -, -, -, hattempt⟩ | ⟨full, hstage, hstaged, hattempt⟩⟩
  · exact absurd (by rw [hattempt]) hne
  · exact absurd (by rw [hattempt]) hne
  · rw [hopen] at h
    obtain ⟨stop, disk, hrun, -⟩ := writeFiles_error h
    rw [stageAndReplace, run_bind, hstage] at hrun
    obtain ⟨result, last, hreplace, hstopped, -⟩ :=
      run_replace ((targets root entries).map (staging ·.1)) hstaged.writable_targets
    dsimp only at hrun
    rw [hreplace] at hrun
    cases hrun
    rw [hattempt]
    simpa [targets] using (hstopped _ rfl).2

theorem failed_writeAll_keeps_of_apart (hapart : Apart root entries)
    (h : (writeAll (.files root marksPackages) entries).run w = (.error failure, after))
    (hreplaceable : ∀ entry ∈ entries,
      replaceable (attempt root marksPackages entries w).opened (entry.1.target root) = true)
    (hmade : ∀ entry ∈ entries, w.disk.find? (entry.1.target root) = none →
      (attempt root marksPackages entries w).opened.find? (entry.1.target root) = none) :
    ∀ entry ∈ entries, after.disk.find? (entry.1.target root) = w.disk.find? (entry.1.target root) := by
  have hreplaced : (attempt root marksPackages entries w).replaced = [] := by
    by_contra hne
    have hless := replaced_length_lt h hne
    rcases hapart.replaced_eq marksPackages w with hnil | hall
    · exact hne hnil
    · have htake : ((targets root entries).takeWhile fun entry =>
          replaceable (attempt root marksPackages entries w).opened entry.1) = targets root entries := by
        rw [List.takeWhile_eq_self_iff]
        intro target htarget
        obtain ⟨entry, hentry, rfl⟩ := List.mem_map.mp htarget
        exact hreplaceable entry hentry
      rw [hall, htake, List.length_map, targets, List.length_map] at hless
      exact absurd hless (Nat.lt_irrefl _)
  apply (failed_writeAll_keeps_iff h).mpr
  intro entry hentry
  rw [Attempt.Spares, if_neg (hapart.not_mem_staged hentry), hreplaced]
  exact (Classical.em _).symm.imp_right (hmade entry hentry)

end ClientForge.Output
