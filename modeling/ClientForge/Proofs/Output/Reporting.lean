import ClientForge.Proofs.Output.DryRun
import ClientForge.Proofs.Output.Reopening

namespace ClientForge

open Disk (Path place Writable SameDirectories)

def Failure.IsOutput (failure : Failure) : Prop :=
  ∃ path fault, failure = .output path (some (.disk fault))

instance (failure : Failure) : Decidable failure.IsOutput :=
  decidable_of_iff ((match failure with | .output _ (some (.disk _)) => true | _ => false) = true) (by
    constructor
    · intro h
      split at h
      · exact ⟨_, _, rfl⟩
      · cases h
    · rintro ⟨path, fault, rfl⟩
      rfl)

namespace Disk

variable {disk : Disk} {path : Path}

theorem resolve_inside (h : disk.isDirectory path = true) (name : String) :
    disk.resolve (path ++ [name]) = .ok (place (path ++ [name])) := by
  obtain ⟨hresolve, hat⟩ := find?_eq_some.mp (isDirectory_iff.mp h)
  have hinside : ∃ q, disk.resolve (path ++ [name]) = .ok q := by
    rw [resolve, resolveFrom_append, ← resolve, hresolve]
    change ∃ q, disk.resolveFrom (place path) [name] = .ok q
    rw [resolveFrom, hat]
    dsimp only
    split <;> exact ⟨_, rfl⟩
  obtain ⟨q, hq⟩ := hinside
  rw [hq, resolve_eq_ok hq]

theorem run_unlink_of_isDirectory (h : disk.isDirectory path = true) :
    (unlink path).run disk = (.error ⟨.isDirectory, path, none⟩, disk) := by
  obtain ⟨hresolve, hat⟩ := find?_eq_some.mp (isDirectory_iff.mp h)
  rw [unlink, run_ofExcept, hresolve]
  simp [hat]

end Disk

namespace Output

variable {disk : Disk} {root : Path} {marksPackages : Bool} {slot : Slot} {entries : List (Slot × String)}
  {names : List String} {failure : Failure} {w after : Workspace}

theorem onDisk_error {α ε : Type} {asFailure : ε → Failure} {step : ExceptT ε (StateM Disk) α}
    (h : (Work.onDisk asFailure step).run w = (.error failure, after)) : ∃ fault, failure = asFailure fault := by
  rw [Work.run_onDisk] at h
  rcases hstep : step.run w.disk with ⟨fault | b, next⟩
  · rw [hstep] at h
    cases h
    exact ⟨fault, rfl⟩
  · rw [hstep] at h
    cases h

theorem isOutput_outputFailure (path : Path) (fault : Disk.Fault) : (outputFailure path fault).IsOutput :=
  ⟨path.text, fault, rfl⟩

theorem descend_error {directory : Path} {segments : List String}
    (h : (descend marksPackages directory segments).run w = (.error failure, after)) : failure.IsOutput := by
  induction segments generalizing directory w with
  | nil => cases h
  | cons segment rest ih =>
    rw [descend_cons] at h
    rcases run_bind_eq_error.mp h with hfirst | ⟨_, middle, -, hrest⟩
    · obtain ⟨fault, rfl⟩ := onDisk_error hfirst
      exact isOutput_outputFailure _ fault
    · exact ih hrest

theorem openDirectory_error {segments : List String}
    (h : (openDirectory root marksPackages segments).run w = (.error failure, after)) : failure.IsOutput := by
  rcases run_bind_eq_error.mp h with hroot | ⟨_, middle, -, hrest⟩
  · obtain ⟨fault, rfl⟩ := onDisk_error hroot
    exact isOutput_outputFailure root fault
  · exact descend_error hrest

theorem openAll_error (h : (openAll root marksPackages entries).run w = (.error failure, after)) : failure.IsOutput := by
  induction entries generalizing w with
  | nil => cases h
  | cons entry rest ih =>
    rw [openAll_cons] at h
    rcases run_bind_eq_error.mp h with hfirst | ⟨_, middle, -, h⟩
    · exact openDirectory_error hfirst
    rcases run_bind_eq_error.mp h with hrest | ⟨_, last, -, h⟩
    · exact ih hrest
    · cases h

theorem Opened.directory (h : Opened root marksPackages slot disk) :
    disk.isDirectory (slot.directory.foldl Path.join root) = true := by
  by_cases hnil : slot.directory = []
  · rw [hnil]
    exact h.base
  · exact (h.descended _ hnil List.prefix_rfl).1

theorem staging_plain (h : Path.IsPlain slot.file) (root : Path) :
    staging (slot.target root) = slot.directory.foldl Path.join root ++ [slot.staged.file] := by
  rw [Slot.target, Path.join_plain _ h, staging, Path.sibling, Path.name, List.getLast?_concat, List.dropLast_concat]
  dsimp only
  rw [if_neg h.ne_slash]
  rfl

theorem not_writable_staging (hopened : Opened root marksPackages slot disk) (hplain : Path.IsPlain slot.file) :
    ¬Writable disk (staging (slot.target root)) ↔ disk.isDirectory (staging (slot.target root)) = true := by
  have hresolve : disk.resolve (staging (slot.target root)) = .ok (place (staging (slot.target root))) := by
    rw [staging_plain hplain]
    exact Disk.resolve_inside hopened.directory slot.staged.file
  rw [Disk.isDirectory_iff, Disk.find?_eq_some, Writable, not_and, Ne, not_not, and_iff_right hresolve]
  exact ⟨fun h => h hresolve, fun h _ => h⟩

theorem run_writeFiles_of_error {targets : List (Path × String)} {stop : Interruption}
    (h : (stageAndReplace targets).run w.disk = (.error stop, disk)) :
    ((writeFiles targets).run w).1 =
      match ((stop.staged.forM Disk.unlink).run disk).1 with
      | .ok () => .error (outputFailure stop.target stop.fault)
      | .error fault => .error (.disk fault) := by
  rw [writeFiles, run_bind_ok (run_get w), h]
  dsimp only
  rw [run_bind_ok (run_set _ _), run_bind, Work.run_onDisk]
  dsimp only
  cases ((stop.staged.forM Disk.unlink).run disk).1 <;> rfl

theorem writeFiles_reports {targets : List (Path × String)} {full : Disk}
    (hstage : (stage [] targets).run w.disk = (.ok (targets.map (staging ·.1)), full))
    (hstaged : Staged w.disk full (targets.map (staging ·.1)))
    (h : ((writeFiles targets).run w).1 = .error failure) : failure.IsOutput := by
  obtain ⟨result, disk, hreplace, hstop, hsame, -⟩ := run_replace (targets.map (staging ·.1)) hstaged.writable_targets
  have hrun : (stageAndReplace targets).run w.disk = (result, disk) := by
    rw [stageAndReplace, run_bind_ok hstage, hreplace]
  cases result with
  | ok _ =>
    rw [writeFiles, run_bind_ok (run_get w), hrun] at h
    cases h
  | error stop =>
    obtain ⟨cleared, hclear, -⟩ := run_clear_staged fun file hfile => hsame.writable_iff.mp (hstaged.writable file hfile)
    rw [run_writeFiles_of_error hrun, (hstop stop rfl).1, hclear] at h
    cases h
    exact isOutput_outputFailure stop.target stop.fault

theorem writeFiles_escapes {targets : List (Path × String)} {written : List Path} {blocked target : Path}
    {fault : Disk.Fault} {full : Disk}
    (hstage : (stage [] targets).run w.disk = (.error ⟨target, written ++ [blocked], fault⟩, full))
    (hstaged : Staged w.disk full written) (hblocked : w.disk.isDirectory blocked = true) :
    ((writeFiles targets).run w).1 = .error (.disk ⟨.isDirectory, blocked, none⟩) := by
  -- all that was staged before is cleared away, and then the directory is met
  obtain ⟨cleared, hclear, hsame, -⟩ := run_clear_staged hstaged.writable
  have hdirectory : cleared.isDirectory blocked = true :=
    Disk.KeepsDirectories.isDirectory (fun p => ((hstaged.same.trans hsame) p).mp) hblocked
  have hunlink : ((written ++ [blocked]).forM Disk.unlink).run full = (.error ⟨.isDirectory, blocked, none⟩, cleared) := by
    rw [run_forM_append hclear, run_forM_cons, Disk.run_unlink_of_isDirectory hdirectory]
  have hrun : (stageAndReplace targets).run w.disk = (.error ⟨target, written ++ [blocked], fault⟩, full) := by
    rw [stageAndReplace, run_bind_error hstage]
  rw [run_writeFiles_of_error hrun, hunlink]

theorem writeFiles_cases (hopened : ∀ entry ∈ entries, Opened root marksPackages entry.1 w.disk)
    (hplain : ∀ entry ∈ entries, Path.IsPlain entry.1.file) :
    (∃ entry ∈ entries, w.disk.isDirectory (staging (entry.1.target root)) = true) ∧
        (∃ fault, ((writeFiles (targets root entries)).run w).1 = .error (.disk fault)) ∨
      (¬∃ entry ∈ entries, w.disk.isDirectory (staging (entry.1.target root)) = true) ∧
        ∀ failure, ((writeFiles (targets root entries)).run w).1 = .error failure → failure.IsOutput := by
  rcases run_stage [] (targets root entries) w.disk with
    ⟨full, hstage, hstaged⟩ | ⟨written, blocked, target, fault, full, hstage, hsub, hstaged, hblocked⟩
  · refine .inr ⟨?_, fun failure => writeFiles_reports hstage hstaged⟩
    rintro ⟨entry, hentry, hdirectory⟩
    have hmem : (entry.1.target root, entry.2) ∈ targets root entries := List.mem_map_of_mem hentry
    apply (not_writable_staging (hopened entry hentry) (hplain entry hentry)).mpr hdirectory
    exact hstaged.same.writable_iff.mpr (hstaged.writable _ (List.mem_map_of_mem hmem))
  · obtain ⟨file, hfile, rfl⟩ := List.mem_map.mp (hsub (List.mem_append_right _ (List.mem_singleton_self _)))
    obtain ⟨entry, hentry, rfl⟩ := List.mem_map.mp hfile
    have hdirectory := (not_writable_staging (hopened entry hentry) (hplain entry hentry)).mp
      (mt hstaged.same.writable_iff.mp hblocked)
    exact .inl ⟨⟨entry, hentry, hdirectory⟩, _, writeFiles_escapes hstage hstaged hdirectory⟩

def Obstructed (root : Path) (marksPackages : Bool) (entries : List (Slot × String)) (disk : Disk) : Prop :=
  ∃ targets opened, (openAll root marksPackages entries).run (.ofDisk disk) = (.ok targets, opened) ∧
    ∃ entry ∈ entries, opened.disk.isDirectory (staging (entry.1.target root)) = true

theorem obstructed_iff : Obstructed root marksPackages entries w.disk ↔
    ∃ targets opened, (openAll root marksPackages entries).run w = (.ok targets, opened) ∧
      ∃ entry ∈ entries, opened.disk.isDirectory (staging (entry.1.target root)) = true := by
  obtain ⟨step, hstep⟩ := local_openAll root marksPackages entries
  simp only [Obstructed, hstep, Workspace.ofDisk]
  rcases step.run w.disk with ⟨result, next⟩
  constructor
  · rintro ⟨targets, opened, h, hentry⟩
    cases h
    exact ⟨targets, _, rfl, hentry⟩
  · rintro ⟨targets, opened, h, hentry⟩
    cases h
    exact ⟨targets, _, rfl, hentry⟩

theorem not_obstructed_of_root (h : ((Disk.ensureTree root).run disk).1.isOk = false) :
    ¬Obstructed root marksPackages entries disk := by
  rintro ⟨targets, opened, hrun, entry, hentry, -⟩
  cases entries with
  | nil => cases hentry
  | cons first rest =>
    rw [openAll_cons] at hrun
    obtain ⟨_, _, hfirst, -⟩ := run_bind_eq_ok.mp hrun
    obtain ⟨_, _, hroot, -⟩ := run_bind_eq_ok.mp hfirst
    have hensure := (onDisk_ok hroot).1
    rw [Workspace.ofDisk] at hensure
    rw [hensure] at h
    cases h

theorem writeAll_cases (hplain : ∀ entry ∈ entries, Path.IsPlain entry.1.file) (w : Workspace) :
    Obstructed root marksPackages entries w.disk ∧
        (∃ fault, ((writeAll (.files root marksPackages) entries).run w).1 = .error (.disk fault)) ∨
      ¬Obstructed root marksPackages entries w.disk ∧
        ∀ failure, ((writeAll (.files root marksPackages) entries).run w).1 = .error failure → failure.IsOutput := by
  rw [obstructed_iff, writeAll_files, run_bind]
  rcases hopen : (openAll root marksPackages entries).run w with ⟨cause | opening, opened⟩
  · refine .inr ⟨fun ⟨_, _, h, _⟩ => (by cases h), ?_⟩
    rintro failure ⟨⟩
    exact openAll_error hopen
  · obtain rfl : opening = targets root entries := openAll_eq_ok hopen
    refine (writeFiles_cases (openAll_ok hopen).1 hplain).imp ?_ ?_
    · exact And.imp_left fun h => ⟨_, opened, rfl, h⟩
    · refine And.imp_left fun h => ?_
      rintro ⟨_, _, heq, hentry⟩
      cases heq
      exact h hentry

/-- The system takes a path: no name in it has a null character or is too long, and neither is the path itself. -/
structure Usable (path : Path) : Prop where
  names : ∀ part ∈ path, '\x00' ∉ part.toList ∧ part.utf8ByteSize ≤ 255
  length : path.text.utf8ByteSize < 4096

instance (path : Path) : Decidable (Usable path) :=
  decidable_of_iff (_ ∧ _) ⟨fun h => ⟨h.1, h.2⟩, fun h => ⟨h.names, h.length⟩⟩

def Stageable (root : Path) (slot : Slot) : Prop :=
  Path.IsPlain slot.file ∧ Usable (staging (slot.target root))

instance (root : Path) (slot : Slot) : Decidable (Stageable root slot) :=
  inferInstanceAs (Decidable (_ ∧ _))

namespace Operation

variable {operation : Operation} {stored : List (Slot × String)}

def Undecodable (operation : Operation) (disk : Disk) : Prop :=
  ∃ source ∈ operation.sources, ∃ fault, disk.readText source = .error (.encoding fault)

def Obstructed (root : Path) (marksPackages : Bool) (operation : Operation) (disk : Disk) : Prop :=
  ∃ stored, operation.stores disk = .ok stored ∧ Output.Obstructed root marksPackages stored disk

theorem fst_run_perform {output : Output} (h : operation.stores w.disk = .ok stored) :
    ((operation.perform output).run w).1 = ((output.writeAll stored).run w).1.map fun _ => () := by
  have hwrite (slot : Slot) (content : String) : ((output.write slot content).run w).1.map (fun _ => ()) =
      ((output.writeAll [(slot, content)]).run w).1.map fun _ => () := by
    rw [Output.write, run_bind]
    rcases (output.writeAll [(slot, content)]).run w with ⟨_ | _, next⟩ <;> rfl
  cases operation with
  | write slot content =>
    cases h
    rw [perform, run_discard, hwrite]
  | writeAll entries =>
    cases h
    rw [perform, run_discard]
  | copyFile source slot =>
    obtain ⟨content, hread, rfl⟩ := except_map_eq_ok.mp h
    rw [perform, run_discard, Output.copyFile, run_bind_ok (run_get w), hread]
    exact hwrite slot content

theorem not_undecodable (h : operation.stores disk = .ok stored) : ¬operation.Undecodable disk := by
  rintro ⟨source, hsource, fault, hread⟩
  cases operation with
  | copyFile source' slot =>
    obtain rfl := List.mem_singleton.mp hsource
    obtain ⟨content, hcontent, -⟩ := except_map_eq_ok.mp h
    rw [hcontent] at hread
    cases hread
  | _ => cases hsource

theorem perform_reports_iff (hplain : ∀ slot ∈ operation.slots, Path.IsPlain slot.file) (w : Workspace) :
    (∀ failure, ((operation.perform (.files root marksPackages)).run w).1 = .error failure → failure.IsOutput) ↔
      ¬operation.Undecodable w.disk ∧ ¬operation.Obstructed root marksPackages w.disk := by
  rw [Obstructed]
  cases hstores : operation.stores w.disk with
  | ok stored =>
    have hfiles : ∀ entry ∈ stored, Path.IsPlain entry.1.file :=
      fun entry hentry => hplain _ (slots_of_stores hstores ▸ List.mem_map_of_mem hentry)
    simp only [Except.ok.injEq, exists_eq_left', not_undecodable hstores, not_false_eq_true, true_and,
      fst_run_perform hstores, except_map_eq_error]
    rcases writeAll_cases hfiles w with ⟨h, fault, herror⟩ | ⟨h, hreports⟩
    · refine iff_of_false (fun hall => ?_) (not_not.mpr h)
      obtain ⟨_, _, heq⟩ := hall _ herror
      cases heq
    · exact iff_of_true hreports h
  | error failure =>
    simp only [reduceCtorEq, false_and, exists_false, not_false_eq_true, and_true]
    cases operation with
    | write slot content => cases hstores
    | writeAll entries => cases hstores
    | copyFile source slot =>
      have hread := except_map_eq_error.mp hstores
      simp only [Undecodable, sources, List.mem_singleton, exists_eq_left, hread, perform, run_discard, Output.copyFile,
        run_bind_ok (run_get w)]
      rcases Disk.readText_eq_error hread with ⟨fault, rfl⟩ | ⟨fault, rfl⟩
      · refine iff_of_true ?_ ?_
        · rintro failure ⟨⟩
          exact isOutput_outputFailure source fault
        · rintro ⟨_, h⟩
          cases h
      · refine iff_of_false (fun hall => ?_) (not_not.mpr ⟨fault, rfl⟩)
        obtain ⟨_, _, heq⟩ := hall _ rfl
        cases heq

end Operation

end Output

end ClientForge
