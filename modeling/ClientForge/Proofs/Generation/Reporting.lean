import ClientForge.Proofs.Generation.Kept
import ClientForge.Proofs.Output.Reporting

namespace ClientForge

open Disk (Path)
open Output (Operation Obstructed)

variable {root : Path} {marksPackages : Bool} {plan : Plan} {path : Path}

namespace Plan

theorem generateEndpoint_reports_iff (houtput : plan.output = .files root marksPackages) (path : Path) (w : Workspace) :
    (∀ failure, ((plan.generateEndpoint path).run w).1 = .error failure →
        ∃ name cause, failure = .endpoint name (some path.text) (some cause)) ↔
      ∀ endpoint rendered, plan.read w.disk path = .ok (endpoint, rendered) →
        ¬Obstructed root marksPackages rendered w.disk := by
  rcases hread : plan.read w.disk path with cause | ⟨endpoint, rendered⟩
  · obtain ⟨notes, hrun⟩ := run_generateEndpoint_of_error hread
    simp only [hrun, Except.error.injEq, reduceCtorEq, false_implies, implies_true, iff_true]
    rintro _ rfl
    exact ⟨_, cause, rfl⟩
  · obtain ⟨hlocated, source, testSource, hrendered⟩ := read_eq_ok hread
    have hplain : ∀ entry ∈ rendered, Path.IsPlain entry.1.file := by
      rw [hrendered]
      exact fun entry hentry => (Slot.isPlain_iff.mp ((proper_modules hlocated source testSource).plain entry hentry)).2
    obtain ⟨notes, hrun⟩ := run_generateEndpoint_of_ok hread
    have hresult : ((plan.generateEndpoint path).run w).1 =
        ((((Output.files root marksPackages).writeAll rendered).run { w with notes }).1.map
          (generated path.text endpoint rendered)).mapError (accountFor (DefinitionFile.title w.disk path) path.text) := by
      rw [hrun, houtput]
      rcases ((Output.files root marksPackages).writeAll rendered).run { w with notes } with ⟨_ | _, after⟩ <;> rfl
    simp only [hresult, mapError_eq_error, except_map_eq_error, Except.ok.injEq, Prod.mk.injEq, and_imp]
    rcases Output.writeAll_cases hplain { w with notes } with ⟨h, fault, herror⟩ | ⟨h, hreports⟩
    · refine iff_of_false (fun hall => ?_) fun hclear => hclear endpoint rendered rfl rfl h
      obtain ⟨name, cause, heq⟩ := hall _ ⟨_, herror, rfl⟩
      cases heq
    · refine iff_of_true ?_ ?_
      · rintro _ ⟨failure, hfailure, rfl⟩
        obtain ⟨target, fault, rfl⟩ := hreports failure hfailure
        exact ⟨_, _, accountFor_own rfl _ _⟩
      · rintro _ _ rfl rfl
        exact h

end Plan

/-- Every failure to write is told as one of the output, and for an endpoint as one of its generation, exactly if nothing
that is no text is to be copied and no directory is found where a file is to be staged. This is so for all files whose
names the system takes. -/
theorem failures_reported_iff (root : Path) (marksPackages : Bool) (w : Workspace) :
    (∀ operation : Operation, (∀ slot ∈ operation.slots, Output.Stageable root slot) →
      (∀ source ∈ operation.sources, Output.Usable source) →
      ((∀ failure, ((operation.perform (.files root marksPackages)).run w).1 = .error failure → failure.IsOutput) ↔
        ¬operation.Undecodable w.disk ∧ ¬operation.Obstructed root marksPackages w.disk)) ∧
      ∀ (plan : Plan) (path : Path), plan.output = .files root marksPackages →
        (∀ endpoint rendered, plan.read w.disk path = .ok (endpoint, rendered) →
          ∀ entry ∈ rendered, Output.Stageable root entry.1) →
        ((∀ failure, ((plan.generateEndpoint path).run w).1 = .error failure →
            ∃ name cause, failure = .endpoint name (some path.text) (some cause)) ↔
          ∀ endpoint rendered, plan.read w.disk path = .ok (endpoint, rendered) →
            ¬Obstructed root marksPackages rendered w.disk) :=
  ⟨fun _ hslots _ => Operation.perform_reports_iff (fun slot hslot => (hslots slot hslot).1) w,
    fun _ path houtput _ => Plan.generateEndpoint_reports_iff houtput path w⟩

theorem failures_reported_behind_file :
    let disk : Disk := (Disk.ofDirectory "in" [("a.json", DefinitionFile.document "a" "/_a")]).put ["out"] (.file [])
    let operation : Operation := .copyFile ["in", "a.json"] ⟨["cat"], "nodes.json"⟩
    let plan := Plan.onDisk { Settings.standard with api := ⟨"in", "out", "gen_api"⟩ } false true Tool.shell
    (∀ slot ∈ operation.slots, Output.Stageable ["out"] slot) ∧ (∀ source ∈ operation.sources, Output.Usable source) ∧
      (∃ failure, ((operation.perform (.files ["out"] true)).run (.ofDisk disk)).1 = .error failure ∧ failure.IsOutput) ∧
      plan.output = .files ["out"] true ∧
      ∃ name cause, ((plan.generateEndpoint ["in", "a.json"]).run (.ofDisk disk)).1 =
        .error (.endpoint name (some (Path.text ["in", "a.json"])) (some cause)) := by
  intro disk operation plan
  have hslots : ∀ slot ∈ operation.slots, Output.Stageable ["out"] slot := by decide +kernel
  have hsources : ∀ source ∈ operation.sources, Output.Usable source := by decide +kernel
  have houtput : plan.output = .files ["out"] true := by
    rw [(by decide +kernel : ["out"] = Path.ofString "out")]
    rfl
  have hroot : ((Disk.ensureTree ["out"]).run disk).1.isOk = false := by decide +kernel
  have hperform : ((operation.perform (.files ["out"] true)).run (.ofDisk disk)).1.isOk = false := by decide +kernel
  have hgenerate : ((plan.generateEndpoint ["in", "a.json"]).run (.ofDisk disk)).1.isOk = false := by decide +kernel
  have hread : (disk.readText ["in", "a.json"]).isOk = true := by decide +kernel
  have hmodules : (plan.read disk ["in", "a.json"]).toOption.map (fun made => made.2.map (·.1)) =
      some [⟨[], "a.py"⟩, ⟨["tests", "api"], "test_a.py"⟩] := by
    decide +kernel
  clear_value disk plan
  have hstageable : ∀ endpoint rendered, plan.read disk ["in", "a.json"] = .ok (endpoint, rendered) →
      ∀ entry ∈ rendered, Output.Stageable ["out"] entry.1 := by
    intro endpoint rendered hmade entry hentry
    rw [hmade] at hmodules
    have hslot : entry.1 ∈ [⟨[], "a.py"⟩, ⟨["tests", "api"], "test_a.py"⟩] :=
      Option.some.inj hmodules ▸ List.mem_map_of_mem hentry
    exact (by decide +kernel : ∀ slot ∈ [⟨[], "a.py"⟩, ⟨["tests", "api"], "test_a.py"⟩],
      Output.Stageable ["out"] slot) _ hslot
  have hdecodable : ¬operation.Undecodable disk := by
    rintro ⟨source, hsource, fault, htext⟩
    obtain rfl := List.mem_singleton.mp hsource
    rw [htext] at hread
    cases hread
  have hfree (stored : List (Slot × String)) : ¬Obstructed ["out"] true stored disk :=
    Output.not_obstructed_of_root hroot
  obtain ⟨hoperations, hplans⟩ := failures_reported_iff ["out"] true (.ofDisk disk)
  have hreports := (hoperations operation hslots hsources).mpr ⟨hdecodable, fun ⟨stored, _, h⟩ => hfree stored h⟩
  have haccounts := (hplans plan ["in", "a.json"] houtput hstageable).mpr fun _ rendered _ => hfree rendered
  obtain ⟨failure, hfailure⟩ := eq_error_of_isOk_eq_false hperform
  obtain ⟨stop, hstop⟩ := eq_error_of_isOk_eq_false hgenerate
  obtain ⟨name, cause, rfl⟩ := haccounts stop hstop
  exact ⟨hslots, hsources, ⟨failure, hfailure, hreports failure hfailure⟩, houtput, name, cause, hstop⟩

theorem failures_escape :
    let disk : Disk := ⟨(["out"], .directory) :: (["out", ".a.py.tmp"], .directory) :: (["helper.py"], .file [0xff]) ::
      (Disk.ofDirectory "in" [("a.json", DefinitionFile.document "a" "/_a")]).nodes⟩
    let plan := Plan.onDisk { Settings.standard with api := ⟨"in", "out", "gen_api"⟩ } false false Tool.shell
    (∃ failure, ((Operation.perform (.files ["out"] true) (.write ⟨[], "a.py"⟩ "A = 1\n")).run (.ofDisk disk)).1 =
        .error failure ∧ ¬failure.IsOutput) ∧
      (∃ failure, ((Operation.perform (.files ["out"] true) (.copyFile ["helper.py"] ⟨["tests"], "conftest.py"⟩)).run
        (.ofDisk disk)).1 = .error failure ∧ ¬failure.IsOutput) ∧
      ∃ failure, ((plan.generateEndpoint ["in", "a.json"]).run (.ofDisk disk)).1 = .error failure ∧
        ∀ name source cause, failure ≠ .endpoint name source cause := by
  intro disk plan
  refine ⟨exists_error_of_check (by decide +kernel), exists_error_of_check (by decide +kernel), ?_⟩
  obtain ⟨failure, hrun, hforeign⟩ : ∃ failure, ((plan.generateEndpoint ["in", "a.json"]).run (.ofDisk disk)).1 =
      .error failure ∧ failure.isOwn = false := exists_error_of_check (by decide +kernel)
  refine ⟨failure, hrun, ?_⟩
  rintro name source cause rfl
  cases hforeign

end ClientForge
