import ClientForge.Proofs.Generation.Steps

namespace ClientForge.Plan

open Disk (Path)

variable {plan : Plan} {disk : Disk}

/-- A definition that cannot be loaded, resolved, rendered or read again as code stops the run: all but the
log is as the files before left it, and what is reported names the file and the cause. -/
theorem run_stops_at_bad_definition {earlier later : List Path} {bad : Path} {cause : Failure} {reached : Progress}
    (hlist : DefinitionFile.list disk (Path.ofString plan.surface.input) = .ok (earlier ++ bad :: later))
    (hearlier : (earlier.forM plan.generateOne).run (plan.begin disk (earlier ++ bad :: later)) = (.ok (), reached))
    (hbad : plan.read reached.workspace.disk bad = .error cause) :
    reached.generated.map (·.source) = earlier.map Path.text ∧
      ∃ notes, plan.run disk =
        (.error (.endpoint (DefinitionFile.title reached.workspace.disk bad) (some bad.text) (some cause)),
          { reached with workspace := { reached.workspace with notes } }) := by
  refine ⟨sources_of_generateOne hearlier, ?_⟩
  obtain ⟨notes, hstop⟩ := run_generateOne_of_error hbad
  have hfiles : ((earlier ++ bad :: later).forM plan.generateOne).run (plan.begin disk (earlier ++ bad :: later)) =
      (.error (.endpoint (DefinitionFile.title reached.workspace.disk bad) (some bad.text) (some cause)),
        { reached with workspace := { reached.workspace with notes } }) := by
    rw [run_forM_append hearlier, run_forM_cons, hstop]
  exact ⟨notes, by rw [run_eq hlist, generateAll, run_bind_error hfiles]⟩

theorem run_stops_at_second_definition :
    let disk := Disk.ofDirectory "in" [("a.json", DefinitionFile.document "a" "/a"), ("b.json", "[]")]
    let plan := onDisk { Settings.standard with api := ⟨"in", "out", ""⟩ } false true Tool.shell
    ∃ (reached : Progress) (cause : Failure) (notes : List Note), reached.generated.map (·.source) = ["in/a.json"] ∧
      reached.workspace.written = ["out/a.py", "out/tests/api/test_a.py"] ∧
      plan.run disk = (.error (.endpoint "b" (some "in/b.json") (some cause)),
        { reached with workspace := { reached.workspace with notes } }) := by
  intro disk plan
  have hlist : DefinitionFile.list disk (Path.ofString plan.surface.input) =
      .ok ([["in", "a.json"]] ++ ["in", "b.json"] :: []) := by
    rw [(by decide +kernel : Path.ofString plan.surface.input = ["in"])]
    exact DefinitionFile.list_pair _ _
  have hcheck : (([["in", "a.json"]].forM plan.generateOne).run
        (plan.begin disk ([["in", "a.json"]] ++ ["in", "b.json"] :: []))).map Except.isOk (fun reached =>
          (reached.workspace.written, DefinitionFile.title reached.workspace.disk ["in", "b.json"],
            (plan.read reached.workspace.disk ["in", "b.json"]).isOk)) =
      (true, ["out/a.py", "out/tests/api/test_a.py"], "b", false) := by
    decide +kernel
  clear_value disk plan
  obtain ⟨_, reached, hearlier, hview⟩ := ok_of_check hcheck
  simp only [Prod.mk.injEq] at hview
  obtain ⟨hwritten, htitle, hread⟩ := hview
  obtain ⟨cause, hcause⟩ := eq_error_of_isOk_eq_false hread
  obtain ⟨hsources, notes, hrun⟩ := run_stops_at_bad_definition hlist hearlier hcause
  rw [htitle] at hrun
  exact ⟨reached, cause, notes, hsources, hwritten, hrun⟩

end ClientForge.Plan
