import ClientForge.Proofs.Endpoint.Testable
import ClientForge.Proofs.Generation.Kept

namespace ClientForge.Plan

open Disk (Path)

def inMemory (settings : Settings) (extended withTests : Bool) : Plan :=
  { settings, extended, withTests, output := .memory, tool := fun _ _ => none }

variable {plan : Plan} {settings : Settings} {extended : Bool} {endpoint : Endpoint} {path : Path}
  {code test : List Code.Stmt} {w after : Workspace}

theorem source_of_valid (h : Code.isValid code = true) (name : String) :
    Code.source code name = .ok (Code.print code) :=
  if_pos h

theorem render_without_tests (htests : plan.withTests = false) {rendered : List (Slot × String)}
    (h : plan.render endpoint = .ok rendered) :
    ∃ code, endpoint.moduleCode = .ok code ∧ Code.isValid code = true ∧
      rendered = [(endpoint.slot, Code.print code)] := by
  obtain ⟨code, hcode, h⟩ := bind_eq_ok.mp h
  obtain ⟨source, hsource, h⟩ := bind_eq_ok.mp h
  rw [htests, if_neg Bool.false_ne_true] at h
  cases h
  rw [Code.source] at hsource
  split at hsource
  · next hvalid =>
    cases hsource
    exact ⟨code, mapError_eq_ok.mp hcode, hvalid, rfl⟩
  · cases hsource

theorem render_with_tests (htests : plan.withTests = true) (hcode : endpoint.moduleCode = .ok code)
    (hvalid : Code.isValid code = true) (htest : endpoint.testCode = .ok test) :
    plan.render endpoint =
      if Code.isValid test then .ok [(endpoint.slot, Code.print code), (endpoint.testSlot, Code.print test)]
      else .error (.invalidCode ("test_" ++ endpoint.functionName)) := by
  rw [render, hcode]
  change (do
    let source ← Code.source code endpoint.functionName
    if plan.withTests then
      let testSource ← Code.source (← endpoint.testCode) ("test_" ++ endpoint.functionName)
      return [(endpoint.slot, source), (endpoint.testSlot, testSource)]
    else return [(endpoint.slot, source)] : Except Failure (List (Slot × String))) = _
  rw [source_of_valid hvalid, htest, htests]
  change (do
    let testSource ← Code.source test ("test_" ++ endpoint.functionName)
    return [(endpoint.slot, Code.print code), (endpoint.testSlot, testSource)] :
      Except Failure (List (Slot × String))) = _
  rw [Code.source]
  split <;> rfl

theorem run_generateEndpoint_inMemory {withTests : Bool} {rendered : List (Slot × String)}
    (h : (inMemory settings extended withTests).read w.disk path = .ok (endpoint, rendered)) :
    ∃ notes, ((inMemory settings extended withTests).generateEndpoint path).run w =
      (.ok (generated path.text endpoint rendered (rendered.map (·.1.key))),
        { w with notes, modules := Entries.putAll w.modules (Output.modulesOf rendered) }) := by
  obtain ⟨notes, hgenerate⟩ := run_generateEndpoint_of_written h
  exact ⟨notes, hgenerate _ _ (Output.run_writeAll_memory rendered _)⟩

/-- What has been generated without tests is generated with them just so, and beside it stands the module of
its tests, exactly if that can be read again; else nothing of it is kept. -/
theorem endpoint_same_with_tests {made : Generated}
    (h : ((inMemory settings extended false).generateEndpoint path).run w = (.ok made, after)) :
    ∃ source test, Entries.get? after.modules made.endpointFile = some source ∧
      made.endpoint.testCode = .ok test ∧
      (Code.isValid test = true → ∃ tested stored,
        ((inMemory settings extended true).generateEndpoint path).run w = (.ok tested, stored) ∧
        tested.endpoint = made.endpoint ∧ tested.endpointFile = made.endpointFile ∧
        stored.modules = Entries.put after.modules made.endpoint.testSlot.key (Code.print test) ∧
        Entries.get? stored.modules made.endpointFile = some source) ∧
      (Code.isValid test = false → ∃ notes,
        ((inMemory settings extended true).generateEndpoint path).run w =
          (.error (.endpoint made.endpoint.definition.name (some path.text)
            (some (.invalidCode ("test_" ++ made.endpoint.functionName)))), { w with notes })) ∧
      (made.endpoint.Testable → Code.isValid test = true) := by
  obtain ⟨endpoint, rendered, notes, names, hread, hwrite, rfl⟩ := generateEndpoint_ok h
  obtain ⟨definition, hload, hprepare⟩ := bind_eq_ok.mp hread
  obtain ⟨hresolve, hrender⟩ := prepare_eq_ok.mp hprepare
  obtain ⟨hlocated, -⟩ := read_eq_ok hread
  have hresolved := Endpoint.resolve_eq_ok.mp hresolve
  obtain ⟨code, hcode, hvalid, rfl⟩ := render_without_tests rfl hrender
  obtain ⟨-, -, -, -, samplePath, -, hpath⟩ := hresolved.samplePath_ok
  obtain ⟨test, htest, -⟩ := Endpoint.testCode_ok hpath
  have htested : (inMemory settings extended true).render endpoint = _ := render_with_tests rfl hcode hvalid htest
  rw [inMemory, Output.run_writeAll_memory] at hwrite
  cases hwrite
  refine ⟨Code.print code, test, Entries.get?_put_self _ _ _, htest, ?_, ?_, ?_⟩
  · intro hreadable
    rw [if_pos hreadable] at htested
    have hread : (inMemory settings extended true).read w.disk path =
        .ok (endpoint, [(endpoint.slot, Code.print code), (endpoint.testSlot, Code.print test)]) :=
      bind_eq_ok.mpr ⟨definition, hload, prepare_eq_ok.mpr ⟨hresolve, htested⟩⟩
    obtain ⟨others, hgenerate⟩ := run_generateEndpoint_inMemory hread
    have hkeys : endpoint.testSlot.key ≠ endpoint.slot.key := by
      intro hkey
      have hslots := Slot.key_injective hlocated.testSlot_plain.1 hlocated.slot_plain.1 hkey
      exact Slot.ofEndpoint_ne_ofTest _ _ hslots.symm
    refine ⟨_, _, hgenerate, rfl, rfl, rfl, ?_⟩
    exact (Entries.get?_put_of_ne _ _ hkeys).trans (Entries.get?_put_self _ _ _)
  · intro hunreadable
    rw [if_neg (by rw [hunreadable]; exact Bool.false_ne_true)] at htested
    have hstop : (inMemory settings extended true).read w.disk path =
        .error (.invalidCode ("test_" ++ endpoint.functionName)) := by
      rw [read, hload]
      exact prepare_eq_error.mpr (.inr ⟨endpoint, hresolve, htested⟩)
    obtain ⟨others, hgenerate⟩ := run_generateEndpoint_of_error hstop
    rw [DefinitionFile.title, hload] at hgenerate
    dsimp only at hgenerate
    rw [← hresolved.definition_eq] at hgenerate
    exact ⟨others, hgenerate⟩
  · intro htestable
    exact htestable.isValid_testCode hlocated hcode hvalid htest

theorem root_endpoint_same_with_tests :
    let w := Workspace.ofDisk (Disk.ofDirectory "in" [("a.json", DefinitionFile.document "a" "/\x7bindex\x7d")])
    let settings := { Settings.standard with api := ⟨"in", "out", "gen.api"⟩ }
    ∃ made after source tested stored,
      ((inMemory settings false false).generateEndpoint ["in", "a.json"]).run w = (.ok made, after) ∧
      Entries.get? after.modules "a.py" = some source ∧
      ((inMemory settings false true).generateEndpoint ["in", "a.json"]).run w = (.ok tested, stored) ∧
      Entries.get? stored.modules "a.py" = some source := by
  intro w settings
  have hcheck : (((inMemory settings false false).generateEndpoint ["in", "a.json"]).run w).1.toOption.map
        (fun made => (made.endpointFile, decide made.endpoint.Testable)) = some ("a.py", true) := by
    decide +kernel
  clear_value w settings
  rcases hrun : ((inMemory settings false false).generateEndpoint ["in", "a.json"]).run w with ⟨_ | made, after⟩
  · rw [hrun] at hcheck
    cases hcheck
  rw [hrun] at hcheck
  obtain ⟨hfile, htestable⟩ := Prod.mk.inj (Option.some.inj hcheck)
  obtain ⟨source, test, hsource, -, hreadable, -, hvalid⟩ := endpoint_same_with_tests hrun
  obtain ⟨tested, stored, htested, -, -, -, hstored⟩ := hreadable (hvalid (of_decide_eq_true htestable))
  rw [hfile] at hsource hstored
  exact ⟨made, after, source, tested, stored, rfl, hsource, htested, hstored⟩

theorem endpoint_lost_with_tests :
    let w := Workspace.ofDisk (Disk.ofDirectory "in" [("a.json", DefinitionFile.document "a" "/_a")])
    let settings := { Settings.standard with api := ⟨"in", "out", "gen-api"⟩ }
    ∃ made after failure stopped,
      ((inMemory settings false false).generateEndpoint ["in", "a.json"]).run w = (.ok made, after) ∧
      Entries.keys after.modules = ["a.py"] ∧
      ((inMemory settings false true).generateEndpoint ["in", "a.json"]).run w = (.error failure, stopped) ∧
      Entries.keys stopped.modules = [] := by
  intro w settings
  have hplain : (((inMemory settings false false).generateEndpoint ["in", "a.json"]).run w).map Except.isOk
      (fun after => Entries.keys after.modules) = (true, ["a.py"]) := by
    decide +kernel
  have htests : (((inMemory settings false true).generateEndpoint ["in", "a.json"]).run w).map Except.isOk
      (fun stopped => Entries.keys stopped.modules) = (false, []) := by
    decide +kernel
  clear_value w settings
  obtain ⟨made, after, hrun, hkept⟩ := ok_of_check hplain
  obtain ⟨failure, stopped, hstop, hnothing⟩ := error_of_check htests
  exact ⟨made, after, failure, stopped, hrun, hkept, hstop, hnothing⟩

end ClientForge.Plan
