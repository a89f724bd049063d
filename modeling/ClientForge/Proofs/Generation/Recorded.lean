import ClientForge.Proofs.Generation.Kept
import ClientForge.Proofs.ModuleTree
import Mathlib.Data.Finset.Card
import Mathlib.Data.Finset.Dedup

namespace ClientForge

open Disk (Path)

def Generated.place (generated : Generated) : List String × String :=
  (generated.endpoint.location.packageModules, generated.endpoint.functionName)

namespace Plan

variable {plan : Plan} {path : Path} {progress next : Progress} {w after : Workspace} {failure : Failure}

theorem mem_slots_recorded (hdistinct : progress.tree.Distinct) {endpointMade : Generated} {slot : Slot} :
    slot ∈ (plan.recorded progress endpointMade).tree.slots ↔
      slot ∈ progress.tree.slots ∨ slot ∈ plan.slots endpointMade.endpoint := by
  have hdistinct' := hdistinct.addEndpoint endpointMade.endpoint.location.packageModules
    endpointMade.endpoint.functionName
  have hslot : Slot.ofEndpoint endpointMade.endpoint.location.packageModules endpointMade.endpoint.functionName =
      endpointMade.endpoint.slot := rfl
  rw [recorded, slots]
  dsimp only
  cases plan.withTests with
  | false =>
    rw [if_neg Bool.false_ne_true, if_neg Bool.false_ne_true, hdistinct.mem_slots_addEndpoint, hslot,
      List.mem_singleton]
  | true =>
    rw [if_pos rfl, if_pos rfl, hdistinct'.mem_slots_addFile, hdistinct.mem_slots_addEndpoint, hslot, or_assoc,
      List.mem_cons, List.mem_singleton]

theorem mem_endpoints_recorded {endpointMade : Generated} {segments : List String} {name : String} :
    name ∈ ((plan.recorded progress endpointMade).tree.nodeAt segments).endpoints ↔
      name ∈ (progress.tree.nodeAt segments).endpoints ∨ (segments, name) = endpointMade.place := by
  rw [Generated.place, Prod.mk.injEq, recorded, ← ModuleTree.mem_endpoints_addEndpoint]
  dsimp only
  cases plan.withTests with
  | false => rw [if_neg Bool.false_ne_true]
  | true => rw [if_pos rfl, ModuleTree.endpoints_addFile]

theorem count_recorded (endpointMade : Generated) :
    (plan.recorded progress endpointMade).tree.count = progress.tree.count +
      if endpointMade.place.2 ∈ (progress.tree.nodeAt endpointMade.place.1).endpoints then 0 else 1 := by
  rw [Generated.place, ← ModuleTree.count_addEndpoint, recorded]
  dsimp only
  cases plan.withTests with
  | false => rw [if_neg Bool.false_ne_true]
  | true => rw [if_pos rfl, ModuleTree.count_addFile]

theorem distinct_recorded (h : progress.tree.Distinct) (endpointMade : Generated) :
    (plan.recorded progress endpointMade).tree.Distinct := by
  have hadded := h.addEndpoint endpointMade.endpoint.location.packageModules endpointMade.endpoint.functionName
  rw [recorded]
  dsimp only
  cases plan.withTests with
  | false => exact hadded
  | true => exact hadded.addFile _ _

structure Recorded (plan : Plan) (progress : Progress) : Prop where
  distinct : progress.tree.Distinct
  plain : ∀ slot ∈ progress.tree.slots, slot.IsPlain
  reported : ∀ name, name ∈ plan.output.reported progress.workspace ↔
    ∃ slot ∈ progress.tree.slots, name = plan.output.nameOf slot
  endpoints : ∀ segments name, name ∈ (progress.tree.nodeAt segments).endpoints ↔
    (segments, name) ∈ progress.generated.map Generated.place
  count : progress.tree.count = (progress.generated.map Generated.place).toFinset.card

theorem recorded_start (plan : Plan) (disk : Disk) : plan.Recorded (plan.start disk) := by
  have hslots : (plan.start disk).tree.slots = [] := ModuleTree.slots_leaf _
  constructor
  · exact ModuleTree.distinct_leaf _
  · simp [hslots]
  · intro name
    rw [hslots]
    cases houtput : plan.output <;> simp [Output.reported, start, Workspace.ofDisk, Entries.keys]
  · intro segments name
    simp [start, (ModuleTree.nodeAt_leaf segments plan.surface.output).1]
  · rfl

theorem slots_plain {endpoint : Endpoint} (h : endpoint.Located plan.extended) :
    ∀ slot ∈ plan.slots endpoint, slot.IsPlain := by
  rw [slots, List.forall_mem_cons]
  refine ⟨h.slot_plain.1, ?_⟩
  split
  · simpa using h.testSlot_plain.1
  · simp

theorem Recorded.recorded (h : plan.Recorded progress) {endpointMade : Generated}
    (hlocated : endpointMade.endpoint.Located plan.extended)
    (hstored : ∀ name, name ∈ plan.output.reported after ↔ name ∈ plan.output.reported progress.workspace ∨
      ∃ slot ∈ plan.slots endpointMade.endpoint, name = plan.output.nameOf slot) :
    plan.Recorded (plan.recorded { progress with workspace := after } endpointMade) := by
  have hslots (slot : Slot) :
      slot ∈ (plan.recorded { progress with workspace := after } endpointMade).tree.slots ↔
        slot ∈ progress.tree.slots ∨ slot ∈ plan.slots endpointMade.endpoint :=
    mem_slots_recorded h.distinct
  constructor
  · exact distinct_recorded h.distinct endpointMade
  · intro slot hslot
    exact ((hslots slot).mp hslot).elim (h.plain slot) (slots_plain hlocated slot)
  · intro name
    simp only [hslots, or_and_right, exists_or, ← h.reported]
    exact hstored name
  · intro segments name
    rw [mem_endpoints_recorded, h.endpoints, Plan.recorded, List.map_append, List.mem_append, List.map_singleton,
      List.mem_singleton]
  · have hgenerated : (plan.recorded { progress with workspace := after } endpointMade).generated.map
        Generated.place = progress.generated.map Generated.place ++ [endpointMade.place] := by
      rw [Plan.recorded, List.map_append, List.map_singleton]
    have hknown := h.endpoints endpointMade.place.1 endpointMade.place.2
    rw [count_recorded, hgenerated, h.count, List.toFinset_append, List.toFinset_cons, List.toFinset_nil,
      insert_empty_eq, Finset.union_comm, Finset.singleton_union]
    -- an endpoint that was listed before is not counted again
    split
    · next hlisted => rw [Finset.insert_eq_of_mem (List.mem_toFinset.mpr (hknown.mp hlisted)), Nat.add_zero]
    · next hnew => rw [Finset.card_insert_of_notMem (mt List.mem_toFinset.mp (mt hknown.mpr hnew))]

structure Idle (plan : Plan) (progress next : Progress) : Prop where
  tree : next.tree = progress.tree
  generated : next.generated = progress.generated
  reported : plan.output.reported next.workspace = plan.output.reported progress.workspace

theorem Recorded.idle (h : plan.Recorded progress) (hidle : plan.Idle progress next) : plan.Recorded next := by
  obtain ⟨htree, hgenerated, hreported⟩ := hidle
  constructor
  · rw [htree]
    exact h.distinct
  · rw [htree]
    exact h.plain
  · rw [htree, hreported]
    exact h.reported
  · rw [htree, hgenerated]
    exact h.endpoints
  · rw [htree, hgenerated]
    exact h.count

theorem Recorded.supported (h : plan.Recorded progress)
    (hstored : ∀ name, name ∈ plan.output.reported after ↔
      name ∈ plan.output.reported progress.workspace ∨ name = plan.output.nameOf Slot.testHelper) :
    plan.Recorded (supported progress after) := by
  have hslots (slot : Slot) :
      slot ∈ (Plan.supported progress after).tree.slots ↔ slot ∈ progress.tree.slots ∨ slot = Slot.testHelper :=
    h.distinct.mem_slots_addFile
  constructor
  · exact h.distinct.addFile _ _
  · intro slot hslot
    rcases (hslots slot).mp hslot with hold | rfl
    · exact h.plain slot hold
    · decide +kernel
  · intro name
    simp only [hslots, or_and_right, exists_or, ← h.reported, exists_eq_left]
    exact hstored name
  · intro segments name
    rw [Plan.supported, ModuleTree.endpoints_addFile]
    exact h.endpoints segments name
  · rw [Plan.supported, ModuleTree.count_addFile]
    exact h.count

def KeepsRecord (plan : Plan) (progress next : Progress) : Prop :=
  plan.Recorded progress → plan.Recorded next

theorem keepsRecord_refl (progress : Progress) : plan.KeepsRecord progress progress :=
  id

theorem keepsRecord_trans (first second third : Progress) (h : plan.KeepsRecord first second)
    (h' : plan.KeepsRecord second third) : plan.KeepsRecord first third :=
  h' ∘ h

theorem reported_of_generateEndpoint_error (h : (plan.generateEndpoint path).run w = (.error failure, after)) :
    plan.output.reported after = plan.output.reported w := by
  rcases hread : plan.read w.disk path with cause | ⟨endpoint, rendered⟩
  · obtain ⟨notes, hstop⟩ := run_generateEndpoint_of_error hread
    rw [hstop] at h
    cases h
    exact Output.reported_notes _ _ _ _
  · obtain ⟨notes, hgenerate⟩ := run_generateEndpoint_of_ok hread
    rw [hgenerate] at h
    rcases hwrite : (plan.output.writeAll rendered).run { w with notes } with ⟨_ | names, next⟩
    · rw [hwrite] at h
      cases h
      exact (Output.reported_of_writeAll_error hwrite).trans (Output.reported_notes _ _ _ _)
    · rw [hwrite] at h
      cases h

theorem leads_generateOne (plan : Plan) (path : Path) : Leads plan.KeepsRecord (plan.generateOne path) := by
  intro progress hrecorded
  rcases hrun : (plan.generateOne path).run progress with ⟨failure | _, next⟩
  · rw [generateOne, run_bind, run_inWorkspace] at hrun
    rcases hgenerate : (plan.generateEndpoint path).run progress.workspace with ⟨cause | endpointMade, after⟩
    · rw [hgenerate] at hrun
      cases hrun
      exact hrecorded.idle ⟨rfl, rfl, reported_of_generateEndpoint_error hgenerate⟩
    · rw [hgenerate] at hrun
      cases hrun
  · obtain ⟨endpointMade, hgenerate, hnext⟩ := generateOne_ok hrun
    obtain ⟨endpoint, rendered, notes, names, hread, hwrite, rfl⟩ := generateEndpoint_ok hgenerate
    obtain ⟨hlocated, source, testSource, rfl⟩ := read_eq_ok hread
    rw [hnext]
    apply hrecorded.recorded hlocated
    intro name
    rw [Output.mem_reported_of_writeAll hwrite, Output.reported_notes, slots_of_modules]
    rfl

theorem reported_of_supply_error (h : plan.supply.run w = (.error failure, after)) :
    plan.output.reported after = plan.output.reported w := by
  rw [supply] at h
  split at h
  · exact Output.reported_of_copyFile_error h
  · exact Output.reported_of_write_error h

theorem leads_copyTestHelper (plan : Plan) : Leads plan.KeepsRecord plan.copyTestHelper := by
  intro progress hrecorded
  rw [run_copyTestHelper]
  rcases hsupply : plan.supply.run progress.workspace with ⟨failure | name, after⟩
  · exact hrecorded.idle ⟨rfl, rfl, reported_of_supply_error hsupply⟩
  · obtain ⟨content, names, hwrite⟩ := supply_ok hsupply
    apply hrecorded.supported
    intro name
    rw [Output.mem_reported_of_writeAll hwrite]
    simp

theorem leads_note (plan : Plan) (level : Level) (text : String) :
    Leads plan.KeepsRecord (inWorkspace (Work.note level text)) := by
  intro progress hrecorded
  rw [run_inWorkspace, run_note]
  exact hrecorded.idle ⟨rfl, rfl, Output.reported_notes _ _ _ _⟩

theorem leads_tool (plan : Plan) (command : List String) :
    Leads plan.KeepsRecord (inWorkspace (plan.tool.run command)) := by
  intro progress hrecorded
  obtain ⟨notes, hrun⟩ := plan.tool.run_run command progress.workspace
  rw [run_inWorkspace, hrun]
  exact hrecorded.idle ⟨rfl, rfl, Output.reported_notes _ _ _ _⟩

theorem leads_runLinter (plan : Plan) : Leads plan.KeepsRecord plan.runLinter := by
  rw [runLinter]
  split
  · exact leads_pure keepsRecord_refl _
  · exact leads_pure keepsRecord_refl _
  · refine leads_bind keepsRecord_trans (leads_note plan _ _) fun _ => ?_
    refine leads_bind keepsRecord_trans (leads_tool plan _) fun _ => ?_
    exact fun _ hrecorded => hrecorded.idle ⟨rfl, rfl, rfl⟩

theorem leads_files (plan : Plan) (files : List Path) : Leads plan.KeepsRecord (files.forM plan.generateOne) :=
  leads_forM keepsRecord_refl keepsRecord_trans fun path _ => leads_generateOne plan path

theorem leads_generate (plan : Plan) : Leads plan.KeepsRecord plan.generate := by
  refine leads_bind keepsRecord_trans keepsRecord_refl fun progress => ?_
  split
  · exact keepsRecord_refl
  · refine leads_bind keepsRecord_trans (leads_note plan _ _) fun _ => ?_
    refine leads_bind keepsRecord_trans (leads_files plan _) fun _ => ?_
    dsimp only
    split
    · exact leads_bind keepsRecord_trans (leads_copyTestHelper plan) fun _ => leads_runLinter plan
    · exact leads_runLinter plan

/-- What can be seen of a run: a state in which an endpoint was just generated, or the test support put in
place, and the state in which it ends, be it done or stopped. -/
inductive Seen (plan : Plan) (disk : Disk) : Progress → Prop
  | generated {earlier later : List Path} {progress : Progress} :
    DefinitionFile.list disk (Path.ofString plan.surface.input) = .ok (earlier ++ later) →
      (earlier.forM plan.generateOne).run (plan.begin disk (earlier ++ later)) = (.ok (), progress) →
      Seen plan disk progress
  | supported {files : List Path} {reached progress : Progress} :
    DefinitionFile.list disk (Path.ofString plan.surface.input) = .ok files →
      (files.forM plan.generateOne).run (plan.begin disk files) = (.ok (), reached) →
      plan.withTests = true → plan.copyTestHelper.run reached = (.ok (), progress) →
      Seen plan disk progress
  | ended : Seen plan disk (plan.run disk).2

theorem Recorded.begin (plan : Plan) (disk : Disk) (files : List Path) : plan.Recorded (plan.begin disk files) :=
  (recorded_start plan disk).idle ⟨rfl, rfl, Output.reported_notes _ _ _ _⟩

theorem Seen.recorded {disk : Disk} (h : plan.Seen disk progress) : plan.Recorded progress := by
  cases h with
  | @generated earlier later _ hlist hrun =>
    have hrecorded := leads_files plan earlier _ (Recorded.begin plan disk (earlier ++ later))
    rwa [hrun] at hrecorded
  | @supported files reached _ hlist hrun htests hcopy =>
    have hreached := leads_files plan files _ (Recorded.begin plan disk files)
    rw [hrun] at hreached
    have hrecorded := leads_copyTestHelper plan _ hreached
    rwa [hcopy] at hrecorded
  | ended => exact leads_generate plan _ (recorded_start plan disk)

/-- At every point of a run, and wherever it stops, the places that the tree lists are just those of the files or
modules reported as stored, and the endpoints it counts are those generated so far, each place once. -/
theorem run_records {disk : Disk} (h : plan.Seen disk progress) :
    (∀ slot ∈ progress.tree.slots, slot.IsPlain) ∧
      (∀ name, name ∈ plan.output.reported progress.workspace ↔
        ∃ slot ∈ progress.tree.slots, name = plan.output.nameOf slot) ∧
      progress.tree.count = (progress.generated.map Generated.place).toFinset.card := by
  have hrecorded := h.recorded
  exact ⟨hrecorded.plain, hrecorded.reported, hrecorded.count⟩

theorem run_records_until_bad_definition :
    let disk := Disk.ofDirectory "in" [("a.json", DefinitionFile.document "a" "/a"), ("b.json", "[]")]
    let plan := onDisk { Settings.standard with api := ⟨"in", "out", ""⟩ } false true Tool.shell
    (plan.run disk).1.isOk = false ∧ plan.Seen disk (plan.run disk).2 ∧
      (∃ slot ∈ (plan.run disk).2.tree.slots, "out/tests/api/test_a.py" = plan.output.nameOf slot) ∧
      ((plan.run disk).2.generated.map Generated.place).toFinset.card = 1 := by
  intro disk plan
  have hcheck : (plan.run disk).map Except.isOk (fun final =>
        (plan.output.reported final.workspace, final.tree.count)) =
      (false, ["out/a.py", "out/tests/api/test_a.py"], 1) :=
    run_pair_check rfl (by decide +kernel)
  clear_value disk plan
  have hseen : plan.Seen disk (plan.run disk).2 := .ended
  obtain ⟨-, hreported, hcount⟩ := run_records hseen
  have hwritten : plan.output.reported (plan.run disk).2.workspace = ["out/a.py", "out/tests/api/test_a.py"] :=
    congrArg (·.2.1) hcheck
  have hone : (plan.run disk).2.tree.count = 1 := congrArg (·.2.2) hcheck
  refine ⟨congrArg (·.1) hcheck, hseen, (hreported _).mp ?_, hcount.symm.trans hone⟩
  rw [hwritten]
  decide

end Plan

end ClientForge
