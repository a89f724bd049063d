import ClientForge.Generation
import ClientForge.Proofs.Endpoint.Samples

namespace ClientForge

open Disk (Path)

def DefinitionFile.title (disk : Disk) (path : Path) : String :=
  match load disk path with
  | .ok definition => definition.name
  | .error _ => path.stem

def DefinitionFile.document (name template : String) : String :=
  "\x7b\"" ++ name ++ "\": \x7b\"url\": \x7b\"paths\": [\x7b\"path\": \"" ++ template ++
    "\", \"methods\": [\"GET\"]\x7d]\x7d\x7d\x7d"

def Disk.ofDirectory (directory : String) (files : List (String × String)) : Disk :=
  ⟨([directory], .directory) ::
    files.map fun (name, content) => ([directory, name], .file (Text.Utf8.encode content.toList))⟩

theorem DefinitionFile.list_of_sorted {disk : Disk} {directory : Path} {names : List String}
    (hdirectory : disk.isDirectory directory = true)
    (hnames : ((disk.names directory).filter fun name =>
      isDefinitionName name && disk.isFile (directory ++ [name])) = names)
    (hsorted : names.Pairwise (· ≤ ·)) :
    list disk directory = .ok (names.map (directory ++ [·])) := by
  rw [list, if_pos hdirectory, hnames, Text.sorted, List.mergeSort_of_pairwise]
  simpa using hsorted

theorem DefinitionFile.list_pair (first second : String) :
    list (Disk.ofDirectory "in" [("a.json", first), ("b.json", second)]) ["in"] =
      .ok [["in", "a.json"], ["in", "b.json"]] := by
  have hnames : (((Disk.ofDirectory "in" [("a.json", first), ("b.json", second)]).names ["in"]).filter fun name =>
      isDefinitionName name && (Disk.ofDirectory "in" [("a.json", first), ("b.json", second)]).isFile
        (["in"] ++ [name])) = ["a.json", "b.json"] := by
    have ha : isDefinitionName "a.json" = true := by decide +kernel
    have hb : isDefinitionName "b.json" = true := by decide +kernel
    simp [Disk.names, Disk.isFile, Disk.find?, Disk.resolve, Disk.resolveFrom, Disk.at?, Disk.isBase, Path.slash,
      Disk.ofDirectory, List.lookup_cons, ha, hb]
  exact list_of_sorted rfl hnames (by decide +kernel)

theorem DefinitionFile.isOwn_of_load {disk : Disk} {path : Path} {failure : Failure}
    (h : load disk path = .error failure) : failure.isOwn = true := by
  rcases bind_eq_error.mp h with hread | ⟨document, -, hdocument⟩
  · obtain ⟨cause, -, rfl⟩ := mapError_eq_error.mp hread
    rfl
  · unfold Definition.ofDocument at hdocument
    split at hdocument
    · dsimp only at hdocument
      split at hdocument
      · cases hdocument
      · cases hdocument
        rfl
    · cases hdocument
      rfl
    · cases hdocument
      rfl

theorem Endpoint.isOwn_of_resolve {surroundings : Surroundings} {definition : Definition} {failure : Failure}
    (h : resolve surroundings definition = .error failure) : failure.isOwn = true := by
  rcases bind_eq_error.mp h with hlocation | ⟨location, -, h⟩
  · obtain ⟨fault, -, rfl⟩ := mapError_eq_error.mp hlocation
    rfl
  rcases bind_eq_error.mp h with hpath | ⟨path, -, h⟩
  · obtain ⟨paths, -, rfl⟩ := mapError_eq_error.mp hpath
    rfl
  rcases bind_eq_error.mp h with harguments | ⟨arguments, -, h⟩
  · obtain ⟨bad, -, rfl⟩ := mapError_eq_error.mp harguments
    rfl
  · cases h

theorem isOwn_of_source {body : List Code.Stmt} {name : String} {failure : Failure}
    (h : Code.source body name = .error failure) : failure.isOwn = true := by
  rw [Code.source] at h
  split at h
  · cases h
  · cases h
    rfl

def Endpoint.slot (endpoint : Endpoint) : Slot :=
  .ofEndpoint endpoint.location.packageModules endpoint.functionName

def Endpoint.testSlot (endpoint : Endpoint) : Slot :=
  .ofTest endpoint.location.packageModules endpoint.functionName

namespace Plan

variable {plan : Plan} {definition : Definition} {endpoint : Endpoint} {path : Path}
  {w after : Workspace} {failure : Failure}

def modules (plan : Plan) (endpoint : Endpoint) (source : String) (testSource : String) :
    List (Slot × String) :=
  (endpoint.slot, source) :: if plan.withTests then [(endpoint.testSlot, testSource)] else []

theorem render_eq_ok {rendered : List (Slot × String)} (h : plan.render endpoint = .ok rendered) :
    ∃ source testSource, rendered = plan.modules endpoint source testSource := by
  obtain ⟨code, -, h⟩ := bind_eq_ok.mp h
  obtain ⟨source, -, h⟩ := bind_eq_ok.mp h
  by_cases htests : plan.withTests = true
  · rw [if_pos htests] at h
    obtain ⟨test, -, h⟩ := bind_eq_ok.mp h
    obtain ⟨testSource, -, h⟩ := bind_eq_ok.mp h
    cases h
    exact ⟨source, testSource, by rw [modules, if_pos htests]; rfl⟩
  · rw [if_neg htests] at h
    cases h
    exact ⟨source, "", by rw [modules, if_neg htests]; rfl⟩

theorem isOwn_of_render (hresolve : Endpoint.resolve plan.surroundings definition = .ok endpoint)
    (h : plan.render endpoint = .error failure) : failure.isOwn = true := by
  have hresolved := Endpoint.resolve_eq_ok.mp hresolve
  obtain ⟨body, hfunction⟩ := hresolved.function_ok
  obtain ⟨code, hcode, -⟩ := Endpoint.moduleCode_ok hfunction
  obtain ⟨-, -, -, -, path, -, hpath⟩ := hresolved.samplePath_ok
  obtain ⟨test, htest, -⟩ := Endpoint.testCode_ok hpath
  rw [render, hcode] at h
  rcases bind_eq_error.mp h with hmodule | ⟨code', hmodule, h⟩
  · cases hmodule
  rcases bind_eq_error.mp h with hsource | ⟨source, -, h⟩
  · exact isOwn_of_source hsource
  by_cases htests : plan.withTests = true
  · rw [if_pos htests, htest] at h
    rcases bind_eq_error.mp h with hmodule | ⟨test', -, h⟩
    · cases hmodule
    rcases bind_eq_error.mp h with hsource | ⟨testSource, -, h⟩
    · exact isOwn_of_source hsource
    · cases h
  · rw [if_neg htests] at h
    cases h

def prepare (plan : Plan) (definition : Definition) : Except Failure (Endpoint × List (Slot × String)) := do
  let endpoint ← Endpoint.resolve plan.surroundings definition
  let rendered ← plan.render endpoint
  return (endpoint, rendered)

theorem prepare_eq_ok {rendered : List (Slot × String)} :
    plan.prepare definition = .ok (endpoint, rendered) ↔
      Endpoint.resolve plan.surroundings definition = .ok endpoint ∧ plan.render endpoint = .ok rendered := by
  simp only [prepare, bind_eq_ok]
  constructor
  · rintro ⟨resolved, hresolve, modules, hrender, h⟩
    cases h
    exact ⟨hresolve, hrender⟩
  · rintro ⟨hresolve, hrender⟩
    exact ⟨endpoint, hresolve, rendered, hrender, rfl⟩

theorem prepare_eq_error :
    plan.prepare definition = .error failure ↔ Endpoint.resolve plan.surroundings definition = .error failure ∨
      ∃ endpoint, Endpoint.resolve plan.surroundings definition = .ok endpoint ∧
        plan.render endpoint = .error failure := by
  simp only [prepare, bind_eq_error, pure, Except.pure, reduceCtorEq, and_false, exists_false, or_false]

theorem isOwn_of_prepare (h : plan.prepare definition = .error failure) : failure.isOwn = true := by
  rcases prepare_eq_error.mp h with hresolve | ⟨endpoint, hresolve, hrender⟩
  · exact Endpoint.isOwn_of_resolve hresolve
  · exact isOwn_of_render hresolve hrender

def read (plan : Plan) (disk : Disk) (path : Path) : Except Failure (Endpoint × List (Slot × String)) := do
  let definition ← DefinitionFile.load disk path
  plan.prepare definition

def generated (source : String) (endpoint : Endpoint) (rendered : List (Slot × String))
    (written : List String) : Generated :=
  { source, endpoint
    endpointFile := written.headD ""
    testFile := written[1]?
    sources := Entries.ofPairs (written.zip (rendered.map (·.2))) }

theorem run_note (level : Level) (text : String) (w : Workspace) :
    (Work.note level text).run w = (.ok (), { w with notes := w.notes ++ [⟨level, text⟩] }) :=
  rfl

theorem run_remarks (texts : List String) (w : Workspace) :
    ∃ notes, (forIn texts PUnit.unit fun text _ => do
        Work.note .debug text
        pure (ForInStep.yield PUnit.unit) : Work PUnit).run w = (.ok PUnit.unit, { w with notes }) := by
  induction texts generalizing w with
  | nil => exact ⟨w.notes, rfl⟩
  | cons text rest ih =>
    obtain ⟨notes, h⟩ := ih { w with notes := w.notes ++ [⟨.debug, text⟩] }
    have hnote : (do Work.note .debug text; pure (ForInStep.yield PUnit.unit) : Work (ForInStep PUnit)).run w =
        (.ok (.yield PUnit.unit), { w with notes := w.notes ++ [⟨.debug, text⟩] }) := rfl
    refine ⟨notes, ?_⟩
    rw [List.forIn_cons, run_bind_ok hnote]
    exact h

theorem run_produce_of_error (h : plan.prepare definition = .error failure) (source : String) (w : Workspace) :
    ∃ notes, (plan.produce definition source).run w = (.error failure, { w with notes }) := by
  obtain ⟨notes, hremarks⟩ := run_remarks (Endpoint.remarks plan.extended definition) w
  refine ⟨notes, ?_⟩
  rw [produce, run_bind_ok hremarks, run_bind, run_liftM]
  rcases prepare_eq_error.mp h with hresolve | ⟨endpoint, hresolve, hrender⟩
  · rw [hresolve]
  · rw [hresolve]
    dsimp only
    rw [run_bind, run_liftM, hrender]

theorem run_produce_of_ok {rendered : List (Slot × String)} (h : plan.prepare definition = .ok (endpoint, rendered))
    (source : String) (w : Workspace) :
    ∃ notes, (plan.produce definition source).run w =
      (do return generated source endpoint rendered (← plan.output.writeAll rendered) : Work Generated).run
        { w with notes } := by
  obtain ⟨notes, hremarks⟩ := run_remarks (Endpoint.remarks plan.extended definition) w
  obtain ⟨hresolve, hrender⟩ := prepare_eq_ok.mp h
  refine ⟨notes, ?_⟩
  rw [produce, run_bind_ok hremarks, hresolve, run_bind_ok (run_liftM _ _), hrender, run_bind_ok (run_liftM _ _)]
  rfl

theorem accountFor_own (h : failure.isOwn = true) (name source : String) :
    accountFor name source failure = .endpoint name (some source) (some failure) := by
  rw [accountFor, if_pos h]

theorem run_generateEndpoint_of_error (h : plan.read w.disk path = .error failure) :
    ∃ notes, (plan.generateEndpoint path).run w =
      (.error (.endpoint (DefinitionFile.title w.disk path) (some path.text) (some failure)), { w with notes }) := by
  rw [generateEndpoint, run_bind_ok (run_get w), DefinitionFile.title]
  rcases bind_eq_error.mp h with hload | ⟨definition, hload, hprepare⟩
  · refine ⟨w.notes, ?_⟩
    rw [hload]
    dsimp only
    rw [accountFor_own (DefinitionFile.isOwn_of_load hload)]
    rfl
  · obtain ⟨notes, hproduce⟩ := run_produce_of_error hprepare path.text
      { w with notes := w.notes ++ [⟨.debug, DefinitionFile.remark definition path.text⟩] }
    refine ⟨notes, ?_⟩
    rw [hload]
    dsimp only
    rw [run_bind_ok (run_note .debug _ w), run_adapt, hproduce, ← accountFor_own (isOwn_of_prepare hprepare)]
    rfl

theorem run_generateEndpoint_of_ok {rendered : List (Slot × String)}
    (h : plan.read w.disk path = .ok (endpoint, rendered)) :
    ∃ notes, (plan.generateEndpoint path).run w =
      match (plan.output.writeAll rendered).run { w with notes } with
      | (.ok names, after) => (.ok (generated path.text endpoint rendered names), after)
      | (.error failure, after) =>
        (.error (accountFor (DefinitionFile.title w.disk path) path.text failure), after) := by
  obtain ⟨definition, hload, hprepare⟩ := bind_eq_ok.mp h
  obtain ⟨notes, hproduce⟩ := run_produce_of_ok hprepare path.text
    { w with notes := w.notes ++ [⟨.debug, DefinitionFile.remark definition path.text⟩] }
  refine ⟨notes, ?_⟩
  rw [generateEndpoint, run_bind_ok (run_get w), DefinitionFile.title, hload]
  dsimp only
  rw [run_bind_ok (run_note .debug _ w), run_adapt, hproduce, run_bind]
  rcases (plan.output.writeAll rendered).run { w with notes } with ⟨_ | _, after⟩ <;> rfl

theorem run_generateEndpoint_of_written {rendered : List (Slot × String)}
    (h : plan.read w.disk path = .ok (endpoint, rendered)) :
    ∃ notes, ∀ names after, (plan.output.writeAll rendered).run { w with notes } = (.ok names, after) →
      (plan.generateEndpoint path).run w = (.ok (generated path.text endpoint rendered names), after) := by
  obtain ⟨notes, hgenerate⟩ := run_generateEndpoint_of_ok h
  refine ⟨notes, fun names after hwrite => ?_⟩
  rw [hgenerate, hwrite]

theorem generateEndpoint_ok {endpointMade : Generated}
    (h : (plan.generateEndpoint path).run w = (.ok endpointMade, after)) :
    ∃ endpoint rendered notes names, plan.read w.disk path = .ok (endpoint, rendered) ∧
      (plan.output.writeAll rendered).run { w with notes } = (.ok names, after) ∧
      endpointMade = generated path.text endpoint rendered names := by
  rcases hread : plan.read w.disk path with cause | ⟨endpoint, rendered⟩
  · obtain ⟨notes, hstop⟩ := run_generateEndpoint_of_error hread
    rw [hstop] at h
    cases h
  · obtain ⟨notes, hgenerate⟩ := run_generateEndpoint_of_ok hread
    rw [hgenerate] at h
    rcases hwrite : (plan.output.writeAll rendered).run { w with notes } with ⟨_ | names, next⟩
    · rw [hwrite] at h
      cases h
    · rw [hwrite] at h
      cases h
      exact ⟨endpoint, rendered, notes, names, rfl, hwrite, rfl⟩

theorem run_inWorkspace {α : Type} (step : Work α) (progress : Progress) :
    (inWorkspace step).run progress =
      ((step.run progress.workspace).1, { progress with workspace := (step.run progress.workspace).2 }) := by
  rw [inWorkspace, run_bind_ok (run_get progress)]
  rcases step.run progress.workspace with ⟨_ | _, next⟩ <;> rfl

theorem inWorkspace_ok {α : Type} {step : Work α} {a : α} {progress next : Progress}
    (h : (inWorkspace step).run progress = (.ok a, next)) :
    step.run progress.workspace = (.ok a, next.workspace) ∧
      next = { progress with workspace := next.workspace } := by
  rw [run_inWorkspace] at h
  rcases hstep : step.run progress.workspace with ⟨cause | made, after⟩
  · rw [hstep] at h
    cases h
  · rw [hstep] at h
    cases h
    exact ⟨rfl, rfl⟩

theorem run_generateOne_of_error {progress : Progress}
    (h : plan.read progress.workspace.disk path = .error failure) :
    ∃ notes, (plan.generateOne path).run progress =
      (.error (.endpoint (DefinitionFile.title progress.workspace.disk path) (some path.text) (some failure)),
        { progress with workspace := { progress.workspace with notes } }) := by
  obtain ⟨notes, hgenerate⟩ := run_generateEndpoint_of_error h
  refine ⟨notes, ?_⟩
  rw [generateOne, run_bind, run_inWorkspace, hgenerate]

def recorded (plan : Plan) (progress : Progress) (endpointMade : Generated) : Progress :=
  let segments := endpointMade.endpoint.location.packageModules
  let tree := progress.tree.addEndpoint segments endpointMade.endpoint.functionName
  let test := endpointMade.endpoint.testSlot
  { progress with
    tree := if plan.withTests then tree.addFile test.directory test.file else tree
    generated := progress.generated ++ [endpointMade] }

theorem run_record (progress : Progress) (endpointMade : Generated) :
    (plan.record endpointMade).run progress = (.ok (), plan.recorded progress endpointMade) :=
  rfl

theorem generateOne_ok {progress next : Progress} (h : (plan.generateOne path).run progress = (.ok (), next)) :
    ∃ endpointMade, (plan.generateEndpoint path).run progress.workspace = (.ok endpointMade, next.workspace) ∧
      next = plan.recorded { progress with workspace := next.workspace } endpointMade := by
  obtain ⟨endpointMade, middle, hgenerate, hrecord⟩ := run_bind_eq_ok.mp h
  obtain ⟨hgenerate, hbefore⟩ := inWorkspace_ok hgenerate
  rw [run_record] at hrecord
  cases hrecord
  exact ⟨endpointMade, hgenerate, congrArg (plan.recorded · endpointMade) hbefore⟩

def begin (plan : Plan) (disk : Disk) (files : List Path) : Progress :=
  let text := "Generating " ++ toString files.length ++ " endpoints from " ++ plan.surface.input
  { plan.start disk with workspace := { Workspace.ofDisk disk with notes := [⟨.info, text⟩] } }

def generateAll (plan : Plan) (files : List Path) : Generation Unit := do
  files.forM plan.generateOne
  if plan.withTests then plan.copyTestHelper
  plan.runLinter

theorem run_eq {disk : Disk} {files : List Path}
    (h : DefinitionFile.list disk (Path.ofString plan.surface.input) = .ok files) :
    plan.run disk = (plan.generateAll files).run (plan.begin disk files) := by
  rw [run, generate, run_bind_ok (run_get _), start, Workspace.ofDisk, h]
  rfl

theorem run_pair (hinput : plan.surface.input = "in") (first second : String) :
    plan.run (Disk.ofDirectory "in" [("a.json", first), ("b.json", second)]) =
      (plan.generateAll [["in", "a.json"], ["in", "b.json"]]).run
        (plan.begin (Disk.ofDirectory "in" [("a.json", first), ("b.json", second)])
          [["in", "a.json"], ["in", "b.json"]]) := by
  apply run_eq
  rw [hinput, (by decide +kernel : Path.ofString "in" = ["in"])]
  exact DefinitionFile.list_pair first second

theorem run_pair_check {β : Type} {first second : String} {view : Progress → β} {seen : Bool × β}
    (hinput : plan.surface.input = "in")
    (h : ((plan.generateAll [["in", "a.json"], ["in", "b.json"]]).run
        (plan.begin (Disk.ofDirectory "in" [("a.json", first), ("b.json", second)])
          [["in", "a.json"], ["in", "b.json"]])).map Except.isOk view = seen) :
    (plan.run (Disk.ofDirectory "in" [("a.json", first), ("b.json", second)])).map Except.isOk view = seen := by
  rwa [run_pair hinput]

theorem sources_of_generateOne {files : List Path} {progress next : Progress}
    (h : (files.forM plan.generateOne).run progress = (.ok (), next)) :
    next.generated.map (·.source) = progress.generated.map (·.source) ++ files.map Path.text := by
  induction files generalizing progress with
  | nil =>
    cases h
    simp
  | cons path rest ih =>
    obtain ⟨middle, hfirst, hrest⟩ := run_forM_cons_eq_ok.mp h
    obtain ⟨endpointMade, hgenerate, hgenerated⟩ := generateOne_ok hfirst
    obtain ⟨endpoint, rendered, notes, names, -, -, rfl⟩ := generateEndpoint_ok hgenerate
    rw [ih hrest, hgenerated]
    simp [recorded, generated]

end Plan

end ClientForge
