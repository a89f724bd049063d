import ClientForge.Code.Check
import ClientForge.Code.Printer
import ClientForge.DefinitionFile
import ClientForge.Endpoint.TestModule
import ClientForge.ModuleTree
import ClientForge.Output
import ClientForge.Settings.Basic
import ClientForge.TestSupport
import ClientForge.Tool

namespace ClientForge

def Code.source (body : List Code.Stmt) (name : String) : Except Failure String :=
  if Code.isValid body then .ok (Code.print body) else .error (.invalidCode name)

/-- What is to be generated, where it goes, and what runs the linter. -/
structure Plan where
  settings : Settings
  extended : Bool
  withTests : Bool
  output : Output
  tool : Tool

structure Generated where
  source : String
  endpoint : Endpoint
  endpointFile : String
  testFile : Option String
  sources : Entries String
  deriving Repr

structure Progress where
  workspace : Workspace
  tree : ModuleTree
  generated : List Generated
  toolFailure : Option Failure
  deriving Repr

abbrev Generation := ExceptT Failure (StateM Progress)

namespace Plan

open Disk (Path)

def onDisk (settings : Settings) (extended withTests : Bool) (tool : Tool) : Plan :=
  { settings, extended, withTests, tool
    output := .files (Path.ofString (settings.surface extended).output) true }

def surface (plan : Plan) : Surface :=
  plan.settings.surface plan.extended

def surroundings (plan : Plan) : Surroundings :=
  { extended := plan.extended
    overrides := plan.settings.overrides
    package := plan.surface.package
    helperModule := plan.settings.helperModule }

def start (plan : Plan) (disk : Disk) : Progress :=
  ⟨Workspace.ofDisk disk, ModuleTree.leaf plan.surface.output, [], none⟩

def render (plan : Plan) (endpoint : Endpoint) : Except Failure (List (Slot × String)) := do
  let segments := endpoint.location.packageModules
  let name := endpoint.functionName
  let code ← endpoint.moduleCode.mapError (·.failure)
  let source ← Code.source code name
  if plan.withTests then
    let testSource ← Code.source (← endpoint.testCode) ("test_" ++ name)
    return [(.ofEndpoint segments name, source), (.ofTest segments name, testSource)]
  else return [(.ofEndpoint segments name, source)]

def accountFor (name source : String) (failure : Failure) : Failure :=
  if failure.isOwn then .endpoint name (some source) (some failure) else failure

/-- Decides, renders and writes; all is rendered before any of it is written. -/
def produce (plan : Plan) (definition : Definition) (source : String) : Work Generated := do
  for text in Endpoint.remarks plan.extended definition do
    Work.note .debug text
  let endpoint ← Endpoint.resolve plan.surroundings definition
  let rendered ← plan.render endpoint
  let written ← plan.output.writeAll rendered
  return { source, endpoint
           endpointFile := written.headD ""
           testFile := written[1]?
           sources := Entries.ofPairs (written.zip (rendered.map (·.2))) }

def generateEndpoint (plan : Plan) (path : Path) : Work Generated := do
  match DefinitionFile.load (← get).disk path with
  | .error failure => throw (accountFor path.stem path.text failure)
  | .ok definition =>
    Work.note .debug (DefinitionFile.remark definition path.text)
    (plan.produce definition path.text).adapt (accountFor definition.name path.text)

def inWorkspace {α : Type} (step : Work α) : Generation α := do
  let progress ← get
  let (result, workspace) := step.run progress.workspace
  set { progress with workspace }
  match result with
  | .ok a => pure a
  | .error failure => throw failure

def record (plan : Plan) (generated : Generated) : Generation Unit :=
  modify fun progress =>
    let segments := generated.endpoint.location.packageModules
    let name := generated.endpoint.functionName
    let slot := Slot.ofTest segments name
    let tree := progress.tree.addEndpoint segments name
    { progress with
      tree := if plan.withTests then tree.addFile slot.directory slot.file else tree
      generated := progress.generated ++ [generated] }

def generateOne (plan : Plan) (path : Path) : Generation Unit := do
  plan.record (← inWorkspace (plan.generateEndpoint path))

def copyTestHelper (plan : Plan) : Generation Unit := do
  let slot := Slot.testHelper
  match plan.settings.testHelper.filter (· ≠ "") with
  | some helper => discard (inWorkspace (plan.output.copyFile (Path.ofString helper) slot))
  | none => discard (inWorkspace (plan.output.write slot TestSupport.text))
  modify fun progress => { progress with tree := progress.tree.addFile slot.directory slot.file }

def runLinter (plan : Plan) : Generation Unit := do
  match plan.settings.linter with
  | none | some [] => pure ()
  | some linter =>
    let command := linter ++ [plan.surface.output]
    inWorkspace (Work.note .debug ("Running " ++ " ".intercalate command))
    let failed ← inWorkspace (plan.tool.run command)
    modify fun progress => { progress with toolFailure := failed }

def generate (plan : Plan) : Generation Unit := do
  let input := plan.surface.input
  match DefinitionFile.list (← get).workspace.disk (Path.ofString input) with
  | .error failure => throw failure
  | .ok files =>
    inWorkspace (Work.note .info
      ("Generating " ++ toString files.length ++ " endpoints from " ++ input))
    files.forM plan.generateOne
    if plan.withTests then plan.copyTestHelper
    plan.runLinter

def run (plan : Plan) (disk : Disk) : Except Failure Unit × Progress :=
  plan.generate.run (plan.start disk)

end Plan

end ClientForge
