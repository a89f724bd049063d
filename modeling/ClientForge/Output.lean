import ClientForge.Workspace

namespace ClientForge

/-- Where generated modules go: into files below a root, whose packages may be marked as such, or
into memory. -/
inductive Output
  | files (root : Disk.Path) (marksPackages : Bool)
  | memory
  deriving Repr

structure Slot where
  directory : List String
  file : String
  deriving DecidableEq, Repr

namespace Slot

def ofEndpoint (segments : List String) (name : String) : Slot :=
  ⟨segments, name ++ ".py"⟩

def ofTest (segments : List String) (name : String) : Slot :=
  ⟨"tests" :: "api" :: segments, "test_" ++ name ++ ".py"⟩

def testHelper : Slot :=
  ⟨["tests"], "conftest.py"⟩

def key (slot : Slot) : String :=
  "/".intercalate (slot.directory ++ [slot.file])

end Slot

namespace Output

open Disk (Path)

def packageMarker : String := "__init__.py"

def markPackage (directory : Path) : Disk.Step Unit := do
  let marker := directory.join packageMarker
  unless (← get).present marker do
    Disk.ensureTree directory
    Disk.touch marker

def outputFailure (path : Path) (fault : Disk.Fault) : Failure :=
  .output path.text (some (.disk fault))

def descend (marksPackages : Bool) (directory : Path) : List String → Work Path
  | [] => pure directory
  | segment :: rest => do
    let inner := directory.join segment
    Work.onDisk (outputFailure inner) do
      Disk.ensureDirectory inner
      if marksPackages then markPackage inner
    descend marksPackages inner rest

def openDirectory (root : Path) (marksPackages : Bool) (segments : List String) : Work Path := do
  Work.onDisk (outputFailure root) (Disk.ensureTree root)
  descend marksPackages root segments

def staging (target : Path) : Path :=
  target.sibling ("." ++ target.name ++ ".tmp")

structure Interruption where
  target : Path
  staged : List Path
  fault : Disk.Fault
  deriving Repr

def stage (staged : List Path) : List (Path × String) → ExceptT Interruption (StateM Disk) (List Path)
  | [] => pure staged
  | (target, content) :: rest => do
    let staged := staged ++ [staging target]
    (Disk.write (staging target) (Text.Utf8.encode content.toList)).adapt (⟨target, staged, ·⟩)
    stage staged rest

def replace (staged : List Path) : List Path → ExceptT Interruption (StateM Disk) Unit
  | [] => pure ()
  | target :: rest => do
    (Disk.move (staging target) target).adapt (⟨target, staged, ·⟩)
    replace staged rest

def stageAndReplace (targets : List (Path × String)) : ExceptT Interruption (StateM Disk) Unit := do
  let staged ← stage [] targets
  replace staged (targets.map (·.1))

/-- Stages every file before any target is replaced; a fault clears away what was staged. -/
def writeFiles (targets : List (Path × String)) : Work (List String) := do
  let w ← get
  match (stageAndReplace targets).run w.disk with
  | (.error stop, disk) =>
    set { w with disk }
    Work.onDisk .disk (stop.staged.forM Disk.unlink)
    throw (outputFailure stop.target stop.fault)
  | (.ok (), disk) =>
    let names := targets.map fun (target, _) => target.text
    set { w with
      disk
      written := w.written ++ names
      notes := w.notes ++ names.map fun name => Note.mk .info ("Wrote " ++ name) }
    return names

def writeAll (output : Output) (entries : List (Slot × String)) : Work (List String) :=
  match output with
  | .memory =>
    entries.mapM fun (slot, content) => do
      modify fun w => { w with modules := Entries.put w.modules slot.key content }
      return slot.key
  | .files root marksPackages => do
    let targets ← entries.mapM fun (slot, content) => do
      let directory ← openDirectory root marksPackages slot.directory
      return (directory.join slot.file, content)
    writeFiles targets

def write (output : Output) (slot : Slot) (content : String) : Work String := do
  return (← output.writeAll [(slot, content)]).headD ""

def copyFile (output : Output) (source : Path) (slot : Slot) : Work String := do
  match (← get).disk.readText source with
  | .ok content => output.write slot content
  | .error (.disk fault) => throw (outputFailure source fault)
  | .error failure => throw failure

end Output

end ClientForge
