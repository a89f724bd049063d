import ClientForge.Disk.Basic
import ClientForge.Entries
import ClientForge.Failure
import ClientForge.Text.Basic

namespace ClientForge

inductive Level
  | debug
  | info
  | warning
  deriving DecidableEq, Repr

structure Note where
  level : Level
  text : String
  deriving DecidableEq, Repr

structure Workspace where
  disk : Disk
  written : List String
  modules : Entries String
  notes : List Note
  deriving Repr

def Workspace.ofDisk (disk : Disk) : Workspace :=
  ⟨disk, [], [], []⟩

abbrev Work := ExceptT Failure (StateM Workspace)

namespace Work

def note (level : Level) (text : String) : Work Unit :=
  modify fun w => { w with notes := w.notes ++ [⟨level, text⟩] }

def onDisk {ε α : Type} (asFailure : ε → Failure) (step : ExceptT ε (StateM Disk) α) : Work α := do
  let w ← get
  let (result, disk) := step.run w.disk
  set { w with disk }
  match result with
  | .ok a => pure a
  | .error fault => throw (asFailure fault)

end Work

def Disk.readText (disk : Disk) (path : Path) : Except Failure String := do
  let bytes ← (disk.readBytes path).mapError .disk
  let text ← (Text.Utf8.decode bytes).mapError .encoding
  return String.ofList (Text.unifyNewlines text.toList)

end ClientForge
