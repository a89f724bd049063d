import ClientForge.Disk.Path
import ClientForge.Text.Quoted

namespace ClientForge.Disk

inductive FaultKind
  | notFound
  | busy
  | exists
  | notDirectory
  | isDirectory
  deriving DecidableEq, Repr

def FaultKind.number : FaultKind → Nat
  | .notFound => 2
  | .busy => 16
  | .exists => 17
  | .notDirectory => 20
  | .isDirectory => 21

def FaultKind.message : FaultKind → String
  | .notFound => "No such file or directory"
  | .busy => "Device or resource busy"
  | .exists => "File exists"
  | .notDirectory => "Not a directory"
  | .isDirectory => "Is a directory"

structure Fault where
  kind : FaultKind
  path : Path
  target : Option Path
  deriving DecidableEq, Repr

def Fault.message (fault : Fault) : String :=
  "[Errno " ++ toString fault.kind.number ++ "] " ++ fault.kind.message ++ ": " ++
    Text.quoted fault.path.text ++
    (match fault.target with
      | some target => " -> " ++ Text.quoted target.text
      | none => "")

end ClientForge.Disk
