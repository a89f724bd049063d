import ClientForge.Text.Basic
import ClientForge.Text.Identifier

namespace ClientForge

inductive NameFault
  | empty
  | emptySegment
  | notIdentifier (segment : String)
  deriving DecidableEq, Repr

def NameFault.message : NameFault → String
  | .empty => "name is empty"
  | .emptySegment => "empty segment"
  | .notIdentifier segment => "segment '" ++ segment ++ "' is not a valid identifier"

structure Location where
  modules : List String
  method : String
  deriving DecidableEq, Repr

namespace Location

def marker : String := "xpack"

def renames : List (String × String) :=
  [("ml", "machine_learning"), ("ilm", "index_lifecycle_management")]

def rename (segment : String) : String :=
  (renames.lookup segment).getD segment

def segments (location : Location) : List String :=
  location.modules ++ [location.method]

def outputModules (location : Location) : List String :=
  match location.modules with
  | [] => []
  | first :: rest => if first = marker then rest else first :: rest

def functionName (location : Location) : String :=
  Text.safeName location.method

def packageModules (location : Location) : List String :=
  location.outputModules.map Text.safeName

def ofSegments : List String → Location
  | [] => ⟨[], ""⟩
  | [method] => ⟨[], method⟩
  | first :: second :: rest =>
    let inner := ofSegments (second :: rest)
    ⟨first :: inner.modules, inner.method⟩

def splitName (name : String) : List String :=
  (Text.splitOn (· == '.') name.toList).map String.ofList

def extend (segments : List String) : List String :=
  (if segments.head? = some marker then segments else marker :: segments).map rename

def segmentFault? (segment : String) : Option NameFault :=
  if segment.isEmpty then some .emptySegment
  else if Text.isNameLike segment.toList then none
  else some (.notIdentifier segment)

def resolve (name : String) (extended : Bool) : Except NameFault Location :=
  if name.toList.all Text.isBlank then .error .empty
  else
    let segments := splitName name
    match segments.findSome? segmentFault? with
    | some fault => .error fault
    | none => .ok (ofSegments (if extended then extend segments else segments))

end Location

end ClientForge
