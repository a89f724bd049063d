import ClientForge.Text.Basic

namespace ClientForge.Disk

abbrev Path := List String

namespace Path

def slash : String := "/"

def ofString (text : String) : Path :=
  let parts := ((Text.splitOn (· == '/') text.toList).map String.ofList).filter
    fun part => part ≠ "" ∧ part ≠ "."
  if text.toList.head? = some '/' then slash :: parts else parts

def text : Path → String
  | [] => "."
  | first :: rest => if first = slash then slash ++ slash.intercalate rest else slash.intercalate (first :: rest)

def isAbsolute (path : Path) : Bool :=
  path.head? == some slash

def join (path : Path) (text : String) : Path :=
  let tail := ofString text
  if isAbsolute tail then tail else path ++ tail

def name (path : Path) : String :=
  match path.getLast? with
  | some part => if part = slash then "" else part
  | none => ""

def parent (path : Path) : Path :=
  if path = [slash] then path else path.dropLast

def sibling (path : Path) (name : String) : Path :=
  path.dropLast ++ [name]

def extensionAt? (name : List Char) : Option Nat :=
  match name.reverse.idxOf? '.' with
  | none => none
  | some fromEnd =>
    let i := name.length - 1 - fromEnd
    -- a point that opens or ends the name starts no extension
    if 0 < i ∧ 0 < fromEnd then some i else none

def extension (path : Path) : String :=
  let name := path.name.toList
  match extensionAt? name with
  | some i => String.ofList (name.drop i)
  | none => ""

def stem (path : Path) : String :=
  let name := path.name.toList
  match extensionAt? name with
  | some i => String.ofList (name.take i)
  | none => path.name

end Path

end ClientForge.Disk
