import ClientForge.Text.Basic
import ClientForge.Text.Word

namespace ClientForge

inductive Piece
  | text (chars : List Char)
  | slot (name : String)
  deriving DecidableEq, Repr

namespace Template

def slotName? (text : List Char) : Option (List Char) :=
  let name := text.takeWhile Text.isWord
  if !name.isEmpty && (text.drop name.length).head? == some '\x7d' then some name else none

def consText (c : Char) : List Piece → List Piece
  | .text chars :: rest => .text (c :: chars) :: rest
  | pieces => .text [c] :: pieces

/-- The pieces of a text whose first `skip` characters belong to a slot already read. -/
def piecesFrom (skip : Nat) : List Char → List Piece
  | [] => []
  | c :: rest =>
    match skip with
    | skip + 1 => piecesFrom skip rest
    | 0 =>
      if c = '\x7b' then
        match slotName? rest with
        | some name => .slot (String.ofList name) :: piecesFrom (name.length + 1) rest
        | none => consText c (piecesFrom 0 rest)
      else consText c (piecesFrom 0 rest)

def pieces (template : String) : List Piece :=
  piecesFrom 0 template.toList

def strip (template : String) : String :=
  String.ofList (Text.stripBy (· == '/') template.toList)

def slots (pieces : List Piece) : List String :=
  pieces.filterMap fun
    | .slot name => some name
    | .text _ => none

def slotNames (template : String) : List String :=
  slots (pieces template)

def signature (template : String) : List String :=
  (slotNames template).foldl (fun seen name => if seen.contains name then seen else seen ++ [name]) []

def fillPieces (value? : String → Option String) : List Piece → Except String (List Char)
  | [] => .ok []
  | .text chars :: rest => (fillPieces value? rest).map (chars ++ ·)
  | .slot name :: rest =>
    match value? name with
    | none => .error name
    | some value => (fillPieces value? rest).map (value.toList ++ ·)

def expand (template : String) (value? : String → Option String) : Except String String :=
  (fillPieces value? (pieces (strip template))).map String.ofList

end Template

end ClientForge
