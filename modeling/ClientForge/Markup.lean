import ClientForge.Text.Basic

namespace ClientForge

inductive MarkupPart
  | text (chars : List Char)
  | tag (position : Nat) (body : List Char)
  deriving DecidableEq, Repr

namespace Markup

def opensTag (c : Char) : Bool :=
  ('a' ≤ c && c ≤ 'z') || c == '#' || c == '/' || c == '@'

def tagBody? (text : List Char) : Option (List Char) :=
  let body := text.takeWhile fun c => c != '[' && c != ']'
  if (body.head?.map opensTag).getD false && (text.drop body.length).head? == some ']' then some body
  else none

def tagAt? (text : List Char) : Option (Nat × List Char) :=
  let marks := (text.takeWhile (· == '\\')).length
  match text.drop marks with
  | '[' :: rest => (tagBody? rest).map (marks, ·)
  | _ => none

def consChar (c : Char) : List MarkupPart → List MarkupPart
  | .text chars :: rest => .text (c :: chars) :: rest
  | parts => .text [c] :: parts

def tagParts (position marks : Nat) (body : List Char) : List MarkupPart :=
  let kept := List.replicate (marks / 2) '\\'
  (if kept.isEmpty then [] else [.text kept]) ++
    if marks % 2 = 1 then [.text ('[' :: body ++ [']'])] else [.tag (position + marks) body]

def partsFrom (position skip : Nat) : List Char → List MarkupPart
  | [] => []
  | c :: rest =>
    match skip with
    | skip + 1 => partsFrom (position + 1) skip rest
    | 0 =>
      match tagAt? (c :: rest) with
      | some (marks, body) =>
        tagParts position marks body ++ .text [] :: partsFrom (position + 1) (marks + body.length + 1) rest
      | none => consChar c (partsFrom (position + 1) 0 rest)

def escapeFrom (skip : Nat) : List Char → List Char
  | [] => []
  | c :: rest =>
    match skip with
    | skip + 1 => c :: escapeFrom skip rest
    | 0 =>
      match tagAt? (c :: rest) with
      | some (marks, body) =>
        List.replicate marks '\\' ++ '\\' :: c :: escapeFrom (marks + body.length + 1) rest
      | none => c :: escapeFrom 0 rest

def escape (text : String) : String :=
  let body := escapeFrom 0 text.toList
  let marks := (body.reverse.takeWhile (· == '\\')).length
  String.ofList (if marks = 1 then body ++ ['\\'] else body)

def shortStyles : List (String × String) :=
  [("d", "dim"), ("b", "bold"), ("i", "italic"), ("u", "underline"), ("uu", "underline2"),
   ("r", "reverse"), ("s", "strike"), ("o", "overline"), ("c", "conceal")]

def styleName (text : List Char) : String :=
  let name := String.ofList ((Text.stripBy Text.isBlank text).map Char.toLower)
  (shortStyles.lookup name).getD name

def plainText : List Char → List Char
  | [] => []
  | '\\' :: '[' :: rest => '[' :: plainText rest
  | c :: rest => c :: plainText rest

def plain (opened : List String) : List MarkupPart → Except String (List Char)
  | [] => .ok []
  | .text chars :: rest => (plain opened rest).map (plainText chars ++ ·)
  | .tag position body :: rest =>
    let name := body.takeWhile (· != '=')
    match name with
    | '/' :: closing =>
      let style := styleName closing
      if style = "" then
        match opened with
        | [] => .error ("closing tag '[/]' at position " ++ toString position ++
            " has nothing to close")
        | _ :: opened => plain opened rest
      else if opened.contains style then plain (opened.erase style) rest
      else .error ("closing tag '[" ++ String.ofList body ++ "]' at position " ++
        toString position ++ " doesn't match any open tag")
    | name => plain (styleName name :: opened) rest

def isShown (c : Char) : Bool :=
  let n := c.toNat
  !(n == 7 || n == 8 || (11 ≤ n && n ≤ 13))

def render (text : String) : Except String String :=
  (plain [] (partsFrom 0 0 text.toList)).map fun chars => String.ofList (chars.filter isShown)

end Markup

end ClientForge
