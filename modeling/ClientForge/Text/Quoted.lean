import ClientForge.Text.Basic
import ClientForge.Text.Printable

namespace ClientForge.Text

def codeEscape (c : Char) : List Char :=
  let n := c.toNat
  if n < 0x100 then '\\' :: 'x' :: hexDigits 2 n
  else if n < 0x10000 then '\\' :: 'u' :: hexDigits 4 n
  else '\\' :: 'U' :: hexDigits 8 n

def escapeChar (c : Char) : List Char :=
  if c = '\\' then ['\\', '\\']
  else if c = '\n' then ['\\', 'n']
  else if c = '\r' then ['\\', 'r']
  else if c = '\t' then ['\\', 't']
  else if isPrintable c then [c]
  else codeEscape c

def quoteMark (text : List Char) : Char :=
  if text.contains '\'' && !text.contains '"' then '"' else '\''

def quotedBody (text : List Char) : List Char :=
  let mark := quoteMark text
  text.flatMap fun c => if c = mark then ['\\', c] else escapeChar c

def quoted (text : String) : String :=
  let mark := quoteMark text.toList
  String.ofList (mark :: quotedBody text.toList ++ [mark])

def allMarks : List (List Char) :=
  [['\''], ['"'], ['"', '"', '"'], ['\'', '\'', '\'']]

def longMarks : List (List Char) :=
  [['"', '"', '"'], ['\'', '\'', '\'']]

def hasInfix (part : List Char) : List Char → Bool
  | [] => part.isEmpty
  | c :: rest => part.isPrefixOf (c :: rest) || hasInfix part rest

def sameEnd (body : List Char) (mark : List Char) : Bool :=
  mark.head? == body.getLast?

/-- The text of one part of a literal, and which of `marks` may still enclose the whole. Line breaks
and tabs stand for themselves unless `escapesLayout`. -/
def literalPart (escapesLayout : Bool) (marks : List (List Char)) (text : List Char) :
    List Char × List (List Char) :=
  let body := text.flatMap fun c =>
    if !escapesLayout && (c == '\n' || c == '\t') then [c] else escapeChar c
  let usable := (if body.contains '\n' then marks.filter longMarks.contains else marks).filter
    fun mark => !hasInfix mark body
  match usable with
  | [] =>
    let mark := quoteMark text
    (quotedBody text, [(marks.find? (·.contains mark)).getD [mark]])
  | mark :: others =>
    if body.isEmpty then (body, mark :: others)
    else
      let sorted := usable.filter (!sameEnd body ·) ++ usable.filter (sameEnd body ·)
      if sameEnd body (sorted.headD []) then
        (body.dropLast ++ '\\' :: (body.getLast?.toList), sorted)
      else (body, sorted)

def blockQuoted (text : String) : String :=
  let (body, marks) := literalPart false longMarks text.toList
  let mark := marks.headD []
  String.ofList (mark ++ body ++ mark)

end ClientForge.Text
