import ClientForge.Text.Basic
import ClientForge.Text.Word

namespace ClientForge.Text

/-- How a paragraph is set: the indents count towards the width. -/
structure Layout where
  width : Nat
  firstIndent : List Char
  restIndent : List Char
  cutsChunks : Bool

def isBlankChunk (chunk : List Char) : Bool :=
  chunk.all isBlank

def takeFit (room : Nat) : List (List Char) → List (List Char) × List (List Char)
  | [] => ([], [])
  | chunk :: rest =>
    if chunk.length ≤ room then
      let (line, others) := takeFit (room - chunk.length) rest
      (chunk :: line, others)
    else ([], chunk :: rest)

def lastHyphen? (text : List Char) : Option Nat :=
  (text.reverse.idxOf? '-').map (text.length - 1 - ·)

def cutPoint (room : Nat) (chunk : List Char) : Nat :=
  match lastHyphen? (chunk.take room) with
  | some i => if 0 < i && (chunk.take i).any (· != '-') then i + 1 else room
  | none => room

def dropBlankEnd (line : List (List Char)) : List (List Char) :=
  match line.getLast? with
  | some chunk => if isBlankChunk chunk then line.dropLast else line
  | none => line

def nextLine (cuts : Bool) (width : Nat) (chunks : List (List Char)) :
    List (List Char) × List (List Char) :=
  match takeFit width chunks with
  | (line, chunk :: rest) =>
    if chunk.length ≤ width then (dropBlankEnd line, chunk :: rest)
    else if cuts then
      let cut := cutPoint (width - line.flatten.length) chunk
      (dropBlankEnd (line ++ [chunk.take cut]), chunk.drop cut :: rest)
    else if line.isEmpty then (dropBlankEnd [chunk], rest)
    else (dropBlankEnd line, chunk :: rest)
  | (line, []) => (dropBlankEnd line, [])

def fillFrom (layout : Layout) (started : Bool) : Nat → List (List Char) → List (List Char)
  | 0, _ => []
  | _ + 1, [] => []
  | fuel + 1, chunk :: chunks =>
    -- a blank chunk may open the first line, but no other
    let chunks := if started && isBlankChunk chunk then chunks else chunk :: chunks
    let indent := if started then layout.restIndent else layout.firstIndent
    let (line, rest) := nextLine layout.cutsChunks (layout.width - indent.length) chunks
    if line.isEmpty then fillFrom layout started fuel rest
    else (indent ++ line.flatten) :: fillFrom layout true fuel rest

def fill (layout : Layout) (chunks : List (List Char)) : List (List Char) :=
  fillFrom layout false (chunks.length + chunks.flatten.length) chunks

def expandTabs (column : Nat) : List Char → List Char
  | [] => []
  | c :: rest =>
    if c = '\t' then
      let count := 8 - column % 8
      List.replicate count ' ' ++ expandTabs (column + count) rest
    else c :: expandTabs (if c = '\n' || c = '\r' then 0 else column + 1) rest

def flattenBreaks (text : List Char) : List Char :=
  (expandTabs 0 text).map fun c => if 10 ≤ c.toNat && c.toNat ≤ 13 then ' ' else c

def isWordClose (c : Char) : Bool :=
  isWord c || "!\"'&.,?".toList.contains c

def opensDash (text : List Char) : Bool :=
  2 ≤ (text.takeWhile (· == '-')).length && ((text.dropWhile (· == '-')).head?.map isWord).getD false

def hyphenates (before after : List Char) : Bool :=
  (match before with
    | a :: b :: more => (isWordLetter a && isWordLetter b) ||
        (isWordLetter a && b == '-' && (more.head?.map isWordLetter).getD false)
    | _ => false) &&
  (match after with
    | a :: b :: more => isWordLetter a &&
        (isWordLetter b || (b == '-' && (more.head?.map isWordLetter).getD false))
    | _ => false)

def wordChunk (before : List Char) : List Char → List Char × List Char
  -- `before` is all that stands before the rest, turned around
  | [] => ([], [])
  | c :: rest =>
    if c = ' ' || ((before.head?.map isWordClose).getD false && opensDash (c :: rest)) then
      ([], c :: rest)
    else if c = '-' && hyphenates before rest then ([c], rest)
    else
      let (chunk, others) := wordChunk (c :: before) rest
      (c :: chunk, others)

def nextChunk (before : List Char) : List Char → List Char × List Char
  | [] => ([], [])
  | c :: rest =>
    if c = ' ' then ((c :: rest).takeWhile (· == ' '), rest.dropWhile (· == ' '))
    else if (before.head?.map isWordClose).getD false && opensDash (c :: rest) then
      ((c :: rest).takeWhile (· == '-'), rest.dropWhile (· == '-'))
    else
      let (chunk, others) := wordChunk (c :: before) rest
      (c :: chunk, others)

def chunksFrom (before : List Char) : Nat → List Char → List (List Char)
  | 0, _ => []
  | _ + 1, [] => []
  | fuel + 1, c :: text =>
    let (chunk, rest) := nextChunk before (c :: text)
    chunk :: chunksFrom (chunk.reverse ++ before) fuel rest

def chunks (text : List Char) : List (List Char) :=
  chunksFrom [] text.length text

end ClientForge.Text
