import ClientForge.Yaml.Scalar

namespace ClientForge.Yaml

inductive Token
  | directive
  | documentStart
  | documentEnd
  | blockSequence
  | blockMapping
  | blockEnd
  | flowSequence
  | flowSequenceEnd
  | flowMapping
  | flowMappingEnd
  | blockEntry
  | flowEntry
  | key
  | value
  | alias (name : List Char)
  | anchor (name : List Char)
  | tag (name : List Char)
  | scalar (text : List Char) (isPlain : Bool)
  deriving DecidableEq, Repr

/-- A place where a key may turn out to stand, once a colon is found behind it. -/
structure PossibleKey where
  token : Nat
  required : Bool
  index : Nat
  line : Nat
  column : Nat
  deriving Repr

structure Scan where
  cursor : Cursor
  tokens : List Token
  indent : Int
  outer : List Int
  flow : Int
  allowsKey : Bool
  keys : List (Int × PossibleKey)
  deriving Repr

namespace Scan

def start (text : List Char) : Scan :=
  ⟨Cursor.ofText text, [], -1, [], 0, true, []⟩

def inFlow (scan : Scan) : Bool :=
  scan.flow != 0

def push (scan : Scan) (token : Token) : Scan :=
  { scan with tokens := scan.tokens ++ [token] }

def move (scan : Scan) (count : Nat) : Scan :=
  { scan with cursor := scan.cursor.skip count }

def column (scan : Scan) : Int :=
  scan.cursor.column

def skipBlank : Nat → Scan → Scan
  | 0, scan => scan
  | fuel + 1, scan =>
    let (_, cursor) := scan.cursor.takeWhile (· == ' ')
    let (_, cursor) :=
      if cursor.peek == '#' then cursor.takeWhile (!isBreak ·) else ([], cursor)
    match cursor.takeBreak? with
    | some (_, cursor) =>
      skipBlank fuel { scan with cursor, allowsKey := scan.allowsKey || !scan.inFlow }
    | none => { scan with cursor }

def isStale (scan : Scan) (key : PossibleKey) : Bool :=
  -- the colon has to follow within the line, and within 1024 characters
  key.line != scan.cursor.line || scan.cursor.index > key.index + 1024

def dropStale (scan : Scan) : Option Scan :=
  if scan.keys.any fun p => scan.isStale p.2 && p.2.required then none
  else some { scan with keys := scan.keys.filter fun p => !scan.isStale p.2 }

def dropKey (scan : Scan) : Option Scan :=
  match scan.keys.lookup scan.flow with
  | some key =>
    if key.required then none
    else some { scan with keys := scan.keys.filter (·.1 != scan.flow) }
  | none => some scan

def saveKey (scan : Scan) : Option Scan :=
  if scan.allowsKey then do
    let required := !scan.inFlow && scan.indent == scan.column
    let cursor := scan.cursor
    let scan ← scan.dropKey
    return { scan with
      keys := (scan.flow,
        ⟨scan.tokens.length, required, cursor.index, cursor.line, cursor.column⟩) :: scan.keys }
  else some scan

def unwind (column : Int) : List Int → Scan → Scan
  | [], scan => scan
  | outer :: others, scan =>
    if scan.indent > column then
      unwind column others { scan.push .blockEnd with indent := outer, outer := others }
    else scan

def unwindTo (scan : Scan) (column : Int) : Scan :=
  if scan.inFlow then scan else unwind column scan.outer scan

def openBlock (scan : Scan) (column : Int) (token : Token) (place : Nat) : Scan :=
  if scan.indent < column then
    { scan with
      indent := column
      outer := scan.indent :: scan.outer
      tokens := scan.tokens.insertIdx place token }
  else scan

def closeAll (scan : Scan) : Option Scan := do
  let scan ← (scan.unwindTo (-1)).dropKey
  return { scan with allowsKey := false }

def documentToken (scan : Scan) (token : Token) : Option Scan := do
  return (← scan.closeAll).push token |>.move 3

def directive (scan : Scan) : Option Scan := do
  let scan ← scan.closeAll
  let (_, cursor) := scan.cursor.takeWhile (!isBreak ·)
  return { scan.push .directive with cursor }

def openFlow (scan : Scan) (token : Token) : Option Scan := do
  let scan ← scan.saveKey
  return { scan.push token with flow := scan.flow + 1, allowsKey := true } |>.move 1

def closeFlow (scan : Scan) (token : Token) : Option Scan := do
  let scan ← scan.dropKey
  return { scan.push token with flow := scan.flow - 1, allowsKey := false } |>.move 1

def flowEntry (scan : Scan) : Option Scan := do
  let scan ← { scan with allowsKey := true }.dropKey
  return scan.push .flowEntry |>.move 1

def blockEntry (scan : Scan) : Option Scan := do
  let scan ←
    if scan.inFlow then some scan
    else if scan.allowsKey then
      some (scan.openBlock scan.column .blockSequence scan.tokens.length)
    else none
  let scan ← { scan with allowsKey := true }.dropKey
  return scan.push .blockEntry |>.move 1

def explicitKey (scan : Scan) : Option Scan := do
  let scan ←
    if scan.inFlow then some scan
    else if scan.allowsKey then
      some (scan.openBlock scan.column .blockMapping scan.tokens.length)
    else none
  let scan ← { scan with allowsKey := !scan.inFlow }.dropKey
  return scan.push .key |>.move 1

def value (scan : Scan) : Option Scan :=
  match scan.keys.lookup scan.flow with
  | some key =>
    let scan := { scan with
      keys := scan.keys.filter (·.1 != scan.flow)
      tokens := scan.tokens.insertIdx key.token .key
      allowsKey := false }
    let scan := if scan.inFlow then scan else scan.openBlock key.column .blockMapping key.token
    some (scan.push .value |>.move 1)
  | none => do
    let scan ←
      if scan.inFlow then some scan
      else if scan.allowsKey then
        some (scan.openBlock scan.column .blockMapping scan.tokens.length)
      else none
    let scan ← { scan with allowsKey := !scan.inFlow }.dropKey
    return scan.push .value |>.move 1

def isNameChar (c : Char) : Bool :=
  c.isAlphanum || c == '-' || c == '_'

def named (scan : Scan) (token : List Char → Token) : Option Scan := do
  let scan ← scan.saveKey
  let (name, cursor) := scan.cursor.advance.takeWhile isNameChar
  if name.isEmpty then none
  else if isGap cursor.peek || "?:,]\x7d%@`".toList.contains cursor.peek then
    some { scan.push (token name) with cursor, allowsKey := false }
  else none

def isTagChar (c : Char) : Bool :=
  c.isAlphanum || "-;/?:@&=+$,_.!~*'()[]%".toList.contains c

def tag (scan : Scan) : Option Scan := do
  let scan ← scan.saveKey
  let cursor := scan.cursor.advance
  let (name, cursor) ←
    if cursor.peek == '<' then do
      let (name, cursor) := cursor.advance.takeWhile isTagChar
      if name.isEmpty || cursor.peek != '>' then none
      else some ('<' :: name, cursor.advance)
    else
      let (name, cursor) := cursor.takeWhile isTagChar
      some (name, cursor)
  if isGap cursor.peek && cursor.peek != '\t' then
    some { scan.push (.tag name) with cursor, allowsKey := false }
  else none

def block (scan : Scan) (folds : Bool) : Option Scan := do
  let scan ← { scan with allowsKey := true }.dropKey
  let (text, cursor) ← blockText folds scan.indent scan.cursor.advance
  return { scan.push (.scalar text false) with cursor }

def quoted (scan : Scan) (mark : Char) : Option Scan := do
  let scan ← scan.saveKey
  let cursor := scan.cursor.advance
  let (text, cursor) ← quotedText mark (cursor.rest.length + 1) cursor
  return { scan.push (.scalar text false) with cursor, allowsKey := false }

def plain (scan : Scan) : Option Scan := do
  let scan ← scan.saveKey
  let read := plainText scan.inFlow (scan.indent + 1) [] false (scan.cursor.rest.length + 1)
    scan.cursor
  return { scan.push (.scalar read.text true) with
    cursor := read.cursor, allowsKey := read.startsLine }

def opensPlain (scan : Scan) : Bool :=
  let c := scan.cursor.peek
  (!isGap c && !"-?:,[]\x7b\x7d#&*!|>'\"%@`".toList.contains c) ||
    (!isGap (scan.cursor.peek 1) && (c == '-' || (!scan.inFlow && (c == '?' || c == ':'))))

def token (scan : Scan) : Option Scan :=
  let c := scan.cursor.peek
  let atGap := isGap (scan.cursor.peek 1)
  let atStart := scan.cursor.column == 0
  if c == '%' && atStart then scan.directive
  else if atStart && scan.cursor.atDocumentMark '-' then scan.documentToken .documentStart
  else if atStart && scan.cursor.atDocumentMark '.' then scan.documentToken .documentEnd
  else if c == '[' then scan.openFlow .flowSequence
  else if c == '\x7b' then scan.openFlow .flowMapping
  else if c == ']' then scan.closeFlow .flowSequenceEnd
  else if c == '\x7d' then scan.closeFlow .flowMappingEnd
  else if c == ',' then scan.flowEntry
  else if c == '-' && atGap then scan.blockEntry
  else if c == '?' && (scan.inFlow || atGap) then scan.explicitKey
  else if c == ':' && (scan.inFlow || atGap) then scan.value
  else if c == '*' then scan.named .alias
  else if c == '&' then scan.named .anchor
  else if c == '!' then scan.tag
  else if c == '|' && !scan.inFlow then scan.block false
  else if c == '>' && !scan.inFlow then scan.block true
  else if c == '\'' || c == '"' then scan.quoted c
  else if scan.opensPlain then scan.plain
  else none

def run : Nat → Scan → Option (List Token)
  | 0, _ => none
  | fuel + 1, scan => do
    let scan ← (scan.skipBlank (scan.cursor.rest.length + 1)).dropStale
    let scan := scan.unwindTo scan.column
    if isEnd scan.cursor.peek then return (← scan.closeAll).tokens
    else run fuel (← scan.token)

end Scan

def isAllowed (c : Char) : Bool :=
  let n := c.toNat
  n == 9 || n == 10 || n == 13 || (32 ≤ n && n ≤ 126) || n == 0x85 ||
    (0xA0 ≤ n && n ≤ 0xD7FF) || (0xE000 ≤ n && n ≤ 0xFFFD) || 0x10000 ≤ n

def tokens (text : List Char) : Option (List Token) :=
  let text := if text.head? == some '\uFEFF' then text.drop 1 else text
  if text.all isAllowed then (Scan.start text).run (text.length + 2) else none

end ClientForge.Yaml
