import ClientForge.Text.Basic
import ClientForge.Yaml.Cursor

namespace ClientForge.Yaml

def quotedBreaks : Nat → Cursor → Option (List Char × Cursor)
  | 0, _ => none
  | fuel + 1, cursor =>
    if cursor.atDocumentEdge then none
    else
      let (_, cursor) := cursor.takeWhile fun c => c == ' ' || c == '\t'
      match cursor.takeBreak? with
      | some (c, cursor) => (quotedBreaks fuel cursor).map fun (cs, cursor) => (c :: cs, cursor)
      | none => some ([], cursor)

def foldBreaks (first : Char) (others : List Char) : List Char :=
  if first != '\n' then first :: others
  else if others.isEmpty then [' '] else others

def quotedGap (cursor : Cursor) : Option (List Char × Cursor) :=
  let (blanks, cursor) := cursor.takeWhile fun c => c == ' ' || c == '\t'
  if isEnd cursor.peek then none
  else match cursor.takeBreak? with
    | some (c, cursor) =>
      (quotedBreaks (cursor.rest.length + 1) cursor).map fun (cs, cursor) =>
        (foldBreaks c cs, cursor)
    | none => some (blanks, cursor)

def escapes : List (Char × Char) :=
  [('0', '\x00'), ('a', '\x07'), ('b', '\x08'), ('t', '\t'), ('\t', '\t'), ('n', '\n'),
   ('v', '\x0b'), ('f', '\x0c'), ('r', '\r'), ('e', '\x1b'), (' ', ' '), ('"', '"'), ('\\', '\\'),
   ('/', '/'), ('N', '\x85'), ('_', '\xa0'), ('L', '\u2028'), ('P', '\u2029')]

def codeLengths : List (Char × Nat) :=
  [('x', 2), ('u', 4), ('U', 8)]

def escape (cursor : Cursor) : Option (List Char × Cursor) :=
  let c := cursor.peek
  match escapes.lookup c, codeLengths.lookup c, cursor.takeBreak? with
  | some meant, _, _ => some ([meant], cursor.advance)
  | none, some count, _ =>
    let digits := cursor.advance.rest.take count
    if digits.length == count then
      match Text.hexNumber? digits with
      | some n => if n < 0x110000 then some ([Char.ofNat n], cursor.skip (count + 1)) else none
      | none => none
    else none
  | none, none, some (_, cursor) => quotedBreaks (cursor.rest.length + 1) cursor
  | none, none, none => none

def quotedText (mark : Char) : Nat → Cursor → Option (List Char × Cursor)
  | 0, _ => none
  | fuel + 1, cursor =>
    let c := cursor.peek
    let more (found : Option (List Char × Cursor)) : Option (List Char × Cursor) := do
      let (cs, cursor) ← found
      let (others, cursor) ← quotedText mark fuel cursor
      return (cs ++ others, cursor)
    if c == mark then
      if mark == '\'' && cursor.peek 1 == '\'' then more (some (['\''], cursor.skip 2))
      else some ([], cursor.advance)
    else if isGap c then more (quotedGap cursor)
    else if mark == '"' && c == '\\' then more (escape cursor.advance)
    else more (some ([c], cursor.advance))

/-- The gap behind a word of a plain text, whether a new line was started, and the place behind it;
no gap means that the text is at its end. -/
def plainBreaks : Nat → Cursor → Option (List Char) × Cursor
  | 0, cursor => (none, cursor)
  | fuel + 1, cursor =>
    if cursor.peek == ' ' then plainBreaks fuel cursor.advance
    else match cursor.takeBreak? with
      | some (c, cursor) =>
        if cursor.atDocumentEdge then (none, cursor)
        else
          let (others, cursor) := plainBreaks fuel cursor
          (others.map (c :: ·), cursor)
      | none => (some [], cursor)

structure PlainGap where
  text : List Char
  startsLine : Bool
  cursor : Cursor

def plainGap (cursor : Cursor) : PlainGap :=
  let (blanks, cursor) := cursor.takeWhile (· == ' ')
  match cursor.takeBreak? with
  | some (c, cursor) =>
    if cursor.atDocumentEdge then ⟨[], true, cursor⟩
    else
      match plainBreaks (cursor.rest.length + 1) cursor with
      | (some others, cursor) => ⟨foldBreaks c others, true, cursor⟩
      | (none, cursor) => ⟨[], true, cursor⟩
  | none => ⟨blanks, false, cursor⟩

def flowIndicators : List Char :=
  [',', '?', '[', ']', '\x7b', '\x7d']

def endsPlain (inFlow : Bool) (cursor : Cursor) (i : Nat) : Bool :=
  let c := cursor.peek i
  let next := cursor.peek (i + 1)
  isGap c ||
    (c == ':' && (isGap next || (inFlow && [',', '[', ']', '\x7b', '\x7d'].contains next))) ||
    (inFlow && flowIndicators.contains c)

def plainWordFrom (inFlow : Bool) : Nat → Cursor → List Char × Cursor
  | 0, cursor => ([], cursor)
  | fuel + 1, cursor =>
    if endsPlain inFlow cursor 0 then ([], cursor)
    else
      let (cs, after) := plainWordFrom inFlow fuel cursor.advance
      (cursor.peek :: cs, after)

structure PlainText where
  text : List Char
  startsLine : Bool
  cursor : Cursor

def plainText (inFlow : Bool) (indent : Int) (gap : List Char) (startsLine : Bool) :
    Nat → Cursor → PlainText
  | 0, cursor => ⟨[], startsLine, cursor⟩
  | fuel + 1, cursor =>
    if cursor.peek == '#' then ⟨[], startsLine, cursor⟩
    else
      let (word, after) := plainWordFrom inFlow (cursor.rest.length + 1) cursor
      if word.isEmpty then ⟨[], startsLine, cursor⟩
      else
        let next := plainGap after
        if next.text.isEmpty || next.cursor.peek == '#' ||
            (!inFlow && (next.cursor.column : Int) < indent) then
          ⟨gap ++ word, next.startsLine, next.cursor⟩
        else
          let others := plainText inFlow indent next.text next.startsLine fuel next.cursor
          ⟨gap ++ word ++ others.text, others.startsLine, others.cursor⟩

inductive Chomping
  | strip
  | clip
  | keep
  deriving DecidableEq, Repr

def chomping? : Char → Option Chomping
  | '+' => some .keep
  | '-' => some .strip
  | _ => none

def increment? (c : Char) : Option Nat :=
  if '1' ≤ c ∧ c ≤ '9' then some (c.toNat - '0'.toNat) else none

def blockHeader (cursor : Cursor) : Option (Chomping × Option Nat × Cursor) :=
  let a := cursor.peek 0
  let b := cursor.peek 1
  let (chomping, increment, count) := match chomping? a, increment? a with
    | some chomping, _ =>
      match increment? b with
      | some n => (chomping, some n, 2)
      | none => (chomping, none, 1)
    | none, some n =>
      match chomping? b with
      | some chomping => (chomping, some n, 2)
      | none => (Chomping.clip, some n, 1)
    | none, none => (Chomping.clip, none, 0)
  let cursor := cursor.skip count
  if cursor.peek == ' ' || isBreakOrEnd cursor.peek then
    let (_, cursor) := cursor.takeWhile (· == ' ')
    let (_, cursor) :=
      if cursor.peek == '#' then cursor.takeWhile (!isBreak ·) else ([], cursor)
    if isEnd cursor.peek then some (chomping, increment, cursor)
    else cursor.takeBreak?.map fun (_, cursor) => (chomping, increment, cursor)
  else none

def leadingLines (widest : Nat) : Nat → Cursor → List Char × Nat × Cursor
  | 0, cursor => ([], widest, cursor)
  | fuel + 1, cursor =>
    if cursor.peek == ' ' then
      leadingLines (max widest cursor.advance.column) fuel cursor.advance
    else match cursor.takeBreak? with
      | some (c, cursor) =>
        let (cs, widest, cursor) := leadingLines widest fuel cursor
        (c :: cs, widest, cursor)
      | none => ([], widest, cursor)

def skipIndent (indent : Nat) (cursor : Cursor) : Cursor :=
  let blanks := (cursor.rest.takeWhile (· == ' ')).length
  cursor.skip (min blanks (indent - cursor.column))

def blockBreaks (indent : Nat) : Nat → Cursor → List Char × Cursor
  | 0, cursor => ([], cursor)
  | fuel + 1, cursor =>
    let cursor := skipIndent indent cursor
    match cursor.takeBreak? with
    | some (c, cursor) =>
      let (cs, cursor) := blockBreaks indent fuel cursor
      (c :: cs, cursor)
    | none => ([], cursor)

def blockLines (folds : Bool) (indent : Nat) (breaks : List Char) :
    Nat → Cursor → List Char × List Char × List Char × Cursor
  | 0, cursor => ([], [], breaks, cursor)
  | fuel + 1, cursor =>
    if cursor.column == indent && !isEnd cursor.peek then
      let opensWord := !(cursor.peek == ' ' || cursor.peek == '\t')
      let (line, cursor) := cursor.takeWhile (!isBreak ·)
      let (lineBreak, cursor) := match cursor.takeBreak? with
        | some (c, cursor) => ([c], cursor)
        | none => ([], cursor)
      let (nextBreaks, cursor) := blockBreaks indent (cursor.rest.length + 1) cursor
      if cursor.column == indent && !isEnd cursor.peek then
        let folded := folds && lineBreak == ['\n'] && opensWord &&
          !(cursor.peek == ' ' || cursor.peek == '\t')
        let joint := if folded then (if nextBreaks.isEmpty then [' '] else []) else lineBreak
        let (others, last, below, cursor) := blockLines folds indent nextBreaks fuel cursor
        (breaks ++ line ++ joint ++ others, last, below, cursor)
      else (breaks ++ line, lineBreak, nextBreaks, cursor)
    else ([], [], breaks, cursor)

def blockText (folds : Bool) (outer : Int) (cursor : Cursor) : Option (List Char × Cursor) := do
  let (chomping, increment, cursor) ← blockHeader cursor
  let least := (max (outer + 1) 1).toNat
  let (breaks, indent, cursor) := match increment with
    | none =>
      let (breaks, widest, cursor) := leadingLines 0 (cursor.rest.length + 1) cursor
      (breaks, max least widest, cursor)
    | some n =>
      let indent := least + n - 1
      let (breaks, cursor) := blockBreaks indent (cursor.rest.length + 1) cursor
      (breaks, indent, cursor)
  let (body, last, below, cursor) :=
    blockLines folds indent breaks (cursor.rest.length + 1) cursor
  let tail := match chomping with
    | .strip => []
    | .clip => last
    | .keep => last ++ below
  return (body ++ tail, cursor)

end ClientForge.Yaml
