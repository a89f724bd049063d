import ClientForge.Json.Fault
import ClientForge.Text.Basic
import ClientForge.Value.Basic

namespace ClientForge.Json

abbrev Stuck := Cause × List Char

def isSpace (c : Char) : Bool :=
  c == ' ' || c == '\t' || c == '\n' || c == '\r'

def skipSpace (text : List Char) : List Char :=
  text.dropWhile isSpace

def shortEscape? : Char → Option Char
  | '"' => some '"'
  | '\\' => some '\\'
  | '/' => some '/'
  | 'b' => some '\x08'
  | 'f' => some '\x0c'
  | 'n' => some '\n'
  | 'r' => some '\r'
  | 't' => some '\t'
  | _ => none

def isHighSurrogate (n : Nat) : Bool :=
  0xD800 ≤ n && n ≤ 0xDBFF

def isLowSurrogate (n : Nat) : Bool :=
  0xDC00 ≤ n && n ≤ 0xDFFF

def unitChar (n : Nat) : Char :=
  if isHighSurrogate n || isLowSurrogate n then '\ufffd' else Char.ofNat n

def codeUnit? (text : List Char) : Option (Nat × List Char) := do
  let digits := (text.drop 1).take 4
  let rest := text.drop 5
  if digits.length < 4 || rest.isEmpty then none
  let n ← Text.hexNumber? digits
  return (n, rest)

/-- The character of the escape whose `u` heads `text`, and what follows it, or the `u` at which
no four digits follow. A surrogate pair is one character. -/
def unicodeEscape (text : List Char) : Except (List Char) (Char × List Char) :=
  match codeUnit? text with
  | none => .error text
  | some (high, rest) =>
    match rest with
    | '\\' :: 'u' :: more =>
      if isHighSurrogate high && 5 ≤ more.length then
        match codeUnit? ('u' :: more) with
        | none => .error ('u' :: more)
        | some (low, more) =>
          if isLowSurrogate low then
            .ok (Char.ofNat (0x10000 + (high - 0xD800) * 0x400 + (low - 0xDC00)), more)
          else .ok (unitChar high, rest)
      else .ok (unitChar high, rest)
    | _ => .ok (unitChar high, rest)

def readString (opening : List Char) : (fuel : Nat) → List Char → Except Stuck (List Char × List Char)
  | 0, _ => .error (.unterminatedString, opening)
  | _ + 1, [] => .error (.unterminatedString, opening)
  | fuel + 1, c :: rest =>
    if c == '"' then .ok ([], rest)
    else if c == '\\' then
      match rest with
      | [] => .error (.unterminatedString, opening)
      | 'u' :: _ =>
        match unicodeEscape rest with
        | .error place => .error (.invalidUnicodeEscape, place)
        | .ok (d, more) => (readString opening fuel more).map fun (s, r) => (d :: s, r)
      | e :: more =>
        match shortEscape? e with
        | none => .error (.invalidEscape, c :: rest)
        | some d => (readString opening fuel more).map fun (s, r) => (d :: s, r)
    else if c.toNat < 32 then .error (.controlCharacter, c :: rest)
    else (readString opening fuel rest).map fun (s, r) => (c :: s, r)

def digitsNumber (digits : List Char) : Nat :=
  digits.foldl (fun n c => n * 10 + (c.toNat - '0'.toNat)) 0

def exponent? (text : List Char) : Option (Int × List Char) :=
  match text with
  | e :: more =>
    if e == 'e' || e == 'E' then
      let (negative, more) := match more with
        | '-' :: more => (true, more)
        | '+' :: more => (false, more)
        | _ => (false, more)
      let digits := more.takeWhile Char.isDigit
      if digits.isEmpty then none
      else
        let n : Int := digitsNumber digits
        some (if negative then -n else n, more.dropWhile Char.isDigit)
    else none
  | [] => none

def number? (text : List Char) : Option (Value × List Char) :=
  let (negative, body) := match text with
    | '-' :: body => (true, body)
    | _ => (false, text)
  let whole := match body with
    | '0' :: _ => ['0']
    | _ => body.takeWhile Char.isDigit
  if whole.isEmpty then none
  else
    let rest := body.drop whole.length
    let (fraction, rest) := match rest with
      | '.' :: more =>
        let digits := more.takeWhile Char.isDigit
        if digits.isEmpty then ([], rest) else (digits, more.dropWhile Char.isDigit)
      | _ => ([], rest)
    match fraction.isEmpty, exponent? rest with
    | true, none =>
      let n : Int := digitsNumber whole
      some (.int (if negative then -n else n), rest)
    | false, none =>
      some (.real (.ofDecimal negative (digitsNumber (whole ++ fraction)) (-fraction.length)), rest)
    | _, some (e, more) =>
      some (.real (.ofDecimal negative (digitsNumber (whole ++ fraction)) (e - fraction.length)), more)

def wordValues : List (List Char × Value) :=
  [("null".toList, .null), ("true".toList, .bool true), ("false".toList, .bool false),
   ("NaN".toList, .real .notANumber), ("Infinity".toList, .real (.infinite false)),
   ("-Infinity".toList, .real (.infinite true))]

def word? (text : List Char) : Option (Value × List Char) :=
  wordValues.findSome? fun (word, value) =>
    if word.isPrefixOf text then some (value, text.drop word.length) else none

mutual

def readValue : (fuel : Nat) → (text : List Char) → Except Stuck (Value × List Char)
  | 0, text => .error (.expectedValue, text)
  | fuel + 1, text =>
    match text with
    | '"' :: rest => do
      let (s, rest) ← readString text rest.length.succ rest
      return (.text (String.ofList s), rest)
    | '\x7b' :: rest =>
      match skipSpace rest with
      | '\x7d' :: rest => return (.object [], rest)
      | rest => readEntries fuel [] rest
    | '[' :: rest =>
      match skipSpace rest with
      | ']' :: rest => return (.list [], rest)
      | rest => readItems fuel [] rest
    | _ =>
      match word? text <|> number? text with
      | some found => .ok found
      | none => .error (.expectedValue, text)

def readItems : (fuel : Nat) → (done : List Value) → (text : List Char) →
    Except Stuck (Value × List Char)
  | 0, _, text => .error (.expectedValue, text)
  | fuel + 1, done, text => do
    let (value, rest) ← readValue fuel text
    match skipSpace rest with
    | ']' :: rest => return (.list (value :: done).reverse, rest)
    | ',' :: rest => readItems fuel (value :: done) (skipSpace rest)
    | rest => .error (.expectedComma, rest)

def readEntries : (fuel : Nat) → (done : List (String × Value)) → (text : List Char) →
    Except Stuck (Value × List Char)
  | 0, _, text => .error (.expectedKey, text)
  | fuel + 1, done, text =>
    match text with
    | '"' :: rest => do
      let (key, rest) ← readString text rest.length.succ rest
      match skipSpace rest with
      | ':' :: rest =>
        let (value, rest) ← readValue fuel (skipSpace rest)
        let done := (String.ofList key, value) :: done
        match skipSpace rest with
        | '\x7d' :: rest => return (.object (Entries.ofPairs done.reverse), rest)
        | ',' :: rest => readEntries fuel done (skipSpace rest)
        | rest => .error (.expectedComma, rest)
      | rest => .error (.expectedColon, rest)
    | _ => .error (.expectedKey, text)

end

def readDocument (text : List Char) : Except Stuck Value := do
  if text.head? == some '\ufeff' then .error (.byteOrderMark, text)
  let (value, rest) ← readValue (2 * text.length).succ (skipSpace text)
  match skipSpace rest with
  | [] => return value
  | rest => .error (.extraData, rest)

def read (text : String) : Except Fault Value :=
  let cs := text.toList
  match readDocument cs with
  | .ok value => .ok value
  | .error (cause, rest) => .error (Fault.after (cs.take (cs.length - rest.length)) cause)

end ClientForge.Json
