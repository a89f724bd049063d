import ClientForge.Text.Basic
import ClientForge.Value.Basic

namespace ClientForge.Toml

open Text (after?)

def isBlank (c : Char) : Bool :=
  c == ' ' || c == '\t'

def skipBlank (text : List Char) : List Char :=
  text.dropWhile isBlank

def isIllegal (c : Char) : Bool :=
  (c.toNat < 32 && c != '\t') || c.toNat == 127

def escapes : List (Char × Char) :=
  [('b', '\x08'), ('t', '\t'), ('n', '\n'), ('f', '\x0c'), ('r', '\r'), ('"', '"'), ('\\', '\\')]

def codeChar? (count : Nat) (text : List Char) : Option (Char × List Char) := do
  let digits := text.take count
  guard (digits.length == count)
  let n ← Text.hexNumber? digits
  guard (n < 0xD800 || (0xE000 ≤ n && n < 0x110000))
  return (Char.ofNat n, text.drop count)

def escape (long : Bool) : List Char → Option (List Char × List Char)
  | [] => none
  | c :: rest =>
    if long && (isBlank c || c == '\n') then
      match (if c == '\n' then c :: rest else skipBlank rest) with
      | [] => some ([], [])
      | '\n' :: rest => some ([], rest.dropWhile fun c => isBlank c || c == '\n')
      | _ => none
    else if c == 'u' then (codeChar? 4 rest).map fun (c, rest) => ([c], rest)
    else if c == 'U' then (codeChar? 8 rest).map fun (c, rest) => ([c], rest)
    else (escapes.lookup c).map fun meant => ([meant], rest)

def basicText (long : Bool) : Nat → List Char → Option (List Char × List Char)
  | 0, _ => none
  | _ + 1, [] => none
  | fuel + 1, c :: rest =>
    let more (chars : List Char) (rest : List Char) : Option (List Char × List Char) :=
      (basicText long fuel rest).map fun (others, rest) => (chars ++ others, rest)
    if c == '"' then
      if !long then some ([], rest)
      else match after? "\"\"" rest with
        | some rest => some ([], rest)
        | none => more [c] rest
    else if c == '\\' then
      match escape long rest with
      | some (chars, rest) => more chars rest
      | none => none
    else if isIllegal c && !(long && c == '\n') then none
    else more [c] rest

def literalText (long : Bool) : List Char → Option (List Char × List Char)
  | [] => none
  | c :: rest =>
    let ends := if long then (after? "''" rest) else some rest
    match c == '\'', ends with
    | true, some rest => some ([], rest)
    | _, _ =>
      if isIllegal c && !(long && c == '\n') then none
      else (literalText long rest).map fun (others, rest) => (c :: others, rest)

def closingMarks (mark : Char) : List Char → List Char × List Char
  -- up to five marks may stand at the end, of which the last three close the text
  | a :: b :: rest =>
    if a == mark && b == mark then ([mark, mark], rest)
    else if a == mark then ([mark], b :: rest)
    else ([], a :: b :: rest)
  | [a] => if a == mark then ([mark], []) else ([], [a])
  | [] => ([], [])

def dropFirstBreak : List Char → List Char
  | '\n' :: rest => rest
  | text => text

def text? (text : List Char) : Option (List Char × List Char) :=
  match after? "\"\"\"" text, after? "'''" text, text with
  | some rest, _, _ => do
    let rest := dropFirstBreak rest
    let (chars, rest) ← basicText true (rest.length + 1) rest
    let (marks, rest) := closingMarks '"' rest
    return (chars ++ marks, rest)
  | none, some rest, _ => do
    let (chars, rest) ← literalText true (dropFirstBreak rest)
    let (marks, rest) := closingMarks '\'' rest
    return (chars ++ marks, rest)
  | none, none, '"' :: rest => basicText false (rest.length + 1) rest
  | none, none, '\'' :: rest => literalText false rest
  | _, _, _ => none

def digitsOf (isDigit : Char → Bool) : List Char → List Char × List Char
  | [] => ([], [])
  | [c] => if isDigit c then ([c], []) else ([], [c])
  | c :: d :: rest =>
    if !isDigit c then ([], c :: d :: rest)
    else if d == '_' then
      match rest with
      | e :: _ =>
        if isDigit e then
          let (digits, rest) := digitsOf isDigit rest
          (c :: digits, rest)
        else ([c], d :: rest)
      | [] => ([c], [d])
    else
      let (digits, rest) := digitsOf isDigit (d :: rest)
      (c :: digits, rest)

def numberOf (base : Nat) (digits : List Char) : Nat :=
  digits.foldl (fun n c => n * base + (Text.hexValue? c).getD 0) 0

def decimalDigits (text : List Char) : List Char × List Char :=
  digitsOf Char.isDigit text

def basedNumber? (base : Nat) (isDigit : Char → Bool) (text : List Char) :
    Option (Value × List Char) :=
  match digitsOf isDigit text with
  | ([], _) => none
  | (digits, rest) => some (.int (numberOf base digits), rest)

def exponent? : List Char → Option (Int × List Char)
  | e :: text =>
    if e == 'e' || e == 'E' then
      let (negative, text) := match text with
        | '-' :: rest => (true, rest)
        | '+' :: rest => (false, rest)
        | _ => (false, text)
      match decimalDigits text with
      | ([], _) => none
      | (digits, rest) =>
        let n : Int := numberOf 10 digits
        some (if negative then -n else n, rest)
    else none
  | [] => none

def fraction? : List Char → Option (List Char × List Char)
  | '.' :: text =>
    match decimalDigits text with
    | ([], _) => none
    | found => some found
  | _ => none

def decimal? (negative : Bool) (text : List Char) : Option (Value × List Char) :=
  let wholePart? := match text with
    | '0' :: rest => some (['0'], rest)
    | _ =>
      match decimalDigits text with
      | ([], _) => none
      | found => some found
  wholePart?.map fun (digits, rest) =>
    let (fraction, behind) := (fraction? rest).getD ([], rest)
    match exponent? behind with
    | some (e, behind) =>
      (.real (Double.ofDecimal negative (numberOf 10 (digits ++ fraction)) (e - fraction.length)),
        behind)
    | none =>
      if fraction.isEmpty then
        let n : Int := numberOf 10 digits
        (.int (if negative then -n else n), rest)
      else
        (.real (Double.ofDecimal negative (numberOf 10 (digits ++ fraction)) (-fraction.length)),
          behind)

def isHexDigit (c : Char) : Bool :=
  (Text.hexValue? c).isSome

def number? (text : List Char) : Option (Value × List Char) :=
  let based := match text with
    | '0' :: 'x' :: rest => basedNumber? 16 isHexDigit rest
    | '0' :: 'b' :: rest => basedNumber? 2 (fun c => c == '0' || c == '1') rest
    | '0' :: 'o' :: rest => basedNumber? 8 (fun c => '0' ≤ c && c ≤ '7') rest
    | _ => none
  based.or <| match text with
    | '-' :: rest => decimal? true rest
    | '+' :: rest => decimal? false rest
    | _ => decimal? false text

def wordValues : List (String × Value) :=
  [("true", .bool true), ("false", .bool false), ("inf", .real (.infinite false)),
   ("nan", .real .notANumber), ("-inf", .real (.infinite true)), ("+inf", .real (.infinite false)),
   ("-nan", .real .notANumber), ("+nan", .real .notANumber)]

def word? (text : List Char) : Option (Value × List Char) :=
  wordValues.findSome? fun (word, value) => (after? word text).map (value, ·)

def field? (count least most : Nat) (text : List Char) : Option (Nat × List Char) :=
  let digits := text.take count
  let n := numberOf 10 digits
  if digits.length == count && digits.all Char.isDigit && least ≤ n && n ≤ most then
    some (n, text.drop count)
  else none

def daysIn (year month : Nat) : Nat :=
  if month == 2 then
    if year % 4 == 0 && (year % 100 != 0 || year % 400 == 0) then 29 else 28
  else if [4, 6, 9, 11].contains month then 30
  else 31

def time? (text : List Char) : Option (List Char) := do
  let (_, text) ← field? 2 0 23 text
  let (_, text) ← field? 2 0 59 (← after? ":" text)
  let (_, text) ← field? 2 0 59 (← after? ":" text)
  match text with
  | '.' :: c :: rest => return if c.isDigit then rest.dropWhile Char.isDigit else text
  | _ => return text

def zone (text : List Char) : List Char :=
  match text with
  | c :: rest =>
    if c == 'Z' || c == 'z' then rest
    else if c == '+' || c == '-' then
      (do
        let (_, rest) ← field? 2 0 23 rest
        let (_, rest) ← field? 2 0 59 (← after? ":" rest)
        return rest).getD text
    else text
  | [] => []

def date? (text : List Char) : Option (Bool × List Char) := do
  let (year, text) ← field? 4 0 9999 text
  let (month, text) ← field? 2 1 12 (← after? "-" text)
  let (day, text) ← field? 2 1 31 (← after? "-" text)
  return (0 < year && day ≤ daysIn year month, text)

def dateTime? (text : List Char) : Option (Bool × List Char) :=
  (date? text).map fun (valid, rest) =>
    match rest with
    | c :: behind =>
      if c == 'T' || c == 't' || c == ' ' then
        match time? behind with
        | some behind => (valid, zone behind)
        | none => (valid, rest)
      else (valid, rest)
    | [] => (valid, rest)

def moment (text rest : List Char) : Value :=
  .moment (String.ofList (text.take (text.length - rest.length)))

def measured? (text : List Char) : Option (Value × List Char) :=
  match dateTime? text, time? text with
  | some (valid, rest), _ => if valid then some (moment text rest, rest) else none
  | none, some rest => some (moment text rest, rest)
  | none, none => number? text

end ClientForge.Toml
