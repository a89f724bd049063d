import ClientForge.Text.Basic
import ClientForge.Value.Basic

namespace ClientForge.Yaml

inductive Plain
  | value (v : Value)
  | merge
  | default
  deriving Repr

def trueWords : List String :=
  ["yes", "Yes", "YES", "true", "True", "TRUE", "on", "On", "ON"]

def falseWords : List String :=
  ["no", "No", "NO", "false", "False", "FALSE", "off", "Off", "OFF"]

def nullWords : List String :=
  ["", "~", "null", "Null", "NULL"]

def takeSign : List Char → Bool × List Char
  | '-' :: rest => (true, rest)
  | '+' :: rest => (false, rest)
  | text => (false, text)

def isDigitOrLine (c : Char) : Bool :=
  c.isDigit || c == '_'

def dropLines (text : List Char) : List Char :=
  text.filter (· != '_')

def numberIn? (base : Nat) (digits : List Char) : Option Nat :=
  if digits.isEmpty then none
  else digits.foldlM (fun n c =>
    (Text.hexValue? c).bind fun d => if d < base then some (n * base + d) else none) 0

def isSixtieth : List Char → Bool
  | [a] => a.isDigit
  | [a, b] => '0' ≤ a && a ≤ '5' && b.isDigit
  | _ => false

def sexagesimal? (parts : List (List Char)) : Option Nat :=
  parts.foldlM (fun n part => (numberIn? 10 (dropLines part)).map (n * 60 + ·)) 0

def natural? (text : List Char) : Option Nat :=
  match text with
  | ['0'] => some 0
  | '0' :: 'b' :: digits =>
    if digits.all fun c => c == '0' || c == '1' || c == '_' then numberIn? 2 (dropLines digits)
    else none
  | '0' :: 'x' :: digits =>
    if digits.all fun c => (Text.hexValue? c).isSome || c == '_' then
      numberIn? 16 (dropLines digits)
    else none
  | '0' :: digits =>
    if digits.all fun c => ('0' ≤ c && c ≤ '7') || c == '_' then
      numberIn? 8 ('0' :: dropLines digits)
    else none
  | c :: _ =>
    if '1' ≤ c && c ≤ '9' then
      match Text.splitOn (· == ':') text with
      | [digits] => if digits.all isDigitOrLine then numberIn? 10 (dropLines digits) else none
      | first :: rest =>
        if first.all isDigitOrLine && rest.all isSixtieth then sexagesimal? (first :: rest)
        else none
      | [] => none
    else none
  | [] => none

def whole? (text : List Char) : Option Int :=
  let (negative, digits) := takeSign text
  (natural? digits).map fun n => if negative then -(n : Int) else n

def exponent? : List Char → Option Int
  | [] => some 0
  | e :: sign :: digits =>
    if (e == 'e' || e == 'E') && (sign == '-' || sign == '+') && !digits.isEmpty &&
        digits.all Char.isDigit then
      (numberIn? 10 digits).map fun n => if sign == '-' then -(n : Int) else n
    else none
  | _ => none

def decimal (negative : Bool) (wholePart : Nat) (fraction : List Char) (exponent : Int) : Double :=
  let digits := dropLines fraction
  let scaled := wholePart * Nat.pow 10 digits.length + (numberIn? 10 digits).getD 0
  Double.ofDecimal negative scaled (exponent - digits.length)

def pointed? (negative signed : Bool) (text : List Char) : Option Double :=
  let before := text.takeWhile (· != '.')
  match text.drop before.length with
  | '.' :: behind =>
    let fraction := behind.takeWhile isDigitOrLine
    let tail := behind.drop fraction.length
    match before with
    | [] =>
      if !signed && (fraction.head?.map Char.isDigit).getD false then
        (exponent? tail).map (decimal negative 0 fraction)
      else none
    | c :: _ =>
      if !c.isDigit then none
      else match Text.splitOn (· == ':') before with
        | [digits] =>
          if digits.all isDigitOrLine then do
            return decimal negative ((← numberIn? 10 (dropLines digits))) fraction (← exponent? tail)
          else none
        | first :: rest =>
          if first.all isDigitOrLine && rest.all isSixtieth && tail.isEmpty then
            (sexagesimal? (first :: rest)).map fun n => decimal negative n fraction 0
          else none
        | [] => none
  | _ => none

def infinityWords : List String := [".inf", ".Inf", ".INF"]

def notANumberWords : List String := [".nan", ".NaN", ".NAN"]

def real? (text : List Char) : Option Double :=
  let (negative, rest) := takeSign text
  let signed := rest.length != text.length
  if infinityWords.contains (String.ofList rest) then some (.infinite negative)
  else if notANumberWords.contains (String.ofList text) then some .notANumber
  else pointed? negative signed rest

def digits? (least most : Nat) (text : List Char) : Option (List Char) :=
  let count := (text.take most |>.takeWhile Char.isDigit).length
  if least ≤ count then some (text.drop count) else none

def char? (c : Char) : List Char → Option (List Char)
  | d :: rest => if c == d then some rest else none
  | [] => none

def isZone (text : List Char) : Bool :=
  match text.dropWhile fun c => c == ' ' || c == '\t' with
  | [] => text.isEmpty
  | ['Z'] => true
  | sign :: rest =>
    (sign == '-' || sign == '+') &&
      match digits? 1 2 rest with
      | some [] => true
      | some rest => ((char? ':' rest).bind (digits? 2 2)) == some []
      | none => false

def date? (least : Nat) (text : List Char) : Option (List Char) :=
  digits? 4 4 text >>= char? '-' >>= digits? least 2 >>= char? '-' >>= digits? least 2

def isDate (least : Nat) (text : List Char) : Bool :=
  date? least text == some []

def isMoment (text : List Char) : Bool :=
  isDate 2 text ||
    match date? 1 text with
    | some rest =>
      let blanks := rest.takeWhile fun c => c == ' ' || c == '\t'
      let rest := if blanks.isEmpty then (char? 'T' rest).or (char? 't' rest)
        else some (rest.drop blanks.length)
      match rest >>= digits? 1 2 >>= char? ':' >>= digits? 2 2 >>= char? ':' >>= digits? 2 2 with
      | some ('.' :: rest) => isZone (rest.dropWhile Char.isDigit)
      | some rest => isZone rest
      | none => false
    | none => false

def plain (text : List Char) : Plain :=
  let word := String.ofList text
  if trueWords.contains word then .value (.bool true)
  else if falseWords.contains word then .value (.bool false)
  else if nullWords.contains word then .value .null
  else if word == "<<" then .merge
  else if word == "=" then .default
  else match real? text, whole? text with
    | some x, _ => .value (.real x)
    | none, some n => .value (.int n)
    | none, none => .value (if isMoment text then .moment word else .text word)

end ClientForge.Yaml
