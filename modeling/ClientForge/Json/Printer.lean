import ClientForge.Text.Basic
import ClientForge.Value.Basic

namespace ClientForge.Json

def stringChar (c : Char) : List Char :=
  if c == '"' || c == '\\' then ['\\', c]
  else if c == '\n' then ['\\', 'n']
  else if c.toNat < 32 then '\\' :: 'u' :: Text.hexDigits 4 c.toNat
  else [c]

def printString (s : String) : String :=
  String.ofList ('"' :: s.toList.flatMap stringChar ++ ['"'])

def printDouble : Double → String
  | .notANumber => "NaN"
  | .infinite negative => if negative then "-Infinity" else "Infinity"
  | x => x.literal

mutual

def print : Value → String
  | .null => "null"
  | .bool b => if b then "true" else "false"
  | .int n => toString n
  | .real x => printDouble x
  | .text s => printString s
  | .moment s => printString s
  | .list items => "[" ++ ",".intercalate (printItems items) ++ "]"
  | .object entries => "\x7b" ++ ",".intercalate (printEntries entries) ++ "\x7d"

def printItems : List Value → List String
  | [] => []
  | value :: rest => print value :: printItems rest

def printEntries : List (String × Value) → List String
  | [] => []
  | (key, value) :: rest => (printString key ++ ":" ++ print value) :: printEntries rest

end

end ClientForge.Json
