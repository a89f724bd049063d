import ClientForge.Entries
import ClientForge.Text.Quoted
import ClientForge.Value.Double

namespace ClientForge

inductive Value
  | null
  | bool (b : Bool)
  | int (n : Int)
  | real (x : Double)
  | text (s : String)
  | moment (s : String)
  | list (items : List Value)
  | object (entries : List (String × Value))
  deriving Repr, Inhabited

namespace Value

def isTruthy : Value → Bool
  | .null => false
  | .bool b => b
  | .int n => n != 0
  | .real x => !x.isZero
  | .text s => !s.isEmpty
  | .moment _ => true
  | .list items => !items.isEmpty
  | .object entries => !entries.isEmpty

def get? (key : String) : Value → Option Value
  | .object entries => Entries.get? entries key
  | _ => none

def boolLiteral (b : Bool) : String :=
  if b then "True" else "False"

mutual

def literal : Value → String
  | .null => "None"
  | .bool b => boolLiteral b
  | .int n => toString n
  | .real x => x.literal
  | .text s => Text.quoted s
  | .moment s => s
  | .list items => "[" ++ ", ".intercalate (literals items) ++ "]"
  | .object entries => "\x7b" ++ ", ".intercalate (entryLiterals entries) ++ "\x7d"

def literals : List Value → List String
  | [] => []
  | value :: rest => literal value :: literals rest

def entryLiterals : List (String × Value) → List String
  | [] => []
  | (key, value) :: rest => (Text.quoted key ++ ": " ++ literal value) :: entryLiterals rest

end

def display : Value → String
  | .text s => s
  | value => value.literal

mutual

/-- Lays `upper` over `base`: its values win, but two objects under one key are laid over each
other. Keys of `base` come first. -/
def overlay (base : Entries Value) : (upper : List (String × Value)) → Entries Value
  | [] => base
  | (key, value) :: rest => overlay (Entries.put base key (overlayAt (Entries.get? base key) value)) rest

def overlayAt (current : Option Value) : (upper : Value) → Value
  | .object upper =>
    match current with
    | some (.object base) => .object (overlay base upper)
    | _ => .object upper
  | value => value

end

end Value

end ClientForge
