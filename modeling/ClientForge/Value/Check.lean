import ClientForge.Checked
import ClientForge.Value.Basic

namespace ClientForge.Value

def checkText : Value → Checked String
  | .text s => .valid s
  | _ => .issue .notText

def checkOptional {α : Type} (check : Value → Checked α) : Value → Checked (Option α)
  | .null => .valid none
  | value => (check value).map some

def trueWords : List String :=
  ["1", "on", "t", "true", "y", "yes"]

def falseWords : List String :=
  ["0", "off", "f", "false", "n", "no"]

def checkBool : Value → Checked Bool
  | .bool b => .valid b
  | .int n =>
    if n = 0 then .valid false
    else if n = 1 then .valid true
    else if -0x8000000000000000 ≤ n ∧ n < 0x8000000000000000 then .issue .unreadableBool
    else .issue .notBool
  | .real x =>
    if x.isZero then .valid false
    else if x = .finite false 1 0 then .valid true
    else .issue .notBool
  | .text s =>
    let word := s.map Char.toLower
    if trueWords.contains word then .valid true
    else if falseWords.contains word then .valid false
    else .issue .unreadableBool
  | _ => .issue .notBool

def checkList {α : Type} (check : Value → Checked α) : Value → Checked (List α)
  | .list items => .all (items.mapIdx fun i item => (check item).within (.index i))
  | _ => .issue .notList

def checkNonempty {α : Type} (check : Value → Checked α) (value : Value) :
    Checked (α × List α) :=
  match checkList check value with
  | .valid (first :: others) => .valid (first, others)
  | .valid [] => .issue .tooShort
  | .invalid first others => .invalid first others

def checkEntries {α : Type} (check : Value → Checked α) : Value → Checked (Entries α)
  | .object entries =>
    .all (entries.map fun (key, value) => ((check value).map (Prod.mk key)).within (.key key))
  | _ => .issue .notObject

def checkModel {α : Type} (model : String) (check : Entries Value → Checked α) :
    Value → Checked α
  | .object entries => check entries
  | _ => .issue (.notModel model)

def field {α : Type} (entries : Entries Value) (key : String) (check : Value → Checked α) :
    Checked α :=
  (match Entries.get? entries key with
    | some value => check value
    | none => .issue .missing).within (.key key)

def fieldOr {α : Type} (entries : Entries Value) (key : String) (default : α)
    (check : Value → Checked α) : Checked α :=
  match Entries.get? entries key with
  | some value => (check value).within (.key key)
  | none => .valid default

def others (entries : Entries Value) (known : List String) : Entries Value :=
  entries.filter fun p => !known.contains p.1

end ClientForge.Value
