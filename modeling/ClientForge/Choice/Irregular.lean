import ClientForge.Choice.Method
import ClientForge.Choice.Path
import ClientForge.Value.Basic

namespace ClientForge.Irregular

/-- Endpoints whose templates form no chain: of the term vector routes, the last but one segment
may be replaced by the caller. -/
def paths : List (String × PathChoice) :=
  [("termvectors",
    { branches := [⟨["index", "id"], "\x7bindex\x7d/\x7bendpoint\x7d/\x7bid\x7d"⟩]
      fallback := some "\x7bindex\x7d/\x7bendpoint\x7d"
      defaults := [("endpoint", "_termvectors")] })]

/-- Endpoints whose method depends on the call: a document with an id is replaced, one without is
given an id, and a count with a body cannot be asked for by `GET` everywhere. -/
def methods : List (String × MethodChoice) :=
  [("index", ⟨[⟨"id", "PUT"⟩], "POST"⟩),
   ("count", ⟨[⟨"body", "POST"⟩], "GET"⟩)]

def withoutRequired : List String :=
  ["tasks.get"]

def parameters : Entries (Entries Value) :=
  [("cat",
    [("h", .object
      [("type", .text "list"),
       ("description", .text "Comma-separated list of column names to display")])])]

def layer (table : Entries (Entries Value)) (key : String) (base : Entries Value) :
    Entries Value :=
  match Entries.get? table key with
  | some upper => Value.overlay base upper
  | none => base

def layers (name : String) (space : Option String) (table : Entries (Entries Value))
    (base : Entries Value) : Entries Value :=
  match space with
  | some space => layer table name (if space = "" ∨ space = name then base else layer table space base)
  | none => layer table name base

def corrections (name : String) (space : Option String) (extra : Entries (Entries Value)) :
    Entries Value :=
  layers name space extra (layers name space parameters [])

end ClientForge.Irregular
