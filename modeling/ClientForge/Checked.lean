namespace ClientForge

inductive Place
  | key (name : String)
  | index (i : Nat)
  deriving DecidableEq, Repr

def Place.text : Place → String
  | .key name => name
  | .index i => toString i

inductive IssueKind
  | missing
  | notText
  | notBool
  | unreadableBool
  | notList
  | notObject
  | notModel (model : String)
  | tooShort
  | forbidden
  | refused (reason : String)
  deriving DecidableEq, Repr

def IssueKind.message : IssueKind → String
  | .missing => "Field required"
  | .notText => "Input should be a valid string"
  | .notBool => "Input should be a valid boolean"
  | .unreadableBool => "Input should be a valid boolean, unable to interpret input"
  | .notList => "Input should be a valid list"
  | .notObject => "Input should be a valid dictionary"
  | .notModel model => "Input should be a valid dictionary or instance of " ++ model
  | .tooShort => "List should have at least 1 item after validation, not 0"
  | .forbidden => "Extra inputs are not permitted"
  | .refused reason => "Value error, " ++ reason

structure Issue where
  place : List Place
  kind : IssueKind
  deriving DecidableEq, Repr

inductive Checked (α : Type)
  | valid (value : α)
  | invalid (first : Issue) (others : List Issue)
  deriving Repr

namespace Checked

variable {α β : Type}

def issue (kind : IssueKind) : Checked α :=
  .invalid ⟨[], kind⟩ []

def issues : Checked α → List Issue
  | .valid _ => []
  | .invalid first others => first :: others

def value? : Checked α → Option α
  | .valid value => some value
  | .invalid _ _ => none

def map (f : α → β) : Checked α → Checked β
  | .valid value => .valid (f value)
  | .invalid first others => .invalid first others

def seq (f : Checked (α → β)) (x : Checked α) : Checked β :=
  match f, x with
  | .valid f, .valid value => .valid (f value)
  | .valid _, .invalid first others => .invalid first others
  | .invalid first others, x => .invalid first (others ++ x.issues)

def within (place : Place) : Checked α → Checked α
  | .valid value => .valid value
  | .invalid first others =>
    .invalid { first with place := place :: first.place }
      (others.map fun issue => { issue with place := place :: issue.place })

instance : Functor Checked where
  map := map

instance : Seq Checked where
  seq f x := seq f (x ())

def all : List (Checked α) → Checked (List α)
  | [] => .valid []
  | x :: rest => seq (map List.cons x) (all rest)

end Checked

end ClientForge
