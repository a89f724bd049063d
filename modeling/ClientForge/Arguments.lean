import ClientForge.Choice.Irregular
import ClientForge.Definition
import ClientForge.Failure

namespace ClientForge

structure Arguments where
  params : Entries Parameter
  parts : Entries Parameter
  required : List String
  deriving Repr

namespace Arguments

def commonVariables : List String → List String
  | [] => []
  | first :: rest =>
    (Template.signature first).filter fun name =>
      rest.all fun template => (Template.slotNames template).contains name

/-- What every call has to supply: a required body, and the variables no route does without. -/
def requiredNames (name : String) (templates : List String) (bodyRequired : Bool) : List String :=
  if Irregular.withoutRequired.contains name then []
  else (if bodyRequired then ["body"] else []) ++ commonVariables templates

structure BadCorrection where
  name : String
  issue : Issue
  deriving Repr

def BadCorrection.failure (bad : BadCorrection) : Failure :=
  .configuration ("Invalid parameter override: " ++ bad.issue.kind.message) none (some bad.name)

def readParams : List (String × Value) → Except BadCorrection (Entries Parameter)
  | [] => .ok []
  | (name, value) :: rest =>
    match Parameter.ofValue value with
    | .valid parameter => (readParams rest).map ((name, parameter) :: ·)
    | .invalid issue _ => .error ⟨name, issue⟩

def rawParams (params : Entries Parameter) : Entries Value :=
  params.map fun (name, parameter) => (name, .object parameter.toEntries)

def correct (params : Entries Parameter) (corrections : Entries Value) :
    Except BadCorrection (Entries Parameter) :=
  readParams (Value.overlay (rawParams params) corrections)

def ofDefinition (definition : Definition) (corrections : Entries Value) :
    Except BadCorrection Arguments :=
  (correct definition.params corrections).map fun params =>
    { params
      parts := definition.parts
      required := requiredNames definition.name definition.templates definition.bodyRequired }

end Arguments

end ClientForge
