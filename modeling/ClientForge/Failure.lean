import ClientForge.Checked
import ClientForge.Disk.Fault
import ClientForge.Json.Fault
import ClientForge.Text.Basic
import ClientForge.Text.Utf8

namespace ClientForge

inductive Failure
  | remark (text : String)
  | plain (text : String)
  | definition (text : String)
  | unloadable (source : String) (cause : Option Failure)
  | malformedName (name : String) (reason : Option String)
  | generation (text : String) (context : Option String) (cause : Option Failure)
  | unresolvablePaths (name : String) (templates : List String) (reason : String)
  | endpoint (name : String) (source : Option String) (cause : Option Failure)
  | configuration (text : String) (path field : Option String)
  | output (path : String) (cause : Option Failure)
  | tool (command : List String) (status : Option Int) (output : Option String)
  | disk (fault : Disk.Fault)
  | json (fault : Json.Fault)
  | encoding (fault : Text.Utf8.Fault)
  | invalid (first : Issue) (others : List Issue)
  | invalidCode (name : String)
  | missingKey (key : String)
  | refused (text : String)
  | noTemplate
  | yaml
  | toml
  | environment
  | unsuitable
  | markup (text : String)
  | foreign (className : String)
  deriving Repr, Inhabited

namespace Failure

def detail (before : String) (text : Option String) (after : String) : String :=
  match text with
  | none | some "" => ""
  | some text => before ++ text ++ after

def toolMessage (command : List String) (status : Option Int) (printed : Option String) : String :=
  "External tool '" ++ " ".intercalate command ++ "'" ++
    (match status with
      | none => " could not be started"
      | some status => " exited with status " ++ toString status) ++
    (match printed with
      | none | some "" => ""
      | some printed => ": " ++ Text.trim printed)

def endpointText (name : String) (source : Option String) : String :=
  "Failed to generate endpoint '" ++ name ++ "'" ++ detail " from " source ""

def pathsText (templates : List String) (reason : String) : String :=
  "Cannot resolve path selection (" ++ reason ++ "); paths: " ++ ", ".intercalate templates

mutual

def message : Failure → String
  | .remark text | .plain text | .definition text => text
  | .unloadable source cause =>
    "Failed to load endpoint definition from '" ++ source ++ "'" ++ causeText cause
  | .malformedName name reason =>
    "Malformed endpoint name '" ++ name ++ "'" ++ detail ": " reason ""
  | .generation text context cause =>
    text ++ detail " (while generating " context ")" ++ causeText cause
  | .unresolvablePaths name templates reason =>
    pathsText templates reason ++ detail " (while generating " (some name) ")"
  | .endpoint name source cause =>
    endpointText name source ++ detail " (while generating " (some name) ")" ++ causeText cause
  | .configuration text path field =>
    text ++ detail " in '" path "'" ++ detail " (field: " field ")"
  | .output path cause => "Failed to write output to '" ++ path ++ "'" ++ causeText cause
  | .tool command status printed => toolMessage command status printed
  | .disk fault => fault.message
  | .json fault => fault.message
  | .encoding fault => fault.message
  | .invalid _ _ => "<validation>"
  | .invalidCode name => "Generated code for " ++ name ++ " has invalid syntax"
  | .missingKey key => Text.quoted key
  | .refused text | .markup text => text
  | .yaml => "<yaml>"
  | .noTemplate | .toml | .environment | .unsuitable | .foreign _ => ""

def causeText : Option Failure → String
  | none | some (.remark "") => ""
  | some cause => ": " ++ message cause

end

/-- Whether the failure is one that the generation of an endpoint accounts for. -/
def isOwn : Failure → Bool
  | .plain _ | .definition _ | .unloadable .. | .malformedName .. | .generation ..
  | .unresolvablePaths .. | .endpoint .. | .configuration .. | .output .. | .tool ..
  | .invalidCode _ => true
  | _ => false

end Failure

end ClientForge
