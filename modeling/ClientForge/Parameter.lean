import ClientForge.Text.Casing
import ClientForge.Text.Fill
import ClientForge.Value.Check

namespace ClientForge

structure Parameter where
  type : Option String
  description : Option String
  required : Bool
  deprecated : Bool
  options : Option (List Value)
  default : Value
  extra : Entries Value
  deriving Repr, Inhabited

namespace Parameter

def fields : List String :=
  ["type", "description", "required", "deprecated", "options", "default"]

def deprecationFlag : Value → Bool
  | .object _ => true
  | value => value.isTruthy

def ofEntries (entries : Entries Value) : Checked Parameter :=
  Parameter.mk
    <$> Value.fieldOr entries "type" none (Value.checkOptional Value.checkText)
    <*> Value.fieldOr entries "description" none (Value.checkOptional Value.checkText)
    <*> Value.fieldOr entries "required" false Value.checkBool
    <*> Value.fieldOr entries "deprecated" false (fun value => .valid (deprecationFlag value))
    <*> Value.fieldOr entries "options" none (Value.checkOptional (Value.checkList .valid))
    <*> Value.fieldOr entries "default" .null .valid
    <*> .valid (Value.others entries fields)

def ofValue : Value → Checked Parameter :=
  Value.checkModel "ParamInfo" ofEntries

def toEntries (parameter : Parameter) : Entries Value :=
  (parameter.type.map fun s => ("type", Value.text s)).toList ++
  (parameter.description.map fun s => ("description", Value.text s)).toList ++
  (if parameter.required then [("required", .bool true)] else []) ++
  (if parameter.deprecated then [("deprecated", .bool true)] else []) ++
  (parameter.options.map fun items => ("options", Value.list items)).toList ++
  (match parameter.default with
    | .null => []
    | value => [("default", value)]) ++
  parameter.extra

def docWidth : Nat := 79

def kind (parameter : Parameter) : String :=
  match parameter.type with
  | none | some "enum" => "string"
  | some type => type

def docText (name : String) (parameter : Parameter) : String :=
  let description := match parameter.description with
    | none | some "" => "[TODO]"
    | some text => Text.trim text
  ":arg " ++ name ++ ": [" ++ Text.capitalize parameter.kind ++ "] " ++ description ++
    (if parameter.required then " (*Required*)" else "") ++
    (if parameter.deprecated then " *Deprecated*" else "")

def indent : List Char :=
  [' ', ' ', ' ', ' ']

def docLines (name : String) (parameter : Parameter) : List String :=
  let chunks := (Text.words (docText name parameter).toList).intersperse [' ']
  (Text.fill ⟨docWidth, [], indent, false⟩ chunks).map String.ofList

def optionsText (options : List Value) : String :=
  "(options: " ++ ", ".intercalate (options.map Value.display) ++ ")"

def optionLines (parameter : Parameter) : List String :=
  match parameter.options with
  | none | some [] => []
  | some options =>
    let chunks := Text.chunks (Text.flattenBreaks (optionsText options).toList)
    (Text.fill ⟨docWidth, indent, indent, true⟩ chunks).map String.ofList

def doc (name : String) (parameter : Parameter) : String :=
  "\n".intercalate (docLines name parameter ++ optionLines parameter)

end Parameter

end ClientForge
