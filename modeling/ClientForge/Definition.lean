import ClientForge.Parameter

namespace ClientForge

structure Deprecation where
  version : Option String
  description : Option String
  extra : Entries Value
  deriving Repr

structure Documentation where
  url : Option String
  description : Option String
  extra : Entries Value
  deriving Repr

structure Body where
  description : Option String
  required : Bool
  extra : Entries Value
  deriving Repr

structure Route where
  template : String
  method : String
  otherMethods : List String
  parts : Entries Parameter
  deprecated : Option Deprecation
  extra : Entries Value
  deriving Repr

structure Definition where
  name : String
  documentation : Option Documentation
  route : Route
  otherRoutes : List Route
  params : Entries Parameter
  body : Option Body
  stability : Option String
  visibility : Option String
  extra : Entries Value
  deriving Repr

namespace Definition

open Value

def optionalText : Value → Checked (Option String) :=
  checkOptional checkText

def readDeprecation (entries : Entries Value) : Checked Deprecation :=
  Deprecation.mk
    <$> fieldOr entries "version" none optionalText
    <*> fieldOr entries "description" none optionalText
    <*> .valid (others entries ["version", "description"])

def readDocumentation (entries : Entries Value) : Checked Documentation :=
  Documentation.mk
    <$> fieldOr entries "url" none optionalText
    <*> fieldOr entries "description" none optionalText
    <*> .valid (others entries ["url", "description"])

def readBody (entries : Entries Value) : Checked Body :=
  Body.mk
    <$> fieldOr entries "description" none optionalText
    <*> fieldOr entries "required" false checkBool
    <*> .valid (others entries ["description", "required"])

def readRoute (entries : Entries Value) : Checked Route :=
  (fun path methods => Route.mk path methods.1 methods.2)
    <$> field entries "path" checkText
    <*> field entries "methods" (checkNonempty checkText)
    <*> fieldOr entries "parts" [] (checkEntries Parameter.ofValue)
    <*> fieldOr entries "deprecated" none (checkOptional (checkModel "Deprecation" readDeprecation))
    <*> .valid (others entries ["path", "methods", "parts", "deprecated"])

def routeList? (entries : Entries Value) : Option Value :=
  (Entries.get? entries "paths").or ((Entries.get? entries "url").bind (Value.get? "paths"))

def documentationModel (value : Value) : Checked (Option Documentation) :=
  let value := match value with
    | .text url => .object [("url", .text url)]
    | value => value
  checkOptional (checkModel "Documentation" readDocumentation) value

def paramsModel : Value → Checked (Entries Parameter)
  | .null => .valid []
  | value => checkEntries Parameter.ofValue value

def fields : List String :=
  ["name", "documentation", "url", "paths", "params", "body", "stability", "visibility"]

def ofEntries (name : String) (entries : Entries Value) : Checked Definition :=
  match routeList? entries with
  | none => .issue (.refused "definition has no 'url.paths'")
  | some routes =>
    (fun documentation (routes : Route × List Route) =>
        Definition.mk name documentation routes.1 routes.2)
      <$> fieldOr entries "documentation" none documentationModel
      <*> (checkNonempty (checkModel "PathAlternative" readRoute) routes).within (.key "paths")
      <*> fieldOr entries "params" [] paramsModel
      <*> fieldOr entries "body" none (checkOptional (checkModel "BodyInfo" readBody))
      <*> fieldOr entries "stability" none optionalText
      <*> fieldOr entries "visibility" none optionalText
      <*> .valid (others entries fields)

def routes (definition : Definition) : List Route :=
  definition.route :: definition.otherRoutes

def templates (definition : Definition) : List String :=
  definition.routes.map (·.template)

def bodyRequired (definition : Definition) : Bool :=
  match definition.body with
  | some body => body.required
  | none => false

def deprecation (definition : Definition) : Option Deprecation :=
  ((definition.route :: definition.otherRoutes).getLast (by simp)).deprecated

def parts (definition : Definition) : Entries Parameter :=
  definition.routes.foldl (fun parts route => Entries.putAll parts route.parts) []

end Definition

end ClientForge
