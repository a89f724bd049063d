import ClientForge.Endpoint.Basic

namespace ClientForge.Endpoint

def present? (text : Option String) : Option String :=
  text.filter (· ≠ "")

def summary (endpoint : Endpoint) : String :=
  match present? (endpoint.definition.documentation.bind (·.description)) with
  | some description => Text.trim description
  | none => "Perform the '" ++ endpoint.definition.name ++ "' request."

def bodyDoc (body : Body) : String :=
  ":arg body: " ++ Text.trim ((present? body.description).getD "The request body") ++
    (if body.required then " (*Required*)" else "")

def argumentDocs (endpoint : Endpoint) : List String :=
  let parts := endpoint.arguments.parts
  let others := endpoint.arguments.params.filter fun p => !Entries.contains parts p.1
  (parts ++ others).map (fun (name, parameter) => parameter.doc name) ++
    (endpoint.definition.body.map bodyDoc).toList

def deprecationDoc (deprecation : Deprecation) : String :=
  Text.trimEnd (".. deprecated:: " ++ deprecation.version.getD "") ++
    (match present? deprecation.description with
      | some description => "\n   " ++ Text.trim description
      | none => "")

def linkDoc (url : String) : String :=
  "`<" ++ url ++ ">`_"

def docs (endpoint : Endpoint) : String :=
  let arguments := argumentDocs endpoint
  "\n\n".intercalate <|
    [summary endpoint] ++
    (if arguments.isEmpty then [] else ["\n".intercalate arguments]) ++
    (endpoint.definition.deprecation.map deprecationDoc).toList ++
    ((present? (endpoint.definition.documentation.bind (·.url))).map linkDoc).toList

def indentDocs (text : String) : String :=
  match Text.lines text with
  | [] => ""
  | [line] => line
  | first :: rest =>
    "\n".intercalate (first :: rest.map (fun line => if line = "" then "" else "    " ++ line) ++ ["    "])

end ClientForge.Endpoint
