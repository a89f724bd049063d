import ClientForge.Endpoint.Module

namespace ClientForge.Endpoint

open Code

/-- What a test of the endpoint supplies: all that is required, and the variables of the first
route the function tries. -/
def sampleArguments (endpoint : Endpoint) : List String :=
  let route := match endpoint.path.branches with
    | branch :: _ => branch.needed
    | [] => endpoint.path.names.filter fun name => !Entries.contains endpoint.path.defaults name
  let required := endpoint.arguments.required
  route.foldl (fun names name => if names.contains name then names else names ++ [name]) required

def sampleText (argument : String) : String :=
  "test_" ++ argument

def sampleValue (argument : String) : Expr :=
  if argument = "body" then .emptyDict else .text (sampleText argument)

def sampleSlot? (endpoint : Endpoint) (name : String) : Option String :=
  if endpoint.sampleArguments.contains name then some (sampleText name)
  else Entries.get? endpoint.path.defaults name

def samplePath (endpoint : Endpoint) : Except Failure String :=
  match endpoint.path.select endpoint.sampleArguments with
  | none => .error .noTemplate
  | some template => (Template.expand template endpoint.sampleSlot?).mapError .missingKey

def checkEqual (field expected : String) : Stmt :=
  .check (.compare (.attribute (.name "request") field) .equal (.text expected))

def requestTest (endpoint : Endpoint) (path : String) : Stmt :=
  let name := endpoint.functionName
  let samples := endpoint.sampleArguments
  .define ("test_" ++ name ++ "_performs_request") ["client"] none [
    .expr (.call (.name name) [.name "client"]
      (samples.map fun argument => (some argument, sampleValue argument))),
    .assign (.name "request")
      (.item (.attribute (.name "client") "calls") (.negative (.constant (.int 1)))),
    checkEqual "method" (endpoint.method.select samples),
    checkEqual "path" path]

def refusalTest (endpoint : Endpoint) : Stmt :=
  let name := endpoint.functionName
  .define ("test_" ++ name ++ "_requires_arguments") ["client"] none [
    .inContext (.call (.attribute (.name "pytest") "raises") [.name "ValueError"] [])
      [.expr (.call (.name name) [.name "client"] [])]]

def testCode (endpoint : Endpoint) : Except Failure (List Stmt) := do
  let path ← endpoint.samplePath
  let insists := !endpoint.arguments.required.isEmpty
  return [.doc ("Tests for the generated '" ++ endpoint.definition.name ++ "' endpoint.")] ++
    (if insists then [.importModule "pytest"] else []) ++
    [.importNames endpoint.importPath [endpoint.functionName], endpoint.requestTest path] ++
    (if insists then [endpoint.refusalTest] else [])

end ClientForge.Endpoint
