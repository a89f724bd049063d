import ClientForge.Choice.Code
import ClientForge.Endpoint.Docs
import ClientForge.Text.Basic

namespace ClientForge

open Code

def CodeFault.failure : CodeFault → Failure
  | .emptyCondition => .refused "_and requires at least one operand"
  | .noTemplate => .noTemplate

namespace Endpoint

def pop (argument : String) (default : Expr) : Expr :=
  .call (.attribute (.name "arguments") "pop") [.text argument, default] []

def requireArgument (argument : String) : Stmt :=
  .branch
    (.compare (.call (.attribute (.name "arguments") "get") [.text argument] []) .same .null)
    [.fail "ValueError" ("Required argument '" ++ argument ++ "' missing")] []

def takeArgument (defaults : Entries String) (argument : String) : Stmt :=
  .assign (.name (localName argument))
    (pop argument (((Entries.get? defaults argument).map .text).getD .null))

def collectParams : Stmt :=
  .assign (.name "params")
    (.filterDict (.name "key") (.name "value") ["key", "value"]
      (.call (.attribute (.name "arguments") "items") [] [])
      (.compare (.name "key") .member (.name "PARAMS")))

def sendRequest : Stmt :=
  .give (.call (.attribute (.name "client") "perform_request") [.name "method", .name "path"]
    [(some "params", .name "params"), (some "body", .name "body"), (some "headers", .name "headers")])

def functionBody (endpoint : Endpoint) : Except CodeFault (List Stmt) := do
  let path ← endpoint.path.code
  return [.doc (indentDocs endpoint.docs)] ++
    endpoint.arguments.required.map requireArgument ++
    [.assign (.name "arguments") (.call (.name "dict") [.name "arguments"] []),
     .assign (.name "headers") (pop "headers" .null),
     .assign (.name "body") (pop "body" .null)] ++
    endpoint.takenArguments.map (takeArgument endpoint.path.defaults) ++
    [endpoint.method.code] ++ path ++ [collectParams, sendRequest]

def function (endpoint : Endpoint) : Except CodeFault Stmt :=
  endpoint.functionBody.map (.define endpoint.functionName ["client"] (some "arguments"))

def paramsConstant (names : List String) : Stmt :=
  .assign (.name "PARAMS")
    (.call (.name "frozenset")
      (if names.isEmpty then [] else [.tuple (names.map .text)]) [])

def moduleCode (endpoint : Endpoint) : Except CodeFault (List Stmt) := do
  let function ← endpoint.function
  return [
    .doc ("Generated from the '" ++ endpoint.definition.name ++ "' REST API definition."),
    .importNames endpoint.helperModule ["listify"],
    .exports [endpoint.functionName],
    paramsConstant (Text.sorted (Entries.keys endpoint.arguments.params)),
    function]

end Endpoint

end ClientForge
