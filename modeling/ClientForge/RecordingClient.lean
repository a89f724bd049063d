import ClientForge.Value.Basic

namespace ClientForge

structure Request where
  method : Value
  path : Value
  params : Value
  body : Value
  headers : Value
  deriving Repr

structure RecordingClient where
  response : Value
  requests : List Request
  deriving Repr

namespace RecordingClient

def ofResponse (response : Value) : RecordingClient :=
  match response with
  | .null => ⟨.object [], []⟩
  | response => ⟨response, []⟩

def send (client : RecordingClient) (request : Request) : RecordingClient :=
  let params := if request.params.isTruthy then request.params else .object []
  { client with requests := client.requests ++ [{ request with params }] }

def parameterNames : List String :=
  ["method", "path", "params", "body", "headers"]

def argument? (args : List Value) (keywords : Entries Value) (i : Nat) (name : String) : Option Value :=
  match args[i]?, Entries.get? keywords name with
  | some _, some _ => none
  | some value, none => some value
  | none, some value => some value
  | none, none => if i < 2 then none else some .null

def request? (args : List Value) (keywords : Entries Value) : Option Request := do
  guard (args.length ≤ parameterNames.length)
  guard (keywords.all fun p => parameterNames.contains p.1)
  return {
    method := ← argument? args keywords 0 "method"
    path := ← argument? args keywords 1 "path"
    params := ← argument? args keywords 2 "params"
    body := ← argument? args keywords 3 "body"
    headers := ← argument? args keywords 4 "headers" }

end RecordingClient

end ClientForge
