import ClientForge.Code.Basic

namespace ClientForge.Code

variable {α β : Type}

inductive Datum (α : Type)
  | none
  | text (s : String)
  | truth (b : Bool)
  | given (object : α)
  | client
  | names (members : List String)
  | mapping (entries : List (String × Datum α))
  | items (entries : List (String × Datum α))
  | fault (exception message : String)

def Datum.isNone : Datum α → Bool
  | .none => true
  | _ => false

structure Sent (α : Type) where
  method : Datum α
  path : Datum α
  params : Datum α
  body : Datum α
  headers : Datum α

inductive Exit (α : Type)
  | raised (exception message : String)
  | returned (value : Datum α)
  | stuck

/-- What generated code finds around it: the helper that turns an argument into text, the names of
the module's parameters, and the answers of the transport. -/
structure World (α : Type) where
  listify : Datum α → String
  params : List String
  answer : Sent α → Datum α

structure Frame (α : Type) where
  locals : Entries (Datum α)
  sent : List (Sent α)

abbrev Run (α β : Type) := ExceptT (Exit α) (StateM (Frame α)) β

def Frame.bind (frame : Frame α) (id : String) (value : Datum α) : Frame α :=
  { frame with locals := Entries.put frame.locals id value }

def Frame.send (frame : Frame α) (sent : Sent α) : Frame α :=
  { frame with sent := frame.sent ++ [sent] }

def orStuck : Option β → Run α β
  | some b => pure b
  | none => throw .stuck

def Datum.decides : Datum α → Run α Bool
  | .truth b => pure b
  | _ => throw .stuck

def World.read (world : World α) (scope : Entries (Datum α)) (id : String) : Run α (Datum α) := do
  match Entries.get? scope id, Entries.get? (← get).locals id with
  | some value, _ => pure value
  | none, some value => pure value
  | none, none => if id = "PARAMS" then pure (.names world.params) else throw .stuck

def World.builtin (world : World α) : String → List (Datum α) → Run α (Datum α)
  | "dict", [.mapping entries] => pure (.mapping entries)
  | "listify", [value] => pure (.text (world.listify value))
  | "ValueError", [.text message] => pure (.fault "ValueError" message)
  | _, _ => throw .stuck

def World.invoke (world : World α) (scope : Entries (Datum α)) (name : String)
    (args : List (Datum α)) : Run α (Datum α) := do
  if Entries.contains scope name || Entries.contains (← get).locals name then throw .stuck
  else world.builtin name args

def World.method (world : World α) (holder : String) :
    Datum α → String → List (Datum α) → List (Option String × Datum α) → Run α (Datum α)
  | .mapping entries, "get", [.text key], [] => pure ((Entries.get? entries key).getD .none)
  | .mapping entries, "pop", [.text key, default], [] => do
    modify (·.bind holder (.mapping (Entries.erase entries key)))
    pure ((Entries.get? entries key).getD default)
  | .mapping entries, "items", [], [] => pure (.items entries)
  | .client, "perform_request", [method, path],
      [(some "params", params), (some "body", body), (some "headers", headers)] => do
    modify (·.send ⟨method, path, params, body, headers⟩)
    pure (world.answer ⟨method, path, params, body, headers⟩)
  | _, _, _, _ => throw .stuck

def World.callMethod (world : World α) (scope : Entries (Datum α)) (holder method : String)
    (args : List (Datum α)) (keywords : List (Option String × Datum α)) : Run α (Datum α) := do
  if Entries.contains scope holder then throw .stuck
  else world.method holder (← world.read scope holder) method args keywords

def Comparison.apply : Comparison → Datum α → Datum α → Option (Datum α)
  | .same, value, .none => some (.truth value.isNone)
  | .different, value, .none => some (.truth !value.isNone)
  | .member, .text s, .names members => some (.truth (members.contains s))
  | _, _, _ => none

def World.format (world : World α) (scope : Entries (Datum α)) : List FormatPart → Run α (List Char)
  | [] => pure []
  | .text chars :: rest => return chars ++ (← world.format scope rest)
  | .applied function argument :: rest => do
    match ← world.invoke scope function [← world.read scope argument] with
    | .text s => return s.toList ++ (← world.format scope rest)
    | _ => throw .stuck

mutual

def Expr.eval (world : World α) (scope : Entries (Datum α)) : Expr → Run α (Datum α)
  | .name id => world.read scope id
  | .constant .null => pure .none
  | .constant (.text s) => pure (.text s)
  | .constant (.bool b) => pure (.truth b)
  | .call function args keywords => do
    let args ← evalEach world scope args
    let keywords ← evalKeywords world scope keywords
    match function, keywords with
    | .name id, [] => world.invoke scope id args
    | .attribute (.name holder) method, keywords => world.callMethod scope holder method args keywords
    | _, _ => throw .stuck
  | .conjunction operands => evalAll world scope operands
  | .compare left op right => do
    let left ← left.eval world scope
    let right ← right.eval world scope
    orStuck (op.apply left right)
  | .choice value test other => do
    if ← (← test.eval world scope).decides then value.eval world scope else other.eval world scope
  | .formatted parts => return .text (String.ofList (← world.format scope parts))
  | .emptyDict => pure (.mapping [])
  | .filterDict key value targets source test => do
    match ← source.eval world scope, targets with
    | .items entries, [first, second] =>
      let collect (collected : Entries (Datum α)) (entry : String × Datum α) :
          Run α (Entries (Datum α)) := do
        let scope := (first, .text entry.1) :: (second, entry.2) :: scope
        if ← (← test.eval world scope).decides then
          match ← key.eval world scope with
          | .text key => return Entries.put collected key (← value.eval world scope)
          | _ => throw .stuck
        else pure collected
      return .mapping (← entries.foldlM collect [])
    | _, _ => throw .stuck
  | .constant _ | .attribute _ _ | .tuple _ | .item _ _ | .negative _ => throw .stuck

def evalEach (world : World α) (scope : Entries (Datum α)) : List Expr → Run α (List (Datum α))
  | [] => pure []
  | e :: rest => return (← e.eval world scope) :: (← evalEach world scope rest)

def evalKeywords (world : World α) (scope : Entries (Datum α)) :
    List (Option String × Expr) → Run α (List (Option String × Datum α))
  | [] => pure []
  | (name, e) :: rest => return (name, ← e.eval world scope) :: (← evalKeywords world scope rest)

def evalAll (world : World α) (scope : Entries (Datum α)) : List Expr → Run α (Datum α)
  | [] => pure (.truth true)
  | e :: rest => do
    if ← (← e.eval world scope).decides then evalAll world scope rest else pure (.truth false)

end

mutual

def Stmt.run (world : World α) : Stmt → Run α Unit
  | .expr e => discard (e.eval world [])
  | .assign (.name id) value => do
    let value ← value.eval world []
    modify (·.bind id value)
  | .raise exception => do
    match ← exception.eval world [] with
    | .fault exception message => throw (.raised exception message)
    | _ => throw .stuck
  | .give value => do throw (.returned (← value.eval world []))
  | .branch test body other => do
    if ← (← test.eval world []).decides then runEach world body else runEach world other
  | .assign .. | .importNames .. | .importModule _ | .check _ | .define .. | .inContext .. =>
    throw .stuck

def runEach (world : World α) : List Stmt → Run α Unit
  | [] => pure ()
  | stmt :: rest => do
    stmt.run world
    runEach world rest

end

structure Keywords (α : Type) where
  entries : Entries (Datum α)
  nodup : (Entries.keys entries).Nodup

/-- Calls a function of the client, which gathers all other arguments: how it ends, and the requests
that were sent. -/
def callFunction (world : World α) (function : Stmt) (keywords : Keywords α) :
    Exit α × List (Sent α) :=
  match function with
  | .define name [first] (some rest) body =>
    if Entries.contains keywords.entries first then
      (.raised "TypeError" (name ++ "() got multiple values for argument '" ++ first ++ "'"), [])
    else
      match (runEach world body).run ⟨[(first, .client), (rest, .mapping keywords.entries)], []⟩ with
      | (.ok (), frame) => (.returned .none, frame.sent)
      | (.error exit, frame) => (exit, frame.sent)
  | _ => (.stuck, [])

end ClientForge.Code
