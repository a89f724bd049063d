import ClientForge.Workspace

namespace ClientForge

structure Tool.Outcome where
  status : Int
  printed : String
  complained : String
  deriving DecidableEq, Repr

/-- What runs the commands of others: the outcome of a command and the disk it leaves, or nothing where it cannot be
started. -/
abbrev Tool := List String → Disk → Option (Tool.Outcome × Disk)

namespace Tool

def Outcome.failure? (outcome : Outcome) (command : List String) : Option Failure :=
  if outcome.status = 0 then none
  else
    let printed := if outcome.complained ≠ "" then outcome.complained else outcome.printed
    some (.tool command (some outcome.status) (some printed))

def result (tool : Tool) (command : List String) (disk : Disk) : Option Failure × Disk :=
  match tool command disk with
  | none => (some (.tool command none none), disk)
  | some (outcome, after) => (outcome.failure? command, after)

def run (tool : Tool) (command : List String) : Work (Option Failure) := do
  let w ← get
  let (failed, disk) := tool.result command w.disk
  set { w with disk }
  if let some failure := failed then Work.note .warning failure.message
  return failed

inductive Separator
  | always
  | onSuccess
  | onFailure
  deriving DecidableEq, Repr

inductive Token
  | word (text : String)
  | separator (kind : Separator)
  | toErrors
  deriving DecidableEq, Repr

def parameter? (name : String) : List Char → Option (List Char × Nat)
  | '0' :: _ => some (name.toList, 1)
  | '@' :: _ | '*' :: _ => some ([], 1)
  | '#' :: _ | '?' :: _ => some (['0'], 1)
  | c :: _ => if c.isDigit then some ([], 1) else none
  | [] => none

inductive Quoting
  | none
  | single
  | double
  deriving DecidableEq, Repr

def flush (word : Option (List Char)) : List Token :=
  match word with
  | some chars => [.word (String.ofList chars.reverse)]
  | none => []

def push (word : Option (List Char)) (c : Char) : Option (List Char) :=
  some (c :: word.getD [])

/-- Reads a script; `word` holds the word begun, last character first, and `skip` characters are
read already. -/
def tokensFrom (name : String) (quoting : Quoting) (word : Option (List Char)) (skip : Nat) :
    List Char → List Token
  | [] => flush word
  | c :: rest =>
    match skip, quoting with
    | skip + 1, _ => tokensFrom name quoting word skip rest
    | 0, .single =>
      if c = '\'' then tokensFrom name .none word 0 rest
      else tokensFrom name .single (push word c) 0 rest
    | 0, quoting =>
      if c = '"' then
        tokensFrom name (if quoting = .double then .none else .double) (some (word.getD [])) 0 rest
      else if c = '\\' then
        match rest with
        | d :: _ =>
          let kept := if quoting = .double ∧ !"$`\"\\".toList.contains d
            then push (push word c) d else push word d
          tokensFrom name quoting kept 1 rest
        | [] => flush (push word c)
      else if c = '$' then
        match parameter? name rest with
        | some (text, size) =>
          tokensFrom name quoting (some (text.reverse ++ word.getD [])) size rest
        | none => tokensFrom name quoting (push word c) 0 rest
      else if quoting = .double then tokensFrom name .double (push word c) 0 rest
      else if c = '\'' then tokensFrom name .single (some (word.getD [])) 0 rest
      else if c = ' ' ∨ c = '\t' then flush word ++ tokensFrom name .none none 0 rest
      else if c = ';' ∨ c = '\n' then
        flush word ++ .separator .always :: tokensFrom name .none none 0 rest
      else if "&&".toList.isPrefixOf (c :: rest) then
        flush word ++ .separator .onSuccess :: tokensFrom name .none none 1 rest
      else if "||".toList.isPrefixOf (c :: rest) then
        flush word ++ .separator .onFailure :: tokensFrom name .none none 1 rest
      else if ">&2".toList.isPrefixOf (c :: rest) then
        flush (if word = some ['1'] then none else word) ++
          .toErrors :: tokensFrom name .none none 2 rest
      else tokensFrom name .none (push word c) 0 rest

def commands (condition : Separator) (current : List Token) : List Token → List (Separator × List Token)
  | [] => [(condition, current.reverse)]
  | .separator kind :: rest => (condition, current.reverse) :: commands kind [] rest
  | token :: rest => commands condition (token :: current) rest

def words (tokens : List Token) : List String :=
  tokens.filterMap fun
    | .word text => some text
    | _ => none

def echoText : List String → String
  | "-n" :: args => " ".intercalate args
  | args => " ".intercalate args ++ "\n"

def exitStatus (last : Int) : List String → Int
  | text :: _ => ((text.toNat?.getD 2 % 256 : Nat) : Int)
  | [] => last

def runCommands (name : String) (state : Outcome) : List (Separator × List Token) → Outcome
  | [] => state
  | (condition, tokens) :: rest =>
    let runs := match condition with
      | .always => true
      | .onSuccess => state.status == 0
      | .onFailure => state.status != 0
    if !runs then runCommands name state rest
    else match words tokens with
      | [] => runCommands name state rest
      | "exit" :: args => { state with status := exitStatus state.status args }
      | "echo" :: args =>
        let text := echoText args
        runCommands name
          (if tokens.contains .toErrors then ⟨0, state.printed, state.complained ++ text⟩
            else ⟨0, state.printed ++ text, state.complained⟩) rest
      | "true" :: _ | ":" :: _ => runCommands name { state with status := 0 } rest
      | "false" :: _ => runCommands name { state with status := 1 } rest
      | command :: _ =>
        let text := name ++ ": 1: " ++ command ++ ": not found\n"
        runCommands name ⟨127, state.printed, state.complained ++ text⟩ rest

def script (text name : String) : Outcome :=
  runCommands name ⟨0, "", ""⟩ (commands .always [] (tokensFrom name .none none 0 text.toList))

/-- The few commands that are known without a system around; no other can be started. -/
def known : List String → Option Outcome
  | "true" :: _ => some ⟨0, "", ""⟩
  | "false" :: _ => some ⟨1, "", ""⟩
  | ["sh", "-c", text] => some (script text "sh")
  | "sh" :: "-c" :: text :: name :: _ => some (script text name)
  | _ => none

def shell : Tool :=
  fun command disk => (known command).map fun outcome => (outcome, disk)

end Tool

end ClientForge
