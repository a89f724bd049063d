import ClientForge.Choice.Method
import ClientForge.Choice.Path
import ClientForge.Code.Basic

namespace ClientForge

open Code

inductive CodeFault
  | emptyCondition
  | noTemplate
  deriving DecidableEq, Repr

def localName (argument : String) : String :=
  if argument = "body" then "body" else "_" ++ argument

def suppliedTest (argument : String) : Expr :=
  .compare (.name (localName argument)) .different .null

namespace Template

def formatParts (pieces : List Piece) : List FormatPart :=
  pieces.map fun
    | .text chars => .text chars
    | .slot name => .applied "listify" (localName name)

def code (template : String) : Expr :=
  let parts := pieces (strip template)
  if (slots parts).isEmpty then .text (strip template) else .formatted (formatParts parts)

end Template

namespace PathChoice

def assignPath (template : String) (target : String := "path") : Stmt :=
  .assign (.name target) (Template.code template)

def expectedText (branches : List PathBranch) : String :=
  ", ".intercalate (branches.map fun branch => " and ".intercalate branch.needed)

def otherwise (choice : PathChoice) (target : String := "path") : List Stmt :=
  match choice.fallback with
  | some template => [assignPath template target]
  | none =>
    [.fail "ValueError"
      ("Missing path arguments, expected one of: " ++ expectedText choice.branches)]

def chain (other : List Stmt) (branches : List PathBranch) (target : String := "path") :
    Except CodeFault (List Stmt) :=
  match branches with
  | [] => .ok other
  | branch :: rest => do
    let other ← chain other rest target
    match Expr.all? (branch.needed.map suppliedTest) with
    | some test => return [.branch test [assignPath branch.template target] other]
    | none => throw .emptyCondition

def code (choice : PathChoice) (target : String := "path") : Except CodeFault (List Stmt) :=
  if choice.isConditional then chain (choice.otherwise target) choice.branches target
  else match choice.fallback with
    | some template => .ok [assignPath template target]
    | none => .error .noTemplate

end PathChoice

namespace MethodChoice

def value (default : String) : List MethodBranch → Expr
  | [] => .text default
  | branch :: rest =>
    .choice (.text branch.method) (suppliedTest branch.argument) (value default rest)

def code (choice : MethodChoice) (target : String := "method") : Stmt :=
  .assign (.name target) (value choice.default choice.branches)

end MethodChoice

end ClientForge
