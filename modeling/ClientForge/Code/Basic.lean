import ClientForge.Value.Basic

namespace ClientForge.Code

inductive Comparison
  | same
  | different
  | equal
  | member
  deriving DecidableEq, Repr

inductive FormatPart
  | text (chars : List Char)
  | applied (function argument : String)
  deriving DecidableEq, Repr

inductive Expr
  | name (id : String)
  | constant (value : Value)
  | attribute (object : Expr) (name : String)
  | call (function : Expr) (args : List Expr) (keywords : List (Option String × Expr))
  | conjunction (operands : List Expr)
  | compare (left : Expr) (op : Comparison) (right : Expr)
  | choice (value test other : Expr)
  | formatted (parts : List FormatPart)
  | emptyDict
  | filterDict (key value : Expr) (targets : List String) (source test : Expr)
  | tuple (items : List Expr)
  | item (object index : Expr)
  | negative (operand : Expr)
  deriving Repr, Inhabited

inductive Stmt
  | expr (e : Expr)
  | assign (target value : Expr)
  | importNames (module : String) (names : List String)
  | importModule (module : String)
  | raise (exception : Expr)
  | give (value : Expr)
  | check (test : Expr)
  | branch (test : Expr) (body other : List Stmt)
  | define (name : String) (params : List String) (rest : Option String) (body : List Stmt)
  | inContext (context : Expr) (body : List Stmt)
  deriving Repr, Inhabited

namespace Expr

def text (s : String) : Expr := .constant (.text s)

def null : Expr := .constant .null

def all? : List Expr → Option Expr
  | [] => none
  | [operand] => some operand
  | operands => some (.conjunction operands)

end Expr

namespace Stmt

def doc (text : String) : Stmt := .expr (.text text)

def fail (exception message : String) : Stmt :=
  .raise (.call (.name exception) [.text message] [])

def exports (names : List String) : Stmt :=
  .assign (.name "__all__") (.tuple (names.map .text))

end Stmt

end ClientForge.Code
