import ClientForge.Code.Basic
import Mathlib.Data.List.Basic

namespace ClientForge.Code

inductive Binding
  | parameter
  | variable
  | function
  | constant
  | imported (source : String)
  | module
  | builtin
  deriving DecidableEq, Repr

def FormatPart.reads : FormatPart → List String
  | .text _ => []
  | .applied function argument => [function, argument]

mutual

def Expr.reads : Expr → List String
  | .name id => [id]
  | .constant _ => []
  | .attribute object _ => object.reads
  | .call function args keywords => function.reads ++ readsEach args ++ readsKeywords keywords
  | .conjunction operands => readsEach operands
  | .compare left _ right => left.reads ++ right.reads
  | .choice value test other => test.reads ++ value.reads ++ other.reads
  | .formatted parts => parts.flatMap FormatPart.reads
  | .emptyDict => []
  -- the source is read before the targets are bound
  | .filterDict key value targets source test =>
    source.reads ++ (test.reads ++ key.reads ++ value.reads).filter (· ∉ targets)
  | .tuple items => readsEach items
  | .item object index => object.reads ++ index.reads
  | .negative operand => operand.reads

def readsEach : List Expr → List String
  | [] => []
  | e :: rest => e.reads ++ readsEach rest

def readsKeywords : List (Option String × Expr) → List String
  | [] => []
  | (_, e) :: rest => e.reads ++ readsKeywords rest

end

mutual

def Stmt.reads : Stmt → List String
  | .expr e => e.reads
  | .assign (.name _) value => value.reads
  | .assign target value => value.reads ++ target.reads
  | .importNames _ _ => []
  | .importModule _ => []
  | .raise exception => exception.reads
  | .give value => value.reads
  | .check test => test.reads
  | .branch test body other => test.reads ++ readsAll body ++ readsAll other
  | .define _ _ _ _ => []
  | .inContext context body => context.reads ++ readsAll body

def readsAll : List Stmt → List String
  | [] => []
  | stmt :: rest => stmt.reads ++ readsAll rest

end

mutual

def Stmt.binds : Stmt → List (String × Binding)
  | .assign (.name id) _ => [(id, .constant)]
  | .importNames source names => names.map fun name => (name, .imported source)
  | .importModule name => [(String.ofList (name.toList.takeWhile (· ≠ '.')), .module)]
  | .branch _ body other => bindsAll body ++ bindsAll other
  | .define name _ _ _ => [(name, .function)]
  | .inContext _ body => bindsAll body
  | _ => []

def bindsAll : List Stmt → List (String × Binding)
  | [] => []
  | stmt :: rest => stmt.binds ++ bindsAll rest

end

/-- What a name stands for in the body of a function, once its module is complete: what is bound anywhere in
the body is a variable all over it, and of the bindings of the module the last one counts. -/
def scope (module : List Stmt) (params : List String) (body : List Stmt) (name : String) : Binding :=
  if name ∈ params then .parameter
  else if name ∈ (bindsAll body).map (·.1) then .variable
  else ((bindsAll module).reverse.lookup name).getD .builtin

namespace Stmt

def bodyReads : Stmt → List String
  | .define _ _ _ body => readsAll body
  | _ => []

def resolves (module : List Stmt) (name : String) : Stmt → Binding
  | .define _ params rest body => scope module (params ++ rest.toList) body name
  | _ => scope module [] [] name

end Stmt

theorem readsAll_append (first second : List Stmt) :
    readsAll (first ++ second) = readsAll first ++ readsAll second := by
  induction first with
  | nil => rfl
  | cons stmt rest ih => rw [List.cons_append, readsAll, ih, readsAll, List.append_assoc]

theorem bindsAll_append (first second : List Stmt) :
    bindsAll (first ++ second) = bindsAll first ++ bindsAll second := by
  induction first with
  | nil => rfl
  | cons stmt rest ih => rw [List.cons_append, bindsAll, ih, bindsAll, List.append_assoc]

theorem readsAll_map {α : Type} (stmt : α → Stmt) (items : List α) :
    readsAll (items.map stmt) = items.flatMap fun item => (stmt item).reads := by
  induction items with
  | nil => rfl
  | cons item rest ih => rw [List.map_cons, readsAll, ih, List.flatMap_cons]

theorem bindsAll_map {α : Type} (stmt : α → Stmt) (items : List α) :
    bindsAll (items.map stmt) = items.flatMap fun item => (stmt item).binds := by
  induction items with
  | nil => rfl
  | cons item rest ih => rw [List.map_cons, bindsAll, ih, List.flatMap_cons]

end ClientForge.Code
