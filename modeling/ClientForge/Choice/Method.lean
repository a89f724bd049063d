namespace ClientForge

structure MethodBranch where
  argument : String
  method : String
  deriving DecidableEq, Repr

structure MethodChoice where
  branches : List MethodBranch
  default : String
  deriving DecidableEq, Repr

namespace MethodChoice

def isConditional (choice : MethodChoice) : Bool :=
  !choice.branches.isEmpty

def select (choice : MethodChoice) (supplied : List String) : String :=
  match choice.branches.find? fun branch => supplied.contains branch.argument with
  | some branch => branch.method
  | none => choice.default

end MethodChoice

end ClientForge
