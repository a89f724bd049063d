import ClientForge.Choice.Irregular
import ClientForge.Text.Casing

namespace ClientForge

structure UnresolvedPaths where
  endpoint : String
  templates : List String
  fault : PathFault
  deriving DecidableEq, Repr

namespace PathChoice

def steps (name : String) (templates : List String) : List PathStep :=
  if templates.length = 1 ∨ (Irregular.paths.lookup name).isSome then []
  else PathStep.ofOrdered (longestFirst templates)

def resolve (name : String) (templates : List String) : Except UnresolvedPaths PathChoice :=
  match templates with
  | [] => .error ⟨name, [], .noTemplates⟩
  | [template] => .ok (always template)
  | templates =>
    match Irregular.paths.lookup name with
    | some choice => .ok choice
    | none =>
      (ofSteps (PathStep.ofOrdered (longestFirst templates))).mapError
        (⟨name, longestFirst templates, ·⟩)

def remarks (name : String) (templates : List String) : List String :=
  (steps name templates).filterMap (PathStep.note? name)

end PathChoice

def MethodChoice.resolve (name : String) (first : String) : MethodChoice :=
  (Irregular.methods.lookup name).getD ⟨[], String.ofList (Text.upper first.toList)⟩

end ClientForge
