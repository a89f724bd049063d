import ClientForge.Entries
import ClientForge.Template

namespace ClientForge

structure PathBranch where
  needed : List String
  template : String
  deriving DecidableEq, Repr

/-- Which template a call uses: that of the first branch whose variables are all supplied, else the
fallback. Variables with a default may be left out. -/
structure PathChoice where
  branches : List PathBranch
  fallback : Option String
  defaults : Entries String
  deriving DecidableEq, Repr

def PathBranch.applies (branch : PathBranch) (supplied : List String) : Bool :=
  branch.needed.all supplied.contains

namespace PathChoice

def always (template : String) : PathChoice :=
  ⟨[], some template, []⟩

def isConditional (choice : PathChoice) : Bool :=
  !choice.branches.isEmpty

def templates (choice : PathChoice) : List String :=
  choice.branches.map (·.template) ++ choice.fallback.toList

def names (choice : PathChoice) : List String :=
  (choice.branches.flatMap (·.needed) ++ choice.templates.flatMap Template.slotNames).foldl
    (fun seen name => if seen.contains name then seen else seen ++ [name]) []

def select (choice : PathChoice) (supplied : List String) : Option String :=
  match choice.branches.find? (·.applies supplied) with
  | some branch => some branch.template
  | none => choice.fallback

end PathChoice

inductive PathFault
  | noTemplates
  | plainHead (template : String)
  | behindFallback (template : String)
  deriving DecidableEq, Repr

def PathFault.message : PathFault → String
  | .noTemplates => "no path templates"
  | .plainHead template => "longest path '" ++ template ++ "' has no variables"
  | .behindFallback template => "path '" ++ template ++ "' follows the unconditional path"

inductive PathStep
  | branch (needed : List String) (template : String) (shadowed : Bool)
  | fallback (template : String)
  | skip (template : String)
  | reject (fault : PathFault)
  deriving DecidableEq, Repr

namespace PathStep

/-- Decides on the templates behind the first one. `previous` are the variables of the last one
that was kept, `tried` those of the branches, and `closed` tells whether there is a fallback. -/
def walk (previous : List String) (tried : List (List String)) (closed : Bool) :
    List String → List PathStep
  | [] => []
  | template :: rest =>
    let signature := Template.signature template
    if signature = previous then .skip template :: walk previous tried closed rest
    else if closed then [.reject (.behindFallback template)]
    else if rest.isEmpty || signature.isEmpty then
      .fallback template :: walk signature tried true rest
    else
      .branch signature template (tried.contains signature) ::
        walk signature (tried ++ [signature]) false rest

def ofOrdered : List String → List PathStep
  | [] => [.reject .noTemplates]
  | template :: rest =>
    let signature := Template.signature template
    if signature.isEmpty then [.reject (.plainHead template)]
    else .branch signature template false :: walk signature [signature] false rest

def branch? : PathStep → Option PathBranch
  | .branch needed template _ => some ⟨needed, template⟩
  | _ => none

def fallback? : PathStep → Option String
  | .fallback template => some template
  | _ => none

def fault? : PathStep → Option PathFault
  | .reject fault => some fault
  | _ => none

def note? (name : String) : PathStep → Option String
  | .branch _ template true => some (name ++ ": " ++ template ++ " is shadowed by an earlier path")
  | .skip template => some (name ++ ": skipping " ++ template ++ ", same variables as previous path")
  | _ => none

end PathStep

namespace PathChoice

def longestFirst (templates : List String) : List String :=
  templates.mergeSort fun a b => b.length ≤ a.length

def ofSteps (steps : List PathStep) : Except PathFault PathChoice :=
  match steps.findSome? PathStep.fault? with
  | some fault => .error fault
  | none =>
    match steps.filterMap PathStep.branch?, steps.findSome? PathStep.fallback? with
    | [branch], none => .ok (always branch.template)
    | branches, fallback => .ok ⟨branches, fallback, []⟩

end PathChoice

end ClientForge
