import ClientForge.Markup
import ClientForge.ModuleTree

namespace ClientForge

inductive Outline
  | node (label : String) (items : List Outline)
  deriving Repr, Inhabited

namespace Outline

def guided (last : Bool) : List String → List String
  | [] => []
  | first :: rest =>
    ((if last then "└── " else "├── ") ++ first) ::
      rest.map ((if last then "    " else "│   ") ++ ·)

mutual

def lines : Outline → Except String (List String)
  | .node label items => do
    return Text.lines (← Markup.render label) ++ (← itemLines items)

def itemLines : List Outline → Except String (List String)
  | [] => .ok []
  | [item] => (lines item).map (guided true)
  | item :: rest => do
    return guided false (← lines item) ++ (← itemLines rest)

end

end Outline

namespace ModuleTree

def fileNames (endpoints files : List String) : List String :=
  Text.sorted (endpoints.map (· ++ ".py") ++ files)

mutual

def items : ModuleTree → List Outline
  | ⟨_, endpoints, children, files⟩ =>
    (sorted (childOutlines children)).map (·.2) ++
      (fileNames endpoints files).map (.node · [])

def childOutlines : List (String × ModuleTree) → List (String × Outline)
  | [] => []
  | (name, child) :: rest =>
    (name, .node ("[bold]" ++ name ++ "/[/bold]") (items child)) :: childOutlines rest

end

def listing (tree : ModuleTree) (label : Option String) : Except String (List String) :=
  (Outline.node ((label.filter (· ≠ "")).getD tree.name) tree.items).lines

end ModuleTree

end ClientForge
