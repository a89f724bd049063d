import ClientForge.Entries
import ClientForge.Text.Basic

namespace ClientForge

structure ModuleTree where
  name : String
  endpoints : List String
  children : List (String × ModuleTree)
  files : List String
  deriving Repr, Inhabited

namespace ModuleTree

def leaf (name : String) : ModuleTree :=
  ⟨name, [], [], []⟩

def update (change : ModuleTree → ModuleTree) : List String → ModuleTree → ModuleTree
  | [], tree => change tree
  | part :: rest, tree =>
    let child := (Entries.get? tree.children part).getD (leaf part)
    { tree with children := Entries.put tree.children part (update change rest child) }

def insertNew (name : String) (names : List String) : List String :=
  if names.contains name then names else names ++ [name]

def addEndpoint (path : List String) (endpoint : String) : ModuleTree → ModuleTree :=
  update (fun tree => { tree with endpoints := insertNew endpoint tree.endpoints }) path

def addFile (path : List String) (file : String) : ModuleTree → ModuleTree :=
  update (fun tree => { tree with files := insertNew file tree.files }) path

def get? : List String → ModuleTree → Option ModuleTree
  | [], tree => some tree
  | part :: rest, tree => (Entries.get? tree.children part).bind (get? rest)

def sorted {α : Type} (entries : List (String × α)) : List (String × α) :=
  entries.mergeSort (·.1 ≤ ·.1)

mutual

def walk (path : List String) : ModuleTree → List (List String × ModuleTree)
  | ⟨name, endpoints, children, files⟩ =>
    (path, ⟨name, endpoints, children, files⟩) ::
      (sorted (walkChildren path children)).flatMap (·.2)

def walkChildren (path : List String) :
    List (String × ModuleTree) → List (String × List (List String × ModuleTree))
  | [] => []
  | (name, child) :: rest => (name, walk (path ++ [name]) child) :: walkChildren path rest

end

mutual

def count : ModuleTree → Nat
  | ⟨_, endpoints, children, _⟩ => endpoints.length + countChildren children

def countChildren : List (String × ModuleTree) → Nat
  | [] => 0
  | (_, child) :: rest => count child + countChildren rest

end

def dotted (path : List String) : String :=
  if path.isEmpty then "__root__" else ".".intercalate path

def flatten (tree : ModuleTree) : Entries (List String) :=
  Entries.ofPairs <| (walk [] tree).filterMap fun (path, node) =>
    if node.endpoints.isEmpty then none else some (dotted path, Text.sorted node.endpoints)

end ModuleTree

end ClientForge
