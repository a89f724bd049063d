import ClientForge.Entries
import ClientForge.Value.Basic

namespace ClientForge.Toml

abbrev KeyPath := List String

inductive MarkKind
  | closed
  | opened
  deriving DecidableEq, Repr

structure Mark where
  path : KeyPath
  kind : MarkKind
  below : Bool
  deriving DecidableEq, Repr

structure Draft where
  entries : Entries Value
  marks : List Mark
  pending : List KeyPath
  deriving Repr

namespace Draft

def empty : Draft := ⟨[], [], []⟩

def isMarked (marks : List Mark) (path : KeyPath) (kind : MarkKind) : Bool :=
  !path.isEmpty && marks.any fun mark =>
    mark.kind == kind && (mark.path == path ||
      (mark.below && mark.path.isPrefixOf path))

def mark (draft : Draft) (path : KeyPath) (kind : MarkKind) (below : Bool) : Draft :=
  { draft with marks := ⟨path, kind, below⟩ :: draft.marks }

def within (change : Entries Value → Option (Entries Value)) :
    KeyPath → Entries Value → Option (Entries Value)
  | [], entries => change entries
  | key :: rest, entries =>
    match Entries.get? entries key with
    | none => (within change rest []).map fun inner => Entries.put entries key (.object inner)
    | some (.object inner) =>
      (within change rest inner).map fun inner => Entries.put entries key (.object inner)
    | some (.list items) =>
      -- a path goes on in the table that was added last
      match items.getLast? with
      | some (.object inner) =>
        (within change rest inner).map fun inner =>
          Entries.put entries key (.list (items.dropLast ++ [.object inner]))
      | _ => none
    | some _ => none

def addNew (key : String) (value : Value) (entries : Entries Value) : Option (Entries Value) :=
  if Entries.contains entries key then none else some (Entries.put entries key value)

def appendTable (key : String) (entries : Entries Value) : Option (Entries Value) :=
  match Entries.get? entries key with
  | none => some (Entries.put entries key (.list [.object []]))
  | some (.list items) => some (Entries.put entries key (.list (items ++ [.object []])))
  | some _ => none

def endSection (draft : Draft) : Draft :=
  { draft with
    marks := draft.pending.map (⟨·, .opened, false⟩) ++ draft.marks
    pending := [] }

def openTable (draft : Draft) (path : KeyPath) : Option Draft := do
  guard !(isMarked draft.marks path .opened || isMarked draft.marks path .closed)
  let draft := draft.mark path .opened false
  return { draft with entries := ← within some path draft.entries }

def openListTable (draft : Draft) (path : KeyPath) : Option Draft := do
  guard !(isMarked draft.marks path .closed)
  let draft := { draft with marks := draft.marks.filter fun mark => !path.isPrefixOf mark.path }
  let draft := draft.mark path .opened false
  let name ← path.getLast?
  return { draft with entries := ← within (appendTable name) path.dropLast draft.entries }

def innerPaths (base path : KeyPath) : List KeyPath :=
  (List.range' 1 (path.length - 1)).map fun i => base ++ path.take i

def add (draft : Draft) (base path : KeyPath) (value : Value) : Option Draft := do
  let inner := innerPaths base path
  guard !(inner.any fun path => isMarked draft.marks path .opened)
  guard !(isMarked draft.marks (base ++ path.dropLast) .closed)
  let name ← path.getLast?
  let entries ← within (addNew name value) (base ++ path.dropLast) draft.entries
  let draft := { draft with entries, pending := draft.pending ++ inner }
  return match value with
    | .object _ | .list _ => draft.mark (base ++ path) .closed true
    | _ => draft

end Draft

def insertInline (name : String) (value : Value) : KeyPath → Entries Value → Option (Entries Value)
  | [], entries => Draft.addNew name value entries
  | key :: rest, entries =>
    match Entries.get? entries key with
    | none =>
      (insertInline name value rest []).map fun inner => Entries.put entries key (.object inner)
    | some (.object inner) =>
      (insertInline name value rest inner).map fun inner => Entries.put entries key (.object inner)
    | some _ => none

def addInline (closed : List KeyPath) (entries : Entries Value) (path : KeyPath) (value : Value) :
    Option (Entries Value) := do
  guard !(closed.any fun done => done.isPrefixOf path)
  insertInline (← path.getLast?) value path.dropLast entries

end ClientForge.Toml
