import ClientForge.Failure
import ClientForge.Yaml.Node

namespace ClientForge.Yaml

def tagName (tag : List Char) : String :=
  let long := "<tag:yaml.org,2002:".toList
  String.ofList (if long.isPrefixOf tag then '!' :: tag.drop long.length else tag)

def numberFault (digits : List Char) : Failure :=
  -- the reader looks at the first digit without asking whether there is one
  if digits.isEmpty then .foreign "IndexError" else .yaml

def meaning (tag : Option (List Char)) (text : List Char) (isPlain : Bool) : Except Failure Plain :=
  let asText : Plain := .value (.text (String.ofList text))
  match tag.map tagName with
  | none => .ok (if isPlain then plain text else asText)
  | some "" => .ok (plain text)
  | some "!str" => .ok asText
  | some "!null" => .ok (.value .null)
  | some "!int" =>
    match whole? text with
    | some n => .ok (.value (.int n))
    | none => .error (numberFault (takeSign (dropLines text)).2)
  | some "!float" =>
    match (real? text).or ((whole? text).map fun n => Double.ofDecimal (n < 0) n.natAbs 0) with
    | some x => .ok (.value (.real x))
    | none => .error (numberFault (dropLines text))
  | some "!bool" =>
    let word := String.ofList (text.map Char.toLower)
    if trueWords.contains word then .ok (.value (.bool true))
    else if falseWords.contains word then .ok (.value (.bool false))
    else .error (.missingKey word)
  | some "!timestamp" =>
    if isDate 1 text || isMoment text then .ok (.value (.moment (String.ofList text)))
    else .error (.foreign "AttributeError")
  | some _ => .error .yaml

def isSequenceTag (tag : Option (List Char)) : Bool :=
  [none, some "", some "!seq"].contains (tag.map tagName)

def isMappingTag (tag : Option (List Char)) : Bool :=
  [none, some "", some "!map"].contains (tag.map tagName)

inductive Key
  | text (s : String)
  | odd (s : String)
  | merge

def Key.name : Key → String
  | .text s => s
  | .odd s => s
  | .merge => "<<"

def key : Node → Except Failure Key
  | .scalar tag text isPlain =>
    (meaning tag text isPlain).map fun
      | .merge => .merge
      | .default => .text "="
      | .value (.text s) => .text s
      | .value .null => .odd "null"
      | .value (.bool b) => .odd (if b then "true" else "false")
      | .value v => .odd v.literal
  | _ => .error .yaml

namespace Node

mutual

def value : Node → Except Failure Value
  | .scalar tag text isPlain => do
    match ← meaning tag text isPlain with
    | .value v => return v
    | _ => throw .yaml
  | .sequence tag items => if isSequenceTag tag then (values items).map .list else .error .yaml
  | .mapping tag entries =>
    if isMappingTag tag then
      (pairs entries).map fun (merged, own) => .object (Entries.ofPairs (merged ++ own))
    else .error .yaml

def values : List Node → Except Failure (List Value)
  | [] => .ok []
  | node :: rest => do return (← value node) :: (← values rest)

def pairs : List (Node × Node) → Except Failure (Entries Value × Entries Value)
  | [] => .ok ([], [])
  | (name, node) :: rest => do
    match ← key name with
    | .merge =>
      let here ← merged node
      let (merged, own) ← pairs rest
      return (here ++ merged, own)
    | key =>
      let value ← value node
      let (merged, own) ← pairs rest
      return (merged, (key.name, value) :: own)

def merged : Node → Except Failure (Entries Value)
  | .mapping _ entries => (pairs entries).map fun (merged, own) => merged ++ own
  | .sequence _ items => mergedAll items
  | .scalar .. => .error .yaml

def mergedAll : List Node → Except Failure (Entries Value)
  | [] => .ok []
  | .mapping _ entries :: rest => do
    let (merged, own) ← pairs entries
    -- what is put last counts, so the first mapping goes behind the others
    return (← mergedAll rest) ++ (merged ++ own)
  | _ :: _ => .error .yaml

end

mutual

def oddKeys : Node → List (List String)
  | .mapping _ entries => oddEntries entries
  | _ => []

def oddEntries : List (Node × Node) → List (List String)
  | [] => []
  | (name, node) :: rest =>
    (match key name with
      | .ok (.odd s) => [[s]]
      | .ok (.text s) => (oddKeys node).map (s :: ·)
      | .ok .merge => oddMerged node
      | .error _ => []) ++ oddEntries rest

def oddMerged : Node → List (List String)
  | .mapping _ entries => oddEntries entries
  | .sequence _ items => oddMergedAll items
  | .scalar .. => []

def oddMergedAll : List Node → List (List String)
  | [] => []
  | item :: rest => oddKeys item ++ oddMergedAll rest

end

end Node

structure Document where
  value : Value
  oddKeys : List (List String)
  deriving Repr

def read (text : String) : Except Failure Document :=
  match (tokens text.toList).bind Node.ofTokens with
  | none => .error .yaml
  | some node => node.value.map fun value => ⟨value, node.oddKeys⟩

end ClientForge.Yaml
