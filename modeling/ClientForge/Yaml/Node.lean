import ClientForge.Entries
import ClientForge.Yaml.Plain
import ClientForge.Yaml.Token

namespace ClientForge.Yaml

inductive Node
  | scalar (tag : Option (List Char)) (text : List Char) (isPlain : Bool)
  | sequence (tag : Option (List Char)) (items : List Node)
  | mapping (tag : Option (List Char)) (entries : List (Node × Node))
  deriving Repr, Inhabited

namespace Node

def empty : Node := .scalar none [] true

abbrev Names := List (List Char × Node)

structure Properties where
  anchor : Option (List Char)
  tag : Option (List Char)

def properties : List Token → Properties × List Token
  | .anchor name :: .tag tag :: rest => (⟨some name, some tag⟩, rest)
  | .tag tag :: .anchor name :: rest => (⟨some name, some tag⟩, rest)
  | .anchor name :: rest => (⟨some name, none⟩, rest)
  | .tag tag :: rest => (⟨none, some tag⟩, rest)
  | rest => (⟨none, none⟩, rest)

def at? (tokens : List Token) (rest : List Token) : Bool :=
  match rest with
  | first :: _ => tokens.contains first
  | [] => true

mutual

/-- Reads a node; with it come the names known by then and the tokens behind it. In a block, block
structures may stand, and entries without an indentation of their own where `bare` allows them. -/
def read (inBlock bare : Bool) (names : Names) : Nat → List Token → Option (Node × Names × List Token)
  | 0, _ => none
  | _ + 1, .alias name :: rest => (names.lookup name).map fun node => (node, names, rest)
  | fuel + 1, tokens => do
    let (properties, tokens) := properties tokens
    guard !(properties.anchor.map fun name => (names.lookup name).isSome).getD false
    let (node, names, rest) ← match tokens with
      | .blockEntry :: _ =>
        if bare then do
          let (items, names, rest) ← readBare names fuel tokens
          some (.sequence properties.tag items, names, rest)
        else readEmpty properties names tokens
      | .scalar text isPlain :: rest => some (.scalar properties.tag text isPlain, names, rest)
      | .flowSequence :: rest => do
        let (items, names, rest) ← readFlowItems true names fuel rest
        some (.sequence properties.tag items, names, rest)
      | .flowMapping :: rest => do
        let (entries, names, rest) ← readFlowEntries true names fuel rest
        some (.mapping properties.tag entries, names, rest)
      | .blockSequence :: rest =>
        if inBlock then do
          let (items, names, rest) ← readItems names fuel rest
          some (.sequence properties.tag items, names, rest)
        else readEmpty properties names tokens
      | .blockMapping :: rest =>
        if inBlock then do
          let (entries, names, rest) ← readEntries names fuel rest
          some (.mapping properties.tag entries, names, rest)
        else readEmpty properties names tokens
      | _ => readEmpty properties names tokens
    match properties.anchor with
    | some name => return (node, (name, node) :: names, rest)
    | none => return (node, names, rest)

def readEmpty (properties : Properties) (names : Names) (tokens : List Token) : Option (Node × Names × List Token) :=
  if properties.anchor.isSome || properties.tag.isSome then
    some (.scalar properties.tag [] true, names, tokens)
  else none

def readUnless (ends : List Token) (inBlock bare : Bool) (names : Names) :
    Nat → List Token → Option (Node × Names × List Token)
  | 0, _ => none
  | fuel + 1, tokens =>
    if at? ends tokens then some (empty, names, tokens) else read inBlock bare names fuel tokens

def readItems (names : Names) : Nat → List Token → Option (List Node × Names × List Token)
  | 0, _ => none
  | fuel + 1, .blockEntry :: rest => do
    let (item, names, rest) ← readUnless [.blockEntry, .blockEnd] true false names fuel rest
    let (items, names, rest) ← readItems names fuel rest
    return (item :: items, names, rest)
  | _ + 1, .blockEnd :: rest => some ([], names, rest)
  | _ + 1, _ => none

def readBare (names : Names) : Nat → List Token → Option (List Node × Names × List Token)
  | 0, _ => none
  | fuel + 1, .blockEntry :: rest => do
    let (item, names, rest) ←
      readUnless [.blockEntry, .key, .value, .blockEnd] true false names fuel rest
    let (items, names, rest) ← readBare names fuel rest
    return (item :: items, names, rest)
  | _ + 1, rest => some ([], names, rest)

def readEntries (names : Names) : Nat → List Token → Option (List (Node × Node) × Names × List Token)
  | 0, _ => none
  | _ + 1, .blockEnd :: rest => some ([], names, rest)
  | fuel + 1, tokens => do
    let ends : List Token := [.key, .value, .blockEnd]
    let (key, names, rest) ← match tokens with
      | .key :: rest => readUnless ends true true names fuel rest
      | _ => none
    let (value, names, rest) ← match rest with
      | .value :: rest => readUnless ends true true names fuel rest
      | rest => some (empty, names, rest)
    let (entries, names, rest) ← readEntries names fuel rest
    return ((key, value) :: entries, names, rest)

def skipComma (isFirst : Bool) : List Token → Option (List Token)
  | .flowEntry :: rest => if isFirst then some (.flowEntry :: rest) else some rest
  | rest => if isFirst then some rest else none

def readFlowItems (isFirst : Bool) (names : Names) : Nat → List Token → Option (List Node × Names × List Token)
  | 0, _ => none
  | _ + 1, .flowSequenceEnd :: rest => some ([], names, rest)
  | fuel + 1, tokens => do
    let rest ← skipComma isFirst tokens
    match rest with
    | .flowSequenceEnd :: rest => return ([], names, rest)
    | .key :: rest =>
      let (key, names, rest) ←
        readUnless [.value, .flowEntry, .flowSequenceEnd] false false names fuel rest
      let (value, names, rest) ← match rest with
        | .value :: rest => readUnless [.flowEntry, .flowSequenceEnd] false false names fuel rest
        | rest => some (empty, names, rest)
      let (items, names, rest) ← readFlowItems false names fuel rest
      return (.mapping none [(key, value)] :: items, names, rest)
    | rest =>
      let (item, names, rest) ← read false false names fuel rest
      let (items, names, rest) ← readFlowItems false names fuel rest
      return (item :: items, names, rest)

def readFlowEntries (isFirst : Bool) (names : Names) :
    Nat → List Token → Option (List (Node × Node) × Names × List Token)
  | 0, _ => none
  | _ + 1, .flowMappingEnd :: rest => some ([], names, rest)
  | fuel + 1, tokens => do
    let rest ← skipComma isFirst tokens
    match rest with
    | .flowMappingEnd :: rest => return ([], names, rest)
    | .key :: rest =>
      let (key, names, rest) ←
        readUnless [.value, .flowEntry, .flowMappingEnd] false false names fuel rest
      let (value, names, rest) ← match rest with
        | .value :: rest => readUnless [.flowEntry, .flowMappingEnd] false false names fuel rest
        | rest => some (empty, names, rest)
      let (entries, names, rest) ← readFlowEntries false names fuel rest
      return ((key, value) :: entries, names, rest)
    | rest =>
      let (key, names, rest) ← read false false names fuel rest
      let (entries, names, rest) ← readFlowEntries false names fuel rest
      return ((key, empty) :: entries, names, rest)

end

def finish (node : Node) (rest : List Token) : Option Node :=
  if rest.all (· == .documentEnd) then some node else none

def document (fuel : Nat) (rest : List Token) : Option Node :=
  if at? [.directive, .documentStart, .documentEnd] rest then finish empty rest
  else do
    let (node, _, rest) ← read true false [] fuel rest
    finish node rest

def ofTokens (tokens : List Token) : Option Node :=
  let fuel := 4 * tokens.length + 8
  match tokens with
  | [] => some empty
  | .directive :: _ | .documentStart :: _ =>
    match tokens.dropWhile (· == .directive) with
    | .documentStart :: rest => document fuel rest
    | _ => none
  | rest => do
    let (node, _, rest) ← read true false [] fuel rest
    finish node rest

end Node

end ClientForge.Yaml
