import ClientForge.Toml.Scalar
import ClientForge.Toml.Table

namespace ClientForge.Toml

open Text (after?)

def isBareKey (c : Char) : Bool :=
  c.isAlphanum || c == '_' || c == '-'

def keyPart? (text : List Char) : Option (String × List Char) :=
  let bare := text.takeWhile isBareKey
  if !bare.isEmpty then some (String.ofList bare, text.drop bare.length)
  else match text with
    | '"' :: rest => (basicText false (rest.length + 1) rest).map fun (cs, rest) => (String.ofList cs, rest)
    | '\'' :: rest => (literalText false rest).map fun (cs, rest) => (String.ofList cs, rest)
    | _ => none

def keyPath? : Nat → List Char → Option (KeyPath × List Char)
  | 0, _ => none
  | fuel + 1, text => do
    let (part, rest) ← keyPart? text
    match skipBlank rest with
    | '.' :: rest =>
      let (parts, rest) ← keyPath? fuel (skipBlank rest)
      return (part :: parts, rest)
    | rest => return ([part], rest)

def key? (text : List Char) : Option (KeyPath × List Char) :=
  keyPath? (text.length + 1) text

def skipComment : List Char → Option (List Char)
  | '#' :: rest =>
    let comment := rest.takeWhile (· != '\n')
    if comment.any isIllegal then none else some (rest.drop comment.length)
  | text => some text

def skipLines : Nat → List Char → Option (List Char)
  | 0, text => some text
  | fuel + 1, text =>
    match text.dropWhile fun c => isBlank c || c == '\n' with
    | '#' :: rest => do skipLines fuel (← skipComment ('#' :: rest))
    | rest => some rest

def skipAll (text : List Char) : Option (List Char) :=
  skipLines (text.length + 1) text

mutual

def value? : Nat → List Char → Option (Value × List Char)
  | 0, _ => none
  | fuel + 1, text =>
    match text with
    | '[' :: rest => do
      let (items, rest) ← items? fuel (← skipAll rest)
      return (.list items, rest)
    | '\x7b' :: rest =>
      match skipBlank rest with
      | '\x7d' :: rest => some (.object [], rest)
      | rest => do
        let (entries, rest) ← inline? [] [] fuel rest
        return (.object entries, rest)
    | c :: _ =>
      if c == '"' || c == '\'' then
        (text? text).map fun (cs, rest) => (.text (String.ofList cs), rest)
      else (((word? text).filter fun _ => c == 't' || c == 'f').or (measured? text)).or
        (if (dateTime? text).isSome then none else word? text)
    | [] => none

def items? : Nat → List Char → Option (List Value × List Char)
  | 0, _ => none
  | _ + 1, ']' :: rest => some ([], rest)
  | fuel + 1, text => do
    let (item, rest) ← value? fuel text
    match ← skipAll rest with
    | ']' :: rest => return ([item], rest)
    | ',' :: rest =>
      let (items, rest) ← items? fuel (← skipAll rest)
      return (item :: items, rest)
    | _ => none

def inline? (entries : Entries Value) (closed : List KeyPath) :
    Nat → List Char → Option (Entries Value × List Char)
  | 0, _ => none
  | fuel + 1, text => do
    let (path, value, rest) ← pair? fuel text
    let entries ← addInline closed entries path value
    match skipBlank rest with
    | '\x7d' :: rest => return (entries, rest)
    | ',' :: rest =>
      let closed := match value with
        | .object _ | .list _ => path :: closed
        | _ => closed
      inline? entries closed fuel (skipBlank rest)
    | _ => none

def pair? : Nat → List Char → Option (KeyPath × Value × List Char)
  | 0, _ => none
  | fuel + 1, text => do
    let (path, rest) ← key? text
    match rest with
    | '=' :: rest =>
      let (value, rest) ← value? fuel (skipBlank rest)
      return (path, value, rest)
    | _ => none

end

def statements (fuel : Nat) : Nat → KeyPath → Draft → List Char → Option Draft
  | 0, _, _, _ => none
  | steps + 1, base, draft, text =>
    let next (base : KeyPath) (draft : Draft) (rest : List Char) : Option Draft := do
      match ← skipComment (skipBlank rest) with
      | [] => return draft
      | '\n' :: rest => statements fuel steps base draft rest
      | _ => none
    match skipBlank text with
    | [] => some draft
    | '\n' :: rest => statements fuel steps base draft rest
    | '#' :: rest => next base draft ('#' :: rest)
    | '[' :: '[' :: rest => do
      let (path, rest) ← key? (skipBlank rest)
      let draft ← draft.endSection.openListTable path
      next path draft (← after? "]]" rest)
    | '[' :: rest => do
      let (path, rest) ← key? (skipBlank rest)
      let draft ← draft.endSection.openTable path
      next path draft (← after? "]" rest)
    | text => do
      let (path, value, rest) ← pair? fuel text
      next base (← draft.add base path value) rest

def read (text : String) : Option (Entries Value) :=
  let chars := text.toList
  let fuel := chars.length + 2
  (statements (2 * fuel) fuel [] .empty chars).map (·.entries)

end ClientForge.Toml
