import ClientForge.Failure
import ClientForge.Json.Reader
import ClientForge.Text.Basic
import ClientForge.Text.Casing
import ClientForge.Value.Basic

namespace ClientForge

abbrev Environment := List (String × String)

namespace Environment

def lowerName (name : String) : String :=
  String.ofList (Text.lower name.toList)

def own (environment : Environment) : Entries String :=
  Entries.ofPairs <| environment.filterMap fun (name, value) =>
    (Text.after? "endpointgen_" (lowerName name).toList).map fun rest => (String.ofList rest, value)

def steps : List Char → List (List Char)
  | [] => [[]]
  | '_' :: '_' :: rest => [] :: steps rest
  | c :: rest =>
    match steps rest with
    | [] => [[c]]
    | part :: parts => (c :: part) :: parts

def putAt (value : Value) : List String → Entries Value → Entries Value
  | [], entries => entries
  | [key], entries => Entries.put entries key value
  | key :: rest, entries =>
    match Entries.get? entries key with
    | none => Entries.put entries key (.object (putAt value rest []))
    | some (.object inner) => Entries.put entries key (.object (putAt value rest inner))
    -- a value that is no object stays in the way
    | some _ => entries

def parts (own : Entries String) (name : String) (read : String → Value) : Entries Value :=
  own.foldl (fun entries (key, text) =>
    match Text.after? (name ++ "__") key.toList with
    | some rest => putAt (read text) ((steps rest).map String.ofList) entries
    | none => entries) []

def looseValue (text : String) : Value :=
  match Json.read text with
  | .ok value => value
  | .error _ => .text text

def structured (own : Entries String) (name : String) (isStrict : Bool) (read : String → Value) :
    Except Failure (Option Value) :=
  let parts := parts own name read
  match Entries.get? own name with
  | none => .ok (if parts.isEmpty then none else some (.object parts))
  | some text =>
    match Json.read text with
    | .ok .null => .ok none
    | .ok (.object entries) => .ok (some (.object (Value.overlay entries parts)))
    | .ok value => .ok (some value)
    | .error _ => if isStrict then .error .environment else .ok (some (.text text))

def unifyParts : Value → Value
  | .object entries => .object <| Entries.ofPairs <| entries.map fun (key, value) =>
      let name := lowerName key
      (if ["input", "output", "package"].contains name then name else key, value)
  | value => value

def plain (own : Entries String) (name : String) : Option (String × Value) :=
  (Entries.get? own name).map fun text => (name, .text text)

def settings (environment : Environment) : Except Failure (Entries Value) := do
  let own := environment.own
  let surface (name : String) : Except Failure (Option (String × Value)) :=
    (structured own name true .text).map (·.map fun value => (name, unifyParts value))
  let api ← surface "api"
  let extended ← surface "xpack"
  let linter ← structured own "linter" false .text
  let overrides ← structured own "overrides" true looseValue
  return (api.toList ++ extended.toList ++
    ["utils_module", "generate_tests", "verbose", "test_helper"].filterMap (plain own) ++
    (linter.map ("linter", ·)).toList ++ (overrides.map ("overrides", ·)).toList)

end Environment

end ClientForge
