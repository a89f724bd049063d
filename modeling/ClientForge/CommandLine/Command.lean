namespace ClientForge.CommandLine

structure Options where
  verbose : Bool
  withTests : Bool
  extended : Bool
  config : Option String
  input : Option String
  output : Option String
  deriving DecidableEq, Repr

namespace Options

def none : Options :=
  ⟨false, false, false, .none, .none, .none⟩

end Options

inductive Command
  | generate (options : Options)
  | version
  | help
  deriving DecidableEq, Repr

inductive Flag
  | verbose
  | tests
  | extended
  | help
  deriving DecidableEq, Repr

inductive Setting
  | config
  | input
  | output
  deriving DecidableEq, Repr

structure Reading where
  options : Options
  asksHelp : Bool
  hasExtras : Bool
  deriving DecidableEq, Repr

namespace Reading

def start : Reading :=
  ⟨.none, false, false⟩

def raise (reading : Reading) : Flag → Reading
  | .verbose => { reading with options.verbose := true }
  | .tests => { reading with options.withTests := true }
  | .extended => { reading with options.extended := true }
  | .help => { reading with asksHelp := true }

def set (reading : Reading) (value : String) : Setting → Reading
  | .config => { reading with options.config := some value }
  | .input => { reading with options.input := some value }
  | .output => { reading with options.output := some value }

end Reading

structure OptionNames where
  flags : List (String × Flag)
  settings : List (String × Setting)
  shortFlags : List (Char × Flag)
  shortSettings : List (Char × Setting)

def noOptions : OptionNames :=
  ⟨[("help", .help)], [], [], []⟩

def generateOptions : OptionNames :=
  { flags := [("verbose", .verbose), ("tests", .tests), ("xpack", .extended), ("help", .help)]
    settings := [("config", .config), ("input", .input), ("output", .output)]
    shortFlags := [('v', .verbose), ('t', .tests), ('x', .extended)]
    shortSettings := [('c', .config), ('i', .input), ('o', .output)] }

def readLetters (names : OptionNames) (reading : Reading) :
    List Char → Option (Reading × Option Setting)
  | [] => some (reading, none)
  | c :: rest =>
    match names.shortFlags.lookup c, names.shortSettings.lookup c with
    | some flag, _ => readLetters names (reading.raise flag) rest
    | none, some setting =>
      if rest.isEmpty then some (reading, some setting)
      else some (reading.set (String.ofList rest) setting, none)
    | none, none => none

def readOption (names : OptionNames) (reading : Reading) :
    List Char → Option (Reading × Option Setting)
  | '-' :: '-' :: rest =>
    let name := String.ofList (rest.takeWhile (· != '='))
    match names.flags.lookup name, names.settings.lookup name, rest.dropWhile (· != '=') with
    | some flag, _, [] => some (reading.raise flag, none)
    | none, some setting, [] => some (reading, some setting)
    | none, some setting, _ :: value => some (reading.set (String.ofList value) setting, none)
    | _, _, _ => none
  | _ :: letters => readLetters names reading letters
  | [] => none

def isOption (word : String) : Bool :=
  word.startsWith "-" && 1 < word.length

/-- Reads the words behind a command, the first of them for the option that waits for its value.
Two dashes end the options. -/
def readWords (names : OptionNames) (reading : Reading) (waiting : Option Setting) :
    List String → Option Reading
  | [] => if waiting.isSome then none else some reading
  | word :: rest =>
    match waiting with
    | some setting => readWords names (reading.set word setting) none rest
    | none =>
      if word = "--" then some { reading with hasExtras := reading.hasExtras || !rest.isEmpty }
      else if isOption word then
        match readOption names reading word.toList with
        | some (reading, waiting) => readWords names reading waiting rest
        | none => none
      else readWords names { reading with hasExtras := true } none rest

def Reading.command? (reading : Reading) (command : Options → Command) : Option Command :=
  if reading.asksHelp then some .help
  else if reading.hasExtras then none
  else some (command reading.options)

def commandNamed? (name : String) (rest : List String) : Option Command :=
  match name with
  | "generate" => (readWords generateOptions .start none rest).bind (·.command? .generate)
  | "version" => (readWords noOptions .start none rest).bind (·.command? fun _ => .version)
  | _ => none

def Command.ofWords? : List String → Option Command
  | "--" :: name :: rest => commandNamed? name rest
  | "--help" :: rest =>
    match rest with
    | word :: _ => if isOption word && word ≠ "--" && word ≠ "--help" then none else some .help
    | [] => some .help
  | name :: rest => commandNamed? name rest
  | [] => none

end ClientForge.CommandLine
