import ClientForge.Settings.Reader
import ClientForge.Toml.Reader
import ClientForge.Workspace
import ClientForge.Yaml.Reader

namespace ClientForge

/-- Whether reading a file of settings tells the failure as one of the configuration: those of the disk, of texts and
of documents that are none, and of values that are not as they should be. -/
def Failure.isTold : Failure → Bool
  | .disk _ | .encoding _ | .json _ | .yaml | .toml | .refused _ | .invalid .. | .environment => true
  | _ => false

namespace Settings

open Disk (Path)

/-- The libraries that settings are read with. -/
structure Readers where
  json : String → Except Failure Value
  yaml : String → Except Failure Yaml.Document
  toml : String → Except Failure (Entries Value)
  validate : Yaml.Document → Except Failure Settings
  defaults : Except Failure Settings

def validate (environment : Environment) (document : Yaml.Document) : Except Failure Settings :=
  match document.value with
  | .object entries =>
    if (lastSteps document.oddKeys).isEmpty then
      match environment.settings with
      | .error _ => .error (.invalid ⟨[], .refused "error parsing value"⟩ [])
      | .ok given =>
        match check given entries document.oddKeys with
        | .valid settings => .ok settings
        | .invalid first others => .error (.invalid first others)
    else .error .unsuitable
  | _ => .error (.invalid ⟨[], .notModel "GeneratorConfig"⟩ [])

def ofEnvironment (environment : Environment) : Except Failure Settings := do
  match check (← environment.settings) [] [] with
  | .valid settings => return settings
  | .invalid first others => throw (.invalid first others)

def Readers.ofEnvironment (environment : Environment) : Readers where
  json text := (Json.read text).mapError .json
  yaml := Yaml.read
  toml text := (Toml.read text).elim (.error .toml) .ok
  validate := Settings.validate environment
  defaults := Settings.ofEnvironment environment

def Readers.parse (readers : Readers) (path : Path) (text : String) : Except Failure Yaml.Document :=
  if path.extension = ".json" then (readers.json text).map (⟨·, []⟩)
  else (readers.yaml text).map fun document => if document.value.isTruthy then document else ⟨.object [], []⟩

def readDocument (readers : Readers) (disk : Disk) (path : Path) : Except Failure Yaml.Document := do
  readers.parse path (← disk.readText path)

def tellReading (path : Path) (cause : Failure) : Failure :=
  if cause.isTold then
    .configuration ("Cannot read configuration: " ++ cause.message) (some path.text) none
  else cause

def tellIssue (path : Path) : Failure → Failure
  | .invalid first _ =>
    .configuration "Invalid configuration" (some path.text)
      (some (".".intercalate (first.place.map Place.text)))
  | failure => failure

def ofDocument (readers : Readers) (path : Path) (document : Yaml.Document) : Except Failure Settings :=
  (readers.validate document).mapError (tellIssue path)

def load (readers : Readers) (disk : Disk) (path : Path) : Except Failure Settings := do
  ofDocument readers path (← (readDocument readers disk path).mapError (tellReading path))

def sharedPath : Path :=
  ["pyproject.toml"]

def ofShared (readers : Readers) (document : Entries Value) : Except Failure (Option Settings) :=
  let name := "endpointgen"
  match Entries.get? document "tool" with
  | none => .ok none
  | some (.object tools) =>
    match Entries.get? tools name with
    | none => .ok none
    | some value => (ofDocument readers sharedPath ⟨value, []⟩).map some
  | some (.list tools) =>
    let isName : Value → Bool
      | .text s => s == name
      | _ => false
    if tools.any isName then .error .unsuitable else .ok none
  | some (.text s) => if Text.hasInfix name.toList s.toList then .error .unsuitable else .ok none
  | some _ => .error .unsuitable

def find (readers : Readers) (disk : Disk) : Except Failure Settings := do
  match [["endpointgen.yaml"], ["endpointgen.yml"]].find? disk.present with
  | some path => load readers disk path
  | none =>
    if disk.present sharedPath then
      let document ← readers.toml (← disk.readText sharedPath)
      match ← ofShared readers document with
      | some settings => return settings
      | none => readers.defaults
    else readers.defaults

def get (readers : Readers) (disk : Disk) : Option String → Except Failure Settings
  | none | some "" => find readers disk
  | some text =>
    let path := Path.ofString text
    if disk.present path then load readers disk path
    else .error (.configuration "Configuration file not found" (some text) none)

end Settings

end ClientForge
