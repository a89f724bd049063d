import ClientForge.Definition
import ClientForge.Json.Reader
import ClientForge.Text.Basic
import ClientForge.Workspace

namespace ClientForge

namespace Definition

def ofDocument (document : Value) (source : String) : Except Failure Definition :=
  let fail (cause : Failure) : Except Failure Definition := .error (.unloadable source (some cause))
  match document with
  | .object [(name, .object entries)] =>
    match ofEntries name entries with
    | .valid definition => .ok definition
    | .invalid first others => fail (.invalid first others)
  | .object [(name, _)] => fail (.remark ("definition of '" ++ name ++ "' is not an object"))
  | _ => fail (.remark "expected a single top-level key naming the endpoint")

end Definition

namespace DefinitionFile

open Disk (Path)

def extension : String := ".json"

def isDefinitionName (name : String) : Bool :=
  name.endsWith extension && !name.startsWith "_"

def list (disk : Disk) (directory : Path) : Except Failure (List Path) :=
  if disk.isDirectory directory then
    .ok <| (Text.sorted ((disk.names directory).filter fun name =>
      isDefinitionName name && disk.isFile (directory ++ [name]))).map (directory ++ [·])
  else .error (.unloadable directory.text (some (.remark "not a directory")))

def readDocument (disk : Disk) (path : Path) : Except Failure Value := do
  let text ← disk.readText path
  (Json.read text).mapError .json

def load (disk : Disk) (path : Path) : Except Failure Definition := do
  let document ← (readDocument disk path).mapError fun cause => .unloadable path.text (some cause)
  Definition.ofDocument document path.text

def remark (definition : Definition) (source : String) : String :=
  "Loaded " ++ definition.name ++ " from " ++ source ++ " (" ++ toString definition.routes.length ++
    " paths)"

end DefinitionFile

end ClientForge
