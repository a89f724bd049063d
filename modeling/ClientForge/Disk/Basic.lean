import ClientForge.Disk.Fault

namespace ClientForge

inductive Node
  | directory
  | file (bytes : List UInt8)
  deriving DecidableEq, Repr

/-- What lies below the working directory, by its path from there without detours. The directory
itself, and those above it, are always there. -/
structure Disk where
  nodes : List (Disk.Path × Node)
  deriving Repr

namespace Disk

def empty : Disk := ⟨[]⟩

def isBase (path : Path) : Bool :=
  path.all fun part => part == ".." || part == Path.slash

def at? (disk : Disk) (path : Path) : Option Node :=
  if isBase path then some .directory else disk.nodes.lookup path

def put (disk : Disk) (path : Path) (node : Node) : Disk :=
  ⟨(path, node) :: disk.nodes.filter (·.1 ≠ path)⟩

def remove (disk : Disk) (path : Path) : Disk :=
  ⟨disk.nodes.filter (·.1 ≠ path)⟩

theorem at?_put_self (disk : Disk) {path : Path} (node : Node) (h : isBase path = false) :
    (disk.put path node).at? path = some node := by
  simp [at?, put, h]

def resolveFrom (disk : Disk) (here : Path) : Path → Except FaultKind Path
  | [] => .ok here
  | part :: rest =>
    match disk.at? here with
    | none => .error .notFound
    | some (.file _) => .error .notDirectory
    | some .directory =>
      if part = ".." then
        -- above the working directory there is always a way further up
        resolveFrom disk (if isBase here then here ++ [".."] else here.dropLast) rest
      else resolveFrom disk (here ++ [part]) rest

/-- Where `path` is without detours, when all before its last part are directories. -/
def resolve (disk : Disk) (path : Path) : Except FaultKind Path :=
  disk.resolveFrom [] path

def find? (disk : Disk) (path : Path) : Option Node :=
  match disk.resolve path with
  | .ok place => disk.at? place
  | .error _ => none

def isDirectory (disk : Disk) (path : Path) : Bool :=
  disk.find? path == some .directory

def isFile (disk : Disk) (path : Path) : Bool :=
  match disk.find? path with
  | some (.file _) => true
  | _ => false

def present (disk : Disk) (path : Path) : Bool :=
  (disk.find? path).isSome

def names (disk : Disk) (path : Path) : List String :=
  match disk.resolve path with
  | .ok place => disk.nodes.filterMap fun (other, _) =>
      if other.dropLast = place ∧ other ≠ [] then other.getLast? else none
  | .error _ => []

def readBytes (disk : Disk) (path : Path) : Except Fault (List UInt8) :=
  match disk.resolve path with
  | .error kind => .error ⟨kind, path, none⟩
  | .ok place =>
    match disk.at? place with
    | none => .error ⟨.notFound, path, none⟩
    | some .directory => .error ⟨.isDirectory, path, none⟩
    | some (.file bytes) => .ok bytes

abbrev Step := ExceptT Fault (StateM Disk)

def Step.ofExcept (change : Disk → Except Fault Disk) : Step Unit := do
  match change (← get) with
  | .ok disk => set disk
  | .error fault => throw fault

def placeOf (disk : Disk) (path : Path) : Except Fault Path :=
  (disk.resolve path).mapError (⟨·, path, none⟩)

def write (path : Path) (bytes : List UInt8) : Step Unit :=
  .ofExcept fun disk => do
    let place ← disk.placeOf path
    if disk.at? place = some .directory then throw ⟨.isDirectory, path, none⟩
    return disk.put place (.file bytes)

def touch (path : Path) : Step Unit :=
  .ofExcept fun disk => do
    let place ← disk.placeOf path
    return if (disk.at? place).isSome then disk else disk.put place (.file [])

def createDirectory (path : Path) : Step Unit :=
  .ofExcept fun disk => do
    let place ← disk.placeOf path
    if (disk.at? place).isSome then throw ⟨.exists, path, none⟩
    return disk.put place .directory

def ensureDirectory (path : Path) : Step Unit :=
  tryCatch (createDirectory path) fun fault => do
    unless (← get).isDirectory path do throw fault

def ensureDirectories : (depth : Nat) → Path → Step Unit
  | 0, path => ensureDirectory path
  | depth + 1, path =>
    tryCatch (createDirectory path) fun fault => do
      if fault.kind = .notFound then
        ensureDirectories depth path.parent
        ensureDirectory path
      else
        unless (← get).isDirectory path do throw fault

def ensureTree (path : Path) : Step Unit :=
  ensureDirectories path.length path

def move (source target : Path) : Step Unit :=
  .ofExcept fun disk => do
    let fail (kind : FaultKind) : Fault := ⟨kind, source, some target⟩
    let origin ← (disk.resolve source).mapError fail
    let place ← (disk.resolve target).mapError fail
    match disk.at? origin with
    | none => throw (fail .notFound)
    | some node =>
      if target.getLast? = some ".." then throw (fail .busy)
      if disk.at? place = some .directory then throw (fail .isDirectory)
      return (disk.remove origin).put place node

def unlink (path : Path) : Step Unit :=
  .ofExcept fun disk =>
    match disk.resolve path with
    | .error .notFound => .ok disk
    | .error kind => .error ⟨kind, path, none⟩
    | .ok place =>
      if disk.at? place = some .directory then .error ⟨.isDirectory, path, none⟩
      else .ok (disk.remove place)

end Disk

end ClientForge
