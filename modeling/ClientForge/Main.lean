import ClientForge.CommandLine.Report

namespace ClientForge

def variableNames : List String :=
  let names := Settings.names ++ ["api", "xpack"].flatMap fun surface =>
    ["input", "output", "package"].map fun part => surface ++ "__" ++ part
  names.map fun name => ("endpointgen_" ++ name).toUpper

def readEnvironment : IO Environment :=
  variableNames.filterMapM fun name => do
    return (← IO.getEnv name).map (Prod.mk name)

def readNodes : (depth : Nat) → Disk.Path → IO (List (Disk.Path × Node))
  | 0, _ => return []
  | depth + 1, path => do
    let base ← IO.currentDir
    let entries ← (base / path.text).readDir
    let nodes ← entries.toList.mapM fun entry => do
      let inner := path ++ [entry.fileName]
      if ← entry.path.isDir then return (inner, Node.directory) :: (← readNodes depth inner)
      else return [(inner, Node.file (← IO.FS.readBinFile entry.path).toList)]
    return nodes.flatten

def writeChanges (before after : Disk) : IO Unit := do
  for (path, node) in after.nodes.reverse do
    unless before.at? path == some node do
      match node with
      | .directory => IO.FS.createDirAll path.text
      | .file bytes =>
        IO.FS.createDirAll path.parent.text
        IO.FS.writeBinFile path.text (ByteArray.mk bytes.toArray)
  for (path, node) in before.nodes do
    if node != .directory && (after.at? path).isNone then IO.FS.removeFile path.text

end ClientForge

open ClientForge in
def main (words : List String) : IO UInt32 := do
  let disk : Disk := ⟨← readNodes 64 []⟩
  let report := CommandLine.run (.ofEnvironment (← readEnvironment)) Tool.shell disk words
  writeChanges disk report.disk
  for line in report.lines do
    IO.println line
  if report.status == 2 then
    for line in CommandLine.helpLines do
      IO.eprintln line
  return report.status.toUInt32
