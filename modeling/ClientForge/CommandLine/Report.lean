import ClientForge.CommandLine.Command
import ClientForge.Generation
import ClientForge.Outline
import ClientForge.Settings.Lookup

namespace ClientForge.CommandLine

structure Report where
  status : Nat
  lines : List String
  disk : Disk
  notes : List Note
  deriving Repr

abbrev Printing := ExceptT Failure (StateM (List String))

namespace Printing

def lines (lines : List String) : Printing Unit :=
  modify (· ++ lines)

def marked (text : String) : Printing Unit :=
  match Markup.render text with
  | .ok shown => lines (Text.lines shown)
  | .error reason => throw (.markup reason)

def padded (width : Nat) (text : String) : String :=
  "".pushn ' ' (width - text.length) ++ text

def status (name message : String) (style : String) : Printing Unit :=
  marked ("[bold " ++ style ++ "]" ++ padded 12 name ++ "[/bold " ++ style ++ "]  " ++
    Markup.escape message)

def generated (verbose : Bool) (generated : Generated) : Printing Unit := do
  status "json" generated.source "yellow"
  status "create" generated.endpointFile "green"
  if let some file := generated.testFile then status "create" file "green"
  if verbose then generated.sources.forM fun (_, source) => lines (Text.lines source)

def summary (verbose : Bool) (output : String) (progress : Progress) : Printing Unit := do
  if let some failure := progress.toolFailure then status "lint" failure.message "yellow"
  if verbose then
    match progress.tree.listing (some output) with
    | .ok listing => lines listing
    | .error reason => throw (.markup reason)
  marked ("[green]Successfully generated code[/green] for " ++ toString progress.tree.count ++
    " endpoints in " ++ output)

def failure (failure : Failure) : Printing Unit :=
  marked ("[red]Error:[/red] " ++ Markup.escape failure.message)

end Printing

def Options.apply (options : Options) (settings : Settings) : Settings :=
  let given (text : Option String) (other : String) : String := (text.filter (· ≠ "")).getD other
  let surface := settings.surface options.extended
  let surface := { surface with
    input := given options.input surface.input
    output := given options.output surface.output }
  if options.extended then { settings with extended := surface } else { settings with api := surface }

def Options.plan (options : Options) (settings : Settings) (tool : Tool) : Plan :=
  .onDisk (options.apply settings) options.extended (options.withTests || settings.withTests) tool

def conclude (print : Printing Unit) (disk : Disk) (notes : List Note) : Report :=
  match print.run [] with
  | (.ok (), lines) => ⟨0, lines, disk, notes⟩
  | (.error failure, lines) => ⟨1, ((Printing.failure failure).run lines).2, disk, notes⟩

def printRun (verbose : Bool) (output : String) (outcome : Except Failure Unit)
    (progress : Progress) : Printing Unit := do
  progress.generated.forM (Printing.generated verbose)
  match outcome with
  | .ok () => Printing.summary verbose output progress
  | .error failure => throw failure

def generate (readers : Settings.Readers) (tool : Tool) (disk : Disk) (options : Options) : Report :=
  match Settings.get readers disk options.config with
  | .error failure => conclude (throw failure) disk []
  | .ok settings =>
    let plan := options.plan settings tool
    let (outcome, progress) := plan.run disk
    conclude (printRun (options.verbose || settings.verbose) plan.surface.output outcome progress)
      progress.workspace.disk progress.workspace.notes

def versionText : String :=
  "endpointgen version: 0.1.0"

def helpLines : List String :=
  ["Usage: endpointgen COMMAND [OPTIONS]",
   "",
   "  generate  Generate client modules and tests from endpoint definitions",
   "    -v, --verbose      Output more information",
   "    -t, --tests        Generate test files",
   "    -x, --xpack        Generate the extended surface",
   "    -c, --config PATH  Path to the configuration file",
   "    -i, --input PATH   Directory of endpoint definition files",
   "    -o, --output PATH  Output directory for generated code",
   "  version   Show the version"]

def run (readers : Settings.Readers) (tool : Tool) (disk : Disk) (words : List String) : Report :=
  match Command.ofWords? words with
  | none => ⟨2, [], disk, []⟩
  | some .help => ⟨0, helpLines, disk, []⟩
  | some .version => ⟨0, [versionText], disk, []⟩
  | some (.generate options) => generate readers tool disk options

end ClientForge.CommandLine
