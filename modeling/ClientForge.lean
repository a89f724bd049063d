import ClientForge.Json.Printer
import ClientForge.RecordingClient
import ClientForge.Main
import ClientForge.Proofs.Template.Lossless
import ClientForge.Proofs.Location
import ClientForge.Proofs.Location.Extended
import ClientForge.Proofs.Naming
import ClientForge.Proofs.Documentation
import ClientForge.Proofs.Document
import ClientForge.Proofs.DefinitionFile
import ClientForge.Proofs.Loading
import ClientForge.Proofs.Choice.Formation
import ClientForge.Proofs.Choice.Rendering
import ClientForge.Proofs.Choice.Corrections
import ClientForge.Proofs.Code.Scope
import ClientForge.Proofs.Code.Validity
import ClientForge.Proofs.Endpoint.Call
import ClientForge.Proofs.Endpoint.Coverage
import ClientForge.Proofs.Endpoint.Samples
import ClientForge.Proofs.Endpoint.Hygiene
import ClientForge.Proofs.Endpoint.Testable
import ClientForge.Proofs.Endpoint.Arrival
import ClientForge.Proofs.Endpoint.Absence
import ClientForge.Proofs.ModuleTree
import ClientForge.Proofs.ModuleTree.History
import ClientForge.Proofs.ModuleTree.Flatten
import ClientForge.Proofs.Disk.Ensure
import ClientForge.Proofs.Output.Slots
import ClientForge.Proofs.Output.Success
import ClientForge.Proofs.Output.Contents
import ClientForge.Proofs.Output.WriteAll
import ClientForge.Proofs.Output.Delivery
import ClientForge.Proofs.Output.Copy
import ClientForge.Proofs.Output.DryRun
import ClientForge.Proofs.Output.Reopening
import ClientForge.Proofs.Output.Settled
import ClientForge.Proofs.Output.Replay
import ClientForge.Proofs.Output.Reporting
import ClientForge.Proofs.Settings.Lookup
import ClientForge.Proofs.Generation.Steps
import ClientForge.Proofs.Generation.Stop
import ClientForge.Proofs.Generation.Kept
import ClientForge.Proofs.Generation.Recorded
import ClientForge.Proofs.Generation.Tests
import ClientForge.Proofs.Generation.Repeat
import ClientForge.Proofs.Generation.Reporting
