import IconForge.Main
import IconForge.Store.Faults
import IconForge.Store.Memory
import IconForge.Proofs.Identifier
import IconForge.Proofs.Path
import IconForge.Proofs.Store.Memory
import IconForge.Proofs.Registry
import IconForge.Proofs.Naming
import IconForge.Proofs.Interaction
import IconForge.Proofs.Batch
import IconForge.Proofs.Generation.Performance
import IconForge.Proofs.Generation.Course
import IconForge.Proofs.Generation
import IconForge.Proofs.Generation.Events
import IconForge.Proofs.Generation.Time
import IconForge.Proofs.Generation.Persistence
import IconForge.Proofs.Generation.Isolation
import IconForge.Proofs.Generation.Rerun
import IconForge.Proofs.Markup.Content
import IconForge.Proofs.Markup.Partition
import IconForge.Proofs.Markup.Tree
import IconForge.Proofs.Markup.Scanning
import IconForge.Proofs.Markup.Escaping
import IconForge.Proofs.Markup.RoundTrip
import IconForge.Proofs.Generation.DryRun
import IconForge.Proofs.Component.Literal
import IconForge.Proofs.Component.Rendering
import IconForge.Proofs.Component.StringValue
import IconForge.Proofs.Component.AttributeValue
import IconForge.Proofs.Component.Exports
import IconForge.Proofs.Markup.Locality
import IconForge.Proofs.Markup.Surroundings
import IconForge.Proofs.Path.Parent
import IconForge.Proofs.Settings.Problems
import IconForge.Proofs.Settings.Safety
import IconForge.Proofs.Store.Disk.Changes
import IconForge.Proofs.Generation.OnDisk
import IconForge.Proofs.Store.Disk.Beside
import IconForge.Proofs.Store.Disk.Inside
import IconForge.Proofs.Settings.Precedence
import IconForge.Proofs.Progress.Lines
import IconForge.Proofs.CommandLine.Performance
import IconForge.Proofs.CommandLine.Generate
import IconForge.Proofs.Generation.Beside
import IconForge.Proofs.CommandLine.Init
import IconForge.Proofs.Naming.Refusals
import IconForge.Proofs.Registry.Sequence
import IconForge.Proofs.Registry.Collisions
import IconForge.Proofs.Markup.Cuts
import IconForge.Proofs.Registry.Renaming
import IconForge.Proofs.Markup.References
import IconForge.Proofs.Markup.CharacterData
import IconForge.Proofs.Markup.RootEnd
import IconForge.Proofs.Markup.WellFormed
import IconForge.Proofs.Titles
import IconForge.Proofs.Store.Memory.ReadOnly
import IconForge.Proofs.Progress.Decoding
import IconForge.Proofs.Naming.CamelCase
import IconForge.Proofs.Settings.Places
import IconForge.Proofs.Progress.Steps
import IconForge.Proofs.CommandLine.Directories
import IconForge.Proofs.Registry.Draws
import IconForge.Proofs.CommandLine.Arguments
import IconForge.Proofs.Text.ByteOrder
import IconForge.Proofs.Store.Disk.Rearranged
import IconForge.Proofs.Store.Disk.Listing
import IconForge.Proofs.Generation.Enumeration
