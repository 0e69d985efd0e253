import ServiceProxy.Main
import ServiceProxy.Metrics
import ServiceProxy.Watch.Edit
import ServiceProxy.Proofs.Routing.Keys
import ServiceProxy.Proofs.Routing.Sorting
import ServiceProxy.Proofs.Text.Lines
import ServiceProxy.Proofs.Document.Acceptance
import ServiceProxy.Proofs.Document.Reading
import ServiceProxy.Proofs.Document.Faithful
import ServiceProxy.Proofs.Outcome
import ServiceProxy.Proofs.Routing.Building
import ServiceProxy.Proofs.Datum.Reading
import ServiceProxy.Proofs.Description.Addresses
import ServiceProxy.Proofs.Net.Literals
import ServiceProxy.Proofs.Compiling
import ServiceProxy.Proofs.Document.AddressLines
import ServiceProxy.Proofs.Document.Colons
import ServiceProxy.Proofs.Routing.Collisions
import ServiceProxy.Proofs.Text.ByteOrder
import ServiceProxy.Proofs.Routing.Enumeration
import ServiceProxy.Proofs.Watch.Runs
import ServiceProxy.Proofs.Watch.Coalescing
import ServiceProxy.Proofs.Files.Frames
import ServiceProxy.Proofs.Watch.Contents
import ServiceProxy.Proofs.Watch.Saves
import ServiceProxy.Proofs.Files.Siblings
import ServiceProxy.Proofs.Document.Stems
import ServiceProxy.Proofs.Document.Names
import ServiceProxy.Proofs.Files.Atomicity
import ServiceProxy.Proofs.Strictness
import ServiceProxy.Proofs.Routing.Content
import ServiceProxy.Proofs.Metrics.Balance
import ServiceProxy.Proofs.Document.Ports
import ServiceProxy.Proofs.Routing.Stores
import ServiceProxy.Proofs.CommandLine.Checking
import ServiceProxy.Proofs.Watch.Signals
import ServiceProxy.Proofs.Document.Offenders
import ServiceProxy.Proofs.Json.Spelling
import ServiceProxy.Proofs.Json.Writing
import ServiceProxy.Proofs.Description.RoundTrip
import ServiceProxy.Proofs.Files.Dialogue
import ServiceProxy.Proofs.Watch.Stages
import ServiceProxy.Proofs.Watch.Output
import ServiceProxy.Proofs.Description.Problems
import ServiceProxy.Proofs.Description.Selection
import ServiceProxy.Proofs.Routing.Counting
import ServiceProxy.Proofs.Document.Counts
import ServiceProxy.Proofs.Watch.LastDelivery
import ServiceProxy.Proofs.Routing.Emission
import ServiceProxy.Proofs.Description.Blame
import ServiceProxy.Proofs.Files.Components
import ServiceProxy.Proofs.Json.Scalars
import ServiceProxy.Proofs.Json.Extent
import ServiceProxy.Proofs.Json.Pieces
import ServiceProxy.Proofs.Datum.Rearrangement
import ServiceProxy.Proofs.Datum.Wellformed
import ServiceProxy.Proofs.Description.Places
import ServiceProxy.Proofs.Description.Respelling
