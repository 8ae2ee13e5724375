import Mustache.FileTree
import Mustache.Main
import Mustache.Proofs.Text.Occurrence
import Mustache.Proofs.Token.Moves
import Mustache.Proofs.Token.Streams
import Mustache.Proofs.Node.Agreement
import Mustache.Proofs.Node.Grammar
import Mustache.Proofs.Node.Spans
import Mustache.Proofs.Token.Shape
import Mustache.Proofs.Node.Nesting
import Mustache.Proofs.Node.Parsing
import Mustache.Proofs.Node.Printing
import Mustache.Proofs.Node.RoundTrip
import Mustache.Proofs.Text.Slice
import Mustache.Proofs.Token.Offsets
import Mustache.Proofs.Token.Cursor
import Mustache.Proofs.Token.Tiling
import Mustache.Proofs.Token.Relocation
import Mustache.Proofs.Token.Redefinition
import Mustache.Proofs.Rendering.Composition
import Mustache.Proofs.Rendering.Strictness
import Mustache.Proofs.Rendering.Tasks
import Mustache.Proofs.Rendering.Machine
import Mustache.Proofs.Rendering.Depth
import Mustache.Proofs.Rendering.Scoping
import Mustache.Proofs.Registry.Events
import Mustache.Proofs.Registry.Invariant
import Mustache.Proofs.Registry.Transparency
import Mustache.Proofs.Token.Layout
import Mustache.Proofs.Token.Progress
import Mustache.Proofs.Rendering.Hidden
import Mustache.Proofs.Html
import Mustache.Proofs.Rendering.Output
import Mustache.Proofs.Token.Brackets
import Mustache.Proofs.Node.Faults
import Mustache.Proofs.Rendering.SideBySide
import Mustache.Proofs.Rendering.Inlining
import Mustache.Proofs.Rendering.Placement
import Mustache.Proofs.Rendering.Failure
import Mustache.Proofs.Registry.Frame
import Mustache.Proofs.Rendering.Limit
import Mustache.Proofs.Rendering.Balance
import Mustache.Proofs.Json
import Mustache.Proofs.Registry.Plain
import Mustache.Proofs.CommandLine
import Mustache.Proofs.Scopes.Path
import Mustache.Proofs.Entries
import Mustache.Proofs.FirstFault
import Mustache.Proofs.Data.Maps
import Mustache.Proofs.Related
import Mustache.Proofs.Value.Alike
import Mustache.Proofs.Rendering.Alike
import Mustache.Proofs.Data.Order
import Mustache.Proofs.Registry.Loading
import Mustache.Proofs.Html.Entities
import Mustache.Proofs.Text.Utf8
import Mustache.Proofs.Rendering.Text
import Mustache.Proofs.Token.Faults
import Mustache.Proofs.Token.Queues
import Mustache.Proofs.Registry.Libraries
