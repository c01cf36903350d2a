import AgentGraph.Main
import AgentGraph.CommandLine.Directory
import AgentGraph.Settings.Decode
import AgentGraph.Proofs.Binary64.Text
import AgentGraph.Proofs.Json.Numbers
import AgentGraph.Proofs.Json.Strings
import AgentGraph.Proofs.Dict.Entries
import AgentGraph.Proofs.Json.Regular
import AgentGraph.Proofs.Json.ReadBack
import AgentGraph.Proofs.Binary64.Integer
import AgentGraph.Proofs.Decode.Record
import AgentGraph.Proofs.Node.Sound
import AgentGraph.Proofs.Decode.Encoded
import AgentGraph.Proofs.Node.RoundTrip
import AgentGraph.Proofs.Edge.RoundTrip
import AgentGraph.Proofs.Program.Change
import AgentGraph.Proofs.Program.Shown
import AgentGraph.Proofs.Project.RoundTrip
import AgentGraph.Proofs.Dict.Lookup
import AgentGraph.Proofs.Naming.Fallback
import AgentGraph.Proofs.Naming.Search
import AgentGraph.Proofs.Naming.Valid
import AgentGraph.Proofs.Naming.Distinct
import AgentGraph.Proofs.Relations.Meaning
import AgentGraph.Proofs.Naming.Resolved
import AgentGraph.Proofs.Program.Names
import AgentGraph.Proofs.Program.Parts
import AgentGraph.Proofs.Program.Shadowing
import AgentGraph.Proofs.Program.Helpers
import AgentGraph.Proofs.Literal.Mask
import AgentGraph.Proofs.Literal.Whole
import AgentGraph.Proofs.Literal.Numerals
import AgentGraph.Proofs.Literal.ReadBack
import AgentGraph.Proofs.Naming.Words
import AgentGraph.Proofs.Program.ClassLines
import AgentGraph.Proofs.Program.Heirs
import AgentGraph.Proofs.Program.InheritanceOrder
import AgentGraph.Proofs.Program.Fragments
import AgentGraph.Proofs.Program.Covered
import AgentGraph.Proofs.Program.Imports
import AgentGraph.Proofs.Program.Masked
import AgentGraph.Proofs.Naming.Identifiers
import AgentGraph.Proofs.Program.SoundNames
import AgentGraph.Proofs.Program.HelperNames
import AgentGraph.Proofs.Program.MainFunction
import AgentGraph.Proofs.Program.Redefinition
import AgentGraph.Proofs.Program.ClassStatements
import AgentGraph.Proofs.Graph.Consistent
import AgentGraph.Proofs.Graph.Kinds
import AgentGraph.Proofs.Graph.Honoured
import AgentGraph.Proofs.Relations.Told
import AgentGraph.Proofs.Program.Renamed
import AgentGraph.Proofs.Program.Reworded
import AgentGraph.Proofs.Dict.Renamed
import AgentGraph.Proofs.Program.RenamedGraph
import AgentGraph.Proofs.Program.Regrouped
import AgentGraph.Proofs.Program.Redrawn
import AgentGraph.Proofs.Naming.Verdict
import AgentGraph.Proofs.Archive.Packed
import AgentGraph.Proofs.Program.ReasoningFiles
import AgentGraph.Proofs.Program.Subscriptions
import AgentGraph.Proofs.Text.Padded
import AgentGraph.Proofs.Program.Padded
import AgentGraph.Proofs.Graph.Repetition
import AgentGraph.Proofs.Graph.Views
import AgentGraph.Proofs.Graph.Bindings
import AgentGraph.Proofs.Graph.Connecting
import AgentGraph.Proofs.Graph.Independent
import AgentGraph.Proofs.Program.Datetime
import AgentGraph.Proofs.Program.StartTimes
import AgentGraph.Proofs.Program.Linearisation
import AgentGraph.Proofs.Program.Hierarchy
import AgentGraph.Proofs.Program.ClassCreation
import AgentGraph.Proofs.Program.ReasoningClass
import AgentGraph.Proofs.Program.Instants
import AgentGraph.Proofs.Literal.Typed
import AgentGraph.Proofs.Node.Lenient
import AgentGraph.Proofs.Program.TypedCode
import AgentGraph.Proofs.Program.SetupBody
import AgentGraph.Proofs.Node.Beliefs
import AgentGraph.Proofs.Program.Migrated
import AgentGraph.Proofs.Decode.Part
import AgentGraph.Proofs.Node.Special
import AgentGraph.Proofs.Binary64.Shortest
import AgentGraph.Proofs.Literal.Written
import AgentGraph.Proofs.Program.Arguments
import AgentGraph.Proofs.Program.Referents
