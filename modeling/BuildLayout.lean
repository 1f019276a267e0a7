import BuildLayout.Text.Uppercase
import BuildLayout.Text.Printable
import BuildLayout.Text.Quoted
import BuildLayout.Text.Json
import BuildLayout.Decimal.Double
import BuildLayout.Decimal.Numeral
import BuildLayout.Decimal.Shortest
import BuildLayout.Location
import BuildLayout.Property.Stage
import BuildLayout.Property.Raw
import BuildLayout.Property.Basic
import BuildLayout.Property.Setting
import BuildLayout.Property.Layer
import BuildLayout.Property.Snapshot
import BuildLayout.Property.Collected
import BuildLayout.Property.Listing
import BuildLayout.Variant.Identity
import BuildLayout.Variant.Naming
import BuildLayout.Variant.Directory
import BuildLayout.Variant.Output
import BuildLayout.Variant.Tree
import BuildLayout.Variant.Resolver
import BuildLayout.Variant.Query
import BuildLayout.Variant.Cells
import BuildLayout.Document.Moment
import BuildLayout.Document.Value
import BuildLayout.Document.Tree
import BuildLayout.Document.Lexeme
import BuildLayout.Document.Atom
import BuildLayout.Document.Basic
import BuildLayout.Project.Basic
import BuildLayout.Project.Error
import BuildLayout.Project.Reading
import BuildLayout.Session.Report
import BuildLayout.Session.Basic
import BuildLayout.Files.Basic
import BuildLayout.Files.Tree
import BuildLayout.Command.Basic
import BuildLayout.Command.Line
import BuildLayout.Main
import BuildLayout.Proofs.Search
import BuildLayout.Proofs.Words
import BuildLayout.Proofs.Paths
import BuildLayout.Proofs.Containment
import BuildLayout.Proofs.Identities
import BuildLayout.Proofs.Properties
import BuildLayout.Proofs.Effective
import BuildLayout.Proofs.Snapshots
import BuildLayout.Proofs.Collected
import BuildLayout.Proofs.LastValues
import BuildLayout.Proofs.Acceptance
import BuildLayout.Proofs.Names
import BuildLayout.Proofs.ReadBack
import BuildLayout.Proofs.Renderings
import BuildLayout.Proofs.Places
import BuildLayout.Proofs.Reports
import BuildLayout.Proofs.FileNames
import BuildLayout.Proofs.Lookup
import BuildLayout.Proofs.Precedence
import BuildLayout.Proofs.Refusals
import BuildLayout.Proofs.Answers
import BuildLayout.Proofs.Cells
import BuildLayout.Proofs.Runs
import BuildLayout.Proofs.Dependence
import BuildLayout.Proofs.Numerals
import BuildLayout.Proofs.Doubles
import BuildLayout.Proofs.Replay
import BuildLayout.Proofs.Numbers
import BuildLayout.Proofs.Overrides
import BuildLayout.Proofs.Selections
import BuildLayout.Proofs.Shadows
import BuildLayout.Proofs.Commands
import BuildLayout.Proofs.Arguments
import BuildLayout.Proofs.Descriptions
import BuildLayout.Proofs.UnknownKeys
