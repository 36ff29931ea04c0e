import Schemata.Callback
import Schemata.Callback.Stock
import Schemata.Decode
import Schemata.Entries
import Schemata.ErrorTree
import Schemata.Issue
import Schemata.Number.Binary64
import Schemata.Number.Decimal
import Schemata.Number.Range
import Schemata.Number.Rounding
import Schemata.Number.Shortest
import Schemata.Path
import Schemata.Pattern
import Schemata.Pattern.Class
import Schemata.Pattern.Flags
import Schemata.Pattern.Formats
import Schemata.Pattern.Regex
import Schemata.Proofs.Acceptance
import Schemata.Proofs.Aggregation
import Schemata.Proofs.Alone
import Schemata.Proofs.Attribution
import Schemata.Proofs.Bounds
import Schemata.Proofs.Call
import Schemata.Proofs.Containment
import Schemata.Proofs.Declaration
import Schemata.Proofs.Derivation
import Schemata.Proofs.Display
import Schemata.Proofs.Equality
import Schemata.Proofs.Equivariance
import Schemata.Proofs.ErrorIndex
import Schemata.Proofs.Extension
import Schemata.Proofs.Fields
import Schemata.Proofs.FixedPoint
import Schemata.Proofs.Flattening
import Schemata.Proofs.Identifiers
import Schemata.Proofs.Landing
import Schemata.Proofs.Location
import Schemata.Proofs.MailAddresses
import Schemata.Proofs.Matching
import Schemata.Proofs.OrderedChoice
import Schemata.Proofs.Output
import Schemata.Proofs.PartialShape
import Schemata.Proofs.Picking
import Schemata.Proofs.Policies
import Schemata.Proofs.PresentInput
import Schemata.Proofs.Pruning
import Schemata.Proofs.Railway
import Schemata.Proofs.Reach
import Schemata.Proofs.ReadBack
import Schemata.Proofs.Reading
import Schemata.Proofs.Registration
import Schemata.Proofs.Relocation
import Schemata.Proofs.Reordering
import Schemata.Proofs.Repetition
import Schemata.Proofs.Report
import Schemata.Proofs.Rounding
import Schemata.Proofs.Sameness
import Schemata.Proofs.Search
import Schemata.Proofs.Sequence
import Schemata.Proofs.Simulation
import Schemata.Proofs.Splitting
import Schemata.Proofs.Stripping
import Schemata.Proofs.Tightening
import Schemata.Proofs.Tree
import Schemata.Proofs.TypedIntegers
import Schemata.Proofs.Wording
import Schemata.Proofs.Wrappers
import Schemata.Registry
import Schemata.Registry.Service
import Schemata.Rules
import Schemata.Rules.Array
import Schemata.Rules.Number
import Schemata.Rules.String
import Schemata.Run
import Schemata.Schema
import Schemata.Schema.Build
import Schemata.Schema.Object
import Schemata.Schema.Parse
import Schemata.Unicode.Alphabetic
import Schemata.Unicode.CaseFold
import Schemata.Unicode.Composition
import Schemata.Unicode.Direction
import Schemata.Unicode.GeneralCategory
import Schemata.Unicode.HostMapping
import Schemata.Unicode.Joining
import Schemata.Unicode.Property
import Schemata.Unicode.Script
import Schemata.Unicode.Table
import Schemata.Unicode.WhiteSpace
import Schemata.Value
import Schemata.Value.Quoted
import Schemata.Value.Reader
import Schemata.Value.Text
import Schemata.WebAddress
import Schemata.WebAddress.Domain
import Schemata.WebAddress.Ip
import Schemata.WebAddress.Punycode
