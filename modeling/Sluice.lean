import Sluice.Main
import Sluice.MetadataCache
import Sluice.Proofs.Binary64.Integers
import Sluice.Proofs.Bytes
import Sluice.Proofs.Number
import Sluice.Proofs.Scan.Octets
import Sluice.Proofs.Scan.Offset
import Sluice.Proofs.Scan.Steps
import Sluice.Proofs.Classify.Semantics
import Sluice.Proofs.Classify.Spans
import Sluice.Proofs.Classify.Units
import Sluice.Proofs.Classify.Seam
import Sluice.Proofs.Registry.Lookup
import Sluice.Proofs.Guard.Authorize
import Sluice.Proofs.Execution.Events
import Sluice.Proofs.MetadataCache.Interleaving
import Sluice.Proofs.Translation.Inert
import Sluice.Proofs.Translation.Leaves
import Sluice.Proofs.Translation.Emission
import Sluice.Proofs.Translation.Tidy
import Sluice.Proofs.Translation.Writer
import Sluice.Proofs.Translation.Amounts
import Sluice.Proofs.Translation.Frames
import Sluice.Proofs.Translation.Faithful
import Sluice.Proofs.Translation.Backends
import Sluice.Proofs.Translation.Expressions
import Sluice.Proofs.Translation.Parameters
import Sluice.Proofs.Translation.OneStatement
import Sluice.Proofs.Translation.FramedDrivers
import Sluice.Proofs.Translation.Masking
import Sluice.Proofs.Translation.Uniform
import Sluice.Proofs.Translation.Admissible
import Sluice.Proofs.Translation.Rejection
import Sluice.Proofs.Postgres.Reading
import Sluice.Proofs.Postgres.Numeric
import Sluice.Proofs.Postgres.Slots
import Sluice.Proofs.Postgres.Payload
import Sluice.Proofs.ConnectionString.Codec
import Sluice.Proofs.ConnectionString.SafeOptions
import Sluice.Proofs.Translation.Slots
import Sluice.Proofs.Registry.Growth
import Sluice.Proofs.Registry.Inheritance
import Sluice.Proofs.Registry.SafeConnections
import Sluice.Proofs.Interval.Length
import Sluice.Proofs.Translation.Weeks
import Sluice.Proofs.Postgres.Signs
import Sluice.Proofs.Scan.Elements
import Sluice.Proofs.Classify.Fragments
import Sluice.Proofs.Translation.Pieces
import Sluice.Proofs.Translation.Readability
import Sluice.Proofs.MetadataCache.History
import Sluice.Proofs.Registry.Declarations
import Sluice.Proofs.Text.Capitals
import Sluice.Proofs.TypeName.Normalization
import Sluice.Proofs.Registry.TypeNames
import Sluice.Proofs.Calendar.Days
import Sluice.Proofs.Calendar.Text
import Sluice.Proofs.Json.Records
import Sluice.Proofs.Json.Text
import Sluice.Proofs.Plan.Document
import Sluice.Proofs.Result.Rows
import Sluice.Proofs.Catalog.Assembly
import Sluice.Proofs.Sqlite.AffectedRows
import Sluice.Proofs.Translation.Quarters
import Sluice.Proofs.Dialect.Quoting
import Sluice.Proofs.Scan.Turns
import Sluice.Proofs.Registry.Sessions
