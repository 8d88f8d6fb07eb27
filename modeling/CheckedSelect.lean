import CheckedSelect.Operator.Codec
import CheckedSelect.RenderOptions.Codec
import CheckedSelect.Schema.Codec
import CheckedSelect.Value.Codec
import CheckedSelect.Checked.Builder
import CheckedSelect.Typed.Resolve
import CheckedSelect.Proofs.Checked.Accumulation
import CheckedSelect.Proofs.Checked.Rejections
import CheckedSelect.Proofs.Query.Unambiguous
import CheckedSelect.Proofs.Typed.Simulation
import CheckedSelect.Proofs.Typed.SameCalls
import CheckedSelect.Proofs.Schema.RoundTrip
import CheckedSelect.Proofs.Checked.Distinctness
import CheckedSelect.Proofs.Json.Layout
import CheckedSelect.Proofs.Schema.Listing
import CheckedSelect.Proofs.Json.Truncated
import CheckedSelect.Proofs.Value.Token
import CheckedSelect.Proofs.Schema.Truncated
import CheckedSelect.Proofs.Text.Digits
import CheckedSelect.Proofs.Uuid
import CheckedSelect.Proofs.Decimal
import CheckedSelect.Proofs.Json.Number
import CheckedSelect.Proofs.Timestamp
import CheckedSelect.Proofs.Json.RoundTrip
import CheckedSelect.Proofs.Value.RoundTrip
import CheckedSelect.Proofs.Floating.Round
import CheckedSelect.Proofs.Floating.Shortest
import CheckedSelect.Proofs.Floating.Layout
import CheckedSelect.Proofs.Floating.Whole
import CheckedSelect.Proofs.Typed.Literals
import CheckedSelect.Proofs.Checked.Extension
import CheckedSelect.Proofs.Schema.LastWrites
import CheckedSelect.Proofs.Query.Backticks
import CheckedSelect.Proofs.Query.Growth
import CheckedSelect.Proofs.Checked.References
import CheckedSelect.Proofs.Json.Grammar
import CheckedSelect.Proofs.Json.Skip
import CheckedSelect.Proofs.Json.Records
import CheckedSelect.Proofs.UnknownMembers
import CheckedSelect.Proofs.Floating.Residues
import CheckedSelect.Proofs.Floating.Closeness
import CheckedSelect.Proofs.Floating.Grid
import CheckedSelect.Proofs.Json.Scaled
import CheckedSelect.Proofs.Json.LimitedPrecision
import CheckedSelect.Proofs.Json.NearMisses
import CheckedSelect.Proofs.Json.FloatText
import CheckedSelect.Proofs.Value.FloatRoundTrip
import CheckedSelect.Proofs.Text.Blank
import CheckedSelect.Proofs.Operator
