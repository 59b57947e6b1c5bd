import Stencil.Setup
import Stencil.Settings.Environment
import Stencil.Settings.LogFilter
import Stencil.Settings.Source
import Stencil.Value.Embedding
import Stencil.Proofs.Percent.OnePass
import Stencil.Proofs.Brace.Composition
import Stencil.Proofs.Engine.Chain
import Stencil.Proofs.Brace.Evaluation
import Stencil.Proofs.Brace.Numbering
import Stencil.Proofs.Brace.Indexing
import Stencil.Proofs.Value.Sequence
import Stencil.Proofs.Brace.Removals
import Stencil.Proofs.Formatter
import Stencil.Proofs.Engine.Registries
import Stencil.Proofs.Number.Exact
import Stencil.Proofs.Value.Unfolding
import Stencil.Proofs.Value.Equality
import Stencil.Proofs.Json.Parser
import Stencil.Proofs.Percent.Offsets
import Stencil.Proofs.Value.Json
import Stencil.Proofs.Value.JsonText
import Stencil.Proofs.Directive.Field
import Stencil.Proofs.Directive.Form
import Stencil.Proofs.Percent.Dispatch
import Stencil.Proofs.Number.Decimal
import Stencil.Proofs.Number.Nearest
import Stencil.Proofs.Number.Rounding
import Stencil.Proofs.Number.Fixed
import Stencil.Proofs.Number.Exponent
import Stencil.Proofs.Number.Layout
import Stencil.Proofs.Percent.Rounding
import Stencil.Proofs.Number.Magnitude
import Stencil.Proofs.Number.Shortest
import Stencil.Proofs.Json.Real
import Stencil.Proofs.Entries
import Stencil.Proofs.Json.Merge
import Stencil.Proofs.Settings.Source
import Stencil.Proofs.Percent.Directive
import Stencil.Proofs.Number.Carry
import Stencil.Proofs.Directive.Real
import Stencil.Proofs.Percent.Fitting
import Stencil.Proofs.Number.ReadBack
import Stencil.Proofs.Number.Reading
import Stencil.Proofs.Directive.Padding
import Stencil.Proofs.Percent.Padding
import Stencil.Proofs.Number.Display
import Stencil.Proofs.Number.Padding
import Stencil.Proofs.Percent.PaddedNumbers
import Stencil.Proofs.Number.Closest
import Stencil.Proofs.Number.Integer
import Stencil.Proofs.Value.Coercion
import Stencil.Proofs.Percent.Integers
import Stencil.Proofs.Text.Split
import Stencil.Proofs.Brace.Resolution
import Stencil.Proofs.Brace.Segment
import Stencil.Proofs.Brace.Matching
import Stencil.Proofs.Percent.Matching
import Stencil.Proofs.Engine.Matching
import Stencil.Proofs.Engine.Setup
import Stencil.Proofs.Json.Path
import Stencil.Proofs.Settings.Environment
import Stencil.Proofs.Text.Case
import Stencil.Proofs.Number.Literal
import Stencil.Proofs.Number.Overflow
import Stencil.Proofs.Value.Number
import Stencil.Proofs.Value.Embedding
import Stencil.Proofs.Text.Boundary
import Stencil.Proofs.Directive.Splice
import Stencil.Proofs.Directive.Capture
import Stencil.Proofs.Percent.Spelling
import Stencil.Proofs.Percent.Sizes
