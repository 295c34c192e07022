import SqlFilter.Main
import SqlFilter.Query.Build
import SqlFilter.Query.Equality
import SqlFilter.Json.Writer
import SqlFilter.Proofs.Query.PostOrder
import SqlFilter.Proofs.Query.Depth
import SqlFilter.Proofs.Query.Scalars
import SqlFilter.Proofs.Walk.FirstFailure
import SqlFilter.Proofs.Walk.Sequence
import SqlFilter.Proofs.Walk.Trail
import SqlFilter.Proofs.Walk.History
import SqlFilter.Proofs.Walk.Extension
import SqlFilter.Proofs.Command.Pipeline
import SqlFilter.Proofs.Sql.RangeText
import SqlFilter.Proofs.Sql.RangeGrammar
import SqlFilter.Proofs.Sql.PlainOperand
import SqlFilter.Proofs.Sql.Connectives
import SqlFilter.Proofs.Sql.PassThrough
import SqlFilter.Proofs.Sql.Dialects
import SqlFilter.Proofs.Sql.Renderable
import SqlFilter.Proofs.Sql.LeafOrder
import SqlFilter.Proofs.Sql.Balance
import SqlFilter.Proofs.Sql.Reassociation
import SqlFilter.Proofs.Sql.NestedList
import SqlFilter.Proofs.Numeric.Nearest
import SqlFilter.Proofs.Numeric.Figures
import SqlFilter.Proofs.Numeric.Scaled
import SqlFilter.Proofs.Json.Significand
import SqlFilter.Proofs.Json.NumberText
import SqlFilter.Proofs.Json.Reading
import SqlFilter.Proofs.Json.WrittenNumber
import SqlFilter.Proofs.Json.Nesting
import SqlFilter.Proofs.Json.Flaw
import SqlFilter.Proofs.Json.Transport
import SqlFilter.Proofs.Json.NormalForm
import SqlFilter.Proofs.Json.Depth
import SqlFilter.Proofs.Json.Canonical
import SqlFilter.Proofs.Json.Sound
import SqlFilter.Proofs.Json.Invariant
import SqlFilter.Proofs.Json.Grammar
import SqlFilter.Proofs.Json.Presentation
import SqlFilter.Proofs.Json.Numerals
import SqlFilter.Proofs.Json.NumberPrefix
import SqlFilter.Proofs.Json.Spelling
import SqlFilter.Proofs.Json.Written
import SqlFilter.Proofs.Json.Pieces
import SqlFilter.Proofs.Json.Skimming
import SqlFilter.Proofs.Json.Parts
import SqlFilter.Proofs.Json.Acceptance
import SqlFilter.Proofs.Json.Integers
import SqlFilter.Proofs.Json.Fields
import SqlFilter.Proofs.Json.Ending
import SqlFilter.Proofs.Json.Refusal
import SqlFilter.Proofs.Json.Truncation
