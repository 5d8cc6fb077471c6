import ComputedFields.Decimal.Binary
import ComputedFields.Decimal.Notation
import ComputedFields.Decimal.Numeral
import ComputedFields.Decimal.Rounding
import ComputedFields.Decimal.Shortest
import ComputedFields.Dependency.Graph
import ComputedFields.Dependency.Order
import ComputedFields.Formula.Arity
import ComputedFields.Formula.Basic
import ComputedFields.Formula.Builtin
import ComputedFields.Formula.Error
import ComputedFields.Formula.Evaluation
import ComputedFields.Formula.Inlining
import ComputedFields.Formula.Lexeme
import ComputedFields.Formula.Parser
import ComputedFields.Formula.Resolution
import ComputedFields.Formula.Token
import ComputedFields.Formula.Value
import ComputedFields.Json.Basic
import ComputedFields.Json.Decoder
import ComputedFields.Json.Draft
import ComputedFields.Json.Numeral
import ComputedFields.Json.Place
import ComputedFields.Json.Quoted
import ComputedFields.Json.Text
import ComputedFields.Module.Generation
import ComputedFields.Module.Layout
import ComputedFields.Module.Names
import ComputedFields.Module.OwnFunctions
import ComputedFields.Module.Problem
import ComputedFields.Module.Sections
import ComputedFields.Proofs.Calls
import ComputedFields.Proofs.Fields
import ComputedFields.Proofs.GetterCode
import ComputedFields.Proofs.GetterTexts
import ComputedFields.Proofs.Grammar
import ComputedFields.Proofs.Inlining
import ComputedFields.Proofs.Lexing
import ComputedFields.Proofs.Order
import ComputedFields.Proofs.ParserSteps
import ComputedFields.Proofs.Reads
import ComputedFields.Proofs.Sequence
import ComputedFields.Proofs.TokenBounds
import ComputedFields.Proofs.Walk
import ComputedFields.Schema.Aggregation
import ComputedFields.Schema.Basic
import ComputedFields.Schema.Decoding
import ComputedFields.Schema.Encoding
import ComputedFields.Schema.FieldType
import ComputedFields.Session
import ComputedFields.Target.Basic
import ComputedFields.Target.Call
import ComputedFields.Target.Error
import ComputedFields.Target.Expression
import ComputedFields.Target.Fragment
import ComputedFields.Target.Identifier
import ComputedFields.Target.LinkBody
import ComputedFields.Target.LinkRead
import ComputedFields.Target.Options
import ComputedFields.Target.Quoting
import ComputedFields.Target.Support
import ComputedFields.Text.Bytes
import ComputedFields.Text.Casing
import ComputedFields.Text.CharSet
import ComputedFields.Text.Class
import ComputedFields.Text.Class.Alphabetic
import ComputedFields.Text.Class.CaseIgnorable
import ComputedFields.Text.Class.CaseMapping
import ComputedFields.Text.Class.ExtendingMark
import ComputedFields.Text.Class.LetterCase
import ComputedFields.Text.Class.Numeric
import ComputedFields.Text.Class.Unprintable
import ComputedFields.Text.Search
import ComputedFields.Text.Shown
import ComputedFields.Text.Spacing
import ComputedFields.Text.WordCase
import ComputedFields.Proofs.Phrases
import ComputedFields.Proofs.Recompute
import ComputedFields.Proofs.Computation
import ComputedFields.Proofs.Errors
import ComputedFields.Proofs.Cycles
import ComputedFields.Proofs.Comments
import ComputedFields.Proofs.Signatures
import ComputedFields.Proofs.Support
import ComputedFields.Proofs.Brackets
import ComputedFields.Proofs.Isolation
import ComputedFields.Proofs.OperatorStructure
import ComputedFields.Proofs.Diagnostics
import ComputedFields.Proofs.Failures
import ComputedFields.Proofs.Emission
import ComputedFields.Proofs.RoundTrip
import ComputedFields.Proofs.Declarations
import ComputedFields.Proofs.Places
import ComputedFields.Proofs.Depths
import ComputedFields.Proofs.Identifiers
import ComputedFields.Proofs.NameWords
import ComputedFields.Proofs.ViewNames
import ComputedFields.Proofs.SimpleCycles
import ComputedFields.Proofs.Saturation
import ComputedFields.Proofs.FullInlining
import ComputedFields.Proofs.InlinedColumns
import ComputedFields.Proofs.Edges
import ComputedFields.Proofs.Distances
import ComputedFields.Proofs.Resolution
import ComputedFields.Proofs.References
import ComputedFields.Proofs.Quotes
import ComputedFields.Proofs.ResidualBits
import ComputedFields.Proofs.Overflow
import ComputedFields.Proofs.NumberLiterals
import ComputedFields.Proofs.Templates
import ComputedFields.Proofs.Composition
import ComputedFields.Proofs.UnbrokenCode
import ComputedFields.Proofs.CodeLines
import ComputedFields.Proofs.TokenCuts
import ComputedFields.Proofs.TokenPositions
import ComputedFields.Proofs.ParserFaults
import ComputedFields.Proofs.Respacing
import ComputedFields.Proofs.ViablePrefixes
import ComputedFields.Proofs.TextCalls
import ComputedFields.Proofs.Occurrences
import ComputedFields.Proofs.FoldedSearch
import ComputedFields.Proofs.Replacements
import ComputedFields.Proofs.Holes
import ComputedFields.Proofs.Switches
import ComputedFields.Proofs.Aggregates
import ComputedFields.Proofs.LinkedTables
import ComputedFields.Proofs.ReferenceSpans
import ComputedFields.Proofs.Splices
import ComputedFields.Proofs.Numerals
import ComputedFields.Proofs.JoinSeparators
