import DocQuery.Access.Basic
import DocQuery.Command.Arguments
import DocQuery.Command.Basic
import DocQuery.Compile.Aggregation
import DocQuery.Compile.Basic
import DocQuery.Compile.Compiler
import DocQuery.Compile.Context
import DocQuery.Compile.Error
import DocQuery.Compile.Fragment
import DocQuery.Compile.Literal
import DocQuery.Compile.Plan
import DocQuery.Config.Basic
import DocQuery.Decimal.Arithmetic
import DocQuery.Decimal.Basic
import DocQuery.Decimal.Binary
import DocQuery.Decimal.Reader
import DocQuery.Execution.Accumulator
import DocQuery.Execution.Arithmetic
import DocQuery.Execution.Error
import DocQuery.Execution.Expression
import DocQuery.Execution.Operator
import DocQuery.Execution.Pipeline
import DocQuery.Execution.Query
import DocQuery.FilterText.Lexer
import DocQuery.FilterText.Parser
import DocQuery.FilterText.Token
import DocQuery.Join.Basic
import DocQuery.Json.Basic
import DocQuery.Json.Reader
import DocQuery.Json.Token
import DocQuery.Lookup.Basic
import DocQuery.Lookup.Predicate
import DocQuery.Main
import DocQuery.Number.Binary64
import DocQuery.Number.FloatText
import DocQuery.Number.Floor
import DocQuery.Number.Reading
import DocQuery.Number.Remainder
import DocQuery.Number.Rounding
import DocQuery.Number.Shortest
import DocQuery.Pattern.Basic
import DocQuery.Pattern.Bracket
import DocQuery.Pattern.CharSpec
import DocQuery.Pattern.Escape
import DocQuery.Pattern.Lexer
import DocQuery.Pattern.Property
import DocQuery.Pattern.Reader
import DocQuery.Pattern.Size
import DocQuery.Pattern.Token
import DocQuery.Proofs.Accesses
import DocQuery.Proofs.AddedFilters
import DocQuery.Proofs.AddedPaths
import DocQuery.Proofs.ArrayPositions
import DocQuery.Proofs.Broadcasts
import DocQuery.Proofs.CheckedSchemas
import DocQuery.Proofs.Closed
import DocQuery.Proofs.ClosedParts
import DocQuery.Proofs.ClosedPaths
import DocQuery.Proofs.ClosedPlans
import DocQuery.Proofs.ClosedQueries
import DocQuery.Proofs.Collecting
import DocQuery.Proofs.ColumnAliases
import DocQuery.Proofs.ColumnReads
import DocQuery.Proofs.ColumnStages
import DocQuery.Proofs.CompiledMentions
import DocQuery.Proofs.ConsistentEvaluation
import DocQuery.Proofs.ConvertedValues
import DocQuery.Proofs.DecimalTexts
import DocQuery.Proofs.Derivations
import DocQuery.Proofs.DistinctRows
import DocQuery.Proofs.EditDistance
import DocQuery.Proofs.Evaluation
import DocQuery.Proofs.Existence
import DocQuery.Proofs.Failures
import DocQuery.Proofs.FieldPaths
import DocQuery.Proofs.FilledPipelines
import DocQuery.Proofs.Filling
import DocQuery.Proofs.FilterGrammar
import DocQuery.Proofs.FirstResults
import DocQuery.Proofs.FloatValues
import DocQuery.Proofs.FoldedPatterns
import DocQuery.Proofs.ForeignKeys
import DocQuery.Proofs.Hygiene
import DocQuery.Proofs.ImpliedLookups
import DocQuery.Proofs.InDocument
import DocQuery.Proofs.IndependentJoins
import DocQuery.Proofs.IntegerArithmetic
import DocQuery.Proofs.InternalFields
import DocQuery.Proofs.JoinChoices
import DocQuery.Proofs.JoinKeys
import DocQuery.Proofs.JoinKinds
import DocQuery.Proofs.JoinRegistry
import DocQuery.Proofs.JoinRows
import DocQuery.Proofs.KeyFilters
import DocQuery.Proofs.ListReferences
import DocQuery.Proofs.LiteralLookups
import DocQuery.Proofs.Literals
import DocQuery.Proofs.LoadedDocuments
import DocQuery.Proofs.Meaning
import DocQuery.Proofs.Membership
import DocQuery.Proofs.MentionedFields
import DocQuery.Proofs.MirroredExpressions
import DocQuery.Proofs.MirroredPaths
import DocQuery.Proofs.MirroredQueries
import DocQuery.Proofs.MirroredRows
import DocQuery.Proofs.MissingKeys
import DocQuery.Proofs.NamedFilters
import DocQuery.Proofs.NormalizedExpressions
import DocQuery.Proofs.NormalizedPipelines
import DocQuery.Proofs.NormalizedQueries
import DocQuery.Proofs.NullFilters
import DocQuery.Proofs.NullKeys
import DocQuery.Proofs.OperandOrder
import DocQuery.Proofs.OrderedRows
import DocQuery.Proofs.OrderedUnions
import DocQuery.Proofs.OuterReferences
import DocQuery.Proofs.OutputPaths
import DocQuery.Proofs.PathRoots
import DocQuery.Proofs.PathUpdates
import DocQuery.Proofs.PlannedMentions
import DocQuery.Proofs.Predicates
import DocQuery.Proofs.PrintLayouts
import DocQuery.Proofs.PrintedPipelines
import DocQuery.Proofs.PrintedTokens
import DocQuery.Proofs.ReadTrees
import DocQuery.Proofs.RelationalJoins
import DocQuery.Proofs.Relocation
import DocQuery.Proofs.RepeatedPaths
import DocQuery.Proofs.ReversedComparisons
import DocQuery.Proofs.RightShifts
import DocQuery.Proofs.RowIdentities
import DocQuery.Proofs.ShownColumns
import DocQuery.Proofs.StageDocuments
import DocQuery.Proofs.StoredKeys
import DocQuery.Proofs.Subqueries
import DocQuery.Proofs.TextLookups
import DocQuery.Proofs.TokenTiles
import DocQuery.Proofs.UnchangedResults
import DocQuery.Proofs.UnfilteredQueries
import DocQuery.Proofs.UsedPaths
import DocQuery.Proofs.Uses
import DocQuery.Proofs.ValuePreorder
import DocQuery.Proofs.ValueShapes
import DocQuery.Proofs.VerbatimPatterns
import DocQuery.Proofs.WrittenFields
import DocQuery.Proofs.WrittenIntegers
import DocQuery.Query.Basic
import DocQuery.Resolve.Basic
import DocQuery.Resolve.Step
import DocQuery.Schema.Basic
import DocQuery.Schema.Check
import DocQuery.Schema.Reader
import DocQuery.Schema.ValueType
import DocQuery.Stage.Basic
import DocQuery.Stage.Codec
import DocQuery.Stage.Normal
import DocQuery.Store.Basic
import DocQuery.Text.Blank
import DocQuery.Text.Case
import DocQuery.Text.Category
import DocQuery.Text.CharSet
import DocQuery.Text.Letter
import DocQuery.Text.Property
import DocQuery.Text.Quoted
import DocQuery.Text.Script
import DocQuery.Text.Segment
import DocQuery.Text.Similarity
import DocQuery.Text.Split
import DocQuery.Text.Visible
import DocQuery.Text.Word
import DocQuery.Value.Basic
import DocQuery.Value.Extended
import DocQuery.Value.Order
import DocQuery.Value.Path
import DocQuery.Value.Printer
