import DocQuery.Cache.Clock
import DocQuery.Cache.Collections
import DocQuery.Cache.Plans
import DocQuery.Client.Basic
import DocQuery.Client.Configuration
import DocQuery.Client.LogFilter
import DocQuery.Client.Session
import DocQuery.Client.Settings
import DocQuery.CommandLine.Arguments
import DocQuery.CommandLine.Run
import DocQuery.Condition.Compile
import DocQuery.Condition.Connectors
import DocQuery.Condition.Parameters
import DocQuery.Document
import DocQuery.Error
import DocQuery.Execute.Group
import DocQuery.Execute.Match
import DocQuery.Execute.Order
import DocQuery.Execute.Run
import DocQuery.Json.Basic
import DocQuery.Json.Parse
import DocQuery.Main
import DocQuery.Named
import DocQuery.Number.Binary64
import DocQuery.Number.Range
import DocQuery.Number.Shortest
import DocQuery.Number.Text
import DocQuery.ObjectId
import DocQuery.Pattern.Basic
import DocQuery.Pattern.Bracket
import DocQuery.Pattern.CharSet
import DocQuery.Pattern.Escape
import DocQuery.Pattern.Flags
import DocQuery.Pattern.Nested
import DocQuery.Pattern.Parse
import DocQuery.Pattern.Property
import DocQuery.Pattern.Size
import DocQuery.Proofs.Cache.PlanHistory
import DocQuery.Proofs.Cache.Refreshes
import DocQuery.Proofs.Client.CachedPlans
import DocQuery.Proofs.Client.Calls
import DocQuery.Proofs.Client.Counting
import DocQuery.Proofs.Client.Direct
import DocQuery.Proofs.Client.DistinctLists
import DocQuery.Proofs.Client.EmptyExists
import DocQuery.Proofs.Client.ExistsMembership
import DocQuery.Proofs.Client.FirstValue
import DocQuery.Proofs.Client.FoundRows
import DocQuery.Proofs.Client.InsertedLiteral
import DocQuery.Proofs.Client.InsertedRows
import DocQuery.Proofs.Client.InvisibleCaches
import DocQuery.Proofs.Client.QuietCalls
import DocQuery.Proofs.Client.Steps
import DocQuery.Proofs.Client.UnconditionalWrites
import DocQuery.Proofs.Condition.ArrayParameter
import DocQuery.Proofs.Condition.Blank
import DocQuery.Proofs.Condition.Cut
import DocQuery.Proofs.Condition.FieldNames
import DocQuery.Proofs.Condition.Grammar
import DocQuery.Proofs.Condition.ItemTexts
import DocQuery.Proofs.Condition.Markers
import DocQuery.Proofs.Condition.OnePass
import DocQuery.Proofs.Condition.Operands
import DocQuery.Proofs.Condition.ParameterItems
import DocQuery.Proofs.Condition.Passing
import DocQuery.Proofs.Condition.PathComparison
import DocQuery.Proofs.Condition.Pieces
import DocQuery.Proofs.Condition.Quoted
import DocQuery.Proofs.Condition.QuotedBounds
import DocQuery.Proofs.Condition.Shapes
import DocQuery.Proofs.Condition.StringParameter
import DocQuery.Proofs.Condition.Substitution
import DocQuery.Proofs.Condition.TopLevelCuts
import DocQuery.Proofs.Condition.TypedParameter
import DocQuery.Proofs.Condition.Wildcards
import DocQuery.Proofs.Condition.WrittenConditions
import DocQuery.Proofs.Condition.WrittenValues
import DocQuery.Proofs.Execute.Accumulators
import DocQuery.Proofs.Execute.Brackets
import DocQuery.Proofs.Execute.ColumnOrder
import DocQuery.Proofs.Execute.GroupCells
import DocQuery.Proofs.Execute.GroupConditions
import DocQuery.Proofs.Execute.Groups
import DocQuery.Proofs.Execute.Inclusion
import DocQuery.Proofs.Execute.LeadingKeys
import DocQuery.Proofs.Execute.Pages
import DocQuery.Proofs.Execute.Partition
import DocQuery.Proofs.Execute.Parts
import DocQuery.Proofs.Execute.Repetitions
import DocQuery.Proofs.Execute.StableOrder
import DocQuery.Proofs.Execute.Stages
import DocQuery.Proofs.Json.UniqueText
import DocQuery.Proofs.Number.NumberText
import DocQuery.Proofs.Query.ColumnProjection
import DocQuery.Proofs.Query.DistinctColumn
import DocQuery.Proofs.Query.ExistsFilter
import DocQuery.Proofs.Query.HavingCondition
import DocQuery.Proofs.Query.KeyReferences
import DocQuery.Proofs.Query.ShellCommand
import DocQuery.Proofs.Query.WrittenFilter
import DocQuery.Proofs.Statement.Acceptance
import DocQuery.Proofs.Statement.AliasedSelect
import DocQuery.Proofs.Statement.CheckedShapes
import DocQuery.Proofs.Statement.ClausePhrases
import DocQuery.Proofs.Statement.ClauseSource
import DocQuery.Proofs.Statement.CleanedCheck
import DocQuery.Proofs.Statement.ColumnSelect
import DocQuery.Proofs.Statement.ConditionText
import DocQuery.Proofs.Statement.EqualsText
import DocQuery.Proofs.Statement.ExistsCut
import DocQuery.Proofs.Statement.ExistsPosition
import DocQuery.Proofs.Statement.InnerStatement
import DocQuery.Proofs.Statement.InsertText
import DocQuery.Proofs.Statement.LiteralText
import DocQuery.Proofs.Statement.Phrases
import DocQuery.Proofs.Statement.QuotedWords
import DocQuery.Proofs.Statement.SelectClauses
import DocQuery.Proofs.Statement.SelectGrammar
import DocQuery.Proofs.Statement.SelectHead
import DocQuery.Proofs.Statement.SelectText
import DocQuery.Proofs.Statement.SingleItem
import DocQuery.Proofs.Statement.WhereClause
import DocQuery.Proofs.Statement.WriteGrammar
import DocQuery.Proofs.Statement.WrittenInsert
import DocQuery.Proofs.Statement.WrittenLiterals
import DocQuery.Proofs.Statement.WrittenSelect
import DocQuery.Proofs.Statement.WrittenUpdate
import DocQuery.Proofs.Store.Deletion
import DocQuery.Proofs.Store.FailedUpdate
import DocQuery.Proofs.Store.FoundDocument
import DocQuery.Proofs.Store.InsertedRows
import DocQuery.Proofs.Store.NestingLimit
import DocQuery.Proofs.Store.SuccessfulUpdate
import DocQuery.Proofs.Table.Cells
import DocQuery.Proofs.Text.Balance
import DocQuery.Proofs.Text.Cleaning
import DocQuery.Proofs.Text.CommaLists
import DocQuery.Proofs.Text.Keywords
import DocQuery.Proofs.Text.ListItems
import DocQuery.Proofs.Text.Names
import DocQuery.Proofs.Text.Search
import DocQuery.Proofs.Text.WholeWords
import DocQuery.Proofs.Text.Words
import DocQuery.Proofs.Time.InstantText
import DocQuery.Proofs.Time.ReadAgain
import DocQuery.Proofs.Time.SortableText
import DocQuery.Proofs.Time.Timestamps
import DocQuery.Proofs.Value.BlockedPaths
import DocQuery.Proofs.Value.JsonRoundTrip
import DocQuery.Proofs.Value.LooseEquality
import DocQuery.Proofs.Value.NamedEntries
import DocQuery.Proofs.Value.Nesting
import DocQuery.Proofs.Value.NotANumber
import DocQuery.Proofs.Value.Order
import DocQuery.Proofs.Value.OrderedFields
import DocQuery.Proofs.Value.PathWrites
import DocQuery.Proofs.Value.WrittenAlike
import DocQuery.Query.Filter
import DocQuery.Query.Find
import DocQuery.Query.OrderBy
import DocQuery.Query.Pipeline
import DocQuery.Query.Plan
import DocQuery.Statement.Literal
import DocQuery.Statement.Plan
import DocQuery.Statement.Safety
import DocQuery.Statement.Select
import DocQuery.Statement.Write
import DocQuery.Store.Basic
import DocQuery.Store.Memory
import DocQuery.Store.Recorder
import DocQuery.Table.Basic
import DocQuery.Table.Convert
import DocQuery.Text.Char
import DocQuery.Text.Quoting
import DocQuery.Text.Scan
import DocQuery.Time.Date
import DocQuery.Time.Instant
import DocQuery.Time.Text
import DocQuery.Toml.Node
import DocQuery.Toml.Parse
import DocQuery.Toml.Scalar
import DocQuery.Unicode.Age
import DocQuery.Unicode.Alphabetic
import DocQuery.Unicode.Case
import DocQuery.Unicode.CaseFold
import DocQuery.Unicode.Category
import DocQuery.Unicode.Emoji
import DocQuery.Unicode.Feature
import DocQuery.Unicode.Identifier
import DocQuery.Unicode.Letter
import DocQuery.Unicode.Mark
import DocQuery.Unicode.Property
import DocQuery.Unicode.Ranges
import DocQuery.Unicode.Script
import DocQuery.Unicode.Segment
import DocQuery.Unicode.Signs
import DocQuery.Value.Basic
import DocQuery.Value.Json
