import SchemaTypings.Command.Arguments
import SchemaTypings.Command.Clock
import SchemaTypings.Command.Failure
import SchemaTypings.Command.Run
import SchemaTypings.Command.Source
import SchemaTypings.Command.Steps
import SchemaTypings.Decode.Error
import SchemaTypings.Decode.Record
import SchemaTypings.Decode.Value
import SchemaTypings.Files.Access
import SchemaTypings.Files.Path
import SchemaTypings.Files.Tree
import SchemaTypings.Json.Basic
import SchemaTypings.Json.Located
import SchemaTypings.Json.Pointer
import SchemaTypings.Json.Quoted
import SchemaTypings.Json.Reader
import SchemaTypings.Json.Writer
import SchemaTypings.Lowering.Composition
import SchemaTypings.Lowering.Context
import SchemaTypings.Lowering.DerivedTypes
import SchemaTypings.Lowering.Enum
import SchemaTypings.Lowering.Error
import SchemaTypings.Lowering.Inline
import SchemaTypings.Lowering.Interface
import SchemaTypings.Lowering.Memo
import SchemaTypings.Lowering.Monad
import SchemaTypings.Lowering.Named
import SchemaTypings.Lowering.Reference
import SchemaTypings.Lowering.Report
import SchemaTypings.Lowering.Union
import SchemaTypings.Lowering.UnionDispatch
import SchemaTypings.Main
import SchemaTypings.Name.Fresh
import SchemaTypings.Name.Identifier
import SchemaTypings.Name.Pointer
import SchemaTypings.Name.Style
import SchemaTypings.Number.Binary64
import SchemaTypings.Number.Decimal
import SchemaTypings.Number.Spelling
import SchemaTypings.Number.Word
import SchemaTypings.Options.Basic
import SchemaTypings.Options.Decode
import SchemaTypings.Proofs.Command.ModuleNames
import SchemaTypings.Proofs.Decode.Keywords
import SchemaTypings.Proofs.Decode.Success
import SchemaTypings.Proofs.Document.Aliases
import SchemaTypings.Proofs.Document.Chains
import SchemaTypings.Proofs.Document.DistinctKeys
import SchemaTypings.Proofs.Document.Keys
import SchemaTypings.Proofs.Document.Literals
import SchemaTypings.Proofs.Document.Mentions
import SchemaTypings.Proofs.Document.Obstacle
import SchemaTypings.Proofs.Document.Places
import SchemaTypings.Proofs.Document.Reordered
import SchemaTypings.Proofs.Document.Reserved
import SchemaTypings.Proofs.Document.Targets
import SchemaTypings.Proofs.Document.Traces
import SchemaTypings.Proofs.FirstOccurrences
import SchemaTypings.Proofs.Json.Quoted
import SchemaTypings.Proofs.Json.Reading
import SchemaTypings.Proofs.Json.Texts
import SchemaTypings.Proofs.Json.Wellformed
import SchemaTypings.Proofs.Lookup
import SchemaTypings.Proofs.Lowering.Active
import SchemaTypings.Proofs.Lowering.Additions
import SchemaTypings.Proofs.Lowering.Agreement
import SchemaTypings.Proofs.Lowering.ArrayTypes
import SchemaTypings.Proofs.Lowering.Attribution
import SchemaTypings.Proofs.Lowering.Bound
import SchemaTypings.Proofs.Lowering.Calls
import SchemaTypings.Proofs.Lowering.Changes
import SchemaTypings.Proofs.Lowering.CheckedValues
import SchemaTypings.Proofs.Lowering.CircularReferences
import SchemaTypings.Proofs.Lowering.ClaimHistories
import SchemaTypings.Proofs.Lowering.Claims
import SchemaTypings.Proofs.Lowering.Clear
import SchemaTypings.Proofs.Lowering.Companions
import SchemaTypings.Proofs.Lowering.ComposedNesting
import SchemaTypings.Proofs.Lowering.CompositionSites
import SchemaTypings.Proofs.Lowering.Declared
import SchemaTypings.Proofs.Lowering.DeclaredParts
import SchemaTypings.Proofs.Lowering.Demands
import SchemaTypings.Proofs.Lowering.Dependencies
import SchemaTypings.Proofs.Lowering.DerivedNames
import SchemaTypings.Proofs.Lowering.DirectDependencies
import SchemaTypings.Proofs.Lowering.Dispatch
import SchemaTypings.Proofs.Lowering.EnsuredCompositions
import SchemaTypings.Proofs.Lowering.Ensures
import SchemaTypings.Proofs.Lowering.EnumMappings
import SchemaTypings.Proofs.Lowering.EnumStrategies
import SchemaTypings.Proofs.Lowering.Gathers
import SchemaTypings.Proofs.Lowering.Grows
import SchemaTypings.Proofs.Lowering.GuardNames
import SchemaTypings.Proofs.Lowering.Guards
import SchemaTypings.Proofs.Lowering.Identified
import SchemaTypings.Proofs.Lowering.InferredUnions
import SchemaTypings.Proofs.Lowering.InlineCongruence
import SchemaTypings.Proofs.Lowering.InlineRules
import SchemaTypings.Proofs.Lowering.InlineTexts
import SchemaTypings.Proofs.Lowering.MainDeclarations
import SchemaTypings.Proofs.Lowering.Meets
import SchemaTypings.Proofs.Lowering.MemoTables
import SchemaTypings.Proofs.Lowering.Merging
import SchemaTypings.Proofs.Lowering.Metadata
import SchemaTypings.Proofs.Lowering.Moments
import SchemaTypings.Proofs.Lowering.NamedTexts
import SchemaTypings.Proofs.Lowering.NestedTypes
import SchemaTypings.Proofs.Lowering.Nullability
import SchemaTypings.Proofs.Lowering.ObjectForms
import SchemaTypings.Proofs.Lowering.ObjectValidators
import SchemaTypings.Proofs.Lowering.OwnName
import SchemaTypings.Proofs.Lowering.Paired
import SchemaTypings.Proofs.Lowering.PartDeclarations
import SchemaTypings.Proofs.Lowering.PartNames
import SchemaTypings.Proofs.Lowering.RecoveredHeadings
import SchemaTypings.Proofs.Lowering.Reference
import SchemaTypings.Proofs.Lowering.Relates
import SchemaTypings.Proofs.Lowering.Resolution
import SchemaTypings.Proofs.Lowering.Rules
import SchemaTypings.Proofs.Lowering.Run
import SchemaTypings.Proofs.Lowering.Spelled
import SchemaTypings.Proofs.Lowering.Spells
import SchemaTypings.Proofs.Lowering.Success
import SchemaTypings.Proofs.Lowering.Truthful
import SchemaTypings.Proofs.Lowering.TypeCompanions
import SchemaTypings.Proofs.Lowering.Undisturbed
import SchemaTypings.Proofs.Lowering.UndisturbedReference
import SchemaTypings.Proofs.Lowering.UnionCompanions
import SchemaTypings.Proofs.Lowering.UnionDependencies
import SchemaTypings.Proofs.Lowering.UnionMembers
import SchemaTypings.Proofs.Lowering.Untangled
import SchemaTypings.Proofs.Lowering.Upholds
import SchemaTypings.Proofs.Lowering.WrittenTypes
import SchemaTypings.Proofs.Name.Fresh
import SchemaTypings.Proofs.Name.Identifiers
import SchemaTypings.Proofs.Name.Pascal
import SchemaTypings.Proofs.Name.Pointer
import SchemaTypings.Proofs.Name.Spellings
import SchemaTypings.Proofs.Number.Intervals
import SchemaTypings.Proofs.Number.Rounding
import SchemaTypings.Proofs.Number.Shortest
import SchemaTypings.Proofs.Number.Spellings
import SchemaTypings.Proofs.Report.Concealed
import SchemaTypings.Proofs.Report.Dependencies
import SchemaTypings.Proofs.Report.Drivers
import SchemaTypings.Proofs.Report.Identifiers
import SchemaTypings.Proofs.Report.Naming
import SchemaTypings.Proofs.Report.Order
import SchemaTypings.Proofs.Report.Turns
import SchemaTypings.Proofs.Report.TypeNames
import SchemaTypings.Proofs.Report.Undisturbed
import SchemaTypings.Proofs.Schema.Children
import SchemaTypings.Proofs.Schema.Demands
import SchemaTypings.Proofs.Schema.FlatShapes
import SchemaTypings.Proofs.Schema.InferredDiscriminators
import SchemaTypings.Proofs.Schema.MappedDiscriminators
import SchemaTypings.Proofs.Typing.Balanced
import SchemaTypings.Proofs.Typing.Checks
import SchemaTypings.Proofs.Typing.Comments
import SchemaTypings.Proofs.Typing.Complete
import SchemaTypings.Proofs.Typing.EnumCompanions
import SchemaTypings.Proofs.Typing.EnumValues
import SchemaTypings.Proofs.Typing.Groups
import SchemaTypings.Proofs.Typing.Headings
import SchemaTypings.Proofs.Typing.Identifiers
import SchemaTypings.Proofs.Typing.Order
import SchemaTypings.Proofs.Typing.OuterText
import SchemaTypings.Proofs.Typing.Resting
import SchemaTypings.Proofs.Typing.Stability
import SchemaTypings.Proofs.Typing.Statements
import SchemaTypings.Proofs.Typing.Templates
import SchemaTypings.Proofs.Typing.Tokens
import SchemaTypings.Proofs.Typing.Trees
import SchemaTypings.Proofs.Typing.Values
import SchemaTypings.Schema.Basic
import SchemaTypings.Schema.Decode
import SchemaTypings.Schema.Discriminator
import SchemaTypings.Schema.Document
import SchemaTypings.Schema.FlatShape
import SchemaTypings.Schema.Keywords
import SchemaTypings.StandIn.Search
import SchemaTypings.StandIn.Selector
import SchemaTypings.Text.Alphanumeric
import SchemaTypings.Text.Blank
import SchemaTypings.Text.CaseMapping
import SchemaTypings.Text.CodePointRun
import SchemaTypings.Text.Escaped
import SchemaTypings.Text.LetterCase
import SchemaTypings.Text.Split
import SchemaTypings.Text.WordCharacter
import SchemaTypings.Typing.Declaration
import SchemaTypings.Typing.DocComment
import SchemaTypings.Typing.EnumText
import SchemaTypings.Typing.Expression
import SchemaTypings.Typing.Module
import SchemaTypings.Typing.Property
import SchemaTypings.Validation.Rule
import SchemaTypings.Validation.Validator
