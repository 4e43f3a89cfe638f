import Bindery.Binding.Action
import Bindery.Binding.Basic
import Bindery.Binding.Enumeration
import Bindery.Binding.Fault
import Bindery.Binding.Marker
import Bindery.Binding.Meaning
import Bindery.Binding.Overload
import Bindery.Binding.Procedure
import Bindery.Binding.ProcedureName
import Bindery.Binding.Record
import Bindery.CommandLine
import Bindery.Declaration.Basic
import Bindery.Declaration.Description
import Bindery.Declaration.Listing
import Bindery.Documentation.Comment
import Bindery.Documentation.Corpus
import Bindery.Documentation.Markup
import Bindery.Files.Basic
import Bindery.Files.Path
import Bindery.Files.Tree
import Bindery.Generation
import Bindery.Header.Abstract
import Bindery.Header.Content
import Bindery.Header.Declarator
import Bindery.Header.Declaring
import Bindery.Header.Definition
import Bindery.Header.Directive
import Bindery.Header.Expression
import Bindery.Header.Group
import Bindery.Header.Item
import Bindery.Header.Keyword
import Bindery.Header.Member
import Bindery.Header.Modifier
import Bindery.Header.Name
import Bindery.Header.Number
import Bindery.Header.Outcome
import Bindery.Header.Phrase
import Bindery.Header.Piece
import Bindery.Header.Reader
import Bindery.Header.Reading
import Bindery.Header.Scanner
import Bindery.Header.Statement
import Bindery.Header.Surrounding
import Bindery.Header.Token
import Bindery.Header.TypeSpecifier
import Bindery.Main
import Bindery.Naming
import Bindery.Output
import Bindery.Program
import Bindery.Proofs.Abbreviation
import Bindery.Proofs.Adapter
import Bindery.Proofs.AdapterCall
import Bindery.Proofs.BaseReading
import Bindery.Proofs.Blank
import Bindery.Proofs.Block
import Bindery.Proofs.BlockReading
import Bindery.Proofs.Canonical
import Bindery.Proofs.CanonicalPieces
import Bindery.Proofs.Choice
import Bindery.Proofs.CodeText
import Bindery.Proofs.Comment
import Bindery.Proofs.CommonLead
import Bindery.Proofs.Composition
import Bindery.Proofs.ConstantReading
import Bindery.Proofs.ContentReading
import Bindery.Proofs.ContentSource
import Bindery.Proofs.Corpus
import Bindery.Proofs.DeclaratorReading
import Bindery.Proofs.DeclaredName
import Bindery.Proofs.EnumerationReading
import Bindery.Proofs.EnumerationValue
import Bindery.Proofs.ExampleMark
import Bindery.Proofs.ExampleText
import Bindery.Proofs.Fault
import Bindery.Proofs.FieldLayout
import Bindery.Proofs.FieldReading
import Bindery.Proofs.Filling
import Bindery.Proofs.ForeignName
import Bindery.Proofs.Form
import Bindery.Proofs.FormReading
import Bindery.Proofs.Frontier
import Bindery.Proofs.FunctionReading
import Bindery.Proofs.Furthest
import Bindery.Proofs.Grouped
import Bindery.Proofs.Growth
import Bindery.Proofs.Isolation
import Bindery.Proofs.ItemOrder
import Bindery.Proofs.Joined
import Bindery.Proofs.KeywordName
import Bindery.Proofs.KnownHandles
import Bindery.Proofs.Layout
import Bindery.Proofs.LeadCut
import Bindery.Proofs.Letter
import Bindery.Proofs.Locating
import Bindery.Proofs.Log
import Bindery.Proofs.MarkedText
import Bindery.Proofs.Marker
import Bindery.Proofs.Meaning
import Bindery.Proofs.MemberOrder
import Bindery.Proofs.MemberText
import Bindery.Proofs.OperandReading
import Bindery.Proofs.Origin
import Bindery.Proofs.OutcomePlace
import Bindery.Proofs.OutputPath
import Bindery.Proofs.ParameterName
import Bindery.Proofs.ParameterPassing
import Bindery.Proofs.ParameterReading
import Bindery.Proofs.PhraseFront
import Bindery.Proofs.PickedLine
import Bindery.Proofs.Pieces
import Bindery.Proofs.PointerDepth
import Bindery.Proofs.PropertyName
import Bindery.Proofs.ReaderFront
import Bindery.Proofs.ReferenceMark
import Bindery.Proofs.Replacing
import Bindery.Proofs.Rewriting
import Bindery.Proofs.RoundTrip
import Bindery.Proofs.ScanFrame
import Bindery.Proofs.Scanning
import Bindery.Proofs.Signs
import Bindery.Proofs.SourcePosition
import Bindery.Proofs.SpelledType
import Bindery.Proofs.Spelling
import Bindery.Proofs.SplitFrame
import Bindery.Proofs.SplitStep
import Bindery.Proofs.Splitting
import Bindery.Proofs.StatementReading
import Bindery.Proofs.TagReading
import Bindery.Proofs.TargetDeclaration
import Bindery.Proofs.TokenText
import Bindery.Proofs.TypeLine
import Bindery.Proofs.TypeReference
import Bindery.Proofs.UnionSetting
import Bindery.Proofs.ValueWeight
import Bindery.Proofs.VariableReading
import Bindery.Proofs.Visit
import Bindery.Proofs.Vocabulary
import Bindery.Proofs.WordFront
import Bindery.Run
import Bindery.Settings.Basic
import Bindery.Settings.Reader
import Bindery.Source.Diagnostic
import Bindery.Source.Position
import Bindery.Source.Span
import Bindery.Text.Basic
import Bindery.Text.Blank
import Bindery.Text.Case
import Bindery.Text.Integer
import Bindery.Text.Lead
import Bindery.Text.Line
import Bindery.Text.Order
import Bindery.Text.Quoted
import Bindery.Text.Search
import Bindery.Text.Table.Cased
import Bindery.Text.Table.Hidden
import Bindery.Text.Table.Lower
import Bindery.Text.Table.Name
import Bindery.Text.Table.Upper
import Bindery.Text.Table.Word
import Bindery.Text.Word
import Bindery.Text.Wrap
import Bindery.Toml.Basic
import Bindery.Toml.Document
import Bindery.Toml.Moment
import Bindery.Toml.Number
import Bindery.Toml.Quoted
import Bindery.Toml.Reader
import Bindery.Toml.Space
import Bindery.TypeName
