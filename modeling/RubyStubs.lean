import RubyStubs.CommandLine.Arguments
import RubyStubs.CommandLine.Invocation
import RubyStubs.CommandLine.ParsedTexts
import RubyStubs.CommandLine.Prompt
import RubyStubs.CommandLine.Run
import RubyStubs.CommandLine.Usage
import RubyStubs.Conflict.Key
import RubyStubs.Conflict.Resolve
import RubyStubs.Console.Emoji
import RubyStubs.Console.EmojiTable
import RubyStubs.Console.Markup
import RubyStubs.Console.Message
import RubyStubs.Console.StyleName
import RubyStubs.Console.Width
import RubyStubs.Decl.Basic
import RubyStubs.Decl.Build
import RubyStubs.Decl.Describe
import RubyStubs.Decl.Merge
import RubyStubs.Extension.Basic
import RubyStubs.Extension.Registry
import RubyStubs.Files.Error
import RubyStubs.Files.FileTree
import RubyStubs.Files.PathName
import RubyStubs.Files.Scan
import RubyStubs.Journal
import RubyStubs.Main
import RubyStubs.Method.Basic
import RubyStubs.Method.Parameter
import RubyStubs.Method.Signature
import RubyStubs.Project.Load
import RubyStubs.Settings.Config
import RubyStubs.Settings.Data
import RubyStubs.Settings.Error
import RubyStubs.Settings.Json
import RubyStubs.Settings.KeyOrder
import RubyStubs.Source.Body
import RubyStubs.Source.Definition
import RubyStubs.Source.Error
import RubyStubs.Source.Place
import RubyStubs.Source.Read
import RubyStubs.Source.Sig
import RubyStubs.Source.Sigil
import RubyStubs.Stub.Convert
import RubyStubs.Stub.Layout
import RubyStubs.Stub.Rbi
import RubyStubs.Stub.Rbs
import RubyStubs.Stub.Style
import RubyStubs.SyntaxTree.Call
import RubyStubs.SyntaxTree.Node
import RubyStubs.SyntaxTree.Path
import RubyStubs.Text.Blank
import RubyStubs.Text.Decimal
import RubyStubs.Text.Hex
import RubyStubs.Text.Lines
import RubyStubs.Text.Numeral
import RubyStubs.Text.Printable
import RubyStubs.Text.Quoted
import RubyStubs.Text.Similar
import RubyStubs.Text.Split
import RubyStubs.Text.Utf8
import RubyStubs.Text.Word
import RubyStubs.TypeExpr.Basic
import RubyStubs.TypeExpr.Like
import RubyStubs.TypeExpr.OfNode
import RubyStubs.TypeExpr.Render
import RubyStubs.Yaml.Cursor
import RubyStubs.Yaml.Node
import RubyStubs.Yaml.Scalar
import RubyStubs.Yaml.Token
import RubyStubs.Yaml.Value
import RubyStubs.Proofs.Distinct
import RubyStubs.Proofs.ScopeKind
import RubyStubs.Proofs.Compatible
import RubyStubs.Proofs.Survivor
import RubyStubs.Proofs.Fold
import RubyStubs.Proofs.Siblings
import RubyStubs.Proofs.QuietRun
import RubyStubs.Proofs.Questions
import RubyStubs.Proofs.Settled
import RubyStubs.Proofs.Union
import RubyStubs.Proofs.Conservation
import RubyStubs.Proofs.Staged
import RubyStubs.Proofs.Incremental
import RubyStubs.Proofs.Reordering
import RubyStubs.Proofs.Dropping
import RubyStubs.Proofs.Fragments
import RubyStubs.Proofs.Reopening
import RubyStubs.Proofs.Levels
import RubyStubs.Proofs.Aborting
import RubyStubs.Proofs.Neighbours
import RubyStubs.Proofs.Outcome
import RubyStubs.Proofs.Reading
import RubyStubs.Proofs.SigAgreement
import RubyStubs.Proofs.NodeShape
import RubyStubs.Proofs.TypeRoutes
import RubyStubs.Proofs.StructuredReading
import RubyStubs.Proofs.Conversion
import RubyStubs.Proofs.Expression
import RubyStubs.Proofs.TypeReading
import RubyStubs.Proofs.Interface
import RubyStubs.Proofs.Printing
import RubyStubs.Proofs.ReadingBack
import RubyStubs.Proofs.KeyByKey
import RubyStubs.Proofs.Leniency
import RubyStubs.Proofs.Qualified
import RubyStubs.Proofs.Expressible
import RubyStubs.Proofs.Overloads
import RubyStubs.Proofs.SortedByName
import RubyStubs.Proofs.Building
import RubyStubs.Proofs.StatementMembers
import RubyStubs.Proofs.Mixins
import RubyStubs.Proofs.Interchange
import RubyStubs.Proofs.SigChain
import RubyStubs.Proofs.ParameterMatching
import RubyStubs.Proofs.Visibility
import RubyStubs.Proofs.Qualifiers
import RubyStubs.Proofs.Leftovers
import RubyStubs.Proofs.TypeText
import RubyStubs.Proofs.InterfaceName
import RubyStubs.Proofs.CommentLines
import RubyStubs.Proofs.TwoLayouts
import RubyStubs.Proofs.Nesting
import RubyStubs.Proofs.Breaking
import RubyStubs.Proofs.Documentation
import RubyStubs.Proofs.PrintedNames
import RubyStubs.Proofs.Descent
import RubyStubs.Proofs.WantedFiles
import RubyStubs.Proofs.BlankSettings
import RubyStubs.Proofs.AnchoredConstants
import RubyStubs.Proofs.SigPlaces
import RubyStubs.Proofs.Defects
import RubyStubs.Proofs.SigOrder

