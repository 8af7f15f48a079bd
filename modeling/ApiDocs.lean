import ApiDocs.Assembly
import ApiDocs.CaseRule
import ApiDocs.Catalog
import ApiDocs.CommandLine.Arguments
import ApiDocs.CommandLine.Run
import ApiDocs.Decimal.Double
import ApiDocs.Decimal.Power
import ApiDocs.Decimal.Shortest
import ApiDocs.Declaration
import ApiDocs.Directive.Apply
import ApiDocs.Directive.Edit
import ApiDocs.Directive.Fields
import ApiDocs.Directive.Keyword
import ApiDocs.Document.Basic
import ApiDocs.Document.Json
import ApiDocs.Document.Yaml
import ApiDocs.Expansion
import ApiDocs.FilePath
import ApiDocs.FileTree.Basic
import ApiDocs.FileTree.Load
import ApiDocs.FileTree.Scan
import ApiDocs.Generate
import ApiDocs.Journal
import ApiDocs.Json.Basic
import ApiDocs.Json.Printer
import ApiDocs.Json.Reader
import ApiDocs.Kind
import ApiDocs.Layout
import ApiDocs.Loader
import ApiDocs.Main
import ApiDocs.ModulePath
import ApiDocs.Output
import ApiDocs.Resolution
import ApiDocs.Session
import ApiDocs.Source.Grammar.Attribute
import ApiDocs.Source.Grammar.Expression
import ApiDocs.Source.Grammar.File
import ApiDocs.Source.Grammar.Goal
import ApiDocs.Source.Grammar.Item
import ApiDocs.Source.Grammar.Path
import ApiDocs.Source.Grammar.Pattern
import ApiDocs.Source.Grammar.Statement
import ApiDocs.Source.Grammar.Type
import ApiDocs.Source.Lexer
import ApiDocs.Source.Literal
import ApiDocs.Source.Reader
import ApiDocs.Source.Serial
import ApiDocs.Source.Token
import ApiDocs.Source.Tree
import ApiDocs.Source.Unit
import ApiDocs.Text.Blank
import ApiDocs.Text.CodeRun
import ApiDocs.Text.Identifier
import ApiDocs.Text.Letter
import ApiDocs.Text.Lowercase
import ApiDocs.Text.Quoted
import ApiDocs.Text.Word
import ApiDocs.TypeExpr
import ApiDocs.Yaml.Printer
import ApiDocs.Yaml.Reserved
import ApiDocs.Yaml.Scalar
import ApiDocs.Proofs.FilePath
import ApiDocs.Proofs.Catalog.Index
import ApiDocs.Proofs.Session.Steps
import ApiDocs.Proofs.Catalog.Built
import ApiDocs.Proofs.Expansion.Agreement
import ApiDocs.Proofs.Session.Growth
import ApiDocs.Proofs.Catalog.Loading
import ApiDocs.Proofs.Catalog.Library
import ApiDocs.Proofs.Resolution.Alongside
import ApiDocs.Proofs.Resolution.Places
import ApiDocs.Proofs.Resolution.History
import ApiDocs.Proofs.Resolution.Settled
import ApiDocs.Proofs.Resolution.Idle
import ApiDocs.Proofs.Expansion.Balance
import ApiDocs.Proofs.Expansion.Termination
import ApiDocs.Proofs.Expansion.Twins
import ApiDocs.Proofs.Expansion.Uniform
import ApiDocs.Proofs.Assembly.Twins
import ApiDocs.Proofs.Assembly.Isolation
import ApiDocs.Proofs.FileTree.Places
import ApiDocs.Proofs.FileTree.Descent
import ApiDocs.Proofs.FileTree.Walk
import ApiDocs.Proofs.FileTree.Crates
import ApiDocs.Proofs.FileTree.Loading
import ApiDocs.Proofs.Generate.Indexing
import ApiDocs.Proofs.Generate.Folders
import ApiDocs.Proofs.Session.Runs
import ApiDocs.Proofs.Session.Requests
import ApiDocs.Proofs.Json.RoundTrip
import ApiDocs.Proofs.Document.RoundTrip
import ApiDocs.Proofs.Assembly.Outline
import ApiDocs.Proofs.Assembly.SourceOrder
import ApiDocs.Proofs.ModulePath
import ApiDocs.Proofs.Assembly.Stitching
import ApiDocs.Proofs.Assembly.Files
import ApiDocs.Proofs.Directive.Inheritance
import ApiDocs.Proofs.Directive.Steps
import ApiDocs.Proofs.Assembly.Reading
import ApiDocs.Proofs.Assembly.Chapters
import ApiDocs.Proofs.Assembly.General
import ApiDocs.Proofs.Source.Names
import ApiDocs.Proofs.Session.Uses
import ApiDocs.Proofs.Resolution.Fixed
import ApiDocs.Proofs.Resolution.Precedence
import ApiDocs.Proofs.Expansion.Levels
import ApiDocs.Proofs.Expansion.Dotted
import ApiDocs.Proofs.Expansion.Unbounded
import ApiDocs.Proofs.Expansion.Contributions
import ApiDocs.Proofs.Expansion.Merging
import ApiDocs.Proofs.Source.Shapes
import ApiDocs.Proofs.Expansion.Nodes
import ApiDocs.Proofs.Expansion.Kinds
import ApiDocs.Proofs.Expansion.Samples
import ApiDocs.Proofs.Directive.Responses
import ApiDocs.Proofs.Resolution.Retyped
import ApiDocs.Proofs.Expansion.Lockstep
import ApiDocs.Proofs.Expansion.Synonyms
import ApiDocs.Proofs.Text
import ApiDocs.Proofs.Directive.Rows
import ApiDocs.Proofs.Directive.Parameters
import ApiDocs.Proofs.Directive.Requests
import ApiDocs.Proofs.Directive.Refusals
import ApiDocs.Proofs.ModulePath.Segments
import ApiDocs.Proofs.Layout
import ApiDocs.Proofs.FileTree.Nearest
import ApiDocs.Proofs.FileTree.Production
import ApiDocs.Proofs.ModulePath.Relative
import ApiDocs.Proofs.Source.Imports
import ApiDocs.Proofs.Source.Modules
import ApiDocs.Proofs.Assembly.Termination
import ApiDocs.Proofs.CaseRule
import ApiDocs.Proofs.Resolution.Faithful
