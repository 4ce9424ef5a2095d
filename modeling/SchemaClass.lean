import SchemaClass.Batch
import SchemaClass.Build.Basic
import SchemaClass.Build.Phase
import SchemaClass.Build.Pipeline
import SchemaClass.ClassFile
import SchemaClass.Command.Arguments
import SchemaClass.Command.Check
import SchemaClass.Command.Generate
import SchemaClass.Command.Program
import SchemaClass.Command.Project
import SchemaClass.Config.Basic
import SchemaClass.Config.Fault
import SchemaClass.Config.Parser
import SchemaClass.Config.Reader
import SchemaClass.Diagnostic
import SchemaClass.Disk
import SchemaClass.Document.Basic
import SchemaClass.Document.Reader
import SchemaClass.Document.Text
import SchemaClass.Document.Validation
import SchemaClass.Entity.Basic
import SchemaClass.Entity.Conversion
import SchemaClass.FileTree
import SchemaClass.Import.Basic
import SchemaClass.IoError
import SchemaClass.Json.Fault
import SchemaClass.Json.Record
import SchemaClass.Json.Skip
import SchemaClass.Json.Token
import SchemaClass.Json.Writer
import SchemaClass.Layout
import SchemaClass.Log.Directive
import SchemaClass.Log.Filter
import SchemaClass.Log.Line
import SchemaClass.Log.Pattern
import SchemaClass.Log.Pattern.Atom
import SchemaClass.Log.Pattern.Bracket
import SchemaClass.Log.Pattern.Expression
import SchemaClass.Main
import SchemaClass.Mismatch
import SchemaClass.Naming
import SchemaClass.Number.Binary64
import SchemaClass.Number.Format
import SchemaClass.Number.Shortest
import SchemaClass.OrderedSet
import SchemaClass.Path.Basic
import SchemaClass.Path.Specifier
import SchemaClass.Placement
import SchemaClass.Proofs.Batch
import SchemaClass.Proofs.Batch.Apart
import SchemaClass.Proofs.Batch.Placed
import SchemaClass.Proofs.Batch.Readiness
import SchemaClass.Proofs.Build.Coherent
import SchemaClass.Proofs.Build.Delivery
import SchemaClass.Proofs.Build.Legible
import SchemaClass.Proofs.Build.Links
import SchemaClass.Proofs.Build.Lints
import SchemaClass.Proofs.Build.Locality
import SchemaClass.Proofs.Build.Models
import SchemaClass.Proofs.Build.Names
import SchemaClass.Proofs.Build.Run
import SchemaClass.Proofs.Build.Settled
import SchemaClass.Proofs.Build.Stages
import SchemaClass.Proofs.Build.Types
import SchemaClass.Proofs.ClassFile.Content
import SchemaClass.Proofs.ClassFile.Imports
import SchemaClass.Proofs.ClassFile.Lifecycle
import SchemaClass.Proofs.ClassFile.Resolution
import SchemaClass.Proofs.ClassFile.Splicing
import SchemaClass.Proofs.ClassFile.Text
import SchemaClass.Proofs.Command.Agreement
import SchemaClass.Proofs.Config.KeyPlace
import SchemaClass.Proofs.Diagnostic
import SchemaClass.Proofs.Document.Declarations
import SchemaClass.Proofs.Document.Labels
import SchemaClass.Proofs.Document.Places
import SchemaClass.Proofs.Document.Search
import SchemaClass.Proofs.Document.Spelling
import SchemaClass.Proofs.Document.Validity
import SchemaClass.Proofs.Entity.Answers
import SchemaClass.Proofs.Entity.Conversion
import SchemaClass.Proofs.Entity.Documentation
import SchemaClass.Proofs.FileTree
import SchemaClass.Proofs.Import.InPlace
import SchemaClass.Proofs.Import.Merging
import SchemaClass.Proofs.Import.Registration
import SchemaClass.Proofs.Import.Resolution
import SchemaClass.Proofs.Import.Rewriting
import SchemaClass.Proofs.Json.Passing
import SchemaClass.Proofs.Json.Reading
import SchemaClass.Proofs.Json.Spelling
import SchemaClass.Proofs.Json.Writing
import SchemaClass.Proofs.Naming
import SchemaClass.Proofs.Naming.ClassName
import SchemaClass.Proofs.Naming.Kebab
import SchemaClass.Proofs.OrderedSet
import SchemaClass.Proofs.Outcome
import SchemaClass.Proofs.Path.Canonical
import SchemaClass.Proofs.Path.Explicit
import SchemaClass.Proofs.Path.Following
import SchemaClass.Proofs.Path.Normal
import SchemaClass.Proofs.Path.Reading
import SchemaClass.Proofs.Path.Relative
import SchemaClass.Proofs.Path.Specifier
import SchemaClass.Proofs.Placement
import SchemaClass.Proofs.Report
import SchemaClass.Proofs.SchemaError
import SchemaClass.Proofs.Source.Builder
import SchemaClass.Proofs.Source.Decorator
import SchemaClass.Proofs.Source.ImportStatement
import SchemaClass.Proofs.Source.Layout
import SchemaClass.Proofs.Source.Program
import SchemaClass.Proofs.Source.StringLiteral
import SchemaClass.Proofs.Text.Lines
import SchemaClass.Proofs.Text.Position
import SchemaClass.Proofs.Text.Split
import SchemaClass.Report
import SchemaClass.Scalar
import SchemaClass.SchemaError
import SchemaClass.Source.Builder
import SchemaClass.Source.ClassDeclaration
import SchemaClass.Source.Decorator
import SchemaClass.Source.Template
import SchemaClass.Tag
import SchemaClass.Text.Alphanumeric
import SchemaClass.Text.Blank
import SchemaClass.Text.Cursor
import SchemaClass.Text.LetterCase
import SchemaClass.Text.LetterCase.Table
import SchemaClass.Text.Position
import SchemaClass.Text.Quoted
import SchemaClass.Text.Search
import SchemaClass.Toml.Parser
import SchemaClass.Toml.Scalar
import SchemaClass.Toml.Token
import SchemaClass.Toml.Value
