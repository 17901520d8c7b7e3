import Crosscheck.Analysis.Adapter
import Crosscheck.Analysis.Campaign
import Crosscheck.Analysis.Pool
import Crosscheck.Analysis.Process
import Crosscheck.Command.Arguments
import Crosscheck.Command.Run
import Crosscheck.Command.Summary
import Crosscheck.Comparison
import Crosscheck.Configuration.Load
import Crosscheck.Configuration.Properties
import Crosscheck.Configuration.Settings
import Crosscheck.Console.Styled
import Crosscheck.Console.Table
import Crosscheck.Console.Width
import Crosscheck.Console.WidthTable
import Crosscheck.Console.Wrap
import Crosscheck.Corpus
import Crosscheck.Document.Calendar
import Crosscheck.Document.Json
import Crosscheck.Document.Toml.Entry
import Crosscheck.Document.Toml.Layout
import Crosscheck.Document.Toml.Literal
import Crosscheck.Document.Toml.Load
import Crosscheck.Document.Toml.Pieces
import Crosscheck.Document.Value
import Crosscheck.Document.Xml.Doctype
import Crosscheck.Document.Xml.Element
import Crosscheck.Document.Xml.Encoding
import Crosscheck.Document.Xml.NameTable
import Crosscheck.Document.Xml.Reader
import Crosscheck.Document.Xml.Token
import Crosscheck.Document.Yaml.Complaint
import Crosscheck.Document.Yaml.Cursor
import Crosscheck.Document.Yaml.Load
import Crosscheck.Document.Yaml.Node
import Crosscheck.Document.Yaml.Scalar
import Crosscheck.Document.Yaml.Scalars
import Crosscheck.Document.Yaml.Scanner
import Crosscheck.Document.Yaml.Tag
import Crosscheck.Document.Yaml.Token
import Crosscheck.Fault
import Crosscheck.Files.Access
import Crosscheck.Files.FileSystem
import Crosscheck.Files.Path
import Crosscheck.Files.Wildcard
import Crosscheck.Finding.Index
import Crosscheck.Finding.Ledger
import Crosscheck.Finding.Line
import Crosscheck.Finding.Tool
import Crosscheck.Finding.Violation
import Crosscheck.Java.Edit
import Crosscheck.Java.Grammar.Declarations
import Crosscheck.Java.Grammar.Expressions
import Crosscheck.Java.Grammar.Statements
import Crosscheck.Java.Grammar.Types
import Crosscheck.Java.Grammar.Words
import Crosscheck.Java.Lexeme
import Crosscheck.Java.Lookup
import Crosscheck.Java.Phrase
import Crosscheck.Java.Source
import Crosscheck.Java.Tree
import Crosscheck.Java.Unit
import Crosscheck.Main
import Crosscheck.Mutation.Cleanup
import Crosscheck.Mutation.Generate
import Crosscheck.Mutation.Naming
import Crosscheck.Native.Format
import Crosscheck.Native.Reader
import Crosscheck.Number.Binary64
import Crosscheck.Number.Decimal
import Crosscheck.Number.Numeral
import Crosscheck.OrderedMap
import Crosscheck.Proofs.Action
import Crosscheck.Proofs.Analysis.Accounting
import Crosscheck.Proofs.Analysis.Coexistence
import Crosscheck.Proofs.Analysis.Completion
import Crosscheck.Proofs.Analysis.Crew
import Crosscheck.Proofs.Analysis.Disjointness
import Crosscheck.Proofs.Analysis.Evaluation
import Crosscheck.Proofs.Analysis.Fieldwork
import Crosscheck.Proofs.Analysis.Independence
import Crosscheck.Proofs.Analysis.Outcome
import Crosscheck.Proofs.Analysis.Pairing
import Crosscheck.Proofs.Analysis.Places
import Crosscheck.Proofs.Analysis.Pool
import Crosscheck.Proofs.Analysis.Premises
import Crosscheck.Proofs.Analysis.Provenance
import Crosscheck.Proofs.Analysis.Rehearsal
import Crosscheck.Proofs.Analysis.Rerun
import Crosscheck.Proofs.Analysis.Shadow
import Crosscheck.Proofs.Analysis.Silence
import Crosscheck.Proofs.Analysis.Sparing
import Crosscheck.Proofs.Analysis.Staleness
import Crosscheck.Proofs.Analysis.Worker
import Crosscheck.Proofs.Behaviour.Effects
import Crosscheck.Proofs.Behaviour.Emission
import Crosscheck.Proofs.Behaviour.Equivalence
import Crosscheck.Proofs.Behaviour.Lexical
import Crosscheck.Proofs.Behaviour.Preservation
import Crosscheck.Proofs.Behaviour.Reading
import Crosscheck.Proofs.Behaviour.Semantics
import Crosscheck.Proofs.Behaviour.Statement
import Crosscheck.Proofs.Command.Refusal
import Crosscheck.Proofs.Comparison
import Crosscheck.Proofs.Configuration.Containment
import Crosscheck.Proofs.Configuration.Flattening
import Crosscheck.Proofs.Configuration.Outsiders
import Crosscheck.Proofs.Configuration.Properties
import Crosscheck.Proofs.Configuration.Reads
import Crosscheck.Proofs.Configuration.Separators
import Crosscheck.Proofs.Corpus
import Crosscheck.Proofs.Counting
import Crosscheck.Proofs.Files.Access
import Crosscheck.Proofs.Files.Edits
import Crosscheck.Proofs.Files.FileSystem
import Crosscheck.Proofs.Files.Likeness
import Crosscheck.Proofs.Files.Path
import Crosscheck.Proofs.Files.Rendering
import Crosscheck.Proofs.Files.Trail
import Crosscheck.Proofs.Files.Wildcard
import Crosscheck.Proofs.Finding.Line
import Crosscheck.Proofs.Finding.Merge
import Crosscheck.Proofs.Finding.Representation
import Crosscheck.Proofs.Java.Bounds
import Crosscheck.Proofs.Java.Lookup
import Crosscheck.Proofs.Java.Traversal
import Crosscheck.Proofs.Listing
import Crosscheck.Proofs.Lockstep
import Crosscheck.Proofs.Mutation.Attempts
import Crosscheck.Proofs.Mutation.Cleanup
import Crosscheck.Proofs.Mutation.Confinement
import Crosscheck.Proofs.Mutation.Inversion
import Crosscheck.Proofs.Mutation.Locality
import Crosscheck.Proofs.Mutation.Naming
import Crosscheck.Proofs.Mutation.Numbering
import Crosscheck.Proofs.Mutation.Records
import Crosscheck.Proofs.Mutation.Repetition
import Crosscheck.Proofs.Mutation.Restoration
import Crosscheck.Proofs.Native.Canonical
import Crosscheck.Proofs.Native.Components
import Crosscheck.Proofs.Native.Entries
import Crosscheck.Proofs.Native.Faults
import Crosscheck.Proofs.Native.Grouping
import Crosscheck.Proofs.Native.Intake
import Crosscheck.Proofs.Native.Lines
import Crosscheck.Proofs.Native.Registration
import Crosscheck.Proofs.Native.RoundTrip
import Crosscheck.Proofs.Number.Numeral
import Crosscheck.Proofs.OrderedMap
import Crosscheck.Proofs.Text.Blank
import Crosscheck.Proofs.Text.Case
import Crosscheck.Proofs.Text.Glyph
import Crosscheck.Proofs.Text.Position
import Crosscheck.Proofs.Text.Utf8
import Crosscheck.Proofs.Variation.Edits
import Crosscheck.Proofs.Variation.Order
import Crosscheck.Proofs.Variation.Sites
import Crosscheck.Text.Blank
import Crosscheck.Text.Case
import Crosscheck.Text.CaseTable
import Crosscheck.Text.Glyph
import Crosscheck.Text.IdentifierTable
import Crosscheck.Text.Position
import Crosscheck.Text.PrintableTable
import Crosscheck.Text.Quoted
import Crosscheck.Text.ShellWord
import Crosscheck.Variation.Catalog
import Crosscheck.Variation.Rule
import Crosscheck.World
