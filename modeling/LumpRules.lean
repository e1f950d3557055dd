import LumpRules.Decimal.Layout
import LumpRules.Decimal.Numeral
import LumpRules.Decimal.Shortest
import LumpRules.Document
import LumpRules.Document.Commas
import LumpRules.Document.Comments
import LumpRules.Document.Position
import LumpRules.Document.Scanner
import LumpRules.Document.Sections
import LumpRules.Entity.Basic
import LumpRules.Entity.Guarded
import LumpRules.Entity.View
import LumpRules.Entries
import LumpRules.Event
import LumpRules.Json.Basic
import LumpRules.Json.Reader
import LumpRules.Json.Writer
import LumpRules.Options
import LumpRules.Precision
import LumpRules.Regex.CharSet
import LumpRules.Regex.Expr
import LumpRules.Regex.Folding
import LumpRules.Regex.Property
import LumpRules.Regex.Property.Binary
import LumpRules.Regex.Property.Category
import LumpRules.Regex.Property.Extension
import LumpRules.Regex.Property.Script
import LumpRules.Regex.Property.Version
import LumpRules.Regex.Reader
import LumpRules.Regex.Search
import LumpRules.Report
import LumpRules.Rule.Application
import LumpRules.Rule.Basic
import LumpRules.Rule.Compilation
import LumpRules.Rule.CompileError
import LumpRules.Rule.Connection
import LumpRules.Rule.Matching
import LumpRules.Rule.Rendering
import LumpRules.Rule.Value
import LumpRules.RuleFile
import LumpRules.RuleSet.Basic
import LumpRules.RuleSet.FileTree
import LumpRules.RuleSet.Loading
import LumpRules.Text.Ascii
import LumpRules.Text.Blank
import LumpRules.Text.Lowercase
import LumpRules.Text.Lowercase.Letters
import LumpRules.Text.Matching
import LumpRules.Proofs.Outcome
import LumpRules.Proofs.Application.Passes
import LumpRules.Proofs.Application.Reference
import LumpRules.Proofs.Application.Mutation
import LumpRules.Proofs.Application.Verbosity
import LumpRules.Proofs.Document.Grammar
import LumpRules.Proofs.Document.Recognition
import LumpRules.Proofs.Json.Token
import LumpRules.Proofs.Json.Notation
import LumpRules.Proofs.Json.Leaves
import LumpRules.Proofs.Json.Reading
import LumpRules.Proofs.Json.Spacing
import LumpRules.Proofs.Document.Commas
import LumpRules.Proofs.Document.Comments
import LumpRules.Proofs.Document.Noise
import LumpRules.Proofs.Document.Rows
import LumpRules.Proofs.Rule.Fragments
import LumpRules.Proofs.Rule.Objects
import LumpRules.Proofs.Document.Transparency
import LumpRules.Proofs.RuleSet.Listing
import LumpRules.Proofs.RuleSet.Loading
import LumpRules.Proofs.RuleSet.Sources
import LumpRules.Proofs.Rule.Faults
import LumpRules.Proofs.Rule.Rejection
import LumpRules.Proofs.Text.Letters
import LumpRules.Proofs.Text.Lowercase
import LumpRules.Proofs.RuleSet.Keys
import LumpRules.Proofs.RuleSet.Lumps
import LumpRules.Proofs.RuleSet.Chain
import LumpRules.Proofs.Application.Accounting
import LumpRules.Proofs.Application.Erasure
import LumpRules.Proofs.Rule.Blocks
import LumpRules.Proofs.Rule.Correspondence
import LumpRules.Proofs.Application.Removal
import LumpRules.Proofs.Entity.History
import LumpRules.Proofs.Application.Hosts
import LumpRules.Proofs.Rule.Keywords
import LumpRules.Proofs.Rule.Spelling
import LumpRules.Proofs.Document.Requoting
import LumpRules.Proofs.Json.Requoting
import LumpRules.Proofs.Rule.Respelling
import LumpRules.Proofs.Application.Journal
import LumpRules.Proofs.RuleSet.Presence
import LumpRules.Proofs.Application.Patch
import LumpRules.Proofs.Document.Capture
import LumpRules.Proofs.Text.Beginning
import LumpRules.Proofs.Rule.Naming
import LumpRules.Proofs.Document.Neighbours
import LumpRules.Proofs.Document.TrailingCommas
import LumpRules.Proofs.Document.Pieces
import LumpRules.Proofs.Document.Reshowing
import LumpRules.Proofs.Document.Separation
import LumpRules.Proofs.Application.Deletion
import LumpRules.Proofs.Precision
import LumpRules.Proofs.Rule.Description
import LumpRules.Proofs.Application.Disconnection
import LumpRules.Proofs.Decimal.Numeral
import LumpRules.Proofs.Application.Assignment
import LumpRules.Proofs.Application.Repetition
import LumpRules.Proofs.Json.Grammar
import LumpRules.Proofs.Document.Clean
import LumpRules.Proofs.Document.Quotes
import LumpRules.Proofs.Document.Deferral
import LumpRules.Proofs.Document.Nesting
import LumpRules.Proofs.Document.Failure
import LumpRules.Proofs.Document.Roles
import LumpRules.Proofs.Document.Lines
import LumpRules.Proofs.Json.Nesting
import LumpRules.Proofs.Document.Isolation
import LumpRules.Proofs.Precision.Rounding
import LumpRules.Proofs.Precision.Integers
import LumpRules.Proofs.Rule.Integers
import LumpRules.Proofs.Text.Comparison
import LumpRules.Proofs.Application.Order
import LumpRules.Proofs.Rule.Sequence
