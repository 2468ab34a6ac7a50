import Relink.Config.Basic
import Relink.Config.Load
import Relink.Disk
import Relink.Exit
import Relink.Extension
import Relink.FileName
import Relink.FileSystem
import Relink.Host
import Relink.Interchange
import Relink.Json.Decode
import Relink.Json.Token
import Relink.Json.Value
import Relink.Jsonc
import Relink.Log.Directive
import Relink.Log.Filter
import Relink.Log.Format
import Relink.Log.Level
import Relink.Log.Pattern
import Relink.Log.Record
import Relink.Manifest
import Relink.Options.Basic
import Relink.Options.Raw
import Relink.Path.Basic
import Relink.Path.Letter
import Relink.Path.Normal
import Relink.Proofs.Config.Acceptance
import Relink.Proofs.Config.Bases
import Relink.Proofs.Config.Chain
import Relink.Proofs.Config.Cycles
import Relink.Proofs.Config.Lines
import Relink.Proofs.Config.Spelling
import Relink.Proofs.Config.Visits
import Relink.Proofs.Exchange
import Relink.Proofs.Extension
import Relink.Proofs.Idempotence
import Relink.Proofs.Interchange
import Relink.Proofs.Json.Acceptance
import Relink.Proofs.Json.Document
import Relink.Proofs.Json.Faults
import Relink.Proofs.Json.Lexing
import Relink.Proofs.Json.Readers
import Relink.Proofs.Json.Reports
import Relink.Proofs.Json.Scan
import Relink.Proofs.Jsonc.Lines
import Relink.Proofs.Jsonc.Passes
import Relink.Proofs.Jsonc.Preimages
import Relink.Proofs.Jsonc.Spelling
import Relink.Proofs.Log.Scoping
import Relink.Proofs.Path.Canonical
import Relink.Proofs.Path.Course
import Relink.Proofs.Path.Directory
import Relink.Proofs.Path.FileName
import Relink.Proofs.Path.Joined
import Relink.Proofs.Path.Relative
import Relink.Proofs.Path.Rooted
import Relink.Proofs.Path.Shown
import Relink.Proofs.Path.Steps
import Relink.Proofs.Pieces
import Relink.Proofs.Resolution.Answers
import Relink.Proofs.Resolution.Beside
import Relink.Proofs.Resolution.Calls
import Relink.Proofs.Resolution.Candidates
import Relink.Proofs.Resolution.FirstMatch
import Relink.Proofs.Resolution.Flags
import Relink.Proofs.Resolution.Formats
import Relink.Proofs.Resolution.Importers
import Relink.Proofs.Resolution.Order
import Relink.Proofs.Resolution.Policy
import Relink.Proofs.Resolution.Redirection
import Relink.Proofs.Resolution.Spellings
import Relink.Proofs.Resolution.Stability
import Relink.Proofs.Resolution.Strategies
import Relink.Proofs.Resolution.Ways
import Relink.Proofs.Rewrite
import Relink.Proofs.Slots
import Relink.Proofs.Specifier
import Relink.Proofs.Text.LetterCase
import Relink.Resolution.Candidates
import Relink.Resolution.Resolve
import Relink.Rewrite
import Relink.Session
import Relink.Specifier
import Relink.Syntax.Characters
import Relink.Syntax.Comments
import Relink.Syntax.Grammar.Arrows
import Relink.Syntax.Grammar.Brackets
import Relink.Syntax.Grammar.Classes
import Relink.Syntax.Grammar.Cursor
import Relink.Syntax.Grammar.Declarations
import Relink.Syntax.Grammar.Expressions
import Relink.Syntax.Grammar.Functions
import Relink.Syntax.Grammar.Loops
import Relink.Syntax.Grammar.Markup
import Relink.Syntax.Grammar.Modules
import Relink.Syntax.Grammar.Names
import Relink.Syntax.Grammar.Objects
import Relink.Syntax.Grammar.Statements
import Relink.Syntax.Grammar.Targets
import Relink.Syntax.Grammar.Types
import Relink.Syntax.Kind
import Relink.Syntax.Layout.Expressions
import Relink.Syntax.Layout.Functions
import Relink.Syntax.Layout.Markup
import Relink.Syntax.Layout.Piece
import Relink.Syntax.Layout.Program
import Relink.Syntax.Layout.Statements
import Relink.Syntax.Layout.Types
import Relink.Syntax.Parse
import Relink.Syntax.Printer
import Relink.Syntax.Quote
import Relink.Syntax.Scan
import Relink.Syntax.Token
import Relink.Text.Alphanumeric
import Relink.Text.Blank
import Relink.Text.CaseTables
import Relink.Text.CharacterReferences
import Relink.Text.Hidden
import Relink.Text.IdentifierTables
import Relink.Text.LetterCase
import Relink.Text.Ranges
import Relink.Text.Split
import Relink.Trace
import Relink.Tree
