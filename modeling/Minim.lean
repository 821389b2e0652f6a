import Minim.CommandLine
import Minim.CommandLine.Options
import Minim.Diagnostic
import Minim.Dialogue
import Minim.Folder
import Minim.Json.Value
import Minim.Main
import Minim.Position
import Minim.Proofs.Grammar.Expression
import Minim.Proofs.Grammar.Phrases
import Minim.Proofs.Grammar.Program
import Minim.Proofs.Grammar.ProgramPhrases
import Minim.Proofs.Grammar.Unfolding
import Minim.Proofs.Parser.Calls
import Minim.Proofs.Parser.Declaration
import Minim.Proofs.Parser.Derivation
import Minim.Proofs.Parser.Endings
import Minim.Proofs.Parser.Expression
import Minim.Proofs.Parser.Expression.Completeness
import Minim.Proofs.Parser.Expression.Soundness
import Minim.Proofs.Parser.Expression.Steps
import Minim.Proofs.Parser.Moves
import Minim.Proofs.Parser.Program
import Minim.Proofs.Parser.Reach
import Minim.Proofs.Parser.Recursion
import Minim.Proofs.Parser.Run
import Minim.Proofs.Parser.Settling
import Minim.Proofs.Parser.Statement
import Minim.Proofs.Parser.Variable
import Minim.Proofs.Report.Outcome
import Minim.Proofs.Report.Sections
import Minim.Proofs.Report.TokenLines
import Minim.Proofs.Resolution.Below
import Minim.Proofs.Resolution.Bodies
import Minim.Proofs.Resolution.Commuting
import Minim.Proofs.Resolution.Completion
import Minim.Proofs.Resolution.Consistency
import Minim.Proofs.Resolution.Exports
import Minim.Proofs.Resolution.Fates
import Minim.Proofs.Resolution.Frames
import Minim.Proofs.Resolution.Layout
import Minim.Proofs.Resolution.Links
import Minim.Proofs.Resolution.Mirrored
import Minim.Proofs.Resolution.Mirrors
import Minim.Proofs.Resolution.Moves
import Minim.Proofs.Resolution.Rebasing
import Minim.Proofs.Resolution.Renaming
import Minim.Proofs.Resolution.Renoting
import Minim.Proofs.Resolution.Reports
import Minim.Proofs.Resolution.Steps
import Minim.Proofs.Scope.Environments
import Minim.Proofs.Scoping.Accesses
import Minim.Proofs.Scoping.Accounting
import Minim.Proofs.Scoping.Agreement
import Minim.Proofs.Scoping.Analysis
import Minim.Proofs.Scoping.Arena
import Minim.Proofs.Scoping.Clean
import Minim.Proofs.Scoping.Expression
import Minim.Proofs.Scoping.Members
import Minim.Proofs.Scoping.Mentions
import Minim.Proofs.Scoping.Order
import Minim.Proofs.Scoping.Outcome
import Minim.Proofs.Scoping.Program
import Minim.Proofs.Scoping.Sites
import Minim.Proofs.Scoping.Visits
import Minim.Proofs.Scoping.Walk
import Minim.Proofs.Session.Growth
import Minim.Proofs.Syntax.Annotated
import Minim.Proofs.Syntax.Dumps
import Minim.Proofs.Syntax.Edits
import Minim.Proofs.Syntax.Erasure
import Minim.Proofs.Syntax.Graphs
import Minim.Proofs.Syntax.Grouping
import Minim.Proofs.Syntax.Headlines
import Minim.Proofs.Syntax.Idents
import Minim.Proofs.Syntax.JsonForms
import Minim.Proofs.Syntax.Leaves
import Minim.Proofs.Syntax.Legends
import Minim.Proofs.Syntax.Listings
import Minim.Proofs.Syntax.Namings
import Minim.Proofs.Syntax.Parsed
import Minim.Proofs.Syntax.Positions
import Minim.Proofs.Syntax.Reading
import Minim.Proofs.Syntax.Roles
import Minim.Proofs.Syntax.RoundTrip
import Minim.Proofs.Syntax.Shape
import Minim.Proofs.Syntax.Source
import Minim.Proofs.Syntax.SourceWords
import Minim.Proofs.Syntax.WellFormed
import Minim.Proofs.Syntax.Words
import Minim.Proofs.Token.Calls
import Minim.Proofs.Token.Gap
import Minim.Proofs.Token.Joining
import Minim.Proofs.Token.Layout
import Minim.Proofs.Token.Letters
import Minim.Proofs.Token.Lexing
import Minim.Proofs.Token.Order
import Minim.Proofs.Token.Respelling
import Minim.Proofs.Token.Scanning
import Minim.Proofs.Token.Segmentation
import Minim.Proofs.Token.Spelled
import Minim.Proofs.Token.Spelling
import Minim.Proofs.Token.Stops
import Minim.Proofs.Token.Truncation
import Minim.Proofs.Token.Words
import Minim.Registry
import Minim.Report
import Minim.Resolution
import Minim.Resolution.State
import Minim.Scope
import Minim.Sequence
import Minim.Session
import Minim.Symbol
import Minim.Symbol.Json
import Minim.Syntax
import Minim.Syntax.Dump
import Minim.Syntax.Equality
import Minim.Syntax.Graph
import Minim.Syntax.Json
import Minim.Syntax.Legend
import Minim.Syntax.Node
import Minim.Syntax.Outline
import Minim.Syntax.ParseError
import Minim.Syntax.Parser
import Minim.Syntax.Parser.Basic
import Minim.Syntax.Parser.Expression
import Minim.Syntax.Parser.Statement
import Minim.Syntax.Source
import Minim.Syntax.TokenStream
import Minim.Text.Decimal
import Minim.Text.Hex
import Minim.Text.Quoted
import Minim.Token
import Minim.Token.Cursor
import Minim.Token.Lexeme
import Minim.Token.Lexer
import Minim.Token.Numeral
import Minim.Unicode.Blank
import Minim.Unicode.Digit
import Minim.Unicode.Letter
import Minim.Unicode.Printable
import Minim.Unicode.Ranges
