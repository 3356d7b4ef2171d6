import EditorAssist.Bracket
import EditorAssist.Cli.Command
import EditorAssist.Cli.Run
import EditorAssist.Decimal.Nearest
import EditorAssist.Decimal.Shortest
import EditorAssist.Document.Assist
import EditorAssist.Document.Basic
import EditorAssist.Editor
import EditorAssist.Fault
import EditorAssist.Files
import EditorAssist.Indentation
import EditorAssist.Json.Basic
import EditorAssist.Json.Codec
import EditorAssist.Json.Printer
import EditorAssist.LexCache
import EditorAssist.LexedLine.Basic
import EditorAssist.LexedLine.Expectation
import EditorAssist.LexedLine.Render
import EditorAssist.Lexing.Line
import EditorAssist.Lexing.NumberLiteral
import EditorAssist.Lexing.Piece
import EditorAssist.Lexing.Recognizer
import EditorAssist.Lexing.Reserved
import EditorAssist.Lexing.Rule
import EditorAssist.Lexing.Table
import EditorAssist.Main
import EditorAssist.Mode
import EditorAssist.Position
import EditorAssist.Proofs.Alignment
import EditorAssist.Proofs.Backtracking
import EditorAssist.Proofs.Checked.Basic
import EditorAssist.Proofs.Checked.Brackets
import EditorAssist.Proofs.Checked.Cache
import EditorAssist.Proofs.Checked.Document
import EditorAssist.Proofs.Checked.Histories
import EditorAssist.Proofs.Checked.Lexing
import EditorAssist.Proofs.ClosingBrace
import EditorAssist.Proofs.Collecting
import EditorAssist.Proofs.Counting
import EditorAssist.Proofs.Covering
import EditorAssist.Proofs.Cursor
import EditorAssist.Proofs.Cutting
import EditorAssist.Proofs.Entries
import EditorAssist.Proofs.Histories
import EditorAssist.Proofs.Inert
import EditorAssist.Proofs.JsonForms
import EditorAssist.Proofs.Layering
import EditorAssist.Proofs.LexemeShapes
import EditorAssist.Proofs.LineBreaks
import EditorAssist.Proofs.Lines
import EditorAssist.Proofs.LongestNumber
import EditorAssist.Proofs.Lookup
import EditorAssist.Proofs.Matches
import EditorAssist.Proofs.Merging
import EditorAssist.Proofs.Nesting
import EditorAssist.Proofs.NumberExtent
import EditorAssist.Proofs.NumberGrammar
import EditorAssist.Proofs.NumberPatterns
import EditorAssist.Proofs.Outdenting
import EditorAssist.Proofs.Pairing
import EditorAssist.Proofs.Places
import EditorAssist.Proofs.PlainText
import EditorAssist.Proofs.Precedence
import EditorAssist.Proofs.Printing
import EditorAssist.Proofs.Reindenting
import EditorAssist.Proofs.Relexing
import EditorAssist.Proofs.Rendering
import EditorAssist.Proofs.Repainting
import EditorAssist.Proofs.Replacing
import EditorAssist.Proofs.Rivals
import EditorAssist.Proofs.Runs
import EditorAssist.Proofs.Scanner
import EditorAssist.Proofs.Shifting
import EditorAssist.Proofs.StrayDigits
import EditorAssist.Proofs.StringPieces
import EditorAssist.Proofs.TrailingBlanks
import EditorAssist.Proofs.Typing
import EditorAssist.Proofs.Undisturbed
import EditorAssist.RowEdit
import EditorAssist.Settings.Basic
import EditorAssist.Settings.Error
import EditorAssist.Settings.Loader
import EditorAssist.Settings.Merging
import EditorAssist.Settings.Path
import EditorAssist.Settings.Read
import EditorAssist.Settings.Tree
import EditorAssist.Text.Basic
import EditorAssist.Text.Blank
import EditorAssist.Text.CaseTables
import EditorAssist.Text.Hidden
import EditorAssist.Text.Letter
import EditorAssist.Text.Lowercase
import EditorAssist.Text.Numeral
import EditorAssist.Text.Quoted
import EditorAssist.Text.Upper
import EditorAssist.Text.Word
import EditorAssist.Token.Basic
import EditorAssist.Token.Kind
import EditorAssist.Toml.Basic
import EditorAssist.Toml.Parser
import EditorAssist.Toml.Scalar
import EditorAssist.Toml.Value
import EditorAssist.Workspace
