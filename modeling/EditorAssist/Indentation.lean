import EditorAssist.LexedLine.Basic

/-! Prediction of indentation. A new line keeps the indentation of the line before it, and goes
one level deeper if that line ends in something that opens a block. The decision looks at tokens,
so text in strings and comments opens nothing. -/
namespace EditorAssist

/-- Operators that open a block at the end of a line. -/
def openingOperators : List String :=
  ["=", ":", "->", "=>"]

/-- Words that open a block at the end of a line. -/
def openingWords : List String :=
  ["else", "with", "try"]

/-- Whether a token opens a block when it is the last of its line. -/
def Token.beginsBlock (t : Token) : Bool :=
  match t.kind with
  | .opening => true
  | .operator => openingOperators.contains (String.ofList t.lexeme)
  | .keyword | .identifier => openingWords.contains (String.ofList t.lexeme)
  | _ => false

/-- Whether a line ends in code with a token that opens a block. -/
def LexedLine.beginsBlock (line : LexedLine) : Bool :=
  line.endMode == .code && line.lastNonblank?.any (·.beginsBlock)

/-- The indentation of the line after a given line, where `unit` is one level. -/
def nextIndent (line : Text) (lexed : LexedLine) (unit : Text) : Text :=
  leadingIndent line ++ if lexed.beginsBlock then unit else []

/-- Whether typing `input` on a line asks for the line to be lined up with an opening brace: the
line is white space, and the input begins with a closing brace, white space aside. -/
def asksOutdent (line input : Text) : Bool :=
  !line.isEmpty && line.all isBlank && (input.dropWhile isBlank).head? == some '}'

end EditorAssist
