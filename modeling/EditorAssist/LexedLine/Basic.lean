import EditorAssist.Mode
import EditorAssist.Token.Basic

/-! Lexed lines: the tokens of a line with the mode in which it ends. -/
namespace EditorAssist

/-- The tokens of one line, and the mode the next line begins in. -/
structure LexedLine where
  tokens : List Token
  endMode : Mode
  deriving DecidableEq, Repr

namespace LexedLine

def text (line : LexedLine) : Text :=
  line.tokens.flatMap (·.lexeme)

/-- The tokens that are not white space. -/
def significant (line : LexedLine) : List Token :=
  line.tokens.filter (!·.isBlank)

def lastNonblank? (line : LexedLine) : Option Token :=
  line.tokens.reverse.find? (!·.isBlank)

def kinds (line : LexedLine) : List Token.Kind :=
  line.tokens.map (·.kind)

end EditorAssist.LexedLine
