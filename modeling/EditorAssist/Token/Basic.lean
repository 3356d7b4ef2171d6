import EditorAssist.Fault
import EditorAssist.Text.Blank
import EditorAssist.Token.Kind

/-! Tokens: lexemes with a kind and a place on their line. -/
namespace EditorAssist

/-- A lexeme of a line. It covers the columns from `start` up to, but not including, `stop`. -/
structure Token where
  kind : Token.Kind
  lexeme : Text
  start : Nat
  stop : Nat
  deriving DecidableEq, Repr

namespace Token

def place (kind : Kind) (lexeme : Text) (start : Nat) : Token :=
  ⟨kind, lexeme, start, start + lexeme.length⟩

def placeChecked (kind : Kind) (lexeme : Text) (start : Nat) : Except Fault Token := do
  let stop ← boundedAdd start lexeme.length
  return ⟨kind, lexeme, start, stop⟩

/-- The number of columns a token covers. A token read from outside may end before it starts. -/
def width (t : Token) : Except Fault Nat :=
  exactSub t.stop t.start

def isEmpty (t : Token) : Bool :=
  t.start == t.stop

def isBlank (t : Token) : Bool :=
  t.kind == .plain && t.lexeme.all EditorAssist.isBlank

end EditorAssist.Token
