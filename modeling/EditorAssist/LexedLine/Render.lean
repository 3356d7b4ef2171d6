import EditorAssist.LexedLine.Basic
import EditorAssist.Text.Quoted

/-! Readable forms of lexed lines, given which characters of lexemes are hidden. -/
namespace EditorAssist

def decimal (n : Nat) : Text :=
  Nat.toDigits 10 n

/-- A token without its columns, as scope and quoted lexeme. -/
def Token.renderBy (hidden : Char → Bool) (t : Token) : Text :=
  t.kind.scope.toList ++ ' ' :: t.lexeme.quoteBy hidden

def Token.renderPlacedBy (hidden : Char → Bool) (t : Token) : Text :=
  decimal t.start ++ '.' :: '.' :: decimal t.stop ++ ' ' :: t.renderBy hidden

namespace LexedLine

/-- The tokens of a line, one to a row, and the mode it ends in. -/
def renderBy (hidden : Char → Bool) (line : LexedLine) : Text :=
  line.tokens.flatMap (fun t => t.renderBy hidden ++ ['\n']) ++ "-> ".toList ++
    line.endMode.name.toList

/-- One line of a listing: its row and end mode, then its tokens, indented. -/
def renderRowBy (hidden : Char → Bool) (row : Nat) (line : LexedLine) : Text :=
  decimal row ++ ": -> ".toList ++ line.endMode.name.toList ++ '\n' ::
    line.tokens.flatMap (fun t => "    ".toList ++ t.renderPlacedBy hidden ++ ['\n'])

def renderFromBy (hidden : Char → Bool) (row : Nat) : List LexedLine → Text
  | [] => []
  | line :: rest => renderRowBy hidden row line ++ renderFromBy hidden (row + 1) rest

def renderAllBy (hidden : Char → Bool) (lines : List LexedLine) : Text :=
  renderFromBy hidden 0 lines

/-- The readable form of a line, where characters are hidden that cannot be shown as themselves. -/
def render (line : LexedLine) : Text :=
  line.renderBy isHidden

def renderAll (lines : List LexedLine) : Text :=
  renderAllBy isHidden lines

end EditorAssist.LexedLine
