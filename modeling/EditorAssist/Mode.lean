/-! Modes: what a line inherits from the lines before it. -/
namespace EditorAssist

/-- Where a line begins or ends: in code, inside a block comment, or inside a string that was left
open. The first line of a text begins in code, every other line where its predecessor ended. -/
inductive Mode where
  | code
  | comment
  | quoted
  deriving DecidableEq, Repr

namespace Mode

def all : List Mode := [code, comment, quoted]

def name : Mode → String
  | code => "start"
  | comment => "comment"
  | quoted => "quoted-string"

def ofName? (s : String) : Option Mode :=
  all.find? (·.name == s)

end EditorAssist.Mode
