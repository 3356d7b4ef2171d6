import EditorAssist.Text.Basic
import EditorAssist.Token.Kind

/-! Reserved words. -/
namespace EditorAssist

def keywords : List String :=
  ["let", "fn", "and", "not", "is", "as", "or", "match", "if", "then", "else", "from", "import"]

/-- The truth values of the language. -/
def constants : List String :=
  ["true", "false"]

/-- The kind of a word that is shaped like a name. -/
def wordKind (word : Text) : Token.Kind :=
  if keywords.contains (String.ofList word) then .keyword
  else if constants.contains (String.ofList word) then .constant
  else .identifier

end EditorAssist
