/-! Kinds of tokens, named after the dotted scopes that editor themes style. -/
namespace EditorAssist.Token

/-- What a token is to a reader. -/
inductive Kind where
  | comment
  /-- A capitalized name: a module or namespace. -/
  | moduleName
  /-- A name that follows a dot. -/
  | member
  | string
  | number
  | keyword
  /-- A truth value. -/
  | constant
  | identifier
  | operator
  | opening
  | closing
  /-- White space, and any text that no rule claims. -/
  | plain
  deriving DecidableEq, Repr

namespace Kind

def all : List Kind :=
  [comment, moduleName, member, string, number, keyword, constant, identifier, operator, opening,
   closing, plain]

/-- The scope by which a theme styles the kind. -/
def scope : Kind → String
  | comment => "comment"
  | moduleName => "entity.other"
  | member => "support.function"
  | string => "string"
  | number => "constant.numeric"
  | keyword => "keyword"
  | constant => "constant.language"
  | identifier => "identifier"
  | operator => "keyword.operator"
  | opening => "paren.lparen"
  | closing => "paren.rparen"
  | plain => "text"

def ofScope? (s : String) : Option Kind :=
  all.find? (·.scope == s)

def isBracket : Kind → Bool
  | opening | closing => true
  | _ => false

end EditorAssist.Token.Kind
