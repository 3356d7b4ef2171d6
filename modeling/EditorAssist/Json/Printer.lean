import EditorAssist.Decimal.Shortest
import EditorAssist.Json.Basic
import EditorAssist.Text.Basic

/-! Printing of JSON, one value to a line and two spaces to a level. -/
namespace EditorAssist.Json

/-- The written form of a character in a string. Only quote, backslash and controls are escaped. -/
def escape (c : Char) : Text :=
  if c = '"' then ['\\', '"']
  else if c = '\\' then ['\\', '\\']
  else if c = '\x08' then ['\\', 'b']
  else if c = '\t' then ['\\', 't']
  else if c = '\n' then ['\\', 'n']
  else if c = '\x0c' then ['\\', 'f']
  else if c = '\r' then ['\\', 'r']
  else if c.toNat < 0x20 then
    ['\\', 'u', '0', '0'] ++ List.replicate (2 - (Nat.toDigits 16 c.toNat).length) '0' ++
      Nat.toDigits 16 c.toNat
  else [c]

def quote (s : String) : Text :=
  '"' :: (s.toList.flatMap escape ++ ['"'])

def integer (n : Int) : Text :=
  if n < 0 then '-' :: Nat.toDigits 10 n.natAbs else Nat.toDigits 10 n.natAbs

def newLine (level : Nat) : Text :=
  '\n' :: List.replicate (2 * level) ' '

mutual

/-- A value whose first line is indented already. -/
def pretty (level : Nat) : Json → Text
  | null => "null".toList
  | bool b => if b then "true".toList else "false".toList
  | int n => integer n
  | float x => Decimal.render x
  | string s => quote s
  | array [] => ['[', ']']
  | array (item :: items) =>
    '[' :: newLine (level + 1) ++ pretty (level + 1) item ++ prettyItems (level + 1) items ++
      newLine level ++ [']']
  | object [] => ['{', '}']
  | object ((name, value) :: fields) =>
    '{' :: newLine (level + 1) ++ quote name ++ [':', ' '] ++ pretty (level + 1) value ++
      prettyFields (level + 1) fields ++ newLine level ++ ['}']

def prettyItems (level : Nat) : List Json → Text
  | [] => []
  | item :: items => ',' :: newLine level ++ pretty level item ++ prettyItems level items

def prettyFields (level : Nat) : List (String × Json) → Text
  | [] => []
  | (name, value) :: fields =>
    ',' :: newLine level ++ quote name ++ [':', ' '] ++ pretty level value ++
      prettyFields level fields

end

end EditorAssist.Json
