import EditorAssist.Text.Hidden

/-! Quoted texts: a one-line, visible form of any text between double quotes. -/
namespace EditorAssist.Text

/-- The written form of one character inside quotes. Quote, backslash and the common controls have
short escapes, a hidden character is given by its code point, and all else stands for itself. -/
def escapeBy (hidden : Char → Bool) (c : Char) : Text :=
  if c = '\x00' then ['\\', '0']
  else if c = '\t' then ['\\', 't']
  else if c = '\r' then ['\\', 'r']
  else if c = '\n' then ['\\', 'n']
  else if c = '"' then ['\\', '"']
  else if c = '\\' then ['\\', '\\']
  else if hidden c then ['\\', 'u', '{'] ++ Nat.toDigits 16 c.toNat ++ ['}']
  else [c]

def quoteBy (hidden : Char → Bool) (t : Text) : Text :=
  '"' :: (t.flatMap (escapeBy hidden) ++ ['"'])

def quote (t : Text) : Text :=
  quoteBy isHidden t

end EditorAssist.Text
