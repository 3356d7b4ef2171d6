import EditorAssist.Text.Basic

/-! White space. -/
namespace EditorAssist

def blankRanges : CodeRanges :=
  [(0x9, 0xD), (0x20, 0x20), (0x85, 0x85), (0xA0, 0xA0), (0x1680, 0x1680), (0x2000, 0x200A),
   (0x2028, 0x2029), (0x202F, 0x202F), (0x205F, 0x205F), (0x3000, 0x3000)]

def isBlank (c : Char) : Bool :=
  blankRanges.covers c

/-- One of the two characters that indentation is made of. -/
def isIndent (c : Char) : Bool :=
  c == ' ' || c == '\t'

/-- The leading run of spaces and tabs of a line. -/
def leadingIndent (line : Text) : Text :=
  line.takeWhile isIndent

end EditorAssist
