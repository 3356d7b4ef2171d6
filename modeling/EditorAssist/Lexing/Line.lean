import EditorAssist.Lexing.Piece

/-! Lexing of lines and texts. -/
namespace EditorAssist

def RuleTable.lexLine (table : RuleTable) (mode : Mode) (line : Text) : LexedLine :=
  let cut := Piece.cut table mode line
  ⟨Piece.layOut 0 (Piece.join cut.1), cut.2⟩

def lexLine (mode : Mode) (line : Text) : LexedLine :=
  RuleTable.standard.lexLine mode line

/-- Lex consecutive lines; each begins in the mode in which the one before it ended. -/
def lexLines (mode : Mode) : List Text → List LexedLine
  | [] => []
  | line :: rest =>
    let lexed := lexLine mode line
    lexed :: lexLines lexed.endMode rest

def lexText (source : Text) : List LexedLine :=
  lexLines .code source.lines

end EditorAssist
