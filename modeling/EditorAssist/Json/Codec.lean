import EditorAssist.Json.Basic
import EditorAssist.LexedLine.Basic
import EditorAssist.RowEdit

/-! The JSON forms of tokens, lexed lines, positions, spans and edits. Writing gives an object;
reading also takes a list of the fields in order. -/
namespace EditorAssist

def Text.toJson (t : Text) : Json :=
  .string (String.ofList t)

def Text.ofJson? (j : Json) : Option Text :=
  j.string?.map String.toList

def Token.Kind.toJson (kind : Token.Kind) : Json :=
  .string kind.scope

def Token.Kind.ofJson? (j : Json) : Option Token.Kind :=
  j.name?.bind ofScope?

def Mode.toJson (mode : Mode) : Json :=
  .string mode.name

def Mode.ofJson? (j : Json) : Option Mode :=
  j.name?.bind ofName?

def Position.toJson (p : Position) : Json :=
  .object [("row", .int p.row), ("column", .int p.column)]

def Position.ofJson? (j : Json) : Option Position :=
  match j.record? ["row", "column"] with
  | some [row, column] => do return ⟨← row.nat?, ← column.nat?⟩
  | _ => none

def Span.toJson (s : Span) : Json :=
  .object [("start", s.start.toJson), ("end", s.stop.toJson)]

/-- Read a span. Its ends stay in the order given. -/
def Span.ofJson? (j : Json) : Option Span :=
  match j.record? ["start", "end"] with
  | some [start, stop] => do return ⟨← Position.ofJson? start, ← Position.ofJson? stop⟩
  | _ => none

def RowEdit.toJson (e : RowEdit) : Json :=
  .object [("row", .int e.row), ("start_column", .int e.start), ("end_column", .int e.stop),
    ("new_text", e.text.toJson)]

def RowEdit.ofJson? (j : Json) : Option RowEdit :=
  match j.record? ["row", "start_column", "end_column", "new_text"] with
  | some [row, start, stop, text] => do
    return ⟨← row.nat?, ← start.nat?, ← stop.nat?, ← Text.ofJson? text⟩
  | _ => none

def Token.toJson (t : Token) : Json :=
  .object [("category", t.kind.toJson), ("lexeme", t.lexeme.toJson), ("start_column", .int t.start),
    ("end_column", .int t.stop)]

def Token.ofJson? (j : Json) : Option Token :=
  match j.record? ["category", "lexeme", "start_column", "end_column"] with
  | some [kind, lexeme, start, stop] => do
    return ⟨← Token.Kind.ofJson? kind, ← Text.ofJson? lexeme, ← start.nat?, ← stop.nat?⟩
  | _ => none

def LexedLine.toJson (line : LexedLine) : Json :=
  .object [("tokens", .array (line.tokens.map Token.toJson)), ("end_state", line.endMode.toJson)]

def LexedLine.ofJson? (j : Json) : Option LexedLine :=
  match j.record? ["tokens", "end_state"] with
  | some [tokens, mode] => do
    return ⟨← (← tokens.array?).mapM Token.ofJson?, ← Mode.ofJson? mode⟩
  | _ => none

end EditorAssist
