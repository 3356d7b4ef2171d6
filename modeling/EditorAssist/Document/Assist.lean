import EditorAssist.Document.Basic
import EditorAssist.Indentation

/-! Indentation in documents: prediction after a row, and lining up closing braces. -/
namespace EditorAssist

structure MissingRow where
  row : Nat
  lines : Nat
  deriving DecidableEq, Repr

def MissingRow.message (e : MissingRow) : String :=
  "row " ++ toString e.row ++ " out of range (file has " ++ toString e.lines ++ " lines)"

namespace Document

/-- The indentation of a line started after a row, where `unit` is one level. -/
def predictIndent (d : Document) (row : Nat) (unit : Text) : Except MissingRow Text :=
  match d.line? row, d.lexed? row with
  | some line, some lexed => .ok (nextIndent line lexed unit)
  | _, _ => .error ⟨row, d.lineCount⟩

/-- The edit that gives a row which begins with a closing brace the indentation of the row where the
brace was opened, if they differ. -/
def outdent? (d : Document) (row : Nat) : Option RowEdit := do
  let line ← d.line? row
  let current := leadingIndent line
  if (line.drop current.length).head? ≠ some '}' then none
  else
    let opening ← d.partner? ⟨row, current.length⟩
    if opening.row = row then none
    else
      let indent := leadingIndent (← d.line? opening.row)
      if indent = current then none else return ⟨row, 0, current.length, indent⟩

/-- Line up a row that begins with a closing brace. The result also gives the edit, if one was
needed. -/
def outdent (d : Document) (row : Nat) : Except Fault (Document × Option RowEdit) :=
  match d.outdent? row with
  | none => .ok (d, none)
  | some edit => do
    let (next, _) ← d.apply edit
    return (next, some edit)

def outdentRows (d : Document) : List Nat → Except Fault (Document × List RowEdit)
  | [] => .ok (d, [])
  | row :: rows => do
    let (next, edit) ← d.outdent row
    let (last, edits) ← outdentRows next rows
    return (last, edit.toList ++ edits)

def outdentAll (d : Document) : Except Fault (Document × List RowEdit) :=
  d.outdentRows (List.range d.lineCount)

end EditorAssist.Document
