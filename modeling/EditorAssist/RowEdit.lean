import EditorAssist.Fault
import EditorAssist.Position
import EditorAssist.Text.Basic

/-! Edits within a row. -/
namespace EditorAssist

/-- Replace the columns from `start` to `stop` of a row by a text. -/
structure RowEdit where
  row : Nat
  start : Nat
  stop : Nat
  text : Text
  deriving DecidableEq, Repr

namespace RowEdit

def span (e : RowEdit) : Span :=
  .between ⟨e.row, e.start⟩ ⟨e.row, e.stop⟩

/-- Where a cursor ends up when the edit is applied. A cursor before the end of the replaced columns
stays, and any other on the row moves with the text after them. Only an edit that ends before it
starts can fail. -/
def shift (e : RowEdit) (p : Position) : Except Fault Position :=
  if p.row ≠ e.row ∨ p.column < e.stop then
    return p
  else do
    let removed ← exactSub e.stop e.start
    let column ← exactSub (p.column + e.text.length) removed
    return ⟨p.row, column⟩

/-- Where a cursor at a 64-bit column ends up, if no column on the way exceeds 64 bits. -/
def shiftChecked (e : RowEdit) (p : Position) : Except Fault Position := do
  let moved ← e.shift p
  if p.row = e.row ∧ e.stop ≤ p.column then
    let _ ← boundedAdd p.column e.text.length
  return moved

end EditorAssist.RowEdit
