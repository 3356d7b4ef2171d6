import EditorAssist.Document.Assist
import EditorAssist.Settings.Basic

/-! Editors: documents into which text is typed, with the indentation assists at work. -/
namespace EditorAssist

/-- A document being typed into. `unit` is one level of indentation. -/
structure Editor where
  document : Document
  settings : Settings.Indentation
  unit : Text
  deriving DecidableEq, Repr

namespace Editor

def start (document : Document) (settings : Settings.Indentation) : Except Fault Editor := do
  let unit ← settings.unit
  return ⟨document, settings, unit⟩

/-- Break the line at a position of the text and indent what follows, as predicted from the text
before the position. -/
def breakLine (e : Editor) (p : Position) : Except Fault (Editor × Position) := do
  let before := ((e.document.line? p.row).getD []).take p.column
  let lexed := lexLine (e.document.startMode p.row) before
  let indent := nextIndent before lexed e.unit
  let (document, cursor) ← e.document.insert p ('\n' :: indent)
  return ({ e with document }, cursor)

/-- Type a text at a position; the result also tells where the cursor belongs. A line feed brings
its indentation with it, and a closing brace on a blank line is lined up with its opening brace. -/
def insert (e : Editor) (p : Position) (text : Text) : Except Fault (Editor × Position) := do
  let p := e.document.clamp p
  if text = ['\n'] then
    e.breakLine p
  else
    let line := (e.document.line? p.row).getD []
    let (document, cursor) ← e.document.insert p text
    if e.settings.autoOutdent && asksOutdent line text then
      let (document, edit) ← document.outdent p.row
      match edit with
      | some edit => return ({ e with document }, ← edit.shift cursor)
      | none => return ({ e with document }, cursor)
    else
      return ({ e with document }, cursor)

/-- Type a text character by character. The result lists the cursor after each. -/
def type (e : Editor) (p : Position) : Text → Except Fault (Editor × List Position)
  | [] => .ok (e, [])
  | c :: cs => do
    let (next, cursor) ← e.insert p [c]
    let (last, cursors) ← next.type cursor cs
    return (last, cursor :: cursors)

end EditorAssist.Editor
