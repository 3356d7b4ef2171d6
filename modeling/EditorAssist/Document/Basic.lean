import EditorAssist.Bracket
import EditorAssist.LexCache
import EditorAssist.RowEdit

/-! Documents: the lines of a text with their tokens and brackets, all kept current under edits. -/
namespace EditorAssist

/-- A text being edited. `repaint` names the rows that the last edit lexed, and `brackets` keeps the
bracket table once it has been asked for. -/
structure Document where
  lines : List Text
  cache : LexCache
  repaint : RowRange
  brackets : Option BracketTable
  deriving DecidableEq, Repr

def prependFirst (head : Text) : List Text → List Text
  | [] => [head]
  | line :: rest => (head ++ line) :: rest

def appendLast (tail : Text) : List Text → List Text
  | [] => [tail]
  | [line] => [line ++ tail]
  | line :: next :: rest => line :: appendLast tail (next :: rest)

namespace Document

def ofText (text : Text) : Document :=
  let lines := text.lines
  ⟨lines, .build lines, ⟨0, lines.length⟩, none⟩

def empty : Document :=
  ofText []

def text (d : Document) : Text :=
  Text.unlines d.lines

def lineCount (d : Document) : Nat :=
  d.lines.length

def line? (d : Document) (row : Nat) : Option Text :=
  d.lines[row]?

def lexed? (d : Document) (row : Nat) : Option LexedLine :=
  d.cache.entries[row]?

def startMode (d : Document) (row : Nat) : Mode :=
  d.cache.startMode row

def endMode? (d : Document) (row : Nat) : Option Mode :=
  (d.lexed? row).map (·.endMode)

def lineLength (d : Document) (row : Nat) : Nat :=
  ((d.line? row).getD []).length

/-- Move a position onto the text: one below the last line to the end of the text, any other beyond
the end of its line to that end. -/
def clamp (d : Document) (p : Position) : Position :=
  let last := d.lines.length - 1
  if last < p.row then ⟨last, d.lineLength last⟩
  else ⟨p.row, min p.column (d.lineLength p.row)⟩

/-- Replace a span by a text, which may have several lines. The result also tells the position after
the new text. Only a span given end first can fail. -/
def replace (d : Document) (span : Span) (text : Text) : Except Fault (Document × Position) := do
  let start := d.clamp span.start
  let stop := d.clamp span.stop
  let head := ((d.line? start.row).getD []).take start.column
  let tail := ((d.line? stop.row).getD []).drop stop.column
  let opened := prependFirst head text.lines
  let cursor : Position := ⟨start.row + (opened.length - 1), (opened.getLast?.getD []).length⟩
  let replacement := appendLast tail opened
  let between ← exactSub stop.row start.row
  let lines := d.lines.take start.row ++ replacement ++ d.lines.drop (stop.row + 1)
  let (cache, repaint) ← d.cache.splice lines start.row (between + 1) replacement.length
  return (⟨lines, cache, repaint, none⟩, cursor)

def insert (d : Document) (p : Position) (text : Text) : Except Fault (Document × Position) :=
  d.replace (.point p) text

def remove (d : Document) (span : Span) : Except Fault (Document × Position) :=
  d.replace span []

def apply (d : Document) (e : RowEdit) : Except Fault (Document × Position) :=
  d.replace e.span e.text

def bracketTable (d : Document) : BracketTable :=
  d.brackets.getD (.build d.cache.entries)

/-- The same document with its bracket table kept for later questions. -/
def indexed (d : Document) : Document :=
  { d with brackets := some d.bracketTable }

def partner? (d : Document) (p : Position) : Option Position :=
  d.bracketTable.partner? p

end EditorAssist.Document
