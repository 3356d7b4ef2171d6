import EditorAssist.Fault
import EditorAssist.Lexing.Line
import EditorAssist.Position

/-! The lexed lines of a text, kept up to date as lines are replaced. Lines after a replacement are
lexed again only until one ends in the mode in which it ended before. -/
namespace EditorAssist

structure LexCache where
  entries : List LexedLine
  deriving DecidableEq, Repr

namespace LexCache

def build (lines : List Text) : LexCache :=
  ⟨lexLines .code lines⟩

def startMode (cache : LexCache) : Nat → Mode
  | 0 => .code
  | row + 1 => (cache.entries[row]?).elim .code (·.endMode)

/-- Lex `count` lines; there must be so many. -/
def lexFirst (mode : Mode) (count : Nat) (lines : List Text) : Except Fault (List LexedLine) :=
  if count ≤ lines.length then .ok (lexLines mode (lines.take count)) else .error .missingRow

/-- Bring old entries in line with their lines when the first now begins in `mode` and began in
`before`. The result tells how many had to be lexed again. -/
def settle (mode before : Mode) : List LexedLine → List Text → Except Fault (List LexedLine × Nat)
  | [], _ => .ok ([], 0)
  | old :: rest, lines =>
    if mode = before then .ok (old :: rest, 0)
    else match lines with
      | [] => .error .missingRow
      | line :: lines => do
        let fresh := lexLine mode line
        let (settled, count) ← settle fresh.endMode old.endMode rest lines
        return (fresh :: settled, count + 1)

/-- The mode in which the row after a block of cached rows begins. -/
def modeAfter (cache : LexCache) (first : Nat) : Nat → Except Fault Mode
  | 0 => .ok (cache.startMode first)
  | count + 1 =>
    match cache.entries[first + count]? with
    | some entry => .ok entry.endMode
    | none => .error .missingRow

/-- Replace `removed` rows from `first` on by `inserted` rows, where `lines` are all lines of the
text after the change. The result names the rows that were lexed. -/
def splice (cache : LexCache) (lines : List Text) (first removed inserted : Nat) :
    Except Fault (LexCache × RowRange) := do
  let mode := cache.startMode first
  let before ← cache.modeAfter first removed
  if cache.entries.length < first + removed then
    throw .missingRow
  let fresh ← lexFirst mode inserted (lines.drop first)
  let reached := (fresh.getLast?).elim mode (·.endMode)
  let (settled, count) ← settle reached before (cache.entries.drop (first + removed))
    (lines.drop (first + inserted))
  return (⟨cache.entries.take first ++ fresh ++ settled⟩, ⟨first, first + inserted + count⟩)

end EditorAssist.LexCache
