import EditorAssist.LexedLine.Basic
import EditorAssist.Position

/-! Brackets of a text with their depths and partners. Each shape of bracket is paired on its own: a
closing bracket pairs with the nearest opening bracket of its shape that is still unpaired. -/
namespace EditorAssist

/-- A bracket in a text. Its partner is given by its index in the table. -/
structure Bracket where
  position : Position
  glyph : Char
  depth : Nat
  partner : Option Nat
  deriving DecidableEq, Repr

namespace Bracket

inductive Shape where
  | round
  | square
  | curly
  deriving DecidableEq, Repr

/-- The shape of a bracket character, and whether it opens. -/
def shape? : Char → Option (Shape × Bool)
  | '(' => some (.round, true)
  | ')' => some (.round, false)
  | '[' => some (.square, true)
  | ']' => some (.square, false)
  | '{' => some (.curly, true)
  | '}' => some (.curly, false)
  | _ => none

def opens (b : Bracket) : Bool :=
  (shape? b.glyph).any (·.2)

def glyphsOfToken (row : Nat) (t : Token) : List (Position × Char) :=
  t.lexeme.zipIdx.filterMap fun (c, offset) =>
    if (shape? c).isSome then some (⟨row, t.start + offset⟩, c) else none

/-- The bracket characters of the bracket tokens of lines, the first of which is the given row. -/
def glyphsFrom (row : Nat) : List LexedLine → List (Position × Char)
  | [] => []
  | line :: rest =>
    (line.tokens.filter (·.kind.isBracket)).flatMap (glyphsOfToken row) ++ glyphsFrom (row + 1) rest

/-- The brackets met so far, and for each shape the indices of those still open, innermost first. -/
structure Pairing where
  entries : Array Bracket
  round : List Nat
  square : List Nat
  curly : List Nat

namespace Pairing

def empty : Pairing :=
  ⟨#[], [], [], []⟩

def waiting (s : Pairing) : Shape → List Nat
  | .round => s.round
  | .square => s.square
  | .curly => s.curly

def setWaiting (s : Pairing) (shape : Shape) (indices : List Nat) : Pairing :=
  match shape with
  | .round => { s with round := indices }
  | .square => { s with square := indices }
  | .curly => { s with curly := indices }

/-- Add the next bracket. An opening bracket waits, a closing one pairs with the innermost that
waits and takes its depth. -/
def add (s : Pairing) (found : Position × Char) : Pairing :=
  match shape? found.2 with
  | none => s
  | some (shape, true) =>
    let entry : Bracket := ⟨found.1, found.2, (s.waiting shape).length, none⟩
    { s with entries := s.entries.push entry }.setWaiting shape
      (s.entries.size :: s.waiting shape)
  | some (shape, false) =>
    match s.waiting shape with
    | [] => { s with entries := s.entries.push ⟨found.1, found.2, 0, none⟩ }
    | i :: rest =>
      let depth := (s.entries[i]?).elim 0 (·.depth)
      let paired := s.entries.modify i fun b => { b with partner := some s.entries.size }
      { s with entries := paired.push ⟨found.1, found.2, depth, some i⟩ }.setWaiting shape rest

end Bracket.Pairing

/-- The brackets of a text in the order of their positions. -/
structure BracketTable where
  entries : Array Bracket
  deriving DecidableEq, Repr

namespace BracketTable

def build (lines : List LexedLine) : BracketTable :=
  ⟨((Bracket.glyphsFrom 0 lines).foldl Bracket.Pairing.add .empty).entries⟩

/-- The table of lines that come from outside, if all columns fit 64 bits. -/
def buildChecked (lines : List LexedLine) : Except Fault BracketTable :=
  if (Bracket.glyphsFrom 0 lines).all (·.1.column < wordLimit) then .ok (build lines)
  else .error .overflow

/-- Halve the `size` entries from `base` on until one is left, keeping the upper half unless it
begins after the position. -/
def narrow (entries : Array Bracket) (p : Position) (base size : Nat) : Nat :=
  if 1 < size then
    let half := size / 2
    let after := (entries[base + half]?).any (p < ·.position)
    narrow entries p (if after then base else base + half) (size - half)
  else base
termination_by size

def get? (table : BracketTable) (p : Position) : Option Bracket :=
  (table.entries[narrow table.entries p 0 table.entries.size]?).filter (·.position == p)

/-- The position of the partner of the bracket at a position. -/
def partner? (table : BracketTable) (p : Position) : Option Position := do
  let bracket ← table.get? p
  let index ← bracket.partner
  let partner ← table.entries[index]?
  return partner.position

end EditorAssist.BracketTable
