/-! Positions and spans in a text. Rows and columns count from zero. -/
namespace EditorAssist

/-- A place between two characters of a text. -/
structure Position where
  row : Nat
  column : Nat
  deriving DecidableEq, Repr

namespace Position

/-- Positions are ordered as they are read: by row, then by column. -/
instance : LT Position :=
  ⟨fun a b => a.row < b.row ∨ (a.row = b.row ∧ a.column < b.column)⟩

instance (a b : Position) : Decidable (a < b) :=
  inferInstanceAs (Decidable (a.row < b.row ∨ (a.row = b.row ∧ a.column < b.column)))

instance : LE Position :=
  ⟨fun a b => ¬ b < a⟩

instance (a b : Position) : Decidable (a ≤ b) :=
  inferInstanceAs (Decidable (¬ b < a))

instance : Ord Position :=
  ⟨fun a b => compareOfLessAndEq a b⟩

def render (p : Position) : String :=
  toString p.row ++ ":" ++ toString p.column

end Position

/-- The stretch from one position up to another. -/
structure Span where
  start : Position
  stop : Position
  deriving DecidableEq, Repr

namespace Span

/-- The span between two positions, in whichever order they are given. -/
def between (a b : Position) : Span :=
  if b < a then ⟨b, a⟩ else ⟨a, b⟩

def point (p : Position) : Span :=
  ⟨p, p⟩

def isEmpty (s : Span) : Bool :=
  s.start == s.stop

end Span

/-- The rows from `start` up to, but not including, `stop`. -/
structure RowRange where
  start : Nat
  stop : Nat
  deriving DecidableEq, Repr

end EditorAssist
