/-! Faults: requests that run backwards, name a row that is not there, cut a character in two, or
leave the range of 64 bits. Rows and columns are counted without bound inside the library; a function
whose name ends in `Checked` refuses what exceeds 64 bits. -/
namespace EditorAssist

inductive Fault where
  /-- A sum does not fit 64 bits. -/
  | overflow
  /-- A difference would be negative. -/
  | underflow
  /-- A row is named that does not exist. -/
  | missingRow
  /-- A byte offset lies inside a character or beyond the end of the text. -/
  | boundary
  /-- A text would be longer than memory can address. -/
  | capacity
  deriving DecidableEq, Repr

/-- Rows, columns and widths are below this limit. -/
def wordLimit : Nat := 0x10000000000000000

/-- Half of that limit: signed numbers lie below it, and texts are shorter. -/
def halfLimit : Nat := 0x8000000000000000

def fitsSigned (n : Int) : Bool :=
  -halfLimit ≤ n && n < halfLimit

def boundedAdd (a b : Nat) : Except Fault Nat :=
  if a + b < wordLimit then .ok (a + b) else .error .overflow

def exactSub (a b : Nat) : Except Fault Nat :=
  if b ≤ a then .ok (a - b) else .error .underflow

end EditorAssist
