/-! Texts as lists of characters, their lines, and character classes given by code points. -/
namespace EditorAssist

/-- A text. Columns and lengths count its characters. -/
abbrev Text := List Char

namespace Text

/-- The lines of a text, divided at each line feed. There is always at least one. -/
def lines : Text → List Text
  | [] => [[]]
  | c :: cs =>
    if c = '\n' then [] :: lines cs
    else match lines cs with
      | line :: rest => (c :: line) :: rest
      | [] => [[c]]

def unlines : List Text → Text
  | [] => []
  | [line] => line
  | line :: next :: rest => line ++ '\n' :: unlines (next :: rest)

theorem lines_ne_nil (t : Text) : lines t ≠ [] := by
  cases t with
  | nil => simp [lines]
  | cons c cs =>
    unfold lines
    split
    · simp
    · split <;> simp

/-- Dividing a text into lines loses nothing. -/
theorem unlines_lines (t : Text) : unlines (lines t) = t := by
  induction t with
  | nil => rfl
  | cons c cs ih =>
    obtain ⟨line, rest, h⟩ := List.exists_cons_of_ne_nil (lines_ne_nil cs)
    rw [h] at ih
    by_cases hc : c = '\n'
    · simp [lines, hc, h, unlines, ih]
    · cases rest with
      | nil => simpa [lines, hc, h, unlines] using ih
      | cons next rest => simpa [lines, hc, h, unlines] using ih

/-- The number of bytes of a text in UTF-8. -/
def byteLength : Text → Nat
  | [] => 0
  | c :: cs => c.utf8Size + byteLength cs

end Text

def isAscii (c : Char) : Bool :=
  c.toNat < 0x80

/-- A class of characters, as inclusive ranges of code points. -/
abbrev CodeRanges := List (Nat × Nat)

def CodeRanges.covers (ranges : CodeRanges) (c : Char) : Bool :=
  ranges.any fun (first, last) => first ≤ c.toNat && c.toNat ≤ last

/-- A class of characters, as runs of code points a fixed step apart. -/
abbrev CodeRuns := List (Nat × Nat × Nat)

def CodeRuns.covers (runs : CodeRuns) (c : Char) : Bool :=
  runs.any fun (first, last, step) =>
    first ≤ c.toNat && c.toNat ≤ last && (c.toNat - first) % step == 0

end EditorAssist
