import EditorAssist.Proofs.Lines
import Mathlib.Data.List.Basic

/-! Steps that can fail on a machine with 64-bit words: sums, differences, counts, indices, and
cutting a text at a byte offset. Each is here as a check, with the condition under which it passes.
What the lines of a text count is bounded by the length of the text. -/
namespace EditorAssist

theorem ok_bind {α β : Type} (a : α) (f : α → Except Fault β) : (Except.ok a >>= f) = f a := rfl

theorem boundedAdd_eq {a b : Nat} (h : a + b < wordLimit) : boundedAdd a b = .ok (a + b) :=
  if_pos h

theorem exactSub_eq {a b : Nat} (h : b ≤ a) : exactSub a b = .ok (a - b) :=
  if_pos h

section
variable {α : Type}

/-- The entry at an index, which must exist. -/
def entryChecked (entries : List α) (i : Nat) : Except Fault α :=
  match entries[i]? with
  | some a => .ok a
  | none => .error .missingRow

theorem entryChecked_of_getElem? {entries : List α} {i : Nat} {a : α} (h : entries[i]? = some a) :
    entryChecked entries i = .ok a := by
  rw [entryChecked, h]

/-- Put other entries in place of those from `start` up to, but not including, `stop`. -/
def exchangeChecked (entries : List α) (start stop : Nat) (others : List α) :
    Except Fault (List α) :=
  if start ≤ stop ∧ stop ≤ entries.length then
    .ok (entries.take start ++ others ++ entries.drop stop)
  else .error .missingRow

theorem exchangeChecked_eq {entries : List α} {start stop : Nat} (hstart : start ≤ stop)
    (hstop : stop ≤ entries.length) (others : List α) :
    exchangeChecked entries start stop others =
      .ok (entries.take start ++ others ++ entries.drop stop) :=
  if_pos ⟨hstart, hstop⟩

end

section
variable {α : Type} {above : List α} {i : Nat} (hi : above.length = i)
include hi

theorem getElem?_append_length (a : α) (below : List α) : (above ++ a :: below)[i]? = some a := by
  subst hi
  rw [List.getElem?_append_right (Nat.le_refl _), Nat.sub_self]
  rfl

theorem set_append_length (a b : α) (below : List α) :
    (above ++ a :: below).set i b = above ++ b :: below := by
  subst hi
  rw [List.set_append_right _ _ (Nat.le_refl _), Nat.sub_self]
  rfl

end

namespace Text

def lengthChecked (t : Text) : Except Fault Nat :=
  boundedAdd 0 t.length

theorem lengthChecked_eq {t : Text} (h : t.length < wordLimit) : t.lengthChecked = .ok t.length := by
  rw [lengthChecked, boundedAdd_eq, Nat.zero_add]
  rwa [Nat.zero_add]

/-- The two parts of a text around a byte offset, which must lie between two characters. -/
def divideAt : Text → Nat → Except Fault (Text × Text)
  | t, 0 => .ok ([], t)
  | [], _ + 1 => .error .boundary
  | c :: cs, offset + 1 =>
    if c.utf8Size ≤ offset + 1 then do
      let (head, tail) ← divideAt cs (offset + 1 - c.utf8Size)
      return (c :: head, tail)
    else .error .boundary

/-- The byte offset of a column, or of the end of a line that ends before it. -/
def byteOffset : Text → Nat → Nat
  | [], _ => 0
  | _ :: _, 0 => 0
  | c :: cs, column + 1 => c.utf8Size + byteOffset cs column

/-- The byte offset behind the first `n` characters. Characters that are missing count one byte, so
that the offset then lies beyond the end of the text. -/
def byteEnd : Text → Nat → Nat
  | _, 0 => 0
  | [], n + 1 => n + 1
  | c :: cs, n + 1 => c.utf8Size + byteEnd cs n

/-- The byte offset of the first character of a class, or of the end of the text. -/
def byteFind (p : Char → Bool) : Text → Nat
  | [] => 0
  | c :: cs => if p c then 0 else c.utf8Size + byteFind p cs

@[simp] theorem byteLength_nil : byteLength [] = 0 := rfl

@[simp] theorem byteLength_cons (c : Char) (cs : Text) :
    byteLength (c :: cs) = c.utf8Size + byteLength cs := rfl

theorem byteLength_append (a b : Text) : byteLength (a ++ b) = byteLength a + byteLength b := by
  induction a with
  | nil => rw [List.nil_append, byteLength_nil, Nat.zero_add]
  | cons c cs ih => rw [List.cons_append, byteLength_cons, byteLength_cons, ih, Nat.add_assoc]

theorem byteLength_pos {t : Text} (h : t ≠ []) : 0 < t.byteLength := by
  obtain ⟨c, cs, rfl⟩ := List.exists_cons_of_ne_nil h
  exact Nat.add_pos_left c.utf8Size_pos _

theorem divideAt_zero (t : Text) : t.divideAt 0 = .ok ([], t) := by
  cases t <;> rfl

/-- A text divides behind each of its first parts. -/
theorem divideAt_byteLength (a b : Text) : (a ++ b).divideAt a.byteLength = .ok (a, b) := by
  induction a with
  | nil => exact divideAt_zero b
  | cons c cs ih =>
    obtain ⟨offset, hoffset⟩ : ∃ offset, byteLength (c :: cs) = offset + 1 :=
      Nat.exists_eq_succ_of_ne_zero (Nat.ne_of_gt (byteLength_pos (List.cons_ne_nil c cs)))
    have hfits : c.utf8Size ≤ offset + 1 := by
      rw [← hoffset]
      exact Nat.le_add_right _ _
    have hrest : offset + 1 - c.utf8Size = byteLength cs := by
      rw [← hoffset, byteLength_cons, Nat.add_sub_cancel_left]
    rw [List.cons_append, hoffset, divideAt, if_pos hfits, hrest, ih]
    rfl

example : divideAt ['π'] 1 = .error .boundary := rfl

theorem byteOffset_eq (t : Text) (column : Nat) :
    t.byteOffset column = byteLength (t.take column) := by
  induction t generalizing column with
  | nil => rw [byteOffset, List.take_nil, byteLength_nil]
  | cons c cs ih =>
    cases column with
    | zero => rfl
    | succ column => rw [byteOffset, List.take_succ_cons, byteLength_cons, ih]

/-- A text divides at each column. -/
theorem divideAt_byteOffset (t : Text) (column : Nat) :
    t.divideAt (t.byteOffset column) = .ok (t.take column, t.drop column) := by
  have hparts := divideAt_byteLength (t.take column) (t.drop column)
  rwa [List.take_append_drop, ← byteOffset_eq] at hparts

theorem byteEnd_eq {t : Text} {n : Nat} (h : n ≤ t.length) :
    t.byteEnd n = byteLength (t.take n) := by
  induction t generalizing n with
  | nil =>
    obtain rfl : n = 0 := Nat.le_zero.mp h
    rfl
  | cons c cs ih =>
    cases n with
    | zero => rfl
    | succ n => rw [byteEnd, List.take_succ_cons, byteLength_cons, ih (Nat.le_of_succ_le_succ h)]

/-- A text divides behind each number of characters that it has. -/
theorem divideAt_byteEnd {t : Text} {n : Nat} (h : n ≤ t.length) :
    t.divideAt (t.byteEnd n) = .ok (t.take n, t.drop n) := by
  have hparts := divideAt_byteLength (t.take n) (t.drop n)
  rwa [List.take_append_drop, ← byteEnd_eq h] at hparts

theorem byteEnd_pos {t : Text} {n : Nat} (h : 0 < n) : 0 < t.byteEnd n := by
  cases t with
  | nil =>
    cases n with
    | zero => cases h
    | succ n => exact Nat.succ_pos n
  | cons c cs =>
    cases n with
    | zero => cases h
    | succ n => exact Nat.add_pos_left c.utf8Size_pos _

theorem byteFind_eq (p : Char → Bool) (t : Text) :
    t.byteFind (fun c => !p c) = byteLength (t.takeWhile p) := by
  induction t with
  | nil => rfl
  | cons c cs ih =>
    by_cases hc : p c = true
    · rw [byteFind, List.takeWhile_cons_of_pos hc, byteLength_cons, ih]
      simp [hc]
    · rw [byteFind, List.takeWhile_cons_of_neg hc]
      simp [hc]

theorem divideAt_byteFind (p : Char → Bool) (t : Text) :
    t.divideAt (t.byteFind fun c => !p c) = .ok (t.takeWhile p, t.dropWhile p) := by
  have hparts := divideAt_byteLength (t.takeWhile p) (t.dropWhile p)
  rwa [List.takeWhile_append_dropWhile, ← byteFind_eq] at hparts

/-- The lines of a text and the line feeds between them make up its length. -/
theorem length_flatten_lines (t : Text) :
    t.lines.flatten.length + t.lines.length = t.length + 1 := by
  induction t with
  | nil => rfl
  | cons c cs ih =>
    obtain ⟨line, rest, h⟩ := List.exists_cons_of_ne_nil (lines_ne_nil cs)
    rw [h] at ih
    by_cases hc : c = '\n'
    · simp only [lines, hc, h, if_true, List.flatten_cons, List.length_append, List.length_cons,
        List.length_nil] at ih ⊢
      omega
    · simp only [lines, hc, h, if_false, List.flatten_cons, List.length_append,
        List.length_cons] at ih ⊢
      omega

theorem length_lines_le (t : Text) : t.lines.length ≤ t.length + 1 := by
  rw [← length_flatten_lines]
  exact Nat.le_add_left _ _

theorem length_le_of_mem_lines {t line : Text} (h : line ∈ t.lines) : line.length ≤ t.length := by
  have hone := (List.sublist_flatten_of_mem h).length_le
  have hall := length_flatten_lines t
  have hpos := List.length_pos_of_mem h
  omega

theorem add_length_le_flatten {rows : List Text} {i j : Nat} {a b : Text} (ha : rows[i]? = some a)
    (hb : rows[j]? = some b) (hij : i ≠ j) : a.length + b.length ≤ rows.flatten.length := by
  induction rows generalizing i j with
  | nil => cases ha
  | cons row rest ih =>
    have hone : ∀ {k : Nat} {c : Text}, rest[k]? = some c → c.length ≤ rest.flatten.length :=
      fun hk => (List.sublist_flatten_of_mem (List.mem_of_getElem? hk)).length_le
    rw [List.flatten_cons, List.length_append]
    cases i with
    | zero =>
      cases Option.some.inj ha
      cases j with
      | zero => exact absurd rfl hij
      | succ j => exact Nat.add_le_add_left (hone hb) _
    | succ i =>
      cases j with
      | zero =>
        cases Option.some.inj hb
        rw [Nat.add_comm]
        exact Nat.add_le_add_left (hone ha) _
      | succ j =>
        have hrest := ih ha hb (fun h => hij (congrArg (· + 1) h))
        exact Nat.le_trans hrest (Nat.le_add_left _ _)

/-- Two lines of a text are together no longer than the text. -/
theorem add_length_le_of_ne {t : Text} {i j : Nat} {a b : Text} (ha : t.lines[i]? = some a)
    (hb : t.lines[j]? = some b) (hij : i ≠ j) : a.length + b.length ≤ t.length := by
  have htwo := add_length_le_flatten ha hb hij
  have hall := length_flatten_lines t
  have hpos := List.length_pos_of_mem (List.mem_of_getElem? ha)
  omega

/-- A text whose characters and lines can be counted with 64 bits. -/
def Fits (t : Text) : Prop :=
  t.length + 1 < wordLimit

section
variable {t : Text} (h : t.Fits)
include h

theorem Fits.length_lt : t.length < wordLimit :=
  Nat.lt_of_succ_lt h

theorem Fits.lines_lt : t.lines.length < wordLimit :=
  Nat.lt_of_le_of_lt t.length_lines_le h

theorem Fits.line_lt {line : Text} (hline : line ∈ t.lines) : line.length < wordLimit :=
  Nat.lt_of_le_of_lt (length_le_of_mem_lines hline) h.length_lt

end

end Text
end EditorAssist
