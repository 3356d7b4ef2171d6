import EditorAssist.Document.Basic

/-! Dividing texts into lines, and offsets of positions. A place is a position together with what
stands around it, so that cutting a text there is an equation between lines. -/
namespace EditorAssist

theorem intercalate_cons {α : Type} (separator x : List α) (xs : List (List α)) :
    separator.intercalate (x :: xs) = x ++ xs.flatMap (separator ++ ·) := by
  induction xs generalizing x with
  | nil => simp
  | cons y ys ih => rw [List.intercalate_cons_cons, ih]; simp

namespace Text

theorem lines_eq_splitOn (t : Text) : t.lines = t.splitOn '\n' := by
  induction t with
  | nil => rfl
  | cons c cs ih =>
    rw [List.splitOn_cons_eq_if_modifyHead, ← ih]
    obtain ⟨line, rest, h⟩ := List.exists_cons_of_ne_nil (lines_ne_nil cs)
    by_cases hc : c = '\n' <;> simp [lines, hc, h]

theorem newline_not_mem_of_mem_lines {t l : Text} (h : l ∈ lines t) : '\n' ∉ l := by
  induction t generalizing l with
  | nil => simp_all [lines]
  | cons c cs ih =>
    obtain ⟨line, rest, hl⟩ := List.exists_cons_of_ne_nil (lines_ne_nil cs)
    by_cases hc : c = '\n'
    · rw [lines, if_pos hc] at h
      rcases List.mem_cons.mp h with rfl | h
      · simp
      · exact ih h
    · rw [lines, if_neg hc, hl] at h
      rcases List.mem_cons.mp h with rfl | h
      · have := ih (l := line) (by simp [hl])
        simp [Ne.symm hc, this]
      · exact ih (by simp [hl, h])

theorem lines_append_newline {x : Text} (hx : '\n' ∉ x) (t : Text) :
    lines (x ++ '\n' :: t) = x :: lines t := by
  induction x with
  | nil => simp [lines]
  | cons c cs ih =>
    rw [List.mem_cons, not_or] at hx
    simp [lines, Ne.symm hx.1, ih hx.2]

theorem lines_of_newline_not_mem {x : Text} (hx : '\n' ∉ x) : lines x = [x] := by
  induction x with
  | nil => rfl
  | cons c cs ih =>
    rw [List.mem_cons, not_or] at hx
    simp [lines, Ne.symm hx.1, ih hx.2]

/-- The lines of a text are the only lines that spell it. -/
theorem lines_unlines {rows : List Text} (hne : rows ≠ []) (h : ∀ l ∈ rows, '\n' ∉ l) :
    lines (unlines rows) = rows := by
  induction rows with
  | nil => exact absurd rfl hne
  | cons x rest ih =>
    have hx : '\n' ∉ x := h x (by simp)
    cases rest with
    | nil => exact lines_of_newline_not_mem hx
    | cons y rest =>
      rw [unlines, lines_append_newline hx, ih (by simp) fun l hl => h l (by simp [hl])]

/-- The text of lines that each end in a line feed. -/
def endedLines (rows : List Text) : Text :=
  rows.flatMap (· ++ ['\n'])

@[simp] theorem endedLines_nil : endedLines [] = [] := rfl

@[simp] theorem endedLines_cons (x : Text) (rows : List Text) :
    endedLines (x :: rows) = x ++ '\n' :: endedLines rows := by
  simp [endedLines]

theorem lines_endedLines_append {above : List Text} (h : ∀ l ∈ above, '\n' ∉ l) (t : Text) :
    lines (endedLines above ++ t) = above ++ lines t := by
  induction above with
  | nil => rfl
  | cons x above ih =>
    rw [endedLines_cons, List.append_assoc, List.cons_append, lines_append_newline (h x (by simp)),
      ih fun l hl => h l (by simp [hl])]
    rfl

theorem unlines_append_cons (above : List Text) (x : Text) (below : List Text) :
    unlines (above ++ x :: below) = endedLines above ++ unlines (x :: below) := by
  induction above with
  | nil => rfl
  | cons a above ih =>
    obtain ⟨b, rest, h⟩ := List.exists_cons_of_ne_nil (l := above ++ x :: below) (by simp)
    rw [List.cons_append, h, unlines, ← h, ih]
    simp

theorem unlines_cons_append (x y : Text) (below : List Text) :
    unlines ((x ++ y) :: below) = x ++ unlines (y :: below) := by
  cases below <;> simp [unlines]

/-- Two texts put together share a line: the last of the first and the first of the second. -/
theorem lines_append {a b : Text} {above below : List Text} {x y : Text}
    (ha : lines a = above ++ [x]) (hb : lines b = y :: below) :
    lines (a ++ b) = above ++ (x ++ y) :: below := by
  have hspell : a ++ b = unlines (above ++ (x ++ y) :: below) := by
    rw [unlines_append_cons, unlines_cons_append, ← hb, unlines_lines, ← List.append_assoc]
    congr 1
    rw [← unlines_lines a, ha, unlines_append_cons]
    rfl
  rw [hspell]
  refine lines_unlines (by simp) fun l hl => ?_
  have hleft : ∀ l ∈ above ++ [x], '\n' ∉ l := fun l hl =>
    newline_not_mem_of_mem_lines (t := a) (by rwa [ha])
  have hright : ∀ l ∈ y :: below, '\n' ∉ l := fun l hl =>
    newline_not_mem_of_mem_lines (t := b) (by rwa [hb])
  rcases List.mem_append.mp hl with hl | hl
  · exact hleft l (by simp [hl])
  rcases List.mem_cons.mp hl with rfl | hl
  · have := hleft x (by simp)
    have := hright y (by simp)
    simp_all
  · exact hright l (by simp [hl])

theorem lines_append_of_newline_not_mem {a b y : Text} {below : List Text} (ha : '\n' ∉ a)
    (hb : lines b = y :: below) : lines (a ++ b) = (a ++ y) :: below := by
  have hlines : lines a = [] ++ [a] := lines_of_newline_not_mem ha
  exact lines_append hlines hb

theorem exists_lines_eq_concat (t : Text) : ∃ above x, lines t = above ++ [x] :=
  ⟨_, _, (List.dropLast_concat_getLast (lines_ne_nil t)).symm⟩

theorem appendLast_concat (tail : Text) (above : List Text) (x : Text) :
    appendLast tail (above ++ [x]) = above ++ [x ++ tail] := by
  induction above with
  | nil => rfl
  | cons a above ih =>
    obtain ⟨b, rest, h⟩ := List.exists_cons_of_ne_nil (l := above ++ [x]) (by simp)
    rw [List.cons_append, h, appendLast, ← h, ih]
    rfl

theorem lines_append_eq_prependFirst {a : Text} {above : List Text} {x : Text}
    (ha : lines a = above ++ [x]) (b : Text) :
    lines (a ++ b) = above ++ prependFirst x (lines b) := by
  obtain ⟨y, below, hb⟩ := List.exists_cons_of_ne_nil (lines_ne_nil b)
  rw [lines_append ha hb, hb]
  rfl

theorem lines_append_eq_appendLast {b : Text} {y : Text} {below : List Text} (a : Text)
    (hb : lines b = y :: below) : lines (a ++ b) = appendLast y (lines a) ++ below := by
  obtain ⟨above, x, ha⟩ := exists_lines_eq_concat a
  rw [lines_append ha hb, ha, appendLast_concat]
  simp

end Text
end EditorAssist
