import EditorAssist.Proofs.Lines
import Mathlib.Data.List.Basic

/-! Offsets of positions. A place is a position with what stands around it, so that cutting a text
there is an equation between lines. -/
namespace EditorAssist

namespace Text

/-- How many characters stand before a position, a line feed after each line counted too. A row past
the last line means the end of the text, and a column past the end of a line that end. -/
def offset (t : Text) (p : Position) : Nat :=
  match t.lines[p.row]? with
  | some line => (endedLines (t.lines.take p.row)).length + min p.column line.length
  | none => t.length

/-- The position behind the last character of a text. -/
def endPosition (t : Text) : Position :=
  ⟨t.lines.length - 1, (t.lines.getLast?.getD []).length⟩

theorem endPosition_eq {t : Text} {above : List Text} {x : Text} (h : t.lines = above ++ [x]) :
    t.endPosition = ⟨above.length, x.length⟩ := by
  simp [endPosition, h]

theorem endPosition_endedLines_append {above : List Text} (habove : ∀ l ∈ above, '\n' ∉ l)
    {x : Text} (hx : '\n' ∉ x) : (endedLines above ++ x).endPosition = ⟨above.length, x.length⟩ := by
  have hlines := lines_endedLines_append habove x
  rw [lines_of_newline_not_mem hx] at hlines
  exact endPosition_eq hlines

theorem length_eq_of_lines {t : Text} {above : List Text} {x : Text} (h : t.lines = above ++ [x]) :
    t.length = (endedLines above).length + x.length := by
  rw [← unlines_lines t, h, unlines_append_cons, List.length_append]
  rfl

/-- The end of a first part is as far in as that part is long. -/
theorem offset_endPosition (a b : Text) : (a ++ b).offset a.endPosition = a.length := by
  obtain ⟨above, x, ha⟩ := exists_lines_eq_concat a
  obtain ⟨y, below, hb⟩ := List.exists_cons_of_ne_nil (lines_ne_nil b)
  rw [endPosition_eq ha, length_eq_of_lines ha]
  simp [offset, lines_append ha hb]

/-- The rows of a list around one of them. -/
theorem take_append_cons_drop {rows : List Text} {r : Nat} {x : Text} (h : rows[r]? = some x) :
    rows.take r ++ x :: rows.drop (r + 1) = rows := by
  obtain ⟨hlt, rfl⟩ := List.getElem?_eq_some_iff.mp h
  rw [← List.drop_eq_getElem_cons hlt, List.take_append_drop]

theorem offset_le_length (t : Text) (p : Position) : t.offset p ≤ t.length := by
  unfold offset
  split
  · next line hrow =>
    have hlen := congrArg List.length (unlines_lines t)
    rw [← take_append_cons_drop hrow, unlines_append_cons, List.length_append] at hlen
    have hline := congrArg List.length (unlines_cons_append line [] (t.lines.drop (p.row + 1)))
    rw [List.append_nil, List.length_append] at hline
    omega
  · exact Nat.le_refl _

/-- A row with what stands above it takes up less than what stands above a later row. -/
theorem length_endedLines_take_lt (rows : List Text) {r s : Nat} {x : Text} (h : rows[r]? = some x)
    (hrs : r < s) :
    (endedLines (rows.take r)).length + x.length < (endedLines (rows.take s)).length := by
  have hsucc : rows.take (r + 1) = rows.take r ++ [x] := by
    rw [List.take_add_one, h]
    rfl
  obtain ⟨more, hmore⟩ := List.take_prefix_take_left (l := rows) (Nat.succ_le_of_lt hrs)
  rw [← hmore, hsucc]
  simp [endedLines]

/-- Later positions are further in. -/
theorem offset_mono (t : Text) {p q : Position} (h : p ≤ q) : t.offset p ≤ t.offset q := by
  have hle : ¬ (q.row < p.row ∨ q.row = p.row ∧ q.column < p.column) := h
  cases hq : t.lines[q.row]? with
  | none =>
    have hend : t.offset q = t.length := by simp [offset, hq]
    rw [hend]
    exact offset_le_length t p
  | some line =>
    rcases Nat.lt_trichotomy p.row q.row with hlt | heq | hgt
    · have hqlt := (List.getElem?_eq_some_iff.mp hq).1
      have hp : t.lines[p.row]? = some t.lines[p.row] :=
        List.getElem?_eq_getElem (Nat.lt_trans hlt hqlt)
      have habove := length_endedLines_take_lt t.lines hp hlt
      simp only [offset, hp, hq]
      omega
    · simp only [offset, heq, hq]
      omega
    · exact absurd (Or.inl hgt) hle

end Text

/-- A place in a text: the lines above, the two parts of its own line, and the lines below. -/
structure Place where
  above : List Text
  left : Text
  right : Text
  below : List Text

namespace Place

def rows (z : Place) : List Text :=
  z.above ++ (z.left ++ z.right) :: z.below

def position (z : Place) : Position :=
  ⟨z.above.length, z.left.length⟩

def before (z : Place) : Text :=
  Text.endedLines z.above ++ z.left

def after (z : Place) : Text :=
  Text.unlines (z.right :: z.below)

theorem before_append_after (z : Place) : z.before ++ z.after = Text.unlines z.rows := by
  rw [rows, Text.unlines_append_cons, Text.unlines_cons_append, before, after, List.append_assoc]

section
variable {z : Place} {t : Text} (h : z.rows = t.lines)
include h

theorem text_eq : t = z.before ++ z.after := by
  rw [before_append_after, h, Text.unlines_lines]

theorem newline_not_mem {l : Text} (hl : l ∈ z.above ++ z.left :: z.right :: z.below) :
    '\n' ∉ l := by
  have hrow : ∀ l ∈ z.rows, '\n' ∉ l := fun l hl =>
    Text.newline_not_mem_of_mem_lines (by rwa [← h])
  have hown := hrow (z.left ++ z.right) (by simp [rows])
  rw [List.mem_append, not_or] at hown
  simp only [List.mem_append, List.mem_cons] at hl
  rcases hl with hl | rfl | rfl | hl
  · exact hrow l (by simp [rows, hl])
  · exact hown.1
  · exact hown.2
  · exact hrow l (by simp [rows, hl])

theorem lines_before : z.before.lines = z.above ++ [z.left] := by
  have habove : ∀ l ∈ z.above, '\n' ∉ l := fun l hl => newline_not_mem h (by simp [hl])
  rw [before, Text.lines_endedLines_append habove,
    Text.lines_of_newline_not_mem (newline_not_mem h (by simp))]

theorem lines_after : z.after.lines = z.right :: z.below := by
  refine Text.lines_unlines (by simp) fun l hl => newline_not_mem h ?_
  simp only [List.mem_cons] at hl
  rcases hl with rfl | hl <;> simp [*]

theorem position_eq_endPosition : z.position = z.before.endPosition :=
  (Text.endPosition_eq (lines_before h)).symm

end

end Place

namespace Document

def textBefore (d : Document) (p : Position) : Text :=
  d.text.take (d.text.offset p)

def textFrom (d : Document) (p : Position) : Text :=
  d.text.drop (d.text.offset p)

theorem textBefore_append_textFrom (d : Document) (p : Position) :
    d.textBefore p ++ d.textFrom p = d.text :=
  List.take_append_drop _ _

@[simp] theorem length_textBefore (d : Document) (p : Position) :
    (d.textBefore p).length = d.text.offset p := by
  have := Text.offset_le_length d.text p
  rw [textBefore, List.length_take]
  omega

private theorem exists_place_length {d : Document} (hd : d.text.lines = d.lines) (p : Position) :
    ∃ z : Place, z.rows = d.text.lines ∧ z.position = d.clamp p ∧
      z.before.length = d.text.offset p := by
  cases hrow : d.lines[p.row]? with
  | none =>
    obtain ⟨above, x, h⟩ := Text.exists_lines_eq_concat d.text
    have hlines : d.lines = above ++ [x] := by rw [← hd, h]
    refine ⟨⟨above, x, [], []⟩, by simp [Place.rows, h], ?_, ?_⟩
    · have hlast : d.lines.length - 1 < p.row := by
        rw [List.getElem?_eq_none_iff] at hrow
        have : 0 < d.lines.length := by simp [hlines]
        omega
      rw [clamp, if_pos hlast]
      simp [Place.position, lineLength, line?, hlines]
    · have : d.text.offset p = d.text.length := by simp [Text.offset, hd, hrow]
      rw [this, Text.length_eq_of_lines h]
      simp [Place.before]
  | some line =>
    obtain ⟨hlt, -⟩ := List.getElem?_eq_some_iff.mp hrow
    refine ⟨⟨d.lines.take p.row, line.take p.column, line.drop p.column,
      d.lines.drop (p.row + 1)⟩, ?_, ?_, ?_⟩
    · rw [Place.rows, List.take_append_drop, Text.take_append_cons_drop hrow, hd]
    · have hlast : ¬ d.lines.length - 1 < p.row := by omega
      rw [clamp, if_neg hlast]
      simp [Place.position, lineLength, line?, hrow]
      omega
    · simp [Place.before, Text.offset, hd, hrow]

/-- Clamping a position names a place in the text, with the text before the position before it. -/
theorem exists_place {d : Document} (hd : d.text.lines = d.lines) (p : Position) :
    ∃ z : Place, z.rows = d.text.lines ∧ z.position = d.clamp p ∧
      d.textBefore p = z.before ∧ d.textFrom p = z.after := by
  obtain ⟨z, hrows, hpos, hlen⟩ := exists_place_length hd p
  refine ⟨z, hrows, hpos, ?_, ?_⟩
  · rw [textBefore, ← hlen, Place.text_eq hrows, List.take_left]
  · rw [textFrom, ← hlen, Place.text_eq hrows, List.drop_left]

/-- A position is moved onto the text to the end of what stands before it. -/
theorem clamp_eq {d : Document} (hd : d.text.lines = d.lines) (p : Position) :
    d.clamp p = (d.textBefore p).endPosition := by
  obtain ⟨z, hrows, hpos, hbefore, -⟩ := exists_place hd p
  rw [← hpos, Place.position_eq_endPosition hrows, hbefore]

/-- What stands before a position stands before every later one. -/
theorem textBefore_prefix (d : Document) {p q : Position} (h : p ≤ q) :
    d.textBefore p <+: d.textBefore q :=
  List.take_prefix_take_left (Text.offset_mono d.text h)

theorem textBefore_eq_of_offset {d : Document} {a b : Text} (h : d.text = a ++ b) {p : Position}
    (hp : d.text.offset p = a.length) : d.textBefore p = a := by
  rw [textBefore, hp, h, List.take_left]

theorem textFrom_eq_of_offset {d : Document} {a b : Text} (h : d.text = a ++ b) {p : Position}
    (hp : d.text.offset p = a.length) : d.textFrom p = b := by
  rw [textFrom, hp, h, List.drop_left]

theorem offset_endPosition {d : Document} {a b : Text} (h : d.text = a ++ b) :
    d.text.offset a.endPosition = a.length := by
  rw [h, Text.offset_endPosition]

/-- The positions of the text are told apart by how far in they are: the one behind a first part is
the only one as far in as that part is long. -/
theorem clamp_eq_self_and_offset_eq_iff {d : Document} (hd : d.text.lines = d.lines) {a b : Text}
    (h : d.text = a ++ b) (q : Position) :
    d.clamp q = q ∧ d.text.offset q = a.length ↔ q = a.endPosition := by
  constructor
  · rintro ⟨hq, hoff⟩
    rw [← hq, clamp_eq hd, textBefore_eq_of_offset h hoff]
  · rintro rfl
    have hoff := offset_endPosition h
    exact ⟨by rw [clamp_eq hd, textBefore_eq_of_offset h hoff], hoff⟩

theorem offset_clamp {d : Document} (hd : d.text.lines = d.lines) (p : Position) :
    d.text.offset (d.clamp p) = d.text.offset p := by
  rw [clamp_eq hd, offset_endPosition (textBefore_append_textFrom d p).symm, length_textBefore]

theorem clamp_row_le {d : Document} {p q : Position} (h : p.row ≤ q.row) :
    (d.clamp p).row ≤ (d.clamp q).row := by
  unfold clamp
  dsimp only
  split_ifs <;> dsimp only <;> omega

end Document
end EditorAssist
