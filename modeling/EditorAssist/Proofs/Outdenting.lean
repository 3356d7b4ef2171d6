import EditorAssist.Document.Assist
import EditorAssist.Proofs.Replacing
import Mathlib.Data.List.TakeWhile

/-! Lining up a row: the edit that is planned, and the text, lines and cursor after it. -/
namespace EditorAssist

theorem isIndent_of_mem_leadingIndent {line : Text} {c : Char} (h : c ∈ leadingIndent line) :
    isIndent c = true :=
  List.mem_takeWhile_imp h

theorem newline_not_mem_of_isIndent {t : Text} (h : ∀ c ∈ t, isIndent c) : '\n' ∉ t := by
  intro hmem
  exact absurd (h _ hmem) (by decide)

/-- A line is its leading run and what is left behind that. -/
theorem leadingIndent_append_drop (line : Text) :
    leadingIndent line ++ line.drop (leadingIndent line).length = line := by
  have hrun : leadingIndent line = line.take (leadingIndent line).length :=
    List.prefix_iff_eq_take.mp (List.takeWhile_prefix _)
  conv => lhs; lhs; rw [hrun]
  exact List.take_append_drop _ _

namespace RowEdit

theorem span_eq {e : RowEdit} (h : e.start ≤ e.stop) :
    e.span = ⟨⟨e.row, e.start⟩, ⟨e.row, e.stop⟩⟩ := by
  have hn : ¬ ((⟨e.row, e.stop⟩ : Position) < ⟨e.row, e.start⟩) := by
    change ¬ (e.row < e.row ∨ (e.row = e.row ∧ e.stop < e.start))
    omega
  rw [span, Span.between, if_neg hn]

theorem shift_eq_self {e : RowEdit} {p : Position} (h : p.row ≠ e.row ∨ p.column < e.stop) :
    e.shift p = .ok p :=
  if_pos h

theorem shift_eq_of_stop_le {e : RowEdit} {p : Position} (hrow : p.row = e.row)
    (hstart : e.start ≤ e.stop) (hstop : e.stop ≤ p.column) :
    e.shift p = .ok ⟨e.row, p.column + e.text.length - (e.stop - e.start)⟩ := by
  have hn : ¬ (p.row ≠ e.row ∨ p.column < e.stop) := by omega
  have hle : e.stop - e.start ≤ p.column + e.text.length := by omega
  rw [shift, if_neg hn]
  simp only [exactSub, if_pos hstart, if_pos hle, hrow, bind, Except.bind, pure, Except.pure]

/-- The part of a text that an edit replaces, with the text before and after it. -/
structure Parts (e : RowEdit) (t before old after : Text) : Prop where
  text : t = before ++ (old ++ after)
  inline : '\n' ∉ old
  start : before.endPosition = ⟨e.row, e.start⟩
  stop : (before ++ old).endPosition = ⟨e.row, e.stop⟩

/-- An edit replaces as many columns as its part of the text has characters. -/
theorem Parts.eq {e : RowEdit} {t before old after : Text} (h : e.Parts t before old after) :
    ∃ above x, before.lines = above ++ [x] ∧
      e = ⟨above.length, x.length, x.length + old.length, e.text⟩ := by
  obtain ⟨row, start, stop, new⟩ := e
  obtain ⟨above, x, hbefore⟩ := Text.exists_lines_eq_concat before
  have hold := Text.lines_of_newline_not_mem h.inline
  have hstart := h.start
  have hstop := h.stop
  rw [Text.endPosition_eq hbefore] at hstart
  rw [Text.endPosition_eq (Text.lines_append hbefore hold), List.length_append] at hstop
  cases hstart
  cases hstop
  exact ⟨above, x, hbefore, rfl⟩

theorem Parts.start_le_stop {e : RowEdit} {t before old after : Text}
    (h : e.Parts t before old after) : e.start ≤ e.stop := by
  obtain ⟨above, x, -, he⟩ := h.eq
  rw [he]
  exact Nat.le_add_right _ _

/-- A cursor behind the replaced part of a row keeps its place in what follows. -/
theorem shift_endPosition {a : Text} {above : List Text} {x : Text} (ha : a.lines = above ++ [x])
    {old new : Text} (hold : '\n' ∉ old) (hnew : '\n' ∉ new) (rest : Text) :
    (⟨above.length, x.length, x.length + old.length, new⟩ : RowEdit).shift
        (a ++ (old ++ rest)).endPosition = .ok (a ++ (new ++ rest)).endPosition := by
  have hput : ∀ {part : Text}, '\n' ∉ part → ∀ {y : Text} {below : List Text},
      rest.lines = y :: below →
        (a ++ (part ++ rest)).lines = above ++ (x ++ (part ++ y)) :: below := by
    intro part hpart y below hrest
    exact Text.lines_append ha
      (Text.lines_append_of_newline_not_mem hpart hrest)
  obtain ⟨y, below, hrest⟩ := List.exists_cons_of_ne_nil (Text.lines_ne_nil rest)
  rcases List.eq_nil_or_concat' below with rfl | ⟨between, last, rfl⟩
  · rw [Text.endPosition_eq (hput hold hrest), Text.endPosition_eq (hput hnew hrest)]
    rw [shift_eq_of_stop_le rfl (Nat.le_add_right _ _) (by simp)]
    simp
    omega
  · have hsplit : ∀ part : Text, above ++ (x ++ (part ++ y)) :: (between ++ [last]) =
        (above ++ (x ++ (part ++ y)) :: between) ++ [last] := by
      intro part
      simp
    rw [Text.endPosition_eq ((hput hold hrest).trans (hsplit old)),
      Text.endPosition_eq ((hput hnew hrest).trans (hsplit new))]
    rw [shift_eq_self (Or.inl _)]
    · simp
    · simp

end RowEdit

namespace Document

/-- What is known of a row for which an edit is planned: it begins with a closing brace whose
partner stands on another row, and the edit puts that row's leading run in place of its own. -/
theorem outdent?_eq_some_iff {d : Document} {row : Nat} {e : RowEdit} :
    d.outdent? row = some e ↔ ∃ line opening above,
      d.line? row = some line ∧
      (line.drop (leadingIndent line).length).head? = some '}' ∧
      d.partner? ⟨row, (leadingIndent line).length⟩ = some opening ∧
      opening.row ≠ row ∧
      d.line? opening.row = some above ∧
      leadingIndent above ≠ leadingIndent line ∧
      e = ⟨row, 0, (leadingIndent line).length, leadingIndent above⟩ := by
  simp only [outdent?, Option.bind_eq_bind, Option.bind_eq_some_iff, Option.ite_none_left_eq_some,
    not_not, Option.pure_def, Option.some.injEq]
  constructor
  · rintro ⟨line, hline, hbrace, opening, hopening, hrow, above, habove, hne, rfl⟩
    exact ⟨line, opening, above, hline, hbrace, hopening, hrow, habove, hne, rfl⟩
  · rintro ⟨line, opening, above, hline, hbrace, hopening, hrow, habove, hne, rfl⟩
    exact ⟨line, hline, hbrace, opening, hopening, hrow, above, habove, hne, rfl⟩

/-- Applying an edit replaces a part of the text, with the cursor behind what was put in. -/
theorem exists_apply {d : Document} (hd : d.Current) {e : RowEdit} {before old after : Text}
    (h : e.Parts d.text before old after) :
    ∃ next, d.apply e = .ok (next, (before ++ e.text).endPosition) ∧ next.Current ∧
      next.text = before ++ (e.text ++ after) := by
  have hle : (⟨e.row, e.start⟩ : Position) ≤ ⟨e.row, e.stop⟩ := by
    have hstop := h.start_le_stop
    change ¬ (e.row < e.row ∨ e.row = e.row ∧ e.stop < e.start)
    omega
  have hsplit : d.text = before ++ old ++ after := by rw [h.text, List.append_assoc]
  have hstart := offset_endPosition h.text
  have hstop := offset_endPosition hsplit
  rw [h.start] at hstart
  rw [h.stop] at hstop
  obtain ⟨next, hreplace, hcurrent, hnext⟩ := exists_replace hd ⟨_, _⟩ hle e.text
  rw [textBefore_eq_of_offset h.text hstart] at hreplace hnext
  rw [textFrom_eq_of_offset hsplit hstop, List.append_assoc] at hnext
  refine ⟨next, ?_, hcurrent, hnext⟩
  rw [apply, RowEdit.span_eq h.start_le_stop, hreplace]

/-- Replacing the first columns of a row replaces them in the text. -/
theorem exists_apply_leading {d : Document} (hd : d.Current) {above : List Text} {old rest : Text}
    (habove : ∀ l ∈ above, '\n' ∉ l) (hold : '\n' ∉ old)
    (htext : d.text = Text.endedLines above ++ (old ++ rest)) (new : Text) :
    ∃ next c, d.apply ⟨above.length, 0, old.length, new⟩ = .ok (next, c) ∧ next.Current ∧
      next.text = Text.endedLines above ++ (new ++ rest) := by
  have hlines := Text.lines_endedLines_append habove []
  have hparts : (⟨above.length, 0, old.length, new⟩ : RowEdit).Parts d.text
      (Text.endedLines above) old rest := by
    constructor
    case text => exact htext
    case inline => exact hold
    case start =>
      rw [List.append_nil] at hlines
      exact Text.endPosition_eq hlines
    case stop => exact Text.endPosition_endedLines_append habove hold
  obtain ⟨next, happly, hcurrent, hnext⟩ := exists_apply hd hparts
  exact ⟨next, _, happly, hcurrent, hnext⟩

/-- Where the edit that is planned for a row stands in the text. -/
theorem outdent?_place {d : Document} (hd : d.Current) {above : List Text} {s : Text}
    (habove : ∀ l ∈ above, '\n' ∉ l) (htext : d.text = Text.endedLines above ++ s) {e : RowEdit}
    (h : d.outdent? above.length = some e) :
    ∃ old new rest, (∀ c ∈ old, isIndent c) ∧ (∀ c ∈ new, isIndent c) ∧ s = old ++ '}' :: rest ∧
      e = ⟨above.length, 0, old.length, new⟩ := by
  obtain ⟨line, opening, target, hline, hbrace, -, -, -, -, rfl⟩ := outdent?_eq_some_iff.mp h
  obtain ⟨own, below, hs⟩ := List.exists_cons_of_ne_nil (Text.lines_ne_nil s)
  have hlines : d.lines = above ++ own :: below := by
    rw [← hd.lines, htext, Text.lines_endedLines_append habove, hs]
  obtain rfl : own = line := by simpa [line?, hlines] using hline
  obtain ⟨tail, htail⟩ := List.head?_eq_some_iff.mp hbrace
  have hown : own = leadingIndent own ++ ['}'] ++ tail := by
    rw [List.append_assoc, List.singleton_append, ← htail, leadingIndent_append_drop]
  have hspell := Text.unlines_lines s
  rw [hs, hown, Text.unlines_cons_append, List.append_assoc, List.singleton_append] at hspell
  exact ⟨leadingIndent own, leadingIndent target, _, fun c => isIndent_of_mem_leadingIndent,
    fun c => isIndent_of_mem_leadingIndent, hspell.symm, rfl⟩

theorem exists_endedLines {d : Document} (hd : d.Current) {row : Nat} (h : row < d.lines.length) :
    ∃ above s, above.length = row ∧ (∀ l ∈ above, '\n' ∉ l) ∧
      d.text = Text.endedLines above ++ s := by
  refine ⟨d.lines.take row, Text.unlines (d.lines[row] :: d.lines.drop (row + 1)), ?_, ?_, ?_⟩
  · rw [List.length_take]
    omega
  · intro l hl
    exact Text.newline_not_mem_of_mem_lines (by rw [hd.lines]; exact List.mem_of_mem_take hl)
  · rw [← Text.unlines_append_cons, Text.take_append_cons_drop (List.getElem?_eq_getElem h)]
    rfl

/-- The planned edit is carried out on the leading run of its row. -/
theorem exists_outdent_place {d : Document} (hd : d.Current) {above : List Text} {s : Text}
    (habove : ∀ l ∈ above, '\n' ∉ l) (htext : d.text = Text.endedLines above ++ s) {e : RowEdit}
    (h : d.outdent? above.length = some e) :
    ∃ next old new rest, d.outdent above.length = .ok (next, some e) ∧ next.Current ∧
      (∀ c ∈ old, isIndent c) ∧ (∀ c ∈ new, isIndent c) ∧ s = old ++ '}' :: rest ∧
      e = ⟨above.length, 0, old.length, new⟩ ∧
      next.text = Text.endedLines above ++ (new ++ '}' :: rest) := by
  obtain ⟨old, new, rest, hold, hnew, rfl, rfl⟩ := outdent?_place hd habove htext h
  obtain ⟨next, c, happly, hcurrent, hnext⟩ :=
    exists_apply_leading hd habove (newline_not_mem_of_isIndent hold) htext new
  refine ⟨next, old, new, rest, ?_, hcurrent, hold, hnew, rfl, rfl, hnext⟩
  simp [outdent, h, happly, bind, Except.bind, pure, Except.pure]

/-- Lining up a row never faults. -/
theorem exists_outdent {d : Document} (hd : d.Current) (row : Nat) :
    ∃ next, d.outdent row = .ok (next, d.outdent? row) ∧ next.Current := by
  cases h : d.outdent? row with
  | none => exact ⟨d, by simp [outdent, h], hd⟩
  | some e =>
    obtain ⟨line, -, -, hline, -⟩ := outdent?_eq_some_iff.mp h
    obtain ⟨hlt, -⟩ := List.getElem?_eq_some_iff.mp hline
    obtain ⟨above, s, rfl, habove, htext⟩ := exists_endedLines hd hlt
    obtain ⟨next, -, -, -, houtdent, hcurrent, -⟩ := exists_outdent_place hd habove htext h
    exact ⟨next, houtdent, hcurrent⟩

end Document
end EditorAssist
