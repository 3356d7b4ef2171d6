import EditorAssist.Proofs.Histories

/-! Cursors under edits of a row. A cursor outside the replaced columns keeps the text behind it if
the edit is before it, and the text before it otherwise. -/
namespace EditorAssist

/-- A part of a text that begins and ends on one row has no line feed. -/
theorem Text.newline_not_mem_of_row_eq {before part : Text}
    (h : (before ++ part).endPosition.row = before.endPosition.row) : '\n' ∉ part := by
  obtain ⟨above, x, hbefore⟩ := exists_lines_eq_concat before
  obtain ⟨y, below, hpart⟩ := List.exists_cons_of_ne_nil (lines_ne_nil part)
  have hrow : (before ++ part).endPosition.row = above.length + below.length := by
    unfold endPosition
    rw [lines_append hbefore hpart, List.length_append, List.length_cons]
    exact Nat.add_sub_cancel _ 1
  rw [hrow, endPosition_eq hbefore] at h
  have hbelow : below = [] := by
    apply List.eq_nil_of_length_eq_zero
    dsimp only at h
    omega
  have hown : part = y := by
    rw [← unlines_lines part, hpart, hbelow]
    rfl
  rw [hown]
  exact newline_not_mem_of_mem_lines (t := part) (by rw [hpart]; exact List.mem_cons_self)

namespace RowEdit
variable {e : RowEdit} {t before old after : Text}

/-- The position behind a text that goes on from the replaced part moves with that text. -/
theorem Parts.shift_endPosition (h : e.Parts t before old after) (hnew : '\n' ∉ e.text)
    (between : Text) :
    e.shift (before ++ (old ++ between)).endPosition =
      .ok (before ++ (e.text ++ between)).endPosition := by
  obtain ⟨above, x, hbefore, he⟩ := h.eq
  rw [he]
  exact RowEdit.shift_endPosition hbefore h.inline hnew between

/-- A position of a document and one of the document after an edit of a row belong together: from
the end of the replaced columns on, the same text follows, and before that the same text comes
before. -/
structure Tracks (e : RowEdit) (d next : Document) (p q : Position) : Prop where
  valid : next.clamp q = q
  behind : ⟨e.row, e.stop⟩ ≤ p → next.textFrom q = d.textFrom p
  before : p < ⟨e.row, e.stop⟩ → next.textBefore q = d.textBefore p

end RowEdit

namespace Document

theorem clamp_eq_self {d : Document} {p : Position} (hrow : p.row < d.lineCount)
    (hcolumn : p.column ≤ d.lineLength p.row) : d.clamp p = p := by
  have hlast : ¬ d.lines.length - 1 < p.row := by
    unfold lineCount at hrow
    omega
  unfold clamp
  rw [if_neg hlast, Nat.min_eq_left hcolumn]

/-- Columns of a row are a part of the text. -/
theorem exists_parts {d : Document} (hd : d.Current) {e : RowEdit} (hrow : e.row < d.lineCount)
    (hstart : e.start ≤ e.stop) (hstop : e.stop ≤ d.lineLength e.row) :
    ∃ old, e.Parts d.text (d.textBefore ⟨e.row, e.start⟩) old (d.textFrom ⟨e.row, e.stop⟩) := by
  have hle : (⟨e.row, e.start⟩ : Position) ≤ ⟨e.row, e.stop⟩ := by
    change ¬ (e.row < e.row ∨ e.row = e.row ∧ e.stop < e.start)
    omega
  obtain ⟨old, hold⟩ := d.textBefore_prefix hle
  have hfirst : (d.textBefore ⟨e.row, e.start⟩).endPosition = ⟨e.row, e.start⟩ := by
    rw [← clamp_eq hd.lines]
    exact clamp_eq_self hrow (Nat.le_trans hstart hstop)
  have hlast : (d.textBefore ⟨e.row, e.start⟩ ++ old).endPosition = ⟨e.row, e.stop⟩ := by
    rw [hold, ← clamp_eq hd.lines]
    exact clamp_eq_self hrow hstop
  refine ⟨old, ?_, ?_, hfirst, hlast⟩
  · rw [← List.append_assoc, hold, textBefore_append_textFrom]
  · apply Text.newline_not_mem_of_row_eq
    rw [hfirst, hlast]

section
variable {d next : Document} (hd : d.Current) (hnext : next.Current) {e : RowEdit} {old : Text}
  (hparts : e.Parts d.text (d.textBefore ⟨e.row, e.start⟩) old (d.textFrom ⟨e.row, e.stop⟩))
  (htext : next.text = d.textBefore ⟨e.row, e.start⟩ ++ (e.text ++ d.textFrom ⟨e.row, e.stop⟩))
  {p : Position} (hp : d.clamp p = p)
include hd hnext htext hp

/-- A position up to the replaced columns stays what it is. -/
theorem textBefore_of_le (hle : p ≤ ⟨e.row, e.start⟩) :
    next.clamp p = p ∧ next.textBefore p = d.textBefore p := by
  obtain ⟨between, hbetween⟩ := d.textBefore_prefix hle
  have hsplit : next.text =
      d.textBefore p ++ (between ++ (e.text ++ d.textFrom ⟨e.row, e.stop⟩)) := by
    rw [htext, ← hbetween, List.append_assoc]
  have hend : p = (d.textBefore p).endPosition := by rw [← clamp_eq hd.lines, hp]
  obtain ⟨hvalid, hoffset⟩ := (clamp_eq_self_and_offset_eq_iff hnext.lines hsplit p).mpr hend
  exact ⟨hvalid, textBefore_eq_of_offset hsplit hoffset⟩

include hparts in
/-- A position from the end of the replaced columns on moves with the text that follows it. -/
theorem exists_shift_of_ge (hnew : '\n' ∉ e.text) (hle : ⟨e.row, e.stop⟩ ≤ p) :
    ∃ q, e.shift p = .ok q ∧ next.clamp q = q ∧ next.textFrom q = d.textFrom p := by
  obtain ⟨between, hbetween⟩ := d.textBefore_prefix hle
  have hstop : d.textBefore ⟨e.row, e.stop⟩ = d.textBefore ⟨e.row, e.start⟩ ++ old := by
    have hwhole := hparts.text
    rw [← d.textBefore_append_textFrom ⟨e.row, e.stop⟩, ← List.append_assoc] at hwhole
    exact List.append_cancel_right hwhole
  rw [hstop, List.append_assoc] at hbetween
  have hafter : d.textFrom ⟨e.row, e.stop⟩ = between ++ d.textFrom p := by
    have hwhole := hparts.text
    rw [← d.textBefore_append_textFrom p, ← hbetween] at hwhole
    simpa using hwhole.symm
  have hend : p = (d.textBefore p).endPosition := by rw [← clamp_eq hd.lines, hp]
  have hshift := hparts.shift_endPosition hnew between
  rw [hbetween, ← hend] at hshift
  have hsplit : next.text =
      d.textBefore ⟨e.row, e.start⟩ ++ (e.text ++ between) ++ d.textFrom p := by
    rw [htext, hafter]
    simp only [List.append_assoc]
  obtain ⟨hvalid, hoffset⟩ := (clamp_eq_self_and_offset_eq_iff hnext.lines hsplit _).mpr rfl
  exact ⟨_, hshift, hvalid, textFrom_eq_of_offset hsplit hoffset⟩

end

/-- The shift of positions agrees with the edit of the text. The end of the replaced columns goes
where the edit leaves the cursor, and every position outside them goes where the new text has the
same text before or behind it. -/
theorem apply_tracks_shift {d : Document} (hd : d.Reachable) {e : RowEdit}
    (hrow : e.row < d.lineCount) (hstart : e.start ≤ e.stop) (hstop : e.stop ≤ d.lineLength e.row)
    (hnew : '\n' ∉ e.text) :
    ∃ next c, d.apply e = .ok (next, c) ∧ e.shift ⟨e.row, e.stop⟩ = .ok c ∧
      ∀ p, d.clamp p = p → (p.row = e.row → p.column ≤ e.start ∨ e.stop ≤ p.column) →
        ∃ q, e.shift p = .ok q ∧ e.Tracks d next p q := by
  obtain ⟨old, hparts⟩ := exists_parts hd.current hrow hstart hstop
  obtain ⟨next, happly, hnext, htext⟩ := exists_apply hd.current hparts
  have hcursor := hparts.shift_endPosition hnew []
  rw [List.append_nil, List.append_nil, hparts.stop] at hcursor
  refine ⟨next, _, happly, hcursor, ?_⟩
  intro p hp houtside
  by_cases hbefore : p < ⟨e.row, e.stop⟩
  · have hless : p.row < e.row ∨ p.row = e.row ∧ p.column < e.stop := hbefore
    have hle : p ≤ ⟨e.row, e.start⟩ := by
      change ¬ (e.row < p.row ∨ e.row = p.row ∧ e.start < p.column)
      omega
    have hstays : e.shift p = .ok p := by
      apply RowEdit.shift_eq_self
      omega
    obtain ⟨hvalid, hsame⟩ := textBefore_of_le hd.current hnext htext hp hle
    exact ⟨p, hstays, hvalid, fun hbehind => absurd hbefore hbehind, fun _ => hsame⟩
  · obtain ⟨q, hshift, hvalid, hsame⟩ :=
      exists_shift_of_ge hd.current hnext hparts htext hp hnew hbefore
    exact ⟨q, hshift, hvalid, fun _ => hsame, fun hless => absurd hless hbefore⟩

/-- Three columns of the second row give way to one character. Positions at their ends and on the
next row are kept track of. -/
theorem apply_tracks_shift_row :
    let d := Document.ofText ['a', '\n', 'b', 'é', 'c', 'd', ')', '\n', 'e']
    let e : RowEdit := ⟨1, 1, 4, ['→']⟩
    d.Reachable ∧ e.row < d.lineCount ∧ e.start ≤ e.stop ∧ e.stop ≤ d.lineLength e.row ∧
      '\n' ∉ e.text ∧
      ∃ next c, d.apply e = .ok (next, c) ∧ e.shift ⟨1, 4⟩ = .ok c ∧
        (∃ q, e.shift ⟨1, 4⟩ = .ok q ∧ e.Tracks d next ⟨1, 4⟩ q) ∧
        (∃ q, e.shift ⟨1, 1⟩ = .ok q ∧ e.Tracks d next ⟨1, 1⟩ q) ∧
        ∃ q, e.shift ⟨2, 1⟩ = .ok q ∧ e.Tracks d next ⟨2, 1⟩ q := by
  intro d e
  have hd : d.Reachable := ⟨_, [], rfl⟩
  have hrow : e.row < d.lineCount := by decide +kernel
  have hstart : e.start ≤ e.stop := by decide
  have hstop : e.stop ≤ d.lineLength e.row := by decide +kernel
  have hnew : '\n' ∉ e.text := by decide
  obtain ⟨next, c, happly, hcursor, htracks⟩ := apply_tracks_shift hd hrow hstart hstop hnew
  refine ⟨hd, hrow, hstart, hstop, hnew, next, c, happly, hcursor, ?_, ?_, ?_⟩
  · exact htracks ⟨1, 4⟩ (by decide +kernel) (by decide)
  · exact htracks ⟨1, 1⟩ (by decide +kernel) (by decide)
  · exact htracks ⟨2, 1⟩ (by decide +kernel) (by decide)

end Document
end EditorAssist
