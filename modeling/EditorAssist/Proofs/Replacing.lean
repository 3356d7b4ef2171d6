import EditorAssist.Proofs.Places
import EditorAssist.Proofs.Relexing

/-! Replacing a span of a document. Lines, lexed lines and cursor are those of the text in which the
span was replaced. -/
namespace EditorAssist

theorem appendLast_append (tail : Text) (above : List Text) {rows : List Text} (h : rows ≠ []) :
    appendLast tail (above ++ rows) = above ++ appendLast tail rows := by
  obtain ⟨rest, x, rfl⟩ := (List.eq_nil_or_concat' rows).resolve_left h
  rw [← List.append_assoc, Text.appendLast_concat, Text.appendLast_concat, List.append_assoc]

theorem length_appendLast (tail : Text) {rows : List Text} (h : rows ≠ []) :
    (appendLast tail rows).length = rows.length := by
  obtain ⟨rest, x, rfl⟩ := (List.eq_nil_or_concat' rows).resolve_left h
  simp [Text.appendLast_concat]

theorem prependFirst_ne_nil (head : Text) (rows : List Text) : prependFirst head rows ≠ [] := by
  cases rows <;> simp [prependFirst]

namespace Place
variable {z : Place} {rows : List Text} (h : z.rows = rows)
include h

theorem getElem?_above : rows[z.above.length]? = some (z.left ++ z.right) := by
  simp [← h, Place.rows]

theorem length_above_lt : z.above.length < rows.length :=
  (List.getElem?_eq_some_iff.mp (getElem?_above h)).1

theorem take_above : rows.take z.above.length = z.above := by
  simp [← h, Place.rows]

theorem take_own : rows.take (z.above.length + 1) = z.above ++ [z.left ++ z.right] := by
  rw [List.take_add_one, getElem?_above h, take_above h]
  rfl

theorem drop_below : rows.drop (z.above.length + 1) = z.below := by
  simp [← h, Place.rows]

/-- The rows that give way lie between those above one place and those below another. -/
theorem exists_between {w : Place} (hw : w.rows = rows) (hle : z.above.length ≤ w.above.length) :
    ∃ gone, rows = z.above ++ (gone ++ w.below) ∧
      w.above.length - z.above.length + 1 = gone.length ∧
      z.above ++ gone = w.above ++ [w.left ++ w.right] := by
  obtain ⟨gone, hgone⟩ := List.take_prefix_take_left (l := rows)
    (show z.above.length ≤ w.above.length + 1 by omega)
  rw [take_above h, take_own hw] at hgone
  refine ⟨gone, ?_, ?_, hgone⟩
  · rw [← List.append_assoc, hgone, ← hw, Place.rows]
    simp
  · have hlengths := congrArg List.length hgone
    simp only [List.length_append, List.length_singleton] at hlengths
    omega

end Place

namespace Place
variable {z w : Place} {t : Text} (hz : z.rows = t.lines)
include hz

theorem lines_before_append (new : Text) :
    (z.before ++ new).lines = z.above ++ prependFirst z.left new.lines :=
  Text.lines_append_eq_prependFirst (lines_before hz) new

theorem lines_before_append_after (hw : w.rows = t.lines) (new : Text) :
    (z.before ++ new ++ w.after).lines =
      z.above ++ (appendLast w.right (prependFirst z.left new.lines) ++ w.below) := by
  rw [Text.lines_append_eq_appendLast _ (lines_after hw), lines_before_append hz,
    appendLast_append w.right z.above (prependFirst_ne_nil z.left new.lines), List.append_assoc]

theorem endPosition_before_append (new : Text) :
    (z.before ++ new).endPosition =
      ⟨z.above.length + ((prependFirst z.left new.lines).length - 1),
        ((prependFirst z.left new.lines).getLast?.getD []).length⟩ := by
  have hopened := lines_before_append hz new
  obtain ⟨rest, x, hx⟩ :=
    (List.eq_nil_or_concat' _).resolve_left (prependFirst_ne_nil z.left new.lines)
  rw [hx, ← List.append_assoc] at hopened
  rw [Text.endPosition_eq hopened, hx]
  simp

end Place

namespace Document

/-- The lines, lexed lines and kept brackets of a document all belong to its text. -/
structure Current (d : Document) : Prop where
  lines : d.text.lines = d.lines
  cache : d.cache = .build d.lines
  brackets : ∀ table ∈ d.brackets, table = .build d.cache.entries

theorem current_ofText (t : Text) : (ofText t).Current := by
  refine ⟨?_, rfl, by simp [ofText]⟩
  simp [ofText, text, Text.unlines_lines]

theorem text_ofText (t : Text) : (ofText t).text = t :=
  Text.unlines_lines t

/-- The document after a replacement, when the replaced text stands between two places. -/
def replaced (z w : Place) (new : Text) : Document :=
  let rows := (z.before ++ new ++ w.after).lines
  let opened := (z.before ++ new).lines
  ⟨rows, .build rows,
    ⟨z.above.length, opened.length +
      LexCache.stale (modeBehind .code (appendLast w.right opened))
        (modeBehind .code (w.above ++ [w.left ++ w.right])) w.below⟩,
    none⟩

theorem replace_of_places {d : Document} (hd : d.Current) {span : Span} {z w : Place}
    (hz : z.rows = d.lines) (hstart : d.clamp span.start = z.position)
    (hw : w.rows = d.lines) (hstop : d.clamp span.stop = w.position)
    (hle : z.above.length ≤ w.above.length) (new : Text) :
    d.replace span new = .ok (replaced z w new, (z.before ++ new).endPosition) := by
  have hz' : z.rows = d.text.lines := by rw [hz, hd.lines]
  have hw' : w.rows = d.text.lines := by rw [hw, hd.lines]
  have hhead : ((d.line? z.above.length).getD []).take z.left.length = z.left := by
    simp [line?, Place.getElem?_above hz]
  have htail : ((d.line? w.above.length).getD []).drop w.left.length = w.right := by
    simp [line?, Place.getElem?_above hw]
  have hopened := Place.lines_before_append hz' new
  have hfilled := appendLast_append w.right z.above (prependFirst_ne_nil z.left new.lines)
  have hrows := Place.lines_before_append_after hz' hw' new
  obtain ⟨gone, hlines, hcount, hgone⟩ := Place.exists_between hz hw hle
  have hsplice := LexCache.splice_build z.above gone
    (appendLast w.right (prependFirst z.left new.lines)) w.below
  rw [← hlines, ← hd.cache, ← hcount, ← hrows, ← hfilled, ← hopened, hgone] at hsplice
  simp only [replace, hstart, hstop, Place.position, hhead, htail, Place.take_above hz,
    Place.drop_below hw, exactSub, if_pos hle, List.append_assoc, bind, Except.bind, pure,
    Except.pure]
  rw [← hrows, hsplice, replaced, hopened, hfilled, Place.endPosition_before_append hz' new]
  simp [Nat.add_assoc, length_appendLast _ (prependFirst_ne_nil z.left new.lines)]

theorem text_replaced (z w : Place) (new : Text) :
    (replaced z w new).text = z.before ++ new ++ w.after :=
  Text.unlines_lines _

theorem current_replaced (z w : Place) (new : Text) : (replaced z w new).Current := by
  refine ⟨?_, rfl, by simp [replaced]⟩
  rw [text_replaced]
  rfl

/-- Replacing a span replaces it in the text, and the cursor stands behind the new text. -/
theorem exists_replace {d : Document} (hd : d.Current) (span : Span)
    (h : span.start ≤ span.stop) (new : Text) :
    ∃ next, d.replace span new =
        .ok (next, Text.endPosition (d.textBefore span.start ++ new)) ∧
      next.Current ∧
      next.text = d.textBefore span.start ++ new ++ d.textFrom span.stop := by
  obtain ⟨z, hz, hstart, hbefore, -⟩ := exists_place hd.lines span.start
  obtain ⟨w, hw, hstop, -, hafter⟩ := exists_place hd.lines span.stop
  have hle : z.above.length ≤ w.above.length := by
    have hn : ¬ (span.stop.row < span.start.row ∨
      (span.stop.row = span.start.row ∧ span.stop.column < span.start.column)) := h
    have := clamp_row_le (d := d) (show span.start.row ≤ span.stop.row by omega)
    rwa [← hstart, ← hstop] at this
  refine ⟨replaced z w new, ?_, current_replaced z w new, ?_⟩
  · rw [hbefore]
    exact replace_of_places hd (by rw [hz, hd.lines]) hstart.symm (by rw [hw, hd.lines])
      hstop.symm hle new
  · rw [hbefore, hafter, text_replaced]

end Document
end EditorAssist
