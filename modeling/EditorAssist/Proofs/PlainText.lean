import EditorAssist.Proofs.Histories

/-! Documents as plain texts. An edit of the lines is a replacement of characters in the text, and
positions are numbers of characters. -/
namespace EditorAssist

/-- The text after an edit: what stands between the two ends gives way to the new text. -/
def Edit.inText (e : Edit) (t : Text) : Text :=
  t.take (t.offset e.span.start) ++ e.text ++ t.drop (t.offset e.span.stop)

namespace Document

/-- The lines of a document are its text divided at each line feed. -/
structure Lined (d : Document) : Prop where
  split : d.lines = d.text.splitOn '\n'
  nonempty : d.lines ≠ []
  newlineFree : ∀ l ∈ d.lines, '\n' ∉ l

theorem Current.lined {d : Document} (hd : d.Current) : d.Lined := by
  refine ⟨?_, ?_, ?_⟩
  · rw [← hd.lines, Text.lines_eq_splitOn]
  · rw [← hd.lines]
    exact Text.lines_ne_nil _
  · intro l hl
    exact Text.newline_not_mem_of_mem_lines (by rwa [hd.lines])

/-- What an edit does to the text, and that its cursor is the one position as far in as the new text
reaches. -/
theorem exists_edit_inText {d : Document} (hd : d.Current) (e : Edit) :
    ∃ next c, d.edit e = .ok (next, c) ∧ next.Current ∧ next.text = e.inText d.text ∧
      ∀ q, next.clamp q = q ∧
        next.text.offset q = d.text.offset e.span.start + e.text.length ↔ q = c := by
  obtain ⟨next, hedit, hcurrent, htext⟩ := exists_edit hd e
  refine ⟨next, _, hedit, hcurrent, htext, fun q => ?_⟩
  have hcursor := clamp_eq_self_and_offset_eq_iff hcurrent.lines htext q
  rwa [List.length_append, length_textBefore] at hcursor

theorem exists_run_edits {d : Document} (hd : d.Current) (edits : List Edit) :
    ∃ last, d.run (edits.map .edit) = .ok last ∧ last.Current ∧
      last.text = edits.foldl (fun t e => e.inText t) d.text := by
  induction edits generalizing d with
  | nil => exact ⟨d, rfl, hd, rfl⟩
  | cons e rest ih =>
    obtain ⟨next, c, hedit, hcurrent, htext, -⟩ := exists_edit_inText hd e
    obtain ⟨last, hrun, hlast, hlasttext⟩ := ih hcurrent
    have hstep : d.step (.edit e) = .ok next := by
      simp [step, hedit, bind, Except.bind, pure, Except.pure]
    refine ⟨last, ?_, hlast, ?_⟩
    · simpa [run, hstep, bind, Except.bind] using hrun
    · rw [hlasttext, htext, List.foldl_cons]

/-- Along any run of edits a document is the plain text under the same replacements: after each
step its lines are that text divided at line feeds, and the cursor is the position behind the new
text. -/
theorem run_edits_refines_text (t : Text) (edits : List Edit) :
    ∃ d, (ofText t).run (edits.map .edit) = .ok d ∧ d.Lined ∧
      d.text = edits.foldl (fun t e => e.inText t) t ∧
      ∀ e : Edit, ∃ next c, d.edit e = .ok (next, c) ∧ next.Lined ∧ next.text = e.inText d.text ∧
        ∀ q, next.clamp q = q ∧
          next.text.offset q = d.text.offset e.span.start + e.text.length ↔ q = c := by
  obtain ⟨d, hrun, hd, htext⟩ := exists_run_edits (current_ofText t) edits
  rw [text_ofText] at htext
  refine ⟨d, hrun, hd.lined, htext, fun e => ?_⟩
  obtain ⟨next, c, hedit, hcurrent, hnext, hcursor⟩ := exists_edit_inText hd e
  exact ⟨next, c, hedit, hcurrent.lined, hnext, hcursor⟩

end Document
end EditorAssist
