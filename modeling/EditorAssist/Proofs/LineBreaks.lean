import EditorAssist.Proofs.Cursor

/-! Breaking a line. The editor indents the new line by the text before the cursor alone, lexed on
its own before anything is inserted. The document predicts the same indentation afterwards, from the
row that was left and the lexed lines it keeps. -/
namespace EditorAssist

namespace Document

/-- A prediction reads the row itself and the mode in which the rows above it end. -/
theorem predictIndent_of_lines {d : Document} (hd : d.Current) {above below : List Text}
    {line : Text} (hlines : d.lines = above ++ line :: below) (unit : Text) :
    d.predictIndent above.length unit =
      .ok (nextIndent line (lexLine (modeBehind .code above) line) unit) := by
  have hline : d.line? above.length = some line := by simp [line?, hlines]
  have hlexed : d.lexed? above.length = some (lexLine (modeBehind .code above) line) := by
    rw [lexed?, hd.cache, hlines]
    exact getElem?_lexLines .code above line below
  simp only [predictIndent, hline, hlexed]

end Document

namespace Editor

section
variable {e : Editor} {z : Place} (hd : e.document.Current) (hz : z.rows = e.document.lines)
include hd hz

/-- At a place the indentation is predicted from the part of the row on its left. -/
theorem newlineIndent_position :
    e.newlineIndent z.position =
      nextIndent z.left (lexLine (modeBehind .code z.above) z.left) e.unit := by
  have hbefore : ((e.document.line? z.above.length).getD []).take z.left.length = z.left := by
    simp [Document.line?, Place.getElem?_above hz]
  have hmode : e.document.startMode z.above.length = modeBehind .code z.above := by
    rw [Document.startMode, hd.cache, ← hz]
    exact LexCache.startMode_build z.above _
  simp only [newlineIndent, Place.position, hbefore, hmode]

/-- A line feed divides the row at the place, and its indentation begins the lower part. -/
theorem exists_insert_newline_of_place (hunit : ∀ c ∈ e.unit, isIndent c) {p : Position}
    (hp : e.document.clamp p = z.position) :
    ∃ next, e.insert p ['\n'] = .ok ({ e with document := next },
        ⟨z.above.length + 1, (e.newlineIndent z.position).length⟩) ∧
      next.Current ∧
      next.lines = z.above ++ z.left :: (e.newlineIndent z.position ++ z.right) :: z.below := by
  have hz' : z.rows = e.document.text.lines := hz.trans hd.lines.symm
  obtain ⟨hbefore, hfrom⟩ :
      e.document.textBefore p = z.before ∧ e.document.textFrom p = z.after := by
    have hoffset : e.document.text.offset p = z.before.length := by
      rw [← Document.offset_clamp hd.lines, hp, Place.position_eq_endPosition hz']
      exact Document.offset_endPosition (Place.text_eq hz')
    exact ⟨Document.textBefore_eq_of_offset (Place.text_eq hz') hoffset,
      Document.textFrom_eq_of_offset (Place.text_eq hz') hoffset⟩
  obtain ⟨next, hinsert, hnext, htext⟩ := exists_insert_newline hd p
  rw [hp, hbefore] at hinsert htext
  rw [hfrom] at htext
  -- the indentation stays on one line, because the unit is made of spaces and tabs
  have hindent : '\n' ∉ e.newlineIndent z.position :=
    newline_not_mem_of_isIndent fun c => isIndent_of_mem_newlineIndent hunit
  have hopened : (z.before ++ '\n' :: e.newlineIndent z.position).lines =
      (z.above ++ [z.left]) ++ [e.newlineIndent z.position] := by
    rw [Text.lines_append_eq_prependFirst (Place.lines_before hz'), Text.lines, if_pos rfl,
      Text.lines_of_newline_not_mem hindent]
    simp [prependFirst]
  refine ⟨next, ?_, hnext, ?_⟩
  · rw [hinsert, Text.endPosition_eq hopened]
    simp
  · rw [← hnext.lines, htext, Text.lines_append hopened (Place.lines_after hz')]
    simp

end

/-- A line feed leaves on its row what stood before the cursor and puts the rest on the next row,
behind the indentation that the new document predicts after the first of the two. All other lines
stay, and the cursor stands behind the indentation. -/
theorem insert_newline_as_predicted {e : Editor} (hd : e.document.Reachable)
    (hunit : e.settings.unit = .ok e.unit) (p : Position) :
    ∃ row column line next indent, e.document.clamp p = ⟨row, column⟩ ∧
      e.document.line? row = some line ∧
      e.insert p ['\n'] = .ok ({ e with document := next }, ⟨row + 1, indent.length⟩) ∧
      next.predictIndent row e.unit = .ok indent ∧
      next.lines = e.document.lines.take row ++
        line.take column :: (indent ++ line.drop column) :: e.document.lines.drop (row + 1) := by
  have hcurrent := hd.current
  obtain ⟨z, hrows, hposition, -, -⟩ := Document.exists_place hcurrent.lines p
  have hz : z.rows = e.document.lines := hrows.trans hcurrent.lines
  obtain ⟨next, hinsert, hnext, hlines⟩ := exists_insert_newline_of_place hcurrent hz
    (fun c => Settings.Indentation.isIndent_of_mem_unit hunit) hposition.symm
  refine ⟨z.above.length, z.left.length, z.left ++ z.right, next, e.newlineIndent z.position,
    hposition.symm, Place.getElem?_above hz, hinsert, ?_, ?_⟩
  · rw [newlineIndent_position hcurrent hz]
    exact Document.predictIndent_of_lines hnext hlines e.unit
  · rw [hlines, Place.take_above hz, Place.drop_below hz, List.take_left, List.drop_left]

/-- A line divided behind an opening bracket, with a tab in front and another line below. -/
theorem insert_newline_as_predicted_bracket :
    let d := Document.ofText ['\t', 'f', '(', 'a', ')', '\n', 'b']
    let e : Editor := ⟨d, {}, [' ', ' ', ' ', ' ']⟩
    d.Reachable ∧ e.settings.unit = .ok e.unit ∧
      ∃ next indent,
        e.insert ⟨0, 3⟩ ['\n'] = .ok ({ e with document := next }, ⟨1, indent.length⟩) ∧
        next.predictIndent 0 e.unit = .ok indent ∧
        next.lines = [['\t', 'f', '('], indent ++ ['a', ')'], ['b']] := by
  intro d e
  have hd : d.Reachable := ⟨_, [], rfl⟩
  have hunit : e.settings.unit = .ok e.unit := rfl
  obtain ⟨row, column, line, next, indent, hclamp, hline, hinsert, hindent, hlines⟩ :=
    insert_newline_as_predicted (e := e) hd hunit ⟨0, 3⟩
  obtain ⟨rfl, rfl⟩ := Position.mk.inj hclamp
  cases Option.some.inj hline
  exact ⟨hd, hunit, next, indent, hinsert, hindent, hlines⟩

end Editor
end EditorAssist
