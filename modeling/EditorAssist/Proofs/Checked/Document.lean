import EditorAssist.Proofs.Checked.Brackets
import EditorAssist.Proofs.Checked.Cache
import EditorAssist.Proofs.Histories

/-! Documents on a machine with 64-bit words. A document that is up to date answers and is edited
without a fault, as long as the texts before and after fit 64 bits. -/
namespace EditorAssist

theorem prependFirst_eq_set {head first : Text} {rows : List Text} (h : rows[0]? = some first) :
    prependFirst head rows = rows.set 0 (head ++ first) := by
  cases rows with
  | nil => cases h
  | cons line rest =>
    cases Option.some.inj h
    rfl

/-- The lines of a text between a head and a tail, with the index of the last line and its length
before the tail. -/
def rowsBetweenChecked (head text tail : Text) : Except Fault (List Text × Nat × Nat) := do
  let first ← entryChecked text.lines 0
  let opened := text.lines.set 0 (head ++ first)
  let last ← exactSub opened.length 1
  let closing ← entryChecked opened last
  let column ← closing.lengthChecked
  return (opened.set last (closing ++ tail), last, column)

theorem rowsBetweenChecked_eq {head text : Text} (tail : Text)
    (h : ((prependFirst head text.lines).getLast?.getD []).length < wordLimit) :
    rowsBetweenChecked head text tail =
      .ok (appendLast tail (prependFirst head text.lines),
        (prependFirst head text.lines).length - 1,
        ((prependFirst head text.lines).getLast?.getD []).length) := by
  obtain ⟨first, others, hlines⟩ := List.exists_cons_of_ne_nil (Text.lines_ne_nil text)
  have hfirst : text.lines[0]? = some first := by rw [hlines, List.getElem?_cons_zero]
  obtain ⟨above, closing, hopened⟩ :=
    (List.eq_nil_or_concat' _).resolve_left (prependFirst_ne_nil head text.lines)
  have hset : text.lines.set 0 (head ++ first) = above ++ [closing] := by
    rw [← prependFirst_eq_set hfirst, hopened]
  have hlast : exactSub (above ++ [closing]).length 1 = .ok above.length := by
    rw [List.length_append, List.length_singleton, exactSub_eq (Nat.le_add_left 1 _),
      Nat.add_sub_cancel]
  have hclosing : (above ++ [closing])[above.length]? = some closing :=
    List.getElem?_concat_length
  have hfilled : (above ++ [closing]).set above.length (closing ++ tail) =
      appendLast tail (above ++ [closing]) := by
    rw [Text.appendLast_concat, set_append_length rfl]
  have hcolumn : (above ++ [closing]).getLast?.getD [] = closing := by
    rw [List.getLast?_concat, Option.getD_some]
  rw [hopened, hcolumn] at h ⊢
  simp only [rowsBetweenChecked, entryChecked_of_getElem? hfirst, hset, hlast,
    entryChecked_of_getElem? hclosing, Text.lengthChecked_eq h, hfilled, ok_bind]
  rw [List.length_append, List.length_singleton, Nat.add_sub_cancel]
  rfl

/-- The last line counts no more than with what is put behind it. -/
theorem length_getLast?_lt {tail : Text} {rows : List Text} (hne : rows ≠ [])
    (h : ∀ line ∈ appendLast tail rows, line.length < wordLimit) :
    (rows.getLast?.getD []).length < wordLimit := by
  obtain ⟨above, closing, rfl⟩ := (List.eq_nil_or_concat' rows).resolve_left hne
  have hlong := h (closing ++ tail) (by simp [Text.appendLast_concat])
  rw [List.length_append] at hlong
  rw [List.getLast?_concat, Option.getD_some]
  exact Nat.lt_of_add_right_lt hlong

def leadingIndentChecked (line : Text) : Except Fault Text := do
  let (indent, _) ← line.divideAt (line.byteFind fun c => !isIndent c)
  return indent

theorem leadingIndentChecked_eq (line : Text) :
    leadingIndentChecked line = .ok (leadingIndent line) := by
  rw [leadingIndentChecked, Text.divideAt_byteFind]
  rfl

def nextIndentChecked (line : Text) (lexed : LexedLine) (unit : Text) : Except Fault Text := do
  let indent ← leadingIndentChecked line
  return indent ++ if lexed.beginsBlock then unit else []

theorem nextIndentChecked_eq (line : Text) (lexed : LexedLine) (unit : Text) :
    nextIndentChecked line lexed unit = .ok (nextIndent line lexed unit) := by
  rw [nextIndentChecked, leadingIndentChecked_eq]
  rfl

namespace Document

def ofTextChecked (text : Text) : Except Fault Document := do
  let lines := text.lines
  let cache ← LexCache.buildChecked lines
  return ⟨lines, cache, ⟨0, lines.length⟩, none⟩

def clampChecked (d : Document) (p : Position) : Except Fault Position := do
  let last ← exactSub d.lines.length 1
  if last < p.row then
    let line ← entryChecked d.lines last
    let column ← line.lengthChecked
    return ⟨last, column⟩
  else
    let line ← entryChecked d.lines p.row
    let length ← line.lengthChecked
    return ⟨p.row, min p.column length⟩

def replaceChecked (d : Document) (span : Span) (text : Text) :
    Except Fault (Document × Position) := do
  let start ← d.clampChecked span.start
  let stop ← d.clampChecked span.stop
  let startLine ← entryChecked d.lines start.row
  let (head, _) ← startLine.divideAt (startLine.byteOffset start.column)
  let stopLine ← entryChecked d.lines stop.row
  let (_, tail) ← stopLine.divideAt (stopLine.byteOffset stop.column)
  let (replacement, last, column) ← rowsBetweenChecked head text tail
  let row ← boundedAdd start.row last
  let between ← exactSub stop.row start.row
  let removed ← boundedAdd between 1
  let bound ← boundedAdd stop.row 1
  let lines ← exchangeChecked d.lines start.row bound replacement
  let (cache, repaint) ← d.cache.spliceChecked lines start.row removed replacement.length
  return (⟨lines, cache, repaint, none⟩, ⟨row, column⟩)

def bracketTableChecked (d : Document) : Except Fault BracketTable :=
  match d.brackets with
  | some table => return table
  | none => BracketTable.tabulateChecked d.cache.entries

def partnerChecked (d : Document) (p : Position) : Except Fault (Option Position) := do
  let table ← d.bracketTableChecked
  table.partnerChecked p

def predictIndentChecked (d : Document) (row : Nat) (unit : Text) :
    Except Fault (Except MissingRow Text) :=
  match d.line? row, d.lexed? row with
  | some line, some lexed => do
    let indent ← nextIndentChecked line lexed unit
    return .ok indent
  | _, _ => return .error ⟨row, d.lineCount⟩

/-- The edit that lines up a row with the row of its opening brace, if one is needed. -/
def planOutdentChecked (d : Document) (row : Nat) : Except Fault (Option RowEdit) :=
  match d.line? row with
  | none => return none
  | some line =>
    let current := leadingIndent line
    if (line.drop current.length).head? ≠ some '}' then return none
    else do
      let column ← current.lengthChecked
      match ← d.partnerChecked ⟨row, column⟩ with
      | none => return none
      | some opening =>
        if opening.row = row then return none
        else match d.line? opening.row with
          | none => return none
          | some above =>
            let indent ← leadingIndentChecked above
            return if indent = current then none else some ⟨row, 0, column, indent⟩

def outdentChecked (d : Document) (row : Nat) : Except Fault (Document × Option RowEdit) := do
  match ← d.planOutdentChecked row with
  | none => return (d, none)
  | some edit =>
    let (next, _) ← d.replaceChecked edit.span edit.text
    return (next, some edit)

theorem ofTextChecked_eq {t : Text} (h : t.Fits) : ofTextChecked t = .ok (ofText t) := by
  rw [ofTextChecked, LexCache.buildChecked_eq fun _ => h.line_lt]
  rfl

theorem predictIndentChecked_eq (d : Document) (row : Nat) (unit : Text) :
    d.predictIndentChecked row unit = .ok (d.predictIndent row unit) := by
  unfold predictIndentChecked predictIndent
  cases d.line? row with
  | none => rfl
  | some line =>
    cases d.lexed? row with
    | none => rfl
    | some lexed =>
      simp only [nextIndentChecked_eq, ok_bind]
      rfl

theorem Current.lines_length_pos {d : Document} (hd : d.Current) : 0 < d.lines.length := by
  rw [← hd.lines, List.length_pos_iff]
  exact Text.lines_ne_nil _

section
variable {d : Document} (hd : d.Current) (h : d.text.Fits)
include hd h

theorem lines_length_lt : d.lines.length < wordLimit := by
  rw [← hd.lines]
  exact h.lines_lt

theorem line_length_lt {line : Text} (hline : line ∈ d.lines) : line.length < wordLimit := by
  rw [← hd.lines] at hline
  exact h.line_lt hline

theorem line?_length_lt (row : Nat) : ((d.line? row).getD []).length < wordLimit := by
  cases hline : d.line? row with
  | none => exact Nat.zero_lt_of_lt h
  | some line => exact line_length_lt hd h (List.mem_of_getElem? hline)

theorem entryChecked_line {row : Nat} (hrow : row < d.lines.length) :
    ∃ line, entryChecked d.lines row = .ok line ∧ (d.line? row).getD [] = line ∧
      line.length < wordLimit := by
  have hline := List.getElem?_eq_getElem hrow
  refine ⟨d.lines[row], entryChecked_of_getElem? hline, ?_, ?_⟩
  · rw [line?, hline]
    rfl
  · exact line_length_lt hd h (List.getElem_mem hrow)

theorem clampChecked_eq (p : Position) : d.clampChecked p = .ok (d.clamp p) := by
  rw [clampChecked, exactSub_eq hd.lines_length_pos, ok_bind, clamp]
  by_cases hlast : d.lines.length - 1 < p.row
  · obtain ⟨line, hentry, hline, hlength⟩ :=
      entryChecked_line hd h (Nat.sub_lt hd.lines_length_pos Nat.one_pos)
    rw [if_pos hlast, if_pos hlast, hentry, ok_bind, Text.lengthChecked_eq hlength, lineLength,
      hline]
    rfl
  · have hpos := hd.lines_length_pos
    have hrow : p.row < d.lines.length := by omega
    obtain ⟨line, hentry, hline, hlength⟩ := entryChecked_line hd h hrow
    rw [if_neg hlast, if_neg hlast, hentry, ok_bind, Text.lengthChecked_eq hlength, lineLength,
      hline]
    rfl

theorem bracketTableChecked_eq : d.bracketTableChecked = .ok d.bracketTable := by
  unfold bracketTableChecked bracketTable
  cases d.brackets with
  | some table => rfl
  | none =>
    rw [hd.cache]
    exact BracketTable.tabulateChecked_eq .code fun _ => line_length_lt hd h

theorem partnerChecked_eq (p : Position) : d.partnerChecked p = .ok (d.partner? p) := by
  rw [partnerChecked, bracketTableChecked_eq hd h, ok_bind, partner?, hd.bracketTable_eq]
  exact BracketTable.partnerChecked_build _ p

/-- Splicing the cache does not fault where rows between two places give way. -/
theorem spliceChecked_of_places {z w : Place} (hz : z.rows = d.lines) (hw : w.rows = d.lines)
    (hrow : z.above.length ≤ w.above.length) {filled : List Text}
    (hrest : ∀ line ∈ filled ++ w.below, line.length < wordLimit)
    (hafter : (z.above ++ (filled ++ w.below)).length < wordLimit) :
    d.cache.spliceChecked (z.above ++ (filled ++ w.below)) z.above.length
        (w.above.length - z.above.length + 1) filled.length =
      d.cache.splice (z.above ++ (filled ++ w.below)) z.above.length
        (w.above.length - z.above.length + 1) filled.length := by
  obtain ⟨gone, hlines, hcount, -⟩ := Place.exists_between hz hw hrow
  have hbefore : (z.above ++ (gone ++ w.below)).length < wordLimit := by
    rw [← hlines]
    exact lines_length_lt hd h
  have hsplice := LexCache.spliceChecked_build hrest hbefore hafter
  rwa [← hlines, ← hd.cache, ← hcount] at hsplice

/-- Replacing a span does not fault if the text after it fits. -/
theorem replaceChecked_eq {span : Span} (hle : span.start ≤ span.stop) {new : Text}
    {next : Document} {cursor : Position} (hreplace : d.replace span new = .ok (next, cursor))
    (hnext : next.text.Fits) : d.replaceChecked span new = .ok (next, cursor) := by
  obtain ⟨z, hz', hstart, -, -⟩ := exists_place hd.lines span.start
  obtain ⟨w, hw', hstop, -, -⟩ := exists_place hd.lines span.stop
  have hz : z.rows = d.lines := by rw [hz', hd.lines]
  have hw : w.rows = d.lines := by rw [hw', hd.lines]
  have hrow : z.above.length ≤ w.above.length := by
    have hclamp := clamp_row_le (d := d) (p := span.start) (q := span.stop) (by
      by_contra hback
      exact hle (.inl (Nat.lt_of_not_le hback)))
    rwa [← hstart, ← hstop] at hclamp
  have hstartLine := entryChecked_of_getElem? (Place.getElem?_above hz)
  have hstopLine := entryChecked_of_getElem? (Place.getElem?_above hw)
  -- the text after the replacement bounds what is counted on the way
  have hresult := replace_of_places hd hz hstart.symm hw hstop.symm hrow new
  rw [hreplace] at hresult
  cases hresult
  rw [text_replaced] at hnext
  have hrows := Place.lines_before_append_after hz' hw' new
  have hafter : (z.above ++ (appendLast w.right (prependFirst z.left new.lines) ++
      w.below)).length < wordLimit := by
    rw [← hrows]
    exact hnext.lines_lt
  have hrest : ∀ line ∈ appendLast w.right (prependFirst z.left new.lines) ++ w.below,
      line.length < wordLimit := by
    intro line hline
    refine hnext.line_lt ?_
    rw [hrows]
    exact List.mem_append_right z.above hline
  have hsplice := spliceChecked_of_places hd h hz hw hrow hrest hafter
  have hcolumn := length_getLast?_lt (prependFirst_ne_nil z.left new.lines) fun line hline =>
    hrest line (List.mem_append_left w.below hline)
  have hlastFits : z.above.length + ((prependFirst z.left new.lines).length - 1) < wordLimit := by
    simp only [List.length_append, length_appendLast _ (prependFirst_ne_nil z.left new.lines)]
      at hafter
    omega
  have hbound : w.above.length + 1 ≤ d.lines.length := Place.length_above_lt hw
  have hboundFits := Nat.lt_of_le_of_lt hbound (lines_length_lt hd h)
  have hremovedFits : w.above.length - z.above.length + 1 < wordLimit := by omega
  have hexchange := exchangeChecked_eq (Nat.le_succ_of_le hrow) hbound
    (appendLast w.right (prependFirst z.left new.lines))
  rw [Place.take_above hz, Place.drop_below hw, List.append_assoc] at hexchange
  rw [← hreplace, replaceChecked, replace, clampChecked_eq hd h, ok_bind, clampChecked_eq hd h,
    ok_bind, ← hstart, ← hstop]
  simp only [Place.position, hstartLine, hstopLine, Text.divideAt_byteOffset, List.take_left,
    List.drop_left, rowsBetweenChecked_eq w.right hcolumn, boundedAdd_eq hlastFits,
    exactSub_eq hrow, boundedAdd_eq hremovedFits, boundedAdd_eq hboundFits, hexchange, hsplice,
    ok_bind, line?, Place.getElem?_above hz, Place.getElem?_above hw, Option.getD_some,
    Place.take_above hz, Place.drop_below hw, List.append_assoc]

-- a span that runs backwards over rows does fault
example : (ofText ['a', '\n', 'b']).replaceChecked ⟨⟨1, 0⟩, ⟨0, 0⟩⟩ [] = .error .underflow := rfl

theorem replaceChecked_point_eq {p : Position} {new : Text} {next : Document} {cursor : Position}
    (hinsert : d.insert p new = .ok (next, cursor)) (hnext : next.text.Fits) :
    d.replaceChecked (.point p) new = .ok (next, cursor) :=
  replaceChecked_eq hd h (Edit.start_le_stop (.insert p new)) hinsert hnext

theorem planOutdentChecked_eq (row : Nat) : d.planOutdentChecked row = .ok (d.outdent? row) := by
  unfold planOutdentChecked outdent?
  cases hline : d.line? row with
  | none => rfl
  | some line =>
    have hmem : line ∈ d.lines := List.mem_of_getElem? hline
    have hcurrent : (leadingIndent line).length < wordLimit :=
      Nat.lt_of_le_of_lt (List.takeWhile_prefix _).length_le (line_length_lt hd h hmem)
    simp only [Option.bind_eq_bind, Option.bind_some, Text.lengthChecked_eq hcurrent,
      partnerChecked_eq hd h, ok_bind]
    by_cases hbrace : (line.drop (leadingIndent line).length).head? ≠ some '}'
    · rw [if_pos hbrace, if_pos hbrace]
      rfl
    · rw [if_neg hbrace, if_neg hbrace]
      cases d.partner? ⟨row, (leadingIndent line).length⟩ with
      | none => rfl
      | some opening =>
        by_cases hrow : opening.row = row
        · simp only [Option.bind_some, if_pos hrow]
          rfl
        · simp only [Option.bind_some, if_neg hrow]
          cases d.line? opening.row with
          | none => rfl
          | some above =>
            simp only [leadingIndentChecked_eq, ok_bind, Option.bind_some]
            rfl

/-- Lining up a row does not fault if the text after it fits. -/
theorem outdentChecked_eq {row : Nat} {next : Document} {edit : Option RowEdit}
    (houtdent : d.outdent row = .ok (next, edit)) (hnext : next.text.Fits) :
    d.outdentChecked row = .ok (next, edit) := by
  rw [outdentChecked, planOutdentChecked_eq hd h, ok_bind]
  rw [outdent] at houtdent
  cases hplan : d.outdent? row with
  | none =>
    rw [hplan] at houtdent
    exact houtdent
  | some e =>
    rw [hplan] at houtdent
    dsimp only at houtdent ⊢
    have hle : e.span.start ≤ e.span.stop := Edit.start_le_stop (.apply e)
    obtain ⟨result, hreplace, -⟩ := exists_replace hd e.span hle e.text
    rw [apply, hreplace, ok_bind] at houtdent
    cases houtdent
    rw [replaceChecked_eq hd h hle hreplace hnext]
    rfl

end

end Document
end EditorAssist
