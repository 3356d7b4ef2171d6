import EditorAssist.Editor
import EditorAssist.Proofs.Outdenting

/-! Typing into an editor: the text and the cursor after each kind of keystroke. -/
namespace EditorAssist

/-- Two texts have the same lines but for the leading spaces and tabs of one row. -/
def SameButIndent (row : Nat) (a b : Text) : Prop :=
  a.lines.take row = b.lines.take row ∧
    (a.lines[row]?).map (·.dropWhile isIndent) = (b.lines[row]?).map (·.dropWhile isIndent) ∧
    a.lines.drop (row + 1) = b.lines.drop (row + 1)

theorem sameButIndent_of_leading {above : List Text} (habove : ∀ l ∈ above, '\n' ∉ l)
    {old new : Text} (hold : ∀ c ∈ old, isIndent c) (hnew : ∀ c ∈ new, isIndent c) (rest : Text) :
    SameButIndent above.length (Text.endedLines above ++ (old ++ rest))
      (Text.endedLines above ++ (new ++ rest)) := by
  obtain ⟨y, below, hrest⟩ := List.exists_cons_of_ne_nil (Text.lines_ne_nil rest)
  have hput : ∀ {part : Text}, (∀ c ∈ part, isIndent c) →
      (Text.endedLines above ++ (part ++ rest)).lines = above ++ (part ++ y) :: below := by
    intro part hpart
    rw [Text.lines_endedLines_append habove,
      Text.lines_append_of_newline_not_mem (newline_not_mem_of_isIndent hpart) hrest]
  refine ⟨?_, ?_, ?_⟩
  · simp [hput hold, hput hnew]
  · simp [hput hold, hput hnew, List.dropWhile_append_of_pos hold,
      List.dropWhile_append_of_pos hnew]
  · simp [hput hold, hput hnew]

theorem mem_of_asksOutdent {line input : Text} (h : asksOutdent line input) : '}' ∈ input := by
  simp only [asksOutdent, Bool.and_eq_true, beq_iff_eq] at h
  exact (List.dropWhile_suffix _).subset (List.mem_of_head? h.2)

/-- When a brace stands before the cursor, lining up the row leaves all behind the cursor alone and
moves the cursor with what stands before it. -/
theorem Document.exists_outdent_shift {d : Document} (hd : d.Current) {above : List Text}
    {x after : Text} (habove : ∀ l ∈ above, '\n' ∉ l)
    (htext : d.text = Text.endedLines above ++ (x ++ after)) (hbrace : '}' ∈ x) {edit : RowEdit}
    (h : d.outdent? above.length = some edit) :
    ∃ next old new rest, d.outdent above.length = .ok (next, some edit) ∧ next.Current ∧
      (∀ c ∈ old, isIndent c) ∧ (∀ c ∈ new, isIndent c) ∧ x = old ++ rest ∧
      edit.shift (Text.endPosition (Text.endedLines above ++ x)) =
        .ok (Text.endPosition (Text.endedLines above ++ (new ++ rest))) ∧
      next.text = Text.endedLines above ++ (new ++ rest) ++ after := by
  obtain ⟨next, old, new, tail, houtdent, hcurrent, hold, hnew, hspell, rfl, hnext⟩ :=
    exists_outdent_place hd habove htext h
  -- the leading run ends before the brace that stands before the cursor
  obtain ⟨rest, rfl, htail⟩ : ∃ rest, x = old ++ rest ∧ '}' :: tail = rest ++ after := by
    rcases List.append_eq_append_iff.mp hspell.symm with h | ⟨more, hmore, -⟩
    · exact h
    · have hmem : '}' ∈ old := by
        rw [hmore]
        exact List.mem_append_left _ hbrace
      exact absurd (hold _ hmem) (by decide)
  have hlines := Text.lines_endedLines_append habove []
  rw [List.append_nil] at hlines
  have hshift := RowEdit.shift_endPosition hlines (newline_not_mem_of_isIndent hold)
    (newline_not_mem_of_isIndent hnew) rest
  rw [List.length_nil, Nat.zero_add] at hshift
  refine ⟨next, old, new, rest, houtdent, hcurrent, hold, hnew, rfl, hshift, ?_⟩
  rw [hnext, htail]
  simp

namespace Editor

/-- The indentation that a line feed brings at a position. -/
def newlineIndent (e : Editor) (p : Position) : Text :=
  let before := ((e.document.line? p.row).getD []).take p.column
  nextIndent before (lexLine (e.document.startMode p.row) before) e.unit

theorem isIndent_of_mem_newlineIndent {e : Editor} (hunit : ∀ c ∈ e.unit, isIndent c) {p : Position}
    {c : Char} (h : c ∈ e.newlineIndent p) : isIndent c := by
  rcases List.mem_append.mp h with h | h
  · exact isIndent_of_mem_leadingIndent h
  · split at h
    · exact hunit c h
    · exact absurd h List.not_mem_nil

section
variable {e : Editor} (hd : e.document.Current)
include hd

/-- A plain insertion puts the text in at the position. -/
theorem exists_document_insert (p : Position) (t : Text) :
    ∃ next, e.document.insert (e.document.clamp p) t =
        .ok (next, Text.endPosition (e.document.textBefore p ++ t)) ∧
      next.Current ∧
      next.text = e.document.textBefore p ++ t ++ e.document.textFrom p := by
  have hle : e.document.clamp p ≤ e.document.clamp p := by
    intro h
    rcases h with h | h <;> omega
  have h := Document.exists_replace hd (.point (e.document.clamp p)) hle t
  simp only [Span.point, Document.textBefore, Document.textFrom,
    Document.offset_clamp hd.lines] at h
  exact h

/-- A line feed brings its indentation with it. -/
theorem exists_insert_newline (p : Position) :
    ∃ next, e.insert p ['\n'] = .ok ({ e with document := next }, Text.endPosition
        (e.document.textBefore p ++ '\n' :: e.newlineIndent (e.document.clamp p))) ∧
      next.Current ∧
      next.text = e.document.textBefore p ++ '\n' :: e.newlineIndent (e.document.clamp p) ++
        e.document.textFrom p := by
  obtain ⟨next, hinsert, hcurrent, htext⟩ :=
    exists_document_insert hd p ('\n' :: e.newlineIndent (e.document.clamp p))
  refine ⟨next, ?_, hcurrent, htext⟩
  have hbreak : e.breakLine (e.document.clamp p) =
      (e.document.insert (e.document.clamp p) ('\n' :: e.newlineIndent (e.document.clamp p))).map
        fun result => (({ e with document := result.1 } : Editor), result.2) := rfl
  rw [insert, if_pos rfl, hbreak, hinsert]
  rfl

/-- Any other text goes in as it is, save that the row may be given another leading run. The cursor
stands behind the typed text either way. -/
theorem exists_insert_text (p : Position) {t : Text} (ht : t ≠ ['\n']) :
    ∃ next above old new rest,
      e.insert p t = .ok ({ e with document := next },
        Text.endPosition (Text.endedLines above ++ (new ++ rest))) ∧
      next.Current ∧ above.length = (e.document.clamp p).row ∧ (∀ l ∈ above, '\n' ∉ l) ∧
      (∀ c ∈ old, isIndent c) ∧ (∀ c ∈ new, isIndent c) ∧
      e.document.textBefore p ++ t = Text.endedLines above ++ (old ++ rest) ∧
      next.text = Text.endedLines above ++ (new ++ rest) ++ e.document.textFrom p := by
  obtain ⟨z, hz, hpos, hbefore, -⟩ := Document.exists_place hd.lines p
  have hrow : (e.document.clamp p).row = z.above.length := by rw [← hpos]; rfl
  have habove : ∀ l ∈ z.above, '\n' ∉ l := fun l hl => Place.newline_not_mem hz (by simp [hl])
  obtain ⟨typed, hinsert, hcurrent, htext⟩ := exists_document_insert hd p t
  have hplain : z.before ++ t = Text.endedLines z.above ++ ([] ++ (z.left ++ t)) := by
    rw [Place.before, List.append_assoc]
    rfl
  rw [hbefore] at hinsert htext ⊢
  simp only [insert, if_neg ht, hinsert, bind, Except.bind, pure, Except.pure]
  split
  · next hasks =>
    cases hedit : typed.outdent? z.above.length with
    | none =>
      have houtdent : typed.outdent z.above.length = .ok (typed, none) := by
        simp [Document.outdent, hedit]
      refine ⟨typed, z.above, [], [], z.left ++ t, ?_, hcurrent, hrow.symm, habove, by simp,
        by simp, hplain, by rw [htext, hplain]⟩
      rw [hrow, houtdent, hplain]
    | some edit =>
      have hwhole : typed.text =
          Text.endedLines z.above ++ (z.left ++ t ++ e.document.textFrom p) := by
        rw [htext, hplain]
        simp
      have hbrace : '}' ∈ z.left ++ t :=
        List.mem_append_right _ (mem_of_asksOutdent (Bool.and_eq_true_iff.mp hasks).2)
      obtain ⟨next, old, new, rest, houtdent, hnext, hold, hnew, hspell, hshift, hnexttext⟩ :=
        Document.exists_outdent_shift hcurrent habove hwhole hbrace hedit
      have hcursor : z.before ++ t = Text.endedLines z.above ++ (z.left ++ t) := hplain
      refine ⟨next, z.above, old, new, rest, ?_, hnext, hrow.symm, habove, hold, hnew, ?_,
        hnexttext⟩
      · rw [hrow, houtdent, hcursor]
        simp only [hshift]
      · rw [hcursor, hspell]
  · exact ⟨typed, z.above, [], [], z.left ++ t, by rw [hplain], hcurrent, hrow.symm, habove,
      by simp, by simp, hplain, by rw [htext, hplain]⟩

end

end Editor
end EditorAssist
