import EditorAssist.Proofs.Checked.Document

/-! Histories on a machine with 64-bit words. As long as every text on the way stays below half of
what 64 bits count, no step of a history faults, and neither does any question to the document that
it leads to. -/
namespace EditorAssist

theorem Text.exists_line_endPosition (a b : Text) :
    ∃ line, (a ++ b).lines[a.endPosition.row]? = some line ∧
      a.endPosition.column ≤ line.length := by
  obtain ⟨above, x, ha⟩ := exists_lines_eq_concat a
  obtain ⟨y, below, hb⟩ := List.exists_cons_of_ne_nil (lines_ne_nil b)
  refine ⟨x ++ y, ?_, ?_⟩
  · rw [lines_append ha hb, endPosition_eq ha]
    exact getElem?_append_length rfl _ _
  · rw [endPosition_eq ha, List.length_append]
    exact Nat.le_add_right _ _

theorem RowEdit.shiftChecked_eq {e : RowEdit} {p q : Position} (h : e.shift p = .ok q)
    (hfits : p.row = e.row → p.column + e.text.length < wordLimit) : e.shiftChecked p = .ok q := by
  rw [shiftChecked, h, ok_bind]
  split_ifs with hrow
  · rw [boundedAdd_eq (hfits hrow.1)]
    rfl
  · rfl

/-- Another row's indentation put before a place of a row fits where both rows do. -/
theorem Document.column_add_length_lt {d : Document} (hd : d.Current) (h : d.text.Fits) {row : Nat}
    {edit : RowEdit} (hplan : d.outdent? row = some edit) {a b : Text} (htext : d.text = a ++ b)
    (hrow : a.endPosition.row = edit.row) :
    a.endPosition.column + edit.text.length < wordLimit := by
  obtain ⟨line, opening, above, -, -, -, hother, habove, -, rfl⟩ := outdent?_eq_some_iff.mp hplan
  obtain ⟨own, hown, hcolumn⟩ := Text.exists_line_endPosition a b
  rw [← htext] at hown
  rw [line?, ← hd.lines] at habove
  have hne : a.endPosition.row ≠ opening.row := by
    rw [hrow]
    exact Ne.symm hother
  have hboth := Text.add_length_le_of_ne hown habove hne
  have hindent : (leadingIndent above).length ≤ above.length :=
    (List.takeWhile_prefix _).length_le
  have hlength := h.length_lt
  dsimp only
  omega

namespace Editor

def breakLineChecked (e : Editor) (p : Position) : Except Fault (Editor × Position) := do
  let line := (e.document.line? p.row).getD []
  let (before, _) ← line.divideAt (line.byteOffset p.column)
  let lexed ← lexLineChecked (e.document.startMode p.row) before
  let indent ← nextIndentChecked before lexed e.unit
  let (document, cursor) ← e.document.replaceChecked (.point p) ('\n' :: indent)
  return ({ e with document }, cursor)

def insertChecked (e : Editor) (p : Position) (text : Text) : Except Fault (Editor × Position) := do
  let p ← e.document.clampChecked p
  if text = ['\n'] then
    e.breakLineChecked p
  else
    let line := (e.document.line? p.row).getD []
    let (document, cursor) ← e.document.replaceChecked (.point p) text
    if e.settings.autoOutdent && asksOutdent line text then
      let (document, edit) ← document.outdentChecked p.row
      match edit with
      | some edit => return ({ e with document }, ← edit.shiftChecked cursor)
      | none => return ({ e with document }, cursor)
    else
      return ({ e with document }, cursor)

section
variable {e : Editor} (hd : e.document.Current) (h : e.document.text.Fits)
include hd h

theorem breakLineChecked_eq {p : Position} {next : Editor} {cursor : Position}
    (hbreak : e.breakLine (e.document.clamp p) = .ok (next, cursor))
    (hnext : next.document.text.Fits) :
    e.breakLineChecked (e.document.clamp p) = .ok (next, cursor) := by
  obtain ⟨document, hinsert, -⟩ :=
    exists_document_insert hd p ('\n' :: e.newlineIndent (e.document.clamp p))
  have hbroken : e.breakLine (e.document.clamp p) =
      .ok ({ e with document },
        (e.document.textBefore p ++ '\n' :: e.newlineIndent (e.document.clamp p)).endPosition) := by
    change (e.document.insert (e.document.clamp p)
      ('\n' :: e.newlineIndent (e.document.clamp p)) >>= fun result =>
        pure (({ e with document := result.1 } : Editor), result.2)) = _
    rw [hinsert]
    rfl
  rw [hbreak] at hbroken
  cases hbroken
  have hbefore : (((e.document.line? (e.document.clamp p).row).getD []).take
      (e.document.clamp p).column).length < wordLimit :=
    Nat.lt_of_le_of_lt (List.take_prefix _ _).length_le (Document.line?_length_lt hd h _)
  have hreplace := Document.replaceChecked_point_eq hd h hinsert hnext
  simp only [breakLineChecked, Text.divideAt_byteOffset, lexLineChecked_eq _ hbefore,
    nextIndentChecked_eq, ok_bind]
  change (e.document.replaceChecked _ ('\n' :: e.newlineIndent (e.document.clamp p)) >>= _) = _
  rw [hreplace]
  rfl

/-- Typing does not fault if the text after it fits, and the text between typing and lining up. -/
theorem insertChecked_eq {p : Position} {text : Text} {next : Editor} {cursor : Position}
    (hinsert : e.insert p text = .ok (next, cursor)) (hnext : next.document.text.Fits)
    (htyped : e.document.text.length + text.length + 1 < wordLimit) :
    e.insertChecked p text = .ok (next, cursor) := by
  rw [insertChecked, Document.clampChecked_eq hd h, ok_bind]
  rw [insert] at hinsert
  dsimp only at hinsert
  by_cases hnewline : text = ['\n']
  · rw [if_pos hnewline] at hinsert ⊢
    exact breakLineChecked_eq hd h hinsert hnext
  · rw [if_neg hnewline] at hinsert ⊢
    obtain ⟨typed, hdocument, hcurrent, htext⟩ := exists_document_insert hd p text
    have hfits : typed.text.Fits := by
      have hwhole := congrArg List.length (Document.textBefore_append_textFrom e.document p)
      rw [List.length_append] at hwhole
      rw [Text.Fits, htext, List.length_append, List.length_append]
      omega
    rw [hdocument, ok_bind] at hinsert
    rw [Document.replaceChecked_point_eq hd h hdocument hfits, ok_bind]
    dsimp only at hinsert ⊢
    split_ifs at hinsert ⊢ with hasks
    · obtain ⟨final, houtdent, hfinal⟩ :=
        Document.exists_outdent hcurrent (e.document.clamp p).row
      rw [houtdent, ok_bind] at hinsert
      dsimp only at hinsert
      cases hplan : typed.outdent? (e.document.clamp p).row with
      | none =>
        rw [hplan] at houtdent hinsert
        cases hinsert
        rw [Document.outdentChecked_eq hcurrent hfits houtdent hnext]
        rfl
      | some edit =>
        rw [hplan] at houtdent hinsert
        dsimp only at hinsert
        cases hshift : edit.shift (e.document.textBefore p ++ text).endPosition with
        | error fault =>
          rw [hshift] at hinsert
          cases hinsert
        | ok moved =>
          rw [hshift] at hinsert
          cases hinsert
          have hsum := Document.column_add_length_lt hcurrent hfits hplan htext
          rw [Document.outdentChecked_eq hcurrent hfits houtdent hnext, ok_bind]
          dsimp only
          rw [RowEdit.shiftChecked_eq hshift hsum]
          rfl
    · exact hinsert

end

end Editor

/-- The texts that a step brings are shorter than half of what 64 bits count. -/
def Step.Short : Step → Prop
  | .edit e => e.text.length < halfLimit
  | .outdent _ => True
  | .type _ unit _ text => unit.length < halfLimit ∧ text.length < halfLimit
  | .askBrackets => True

instance (s : Step) : Decidable s.Short :=
  match s with
  | .edit e => inferInstanceAs (Decidable (e.text.length < halfLimit))
  | .outdent _ => inferInstanceAs (Decidable True)
  | .type _ unit _ text =>
    inferInstanceAs (Decidable (unit.length < halfLimit ∧ text.length < halfLimit))
  | .askBrackets => inferInstanceAs (Decidable True)

namespace Document

def stepChecked (d : Document) : Step → Except Fault Document
  | .edit e => do return (← d.replaceChecked e.span e.text).1
  | .outdent row => do return (← d.outdentChecked row).1
  | .type settings unit p text => do
    return (← Editor.insertChecked ⟨d, settings, unit⟩ p text).1.document
  | .askBrackets => do return { d with brackets := some (← d.bracketTableChecked) }

def runChecked (d : Document) : List Step → Except Fault Document
  | [] => return d
  | s :: rest => do (← d.stepChecked s).runChecked rest

/-- Along a history every text stays shorter than half of what 64 bits count: those of the document
and those that the steps bring. -/
def StaysShort (d : Document) : List Step → Prop
  | [] => d.text.length < halfLimit
  | s :: rest => d.text.length < halfLimit ∧ s.Short ∧
      ∀ next, d.step s = .ok next → next.StaysShort rest

instance decidableStaysShort (d : Document) : (steps : List Step) → Decidable (d.StaysShort steps)
  | [] => inferInstanceAs (Decidable (d.text.length < halfLimit))
  | s :: rest =>
    match hstep : d.step s with
    | .ok next =>
      have := next.decidableStaysShort rest
      decidable_of_iff (d.text.length < halfLimit ∧ s.Short ∧ next.StaysShort rest)
        (by simp [StaysShort, hstep])
    | .error _ =>
      decidable_of_iff (d.text.length < halfLimit ∧ s.Short) (by simp [StaysShort, hstep])

theorem fits_of_short {t : Text} (h : t.length < halfLimit) : t.Fits := by
  have hlimits : halfLimit + halfLimit = wordLimit := rfl
  have hpos : 1 < halfLimit := by decide
  rw [Text.Fits]
  omega

/-- A step does not fault if the texts before and after it are short. -/
theorem stepChecked_eq {d : Document} (hd : d.Current) (h : d.text.length < halfLimit) {s : Step}
    (hs : s.Short) {next : Document} (hstep : d.step s = .ok next)
    (hnext : next.text.length < halfLimit) : d.stepChecked s = .ok next := by
  have hfits := fits_of_short h
  have hnextFits := fits_of_short hnext
  cases s with
  | edit e =>
    obtain ⟨result, hedit, -⟩ := exists_edit hd e
    rw [step, hedit] at hstep
    cases hstep
    rw [edit_eq_replace] at hedit
    rw [stepChecked, replaceChecked_eq hd hfits e.start_le_stop hedit hnextFits]
    rfl
  | outdent row =>
    obtain ⟨result, houtdent, -⟩ := exists_outdent hd row
    rw [step, houtdent] at hstep
    cases hstep
    rw [stepChecked, outdentChecked_eq hd hfits houtdent hnextFits]
    rfl
  | type settings unit p text =>
    have hlimits : halfLimit + halfLimit = wordLimit := rfl
    have htyped : d.text.length + text.length + 1 < wordLimit := by
      have htext := hs.2
      omega
    cases hinsert : Editor.insert ⟨d, settings, unit⟩ p text with
    | error fault =>
      rw [step, hinsert] at hstep
      cases hstep
    | ok result =>
      rw [step, hinsert] at hstep
      cases hstep
      have hd' : (⟨d, settings, unit⟩ : Editor).document.Current := hd
      rw [stepChecked, Editor.insertChecked_eq hd' hfits hinsert hnextFits htyped]
      rfl
  | askBrackets =>
    cases hstep
    rw [stepChecked, bracketTableChecked_eq hd hfits]
    rfl

theorem StaysShort.length_lt {d : Document} {steps : List Step} (h : d.StaysShort steps) :
    d.text.length < halfLimit := by
  cases steps with
  | nil => exact h
  | cons s rest => exact h.1

/-- A history does not fault if all texts stay short. -/
theorem exists_runChecked {d : Document} (hd : d.Current) {steps : List Step}
    (h : d.StaysShort steps) :
    ∃ last, d.runChecked steps = .ok last ∧ d.run steps = .ok last ∧ last.Current ∧
      last.text.length < halfLimit := by
  induction steps generalizing d with
  | nil => exact ⟨d, rfl, rfl, hd, h⟩
  | cons s rest ih =>
    obtain ⟨hlength, hs, hrest⟩ := h
    obtain ⟨next, hstep, hnext⟩ := exists_step hd s
    have hshort := hrest next hstep
    have hchecked := stepChecked_eq hd hlength hs hstep hshort.length_lt
    obtain ⟨last, hlast, hrun, hcurrent, hend⟩ := ih hnext hshort
    refine ⟨last, ?_, ?_, hcurrent, hend⟩
    · rw [runChecked, hchecked, ok_bind, hlast]
    · rw [run, hstep, ok_bind, hrun]

/-- No question to a document faults, and each has the answer that it has without bounds on
numbers. -/
structure Unfailing (d : Document) : Prop where
  clamp : ∀ p, d.clampChecked p = .ok (d.clamp p)
  brackets : d.bracketTableChecked = .ok d.bracketTable
  bracket : ∀ p, d.bracketTable.getChecked p = .ok (d.bracketTable.get? p)
  partner : ∀ p, d.partnerChecked p = .ok (d.partner? p)
  outdent : ∀ row, d.planOutdentChecked row = .ok (d.outdent? row)
  indent : ∀ row unit, d.predictIndentChecked row unit = .ok (d.predictIndent row unit)
  width : ∀ row, ∀ lexed ∈ d.lexed? row, ∀ t ∈ lexed.tokens, t.width = .ok t.lexeme.length

theorem unfailing_of_current {d : Document} (hd : d.Current) (h : d.text.Fits) : d.Unfailing := by
  constructor
  case clamp => exact clampChecked_eq hd h
  case brackets => exact bracketTableChecked_eq hd h
  case bracket => exact BracketTable.getChecked_eq _
  case partner => exact partnerChecked_eq hd h
  case outdent => exact planOutdentChecked_eq hd h
  case indent => exact predictIndentChecked_eq d
  case width =>
    intro row lexed hlexed t ht
    rw [lexed?, hd.cache, LexCache.build, getElem?_lexLines_eq_map] at hlexed
    obtain ⟨line, -, rfl⟩ := Option.map_eq_some_iff.mp hlexed
    exact width_of_mem_tokens ht

/-- Whatever happens to a document, and wherever it is asked: no index leaves its list, no text is
cut inside a character, and no number leaves 64 bits, as long as every text stays short. -/
theorem run_unfailing (t : Text) (steps : List Step) (h : (ofText t).StaysShort steps) :
    ∃ d, (do (← ofTextChecked t).runChecked steps) = .ok d ∧ (ofText t).run steps = .ok d ∧
      d.Unfailing := by
  obtain ⟨d, hchecked, hrun, hd, hend⟩ := exists_runChecked (current_ofText t) h
  have hfits : t.Fits := by
    have hlength := h.length_lt
    rw [text_ofText] at hlength
    exact fits_of_short hlength
  refine ⟨d, ?_, hrun, unfailing_of_current hd (fits_of_short hend)⟩
  rw [ofTextChecked_eq hfits, ok_bind, hchecked]

/-- A brace typed below its opening brace is lined up; then a span that is given backwards and ends
past the text is removed. -/
theorem run_unfailing_brace :
    let t : Text := ['{', '\n', ' ', ' ']
    let steps : List Step := [.type {} ['\t'] ⟨1, 2⟩ ['}'], .edit (.remove ⟨9, 0⟩ ⟨0, 1⟩)]
    (ofText t).StaysShort steps ∧
      ∃ d, (do (← ofTextChecked t).runChecked steps) = .ok d ∧ (ofText t).run steps = .ok d ∧
        d.Unfailing := by
  intro t steps
  have hshort : (ofText t).StaysShort steps := by decide +kernel
  exact ⟨hshort, run_unfailing t steps hshort⟩

end Document
end EditorAssist
