import EditorAssist.Proofs.Undisturbed

/-! Typing a closing brace on a blank line. The brace is lined up with the row of its opening brace
exactly if spaces and tabs stand before it: other white space asks for the outdent too, but is no
indentation that an edit would replace. -/
namespace EditorAssist

theorem blank_ne_brace {c : Char} (h : isBlank c = true) : c ≠ '}' := by
  rintro rfl
  exact absurd h (by decide)

theorem asksOutdent_brace {line : Text} (hne : line ≠ []) (h : ∀ c ∈ line, isBlank c = true) :
    asksOutdent line ['}'] = true := by
  have hempty : line.isEmpty = false := by simp [hne]
  have hall : line.all isBlank = true := List.all_eq_true.mpr h
  have hbrace : ((['}'] : Text).dropWhile isBlank).head? = some '}' := by decide
  unfold asksOutdent
  rw [hempty, hall, hbrace]
  rfl

/-- White space other than spaces and tabs hides a brace behind it from the indentation. -/
theorem head?_drop_leadingIndent {a b : Text} (hblank : ∀ c ∈ a, isBlank c = true)
    (h : ¬ ∀ c ∈ a, isIndent c = true) :
    ((a ++ b).drop (leadingIndent (a ++ b)).length).head? ≠ some '}' := by
  induction a with
  | nil => exact absurd (fun c hc => absurd hc List.not_mem_nil) h
  | cons c cs ih =>
    rw [List.forall_mem_cons] at hblank h
    by_cases hc : isIndent c = true
    · have hrest : ¬ ∀ c ∈ cs, isIndent c = true := fun hall => h ⟨hc, hall⟩
      have hrun : leadingIndent (c :: cs ++ b) = c :: leadingIndent (cs ++ b) := by
        unfold leadingIndent
        rw [List.cons_append, List.takeWhile_cons_of_pos hc]
      rw [hrun]
      exact ih hblank.2 hrest
    · have hrun : leadingIndent (c :: cs ++ b) = [] := by
        unfold leadingIndent
        rw [List.cons_append, List.takeWhile_cons_of_neg hc]
      rw [hrun]
      intro hhead
      exact blank_ne_brace hblank.1 (Option.some.inj hhead)

namespace Document

theorem outdent?_eq_none_of_head? {d : Document} {row : Nat} {line : Text}
    (hline : d.line? row = some line)
    (h : (line.drop (leadingIndent line).length).head? ≠ some '}') : d.outdent? row = none := by
  rw [Option.eq_none_iff_forall_ne_some]
  intro e he
  obtain ⟨own, -, -, hown, hbrace, -⟩ := outdent?_eq_some_iff.mp he
  rw [hline] at hown
  cases Option.some.inj hown
  exact h hbrace

/-- A row that needs no lining up has the indentation of the row of its opening brace. -/
theorem exists_leadingIndent_eq {d : Document} (hd : d.Current) {row : Nat} {indent rest : Text}
    (hindent : ∀ c ∈ indent, isIndent c = true) (hline : d.line? row = some (indent ++ '}' :: rest))
    (hnone : d.outdent? row = none) {q : Position} (hq : d.partner? ⟨row, indent.length⟩ = some q)
    (hlt : q.row < row) : ∃ above, d.line? q.row = some above ∧ leadingIndent above = indent := by
  obtain ⟨hown, hbody⟩ := indentAt_of_line? hindent hline
  have hbrace : (d.bodyAt row).head? = some '}' := by rw [hbody]; rfl
  have hopening : d.openingRow? row = some q.row :=
    openingRow?_eq_some_iff.mpr ⟨hbrace, q, by rw [hown]; exact hq, rfl, hlt⟩
  have hsame := (outdent?_eq_none_iff hd).mp hnone q.row hopening
  have hlength : row < d.lines.length := (List.getElem?_eq_some_iff.mp hline).1
  have habove : d.line? q.row = some d.lines[q.row] := List.getElem?_eq_getElem _
  refine ⟨_, habove, ?_⟩
  rw [← hown, ← hsame, indentAt, habove]
  rfl

/-- Inserting a text without line feeds changes one row. -/
theorem exists_insert_inline {d : Document} (hd : d.Current) {above below : List Text} {a b : Text}
    (hlines : d.lines = above ++ (a ++ b) :: below) {t : Text} (ht : '\n' ∉ t) :
    ∃ next, d.insert ⟨above.length, a.length⟩ t =
        .ok (next, ⟨above.length, a.length + t.length⟩) ∧
      next.Current ∧ next.lines = above ++ (a ++ (t ++ b)) :: below := by
  let z : Place := ⟨above, a, b, below⟩
  have hz : z.rows = d.lines := hlines.symm
  have hz' : z.rows = d.text.lines := by rw [hz, hd.lines]
  have hreplace : d.replace ⟨z.position, z.position⟩ t =
      .ok (replaced z z t, (z.before ++ t).endPosition) :=
    replace_of_places hd hz (clamp_position hz) hz (clamp_position hz) (Nat.le_refl _) t
  have hrows := Place.lines_before_append_after hz' hz' t
  have hcursor := Place.endPosition_before_append hz' t
  rw [Text.lines_of_newline_not_mem ht] at hrows hcursor
  have hend : (z.before ++ t).endPosition = ⟨above.length, a.length + t.length⟩ := by
    rw [hcursor]
    simp [z, prependFirst]
  refine ⟨replaced z z t, ?_, current_replaced z z t, ?_⟩
  · rw [insert, Span.point, ← hend]
    exact hreplace
  · rw [← List.append_assoc a]
    exact hrows

end Document

namespace Editor

section
variable {e : Editor} {p cursor : Position} {typed next : Document}
  (hclamp : e.document.clamp p = p) (hauto : e.settings.autoOutdent = true)
  (hasks : asksOutdent ((e.document.line? p.row).getD []) ['}'] = true)
  (hinsert : e.document.insert p ['}'] = .ok (typed, cursor))
include hclamp hauto hasks hinsert

theorem insert_brace_of_outdent?_eq_none (h : typed.outdent? p.row = none) :
    e.insert p ['}'] = .ok ({ e with document := typed }, cursor) := by
  have houtdent : typed.outdent p.row = .ok (typed, none) := by rw [Document.outdent, h]
  unfold insert
  simp [hclamp, hauto, hasks, hinsert, houtdent, bind, Except.bind, pure, Except.pure]

theorem insert_brace_of_outdent {edit : RowEdit} {c : Position}
    (h : typed.outdent p.row = .ok (next, some edit)) (hshift : edit.shift cursor = .ok c) :
    e.insert p ['}'] = .ok ({ e with document := next }, c) := by
  unfold insert
  simp [hclamp, hauto, hasks, hinsert, h, hshift, bind, Except.bind, pure, Except.pure]

end

section
variable {e : Editor} {above below : List Text} {a b : Text} (hd : e.document.Current)
  (hauto : e.settings.autoOutdent = true)
  (hlines : e.document.lines = above ++ (a ++ b) :: below) (hne : a ++ b ≠ [])
  (hblank : ∀ c ∈ a ++ b, isBlank c = true)
include hd hauto hlines hne hblank

/-- Behind spaces and tabs the brace is lined up, and behind other white space it stays put. -/
theorem exists_insert_brace : ∃ next before,
    e.insert ⟨above.length, a.length⟩ ['}'] =
        .ok ({ e with document := next }, ⟨above.length, before.length + 1⟩) ∧
      next.Current ∧ next.line? above.length = some (before ++ '}' :: b) ∧
      ((∀ c ∈ a, isIndent c = true) →
        (∀ c ∈ before, isIndent c = true) ∧ next.outdent? above.length = none) ∧
      (¬ (∀ c ∈ a, isIndent c = true) → before = a) := by
  obtain ⟨typed, hinsert, htyped, htypedlines⟩ :=
    Document.exists_insert_inline (t := ['}']) hd hlines (by decide)
  have hclamp : e.document.clamp ⟨above.length, a.length⟩ = ⟨above.length, a.length⟩ :=
    Document.clamp_position (z := ⟨above, a, b, below⟩) hlines.symm
  have hline : e.document.line? above.length = some (a ++ b) := by simp [Document.line?, hlines]
  have hasks : asksOutdent ((e.document.line? above.length).getD []) ['}'] = true := by
    rw [hline]
    exact asksOutdent_brace hne hblank
  have htypedline : typed.line? above.length = some (a ++ '}' :: b) := by
    simp [Document.line?, htypedlines]
  cases hplan : typed.outdent? above.length with
  | none =>
    have hstay := insert_brace_of_outdent?_eq_none hclamp hauto hasks hinsert hplan
    exact ⟨typed, a, hstay, htyped, htypedline, fun ha => ⟨ha, hplan⟩, fun _ => rfl⟩
  | some edit =>
    have ha : ∀ c ∈ a, isIndent c = true := by
      by_contra hother
      have hhead := head?_drop_leadingIndent (b := '}' :: b)
        (fun c hc => hblank c (List.mem_append_left _ hc)) hother
      rw [Document.outdent?_eq_none_of_head? htypedline hhead] at hplan
      cases hplan
    obtain ⟨next, new, hnew, rfl, houtdent, hnext, hnextlines, -⟩ :=
      Document.exists_outdent_of_lines htyped ha htypedlines hplan
    have hshift := RowEdit.shift_eq_of_stop_le (e := ⟨above.length, 0, a.length, new⟩)
      (p := ⟨above.length, a.length + 1⟩) rfl (Nat.zero_le _) (Nat.le_succ _)
    have hcolumn : a.length + 1 + new.length - (a.length - 0) = new.length + 1 := by omega
    rw [hcolumn] at hshift
    have hmove := insert_brace_of_outdent hclamp hauto hasks hinsert houtdent hshift
    have hsettled := Document.outdent?_eq_none_of_outdent htyped houtdent
    have hnextline : next.line? above.length = some (new ++ '}' :: b) := by
      simp [Document.line?, hnextlines]
    exact ⟨next, new, hmove, hnext, hnextline, fun _ => ⟨hnew, hsettled⟩,
      fun hother => absurd ha hother⟩

end

/-- In an editor with any history, a brace typed on a blank line whose partner stands on a row above
is lined up with that row exactly if spaces and tabs stand before the cursor. -/
theorem insert_brace_lines_up {e : Editor} (hd : e.document.Reachable)
    (hauto : e.settings.autoOutdent = true) {p : Position} (hp : e.document.clamp p = p)
    {line : Text} (hline : e.document.line? p.row = some line) (hne : line ≠ [])
    (hblank : ∀ c ∈ line, isBlank c = true) :
    ∃ next before, e.insert p ['}'] = .ok (next, ⟨p.row, before.length + 1⟩) ∧
      next.document.line? p.row = some (before ++ '}' :: line.drop p.column) ∧
      ∀ q, next.document.partner? ⟨p.row, before.length⟩ = some q → q.row < p.row →
        ∃ above, next.document.line? q.row = some above ∧
          (before = leadingIndent above ↔ ∀ c ∈ line.take p.column, isIndent c = true) := by
  have hcurrent := hd.current
  obtain ⟨z, hrows, hposition, -, -⟩ := Document.exists_place hcurrent.lines p
  have hz : z.position = p := hposition.trans hp
  subst hz
  have hlines : e.document.lines = z.above ++ (z.left ++ z.right) :: z.below :=
    (hrows.trans hcurrent.lines).symm
  have hown : line = z.left ++ z.right := by
    have hget : e.document.line? z.position.row = some (z.left ++ z.right) := by
      simp [Document.line?, Place.position, hlines]
    exact Option.some.inj (hline.symm.trans hget)
  subst hown
  obtain ⟨next, before, hinsert, hnext, hnextline, hindented, hother⟩ :=
    exists_insert_brace hcurrent hauto hlines hne hblank
  have htake : (z.left ++ z.right).take z.position.column = z.left := List.take_left
  have hdrop : (z.left ++ z.right).drop z.position.column = z.right := List.drop_left
  refine ⟨{ e with document := next }, before, hinsert, by rw [hdrop]; exact hnextline, ?_⟩
  intro q hq hlt
  have hlength : z.above.length < next.lines.length := (List.getElem?_eq_some_iff.mp hnextline).1
  obtain ⟨above, habove⟩ : ∃ above, next.line? q.row = some above :=
    ⟨_, List.getElem?_eq_getElem (Nat.lt_trans hlt hlength)⟩
  refine ⟨above, habove, ?_⟩
  rw [htake]
  constructor
  case mp =>
    intro hsame
    by_contra hleft
    rw [hother hleft] at hsame
    exact hleft fun c hc => isIndent_of_mem_leadingIndent (hsame ▸ hc)
  case mpr =>
    intro hleft
    obtain ⟨hbefore, hsettled⟩ := hindented hleft
    obtain ⟨target, htarget, hindent⟩ :=
      Document.exists_leadingIndent_eq hnext hbefore hnextline hsettled hq hlt
    rw [habove] at htarget
    rw [Option.some.inj htarget, hindent]

/-- A brace typed between a tab and an ideographic space, below a line that opens with neither. -/
theorem insert_brace_lines_up_tab :
    let d := Document.ofText ['{', '\n', '\t', '\u3000']
    let e : Editor := ⟨d, {}, [' ', ' ', ' ', ' ']⟩
    d.Reachable ∧ e.settings.autoOutdent = true ∧ d.clamp ⟨1, 1⟩ = ⟨1, 1⟩ ∧
      d.line? 1 = some ['\t', '\u3000'] ∧ (∀ c ∈ ['\t', '\u3000'], isBlank c = true) ∧
      ∃ next before, e.insert ⟨1, 1⟩ ['}'] = .ok (next, ⟨1, before.length + 1⟩) ∧
        next.document.line? 1 = some (before ++ ['}', '\u3000']) ∧
        ∀ q, next.document.partner? ⟨1, before.length⟩ = some q → q.row < 1 →
          ∃ above, next.document.line? q.row = some above ∧ before = leadingIndent above := by
  intro d e
  have hd : d.Reachable := ⟨_, [], rfl⟩
  have hauto : e.settings.autoOutdent = true := rfl
  have hblank : ∀ c ∈ ['\t', '\u3000'], isBlank c = true :=
    List.forall_mem_cons.mpr ⟨rfl, List.forall_mem_singleton.mpr rfl⟩
  have htab : ∀ c ∈ ['\t'], isIndent c = true := List.forall_mem_singleton.mpr rfl
  have hclamp : d.clamp ⟨1, 1⟩ = ⟨1, 1⟩ := by decide +kernel
  have hown : d.line? 1 = some ['\t', '\u3000'] := by decide +kernel
  obtain ⟨next, before, hinsert, hline, haligned⟩ :=
    insert_brace_lines_up (e := e) hd hauto hclamp hown (List.cons_ne_nil _ _) hblank
  refine ⟨hd, hauto, hclamp, hown, hblank, next, before, hinsert, hline, ?_⟩
  intro q hq hlt
  obtain ⟨above, habove, hindent⟩ := haligned q hq hlt
  exact ⟨above, habove, hindent.mpr htab⟩

/-- Behind a no-break space the brace has its partner on the row above, but stays where it was
typed. -/
theorem insert_brace_stays :
    let d := Document.ofText ['{', '\n', '\u00a0']
    let e : Editor := ⟨d, {}, [' ', ' ', ' ', ' ']⟩
    start d {} = .ok e ∧ e.settings.autoOutdent = true ∧ d.clamp ⟨1, 1⟩ = ⟨1, 1⟩ ∧
      d.line? 1 = some ['\u00a0'] ∧ isBlank '\u00a0' = true ∧
      (e.insert ⟨1, 1⟩ ['}']).map
          (fun r => (r.1.document.lines, r.2, r.1.document.partner? ⟨1, 1⟩)) =
        .ok ([['{'], ['\u00a0', '}']], ⟨1, 2⟩, some ⟨0, 0⟩) ∧
      leadingIndent ['{'] ≠ ['\u00a0'] := by
  decide +kernel

end Editor
end EditorAssist
