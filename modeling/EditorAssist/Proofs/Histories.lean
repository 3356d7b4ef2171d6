import EditorAssist.Proofs.Typing

/-! Histories of a document: edits, outdents, keystrokes and questions in any order. Whatever
happened to a document, it answers as a new document with its text would. -/
namespace EditorAssist

/-- An edit of a document. The ends of a span are given in either order. -/
inductive Edit where
  | insert (p : Position) (text : Text)
  | remove (a b : Position)
  | replace (a b : Position) (text : Text)
  | apply (edit : RowEdit)

namespace Edit

def span : Edit → Span
  | .insert p _ => .point p
  | .remove a b => .between a b
  | .replace a b _ => .between a b
  | .apply edit => edit.span

def text : Edit → Text
  | .insert _ text => text
  | .remove _ _ => []
  | .replace _ _ text => text
  | .apply edit => edit.text

end Edit

theorem Span.start_le_stop_between (a b : Position) : (between a b).start ≤ (between a b).stop := by
  unfold between
  split
  · next h =>
    intro hlt
    rcases h with h | h <;> rcases hlt with hlt | hlt <;> dsimp only at h hlt <;> omega
  · next h => exact h

theorem Edit.start_le_stop (e : Edit) : e.span.start ≤ e.span.stop := by
  cases e with
  | insert p text =>
    intro h
    rcases h with h | h <;> dsimp only [span, Span.point] at h <;> omega
  | remove a b => exact Span.start_le_stop_between a b
  | replace a b text => exact Span.start_le_stop_between a b
  | apply edit => exact Span.start_le_stop_between _ _

/-- What can happen to a document. Text is typed into an editor with any settings and any unit, and
to ask for the brackets makes the document keep its bracket table. -/
inductive Step where
  | edit (e : Edit)
  | outdent (row : Nat)
  | type (settings : Settings.Indentation) (unit : Text) (p : Position) (text : Text)
  | askBrackets

namespace Document

def edit (d : Document) : Edit → Except Fault (Document × Position)
  | .insert p text => d.insert p text
  | .remove a b => d.remove (.between a b)
  | .replace a b text => d.replace (.between a b) text
  | .apply edit => d.apply edit

def step (d : Document) : Step → Except Fault Document
  | .edit e => do return (← d.edit e).1
  | .outdent row => do return (← d.outdent row).1
  | .type settings unit p text => do return (← Editor.insert ⟨d, settings, unit⟩ p text).1.document
  | .askBrackets => return d.indexed

def run (d : Document) : List Step → Except Fault Document
  | [] => return d
  | s :: rest => do (← d.step s).run rest

/-- A document that some history led to. -/
def Reachable (d : Document) : Prop :=
  ∃ t steps, (ofText t).run steps = .ok d

theorem edit_eq_replace (d : Document) (e : Edit) : d.edit e = d.replace e.span e.text := by
  cases e <;> rfl

/-- An edit replaces its span in the text. -/
theorem exists_edit {d : Document} (hd : d.Current) (e : Edit) :
    ∃ next, d.edit e = .ok (next, (d.textBefore e.span.start ++ e.text).endPosition) ∧
      next.Current ∧
      next.text = d.textBefore e.span.start ++ e.text ++ d.textFrom e.span.stop := by
  rw [edit_eq_replace]
  exact exists_replace hd _ e.start_le_stop e.text

theorem current_indexed {d : Document} (hd : d.Current) : d.indexed.Current := by
  refine ⟨hd.lines, hd.cache, ?_⟩
  intro table htable
  cases hkept : d.brackets with
  | none => simp_all [indexed, bracketTable]
  | some kept =>
    have := hd.brackets kept hkept
    simp_all [indexed, bracketTable]

/-- No step faults, and each keeps lines, lexed lines and brackets those of the text. -/
theorem exists_step {d : Document} (hd : d.Current) (s : Step) :
    ∃ next, d.step s = .ok next ∧ next.Current := by
  cases s with
  | edit e =>
    obtain ⟨next, hedit, hcurrent, -⟩ := exists_edit hd e
    exact ⟨next, by simp [step, hedit, bind, Except.bind, pure, Except.pure], hcurrent⟩
  | outdent row =>
    obtain ⟨next, houtdent, hcurrent⟩ := exists_outdent hd row
    exact ⟨next, by simp [step, houtdent, bind, Except.bind, pure, Except.pure], hcurrent⟩
  | type settings unit p text =>
    have he : (⟨d, settings, unit⟩ : Editor).document.Current := hd
    by_cases htext : text = ['\n']
    · obtain ⟨next, hinsert, hcurrent, -⟩ := Editor.exists_insert_newline he p
      subst htext
      exact ⟨next, by simp [step, hinsert, bind, Except.bind, pure, Except.pure], hcurrent⟩
    · obtain ⟨next, _, _, _, _, hinsert, hcurrent, -⟩ := Editor.exists_insert_text he p htext
      exact ⟨next, by simp [step, hinsert, bind, Except.bind, pure, Except.pure], hcurrent⟩
  | askBrackets => exact ⟨d.indexed, rfl, current_indexed hd⟩

theorem exists_run {d : Document} (hd : d.Current) (steps : List Step) :
    ∃ next, d.run steps = .ok next ∧ next.Current := by
  induction steps generalizing d with
  | nil => exact ⟨d, rfl, hd⟩
  | cons s rest ih =>
    obtain ⟨next, hstep, hnext⟩ := exists_step hd s
    obtain ⟨last, hrun, hlast⟩ := ih hnext
    exact ⟨last, by simpa [run, hstep, bind, Except.bind] using hrun, hlast⟩

theorem Reachable.current {d : Document} (hd : d.Reachable) : d.Current := by
  obtain ⟨t, steps, hrun⟩ := hd
  obtain ⟨next, hnext, hcurrent⟩ := exists_run (current_ofText t) steps
  cases Except.ok.inj (hrun.symm.trans hnext)
  exact hcurrent

/-- Two documents answer every question alike. -/
structure SameAnswers (a b : Document) : Prop where
  lexed : ∀ row, a.lexed? row = b.lexed? row
  startMode : ∀ row, a.startMode row = b.startMode row
  endMode : ∀ row, a.endMode? row = b.endMode? row
  brackets : a.bracketTable.entries = b.bracketTable.entries
  partner : ∀ p, a.partner? p = b.partner? p
  outdent : ∀ row, a.outdent? row = b.outdent? row
  indent : ∀ row unit, a.predictIndent row unit = b.predictIndent row unit

theorem Current.bracketTable_eq {d : Document} (hd : d.Current) :
    d.bracketTable = .build d.cache.entries := by
  unfold bracketTable
  cases hkept : d.brackets with
  | none => rfl
  | some kept => exact hd.brackets kept hkept

/-- Answers depend on the lines, the lexed lines and the bracket table only. -/
theorem sameAnswers_of_eq {a b : Document} (hlines : a.lines = b.lines) (hcache : a.cache = b.cache)
    (hbrackets : a.bracketTable = b.bracketTable) : a.SameAnswers b := by
  have hline : ∀ row, a.line? row = b.line? row := by simp [line?, hlines]
  have hlexed : ∀ row, a.lexed? row = b.lexed? row := by simp [lexed?, hcache]
  have hpartner : ∀ p, a.partner? p = b.partner? p := by simp [partner?, hbrackets]
  refine ⟨hlexed, ?_, ?_, by rw [hbrackets], hpartner, ?_, ?_⟩
  · simp [startMode, hcache]
  · simp [endMode?, hlexed]
  · simp [outdent?, hline, hpartner]
  · simp [predictIndent, hline, hlexed, lineCount, hlines]

/-- After any history a document answers as a new document with its text does. -/
theorem run_sameAnswers_ofText (t : Text) (steps : List Step) :
    ∃ d, (ofText t).run steps = .ok d ∧ d.SameAnswers (ofText d.text) := by
  obtain ⟨d, hrun, hd⟩ := exists_run (current_ofText t) steps
  have hlines : d.lines = (ofText d.text).lines := hd.lines.symm
  have hcache : d.cache = (ofText d.text).cache := by
    rw [hd.cache, hlines]
    rfl
  have hbrackets : d.bracketTable = (ofText d.text).bracketTable := by
    rw [hd.bracketTable_eq, (current_ofText d.text).bracketTable_eq, hcache]
  exact ⟨d, hrun, sameAnswers_of_eq hlines hcache hbrackets⟩

end Document
end EditorAssist
