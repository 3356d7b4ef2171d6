import EditorAssist.Proofs.Histories

/-! The cursor in an editor. Typing puts the text in at the cursor and nothing else changes but
indentation. -/
namespace EditorAssist

theorem Settings.Indentation.isIndent_of_mem_unit {s : Settings.Indentation} {unit : Text}
    (h : s.unit = .ok unit) {c : Char} (hc : c ∈ unit) : isIndent c := by
  unfold Settings.Indentation.unit at h
  split at h
  · split_ifs at h
    cases Except.ok.inj h
    rw [List.eq_of_mem_replicate hc]
    rfl
  · cases Except.ok.inj h
    rw [List.mem_singleton.mp hc]
    rfl

namespace Editor

theorem start_eq_ok {d : Document} {settings : Settings.Indentation} {e : Editor}
    (h : start d settings = .ok e) : settings.unit = .ok e.unit ∧ e.document = d := by
  unfold start at h
  cases hunit : settings.unit with
  | error fault => simp [hunit, bind, Except.bind] at h
  | ok unit =>
    simp only [hunit, bind, Except.bind, pure, Except.pure, Except.ok.injEq] at h
    subst h
    exact ⟨rfl, rfl⟩

end Editor

theorem filter_not_isIndent_eq_nil {t : Text} (h : ∀ c ∈ t, isIndent c) :
    t.filter (!isIndent ·) = [] := by
  simpa using h

/-- Typing moves the cursor behind the typed text. What stood behind the cursor still does, what
stands before it is the old text with the typed text but for spaces and tabs, and unless a line feed
was typed only the leading spaces and tabs of the cursor's row can differ. -/
theorem Editor.insert_keeps_text {d : Document} (hd : d.Reachable)
    {settings : Settings.Indentation} {e : Editor} (he : start d settings = .ok e) (p : Position)
    (t : Text) :
    ∃ next c, e.insert p t = .ok (next, c) ∧ next.document.clamp c = c ∧
      next.document.textFrom c = d.textFrom p ∧
      (next.document.textBefore c).filter (!isIndent ·) =
        (d.textBefore p ++ t).filter (!isIndent ·) ∧
      (t ≠ ['\n'] →
        SameButIndent (d.clamp p).row (d.textBefore p ++ t) (next.document.textBefore c)) := by
  obtain ⟨hunit, rfl⟩ := start_eq_ok he
  have hcurrent : e.document.Current := hd.current
  by_cases ht : t = ['\n']
  · obtain ⟨next, hinsert, hnext, htext⟩ := exists_insert_newline hcurrent p
    have hoff := Document.offset_endPosition htext
    subst ht
    refine ⟨_, _, hinsert, ?_, ?_, ?_, fun h => absurd rfl h⟩
    · exact ((Document.clamp_eq_self_and_offset_eq_iff hnext.lines htext _).mpr rfl).1
    · exact Document.textFrom_eq_of_offset htext hoff
    · have hindent : (e.newlineIndent (e.document.clamp p)).filter (!isIndent ·) = [] :=
        filter_not_isIndent_eq_nil fun c => isIndent_of_mem_newlineIndent
          fun c => Settings.Indentation.isIndent_of_mem_unit hunit
      rw [Document.textBefore_eq_of_offset htext hoff, List.filter_append, List.filter_append,
        List.filter_cons, hindent]
      rfl
  · obtain ⟨next, above, old, new, rest, hinsert, hnext, hrow, habove, hold, hnew, hbefore,
      htext⟩ := exists_insert_text hcurrent p ht
    have hoff := Document.offset_endPosition htext
    refine ⟨_, _, hinsert, ?_, ?_, ?_, fun _ => ?_⟩
    · exact ((Document.clamp_eq_self_and_offset_eq_iff hnext.lines htext _).mpr rfl).1
    · exact Document.textFrom_eq_of_offset htext hoff
    · rw [Document.textBefore_eq_of_offset htext hoff, hbefore]
      simp only [List.filter_append, filter_not_isIndent_eq_nil hold,
        filter_not_isIndent_eq_nil hnew]
    · rw [Document.textBefore_eq_of_offset htext hoff, hbefore, ← hrow]
      exact sameButIndent_of_leading habove hold hnew rest

/-- A brace typed behind a tab, below a line that opens with none. -/
theorem Editor.insert_keeps_text_brace :
    let d := Document.ofText ['{', '\n', '\t', ' ']
    d.Reachable ∧ start d {} = .ok ⟨d, {}, [' ', ' ', ' ', ' ']⟩ ∧
      ∃ next c, insert ⟨d, {}, [' ', ' ', ' ', ' ']⟩ ⟨1, 1⟩ ['}'] = .ok (next, c) ∧
        next.document.clamp c = c ∧ next.document.textFrom c = [' '] ∧
        (next.document.textBefore c).filter (!isIndent ·) = ['{', '\n', '}'] ∧
        SameButIndent 1 ['{', '\n', '\t', '}'] (next.document.textBefore c) := by
  intro d
  have hd : d.Reachable := ⟨_, [], rfl⟩
  have he : start d {} = .ok ⟨d, {}, [' ', ' ', ' ', ' ']⟩ := rfl
  obtain ⟨next, c, hinsert, hclamp, hfrom, hfilter, hsame⟩ := insert_keeps_text hd he ⟨1, 1⟩ ['}']
  exact ⟨hd, he, next, c, hinsert, hclamp, hfrom, hfilter, hsame (by decide)⟩

end EditorAssist
