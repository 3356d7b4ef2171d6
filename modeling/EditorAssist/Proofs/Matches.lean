import EditorAssist.Bracket
import EditorAssist.Proofs.Covering
import EditorAssist.Proofs.Inert

/-! What the rules match. A match ends within the text, strings and comments end in their closing
marks, and a bracket is matched by itself or as part of a string or a comment. -/
namespace EditorAssist

namespace Recognizer

theorem length_le_of_literal? {glyphs t : Text} {n : Nat} (h : literal? glyphs t = some n) :
    n ≤ t.length := by
  obtain ⟨rfl, rest, rfl⟩ := literal?_eq_some h
  rw [List.length_append]
  exact Nat.le_add_right _ _

theorem length_le_of_word? {start part : Char → Bool} {t : Text} {n : Nat}
    (h : word? start part t = some n) : n ≤ t.length :=
  (madeOf_word? (p := fun _ => true) (fun _ _ => rfl) (fun _ _ => rfl) h).fits

theorem length_le_of_string? {t : Text} {n : Nat} (h : string? t = some n) : n ≤ t.length := by
  unfold string? at h
  split at h
  · obtain ⟨m, hm, rfl⟩ := Option.map_eq_some_iff.mp h
    exact Nat.succ_le_succ (length_le_of_closingQuote? hm)
  · cases h

theorem length_le_of_charLiteral? {t : Text} {n : Nat} (h : charLiteral? t = some n) :
    n ≤ t.length := by
  unfold charLiteral? at h
  split at h
  · split_ifs at h
    cases Option.some.inj h
    simp only [List.length_cons]
    omega
  · split_ifs at h
    cases Option.some.inj h
    simp only [List.length_cons]
    omega
  · cases h

theorem length_le_of_escape? {t : Text} {n : Nat} (h : escape? t = some n) : n ≤ t.length := by
  unfold escape? at h
  split at h
  · split_ifs at h
    cases Option.some.inj h
    simp only [List.length_cons]
    omega
  · cases h

theorem exists_take_of_closingQuote? {t : Text} {n : Nat} (h : closingQuote? t = some n) :
    ∃ body, t.take n = body ++ ['"'] := by
  fun_induction closingQuote? t generalizing n with
  | case1 => cases h
  | case2 rest =>
    cases Option.some.inj h
    exact ⟨[], rfl⟩
  | case3 => cases h
  | case4 c cs hc ih =>
    obtain ⟨m, hm, rfl⟩ := Option.map_eq_some_iff.mp h
    obtain ⟨body, hbody⟩ := ih hm
    exact ⟨'\\' :: c :: body, by rw [List.take_succ_cons, List.take_succ_cons, hbody]; rfl⟩
  | case5 c cs hquote hescape ih =>
    obtain ⟨m, hm, rfl⟩ := Option.map_eq_some_iff.mp h
    obtain ⟨body, hbody⟩ := ih hm
    exact ⟨c :: body, by rw [List.take_succ_cons, hbody]; rfl⟩

theorem exists_take_of_string? {t : Text} {n : Nat} (h : string? t = some n) :
    ∃ body, t.take n = body ++ ['"'] := by
  unfold string? at h
  split at h
  · obtain ⟨m, hm, rfl⟩ := Option.map_eq_some_iff.mp h
    obtain ⟨body, hbody⟩ := exists_take_of_closingQuote? hm
    exact ⟨'"' :: body, by rw [List.take_succ_cons, hbody]; rfl⟩
  · cases h

theorem exists_take_of_charLiteral? {t : Text} {n : Nat} (h : charLiteral? t = some n) :
    ∃ body, t.take n = body ++ ['\x27'] := by
  unfold charLiteral? at h
  split at h
  · next c rest =>
    split_ifs at h
    cases Option.some.inj h
    exact ⟨['\x27', '\\', c], rfl⟩
  · next c rest _ =>
    split_ifs at h
    cases Option.some.inj h
    exact ⟨['\x27', c], rfl⟩
  · cases h

theorem exists_take_of_commentEnd? {t : Text} {n : Nat} (h : commentEnd? t = some n) :
    ∃ body, t.take n = body ++ ['#'] := by
  fun_induction commentEnd? t generalizing n with
  | case1 => cases h
  | case2 rest =>
    cases Option.some.inj h
    exact ⟨[']'], rfl⟩
  | case3 => cases h
  | case4 c cs hclose hc ih =>
    obtain ⟨m, hm, rfl⟩ := Option.map_eq_some_iff.mp h
    obtain ⟨body, hbody⟩ := ih hm
    exact ⟨c :: body, by rw [List.take_succ_cons, hbody]; rfl⟩

end Recognizer

theorem mem_brackets_iff {c : Char} :
    c ∈ ['(', ')', '[', ']', '{', '}'] ↔ (Bracket.shape? c).isSome = true := by
  unfold Bracket.shape?
  constructor
  · intro h
    simp only [List.mem_cons, List.not_mem_nil, or_false] at h
    rcases h with rfl | rfl | rfl | rfl | rfl | rfl <;> rfl
  · intro h
    split at h
    case h_7 => cases h
    all_goals decide

theorem isOpening_or_isClosing {c : Char} (hc : (Bracket.shape? c).isSome) :
    Recognizer.isOpening c = true ∨ Recognizer.isClosing c = true := by
  have hmem := mem_brackets_iff.mpr hc
  simp only [List.mem_cons, List.not_mem_nil, or_false] at hmem
  rcases hmem with rfl | rfl | rfl | rfl | rfl | rfl
  · exact .inl rfl
  · exact .inr rfl
  · exact .inl rfl
  · exact .inr rfl
  · exact .inl rfl
  · exact .inr rfl

theorem shape?_eq_none_of_isUnmarked {c : Char} (h : isUnmarked c = true) :
    Bracket.shape? c = none := by
  by_contra hne
  simp only [isUnmarked, Bool.and_eq_true, Bool.not_eq_true'] at h
  rcases isOpening_or_isClosing (Option.isSome_iff_ne_none.mpr hne) with hmark | hmark
  · rw [h.1.2] at hmark
    cases hmark
  · rw [h.2] at hmark
    cases hmark

namespace Rule
open Recognizer

/-- Where brackets can be: in strings, in comments and in tokens of their own. -/
def HoldsBrackets (kind : Token.Kind) : Prop :=
  kind = .string ∨ kind = .comment ∨ kind.isBracket = true

/-- A rule either makes one token of a kind that can hold brackets, or matches none. -/
theorem emits_or_madeOf {mode : Mode} {rule : Rule} (h : rule ∈ RuleTable.standard mode)
    {t : Text} {n : Nat} (hmatch : rule.recognize t = some n) :
    (n ≤ t.length ∧ ∃ kind, rule.action = .emit kind ∧ HoldsBrackets kind) ∨
      MadeOf isUnmarked t n := by
  have hstring : HoldsBrackets .string := .inl rfl
  have hcomment : HoldsBrackets .comment := .inr (.inl rfl)
  have hopening : HoldsBrackets .opening := .inr (.inr rfl)
  have hclosing : HoldsBrackets .closing := .inr (.inr rfl)
  induction h using RuleTable.standard_cases with
  | commentOpen => exact .inl ⟨length_le_of_literal? hmatch, _, rfl, hcomment⟩
  | lineComment => exact .inl ⟨length_le_of_word? hmatch, _, rfl, hcomment⟩
  | moduleName =>
    exact .inr (madeOf_word? (fun _ => isUnmarked_of_isUpper)
      (fun _ => isUnmarked_of_isNamePart) hmatch)
  | access => exact .inr (madeOf_dottedName? hmatch)
  | string => exact .inl ⟨length_le_of_string? hmatch, _, rfl, hstring⟩
  | char => exact .inl ⟨length_le_of_charLiteral? hmatch, _, rfl, hstring⟩
  | stringOpen => exact .inl ⟨length_le_of_literal? hmatch, _, rfl, hstring⟩
  | number => exact .inr (NumberLiteral.madeOf_number? hmatch)
  | name =>
    exact .inr (madeOf_word? (fun _ => isUnmarked_of_isNameStart)
      (fun _ => isUnmarked_of_isNamePart) hmatch)
  | operator => exact .inr (madeOf_operator? hmatch)
  | opening => exact .inl ⟨(madeOf_one? hmatch).fits, _, rfl, hopening⟩
  | closing => exact .inl ⟨(madeOf_one? hmatch).fits, _, rfl, hclosing⟩
  | blanks => exact .inr ((madeOf_run? hmatch).mono fun _ => isUnmarked_of_isBlank)
  | commentClose => exact .inl ⟨length_le_of_commentEnd? hmatch, _, rfl, hcomment⟩
  | commentBody => exact .inl ⟨(madeOf_run? hmatch).fits, _, rfl, hcomment⟩
  | escape => exact .inl ⟨length_le_of_escape? hmatch, _, rfl, hstring⟩
  | stringBody => exact .inl ⟨(madeOf_run? hmatch).fits, _, rfl, hstring⟩
  | backslash => exact .inl ⟨length_le_of_literal? hmatch, _, rfl, hstring⟩
  | stringClose => exact .inl ⟨length_le_of_literal? hmatch, _, rfl, hstring⟩

/-- A match ends within the text. -/
theorem length_le_of_recognize {mode : Mode} {rule : Rule} (h : rule ∈ RuleTable.standard mode)
    {t : Text} {n : Nat} (hmatch : rule.recognize t = some n) : n ≤ t.length := by
  rcases emits_or_madeOf h hmatch with ⟨hle, -⟩ | hmade
  · exact hle
  · exact hmade.fits

/-- No bracket is left over by the rules. -/
theorem first?_ne_none_of_bracket (mode : Mode) {c : Char} (hc : (Bracket.shape? c).isSome)
    (cs : Text) : first? (RuleTable.standard mode) (c :: cs) ≠ none := by
  intro hnone
  cases mode with
  | code =>
    have hpassed := first?_eq_none_iff.mp hnone
    simp only [RuleTable.standard, RuleTable.codeRules, List.forall_mem_cons] at hpassed
    obtain ⟨-, -, -, -, -, -, -, -, -, -, hopening, hclosing, -⟩ := hpassed
    rcases isOpening_or_isClosing hc with hmark | hmark
    · have hmatch : one? isOpening (c :: cs) = some 1 := if_pos hmark
      exact reach?_ne_none hmatch Nat.one_pos hopening
    · have hmatch : one? isClosing (c :: cs) = some 1 := if_pos hmark
      exact reach?_ne_none hmatch Nat.one_pos hclosing
  | comment =>
    rw [(first?_comment_eq_none_iff c cs).mp hnone] at hc
    cases hc
  | quoted => exact first?_quoted_ne_none c cs hnone

end Rule

namespace Piece

/-- A bracket of a line stands in a string, in a comment or in a token of its own. -/
theorem holdsBrackets_of_mem_shading_cut {mode : Mode} {line : Text} {c : Char}
    {kind : Token.Kind} (hc : (Bracket.shape? c).isSome)
    (h : (c, kind) ∈ shading (cut .standard mode line).1) : Rule.HoldsBrackets kind := by
  induction mode, line using cut_induction .standard with
  | nil mode => cases h
  | matched mode d ds rule n hfirst ih =>
    rw [cut_eq_of_first? (List.cons_ne_nil d ds) hfirst, shading_append, List.mem_append] at h
    rcases h with h | h
    · obtain ⟨hrule, hmatch, -⟩ := Rule.of_first?_eq_some hfirst
      obtain ⟨p, hp, hmem⟩ := List.mem_flatMap.mp h
      obtain ⟨found, hfound, rfl⟩ := List.mem_map.mp hp
      obtain ⟨e, he, hpair⟩ := List.mem_map.mp hmem
      cases hpair
      rcases Rule.emits_or_madeOf hrule hmatch with ⟨-, k, haction, hholds⟩ | hmade
      · rw [haction] at hfound
        cases List.mem_singleton.mp hfound
        exact hholds
      · have hmatched : c ∈ (d :: ds).take n := by
          rw [← rule.action.flatMap_pieces ((d :: ds).take n)]
          exact List.mem_flatMap.mpr ⟨found, hfound, he⟩
        rw [shape?_eq_none_of_isUnmarked (hmade.chars c hmatched)] at hc
        cases hc
    · exact ih h
  | unmatched mode d ds hfirst ih =>
    rw [cut_of_first?_eq_none hfirst, shading_cons, List.mem_append] at h
    rcases h with h | h
    · obtain ⟨e, he, hpair⟩ := List.mem_map.mp h
      cases hpair
      cases List.mem_singleton.mp he
      exact absurd hfirst (Rule.first?_ne_none_of_bracket mode hc ds)
    · exact ih h

end Piece
end EditorAssist
