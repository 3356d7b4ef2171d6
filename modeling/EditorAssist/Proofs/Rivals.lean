import EditorAssist.Proofs.Precedence
import Mathlib.Data.List.Permutation

/-! Rules that match the same text. There are never more than two, and only a few pairs of rules can
meet. A table may be put into any order that keeps those pairs. -/
namespace EditorAssist

/-- The characters whose code points lie in some ranges. -/
def CodeRanges.chars (ranges : CodeRanges) : Text :=
  ranges.flatMap fun r => (List.range' r.1 (r.2 + 1 - r.1)).map Char.ofNat

theorem CodeRanges.mem_chars {ranges : CodeRanges} {c : Char} (h : ranges.covers c = true) :
    c ∈ ranges.chars := by
  obtain ⟨r, hr, hrange⟩ := List.any_eq_true.mp h
  simp only [Bool.and_eq_true, decide_eq_true_eq] at hrange
  refine List.mem_flatMap.mpr ⟨r, hr, List.mem_map.mpr ⟨c.toNat, ?_, Char.ofNat_toNat c⟩⟩
  rw [List.mem_range'_1]
  omega

namespace Rule

def matching (rules : List Rule) (rest : Text) : List Rule :=
  rules.filter fun rule => (rule.reach? rest).isSome

theorem matching_cons_of_eq_none {rule : Rule} {rules : List Rule} {rest : Text}
    (h : rule.reach? rest = none) : matching (rule :: rules) rest = matching rules rest := by
  simp [matching, h]

theorem matching_cons_of_eq_some {rule : Rule} {rules : List Rule} {rest : Text} {n : Nat}
    (h : rule.reach? rest = some n) :
    matching (rule :: rules) rest = rule :: matching rules rest := by
  simp [matching, h]

theorem matching_eq_nil_iff {rules : List Rule} {rest : Text} :
    matching rules rest = [] ↔ first? rules rest = none := by
  rw [first?_eq_none_iff]
  simp [matching]

/-- Which rule comes first depends on the rules that match only. -/
theorem first?_matching (rules : List Rule) (rest : Text) :
    first? (matching rules rest) rest = first? rules rest := by
  induction rules with
  | nil => rfl
  | cons rule rules ih =>
    cases h : rule.reach? rest with
    | none => rw [matching_cons_of_eq_none h, ih, first?_cons_of_reach?_eq_none h]
    | some n =>
      rw [matching_cons_of_eq_some h, first?_cons_of_recognize (recognize_of_reach? h).1
        (recognize_of_reach? h).2, first?_cons_of_recognize (recognize_of_reach? h).1
        (recognize_of_reach? h).2]

/-- The names of the rules whose classes have a character. -/
def beginning (rules : List Rule) (classes : List (Char → Bool)) (c : Char) : List String :=
  (((rules.map (·.name)).zip classes).filter (·.2 c)).map (·.1)

theorem beginning_nil (c : Char) : beginning [] [] c = [] := rfl

theorem beginning_cons (rule : Rule) (rules : List Rule) (p : Char → Bool)
    (classes : List (Char → Bool)) (c : Char) :
    beginning (rule :: rules) (p :: classes) c =
      (if p c then [rule.name] else []) ++ beginning rules classes c := by
  cases hp : p c <;> simp [beginning, hp]

/-- A rule that matches has the first character in its class. -/
theorem matching_sublist {rules : List Rule} {classes : List (Char → Bool)}
    (h : List.Forall₂ BeginsIn rules classes) (c : Char) (cs : Text) :
    ((matching rules (c :: cs)).map (·.name)).Sublist (beginning rules classes c) := by
  induction h with
  | nil => exact List.nil_sublist _
  | @cons rule p rules classes hrule _ ih =>
    rw [beginning_cons]
    cases hp : p c with
    | false =>
      rw [matching_cons_of_eq_none (hrule c cs hp)]
      exact ih
    | true =>
      cases hreach : rule.reach? (c :: cs) with
      | none =>
        rw [matching_cons_of_eq_none hreach]
        exact ih.cons _
      | some n =>
        rw [matching_cons_of_eq_some hreach]
        exact ih.cons_cons _

/-- No rule of a name matches if none with that name does. -/
theorem name_not_mem_matching {rules : List Rule} {rest : Text} {name : String}
    (h : ∀ rule ∈ rules, rule.name = name → rule.reach? rest = none) :
    name ∉ (matching rules rest).map (·.name) := by
  intro hmem
  obtain ⟨rule, hrule, hname⟩ := List.mem_map.mp hmem
  obtain ⟨hin, hreach⟩ := List.mem_filter.mp hrule
  rw [h rule hin hname] at hreach
  cases hreach

end Rule

namespace RuleTable
open Recognizer Rule

/-- The pairs of rules, by name, that can match the same text; the first of each goes first. -/
def rivals : Mode → List (String × String)
  | .code =>
    [("block_comment_open", "line_comment"), ("module_reference", "identifier"),
     ("member_access", "operator"), ("string", "open_string"), ("number", "operator")]
  | .comment => [("block_comment_close", "block_comment_body")]
  | .quoted => [("escape", "line_continuation")]

/-- No more than one rule, or two rivals. -/
def AtMostRivals (mode : Mode) (names : List String) : Prop :=
  names.length ≤ 1 ∨ ∃ pair ∈ rivals mode, names = [pair.1, pair.2]

instance (mode : Mode) (names : List String) : Decidable (AtMostRivals mode names) :=
  inferInstanceAs (Decidable (_ ∨ _))

theorem AtMostRivals.length_le {mode : Mode} {names : List String} (h : AtMostRivals mode names) :
    names.length ≤ 2 := by
  rcases h with h | ⟨pair, -, rfl⟩
  · omega
  · exact Nat.le_refl 2

theorem AtMostRivals.sublist {mode : Mode} {names some : List String} (h : AtMostRivals mode names)
    (hsub : some.Sublist names) : AtMostRivals mode some := by
  have hle := hsub.length_le
  by_cases hshort : some.length ≤ 1
  · exact .inl hshort
  · have htwo := h.length_le
    rw [hsub.eq_of_length (by omega)]
    exact h

theorem AtMostRivals.mem_rivals {mode : Mode} {a b : String} (h : AtMostRivals mode [a, b]) :
    (a, b) ∈ rivals mode := by
  rcases h with h | ⟨pair, hpair, heq⟩
  · simp at h
  · cases heq
    exact hpair

def signs : Text :=
  ['#', '.', '"', '\x27', '(', '[', '{', ')', ']', '}'] ++ CodeRanges.chars [(48, 57)] ++
    operators.flatten

theorem mem_signs {p : Char → Bool} (hp : p ∈ signClasses) {c : Char} (hc : p c = true) :
    c ∈ signs := by
  simp only [signClasses, List.mem_cons, List.not_mem_nil, or_false] at hp
  rcases hp with rfl | rfl | rfl | rfl | rfl | rfl | rfl | rfl
  · rw [eq_of_beq hc]
    decide
  · rw [eq_of_beq hc]
    decide
  · rw [eq_of_beq hc]
    decide
  · rw [eq_of_beq hc]
    decide
  · rcases Bool.or_eq_true_iff.mp hc with hdigit | hpoint
    · have hchars := CodeRanges.mem_chars (covers_of_isDigit hdigit)
      simp [signs, hchars]
    · rw [eq_of_beq hpoint]
      decide
  · obtain ⟨g, hg, hmem⟩ := List.any_eq_true.mp hc
    have hflat : c ∈ operators.flatten :=
      List.mem_flatten.mpr ⟨g, hg, List.contains_iff_mem.mp hmem⟩
    simp [signs, hflat]
  · simp only [isOpening, Bool.or_eq_true, beq_iff_eq] at hc
    rcases hc with (rfl | rfl) | rfl <;> decide
  · simp only [isClosing, Bool.or_eq_true, beq_iff_eq] at hc
    rcases hc with (rfl | rfl) | rfl <;> decide

theorem atMostRivals_beginning {c : Char} (hc : c ≠ '.') :
    AtMostRivals .code (beginning codeRules codeClasses c) := by
  by_cases hsign : c ∈ signs
  · have hall : (signs.all fun c => c == '.' ||
        decide (AtMostRivals .code (beginning codeRules codeClasses c))) = true := by
      decide +kernel
    simpa [hc] using List.all_eq_true.mp hall c hsign
  · -- only the classes of words and of white space are left, which have nothing in common
    have hnone : ∀ p ∈ signClasses, p c = false := fun p hp =>
      Bool.eq_false_iff.mpr fun hp' => hsign (mem_signs hp hp')
    simp only [signClasses, List.forall_mem_cons, List.not_mem_nil, false_implies, implies_true,
      and_true] at hnone
    obtain ⟨hhash, hpoint, hquote, hapostrophe, hnumber, hoperator, hopening, hclosing⟩ := hnone
    simp only [codeRules, codeClasses, beginning_cons, beginning_nil, hhash, hpoint, hquote,
      hapostrophe, hnumber, hoperator, hopening, hclosing]
    cases hblank : isBlank c with
    | false => cases isUpper c <;> cases isNameStart c <;> decide
    | true =>
      rw [isUpper_eq_false_of_isBlank hblank, isNameStart_eq_false_of_isBlank hblank]
      decide

/-- What stands behind a point begins no name or no digits. -/
theorem beginsOutside_name_or_digit (cs : Text) :
    BeginsOutside isNameStart cs ∨ BeginsOutside Char.isDigit cs := by
  cases cs with
  | nil => exact .inl nofun
  | cons c cs =>
    cases hname : isNameStart c with
    | false => exact .inl (beginsOutside_cons hname)
    | true => exact .inr (beginsOutside_cons (isDigit_eq_false_of_isNameStart hname))

/-- A point begins a member access, a number or an operator, and not both of the first two. -/
theorem atMostRivals_point (cs : Text) :
    AtMostRivals .code ((matching codeRules ('.' :: cs)).map (·.name)) := by
  have hall : ((matching codeRules ('.' :: cs)).map (·.name)).Sublist
      ["member_access", "number", "operator"] := matching_sublist codeRules_beginIn '.' cs
  -- the class of each of the two has the point, so what stands behind it tells them apart
  rcases beginsOutside_name_or_digit cs with hname | hdigit
  · have haccess : "member_access" ∉ (matching codeRules ('.' :: cs)).map (·.name) := by
      refine name_not_mem_matching ?_
      simpa [codeRules] using reach?_eq_none_of_recognize (dottedName?_point_eq_none hname)
    have hsub := hall.erase "member_access"
    rw [List.erase_of_not_mem haccess] at hsub
    exact AtMostRivals.sublist (by decide) hsub
  · have hnumber : "number" ∉ (matching codeRules ('.' :: cs)).map (·.name) := by
      refine name_not_mem_matching ?_
      simpa [codeRules] using
        reach?_eq_none_of_recognize (NumberLiteral.number?_point_eq_none hdigit)
    have hsub := hall.erase "number"
    rw [List.erase_of_not_mem hnumber] at hsub
    exact AtMostRivals.sublist (by decide) hsub

/-- An escape and a lone backslash begin with one, and each other rule for open strings has a
character of its own. -/
theorem atMostRivals_quoted (c : Char) (cs : Text) :
    AtMostRivals .quoted ((matching quotedRules (c :: cs)).map (·.name)) := by
  have hclasses : List.Forall₂ BeginsIn quotedRules
      [(· == '\\'), isStringBody, (· == '\\'), (· == '"')] := by
    refine .cons ?_ (.cons ?_ (.cons ?_ (.cons ?_ .nil)))
    all_goals intro c cs hc
    · exact reach?_eq_none_of_recognize (escape?_cons_eq_none cs hc)
    · simp [reach?, run?, hc]
    · exact reach?_eq_none_of_recognize (literal?_cons_eq_none _ cs hc)
    · exact reach?_eq_none_of_recognize (literal?_cons_eq_none _ cs hc)
  refine AtMostRivals.sublist ?_ (matching_sublist hclasses c cs)
  by_cases hescape : c = '\\'
  · subst hescape
    decide
  by_cases hquote : c = '"'
  · subst hquote
    decide
  · have hslash : (c == '\\') = false := beq_eq_false_iff_ne.mpr hescape
    have hclose : (c == '"') = false := beq_eq_false_iff_ne.mpr hquote
    have hbody : isStringBody c = true := by simp [isStringBody, hescape, hquote]
    simp only [quotedRules, beginning_cons, beginning_nil, hslash, hclose, hbody]
    decide

/-- Of two rules that match the same text in a mode, the first and the second are rivals. -/
theorem atMostRivals_matching (mode : Mode) (rest : Text) :
    AtMostRivals mode ((matching (standard mode) rest).map (·.name)) := by
  cases rest with
  | nil => cases mode <;> decide
  | cons c cs =>
    cases mode with
    | code =>
      by_cases hc : c = '.'
      · rw [hc]
        exact atMostRivals_point cs
      · exact (atMostRivals_beginning hc).sublist (matching_sublist codeRules_beginIn c cs)
    | comment =>
      have hall : AtMostRivals .comment (commentRules.map (·.name)) := by decide
      exact hall.sublist ((List.filter_sublist).map _)
    | quoted => exact atMostRivals_quoted c cs

theorem matching_quoted_ne_nil (c : Char) (cs : Text) : matching quotedRules (c :: cs) ≠ [] :=
  fun h => first?_quoted_ne_none c cs (matching_eq_nil_iff.mp h)

theorem matching_comment_eq_nil_iff (c : Char) (cs : Text) :
    matching commentRules (c :: cs) = [] ↔ c = '\n' :=
  matching_eq_nil_iff.trans (first?_comment_eq_none_iff c cs)

/-- A table may be put into any order in which no rule stands before one that goes before it. -/
theorem first?_eq_of_perm {mode : Mode} {rules : List Rule} (hperm : rules.Perm (standard mode))
    (horder : rules.Pairwise fun a b => (b.name, a.name) ∉ rivals mode) (rest : Text) :
    first? rules rest = first? (standard mode) rest := by
  have hmatching : (matching rules rest).Perm (matching (standard mode) rest) := hperm.filter _
  have hkept : (matching rules rest).Pairwise fun a b => (b.name, a.name) ∉ rivals mode :=
    horder.filter _
  have hrivals := atMostRivals_matching mode rest
  have hsame : matching rules rest = matching (standard mode) rest := by
    match hfound : matching (standard mode) rest with
    | [] => exact (hfound ▸ hmatching).eq_nil
    | [a] => exact (hfound ▸ hmatching).eq_singleton
    | [a, b] =>
      rw [hfound] at hmatching hrivals
      rcases List.perm_pair.mp hmatching with h | hswapped
      · exact h
      · rw [hswapped] at hkept
        exact absurd hrivals.mem_rivals (by simpa using hkept)
    | a :: b :: c :: more =>
      rw [hfound] at hrivals
      simpa using hrivals.length_le
  rw [← first?_matching rules, hsame, first?_matching]

/-- The order of the rules decides between rivals only. At most two rules match a text, and two are
rivals; an open string is never left without a rule, and a block comment only at a line feed. So
every order in which rivals stand as they do in the table makes the same rule come first. -/
theorem order_decides_rivals_only :
    (∀ mode rest, (matching (standard mode) rest).length ≤ 2 ∧
      ∀ a b, matching (standard mode) rest = [a, b] → (a.name, b.name) ∈ rivals mode) ∧
    (∀ c cs, matching (standard .quoted) (c :: cs) ≠ []) ∧
    (∀ c cs, matching (standard .comment) (c :: cs) = [] ↔ c = '\n') ∧
    ∀ mode rules, rules.Perm (standard mode) →
      (rules.Pairwise fun a b => (b.name, a.name) ∉ rivals mode) →
      ∀ rest, first? rules rest = first? (standard mode) rest := by
  refine ⟨fun mode rest => ⟨?_, fun a b hfound => ?_⟩, matching_quoted_ne_nil,
    matching_comment_eq_nil_iff, fun mode rules hperm horder => first?_eq_of_perm hperm horder⟩
  · rw [← List.length_map (·.name)]
    exact (atMostRivals_matching mode rest).length_le
  · have hrivals := atMostRivals_matching mode rest
    rw [hfound] at hrivals
    exact hrivals.mem_rivals

/-- White space may be tried first of all. A number that begins with its point is also an operator,
and goes before it either way. -/
theorem order_decides_rivals_only_whitespace :
    let rules := codeRules.drop 12 ++ codeRules.take 12
    rules.Perm (standard .code) ∧
      (rules.Pairwise fun a b => (b.name, a.name) ∉ rivals .code) ∧
      (∀ rest, first? rules rest = first? (standard .code) rest) ∧
      ∃ a b, matching (standard .code) ['.', '5'] = [a, b] ∧ a.name = "number" ∧
        b.name = "operator" ∧ (a.name, b.name) ∈ rivals .code := by
  intro rules
  have hperm : rules.Perm (standard .code) := List.perm_append_comm
  have horder : rules.Pairwise fun a b => (b.name, a.name) ∉ rivals .code := by decide
  obtain ⟨hpairs, -, -, hreorder⟩ := order_decides_rivals_only
  exact ⟨hperm, horder, hreorder .code rules hperm horder, _, _, rfl, rfl, rfl,
    (hpairs .code ['.', '5']).2 _ _ rfl⟩

end RuleTable
end EditorAssist
