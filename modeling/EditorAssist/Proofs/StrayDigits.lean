import EditorAssist.Proofs.LexemeShapes
import EditorAssist.Proofs.Matches

/-! Where numbers begin. A number whose first character is a digit has no letter and no underscore
before it; what can stand there is a run of digits that is refused together with it. -/
namespace EditorAssist
open Recognizer Rule RuleTable

def isAsciiWord (c : Char) : Bool :=
  c.isAlphanum || c == '_'

/-- A text does not end with a character of a class. -/
def EndsOutside (p : Char → Bool) (t : Text) : Prop :=
  ∀ c ∈ t.getLast?, p c = false

section
variable {p : Char → Bool} {t : Text}

theorem endsOutside_concat {c : Char} (t : Text) (hc : p c = false) : EndsOutside p (t ++ [c]) := by
  intro d hd
  rw [Option.mem_def, List.getLast?_concat] at hd
  cases Option.some.inj hd
  exact hc

theorem endsOutside_of_forall (h : ∀ c ∈ t, p c = false) : EndsOutside p t :=
  fun c hc => h c (List.mem_of_getLast? hc)

theorem EndsOutside.append (h : EndsOutside p t) (ht : t ≠ []) (before : Text) :
    EndsOutside p (before ++ t) := by
  intro c hc
  rw [Option.mem_def, List.getLast?_append_of_ne_nil _ ht] at hc
  exact h c hc

end

namespace NumberLiteral

section
variable {digit : Char → Bool} {t : Text}

theorem IsDigits.concat (h : IsDigits digit t) {c : Char} (hc : digit c = true) :
    IsDigits digit (t ++ [c]) := by
  induction h with
  | single hd => exact .next hd (.single hc)
  | next hd rest ih => exact .next hd ih
  | separated hd rest ih => exact .separated hd ih

theorem isDigits_of_forall {ds : Text} (hne : ds ≠ []) (h : ∀ c ∈ ds, digit c = true) :
    IsDigits digit ds := by
  induction ds with
  | nil => exact absurd rfl hne
  | cons c cs ih =>
    rw [List.forall_mem_cons] at h
    by_cases hcs : cs = []
    · rw [hcs]
      exact .single h.1
    · exact .next h.1 (ih hcs h.2)

theorem IsDigits.append (h : IsDigits digit t) {ds : Text} (hds : ∀ c ∈ ds, digit c = true) :
    IsDigits digit (ds ++ t) := by
  induction ds with
  | nil => exact h
  | cons c cs ih =>
    rw [List.forall_mem_cons] at hds
    exact .next hds.1 (ih hds.2)

end

/-- A float with one more digit is a float. -/
theorem IsFloat.concat {t : Text} (h : IsFloat t) {c : Char} (hc : c.isDigit = true) :
    IsFloat (t ++ [c]) := by
  have hexponent : ∀ {u : Text}, IsExponent u → IsExponent (u ++ [c]) := by
    intro u hu
    cases hu with
    | unsigned hletter power => exact .unsigned hletter (power.concat hc)
    | signed hletter hsign power => exact .signed hletter hsign (power.concat hc)
  cases h with
  | pointed body =>
    obtain ⟨ds, cs, rfl, hleft, hright, -⟩ := body.exists_sides
    have hmore : IsDigits Char.isDigit (cs ++ [c]) := by
      rcases hright with rfl | hright
      · exact .single hc
      · exact hright.concat hc
    have hsome : 0 < ds.length + (cs ++ [c]).length := by
      have hpos := hmore.length_pos
      omega
    have hbody := isPointed_of_sides hleft (.inr hmore) hsome
    rw [List.append_assoc, List.cons_append]
    exact .pointed hbody
  | scaled body exponent =>
    rw [List.append_assoc]
    exact .scaled body (hexponent exponent)
  | scaledWhole body exponent =>
    rw [List.append_assoc]
    exact .scaledWhole body (hexponent exponent)

/-- A float with more digits before it is a float. -/
theorem IsFloat.append {t : Text} (h : IsFloat t) {ds : Text} (hne : ds ≠ [])
    (hds : ∀ c ∈ ds, c.isDigit = true) : IsFloat (ds ++ t) := by
  have hpointed : ∀ {u : Text}, IsPointed u → IsPointed (ds ++ u) := by
    intro u hu
    obtain ⟨left, right, rfl, hleft, hright, -⟩ := hu.exists_sides
    have hmore : IsDigits Char.isDigit (ds ++ left) := by
      rcases hleft with rfl | hleft
      · rw [List.append_nil]
        exact isDigits_of_forall hne hds
      · exact hleft.append hds
    have hsome : 0 < (ds ++ left).length + right.length := by
      have hpos := hmore.length_pos
      omega
    have hbody := isPointed_of_sides (.inr hmore) hright hsome
    rwa [List.append_assoc] at hbody
  cases h with
  | pointed body => exact .pointed (hpointed body)
  | scaled body exponent =>
    rw [← List.append_assoc]
    exact .scaled (hpointed body) exponent
  | scaledWhole body exponent =>
    rw [← List.append_assoc]
    exact .scaledWhole (body.append hds) exponent

/-- No digit stands behind a number. -/
theorem beginsOutside_of_number? {t : Text} {n : Nat} (h : number? t = some n) :
    BeginsOutside Char.isDigit (t.drop n) := by
  obtain ⟨u, v, rfl, hu, rfl⟩ := mem_literalLengths_of_number? h
  rw [List.drop_left]
  have hboundary : ∀ {w : Text}, atBoundary w = true → BeginsOutside Char.isDigit w := fun hw =>
    beginsOutside_of_atBoundary hw fun c hc => isWordChar_of_isHex (isHex_of_isDigit hc)
  cases hu with
  | @imaginary w rest c body hc hend =>
    have hletter : isWordChar c = true := by rcases hc with rfl | rfl <;> rfl
    exact hboundary ((wordBoundary_concat_iff hletter w v).mp hend)
  | @long w rest c body hc hend =>
    have hletter : isWordChar c = true := by rcases hc with rfl | rfl <;> rfl
    exact hboundary ((wordBoundary_concat_iff hletter w v).mp hend)
  | integer body hend => exact hboundary ((body.wordBoundary_iff v).mp hend)
  | float body hrange =>
    -- a digit behind a float would make a longer one
    intro c hc
    obtain ⟨cs, rfl⟩ := List.head?_eq_some_iff.mp hc
    by_contra hdigit
    rw [Bool.not_eq_false] at hdigit
    have hlast : ¬ ((u ++ [c]).getLast? = some '.' ∧ cs.head? = some '.') := by
      rintro ⟨hpoint, -⟩
      rw [List.getLast?_concat] at hpoint
      exact ne_of_class hdigit rfl (Option.some.inj hpoint)
    have hlonger : (u ++ [c]).length ∈ literalLengths (u ++ c :: cs) :=
      ⟨u ++ [c], cs, by simp, .float (body.concat hdigit) hlast, rfl⟩
    have hle := (isGreatest_of_number? h).2 hlonger
    rw [List.length_append, List.length_singleton] at hle
    omega

theorem number?_pos {t : Text} {n : Nat} (h : number? t = some n) : 0 < n := by
  obtain ⟨u, v, -, hu, rfl⟩ := mem_literalLengths_of_number? h
  cases hu with
  | imaginary body hc hend => simp
  | float body hrange => exact Nat.lt_of_le_of_lt (Nat.zero_le _) (body.digits_lt [])
  | long body hc hend => simp
  | integer body hend => cases body <;> exact Nat.succ_pos _

/-- A text begins as a number in a base other than ten does. -/
def isBased : Text → Bool
  | '0' :: c :: _ => c == 'o' || c == 'O' || c == 'x' || c == 'X' || c == 'b' || c == 'B'
  | _ => false

theorem IsBase.isBased {c : Char} {digit : Char → Bool} (h : IsBase c digit) (cs : Text) :
    isBased ('0' :: c :: cs) = true := by
  cases h with
  | octal hc => rcases hc with rfl | rfl <;> rfl
  | hex hc => rcases hc with rfl | rfl <;> rfl
  | binary hc => rcases hc with rfl | rfl <;> rfl

theorem IsInteger.isDigits_of_not_isBased {t rest : Text} (h : IsInteger t)
    (hbased : isBased (t ++ rest) = false) : IsDigits Char.isDigit t := by
  cases h with
  | based hbase body =>
    rw [List.cons_append, List.cons_append, hbase.isBased] at hbased
    cases hbased
  | decimal hc body => exact body
  | zero => exact .single rfl

/-- A number in base ten with digits before it, the first of which is not zero, is a number. -/
theorem Admissible.cons_append {t rest : Text} (h : Admissible t rest) (hbased : isBased t = false)
    {c : Char} (hc : c.isDigit = true) (hzero : c ≠ '0') {ds : Text}
    (hds : ∀ d ∈ ds, d.isDigit = true) : Admissible (c :: ds ++ t) rest := by
  have hall : ∀ d ∈ c :: ds, d.isDigit = true := List.forall_mem_cons.mpr ⟨hc, hds⟩
  have hinteger : ∀ {u : Text}, IsDigits Char.isDigit u → IsInteger (c :: ds ++ u) :=
    fun hu => .decimal hzero (hu.append hall)
  cases h with
  | @imaginary u rest letter body hletter hend =>
    have hword : isWordChar letter = true := by rcases hletter with rfl | rfl <;> rfl
    have hboundary := (wordBoundary_concat_iff hword u rest).mp hend
    rw [← List.append_assoc]
    refine .imaginary ?_ hletter ((wordBoundary_concat_iff hword _ rest).mpr hboundary)
    rcases body with body | body
    · exact .inl (body.append (List.cons_ne_nil c ds) hall)
    · exact .inr (body.append hall)
  | float body hrange =>
    refine .float (body.append (List.cons_ne_nil c ds) hall) ?_
    obtain ⟨d, ds', ht⟩ : ∃ d ds', t = d :: ds' := by
      apply List.exists_cons_of_ne_nil
      rintro rfl
      have hlt := body.digits_lt []
      cases hlt
    rwa [List.getLast?_append_of_ne_nil _ (by simp [ht])]
  | @long u rest letter body hletter hend =>
    have hword : isWordChar letter = true := by rcases hletter with rfl | rfl <;> rfl
    have hboundary := (wordBoundary_concat_iff hword u rest).mp hend
    have hbody := hinteger (body.isDigits_of_not_isBased hbased)
    rw [← List.append_assoc]
    exact .long hbody hletter ((wordBoundary_concat_iff hword _ rest).mpr hboundary)
  | integer body hend =>
    rw [← List.append_nil t] at hbased
    have hbody := hinteger (body.isDigits_of_not_isBased hbased)
    exact .integer hbody ((hbody.wordBoundary_iff rest).mpr ((body.wordBoundary_iff rest).mp hend))

end NumberLiteral

theorem isAsciiWord_eq_false_of_isBlank {c : Char} (h : isBlank c = true) : isAsciiWord c = false :=
  CodeRanges.eq_false_of_covers blankRanges isAsciiWord (by decide +kernel) h

theorem isAsciiWord_of_isDigit {c : Char} (h : c.isDigit = true) : isAsciiWord c = true := by
  simp [isAsciiWord, Char.isAlphanum, h]

theorem isNamePart_of_isDigit {c : Char} (h : c.isDigit = true) : isNamePart c = true := by
  have hgraphic := NumberLiteral.isGraphic_of_isHex (NumberLiteral.isHex_of_isDigit h)
  have hascii := isAscii_of_isGraphic hgraphic
  have hnumeral : isNumeral c = true := by rw [isNumeral, if_pos hascii, h]
  simp [isNamePart, hnumeral]

/-- A word character that begins no name is a digit. -/
theorem isDigit_of_isAsciiWord {c : Char} (h : isAsciiWord c = true)
    (hstart : isNameStart c = false) : c.isDigit = true := by
  unfold isNameStart at hstart
  rw [Bool.or_eq_false_iff] at hstart
  obtain ⟨hletter, hunderscore⟩ := hstart
  have halpha : c.isAlpha = false := by
    by_contra halpha
    rw [Bool.not_eq_false] at halpha
    rw [isLetter, if_pos (isAscii_of_isAlpha halpha), halpha] at hletter
    cases hletter
  simpa [isAsciiWord, Char.isAlphanum, halpha, hunderscore] using h

/-- The characters of operators and brackets are no word characters. -/
theorem isAsciiWord_eq_false_of_isOperatorChar {c : Char} (h : isOperatorChar c = true) :
    isAsciiWord c = false := by
  obtain ⟨g, hg, hmem⟩ := List.any_eq_true.mp h
  have hall : (operators.all fun g => g.all fun c => !isAsciiWord c) = true := rfl
  have hglyphs := List.all_eq_true.mp (List.all_eq_true.mp hall g hg) c
  simpa using hglyphs (List.contains_iff_mem.mp hmem)

theorem isAsciiWord_eq_false_of_bracket {c : Char}
    (h : isOpening c = true ∨ isClosing c = true) : isAsciiWord c = false := by
  simp only [isOpening, isClosing, Bool.or_eq_true, beq_iff_eq] at h
  rcases h with ((rfl | rfl) | rfl) | ((rfl | rfl) | rfl) <;> rfl

namespace Recognizer

/-- No digit stands behind a word. -/
theorem beginsOutside_isDigit_of_word? {start part : Char → Bool}
    (hpart : ∀ c : Char, c.isDigit = true → part c = true) {t : Text} {n : Nat}
    (h : word? start part t = some n) : BeginsOutside Char.isDigit (t.drop n) := by
  obtain ⟨-, -, -, -, -, hrest⟩ := exists_of_word? h
  exact hrest.mono hpart

theorem beginsOutside_isDigit_of_dottedName? {t : Text} {n : Nat} (h : dottedName? t = some n) :
    BeginsOutside Char.isDigit (t.drop n) := by
  unfold dottedName? at h
  split at h
  · obtain ⟨m, hm, rfl⟩ := Option.map_eq_some_iff.mp h
    rw [List.drop_succ_cons]
    exact beginsOutside_isDigit_of_word? (fun c => isNamePart_of_isDigit) hm
  · cases h

end Recognizer

namespace Rule

/-- Where lexing goes on as code, a match ends in no word character or has no digit behind it. -/
theorem endsOutside_or_beginsOutside {mode : Mode} {rule : Rule} (hrule : rule ∈ standard mode)
    {t : Text} {n : Nat} (hmatch : rule.recognize t = some n)
    (hnext : rule.next.getD mode = .code) :
    EndsOutside isAsciiWord (t.take n) ∨ BeginsOutside Char.isDigit (t.drop n) := by
  induction hrule using standard_cases with
  | commentOpen => cases hnext
  | lineComment =>
    have hinline : ∀ c : Char, c.isDigit = true → isInline c = true :=
      fun c hc => bne_iff_ne.mpr (ne_of_class hc rfl)
    exact .inr (beginsOutside_isDigit_of_word? hinline hmatch)
  | moduleName =>
    exact .inr (beginsOutside_isDigit_of_word? (fun c => isNamePart_of_isDigit) hmatch)
  | access => exact .inr (beginsOutside_isDigit_of_dottedName? hmatch)
  | string =>
    obtain ⟨body, hbody⟩ := exists_take_of_string? hmatch
    rw [hbody]
    exact .inl (endsOutside_concat body rfl)
  | char =>
    obtain ⟨body, hbody⟩ := exists_take_of_charLiteral? hmatch
    rw [hbody]
    exact .inl (endsOutside_concat body rfl)
  | stringOpen => cases hnext
  | number => exact .inr (NumberLiteral.beginsOutside_of_number? hmatch)
  | name => exact .inr (beginsOutside_isDigit_of_word? (fun c => isNamePart_of_isDigit) hmatch)
  | operator =>
    have hglyphs := (admits_of_operator? hmatch).1
    exact .inl (endsOutside_of_forall fun c hc =>
      isAsciiWord_eq_false_of_isOperatorChar (isOperatorChar_of_mem hglyphs hc))
  | opening =>
    obtain ⟨c, hc, htake⟩ := exists_of_one? hmatch
    rw [htake]
    exact .inl (endsOutside_concat [] (isAsciiWord_eq_false_of_bracket (.inl hc)))
  | closing =>
    obtain ⟨c, hc, htake⟩ := exists_of_one? hmatch
    rw [htake]
    exact .inl (endsOutside_concat [] (isAsciiWord_eq_false_of_bracket (.inr hc)))
  | blanks =>
    exact .inl (endsOutside_of_forall fun c hc =>
      isAsciiWord_eq_false_of_isBlank ((madeOf_run? hmatch).chars c hc))
  | commentClose =>
    obtain ⟨body, hbody⟩ := exists_take_of_commentEnd? hmatch
    rw [hbody]
    exact .inl (endsOutside_concat body rfl)
  | commentBody => cases hnext
  | escape => cases hnext
  | stringBody => cases hnext
  | backslash => cases hnext
  | stringClose =>
    obtain ⟨rfl, rest, rfl⟩ := literal?_eq_some hmatch
    exact .inl (endsOutside_concat [] rfl)

/-- In the table of the language only the rule for numbers makes numbers, each a single piece. -/
theorem of_mem_ofMatch_number {mode : Mode} {rule : Rule} (hrule : rule ∈ standard mode)
    {matched : Text} {p : Piece} (hp : p ∈ Piece.ofMatch rule matched) (hkind : p.kind = .number) :
    mode = .code ∧ rule.recognize = NumberLiteral.number? ∧ p.text = matched ∧
      Piece.ofMatch rule matched = [p] := by
  unfold Piece.ofMatch at hp ⊢
  obtain ⟨found, hfound, rfl⟩ := List.mem_map.mp hp
  cases haction : rule.action with
  | emit kind =>
    rw [haction] at hfound
    cases List.mem_singleton.mp hfound
    cases hkind
    obtain ⟨rfl, rfl⟩ := eq_of_action rfl rfl rfl hrule haction
    exact ⟨rfl, rfl, rfl, rfl⟩
  | byWord =>
    rw [haction] at hfound
    cases List.mem_singleton.mp hfound
    have hword : wordKind matched ≠ .number := by
      unfold wordKind
      split_ifs <;> decide
    exact absurd hkind hword
  | dotted =>
    rw [haction] at hfound
    simp only [Action.pieces, List.mem_cons, List.not_mem_nil, or_false] at hfound
    rcases hfound with rfl | rfl <;> cases hkind

/-- What no rule for code claims is a digit, if it is a word character. -/
theorem isDigit_of_first?_eq_none {c : Char} {cs : Text}
    (h : first? (standard .code) (c :: cs) = none) (hc : isAsciiWord c = true) :
    c.isDigit = true := by
  have hrule : ⟨"identifier", word? isNameStart isNamePart, .byWord, none⟩ ∈ standard .code := by
    simp [standard, codeRules]
  have hpassed := reach?_eq_none_of_first? h hrule
  apply isDigit_of_isAsciiWord hc
  by_contra hstart
  rw [Bool.not_eq_false] at hstart
  have hmatch : word? isNameStart isNamePart (c :: cs) =
      some ((cs.takeWhile isNamePart).length + 1) := if_pos hstart
  exact reach?_ne_none hmatch (Nat.succ_pos _) hpassed

theorem number?_eq_none_of_first? {t : Text} (h : first? (standard .code) t = none) :
    NumberLiteral.number? t = none := by
  have hrule : ⟨"number", NumberLiteral.number?, .emit .number, none⟩ ∈ standard .code := by
    simp [standard, codeRules]
  have hpassed := reach?_eq_none_of_first? h hrule
  rw [Option.eq_none_iff_forall_ne_some]
  intro n hn
  exact reach?_ne_none hn (NumberLiteral.number?_pos hn) hpassed

end Rule

namespace Piece
open NumberLiteral

/-- What stands before a number on a line that begins in a mode: a text that does not end in a word
character, and digits that are refused together with the number. They are zeros, unless the number
announces its base. -/
structure Preceded (mode : Mode) (before ds literal rest : Text) : Prop where
  starts : before = [] → mode = .code
  ends : EndsOutside isAsciiWord before
  decimal : ∀ c ∈ ds, c.isDigit = true
  refused : ds ≠ [] → number? (ds ++ (literal ++ rest)) = none
  cause : isBased literal = true ∨ ∀ c ∈ ds, c = '0'
  admissible : Admissible literal rest

namespace Preceded
variable {mode next : Mode} {before ds literal rest : Text}

theorem not_beginsOutside (h : Preceded mode before ds literal rest)
    (hdigit : ¬ BeginsOutside Char.isDigit literal) :
    ¬ BeginsOutside Char.isDigit (ds ++ (literal ++ rest)) := by
  intro houtside
  cases ds with
  | nil =>
    obtain ⟨c, cs, rfl, hc⟩ := exists_of_not_beginsOutside hdigit
    exact Bool.eq_false_iff.mp (houtside c rfl) hc
  | cons c cs => exact Bool.eq_false_iff.mp (houtside c rfl) (h.decimal c List.mem_cons_self)

/-- A match goes in front of what stands before a number. -/
theorem append_match (h : Preceded next before ds literal rest)
    (hdigit : ¬ BeginsOutside Char.isDigit literal) {rule : Rule} (hrule : rule ∈ standard mode)
    {t : Text} {n : Nat} (hn : t.take n ≠ []) (hmatch : rule.recognize t = some n)
    (hnext : rule.next.getD mode = next) (hrest : t.drop n = before ++ (ds ++ (literal ++ rest))) :
    Preceded mode (t.take n ++ before) ds literal rest := by
  refine ⟨fun hempty => absurd (List.append_eq_nil_iff.mp hempty).1 hn, ?_, h.decimal, h.refused,
    h.cause, h.admissible⟩
  by_cases hbefore : before = []
  · rw [h.starts hbefore] at hnext
    rw [hbefore, List.nil_append] at hrest
    rw [hbefore, List.append_nil]
    have hends := endsOutside_or_beginsOutside hrule hmatch hnext
    rw [hrest] at hends
    exact hends.resolve_right (h.not_beginsOutside hdigit)
  · exact h.ends.append hbefore _

/-- A character that no rule claims goes in front of what stands before a number. A digit joins the
other digits if nothing else stands before them. -/
theorem exists_cons (h : Preceded mode before ds literal rest) {c : Char}
    (hfirst : first? (standard mode) (c :: (before ++ (ds ++ (literal ++ rest)))) = none) :
    ∃ more digits, c :: (before ++ ds) = more ++ digits ∧
      Preceded mode more digits literal rest := by
  by_cases hbefore : before = []
  · have hmode := h.starts hbefore
    subst hmode hbefore
    rw [List.nil_append] at hfirst
    by_cases hword : isAsciiWord c = true
    · have hc := isDigit_of_first?_eq_none hfirst hword
      have hrefused : number? (c :: ds ++ (literal ++ rest)) = none :=
        number?_eq_none_of_first? hfirst
      refine ⟨[], c :: ds, rfl, fun _ => rfl, nofun, List.forall_mem_cons.mpr ⟨hc, h.decimal⟩,
        fun _ => hrefused, ?_, h.admissible⟩
      by_contra hcause
      rw [not_or, Bool.not_eq_true] at hcause
      obtain ⟨hbased, hzeros⟩ := hcause
      have hrest : ∀ d ∈ ds, d = '0' := by
        have hcases := h.cause
        rw [hbased] at hcases
        exact hcases.resolve_left Bool.false_ne_true
      have hzero : c ≠ '0' := by
        rintro rfl
        exact hzeros (List.forall_mem_cons.mpr ⟨rfl, hrest⟩)
      obtain ⟨n, hn, -⟩ := (h.admissible.cons_append hbased hc hzero h.decimal).exists_number?
      rw [List.append_assoc, hrefused] at hn
      cases hn
    · rw [Bool.not_eq_true] at hword
      exact ⟨[c], ds, rfl, nofun, endsOutside_concat [] hword, h.decimal, h.refused, h.cause,
        h.admissible⟩
  · exact ⟨c :: before, ds, rfl, nofun, h.ends.append hbefore [c], h.decimal, h.refused, h.cause,
      h.admissible⟩

end Preceded

theorem eq_append_or_eq_append_cons {first second front back : List Piece} {p : Piece}
    (h : first ++ second = front ++ p :: back) :
    (∃ more, front = first ++ more ∧ second = more ++ p :: back) ∨
      ∃ more, first = front ++ p :: more ∧ back = more ++ second := by
  rcases List.append_eq_append_iff.mp h with ⟨more, hfront, hsecond⟩ | ⟨more, hfirst, hback⟩
  · exact .inl ⟨more, hfront, hsecond⟩
  · cases more with
    | nil =>
      rw [List.append_nil] at hfirst
      exact .inl ⟨[], by rw [hfirst, List.append_nil], hback.symm⟩
    | cons q more =>
      rw [List.cons_append] at hback
      obtain ⟨rfl, hmore⟩ := List.cons.inj hback
      exact .inr ⟨more, hfirst, hmore⟩

/-- Before a number that begins with a digit. -/
theorem exists_preceded (mode : Mode) (line : Text) {front back : List Piece} {p : Piece}
    (hcut : (cut .standard mode line).1 = front ++ p :: back) (hkind : p.kind = .number)
    (hdigit : ¬ BeginsOutside Char.isDigit p.text) :
    ∃ before ds, spelling front = before ++ ds ∧
      Preceded mode before ds p.text (spelling back) := by
  -- what is cut off goes in front of what stands before the number in the rest
  induction mode, line using cut_induction .standard generalizing front with
  | nil mode => simp at hcut
  | matched mode c cs rule n hfirst ih =>
    obtain ⟨hrule, hmatch, hn⟩ := of_first?_eq_some hfirst
    have htake : (c :: cs).take n ≠ [] := by
      rw [← List.length_pos_iff, List.length_take, List.length_cons]
      omega
    rw [cut_eq_of_first? (List.cons_ne_nil c cs) hfirst] at hcut
    have hspell := spelling_cut .standard (rule.next.getD mode) ((c :: cs).drop n)
    rcases eq_append_or_eq_append_cons hcut with ⟨more, rfl, hrest⟩ | ⟨more, hmade, rfl⟩
    · obtain ⟨before, ds, hmore, hpreceded⟩ := ih hrest
      rw [hrest, spelling_append, spelling_cons, hmore, List.append_assoc] at hspell
      refine ⟨(c :: cs).take n ++ before, ds, ?_,
        hpreceded.append_match hdigit hrule htake hmatch rfl hspell.symm⟩
      rw [spelling_append, spelling_ofMatch, hmore, List.append_assoc]
    · -- the number is the match, and nothing stands before it
      have hp : p ∈ ofMatch rule ((c :: cs).take n) := by rw [hmade]; simp
      obtain ⟨hmode, hrecognize, htext, hsingle⟩ := of_mem_ofMatch_number hrule hp hkind
      rw [hsingle, Eq.comm, List.append_eq_singleton_iff] at hmade
      obtain ⟨rfl, hmore⟩ | ⟨-, hmore⟩ := hmade
      · cases (List.cons.inj hmore).2
        rw [hrecognize] at hmatch
        obtain ⟨u, v, hsplit, hadmissible, rfl⟩ := mem_literalLengths_of_number? hmatch
        rw [hsplit, List.take_left] at htext
        rw [hsplit, List.drop_left] at hspell ⊢
        rw [← htext] at hadmissible
        rw [List.nil_append, hspell]
        exact ⟨[], [], rfl, fun _ => hmode, nofun, nofun, fun hne => absurd rfl hne, .inr nofun,
          hadmissible⟩
      · cases hmore
  | unmatched mode c cs hfirst ih =>
    have hspell := spelling_cut .standard mode cs
    rw [cut_of_first?_eq_none hfirst] at hcut
    cases front with
    | nil =>
      cases (List.cons.inj hcut).1
      cases hkind
    | cons q front =>
      obtain ⟨rfl, hrest⟩ : unclaimed c = q ∧ (cut .standard mode cs).1 = front ++ p :: back :=
        List.cons.inj hcut
      obtain ⟨before, ds, hfront, hpreceded⟩ := ih hrest
      rw [hrest, spelling_append, spelling_cons, hfront, List.append_assoc] at hspell
      rw [← hspell] at hfirst
      rw [spelling_cons, hfront]
      exact hpreceded.exists_cons hfirst

/-- Numbers are not joined to anything, so one of the joined pieces has been cut off as it is. -/
theorem exists_append_of_join {pieces : List Piece} (hhonest : ∀ p ∈ pieces, p.Honest)
    {front back : List Piece} {p : Piece} (h : join pieces = front ++ p :: back)
    (hkind : p.kind = .number) :
    ∃ first last, pieces = first ++ p :: last ∧ spelling first = spelling front ∧
      spelling last = spelling back := by
  induction pieces generalizing front with
  | nil =>
    have hnil : ([] : List Piece) = front ++ p :: back := h
    simp at hnil
  | cons q rest ih =>
    rw [List.forall_mem_cons] at hhonest
    have hjoin : attach q (join rest) = front ++ p :: back := h
    obtain hattach | ⟨r, others, hrest, hjoins, hattach⟩ := attach_cases q (join rest)
    · rw [hattach] at hjoin
      cases front with
      | nil =>
        obtain ⟨rfl, rfl⟩ := List.cons.inj hjoin
        exact ⟨[], rest, rfl, rfl, (spelling_join rest).symm⟩
      | cons f front =>
        obtain ⟨rfl, hmore⟩ := List.cons.inj hjoin
        obtain ⟨first, last, rfl, hfirst, hlast⟩ := ih hhonest.2 hmore
        refine ⟨q :: first, last, rfl, ?_, hlast⟩
        rw [spelling_cons, spelling_cons, hfirst]
    · rw [hattach] at hjoin
      cases front with
      | nil =>
        obtain ⟨rfl, -⟩ := List.cons.inj hjoin
        have hnumber : q.kind = .number := hkind
        unfold joins at hjoins
        split_ifs at hjoins with hclaimed
        · simp [hnumber] at hjoins
        · rw [Bool.not_eq_true] at hclaimed
          rw [hhonest.1 hclaimed] at hnumber
          cases hnumber
      | cons f front =>
        obtain ⟨rfl, hmore⟩ := List.cons.inj hjoin
        have hlater : join rest = (r :: front) ++ p :: back := by rw [hrest, hmore]; rfl
        obtain ⟨first, last, rfl, hfirst, hlast⟩ := ih hhonest.2 hlater
        refine ⟨q :: first, last, rfl, ?_, hlast⟩
        rw [spelling_cons, spelling_cons, hfirst, spelling_cons, extend, List.append_assoc]

end Piece

/-- Digits in front of a number on a line that are refused together with it. They are zeros, unless
the number announces its base. -/
structure StrayDigits (line : Text) (number : Token) (before ds : Text) : Prop where
  place : line.take number.start = before ++ ds
  nonempty : ds ≠ []
  decimal : ∀ c ∈ ds, c.isDigit = true
  ends : EndsOutside isAsciiWord before
  refused : NumberLiteral.number? (ds ++ line.drop number.start) = none
  cause : NumberLiteral.isBased number.lexeme = true ∨ ∀ c ∈ ds, c = '0'

/-- A number that begins with a digit begins where no word goes on, unless stray digits stand before
it. -/
theorem endsOutside_iff_not_strayDigits {mode : Mode} {line : Text} {t : Token}
    (ht : t ∈ (lexLine mode line).tokens) (hkind : t.kind = .number)
    (hdigit : ∃ c ∈ t.lexeme.head?, c.isDigit = true) :
    EndsOutside isAsciiWord (line.take t.start) ↔ ¬ ∃ before ds, StrayDigits line t before ds := by
  obtain ⟨front, p, back, hjoin, rfl⟩ := Piece.exists_append_of_mem_layOut ht
  have hnumber : p.kind = .number := hkind
  obtain ⟨first, last, hcut, hfirst, hlast⟩ :=
    Piece.exists_append_of_join (Piece.honest_cut .standard mode line) hjoin hnumber
  have hbegins : ¬ BeginsOutside Char.isDigit p.text := by
    obtain ⟨c, hc, hcdigit⟩ := hdigit
    intro houtside
    exact Bool.eq_false_iff.mp (houtside c hc) hcdigit
  obtain ⟨before, ds, hspell, hpreceded⟩ := Piece.exists_preceded mode line hcut hnumber hbegins
  have hline := Piece.spelling_cut .standard mode line
  rw [hcut, Piece.spelling_append, Piece.spelling_cons] at hline
  have hstart : (Token.place p.kind p.text (0 + (Piece.spelling front).length)).start =
      (Piece.spelling first).length := by
    rw [hfirst]
    exact Nat.zero_add _
  have htake : line.take (Piece.spelling first).length = before ++ ds := by
    rw [← hline, List.take_left, hspell]
  have hdrop : line.drop (Piece.spelling first).length = p.text ++ Piece.spelling last := by
    rw [← hline, List.drop_left]
  rw [hstart]
  constructor
  · rintro hends ⟨other, digits, hstray⟩
    obtain ⟨c, hc⟩ := Option.isSome_iff_exists.mp (List.getLast?_isSome.mpr hstray.nonempty)
    have hlast : c ∈ (line.take (Piece.spelling first).length).getLast? := by
      rw [← hstart, hstray.place, List.getLast?_append_of_ne_nil _ hstray.nonempty]
      exact hc
    have hdecimal := hstray.decimal c (List.mem_of_getLast? hc)
    exact Bool.eq_false_iff.mp (hends c hlast) (isAsciiWord_of_isDigit hdecimal)
  · intro hnone
    by_cases hds : ds = []
    · rw [htake, hds, List.append_nil]
      exact hpreceded.ends
    · refine absurd ⟨before, ds, ?_⟩ hnone
      constructor
      case place => rw [hstart, htake]
      case nonempty => exact hds
      case decimal => exact hpreceded.decimal
      case ends => exact hpreceded.ends
      case refused =>
        rw [hstart, hdrop]
        exact hpreceded.refused hds
      case cause => exact hpreceded.cause

/-- Behind an operator a number may begin. -/
theorem endsOutside_iff_not_strayDigits_sum :
    let line : Text := ['1', '0', '+', '2', '5']
    let t : Token := ⟨.number, ['2', '5'], 3, 5⟩
    t ∈ (lexLine .code line).tokens ∧ t.kind = .number ∧
      (∃ c ∈ t.lexeme.head?, c.isDigit = true) ∧
      (EndsOutside isAsciiWord (line.take t.start) ↔
        ¬ ∃ before ds, StrayDigits line t before ds) := by
  intro line t
  have ht : t ∈ (lexLine .code line).tokens := by decide +kernel
  have hdigit : ∃ c ∈ t.lexeme.head?, c.isDigit = true := ⟨'2', rfl, rfl⟩
  exact ⟨ht, rfl, hdigit, endsOutside_iff_not_strayDigits ht rfl hdigit⟩

/-- Behind a leading zero the rest of the digits is taken for a number. -/
theorem number_behind_zero :
    let line : Text := ['0', '1', '2', '3']
    let t : Token := ⟨.number, ['1', '2', '3'], 1, 4⟩
    t ∈ (lexLine .code line).tokens ∧ t.kind = .number ∧
      (∃ c ∈ t.lexeme.head?, c.isDigit = true) ∧ ¬ EndsOutside isAsciiWord (line.take t.start) ∧
      NumberLiteral.number? line = none := by
  intro line t
  have ht : t ∈ (lexLine .code line).tokens := by decide +kernel
  refine ⟨ht, rfl, ⟨'1', rfl, rfl⟩, ?_, rfl⟩
  intro hends
  exact absurd (hends '0' rfl) (by decide)

end EditorAssist
