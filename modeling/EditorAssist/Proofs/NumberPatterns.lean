import EditorAssist.Proofs.Backtracking

/-! The patterns of number literals. A backtracking search for them finds what is read character by
character. -/
namespace EditorAssist
namespace NumberLiteral
open Pattern

section
variable {digit : Char → Bool}

/-- One more digit, perhaps with an underscore before it. -/
def nextDigit (digit : Char → Bool) : Pattern :=
  .seq (.optional (.one (· == '_'))) (.one digit)

def digitsPattern (digit : Char → Bool) : Pattern :=
  .seq (.one digit) (.many (nextDigit digit))

/-- Where the digits at a place of a text end. -/
def digitsFrom? (digit : Char → Bool) (t : Text) (i : Nat) : Option Nat :=
  if digits digit (t.drop i) = 0 then none else some (i + digits digit (t.drop i))

theorem ends_nextDigit (t : Text) (i : Nat) : (nextDigit digit).ends t i =
    ((one (· == '_')).ends t i ++ [i]).flatMap ((one digit).ends t) := rfl

theorem ends_nextDigit_of_digit (hunderscore : digit '_' = false) {t cs : Text} {i : Nat} {c : Char}
    (h : t.drop i = c :: cs) (hc : digit c = true) : (nextDigit digit).ends t i = [i + 1] := by
  have hother : (c == '_') = false := beq_eq_false_iff_ne.mpr (ne_of_class hc hunderscore)
  rw [ends_nextDigit, ends_one_of_drop h, hother]
  simp [ends_one_of_drop h, hc]

theorem ends_nextDigit_of_underscore (hunderscore : digit '_' = false) {t cs : Text} {i : Nat}
    {c : Char} (h : t.drop i = '_' :: c :: cs) (hc : digit c = true) :
    (nextDigit digit).ends t i = [i + 2] := by
  have hnext := drop_succ_of_drop h
  rw [ends_nextDigit, ends_one_of_drop h]
  simp [ends_one_of_drop h, ends_one_of_drop hnext, hunderscore, hc]

theorem ends_nextDigit_eq_nil {t : Text} {i : Nat} (hi : BeginsOutside digit (t.drop i))
    (hnext : ∀ cs, t.drop i = '_' :: cs → BeginsOutside digit cs) :
    (nextDigit digit).ends t i = [] := by
  have hstay := ends_one_eq_nil hi
  rw [ends_nextDigit]
  by_cases hunderscore : BeginsOutside (· == '_') (t.drop i)
  · rw [ends_one_eq_nil hunderscore]
    simp [hstay]
  · obtain ⟨c, cs, hdrop, hc⟩ := exists_of_not_beginsOutside hunderscore
    cases eq_of_beq hc
    have hskip := hnext cs hdrop
    rw [← drop_succ_of_drop hdrop] at hskip
    rw [ends_one_of_drop hdrop]
    simp [hstay, ends_one_eq_nil hskip]

theorem moreDigits_eq_zero_of_ends {rest : Text} (h : BeginsOutside digit rest)
    (hnext : ∀ cs, rest = '_' :: cs → BeginsOutside digit cs) : moreDigits digit rest = 0 := by
  fun_cases moreDigits digit rest with
  | case1 => rfl
  | case2 c hc => exact absurd hc (Bool.eq_false_iff.mp (h c rfl))
  | case3 c hc => rfl
  | case4 c d cs hc => exact absurd hc (Bool.eq_false_iff.mp (h c rfl))
  | case5 c d cs _ hc =>
    obtain ⟨hunderscore, hd⟩ := Bool.and_eq_true_iff.mp hc
    cases eq_of_beq hunderscore
    exact absurd hd (Bool.eq_false_iff.mp (hnext (d :: cs) rfl d rfl))
  | case6 c d cs _ _ => rfl

theorem consumes_nextDigit (digit : Char → Bool) (t : Text) : Consumes t (nextDigit digit) := by
  intro i j hj
  obtain ⟨m, hm, hj⟩ := List.mem_flatMap.mp hj
  obtain ⟨rfl, hlt⟩ := of_mem_one hj
  rcases List.mem_append.mp hm with hm | hm
  · have hskip := (of_mem_one hm).1
    omega
  · have hstay := List.mem_singleton.mp hm
    omega

/-- Repetition reads the run of digits, and can stop earlier only where the run goes on. -/
theorem greedy_many_nextDigit (hunderscore : digit '_' = false) {t : Text} {count i : Nat}
    (hcount : t.length ≤ i + count) : Greedy (fun c => digit c || c == '_') t
      ((many (nextDigit digit)).ends t i) (some (i + moreDigits digit (t.drop i))) := by
  have hconsumes := consumes_nextDigit digit t
  -- by induction on the number of characters left, two of which may go in one round
  induction count generalizing i with
  | zero =>
    have hnil : t.drop i = [] := List.drop_eq_nil_of_le hcount
    have hstop : (nextDigit digit).ends t i = [] :=
      ends_nextDigit_eq_nil (by simp [hnil, BeginsOutside]) (by simp [hnil])
    rw [hnil]
    exact greedy_many_of_nil hconsumes hstop
  | succ count ih =>
    have hgoes : ∀ {c cs}, t.drop i = c :: cs → (digit c || c == '_') = true →
        ¬ BeginsOutside (fun c => digit c || c == '_') (t.drop i) := by
      intro c cs hdrop hc houtside
      exact Bool.eq_false_iff.mp (houtside c (by rw [hdrop]; rfl)) hc
    by_cases hdigit : BeginsOutside digit (t.drop i)
    case neg =>
      obtain ⟨c, cs, hdrop, hc⟩ := exists_of_not_beginsOutside hdigit
      have hround := ends_nextDigit_of_digit hunderscore hdrop hc
      have hrest := ih (i := i + 1) (by omega)
      have hend : i + moreDigits digit (t.drop i) = i + 1 + moreDigits digit (t.drop (i + 1)) := by
        rw [hdrop, moreDigits_cons hc, drop_succ_of_drop hdrop]
        omega
      rw [hend]
      exact greedy_many_of_round hconsumes hround (hgoes hdrop (by simp [hc])) hrest
    by_cases hseparated : ∀ cs, t.drop i = '_' :: cs → BeginsOutside digit cs
    case pos =>
      rw [moreDigits_eq_zero_of_ends hdigit hseparated]
      exact greedy_many_of_nil hconsumes (ends_nextDigit_eq_nil hdigit hseparated)
    case neg =>
      simp only [not_forall] at hseparated
      obtain ⟨tail, htail, hgoing⟩ := hseparated
      obtain ⟨c, cs, rfl, hc⟩ := exists_of_not_beginsOutside hgoing
      have hround := ends_nextDigit_of_underscore hunderscore htail hc
      have hdrop := drop_succ_of_drop (drop_succ_of_drop htail)
      have hrest := ih (i := i + 2) (by omega)
      have hend : i + moreDigits digit (t.drop i) = i + 2 + moreDigits digit (t.drop (i + 2)) := by
        rw [htail, moreDigits_separated hunderscore hc, hdrop]
        omega
      rw [hend]
      exact greedy_many_of_round hconsumes hround (hgoes htail (by simp)) hrest

theorem greedy_digits (hunderscore : digit '_' = false) (t : Text) (i : Nat) :
    Greedy (fun c => digit c || c == '_') t ((digitsPattern digit).ends t i)
      (digitsFrom? digit t i) := by
  by_cases hdigit : BeginsOutside digit (t.drop i)
  · rw [digitsPattern, ends_seq_one_eq_nil hdigit, digitsFrom?, digits_eq_zero hdigit]
    exact .nil
  · obtain ⟨c, cs, hdrop, hc⟩ := exists_of_not_beginsOutside hdigit
    have hmore := drop_succ_of_drop hdrop
    have hend : digitsFrom? digit t i = some (i + 1 + moreDigits digit (t.drop (i + 1))) := by
      rw [digitsFrom?, hdrop, digits, if_pos hc, if_neg (Nat.succ_ne_zero _), hmore]
      congr 1
      omega
    rw [hend, digitsPattern, ends_seq_one_of_drop hdrop hc]
    exact greedy_many_nextDigit hunderscore (Nat.le_add_left t.length (i + 1))

theorem ends_digits_eq_nil {t : Text} {i : Nat} (h : BeginsOutside digit (t.drop i)) :
    (digitsPattern digit).ends t i = [] :=
  ends_seq_one_eq_nil h _

end

def decimals : Pattern :=
  digitsPattern Char.isDigit

def pointedPattern : Pattern :=
  .either (.seq (.optional decimals) (.seq (.one (· == '.')) decimals))
    (.seq decimals (.one (· == '.')))

def exponentPattern : Pattern :=
  .seq (.one fun c => c == 'e' || c == 'E')
    (.seq (.optional (.one fun c => c == '+' || c == '-')) decimals)

def floatPattern : Pattern :=
  .either (.seq (.either pointedPattern decimals) exponentPattern) pointedPattern

theorem greedy_decimals (t : Text) (i : Nat) :
    Greedy (fun c => c.isDigit || c == '_') t (decimals.ends t i) (digitsFrom? Char.isDigit t i) :=
  greedy_digits rfl t i

theorem eq_of_digitsFrom? {digit : Char → Bool} {t : Text} {i n : Nat}
    (h : digitsFrom? digit t i = some n) :
    digits digit (t.drop i) ≠ 0 ∧ n = i + digits digit (t.drop i) := by
  unfold digitsFrom? at h
  split_ifs at h with hzero
  exact ⟨hzero, (Option.some.inj h).symm⟩

theorem digitsFrom?_zero (t : Text) : digitsFrom? Char.isDigit t 0 =
    if digits Char.isDigit t = 0 then none else some (digits Char.isDigit t) := by
  rw [digitsFrom?, List.drop_zero, Nat.zero_add]

theorem eq_of_digitsFrom?_zero {digit : Char → Bool} {t : Text} {n : Nat}
    (h : digitsFrom? digit t 0 = some n) : n = digits digit t := by
  have hn := (eq_of_digitsFrom? h).2
  rwa [List.drop_zero, Nat.zero_add] at hn

/-- The number of signs at the start of a text. -/
def signWidth (t : Text) : Nat :=
  if t.head?.any (fun s => s == '+' || s == '-') then 1 else 0

theorem greedy_sign (t : Text) (i : Nat) :
    Greedy (fun c => c == '+' || c == '-') t
      ((optional (.one fun c => c == '+' || c == '-')).ends t i)
      (some (i + signWidth (t.drop i))) := by
  have hvalue : some (i + signWidth (t.drop i)) =
      ((if (t.drop i).head?.any fun c => c == '+' || c == '-' then some (i + 1) else none) <|>
        some i) := by
    unfold signWidth
    split_ifs <;> rfl
  rw [hvalue]
  refine (greedy_one _ _ t i).append (.single i) fun n j hn hj houtside => ?_
  cases Option.some.inj hj
  rw [head?_any_eq_false houtside] at hn
  cases hn

theorem exponent?_cons {c : Char} (hc : (c == 'e' || c == 'E') = true) (cs : Text) :
    exponent? (c :: cs) = if digits Char.isDigit (cs.drop (signWidth cs)) = 0 then none
      else some (1 + signWidth cs + digits Char.isDigit (cs.drop (signWidth cs))) := by
  rw [exponent?, if_pos hc]
  rfl

theorem greedy_exponent (t : Text) (i : Nat) :
    Greedy (fun c => c.isDigit || c == '_') t (exponentPattern.ends t i)
      ((exponent? (t.drop i)).map (i + ·)) := by
  by_cases hletter : BeginsOutside (fun c => c == 'e' || c == 'E') (t.drop i)
  · rw [exponentPattern, ends_seq_one_eq_nil hletter, exponent?_eq_none hletter]
    exact .nil
  · obtain ⟨c, cs, hdrop, hc⟩ := exists_of_not_beginsOutside hletter
    have hmore := drop_succ_of_drop hdrop
    have hskip : t.drop (i + 1 + signWidth cs) = cs.drop (signWidth cs) := by
      rw [← List.drop_drop, hmore]
    have hvalue : (exponent? (c :: cs)).map (i + ·) =
        (some (i + 1 + signWidth (t.drop (i + 1)))).bind (digitsFrom? Char.isDigit t) := by
      rw [hmore, Option.bind_some, digitsFrom?, hskip, exponent?_cons hc]
      split_ifs
      · rfl
      · rw [Option.map_some]
        congr 1
        omega
    rw [hdrop, hvalue, exponentPattern, ends_seq_one_of_drop hdrop hc]
    exact (greedy_sign t (i + 1)).flatMap (fun n _ => greedy_decimals t n) fun n _ hgoes =>
      ends_digits_eq_nil (beginsOutside_of_class (class_of_pair rfl rfl) hgoes)

/-- A point and the digits behind it. -/
def fraction : Pattern :=
  .seq (.one (· == '.')) decimals

def fractionFrom? (t : Text) (i : Nat) : Option Nat :=
  if (t.drop i).head?.any (· == '.') then digitsFrom? Char.isDigit t (i + 1) else none

theorem digit_ne_point : ∀ c, (c.isDigit || c == '_') = true → (c == '.') = false := by
  intro c hc
  rw [beq_eq_false_iff_ne]
  exact ne_of_class (p := fun c => c.isDigit || c == '_') hc rfl

theorem greedy_fraction (t : Text) (i : Nat) :
    Greedy (fun c => c.isDigit || c == '_') t (fraction.ends t i) (fractionFrom? t i) :=
  greedy_seq_one (greedy_decimals t (i + 1))

theorem greedy_optional_decimals (t : Text) :
    Greedy (fun c => c.isDigit || c == '_') t ((optional decimals).ends t 0)
      (some (digits Char.isDigit t)) := by
  have hvalue : some (digits Char.isDigit t) = (digitsFrom? Char.isDigit t 0 <|> some 0) := by
    rw [digitsFrom?, List.drop_zero, Nat.zero_add]
    split_ifs with hzero
    · rw [hzero]
      rfl
    · rfl
  rw [hvalue]
  refine (greedy_decimals t 0).append (.single 0) fun n j hn hj houtside => ?_
  cases Option.some.inj hj
  exact absurd (decimals_eq_zero houtside) (eq_of_digitsFrom? hn).1

def pointFrom? (t : Text) (i : Nat) : Option Nat :=
  if (t.drop i).head?.any (· == '.') then some (i + 1) else none

theorem pointed?_eq_choice (t : Text) :
    pointed? t = ((some (digits Char.isDigit t)).bind (fractionFrom? t) <|>
      (digitsFrom? Char.isDigit t 0).bind (pointFrom? t)) := by
  rw [Option.bind_some, digitsFrom?_zero]
  by_cases hpoint : BeginsOutside (· == '.') (t.drop (digits Char.isDigit t))
  · have hnone := head?_any_eq_false hpoint
    have hfraction : fractionFrom? t (digits Char.isDigit t) = none := by
      rw [fractionFrom?, hnone]
      rfl
    have hwhole : pointFrom? t (digits Char.isDigit t) = none := by
      rw [pointFrom?, hnone]
      rfl
    rw [pointed?_eq_none hpoint, hfraction]
    split_ifs
    · rfl
    · exact hwhole.symm
  · obtain ⟨c, rest, hrest, hc⟩ := exists_of_not_beginsOutside hpoint
    cases eq_of_beq hc
    have hmore := drop_succ_of_drop hrest
    have hfraction : fractionFrom? t (digits Char.isDigit t) = if digits Char.isDigit rest = 0
        then none else some (digits Char.isDigit t + 1 + digits Char.isDigit rest) := by
      rw [fractionFrom?, hrest, digitsFrom?, hmore]
      rfl
    have hwhole : pointFrom? t (digits Char.isDigit t) = some (digits Char.isDigit t + 1) := by
      rw [pointFrom?, hrest]
      rfl
    simp only [pointed?, hrest]
    rw [hfraction]
    by_cases hnone : digits Char.isDigit rest = 0
    · by_cases hzero : digits Char.isDigit t = 0
      · rw [if_pos ⟨hzero, hnone⟩, if_pos hnone, if_pos hzero]
        rfl
      · rw [if_neg fun h => hzero h.1, if_pos hnone, if_neg hzero, hnone]
        exact hwhole.symm
    · rw [if_neg fun h => hnone h.2, if_neg hnone]
      rfl

theorem greedy_pointed (t : Text) :
    Greedy (fun c => c.isDigit || c == '_') t (pointedPattern.ends t 0) (pointed? t) := by
  have hfirst := (greedy_optional_decimals t).flatMap (fun n _ => greedy_fraction t n)
    fun n _ hgoes => ends_seq_one_eq_nil (beginsOutside_of_class digit_ne_point hgoes) _
  have hsecond : Greedy (fun c => c.isDigit || c == '_') t
      ((seq decimals (one (· == '.'))).ends t 0)
      ((digitsFrom? Char.isDigit t 0).bind (pointFrom? t)) :=
    (greedy_decimals t 0).flatMap (fun n _ => greedy_one _ _ t n)
      fun n _ hgoes => ends_one_eq_nil (beginsOutside_of_class digit_ne_point hgoes)
  rw [pointed?_eq_choice]
  refine hfirst.append hsecond fun n j hn hj houtside => ?_
  -- the second choice ends behind the point, where the first found a digit
  obtain ⟨m, hm, hpoint⟩ := Option.bind_eq_some_iff.mp hj
  cases eq_of_digitsFrom?_zero hm
  rw [Option.bind_some] at hn
  unfold fractionFrom? at hn
  unfold pointFrom? at hpoint
  split_ifs at hn hpoint
  cases Option.some.inj hpoint
  exact absurd (decimals_eq_zero houtside) (eq_of_digitsFrom? hn).1

theorem float?_eq_choice (t : Text) :
    float? t = (((pointed? t <|> digitsFrom? Char.isDigit t 0).bind fun n =>
      (exponent? (t.drop n)).map (n + ·)) <|> pointed? t) := by
  rw [digitsFrom?_zero]
  unfold float?
  cases hpointed : pointed? t with
  | some n =>
    cases hexponent : exponent? (t.drop n) with
    | some k => simp [hexponent]
    | none => simp [hexponent]
  | none =>
    by_cases hzero : digits Char.isDigit t = 0
    · simp [hzero]
    · simp [hzero]

theorem greedy_real (t : Text) :
    Greedy (fun c => c.isDigit || c == '_' || c == '.') t
      ((either pointedPattern decimals).ends t 0) (pointed? t <|> digitsFrom? Char.isDigit t 0) := by
  have hpointed := (greedy_pointed t).mono (q := fun c => c.isDigit || c == '_' || c == '.')
    fun c hc => by rw [hc]; rfl
  have hdecimals := (greedy_decimals t 0).mono (q := fun c => c.isDigit || c == '_' || c == '.')
    fun c hc => by rw [hc]; rfl
  refine hpointed.append hdecimals fun n j hn hj houtside => ?_
  cases eq_of_digitsFrom?_zero hj
  rw [pointed?_eq_none (houtside.mono fun c hc => by simp [hc])] at hn
  cases hn

theorem greedy_float (t : Text) :
    Greedy (fun c => c.isDigit || c == '_' || c == '.' || c == 'e' || c == 'E') t
      (floatPattern.ends t 0) (float? t) := by
  have hscaled := (greedy_real t).flatMap (fun n _ => greedy_exponent t n)
    fun n _ hgoes => ends_seq_one_eq_nil (beginsOutside_of_class (not_pair rfl rfl) hgoes) _
  have hsub : ∀ c : Char, (c.isDigit || c == '_') = true →
      (c.isDigit || c == '_' || c == '.' || c == 'e' || c == 'E') = true := by
    intro c hc
    rw [hc]
    rfl
  rw [float?_eq_choice]
  refine (hscaled.mono hsub).append ((greedy_pointed t).mono hsub) fun n j hn hj houtside => ?_
  -- an exponent stands behind the point and its digits, if the first choice was found
  have hexponent : exponent? (t.drop j) = none := EndsFloat.exponent?_eq_none houtside
  have hfound : (some j <|> digitsFrom? Char.isDigit t 0) = some j := rfl
  rw [hj, hfound, Option.bind_some, hexponent] at hn
  cases hn

/-- A letter that ends a literal at a word boundary. -/
def suffixPattern (letter : Char → Bool) : Pattern :=
  .seq (.one letter) .boundary

def imaginaryPattern : Pattern :=
  .seq (.either floatPattern decimals) (suffixPattern fun c => c == 'j' || c == 'J')

theorem greedy_suffix {letter q : Char → Bool} (hletter : ∀ c, letter c = true → isWordChar c = true)
    (t : Text) (n : Nat) : Greedy q t ((suffixPattern letter).ends t n) (suffixed? letter t n) := by
  rw [suffixed?]
  by_cases houtside : BeginsOutside letter (t.drop n)
  · rw [suffixPattern, ends_seq_one_eq_nil houtside]
    have hnone : suffixed? letter t n = none := suffixed?_eq_none houtside
    rw [suffixed?] at hnone
    rw [hnone]
    exact .nil
  · obtain ⟨c, rest, hdrop, hc⟩ := exists_of_not_beginsOutside houtside
    have hboundary := wordBoundary_iff (getLast?_take_succ hdrop) (hletter c hc) rest
    rw [suffixPattern, ends_seq_one_of_drop hdrop hc, ends, drop_succ_of_drop hdrop, hdrop]
    simp only [hc, Bool.true_and, hboundary]
    split_ifs
    · exact .single _
    · exact .nil

theorem ends_suffix_eq_nil {letter : Char → Bool} {t : Text} {n : Nat}
    (h : BeginsOutside letter (t.drop n)) : (suffixPattern letter).ends t n = [] :=
  ends_seq_one_eq_nil h _

theorem imaginary?_eq_find? (t : Text) : imaginary? t = imaginaryPattern.find? t := by
  have hbody : Greedy (fun c => c.isDigit || c == '_' || c == '.' || c == 'e' || c == 'E') t
      ((either floatPattern decimals).ends t 0) (float? t <|> digitsFrom? Char.isDigit t 0) := by
    refine (greedy_float t).append ((greedy_decimals t 0).mono fun c hc => by rw [hc]; rfl)
      fun n j hn hj houtside => ?_
    cases eq_of_digitsFrom?_zero hj
    rw [float?_eq_none houtside] at hn
    cases hn
  have hsuffix : Greedy (fun _ => true) t (imaginaryPattern.ends t 0)
      ((float? t <|> digitsFrom? Char.isDigit t 0).bind
        (suffixed? (fun c => c == 'j' || c == 'J') t)) :=
    hbody.flatMap (fun n _ => greedy_suffix (class_of_pair rfl rfl) t n)
      fun n _ hgoes => ends_suffix_eq_nil (beginsOutside_of_class (not_pair rfl rfl) hgoes)
  rw [find?, hsuffix.head, digitsFrom?_zero, imaginary?]
  cases float? t with
  | some n => rfl
  | none => rfl

def basedPattern (lower upper : Char) (digit : Char → Bool) : Pattern :=
  .seq (.one (· == '0')) (.seq (.one fun c => c == lower || c == upper) (digitsPattern digit))

def wholePattern : Pattern :=
  .seq (.one fun c => c.isDigit && c != '0') (.many (nextDigit Char.isDigit))

def integerPattern : Pattern :=
  .either (basedPattern 'o' 'O' isOctal) (.either (basedPattern 'x' 'X' isHex)
    (.either (basedPattern 'b' 'B' isBinary) (.either wholePattern (.one (· == '0')))))

/-- A character that integers are made of. -/
def isIntegerChar (c : Char) : Bool :=
  isHex c || c == '_' || c == 'o' || c == 'O' || c == 'x' || c == 'X'

section
variable {letter : Char} {cs : Text}

theorem ends_based {lower upper : Char} {digit : Char → Bool}
    (h : (letter == lower || letter == upper) = true) :
    (basedPattern lower upper digit).ends ('0' :: letter :: cs) 0 =
      (digitsPattern digit).ends ('0' :: letter :: cs) 2 := by
  have hzero : ('0' :: letter :: cs).drop 0 = '0' :: letter :: cs := rfl
  have hletter : ('0' :: letter :: cs).drop 1 = letter :: cs := rfl
  rw [basedPattern, ends_seq_one_of_drop hzero rfl, ends_seq_one_of_drop hletter h]

theorem ends_based_eq_nil {lower upper : Char} {digit : Char → Bool}
    (h : (letter == lower || letter == upper) = false) :
    (basedPattern lower upper digit).ends ('0' :: letter :: cs) 0 = [] := by
  have hzero : ('0' :: letter :: cs).drop 0 = '0' :: letter :: cs := rfl
  rw [basedPattern, ends_seq_one_of_drop hzero rfl]
  exact ends_seq_one_eq_nil (beginsOutside_cons h) _

theorem ends_integer_zero (t : Text) : integerPattern.ends ('0' :: t) 0 =
    (basedPattern 'o' 'O' isOctal).ends ('0' :: t) 0 ++
      ((basedPattern 'x' 'X' isHex).ends ('0' :: t) 0 ++
        ((basedPattern 'b' 'B' isBinary).ends ('0' :: t) 0 ++ [1])) := rfl

theorem ends_integer_of_base {digit : Char → Bool} (h : IsBase letter digit) :
    integerPattern.ends ('0' :: letter :: cs) 0 =
      (digitsPattern digit).ends ('0' :: letter :: cs) 2 ++ [1] := by
  rw [ends_integer_zero]
  cases h with
  | octal hc =>
    rcases hc with rfl | rfl <;>
      rw [ends_based rfl, ends_based_eq_nil rfl, ends_based_eq_nil rfl] <;> rfl
  | hex hc =>
    rcases hc with rfl | rfl <;>
      rw [ends_based_eq_nil rfl, ends_based rfl, ends_based_eq_nil rfl] <;> rfl
  | binary hc =>
    rcases hc with rfl | rfl <;>
      rw [ends_based_eq_nil rfl, ends_based_eq_nil rfl, ends_based rfl] <;> rfl

theorem ends_integer_of_no_base (h : ∀ digit, ¬ IsBase letter digit) :
    integerPattern.ends ('0' :: letter :: cs) 0 = [1] := by
  have hoctal : ¬ (letter = 'o' ∨ letter = 'O') := fun hc => h _ (.octal hc)
  have hhex : ¬ (letter = 'x' ∨ letter = 'X') := fun hc => h _ (.hex hc)
  have hbinary : ¬ (letter = 'b' ∨ letter = 'B') := fun hc => h _ (.binary hc)
  rw [ends_integer_zero, ends_based_eq_nil (by simpa using hoctal),
    ends_based_eq_nil (by simpa using hhex), ends_based_eq_nil (by simpa using hbinary)]
  rfl

theorem ends_integer_of_ne {t : Text} (h : BeginsOutside (· == '0') t) :
    integerPattern.ends t 0 = decimals.ends t 0 := by
  have hbased : ∀ lower upper digit, (basedPattern lower upper digit).ends t 0 = [] :=
    fun lower upper digit => ends_seq_one_eq_nil h _
  have hzero : (one (· == '0')).ends t 0 = [] := ends_one_eq_nil h
  have hwhole : wholePattern.ends t 0 = decimals.ends t 0 := by
    cases t with
    | nil => rfl
    | cons c cs =>
      have hc : c ≠ '0' := beq_eq_false_iff_ne.mp (h c rfl)
      unfold wholePattern decimals digitsPattern
      rw [ends, ends, ends, ends]
      simp [hc]
  have hends : integerPattern.ends t 0 = (basedPattern 'o' 'O' isOctal).ends t 0 ++
      ((basedPattern 'x' 'X' isHex).ends t 0 ++ ((basedPattern 'b' 'B' isBinary).ends t 0 ++
        (wholePattern.ends t 0 ++ (one (· == '0')).ends t 0))) := rfl
  rw [hends, hbased, hbased, hbased, hwhole, hzero, List.append_nil]
  rfl

end

theorem isIntegerChar_of_isHex {c : Char} (h : isHex c = true) : isIntegerChar c = true := by
  simp [isIntegerChar, h]

theorem IsBase.integer?_eq {c : Char} {digit : Char → Bool} (h : IsBase c digit) (cs : Text) :
    integer? ('0' :: c :: cs) =
      if digits digit cs = 0 then some 1 else some (digits digit cs + 2) := by
  cases h with
  | octal hc => rcases hc with rfl | rfl <;> rfl
  | hex hc => rcases hc with rfl | rfl <;> rfl
  | binary hc => rcases hc with rfl | rfl <;> rfl

theorem integer?_eq_some_one {c : Char} (h : ∀ digit, ¬ IsBase c digit) (cs : Text) :
    integer? ('0' :: c :: cs) = some 1 := by
  have hoctal : ¬ (c = 'o' ∨ c = 'O') := fun hc => h _ (.octal hc)
  have hhex : ¬ (c = 'x' ∨ c = 'X') := fun hc => h _ (.hex hc)
  have hbinary : ¬ (c = 'b' ∨ c = 'B') := fun hc => h _ (.binary hc)
  simp [integer?, hoctal, hhex, hbinary]

theorem integer?_eq_digits {c : Char} (hc : c ≠ '0') (cs : Text) :
    integer? (c :: cs) = if digits Char.isDigit (c :: cs) = 0 then none
      else some (digits Char.isDigit (c :: cs)) := by
  rw [integer?]
  · exact fun letter rest hzero => hc (List.cons.inj hzero).1
  · exact fun hzero => hc (List.cons.inj hzero).1

theorem IsBase.isHex {c : Char} {digit : Char → Bool} (h : IsBase c digit) :
    ∀ d, digit d = true → isHex d = true := by
  cases h with
  | octal => exact fun d => isHex_of_isOctal
  | hex => exact fun d => id
  | binary => exact fun d => isHex_of_isBinary

theorem IsBase.isIntegerChar {c : Char} {digit : Char → Bool} (h : IsBase c digit) :
    isIntegerChar c = true := by
  cases h with
  | octal hc => rcases hc with rfl | rfl <;> rfl
  | hex hc => rcases hc with rfl | rfl <;> rfl
  | binary hc => rcases hc with rfl | rfl <;> rfl

theorem isIntegerChar_of_digit {digit : Char → Bool} (hdigit : ∀ c, digit c = true → isHex c = true)
    (c : Char) (h : (digit c || c == '_') = true) : isIntegerChar c = true := by
  rcases Bool.or_eq_true_iff.mp h with hc | hc
  · exact isIntegerChar_of_isHex (hdigit c hc)
  · rw [eq_of_beq hc]
    rfl

theorem greedy_integer (t : Text) :
    Greedy isIntegerChar t (integerPattern.ends t 0) (integer? t) := by
  by_cases hzero : BeginsOutside (· == '0') t
  · have hvalue : integer? t = digitsFrom? Char.isDigit t 0 := by
      rw [digitsFrom?_zero]
      cases t with
      | nil => rfl
      | cons c cs => exact integer?_eq_digits (beq_eq_false_iff_ne.mp (hzero c rfl)) cs
    rw [ends_integer_of_ne hzero, hvalue]
    exact (greedy_decimals t 0).mono (isIntegerChar_of_digit fun _ => isHex_of_isDigit)
  · obtain ⟨c, rest, rfl, hc⟩ := exists_of_not_beginsOutside hzero
    cases eq_of_beq hc
    cases rest with
    | nil => exact .single 1
    | cons letter cs =>
      by_cases hbase : ∃ digit, IsBase letter digit
      · obtain ⟨digit, hbase⟩ := hbase
        have hunderscore : digit '_' = false := by cases hbase <;> rfl
        have hvalue : integer? ('0' :: letter :: cs) =
            (digitsFrom? digit ('0' :: letter :: cs) 2 <|> some 1) := by
          rw [hbase.integer?_eq, digitsFrom?, List.drop_succ_cons, List.drop_succ_cons,
            List.drop_zero, Nat.add_comm _ 2]
          split_ifs <;> rfl
        have hdigits := (greedy_digits hunderscore ('0' :: letter :: cs) 2).mono
          (isIntegerChar_of_digit hbase.isHex)
        rw [ends_integer_of_base hbase, hvalue]
        refine hdigits.append (.single 1) fun n j _ hj houtside => ?_
        cases Option.some.inj hj
        have hletter := houtside letter rfl
        rw [hbase.isIntegerChar] at hletter
        cases hletter
      · rw [ends_integer_of_no_base (not_exists.mp hbase),
          integer?_eq_some_one (not_exists.mp hbase)]
        exact .single 1

def longPattern : Pattern :=
  .seq integerPattern (suffixPattern fun c => c == 'l' || c == 'L')

def plainPattern : Pattern :=
  .seq integerPattern .boundary

theorem longInteger?_eq_find? (t : Text) : longInteger? t = longPattern.find? t := by
  have hsuffix : Greedy (fun _ => true) t (longPattern.ends t 0)
      ((integer? t).bind (suffixed? (fun c => c == 'l' || c == 'L') t)) :=
    (greedy_integer t).flatMap (fun n _ => greedy_suffix (class_of_pair rfl rfl) t n)
      fun n _ hgoes => ends_suffix_eq_nil (beginsOutside_of_class (not_pair rfl rfl) hgoes)
  exact hsuffix.head.symm

theorem endsWord_of_mem_digits {first digit : Char → Bool}
    (hfirst : ∀ c, first c = true → isWordChar c = true)
    (hdigit : ∀ c, digit c = true → isWordChar c = true) {t : Text} {i j : Nat}
    (h : j ∈ (seq (one first) (many (nextDigit digit))).ends t i) : EndsWord t j := by
  obtain ⟨m, hm, hj⟩ := List.mem_flatMap.mp h
  refine endsWord_of_mem_rounds (fun n k hk => ?_) (endsWord_of_mem_one hfirst hm) hj
  obtain ⟨l, -, hk⟩ := List.mem_flatMap.mp hk
  exact endsWord_of_mem_one hdigit hk

theorem endsWord_of_mem_based {lower upper : Char} {digit : Char → Bool}
    (hdigit : ∀ c, digit c = true → isHex c = true) {t : Text} {j : Nat}
    (h : j ∈ (basedPattern lower upper digit).ends t 0) : EndsWord t j := by
  obtain ⟨m, -, hm⟩ := List.mem_flatMap.mp h
  obtain ⟨n, -, hn⟩ := List.mem_flatMap.mp hm
  have hword : ∀ c, digit c = true → isWordChar c = true :=
    fun c hc => isWordChar_of_isHex (hdigit c hc)
  exact endsWord_of_mem_digits hword hword hn

theorem endsWord_of_mem_integer {t : Text} {j : Nat} (h : j ∈ integerPattern.ends t 0) :
    EndsWord t j := by
  have hdecimal : ∀ c : Char, c.isDigit = true → isWordChar c = true :=
    fun c hc => isWordChar_of_isHex (isHex_of_isDigit hc)
  rcases List.mem_append.mp h with h | h
  · exact endsWord_of_mem_based (fun _ => isHex_of_isOctal) h
  rcases List.mem_append.mp h with h | h
  · exact endsWord_of_mem_based (fun _ => id) h
  rcases List.mem_append.mp h with h | h
  · exact endsWord_of_mem_based (fun _ => isHex_of_isBinary) h
  rcases List.mem_append.mp h with h | h
  · exact endsWord_of_mem_digits (fun c hc => hdecimal c (Bool.and_eq_true_iff.mp hc).1) hdecimal h
  · refine endsWord_of_mem_one (fun c hc => ?_) h
    rw [eq_of_beq hc]
    rfl

theorem isWordChar_of_isIntegerChar {c : Char} (h : isIntegerChar c = true) : isWordChar c = true := by
  simp only [isIntegerChar, Bool.or_eq_true, beq_iff_eq] at h
  rcases h with ((((h | rfl) | rfl) | rfl) | rfl) | rfl
  · exact isWordChar_of_isHex h
  all_goals rfl

theorem plainInteger?_eq_find? (t : Text) : plainInteger? t = plainPattern.find? t := by
  have hboundary : ∀ n, Greedy (fun _ => true) t (boundary.ends t n)
      (if WordBoundary (t.take n) (t.drop n) then some n else none) := by
    intro n
    rw [ends]
    split_ifs
    · exact .single n
    · exact .nil
  have hplain : Greedy (fun _ => true) t (plainPattern.ends t 0) ((integer? t).bind fun n =>
      if WordBoundary (t.take n) (t.drop n) then some n else none) := by
    refine (greedy_integer t).flatMap (fun n _ => hboundary n) fun n hn hgoes => ?_
    obtain ⟨c, hlast, hc⟩ := endsWord_of_mem_integer hn
    obtain ⟨d, rest, hdrop, hd⟩ := exists_of_not_beginsOutside hgoes
    have hinside : ¬ WordBoundary (t.take n) (t.drop n) := by
      rw [wordBoundary_iff hlast hc, hdrop]
      simp [atBoundary, isWordChar_of_isIntegerChar hd]
    rw [ends, if_neg hinside]
  rw [find?, hplain.head, plainInteger?]
  cases hinteger : integer? t with
  | none => rfl
  | some n =>
    have hmem : n ∈ integerPattern.ends t 0 :=
      List.mem_of_head? ((greedy_integer t).head.trans hinteger)
    obtain ⟨c, hlast, hc⟩ := endsWord_of_mem_integer hmem
    rw [Option.filter_some, Option.bind_some]
    simp only [wordBoundary_iff hlast hc]

/-- The first match of four patterns, tried in order. A float at the left end of a range is passed
over. -/
def search? (t : Text) : Option Nat :=
  imaginaryPattern.find? t <|> (floatPattern.find? t).filter (fun n => !beginsRange t n) <|>
    longPattern.find? t <|> plainPattern.find? t

theorem number?_eq_search? (t : Text) : number? t = search? t := by
  have hfloat : float? t = floatPattern.find? t := (greedy_float t).head.symm
  rw [number?, search?, imaginary?_eq_find?, hfloat, longInteger?_eq_find?, plainInteger?_eq_find?]

-- an exponent without digits is given back, and so is the point of a range
example : ["1.5e+j", "0..1", "1_0.e2J", "0x_1"].map (search? ·.toList) =
    [some 3, some 1, some 7, none] := by
  decide +kernel

end NumberLiteral
end EditorAssist
