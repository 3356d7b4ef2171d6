import EditorAssist.Lexing.NumberLiteral
import Mathlib.Tactic.FinCases
import Mathlib.Tactic.SplitIfs

/-! The grammar of number literals, and that a literal is read as a whole where nothing behind it
continues it. -/
namespace EditorAssist

/-- A text does not begin with a character of a class. -/
def BeginsOutside (p : Char → Bool) (t : Text) : Prop :=
  ∀ c ∈ t.head?, p c = false

theorem beginsOutside_cons {p : Char → Bool} {c : Char} {cs : Text} (h : p c = false) :
    BeginsOutside p (c :: cs) := by
  intro d hd
  cases Option.some.inj hd
  exact h

/-- Characters that a class tells apart differ. -/
theorem ne_of_class {p : Char → Bool} {c d : Char} (hc : p c = true) (hd : p d = false) :
    c ≠ d := by
  rintro rfl
  rw [hc] at hd
  cases hd

theorem BeginsOutside.mono {p q : Char → Bool} {t : Text} (h : BeginsOutside p t)
    (hsub : ∀ c, q c = true → p c = true) : BeginsOutside q t :=
  fun c hc => Bool.eq_false_iff.mpr fun hq => ne_of_class (hsub c hq) (h c hc) rfl

namespace NumberLiteral

/-- Digits, each but the first with at most one underscore before it. -/
inductive IsDigits (digit : Char → Bool) : Text → Prop where
  | single {c : Char} (hc : digit c = true) : IsDigits digit [c]
  | next {c : Char} {cs : Text} (hc : digit c = true) (rest : IsDigits digit cs) :
    IsDigits digit (c :: cs)
  | separated {c : Char} {cs : Text} (hc : digit c = true) (rest : IsDigits digit cs) :
    IsDigits digit (c :: '_' :: cs)

/-- Decimal digits around a point, of which one side may be empty. -/
inductive IsPointed : Text → Prop where
  | fraction {cs : Text} (right : IsDigits Char.isDigit cs) : IsPointed ('.' :: cs)
  | whole {ds : Text} (left : IsDigits Char.isDigit ds) : IsPointed (ds ++ ['.'])
  | both {ds cs : Text} (left : IsDigits Char.isDigit ds) (right : IsDigits Char.isDigit cs) :
    IsPointed (ds ++ '.' :: cs)

/-- The letter of an exponent, perhaps a sign, and decimal digits. -/
inductive IsExponent : Text → Prop where
  | unsigned {c : Char} {cs : Text} (hc : c = 'e' ∨ c = 'E') (power : IsDigits Char.isDigit cs) :
    IsExponent (c :: cs)
  | signed {c sign : Char} {cs : Text} (hc : c = 'e' ∨ c = 'E') (hsign : sign = '+' ∨ sign = '-')
    (power : IsDigits Char.isDigit cs) : IsExponent (c :: sign :: cs)

/-- A float has a point, an exponent, or both. -/
inductive IsFloat : Text → Prop where
  | pointed {t : Text} (body : IsPointed t) : IsFloat t
  | scaled {t u : Text} (body : IsPointed t) (exponent : IsExponent u) : IsFloat (t ++ u)
  | scaledWhole {t u : Text} (body : IsDigits Char.isDigit t) (exponent : IsExponent u) :
    IsFloat (t ++ u)

/-- The letter, of either case, that announces digits of a base other than ten. -/
inductive IsBase : Char → (Char → Bool) → Prop where
  | octal {c : Char} (hc : c = 'o' ∨ c = 'O') : IsBase c isOctal
  | hex {c : Char} (hc : c = 'x' ∨ c = 'X') : IsBase c isHex
  | binary {c : Char} (hc : c = 'b' ∨ c = 'B') : IsBase c isBinary

/-- An integer in one of four bases. A decimal one has no leading zero. -/
inductive IsInteger : Text → Prop where
  | based {c : Char} {digit : Char → Bool} {cs : Text} (hbase : IsBase c digit)
    (body : IsDigits digit cs) : IsInteger ('0' :: c :: cs)
  | decimal {c : Char} {cs : Text} (hc : c ≠ '0') (body : IsDigits Char.isDigit (c :: cs)) :
    IsInteger (c :: cs)
  | zero : IsInteger ['0']

/-- A number literal: an imaginary number, a float, a long integer or an integer. -/
inductive IsLiteral : Text → Prop where
  | imaginary {t : Text} {c : Char} (body : IsFloat t) (hc : c = 'j' ∨ c = 'J') :
    IsLiteral (t ++ [c])
  | imaginaryWhole {t : Text} {c : Char} (body : IsDigits Char.isDigit t)
    (hc : c = 'j' ∨ c = 'J') : IsLiteral (t ++ [c])
  | float {t : Text} (body : IsFloat t) : IsLiteral t
  | long {t : Text} {c : Char} (body : IsInteger t) (hc : c = 'l' ∨ c = 'L') : IsLiteral (t ++ [c])
  | integer {t : Text} (body : IsInteger t) : IsLiteral t

section
variable {digit : Char → Bool}

theorem moreDigits_eq_zero {t : Text} (h : BeginsOutside (fun c => digit c || c == '_') t) :
    moreDigits digit t = 0 := by
  cases t with
  | nil => rfl
  | cons c cs =>
    have hc := h c rfl
    rw [Bool.or_eq_false_iff] at hc
    cases cs <;> simp [moreDigits, hc]

theorem moreDigits_cons {c : Char} (hc : digit c = true) (cs : Text) :
    moreDigits digit (c :: cs) = moreDigits digit cs + 1 := by
  cases cs <;> simp [moreDigits, hc]

theorem moreDigits_separated (hunderscore : digit '_' = false) {c : Char} (hc : digit c = true)
    (cs : Text) : moreDigits digit ('_' :: c :: cs) = moreDigits digit cs + 2 := by
  simp [moreDigits, hunderscore, hc]

theorem digits_eq_zero {t : Text} (h : BeginsOutside digit t) : digits digit t = 0 := by
  cases t with
  | nil => rfl
  | cons c cs => simp [digits, h c rfl]

theorem IsDigits.exists_cons {t : Text} (h : IsDigits digit t) :
    ∃ c cs, t = c :: cs ∧ digit c = true := by
  cases h with
  | single hc => exact ⟨_, _, rfl, hc⟩
  | next hc rest => exact ⟨_, _, rfl, hc⟩
  | separated hc rest => exact ⟨_, _, rfl, hc⟩

theorem moreDigits_append (hunderscore : digit '_' = false) {t rest : Text}
    (h : IsDigits digit t) (hrest : BeginsOutside (fun c => digit c || c == '_') rest) :
    moreDigits digit (t ++ rest) = t.length := by
  induction h with
  | single hc => simp [moreDigits_cons hc, moreDigits_eq_zero hrest]
  | next hc tail ih => simp [moreDigits_cons hc, ih]
  | separated hc tail ih =>
    obtain ⟨d, ds, rfl, hd⟩ := tail.exists_cons
    have htail := moreDigits_cons hd (ds ++ rest)
    rw [List.cons_append] at ih
    simp only [List.cons_append, moreDigits_cons hc, moreDigits_separated hunderscore hd]
    simp only [List.length_cons] at ih ⊢
    omega

/-- A run of digits is read as a whole when no digit and no underscore stands behind it. -/
theorem digits_append (hunderscore : digit '_' = false) {t rest : Text} (h : IsDigits digit t)
    (hrest : BeginsOutside (fun c => digit c || c == '_') rest) :
    digits digit (t ++ rest) = t.length := by
  obtain ⟨c, cs, rfl, hc⟩ := h.exists_cons
  rw [← moreDigits_append hunderscore h hrest, List.cons_append, moreDigits_cons hc, digits,
    if_pos hc]

end

/-- No decimal digit and no underscore comes next. -/
def EndsDigits (rest : Text) : Prop :=
  BeginsOutside (fun c => c.isDigit || c == '_') rest

theorem decimals_eq_zero {rest : Text} (h : EndsDigits rest) : digits Char.isDigit rest = 0 :=
  digits_eq_zero fun c hc => (Bool.or_eq_false_iff.mp (h c hc)).1

theorem decimals_append {t rest : Text} (h : t = [] ∨ IsDigits Char.isDigit t)
    (hrest : EndsDigits rest) : digits Char.isDigit (t ++ rest) = t.length := by
  rcases h with rfl | h
  · exact decimals_eq_zero hrest
  · exact digits_append rfl h hrest

theorem IsDigits.length_pos {digit : Char → Bool} {t : Text} (h : IsDigits digit t) :
    0 < t.length := by
  obtain ⟨c, cs, rfl, -⟩ := h.exists_cons
  exact Nat.succ_pos _

theorem IsPointed.exists_sides {t : Text} (h : IsPointed t) :
    ∃ ds cs, t = ds ++ '.' :: cs ∧ (ds = [] ∨ IsDigits Char.isDigit ds) ∧
      (cs = [] ∨ IsDigits Char.isDigit cs) ∧ 0 < ds.length + cs.length := by
  cases h with
  | @fraction cs right =>
    have := right.length_pos
    exact ⟨[], cs, rfl, .inl rfl, .inr right, by omega⟩
  | @whole ds left =>
    have := left.length_pos
    exact ⟨ds, [], rfl, .inr left, .inl rfl, by omega⟩
  | @both ds cs left right =>
    have := left.length_pos
    exact ⟨ds, cs, rfl, .inr left, .inr right, by omega⟩

theorem pointed?_append {t rest : Text} (h : IsPointed t) (hrest : EndsDigits rest) :
    pointed? (t ++ rest) = some t.length := by
  obtain ⟨ds, cs, rfl, hleft, hright, hsome⟩ := h.exists_sides
  have hwhole : digits Char.isDigit (ds ++ '.' :: (cs ++ rest)) = ds.length :=
    decimals_append hleft (beginsOutside_cons rfl)
  have hfraction : digits Char.isDigit (cs ++ rest) = cs.length := decimals_append hright hrest
  have hne : ¬ (ds.length = 0 ∧ cs.length = 0) := by omega
  rw [List.append_assoc, List.cons_append]
  simp only [pointed?, hwhole, List.drop_left, hfraction, if_neg hne]
  simp only [List.length_append, List.length_cons]
  congr 1
  omega

/-- Without a point behind its digits a text begins with no digits around a point. -/
theorem pointed?_eq_none {t : Text}
    (h : BeginsOutside (· == '.') (t.drop (digits Char.isDigit t))) : pointed? t = none := by
  simp only [pointed?]
  split
  · next rest hrest =>
    rw [hrest] at h
    exact absurd (h '.' rfl) (by decide)
  · rfl

theorem exponent?_eq_none {t : Text} (h : BeginsOutside (fun c => c == 'e' || c == 'E') t) :
    exponent? t = none := by
  cases t with
  | nil => rfl
  | cons c cs => simp [exponent?, h c rfl]

theorem exponent?_append {t rest : Text} (h : IsExponent t) (hrest : EndsDigits rest) :
    exponent? (t ++ rest) = some t.length := by
  cases h with
  | @unsigned c cs hc power =>
    have hletter : (c == 'e' || c == 'E') = true := by simpa using hc
    have hpower := digits_append rfl power hrest
    obtain ⟨d, ds, rfl, hd⟩ := power.exists_cons
    have hplus : d ≠ '+' := ne_of_class hd rfl
    have hminus : d ≠ '-' := ne_of_class hd rfl
    rw [List.cons_append] at hpower
    simp [exponent?, hletter, hplus, hminus, hpower, Nat.add_comm]
  | @signed c sign cs hc hsign power =>
    have hletter : (c == 'e' || c == 'E') = true := by simpa using hc
    have hpos : cs.length ≠ 0 := Nat.ne_of_gt power.length_pos
    have hpower := digits_append rfl power hrest
    have hlength : 2 + cs.length = cs.length + 1 + 1 := Nat.add_comm 2 cs.length
    simp [exponent?, hletter, hsign, hpower, hpos, hlength]

theorem IsExponent.beginsOutside {p : Char → Bool} (hlower : p 'e' = false)
    (hupper : p 'E' = false) {t : Text} (h : IsExponent t) (rest : Text) :
    BeginsOutside p (t ++ rest) := by
  cases h with
  | unsigned hc power => exact beginsOutside_cons (by rcases hc with rfl | rfl <;> assumption)
  | signed hc hsign power => exact beginsOutside_cons (by rcases hc with rfl | rfl <;> assumption)

/-- What stands behind a float is not read as a part of it. -/
def EndsFloat (rest : Text) : Prop :=
  BeginsOutside (fun c => c.isDigit || c == '_' || c == '.' || c == 'e' || c == 'E') rest

/-- What stands behind a float or behind digits makes neither imaginary either. -/
def EndsReal (rest : Text) : Prop :=
  BeginsOutside (fun c => c.isDigit || c == '_' || c == '.' || c == 'e' || c == 'E' || c == 'j' ||
    c == 'J') rest

theorem EndsReal.endsFloat {rest : Text} (h : EndsReal rest) : EndsFloat rest :=
  h.mono fun c hc => by simp only [hc, Bool.true_or]

theorem EndsReal.unsuffixed {rest : Text} (h : EndsReal rest) :
    BeginsOutside (fun c => c == 'j' || c == 'J') rest :=
  h.mono fun c hc => by
    rcases Bool.or_eq_true_iff.mp hc with hc | hc <;> simp [hc]

theorem EndsFloat.endsDigits {rest : Text} (h : EndsFloat rest) : EndsDigits rest :=
  h.mono fun c hc => by
    rcases Bool.or_eq_true_iff.mp hc with hc | hc <;> simp [hc]

theorem EndsFloat.pointless {rest : Text} (h : EndsFloat rest) : BeginsOutside (· == '.') rest :=
  h.mono fun c hc => by simp [hc]

theorem EndsFloat.exponent?_eq_none {rest : Text} (h : EndsFloat rest) :
    exponent? rest = none := by
  refine NumberLiteral.exponent?_eq_none (h.mono fun c hc => ?_)
  rcases Bool.or_eq_true_iff.mp hc with hc | hc <;> simp [hc]

/-- Where digits are followed by neither a point nor an exponent, no float begins. -/
theorem float?_eq_none {t : Text} (h : EndsFloat (t.drop (digits Char.isDigit t))) :
    float? t = none := by
  have hpointed : pointed? t = none := pointed?_eq_none h.pointless
  simp [float?, hpointed, h.exponent?_eq_none]

theorem float?_append {t rest : Text} (h : IsFloat t) (hrest : EndsFloat rest) :
    float? (t ++ rest) = some t.length := by
  cases h with
  | pointed body =>
    have hbody := pointed?_append body hrest.endsDigits
    simp [float?, hbody, hrest.exponent?_eq_none]
  | @scaled t u body exponent =>
    have hbody := pointed?_append body (exponent.beginsOutside rfl rfl rest)
    have hexponent := exponent?_append exponent hrest.endsDigits
    rw [List.append_assoc]
    simp [float?, hbody, hexponent]
  | @scaledWhole t u body exponent =>
    have hwhole := decimals_append (.inr body) (exponent.beginsOutside rfl rfl rest)
    have hexponent := exponent?_append exponent hrest.endsDigits
    have hpointed : pointed? (t ++ (u ++ rest)) = none := by
      refine pointed?_eq_none ?_
      rw [hwhole, List.drop_left]
      exact exponent.beginsOutside rfl rfl rest
    have hpos : t.length ≠ 0 := Nat.ne_of_gt body.length_pos
    rw [List.append_assoc]
    simp [float?, hpointed, hwhole, hexponent, hpos]

theorem suffixed?_append {letter : Char → Bool} {t rest : Text} {c : Char} (hc : letter c = true)
    (hrest : atBoundary rest = true) :
    suffixed? letter (t ++ c :: rest) t.length = some (t.length + 1) := by
  simp [suffixed?, hc, hrest]

theorem suffixed?_eq_none {letter : Char → Bool} {t : Text} {n : Nat}
    (h : BeginsOutside letter (t.drop n)) : suffixed? letter t n = none := by
  unfold suffixed?
  split
  · next c rest hrest =>
    rw [hrest] at h
    simp [h c rfl]
  · rfl

/-- What stands behind an integer is not read as a part of it, nor makes it a float or imaginary. -/
def EndsInteger (rest : Text) : Prop :=
  BeginsOutside (fun c => isHex c || c == '_' || c == '.' || c == 'o' || c == 'O' || c == 'x' ||
    c == 'X' || c == 'j' || c == 'J') rest

theorem isHex_of_isDigit {c : Char} (h : c.isDigit = true) : isHex c = true := by
  simp [isHex, h]

theorem isHex_of_isOctal {c : Char} (h : isOctal c = true) : isHex c = true := by
  refine isHex_of_isDigit ?_
  simp only [isOctal, Bool.and_eq_true, decide_eq_true_eq, Char.le_def,
    UInt32.le_iff_toNat_le] at h
  simp only [Char.isDigit, Bool.and_eq_true, decide_eq_true_eq, UInt32.le_iff_toNat_le, ge_iff_le]
  exact ⟨h.1, Nat.le_trans h.2 (by decide)⟩

theorem isHex_of_isBinary {c : Char} (h : isBinary c = true) : isHex c = true := by
  simp only [isBinary, Bool.or_eq_true, beq_iff_eq] at h
  rcases h with rfl | rfl <;> rfl

theorem EndsInteger.endsRun {rest : Text} (h : EndsInteger rest) {digit : Char → Bool}
    (hdigit : ∀ c, digit c = true → isHex c = true) :
    BeginsOutside (fun c => digit c || c == '_') rest :=
  h.mono fun c hc => by
    rcases Bool.or_eq_true_iff.mp hc with hc | hc
    · simp [hdigit c hc]
    · simp [hc]

theorem EndsInteger.endsReal {rest : Text} (h : EndsInteger rest) : EndsReal rest :=
  h.mono fun c hc => by
    simp only [Bool.or_eq_true, beq_iff_eq] at hc
    rcases hc with (((((hc | rfl) | rfl) | rfl) | rfl) | rfl) | rfl
    · simp [isHex_of_isDigit hc]
    all_goals rfl

theorem integer?_append {t rest : Text} (h : IsInteger t) (hrest : EndsInteger rest) :
    integer? (t ++ rest) = some t.length := by
  cases h with
  | @based c digit cs hbase body =>
    have hpos : cs.length ≠ 0 := Nat.ne_of_gt body.length_pos
    cases hbase with
    | octal hc =>
      have hbody := digits_append rfl body (hrest.endsRun fun _ => isHex_of_isOctal)
      rcases hc with rfl | rfl <;> simp [integer?, hbody, hpos]
    | hex hc =>
      have hbody := digits_append rfl body (hrest.endsRun fun _ => id)
      rcases hc with rfl | rfl <;> simp [integer?, hbody, hpos]
    | binary hc =>
      have hbody := digits_append rfl body (hrest.endsRun fun _ => isHex_of_isBinary)
      rcases hc with rfl | rfl <;> simp [integer?, hbody, hpos]
  | @decimal c cs hc body =>
    have hbody := digits_append rfl body (hrest.endsRun fun _ => isHex_of_isDigit)
    rw [List.cons_append] at hbody ⊢
    rw [integer?]
    · simp [hbody]
    · exact fun letter cs hzero => absurd (List.cons.inj hzero).1 hc
    · exact fun hzero => absurd (List.cons.inj hzero).1 hc
  | zero =>
    cases rest with
    | nil => rfl
    | cons c cs =>
      have hbase : ∀ letter ∈ ['o', 'O', 'x', 'X', 'b', 'B'], c ≠ letter := by
        intro letter hletter hc
        have houtside := hrest c rfl
        subst hc
        fin_cases hletter <;> cases houtside
      simp only [List.forall_mem_cons] at hbase
      simp [integer?, hbase]

theorem IsBase.moreDigits_eq_zero {c : Char} {digit : Char → Bool} (h : IsBase c digit)
    (cs : Text) : moreDigits Char.isDigit (c :: cs) = 0 := by
  refine NumberLiteral.moreDigits_eq_zero (beginsOutside_cons ?_)
  cases h with
  | octal hc => rcases hc with rfl | rfl <;> rfl
  | hex hc => rcases hc with rfl | rfl <;> rfl
  | binary hc => rcases hc with rfl | rfl <;> rfl

/-- Behind the decimal digits of an integer there is the letter of a base, or what stands behind the
integer. Neither makes it a float or imaginary. -/
theorem IsInteger.endsReal {t rest : Text} (h : IsInteger t) (hrest : EndsInteger rest) :
    EndsReal ((t ++ rest).drop (digits Char.isDigit (t ++ rest))) := by
  cases h with
  | @based c digit cs hbase body =>
    have hzero : digits Char.isDigit ('0' :: c :: (cs ++ rest)) = 1 := by
      simp [digits, hbase.moreDigits_eq_zero]
    rw [List.cons_append, List.cons_append, hzero]
    refine beginsOutside_cons ?_
    cases hbase with
    | octal hc => rcases hc with rfl | rfl <;> rfl
    | hex hc => rcases hc with rfl | rfl <;> rfl
    | binary hc => rcases hc with rfl | rfl <;> rfl
  | decimal hc body =>
    rw [decimals_append (.inr body) hrest.endsReal.endsFloat.endsDigits, List.drop_left]
    exact hrest.endsReal
  | zero =>
    have hzero : IsDigits Char.isDigit ['0'] := .single rfl
    rw [decimals_append (.inr hzero) hrest.endsReal.endsFloat.endsDigits, List.drop_left]
    exact hrest.endsReal

/-- What stands behind a literal is no word character and no point. -/
def EndsLiteral (rest : Text) : Prop :=
  BeginsOutside (fun c => isWordChar c || c == '.') rest

theorem isWordChar_of_isHex {c : Char} (h : isHex c = true) : isWordChar c = true := by
  have hrange : (48 ≤ c.toNat ∧ c.toNat ≤ 57) ∨ (97 ≤ c.toNat ∧ c.toNat ≤ 102) ∨
      (65 ≤ c.toNat ∧ c.toNat ≤ 70) := by
    simpa [isHex, Char.isDigit, Char.le_def, UInt32.le_iff_toNat_le, or_assoc] using h
  have hascii : c.toNat ∈ List.range 128 := by
    rw [List.mem_range]
    omega
  have hall : ∀ n ∈ List.range 128, isHex (Char.ofNat n) = true →
      isWordChar (Char.ofNat n) = true := by decide +kernel
  have hchar := hall c.toNat hascii
  rw [Char.ofNat_toNat] at hchar
  exact hchar h

theorem EndsLiteral.endsInteger {rest : Text} (h : EndsLiteral rest) : EndsInteger rest :=
  h.mono fun c hc => by
    simp only [Bool.or_eq_true, beq_iff_eq] at hc
    rcases hc with (((((((hc | rfl) | rfl) | rfl) | rfl) | rfl) | rfl) | rfl) | rfl
    · simp [isWordChar_of_isHex hc]
    all_goals rfl

theorem EndsLiteral.atBoundary {rest : Text} (h : EndsLiteral rest) : atBoundary rest = true := by
  cases rest with
  | nil => rfl
  | cons c cs =>
    have hc := (Bool.or_eq_false_iff.mp (h c rfl)).1
    simp [EditorAssist.atBoundary, hc]

theorem EndsLiteral.beginsRange_eq_false {rest : Text} (h : EndsLiteral rest) (t : Text) :
    beginsRange (t ++ rest) t.length = false := by
  cases rest with
  | nil => simp [beginsRange]
  | cons c cs =>
    have hc := (Bool.or_eq_false_iff.mp (h c rfl)).2
    simp only [beq_eq_false_iff_ne] at hc
    simp [beginsRange, hc]

theorem EndsLiteral.unsuffixed {rest : Text} (h : EndsLiteral rest) :
    BeginsOutside (fun c => c == 'l' || c == 'L') rest :=
  h.mono fun c hc => by
    simp only [Bool.or_eq_true, beq_iff_eq] at hc
    rcases hc with rfl | rfl <;> rfl

theorem imaginary?_eq_none {t : Text} (h : EndsReal (t.drop (digits Char.isDigit t))) :
    imaginary? t = none := by
  have hfloat := float?_eq_none h.endsFloat
  have hsuffix := suffixed?_eq_none h.unsuffixed
  simp only [imaginary?, hfloat]
  split_ifs
  · rfl
  · exact hsuffix

theorem imaginary?_append {t rest : Text} {c : Char} (hc : c = 'j' ∨ c = 'J')
    (h : IsFloat t ∨ IsDigits Char.isDigit t) (hrest : atBoundary rest = true) :
    imaginary? (t ++ c :: rest) = some (t.length + 1) := by
  have hletter : (c == 'j' || c == 'J') = true := by simpa using hc
  have hsuffix : suffixed? (fun c => c == 'j' || c == 'J') (t ++ c :: rest) t.length =
      some (t.length + 1) := suffixed?_append hletter hrest
  have hends : EndsFloat (c :: rest) := by
    refine beginsOutside_cons ?_
    rcases hc with rfl | rfl <;> rfl
  rcases h with body | body
  · simp [imaginary?, float?_append body hends, hsuffix]
  · have hwhole := decimals_append (.inr body) hends.endsDigits
    have hfloat : float? (t ++ c :: rest) = none := by
      refine float?_eq_none ?_
      rwa [hwhole, List.drop_left]
    have hpos : t.length ≠ 0 := Nat.ne_of_gt body.length_pos
    simp [imaginary?, hfloat, hwhole, hsuffix, hpos]

theorem longInteger?_append {t rest : Text} {c : Char} (hc : c = 'l' ∨ c = 'L')
    (h : IsInteger t) (hrest : atBoundary rest = true) :
    longInteger? (t ++ c :: rest) = some (t.length + 1) := by
  have hletter : (c == 'l' || c == 'L') = true := by simpa using hc
  have hinteger : integer? (t ++ c :: rest) = some t.length := by
    refine integer?_append h (beginsOutside_cons ?_)
    rcases hc with rfl | rfl <;> rfl
  rw [longInteger?, hinteger]
  exact suffixed?_append hletter hrest

/-- A literal is read as a whole where it is followed by no word character and no point. -/
theorem number?_append {t rest : Text} (h : IsLiteral t) (hrest : EndsLiteral rest) :
    number? (t ++ rest) = some t.length := by
  have hboundary := hrest.atBoundary
  have hinteger := hrest.endsInteger
  cases h with
  | imaginary body hc =>
    have himaginary := imaginary?_append hc (.inl body) hboundary
    rw [List.append_assoc, List.singleton_append]
    simp [number?, himaginary]
  | imaginaryWhole body hc =>
    have himaginary := imaginary?_append hc (.inr body) hboundary
    rw [List.append_assoc, List.singleton_append]
    simp [number?, himaginary]
  | float body =>
    have hfloat := float?_append body hinteger.endsReal.endsFloat
    have himaginary : imaginary? (t ++ rest) = none := by
      have hsuffix := suffixed?_eq_none (t := t ++ rest) (n := t.length)
        (by simpa using hinteger.endsReal.unsuffixed)
      simp [imaginary?, hfloat, hsuffix]
    simp [number?, himaginary, hfloat, hrest.beginsRange_eq_false t]
  | @long t c body hc =>
    have hends : EndsInteger (c :: rest) := by
      refine beginsOutside_cons ?_
      rcases hc with rfl | rfl <;> rfl
    have hreal := body.endsReal hends
    have hlong := longInteger?_append hc body hboundary
    rw [List.append_assoc, List.singleton_append]
    simp [number?, imaginary?_eq_none hreal, float?_eq_none hreal.endsFloat, hlong]
  | integer body =>
    have hreal := body.endsReal hinteger
    have hbody := integer?_append body hinteger
    have hlong : longInteger? (t ++ rest) = none := by
      have hsuffix := suffixed?_eq_none (t := t ++ rest) (n := t.length)
        (by simpa using hrest.unsuffixed)
      simp [longInteger?, hbody, hsuffix]
    simp [number?, imaginary?_eq_none hreal, float?_eq_none hreal.endsFloat, hlong, plainInteger?,
      hbody, hboundary]

end NumberLiteral
end EditorAssist
