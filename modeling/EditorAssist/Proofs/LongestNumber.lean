import EditorAssist.Proofs.NumberExtent
import Mathlib.Data.Option.Basic
import Mathlib.Order.Bounds.Basic

/-! Number literals are read by longest match: of all texts that are literals in front of what
follows them, the longest one at the start is taken. -/
namespace EditorAssist

/-- A visible ASCII character. -/
def isGraphic (c : Char) : Bool :=
  0x20 < c.toNat && c.toNat < 0x7F

theorem isAscii_of_isGraphic {c : Char} (h : isGraphic c = true) : isAscii c = true := by
  rw [isGraphic, Bool.and_eq_true, decide_eq_true_iff, decide_eq_true_iff] at h
  rw [isAscii, decide_eq_true_iff]
  omega

namespace NumberLiteral

theorem exists_of_suffixed? {letter : Char → Bool} {t : Text} {m n : Nat}
    (h : suffixed? letter t m = some n) :
    ∃ c v, t.drop m = c :: v ∧ letter c = true ∧ atBoundary v = true ∧ n = m + 1 := by
  unfold suffixed? at h
  split at h
  · next c v hdrop =>
    split_ifs at h with hc
    obtain ⟨hletter, hboundary⟩ := Bool.and_eq_true_iff.mp hc
    exact ⟨c, v, hdrop, hletter, hboundary, (Option.some.inj h).symm⟩
  · cases h

theorem exists_of_imaginary? {t : Text} {n : Nat} (h : imaginary? t = some n) :
    ∃ u c v, t = u ++ c :: v ∧ (IsFloat u ∨ IsDigits Char.isDigit u) ∧ (c = 'j' ∨ c = 'J') ∧
      atBoundary v = true ∧ n = u.length + 1 := by
  obtain ⟨m, hbody, hsuffix⟩ := Option.bind_eq_some_iff.mp h
  obtain ⟨u, w, rfl, hu, rfl⟩ : ∃ u w, t = u ++ w ∧ (IsFloat u ∨ IsDigits Char.isDigit u) ∧
      u.length = m := by
    split at hbody
    · next k hfloat =>
      cases Option.some.inj hbody
      obtain ⟨u, w, hsplit, hu, hlength⟩ := exists_of_float? hfloat
      exact ⟨u, w, hsplit, .inl hu, hlength⟩
    · split_ifs at hbody with hzero
      cases Option.some.inj hbody
      obtain ⟨u, w, hsplit, hu, hlength⟩ := exists_of_digits hzero
      exact ⟨u, w, hsplit, .inr hu, hlength⟩
  obtain ⟨c, v, hdrop, hc, hboundary, hn⟩ := exists_of_suffixed? hsuffix
  rw [List.drop_left] at hdrop
  subst hdrop
  exact ⟨u, c, v, rfl, hu, by simpa using hc, hboundary, hn⟩

theorem exists_of_longInteger? {t : Text} {n : Nat} (h : longInteger? t = some n) :
    ∃ u c v, t = u ++ c :: v ∧ IsInteger u ∧ (c = 'l' ∨ c = 'L') ∧ atBoundary v = true ∧
      n = u.length + 1 := by
  obtain ⟨m, hbody, hsuffix⟩ := Option.bind_eq_some_iff.mp h
  obtain ⟨u, w, rfl, hu, rfl⟩ := exists_of_integer? hbody
  obtain ⟨c, v, hdrop, hc, hboundary, hn⟩ := exists_of_suffixed? hsuffix
  rw [List.drop_left] at hdrop
  subst hdrop
  exact ⟨u, c, v, rfl, hu, by simpa using hc, hboundary, hn⟩

theorem exists_of_plainInteger? {t : Text} {n : Nat} (h : plainInteger? t = some n) :
    ∃ u v, t = u ++ v ∧ IsInteger u ∧ atBoundary v = true ∧ n = u.length := by
  obtain ⟨hbody, hboundary⟩ := Option.filter_eq_some_iff.mp h
  obtain ⟨u, v, rfl, hu, rfl⟩ := exists_of_integer? hbody
  rw [List.drop_left] at hboundary
  exact ⟨u, v, rfl, hu, hboundary, rfl⟩

theorem digits_lt_of_float? {t : Text} {n : Nat} (h : float? t = some n) :
    digits Char.isDigit t < n := by
  obtain ⟨u, v, rfl, hu, rfl⟩ := exists_of_float? h
  exact hu.digits_lt v

theorem lt_of_imaginary? {t : Text} {m n : Nat} (h : imaginary? t = some n)
    (hfloat : float? t = some m) : m < n := by
  simp only [imaginary?, hfloat] at h
  obtain ⟨c, v, -, -, -, rfl⟩ := exists_of_suffixed? h
  exact Nat.lt_succ_self m

theorem digits_lt_of_imaginary? {t : Text} {n : Nat} (h : imaginary? t = some n) :
    digits Char.isDigit t < n := by
  obtain ⟨u, c, v, rfl, hu | hu, hc, -, rfl⟩ := exists_of_imaginary? h
  · exact Nat.lt_succ_of_lt (hu.digits_lt (c :: v))
  · have hends : EndsDigits (c :: v) := by
      refine beginsOutside_cons ?_
      rcases hc with rfl | rfl <;> rfl
    rw [decimals_append (.inr hu) hends]
    exact Nat.lt_succ_self _

/-- An integer is no longer than the decimal digits at the start, or keeps floats and imaginary
numbers from beginning there. -/
theorem IsInteger.length_le_or_endsReal {t : Text} (h : IsInteger t) (rest : Text) :
    t.length ≤ digits Char.isDigit (t ++ rest) ∨
      EndsReal ((t ++ rest).drop (digits Char.isDigit (t ++ rest))) := by
  cases h with
  | @based c digit cs hbase body =>
    right
    have hzero : digits Char.isDigit ('0' :: c :: (cs ++ rest)) = 1 := by
      simp [digits, hbase.moreDigits_eq_zero]
    rw [List.cons_append, List.cons_append, hzero]
    refine beginsOutside_cons ?_
    cases hbase with
    | octal hc => rcases hc with rfl | rfl <;> rfl
    | hex hc => rcases hc with rfl | rfl <;> rfl
    | binary hc => rcases hc with rfl | rfl <;> rfl
  | decimal hc body => exact .inl (body.length_le rfl rest)
  | zero => exact .inl ((IsDigits.single rfl).length_le rfl rest)

theorem IsDigits.getLast?_ne {digit : Char → Bool} {t : Text} (h : IsDigits digit t) {c : Char}
    (hc : digit c = false) (before : Text) : (before ++ t).getLast? ≠ some c := by
  induction h generalizing before with
  | single hd =>
    rw [List.getLast?_concat]
    exact fun hlast => ne_of_class hd hc (Option.some.inj hlast)
  | @next d cs hd rest ih => simpa using ih (before ++ [d])
  | @separated d cs hd rest ih => simpa using ih (before ++ [d, '_'])

/-- A float that ends in its point is a run of digits with a point behind it. -/
theorem IsFloat.exists_digits {t : Text} (h : IsFloat t) (hlast : t.getLast? = some '.') :
    ∃ ds, IsDigits Char.isDigit ds ∧ t = ds ++ ['.'] := by
  have hexponent : ∀ {u : Text}, IsExponent u → ∀ before, (before ++ u).getLast? ≠ some '.' := by
    intro u hu before
    cases hu with
    | @unsigned c cs hc power => simpa using power.getLast?_ne rfl (before ++ [c])
    | @signed c sign cs hc hsign power => simpa using power.getLast?_ne rfl (before ++ [c, sign])
  cases h with
  | pointed body =>
    cases body with
    | fraction right => exact absurd hlast (right.getLast?_ne rfl ['.'])
    | whole left => exact ⟨_, left, rfl⟩
    | @both ds cs left right =>
      have hne := right.getLast?_ne (c := '.') rfl (ds ++ ['.'])
      rw [List.append_assoc, List.singleton_append] at hne
      exact absurd hlast hne
  | scaled body exponent => exact absurd hlast (hexponent exponent _)
  | scaledWhole body exponent => exact absurd hlast (hexponent exponent _)

/-- Where the float read is the left end of a range, every float at the start is. -/
theorem IsFloat.of_beginsRange {t rest : Text} (h : IsFloat t) {n : Nat}
    (hn : float? (t ++ rest) = some n) (hrange : beginsRange (t ++ rest) n = true) :
    t.getLast? = some '.' ∧ rest.head? = some '.' := by
  obtain ⟨m, hm, hle⟩ := h.exists_float? rest
  cases Option.some.inj (hm.symm.trans hn)
  obtain ⟨u, v, hsplit, hu, rfl⟩ := exists_of_float? hn
  have hlt := h.digits_lt rest
  rw [hsplit, beginsRange, List.take_left, List.drop_left, Bool.and_eq_true, beq_iff_eq,
    beq_iff_eq] at hrange
  obtain ⟨ds, hds, rfl⟩ := hu.exists_digits hrange.1
  rw [hsplit, List.append_assoc, List.singleton_append,
    decimals_append (.inr hds) (beginsOutside_cons rfl)] at hlt
  have hlength : t.length = (ds ++ ['.']).length := by
    rw [List.length_append, List.length_singleton] at hle ⊢
    omega
  obtain ⟨rfl, rfl⟩ := List.append_inj hsplit hlength
  exact hrange

theorem wordBoundary_concat_iff {c : Char} (hc : isWordChar c = true) (t rest : Text) :
    WordBoundary (t ++ [c]) rest ↔ atBoundary rest = true :=
  wordBoundary_iff List.getLast?_concat hc rest

theorem beginsOutside_of_atBoundary {p : Char → Bool} {rest : Text} (h : atBoundary rest = true)
    (hsub : ∀ c, p c = true → isWordChar c = true) : BeginsOutside p rest := by
  intro c hc
  rw [atBoundary, hc] at h
  exact Bool.eq_false_iff.mpr fun hp => by simp [hsub c hp] at h

/-- A text is a number literal in front of another: an imaginary number, a float other than the left
end of a range, a long integer or an integer. All but floats end at a word boundary. -/
inductive Admissible : Text → Text → Prop where
  | imaginary {t rest : Text} {c : Char} (body : IsFloat t ∨ IsDigits Char.isDigit t)
    (hc : c = 'j' ∨ c = 'J') (hend : WordBoundary (t ++ [c]) rest) : Admissible (t ++ [c]) rest
  | float {t rest : Text} (body : IsFloat t)
    (hrange : ¬ (t.getLast? = some '.' ∧ rest.head? = some '.')) : Admissible t rest
  | long {t rest : Text} {c : Char} (body : IsInteger t) (hc : c = 'l' ∨ c = 'L')
    (hend : WordBoundary (t ++ [c]) rest) : Admissible (t ++ [c]) rest
  | integer {t rest : Text} (body : IsInteger t) (hend : WordBoundary t rest) : Admissible t rest

/-- The lengths of the literals that a text begins with. -/
def literalLengths (t : Text) : Set Nat :=
  {n | ∃ u v, t = u ++ v ∧ Admissible u v ∧ u.length = n}

theorem IsInteger.wordBoundary_iff {t : Text} (h : IsInteger t) (rest : Text) :
    WordBoundary t rest ↔ atBoundary rest = true := by
  have hne : t ≠ [] := by
    rintro rfl
    cases h
  have hlast := List.getLast?_eq_some_getLast hne
  have hword := isWordChar_of_isIntegerChar (h.isIntegerChar _ (List.getLast_mem hne))
  exact EditorAssist.wordBoundary_iff hlast hword rest

theorem mem_literalLengths_of_imaginary? {t : Text} {n : Nat} (h : imaginary? t = some n) :
    n ∈ literalLengths t := by
  obtain ⟨u, c, v, rfl, hu, hc, hboundary, rfl⟩ := exists_of_imaginary? h
  have hletter : isWordChar c = true := by rcases hc with rfl | rfl <;> rfl
  have hend := (wordBoundary_concat_iff hletter u v).mpr hboundary
  exact ⟨u ++ [c], v, by simp, .imaginary hu hc hend, by simp⟩

theorem mem_literalLengths_of_float? {t : Text} {n : Nat} (h : float? t = some n)
    (hrange : beginsRange t n = false) : n ∈ literalLengths t := by
  obtain ⟨u, v, rfl, hu, rfl⟩ := exists_of_float? h
  rw [beginsRange, List.take_left, List.drop_left] at hrange
  refine ⟨u, v, rfl, .float hu ?_, rfl⟩
  rintro ⟨hlast, hhead⟩
  simp [hlast, hhead] at hrange

theorem mem_literalLengths_of_longInteger? {t : Text} {n : Nat} (h : longInteger? t = some n) :
    n ∈ literalLengths t := by
  obtain ⟨u, c, v, rfl, hu, hc, hboundary, rfl⟩ := exists_of_longInteger? h
  have hletter : isWordChar c = true := by rcases hc with rfl | rfl <;> rfl
  have hend := (wordBoundary_concat_iff hletter u v).mpr hboundary
  exact ⟨u ++ [c], v, by simp, .long hu hc hend, by simp⟩

theorem mem_literalLengths_of_plainInteger? {t : Text} {n : Nat} (h : plainInteger? t = some n) :
    n ∈ literalLengths t := by
  obtain ⟨u, v, rfl, hu, hboundary, rfl⟩ := exists_of_plainInteger? h
  exact ⟨u, v, rfl, .integer hu ((hu.wordBoundary_iff v).mpr hboundary), rfl⟩

/-- What is read is a literal in front of what follows it. -/
theorem mem_literalLengths_of_number? {t : Text} {n : Nat} (h : number? t = some n) :
    n ∈ literalLengths t := by
  unfold number? at h
  rcases (Option.orElse_eq_some _ _ _).mp h with himaginary | ⟨-, h⟩
  · exact mem_literalLengths_of_imaginary? himaginary
  rcases (Option.orElse_eq_some _ _ _).mp h with hfloat | ⟨-, h⟩
  · obtain ⟨hbody, hrange⟩ := Option.filter_eq_some_iff.mp hfloat
    exact mem_literalLengths_of_float? hbody (by simpa using hrange)
  rcases (Option.orElse_eq_some _ _ _).mp h with hlong | ⟨-, hplain⟩
  · exact mem_literalLengths_of_longInteger? hlong
  · exact mem_literalLengths_of_plainInteger? hplain

/-- A long integer keeps all other literals from beginning where it begins. -/
theorem number?_long {t rest : Text} {c : Char} (h : IsInteger t) (hc : c = 'l' ∨ c = 'L')
    (hrest : atBoundary rest = true) : number? (t ++ c :: rest) = some (t.length + 1) := by
  have hends : EndsInteger (c :: rest) := by
    refine beginsOutside_cons ?_
    rcases hc with rfl | rfl <;> rfl
  have hreal := h.endsReal hends
  have himaginary := imaginary?_eq_none hreal
  have hfloat := float?_eq_none hreal.endsFloat
  have hlong := longInteger?_append hc h hrest
  simp [number?, himaginary, hfloat, hlong]

/-- An integer at a word boundary is read unless a longer float or imaginary number is. -/
theorem IsInteger.exists_number? {t rest : Text} (h : IsInteger t) (hrest : atBoundary rest = true) :
    ∃ n, number? (t ++ rest) = some n ∧ t.length ≤ n := by
  have hbody := integer?_append_of_atBoundary h hrest
  have hplain : plainInteger? (t ++ rest) = some t.length := by
    simp [plainInteger?, hbody, hrest]
  have hlong : longInteger? (t ++ rest) = none := by
    have hletter : BeginsOutside (fun c => c == 'l' || c == 'L') rest := by
      refine beginsOutside_of_atBoundary hrest fun c hc => ?_
      rcases Bool.or_eq_true_iff.mp hc with hc | hc <;> rw [eq_of_beq hc] <;> rfl
    have hsuffix := suffixed?_eq_none (t := t ++ rest) (n := t.length) (by simpa using hletter)
    rw [longInteger?, hbody]
    exact hsuffix
  have hreal := h.length_le_or_endsReal rest
  cases himaginary : imaginary? (t ++ rest) with
  | some n =>
    refine ⟨n, by simp [number?, himaginary], ?_⟩
    rcases hreal with hle | hends
    · exact Nat.le_of_lt (Nat.lt_of_le_of_lt hle (digits_lt_of_imaginary? himaginary))
    · rw [imaginary?_eq_none hends] at himaginary
      cases himaginary
  | none =>
    cases hfloat : (float? (t ++ rest)).filter fun n => !beginsRange (t ++ rest) n with
    | some n =>
      refine ⟨n, by simp [number?, himaginary, hfloat], ?_⟩
      have hn := (Option.filter_eq_some_iff.mp hfloat).1
      rcases hreal with hle | hends
      · exact Nat.le_of_lt (Nat.lt_of_le_of_lt hle (digits_lt_of_float? hn))
      · rw [float?_eq_none hends.endsFloat] at hn
        cases hn
    | none => exact ⟨t.length, by simp [number?, himaginary, hfloat, hlong, hplain], Nat.le_refl _⟩

/-- No literal at the start of a text is longer than the one read, and one is read if there is
any. -/
theorem Admissible.exists_number? {t rest : Text} (h : Admissible t rest) :
    ∃ n, number? (t ++ rest) = some n ∧ t.length ≤ n := by
  cases h with
  | @imaginary u _ c body hc hend =>
    have hletter : isWordChar c = true := by rcases hc with rfl | rfl <;> rfl
    have hboundary := (wordBoundary_concat_iff hletter u rest).mp hend
    have himaginary := imaginary?_append hc body hboundary
    refine ⟨u.length + 1, ?_, by simp⟩
    rw [List.append_assoc, List.singleton_append]
    simp [number?, himaginary]
  | float body hrange =>
    obtain ⟨m, hm, hle⟩ := body.exists_float? rest
    cases himaginary : imaginary? (t ++ rest) with
    | some n =>
      have hlt := lt_of_imaginary? himaginary hm
      exact ⟨n, by simp [number?, himaginary], Nat.le_of_lt (Nat.lt_of_le_of_lt hle hlt)⟩
    | none =>
      have hfree : beginsRange (t ++ rest) m = false :=
        Bool.eq_false_iff.mpr fun hbegins => hrange (body.of_beginsRange hm hbegins)
      exact ⟨m, by simp [number?, himaginary, hm, hfree], hle⟩
  | @long u _ c body hc hend =>
    have hletter : isWordChar c = true := by rcases hc with rfl | rfl <;> rfl
    have hboundary := (wordBoundary_concat_iff hletter u rest).mp hend
    refine ⟨u.length + 1, ?_, by simp⟩
    rw [List.append_assoc, List.singleton_append]
    exact number?_long body hc hboundary
  | integer body hend => exact body.exists_number? ((body.wordBoundary_iff rest).mp hend)

theorem isGraphic_of_isHex {c : Char} (h : isHex c = true) : isGraphic c = true := by
  have hrange : (48 ≤ c.toNat ∧ c.toNat ≤ 57) ∨ (97 ≤ c.toNat ∧ c.toNat ≤ 102) ∨
      (65 ≤ c.toNat ∧ c.toNat ≤ 70) := by
    simpa [isHex, Char.isDigit, Char.le_def, UInt32.le_iff_toNat_le, or_assoc] using h
  rw [isGraphic, Bool.and_eq_true, decide_eq_true_iff, decide_eq_true_iff]
  omega

theorem IsDigits.isGraphic {t : Text} (h : IsDigits Char.isDigit t) : ∀ c ∈ t, isGraphic c = true :=
  h.forall_mem (fun _ hc => isGraphic_of_isHex (isHex_of_isDigit hc)) rfl

theorem IsPointed.isGraphic {t : Text} (h : IsPointed t) : ∀ c ∈ t, isGraphic c = true := by
  cases h with
  | fraction right => exact List.forall_mem_cons.mpr ⟨rfl, right.isGraphic⟩
  | whole left => exact List.forall_mem_append.mpr ⟨left.isGraphic, List.forall_mem_singleton.mpr rfl⟩
  | both left right =>
    exact List.forall_mem_append.mpr ⟨left.isGraphic, List.forall_mem_cons.mpr ⟨rfl, right.isGraphic⟩⟩

theorem IsExponent.isGraphic {t : Text} (h : IsExponent t) : ∀ c ∈ t, isGraphic c = true := by
  cases h with
  | unsigned hc power =>
    exact List.forall_mem_cons.mpr ⟨by rcases hc with rfl | rfl <;> rfl, power.isGraphic⟩
  | @signed c sign cs hc hsign power =>
    have hletter : EditorAssist.isGraphic c = true := by rcases hc with rfl | rfl <;> rfl
    have hsigned : EditorAssist.isGraphic sign = true := by rcases hsign with rfl | rfl <;> rfl
    exact List.forall_mem_cons.mpr ⟨hletter, List.forall_mem_cons.mpr ⟨hsigned, power.isGraphic⟩⟩

theorem IsFloat.isGraphic {t : Text} (h : IsFloat t) : ∀ c ∈ t, isGraphic c = true := by
  cases h with
  | pointed body => exact body.isGraphic
  | scaled body exponent => exact List.forall_mem_append.mpr ⟨body.isGraphic, exponent.isGraphic⟩
  | scaledWhole body exponent => exact List.forall_mem_append.mpr ⟨body.isGraphic, exponent.isGraphic⟩

theorem IsInteger.isGraphic {t : Text} (h : IsInteger t) : ∀ c ∈ t, isGraphic c = true := by
  intro c hc
  have hnumeral := h.isIntegerChar c hc
  simp only [NumberLiteral.isIntegerChar, Bool.or_eq_true, beq_iff_eq] at hnumeral
  rcases hnumeral with ((((hhex | rfl) | rfl) | rfl) | rfl) | rfl
  · exact isGraphic_of_isHex hhex
  all_goals rfl

/-- The characters of a literal are visible. -/
theorem Admissible.isGraphic {t rest : Text} (h : Admissible t rest) :
    ∀ c ∈ t, isGraphic c = true := by
  cases h with
  | imaginary body hc hend =>
    refine List.forall_mem_append.mpr ⟨body.elim IsFloat.isGraphic IsDigits.isGraphic, ?_⟩
    exact List.forall_mem_singleton.mpr (by rcases hc with rfl | rfl <;> rfl)
  | float body hrange => exact body.isGraphic
  | long body hc hend =>
    refine List.forall_mem_append.mpr ⟨body.isGraphic, ?_⟩
    exact List.forall_mem_singleton.mpr (by rcases hc with rfl | rfl <;> rfl)
  | integer body hend => exact body.isGraphic

theorem Admissible.isAscii {t rest : Text} (h : Admissible t rest) :
    ∀ c ∈ t, isAscii c = true :=
  fun c hc => isAscii_of_isGraphic (h.isGraphic c hc)

theorem byteLength_of_isAscii {t : Text} (h : ∀ c ∈ t, isAscii c = true) :
    t.byteLength = t.length := by
  induction t with
  | nil => rfl
  | cons c cs ih =>
    rw [List.forall_mem_cons] at h
    have hsize : c.utf8Size = 1 := by
      rw [Char.utf8Size_eq_one_iff, UInt32.le_iff_toNat_le]
      exact Nat.le_of_lt_succ (of_decide_eq_true h.1)
    rw [Text.byteLength, ih h.2, hsize, List.length_cons, Nat.add_comm]

/-- The literal that is read is the longest. -/
theorem isGreatest_of_number? {t : Text} {n : Nat} (h : number? t = some n) :
    IsGreatest (literalLengths t) n := by
  refine ⟨mem_literalLengths_of_number? h, ?_⟩
  rintro m ⟨u, v, rfl, hu, rfl⟩
  obtain ⟨k, hk, hle⟩ := hu.exists_number?
  cases Option.some.inj (hk.symm.trans h)
  exact hle

theorem exists_number?_of_mem {t : Text} {m : Nat} (h : m ∈ literalLengths t) :
    ∃ n, number? t = some n := by
  obtain ⟨u, v, rfl, hu, rfl⟩ := h
  obtain ⟨n, hn, -⟩ := hu.exists_number?
  exact ⟨n, hn⟩

/-- Four searches one after another, with floats passed over at the left end of a range, find the
longest text at the start that is a number literal in front of what follows it, and find nothing only
if there is none. Such a text has as many bytes as characters. -/
theorem number?_eq_longest (t : Text) :
    number? t = search? t ∧ (∀ n, number? t = some n ↔ IsGreatest (literalLengths t) n) ∧
      (number? t = none ↔ literalLengths t = ∅) ∧
      ∀ n, number? t = some n → Text.byteLength (t.take n) = n := by
  refine ⟨number?_eq_search? t, fun n => ⟨isGreatest_of_number?, fun h => ?_⟩, ?_, fun n hn => ?_⟩
  · obtain ⟨k, hk⟩ := exists_number?_of_mem h.1
    rw [hk, (isGreatest_of_number? hk).unique h]
  · rw [Set.eq_empty_iff_forall_notMem, Option.eq_none_iff_forall_ne_some]
    constructor
    · intro h m hm
      obtain ⟨k, hk⟩ := exists_number?_of_mem hm
      exact h k hk
    · exact fun h n hn => h n (mem_literalLengths_of_number? hn)
  · obtain ⟨u, v, rfl, hu, rfl⟩ := mem_literalLengths_of_number? hn
    rw [List.take_left, byteLength_of_isAscii hu.isAscii]

end NumberLiteral
end EditorAssist
