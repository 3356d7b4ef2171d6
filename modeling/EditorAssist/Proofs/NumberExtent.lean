import EditorAssist.Proofs.NumberPatterns

/-! How far the forms of numbers reach. What is read is of its form, and of the texts of that form
at the start none is longer. -/
namespace EditorAssist
namespace NumberLiteral

section
variable {digit : Char → Bool}

theorem exists_of_moreDigits (digit : Char → Bool) (t : Text) : ∃ u v, t = u ++ v ∧
    (∀ c, digit c = true → IsDigits digit (c :: u)) ∧ u.length = moreDigits digit t := by
  fun_induction moreDigits digit t with
  | case1 => exact ⟨[], [], rfl, fun c hc => .single hc, rfl⟩
  | case2 d hd => exact ⟨[d], [], rfl, fun c hc => .next hc (.single hd), rfl⟩
  | case3 d hd => exact ⟨[], [d], rfl, fun c hc => .single hc, rfl⟩
  | case4 d e rest hd ih =>
    obtain ⟨u, v, hsplit, hu, hlength⟩ := ih
    refine ⟨d :: u, v, by rw [hsplit]; rfl, fun c hc => .next hc (hu d hd), ?_⟩
    rw [List.length_cons, hlength]
  | case5 d e rest _ hd ih =>
    obtain ⟨u, v, hsplit, hu, hlength⟩ := ih
    obtain ⟨hunderscore, he⟩ := Bool.and_eq_true_iff.mp hd
    cases eq_of_beq hunderscore
    refine ⟨'_' :: e :: u, v, by rw [hsplit]; rfl, fun c hc => .separated hc (hu e he), ?_⟩
    rw [List.length_cons, List.length_cons, hlength]
  | case6 d e rest _ _ => exact ⟨[], d :: e :: rest, rfl, fun c hc => .single hc, rfl⟩

theorem exists_of_digits {t : Text} (h : digits digit t ≠ 0) :
    ∃ u v, t = u ++ v ∧ IsDigits digit u ∧ u.length = digits digit t := by
  cases t with
  | nil => exact absurd rfl h
  | cons c cs =>
    by_cases hc : digit c = true
    · obtain ⟨u, v, hsplit, hu, hlength⟩ := exists_of_moreDigits digit cs
      refine ⟨c :: u, v, by rw [hsplit]; rfl, hu c hc, ?_⟩
      rw [digits, if_pos hc, List.length_cons, hlength]
    · rw [digits, if_neg hc] at h
      exact absurd rfl h

theorem IsDigits.length_le_moreDigits (hunderscore : digit '_' = false) {t : Text}
    (h : IsDigits digit t) (rest : Text) : t.length ≤ moreDigits digit (t ++ rest) := by
  induction h with
  | single hc =>
    rw [List.singleton_append, moreDigits_cons hc]
    exact Nat.succ_le_succ (Nat.zero_le _)
  | next hc tail ih =>
    rw [List.cons_append, moreDigits_cons hc]
    exact Nat.succ_le_succ ih
  | separated hc tail ih =>
    obtain ⟨d, ds, rfl, hd⟩ := tail.exists_cons
    rw [List.cons_append, moreDigits_cons hd] at ih
    rw [List.cons_append, List.cons_append, List.cons_append, moreDigits_cons hc,
      moreDigits_separated hunderscore hd]
    exact Nat.succ_le_succ (Nat.succ_le_succ ih)

/-- No run of digits at the start of a text is longer than the one read. -/
theorem IsDigits.length_le (hunderscore : digit '_' = false) {t : Text} (h : IsDigits digit t)
    (rest : Text) : t.length ≤ digits digit (t ++ rest) := by
  obtain ⟨c, cs, rfl, hc⟩ := h.exists_cons
  have hmore := h.length_le_moreDigits hunderscore rest
  rw [List.cons_append, moreDigits_cons hc] at hmore
  rw [List.cons_append, digits, if_pos hc]
  exact hmore

end

theorem exists_decimals (t : Text) : ∃ u v, t = u ++ v ∧
    (u = [] ∨ IsDigits Char.isDigit u) ∧ u.length = digits Char.isDigit t := by
  by_cases h : digits Char.isDigit t = 0
  · exact ⟨[], t, rfl, .inl rfl, h.symm⟩
  · obtain ⟨u, v, hsplit, hu, hlength⟩ := exists_of_digits h
    exact ⟨u, v, hsplit, .inr hu, hlength⟩

theorem length_le_decimals {t : Text} (h : t = [] ∨ IsDigits Char.isDigit t) (rest : Text) :
    t.length ≤ digits Char.isDigit (t ++ rest) := by
  rcases h with rfl | h
  · exact Nat.zero_le _
  · exact h.length_le rfl rest

theorem isPointed_of_sides {ds cs : Text} (hleft : ds = [] ∨ IsDigits Char.isDigit ds)
    (hright : cs = [] ∨ IsDigits Char.isDigit cs) (hsome : 0 < ds.length + cs.length) :
    IsPointed (ds ++ '.' :: cs) := by
  rcases hleft with rfl | hleft <;> rcases hright with rfl | hright
  · cases hsome
  · exact .fraction hright
  · exact .whole hleft
  · exact .both hleft hright

theorem exists_of_pointed? {t : Text} {n : Nat} (h : pointed? t = some n) :
    ∃ u v, t = u ++ v ∧ IsPointed u ∧ u.length = n := by
  obtain ⟨ds, tail, rfl, hleft, hwhole⟩ := exists_decimals t
  simp only [pointed?, ← hwhole, List.drop_left] at h
  split at h
  · next rest =>
    obtain ⟨cs, v, rfl, hright, hfraction⟩ := exists_decimals rest
    rw [← hfraction] at h
    split_ifs at h with hempty
    have hsome : 0 < ds.length + cs.length := by omega
    refine ⟨ds ++ '.' :: cs, v, by simp, isPointed_of_sides hleft hright hsome, ?_⟩
    rw [← Option.some.inj h, List.length_append, List.length_cons]
    omega
  · cases h

/-- No digits around a point at the start of a text are longer than those read. -/
theorem IsPointed.exists_pointed? {t : Text} (h : IsPointed t) (rest : Text) :
    ∃ n, pointed? (t ++ rest) = some n ∧ t.length ≤ n := by
  obtain ⟨ds, cs, rfl, hleft, hright, hsome⟩ := h.exists_sides
  have hwhole : digits Char.isDigit (ds ++ '.' :: (cs ++ rest)) = ds.length :=
    decimals_append hleft (beginsOutside_cons rfl)
  have hfraction := length_le_decimals hright rest
  have hne : ¬ (ds.length = 0 ∧ digits Char.isDigit (cs ++ rest) = 0) := by omega
  refine ⟨ds.length + 1 + digits Char.isDigit (cs ++ rest), ?_, ?_⟩
  · rw [List.append_assoc, List.cons_append]
    simp only [pointed?, hwhole, List.drop_left, if_neg hne]
  · rw [List.length_append, List.length_cons]
    omega

theorem exists_of_exponent? {t : Text} {n : Nat} (h : exponent? t = some n) :
    ∃ u v, t = u ++ v ∧ IsExponent u ∧ u.length = n := by
  cases t with
  | nil => cases h
  | cons c cs =>
    simp only [exponent?] at h
    split_ifs at h with hletter hsign hpower hpower
    · cases cs with
      | nil => cases hsign
      | cons sign ds =>
        rw [List.drop_succ_cons, List.drop_zero] at h hpower
        obtain ⟨power, v, rfl, hdigits, hlength⟩ := exists_of_digits hpower
        refine ⟨c :: sign :: power, v, rfl, .signed (by simpa using hletter)
          (by simpa using hsign) hdigits, ?_⟩
        rw [← Option.some.inj h, List.length_cons, List.length_cons, hlength]
        omega
    · rw [List.drop_zero] at h hpower
      obtain ⟨power, v, rfl, hdigits, hlength⟩ := exists_of_digits hpower
      refine ⟨c :: power, v, rfl, .unsigned (by simpa using hletter) hdigits, ?_⟩
      rw [← Option.some.inj h, List.length_cons, hlength]
      omega

theorem IsExponent.exists_exponent? {t : Text} (h : IsExponent t) (rest : Text) :
    ∃ n, exponent? (t ++ rest) = some n ∧ t.length ≤ n := by
  cases h with
  | @unsigned c cs hc power =>
    have hletter : (c == 'e' || c == 'E') = true := by simpa using hc
    have hpower := power.length_le rfl rest
    have hpos := power.length_pos
    obtain ⟨d, ds, rfl, hd⟩ := power.exists_cons
    have hplus : d ≠ '+' := ne_of_class hd rfl
    have hminus : d ≠ '-' := ne_of_class hd rfl
    rw [List.cons_append] at hpower
    have hne : digits Char.isDigit (d :: (ds ++ rest)) ≠ 0 := by omega
    refine ⟨1 + digits Char.isDigit (d :: (ds ++ rest)), ?_, ?_⟩
    · simp [exponent?, hletter, hplus, hminus, hne]
    · rw [List.length_cons, Nat.add_comm]
      exact Nat.add_le_add_left hpower 1
  | @signed c sign cs hc hsign power =>
    have hletter : (c == 'e' || c == 'E') = true := by simpa using hc
    have hpower := power.length_le rfl rest
    have hpos := power.length_pos
    have hne : digits Char.isDigit (cs ++ rest) ≠ 0 := by omega
    refine ⟨2 + digits Char.isDigit (cs ++ rest), ?_, ?_⟩
    · simp [exponent?, hletter, hsign, hne]
    · rw [List.length_cons, List.length_cons]
      omega

theorem exists_of_float? {t : Text} {n : Nat} (h : float? t = some n) :
    ∃ u v, t = u ++ v ∧ IsFloat u ∧ u.length = n := by
  unfold float? at h
  split at h
  · next m hpointed =>
    obtain ⟨u, v, rfl, hu, rfl⟩ := exists_of_pointed? hpointed
    rw [List.drop_left] at h
    cases hexponent : exponent? v with
    | none =>
      rw [hexponent] at h
      exact ⟨u, v, rfl, .pointed hu, Option.some.inj h⟩
    | some k =>
      obtain ⟨x, rest, rfl, hx, rfl⟩ := exists_of_exponent? hexponent
      rw [hexponent] at h
      refine ⟨u ++ x, rest, (List.append_assoc _ _ _).symm, .scaled hu hx, ?_⟩
      rw [List.length_append]
      exact Option.some.inj h
  · obtain ⟨u, v, rfl, hu, hwhole⟩ := exists_decimals t
    simp only [← hwhole, List.drop_left] at h
    split_ifs at h with hzero
    obtain ⟨k, hexponent, rfl⟩ := Option.map_eq_some_iff.mp h
    obtain ⟨x, rest, rfl, hx, rfl⟩ := exists_of_exponent? hexponent
    have hdigits : IsDigits Char.isDigit u := hu.resolve_left fun hnil => hzero (by rw [hnil]; rfl)
    refine ⟨u ++ x, rest, (List.append_assoc _ _ _).symm, .scaledWhole hdigits hx, ?_⟩
    rw [List.length_append]

/-- No float at the start of a text is longer than the one read. -/
theorem IsFloat.exists_float? {t : Text} (h : IsFloat t) (rest : Text) :
    ∃ n, float? (t ++ rest) = some n ∧ t.length ≤ n := by
  cases h with
  | pointed body =>
    obtain ⟨n, hpointed, hle⟩ := body.exists_pointed? rest
    refine ⟨n + (exponent? ((t ++ rest).drop n)).getD 0, ?_, ?_⟩
    · simp only [float?, hpointed]
    · exact Nat.le_trans hle (Nat.le_add_right _ _)
  | @scaled t u body exponent =>
    have hpointed := pointed?_append body (exponent.beginsOutside rfl rfl rest)
    obtain ⟨n, hexponent, hle⟩ := exponent.exists_exponent? rest
    refine ⟨t.length + n, ?_, ?_⟩
    · rw [List.append_assoc]
      simp [float?, hpointed, hexponent]
    · rw [List.length_append]
      exact Nat.add_le_add_left hle _
  | @scaledWhole t u body exponent =>
    have hwhole := decimals_append (.inr body) (exponent.beginsOutside rfl rfl rest)
    obtain ⟨n, hexponent, hle⟩ := exponent.exists_exponent? rest
    have hpointed : pointed? (t ++ (u ++ rest)) = none := by
      refine pointed?_eq_none ?_
      rw [hwhole, List.drop_left]
      exact exponent.beginsOutside rfl rfl rest
    have hpos : t.length ≠ 0 := Nat.ne_of_gt body.length_pos
    refine ⟨t.length + n, ?_, ?_⟩
    · rw [List.append_assoc]
      simp [float?, hpointed, hwhole, hexponent, hpos]
    · rw [List.length_append]
      exact Nat.add_le_add_left hle _

/-- A float goes on behind the digits it begins with. -/
theorem IsFloat.digits_lt {t : Text} (h : IsFloat t) (rest : Text) :
    digits Char.isDigit (t ++ rest) < t.length := by
  have hpointed : ∀ {u : Text}, IsPointed u → ∀ v, digits Char.isDigit (u ++ v) < u.length := by
    intro u body v
    obtain ⟨ds, cs, rfl, hleft, -, -⟩ := body.exists_sides
    rw [List.append_assoc, List.cons_append, decimals_append hleft (beginsOutside_cons rfl),
      List.length_append, List.length_cons]
    omega
  cases h with
  | pointed body => exact hpointed body rest
  | @scaled t u body exponent =>
    have hlt := hpointed body (u ++ rest)
    rw [List.append_assoc, List.length_append]
    omega
  | @scaledWhole t u body exponent =>
    have hwhole := decimals_append (.inr body) (exponent.beginsOutside rfl rfl rest)
    have hpos : 0 < u.length := by cases exponent <;> exact Nat.succ_pos _
    rw [List.append_assoc, hwhole, List.length_append]
    omega

theorem exists_of_integer? {t : Text} {n : Nat} (h : integer? t = some n) :
    ∃ u v, t = u ++ v ∧ IsInteger u ∧ u.length = n := by
  cases t with
  | nil => cases h
  | cons c cs =>
    by_cases hc : c = '0'
    · subst hc
      have hzero : ∃ u v, '0' :: cs = u ++ v ∧ IsInteger u ∧ u.length = 1 :=
        ⟨['0'], cs, rfl, .zero, rfl⟩
      cases cs with
      | nil =>
        cases Option.some.inj h
        exact hzero
      | cons letter rest =>
        by_cases hbase : ∃ digit, IsBase letter digit
        · obtain ⟨digit, hbase⟩ := hbase
          rw [hbase.integer?_eq] at h
          split_ifs at h with hnone
          · cases Option.some.inj h
            exact hzero
          · obtain ⟨u, v, rfl, hu, hlength⟩ := exists_of_digits hnone
            refine ⟨'0' :: letter :: u, v, rfl, .based hbase hu, ?_⟩
            rw [← Option.some.inj h, List.length_cons, List.length_cons, hlength]
        · rw [integer?_eq_some_one (not_exists.mp hbase)] at h
          cases Option.some.inj h
          exact hzero
    · rw [integer?_eq_digits hc] at h
      split_ifs at h with hnone
      obtain ⟨u, v, hsplit, hu, hlength⟩ := exists_of_digits hnone
      obtain ⟨d, ds, rfl, -⟩ := hu.exists_cons
      cases (List.cons.inj hsplit).1
      exact ⟨c :: ds, v, hsplit, .decimal hc hu, hlength.trans (Option.some.inj h)⟩

/-- No integer at the start of a text is longer than the one read. -/
theorem IsInteger.exists_integer? {t : Text} (h : IsInteger t) (rest : Text) :
    ∃ n, integer? (t ++ rest) = some n ∧ t.length ≤ n := by
  cases h with
  | @based c digit cs hbase body =>
    have hunderscore : digit '_' = false := by cases hbase <;> rfl
    have hle := body.length_le hunderscore rest
    have hpos := body.length_pos
    have hne : digits digit (cs ++ rest) ≠ 0 := by omega
    refine ⟨digits digit (cs ++ rest) + 2, ?_, ?_⟩
    · rw [List.cons_append, List.cons_append, hbase.integer?_eq, if_neg hne]
    · exact Nat.add_le_add_right hle 2
  | @decimal c cs hc body =>
    have hle := body.length_le rfl rest
    have hpos := body.length_pos
    have hne : digits Char.isDigit (c :: (cs ++ rest)) ≠ 0 := by
      rw [List.cons_append] at hle
      omega
    refine ⟨digits Char.isDigit (c :: (cs ++ rest)), ?_, hle⟩
    rw [List.cons_append, integer?_eq_digits hc, if_neg hne]
  | zero =>
    cases rest with
    | nil => exact ⟨1, rfl, Nat.le_refl 1⟩
    | cons letter cs =>
      by_cases hbase : ∃ digit, IsBase letter digit
      · obtain ⟨digit, hbase⟩ := hbase
        rw [List.singleton_append, hbase.integer?_eq]
        split_ifs
        · exact ⟨1, rfl, Nat.le_refl 1⟩
        · exact ⟨_, rfl, Nat.le_add_left 1 _⟩
      · refine ⟨1, ?_, Nat.le_refl 1⟩
        rw [List.singleton_append, integer?_eq_some_one (not_exists.mp hbase)]

theorem IsDigits.forall_mem {digit p : Char → Bool} (hdigit : ∀ c, digit c = true → p c = true)
    (hunderscore : p '_' = true) {t : Text} (h : IsDigits digit t) : ∀ c ∈ t, p c = true := by
  induction h with
  | single hc => exact List.forall_mem_singleton.mpr (hdigit _ hc)
  | next hc rest ih => exact List.forall_mem_cons.mpr ⟨hdigit _ hc, ih⟩
  | separated hc rest ih =>
    exact List.forall_mem_cons.mpr ⟨hdigit _ hc, List.forall_mem_cons.mpr ⟨hunderscore, ih⟩⟩

theorem IsInteger.isIntegerChar {t : Text} (h : IsInteger t) : ∀ c ∈ t, isIntegerChar c = true := by
  cases h with
  | @based c digit cs hbase body =>
    have hbody := body.forall_mem (fun d hd => isIntegerChar_of_isHex (hbase.isHex d hd)) rfl
    exact List.forall_mem_cons.mpr ⟨rfl, List.forall_mem_cons.mpr ⟨hbase.isIntegerChar, hbody⟩⟩
  | decimal hc body =>
    exact body.forall_mem (fun d hd => isIntegerChar_of_isHex (isHex_of_isDigit hd)) rfl
  | zero => exact List.forall_mem_singleton.mpr rfl

/-- An integer at a word boundary is read as a whole. -/
theorem integer?_append_of_atBoundary {t rest : Text} (h : IsInteger t)
    (hrest : atBoundary rest = true) : integer? (t ++ rest) = some t.length := by
  obtain ⟨n, hn, hle⟩ := h.exists_integer? rest
  obtain ⟨u, v, hsplit, hu, rfl⟩ := exists_of_integer? hn
  rcases List.append_eq_append_iff.mp hsplit with ⟨more, rfl, rfl⟩ | ⟨more, rfl, rfl⟩
  · cases more with
    | nil => simpa using hn
    | cons c cs =>
      have hc : isWordChar c = true := isWordChar_of_isIntegerChar (hu.isIntegerChar c (by simp))
      simp [atBoundary, hc] at hrest
  · rw [List.length_append] at hle
    have hnil : more = [] := List.length_eq_zero_iff.mp (by omega)
    subst hnil
    simpa using hn

end NumberLiteral
end EditorAssist
