import EditorAssist.Lexing.Table
import Mathlib.Data.List.TakeWhile

/-! Characters that begin neither a comment nor a string. Names, numbers, operators and white space
are made of no others, and hold no brackets. -/
namespace EditorAssist

/-- A character that begins neither a comment nor a string nor a character literal. -/
def isInert (c : Char) : Bool :=
  c != '#' && c != '"' && c != '\x27'

/-- An inert character that is no bracket. -/
def isUnmarked (c : Char) : Bool :=
  isInert c && !Recognizer.isOpening c && !Recognizer.isClosing c

theorem isInert_of_class {p : Char → Bool} (hash : p '#' = false) (quote : p '"' = false)
    (apostrophe : p '\x27' = false) {c : Char} (h : p c = true) : isInert c = true := by
  simp only [isInert, Bool.and_eq_true, bne_iff_ne, ne_eq]
  refine ⟨⟨?_, ?_⟩, ?_⟩
  · rintro rfl
    simp [hash] at h
  · rintro rfl
    simp [quote] at h
  · rintro rfl
    simp [apostrophe] at h

theorem isInert_of_isUnmarked {c : Char} (h : isUnmarked c = true) : isInert c = true := by
  simp only [isUnmarked, Bool.and_eq_true] at h
  exact h.1.1

/-- The characters that begin comments and literals, and the brackets. -/
def markChars : Text :=
  ['#', '"', '\x27', '(', '[', '{', ')', ']', '}']

theorem isUnmarked_iff_not_mem {c : Char} : isUnmarked c = true ↔ c ∉ markChars := by
  simp [isUnmarked, isInert, Recognizer.isOpening, Recognizer.isClosing, markChars, and_assoc]

/-- A class without any of the marks. -/
theorem isUnmarked_of_class {p : Char → Bool} (hmarks : markChars.any p = false) {c : Char}
    (h : p c = true) : isUnmarked c = true := by
  rw [isUnmarked_iff_not_mem]
  intro hc
  exact absurd h (List.any_eq_false.mp hmarks c hc)

theorem isUnmarked_of_isNamePart {c : Char} (h : isNamePart c = true) : isUnmarked c = true :=
  isUnmarked_of_class (by decide +kernel) h

theorem isUnmarked_of_isNameStart {c : Char} (h : isNameStart c = true) : isUnmarked c = true :=
  isUnmarked_of_class (by decide +kernel) h

theorem isUnmarked_of_isUpper {c : Char} (h : isUpper c = true) : isUnmarked c = true :=
  isUnmarked_of_class (by decide +kernel) h

theorem isUnmarked_of_isBlank {c : Char} (h : isBlank c = true) : isUnmarked c = true :=
  isUnmarked_of_class (by decide +kernel) h

/-- A text has `n` characters and more, and the first `n` are of a class. -/
structure MadeOf (p : Char → Bool) (t : Text) (n : Nat) : Prop where
  fits : n ≤ t.length
  chars : ∀ c ∈ t.take n, p c = true

namespace MadeOf
variable {p : Char → Bool}

theorem zero (t : Text) : MadeOf p t 0 := by
  constructor
  · exact Nat.zero_le _
  · simp

theorem cons {c : Char} {cs : Text} {n : Nat} (hc : p c = true) (h : MadeOf p cs n) :
    MadeOf p (c :: cs) (n + 1) := by
  constructor
  · exact Nat.succ_le_succ h.fits
  · rw [List.take_succ_cons, List.forall_mem_cons]
    exact ⟨hc, h.chars⟩

theorem add {t : Text} {m n : Nat} (hm : MadeOf p t m) (hn : MadeOf p (t.drop m) n) :
    MadeOf p t (m + n) := by
  constructor
  · have hfits := hn.fits
    have hle := hm.fits
    rw [List.length_drop] at hfits
    omega
  · intro c hc
    rw [List.take_add, List.mem_append] at hc
    exact hc.elim (hm.chars c) (hn.chars c)

theorem takeWhile (t : Text) : MadeOf p t (t.takeWhile p).length := by
  constructor
  · exact (List.takeWhile_prefix p).length_le
  · intro c hc
    rw [← List.prefix_iff_eq_take.mp (List.takeWhile_prefix p)] at hc
    exact List.mem_takeWhile_imp hc

theorem mono {q : Char → Bool} {t : Text} {n : Nat} (h : MadeOf p t n)
    (hsub : ∀ c, p c = true → q c = true) : MadeOf q t n :=
  ⟨h.fits, fun c hc => hsub c (h.chars c hc)⟩

end MadeOf

namespace NumberLiteral

variable {digit : Char → Bool}

theorem madeOf_moreDigits (hdigit : ∀ c, digit c = true → isUnmarked c = true) (t : Text) :
    MadeOf isUnmarked t (moreDigits digit t) := by
  fun_induction moreDigits digit t with
  | case1 => exact .zero _
  | case2 c h => exact .cons (hdigit c h) (.zero _)
  | case3 => exact .zero _
  | case4 c d cs h ih => exact .cons (hdigit c h) ih
  | case5 c d cs _ h ih =>
    obtain ⟨hc, hd⟩ := Bool.and_eq_true_iff.mp h
    have hunmarked : isUnmarked c = true := by
      rw [eq_of_beq hc]
      rfl
    exact .cons hunmarked (.cons (hdigit d hd) ih)
  | case6 => exact .zero _

theorem madeOf_digits (hdigit : ∀ c, digit c = true → isUnmarked c = true) (t : Text) :
    MadeOf isUnmarked t (digits digit t) := by
  fun_cases digits digit t with
  | case1 => exact .zero _
  | case2 c cs h => exact .cons (hdigit c h) (madeOf_moreDigits hdigit cs)
  | case3 => exact .zero _

theorem madeOf_decimals (t : Text) : MadeOf isUnmarked t (digits Char.isDigit t) :=
  madeOf_digits (fun _ h => isUnmarked_of_class (by decide) h) t

theorem madeOf_based {letter : Char} {cs : Text} {n : Nat} (hletter : isUnmarked letter = true)
    (hdigit : ∀ c, digit c = true → isUnmarked c = true)
    (h : (if digits digit cs = 0 then some 1 else some (digits digit cs + 2)) = some n) :
    MadeOf isUnmarked ('0' :: letter :: cs) n := by
  split_ifs at h with hzero
  · cases Option.some.inj h
    exact .cons rfl (.zero _)
  · cases Option.some.inj h
    exact .cons rfl (.cons hletter (madeOf_digits hdigit cs))

theorem madeOf_integer? {t : Text} {n : Nat} (h : integer? t = some n) : MadeOf isUnmarked t n := by
  unfold integer? at h
  split at h
  · next letter cs =>
    have hletter (upper lower : Char) (hupper : isUnmarked upper = true)
        (hlower : isUnmarked lower = true) (h : (letter == lower || letter == upper) = true) :
        isUnmarked letter = true := by
      rcases Bool.or_eq_true_iff.mp h with h | h
      · rwa [eq_of_beq h]
      · rwa [eq_of_beq h]
    by_cases ho : letter == 'o' || letter == 'O'
    · simp only [ho, if_true] at h
      exact madeOf_based (hletter 'O' 'o' rfl rfl ho)
        (fun _ hc => isUnmarked_of_class (by decide) hc) h
    · by_cases hx : letter == 'x' || letter == 'X'
      · simp only [if_neg ho, hx, if_true] at h
        exact madeOf_based (hletter 'X' 'x' rfl rfl hx)
          (fun _ hc => isUnmarked_of_class (by decide) hc) h
      · by_cases hb : letter == 'b' || letter == 'B'
        · simp only [if_neg ho, if_neg hx, hb, if_true] at h
          exact madeOf_based (hletter 'B' 'b' rfl rfl hb)
            (fun _ hc => isUnmarked_of_class (by decide) hc) h
        · simp only [if_neg ho, if_neg hx, if_neg hb, Option.some.injEq] at h
          subst h
          exact .cons rfl (.zero _)
  · cases Option.some.inj h
    exact .cons rfl (.zero _)
  · split_ifs at h with hzero
    cases Option.some.inj h
    exact madeOf_decimals t

theorem madeOf_pointed? {t : Text} {n : Nat} (h : pointed? t = some n) : MadeOf isUnmarked t n := by
  simp only [pointed?] at h
  split at h
  · next rest hrest =>
    split_ifs at h with hempty
    cases Option.some.inj h
    rw [Nat.add_assoc, Nat.add_comm 1]
    refine .add (madeOf_decimals t) ?_
    rw [hrest]
    exact .cons rfl (madeOf_decimals rest)
  · cases h

theorem madeOf_sign (t : Text) :
    MadeOf isUnmarked t (if t.head?.any (fun s => s == '+' || s == '-') then 1 else 0) := by
  split_ifs with hsign
  · cases t with
    | nil => exact absurd hsign (by simp)
    | cons c cs =>
      exact .cons (isUnmarked_of_class (p := fun s => s == '+' || s == '-') (by decide) hsign)
        (.zero _)
  · exact .zero _

theorem madeOf_exponent? {t : Text} {n : Nat} (h : exponent? t = some n) : MadeOf isUnmarked t n := by
  cases t with
  | nil => cases h
  | cons c cs =>
    have hsigned := madeOf_sign cs
    simp only [exponent?] at h
    generalize (if cs.head?.any (fun s => s == '+' || s == '-') then 1 else 0) = sign at h hsigned
    split_ifs at h with hc hpower
    cases Option.some.inj h
    rw [Nat.add_assoc, Nat.add_comm 1]
    exact .cons (isUnmarked_of_class (p := fun c => c == 'e' || c == 'E') (by decide) hc)
      (.add hsigned (madeOf_decimals _))

theorem madeOf_float? {t : Text} {n : Nat} (h : float? t = some n) : MadeOf isUnmarked t n := by
  unfold float? at h
  split at h
  · next m hpointed =>
    cases Option.some.inj h
    refine .add (madeOf_pointed? hpointed) ?_
    cases hexponent : exponent? (t.drop m) with
    | none => exact .zero _
    | some e => exact madeOf_exponent? hexponent
  · dsimp only at h
    split_ifs at h with hwhole
    obtain ⟨e, hexponent, rfl⟩ := Option.map_eq_some_iff.mp h
    exact .add (madeOf_decimals t) (madeOf_exponent? hexponent)

theorem madeOf_suffixed? {letter : Char → Bool} (hletter : ∀ c, letter c = true → isUnmarked c = true)
    {t : Text} {m n : Nat} (hm : MadeOf isUnmarked t m) (h : suffixed? letter t m = some n) :
    MadeOf isUnmarked t n := by
  unfold suffixed? at h
  split at h
  · next c rest hrest =>
    split_ifs at h with hc
    cases Option.some.inj h
    refine .add hm ?_
    rw [hrest]
    exact .cons (hletter c (Bool.and_eq_true_iff.mp hc).1) (.zero _)
  · cases h

theorem madeOf_imaginary? {t : Text} {n : Nat} (h : imaginary? t = some n) : MadeOf isUnmarked t n := by
  simp only [imaginary?] at h
  obtain ⟨m, hbody, hsuffix⟩ := Option.bind_eq_some_iff.mp h
  refine madeOf_suffixed? (fun _ hc => isUnmarked_of_class (by decide) hc) ?_ hsuffix
  split at hbody
  · next k hfloat =>
    cases Option.some.inj hbody
    exact madeOf_float? hfloat
  · split_ifs at hbody with hzero
    cases Option.some.inj hbody
    exact madeOf_decimals t

theorem madeOf_longInteger? {t : Text} {n : Nat} (h : longInteger? t = some n) :
    MadeOf isUnmarked t n := by
  obtain ⟨m, hinteger, hsuffix⟩ := Option.bind_eq_some_iff.mp h
  exact madeOf_suffixed? (fun _ hc => isUnmarked_of_class (by decide) hc)
    (madeOf_integer? hinteger) hsuffix

theorem madeOf_number? {t : Text} {n : Nat} (h : number? t = some n) : MadeOf isUnmarked t n := by
  simp only [number?, Option.orElse_eq_orElse, Option.orElse_eq_or, Option.or_eq_some_iff] at h
  rcases h with h | ⟨-, h | ⟨-, h | ⟨-, h⟩⟩⟩
  · exact madeOf_imaginary? h
  · exact madeOf_float? (Option.filter_eq_some_iff.mp h).1
  · exact madeOf_longInteger? h
  · exact madeOf_integer? (Option.filter_eq_some_iff.mp h).1

end NumberLiteral

namespace Recognizer

theorem madeOf_run? {p : Char → Bool} {t : Text} {n : Nat} (h : run? p t = some n) :
    MadeOf p t n := by
  cases Option.some.inj h
  exact .takeWhile t

theorem madeOf_one? {p : Char → Bool} {t : Text} {n : Nat} (h : one? p t = some n) :
    MadeOf p t n := by
  cases t with
  | nil => cases h
  | cons c cs =>
    simp only [one?] at h
    split_ifs at h with hc
    cases Option.some.inj h
    exact .cons hc (.zero _)

theorem madeOf_word? {start part p : Char → Bool} (hstart : ∀ c, start c = true → p c = true)
    (hpart : ∀ c, part c = true → p c = true) {t : Text} {n : Nat}
    (h : word? start part t = some n) : MadeOf p t n := by
  cases t with
  | nil => cases h
  | cons c cs =>
    simp only [word?] at h
    split_ifs at h with hc
    cases Option.some.inj h
    exact .cons (hstart c hc) ((MadeOf.takeWhile cs).mono hpart)

theorem madeOf_dottedName? {t : Text} {n : Nat} (h : dottedName? t = some n) :
    MadeOf isUnmarked t n := by
  unfold dottedName? at h
  split at h
  · next rest =>
    obtain ⟨m, hname, rfl⟩ := Option.map_eq_some_iff.mp h
    exact .cons rfl (madeOf_word? (fun _ => isUnmarked_of_isNameStart)
      (fun _ => isUnmarked_of_isNamePart) hname)
  · cases h

theorem madeOf_operator? {t : Text} {n : Nat} (h : operator? t = some n) :
    MadeOf isUnmarked t n := by
  obtain ⟨glyphs, hfind, rfl⟩ := Option.map_eq_some_iff.mp h
  have hbegins : glyphs <+: t :=
    List.isPrefixOf_iff_prefix.mp (List.find?_some (p := (List.isPrefixOf · t)) hfind)
  have hunmarked : operators.all (·.all isUnmarked) = true := rfl
  have hglyphs := List.all_eq_true.mp hunmarked glyphs (List.mem_of_find?_eq_some hfind)
  constructor
  · exact hbegins.length_le
  · rw [← List.prefix_iff_eq_take.mp hbegins]
    exact List.all_eq_true.mp hglyphs

end Recognizer
end EditorAssist
