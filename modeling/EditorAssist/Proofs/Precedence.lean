import EditorAssist.Proofs.Cutting
import EditorAssist.Proofs.NumberGrammar
import Mathlib.Data.List.Forall2

/-! Which rule for code applies. A rule matches only texts that begin in its class of characters, so
the rules whose classes a character avoids can be passed over. -/
namespace EditorAssist

/-- A class has no character in some ranges if it has none of their code points. -/
theorem CodeRanges.eq_false_of_covers (ranges : CodeRanges) (p : Char → Bool)
    (h : ∀ r ∈ ranges, ∀ n ∈ List.range' r.1 (r.2 + 1 - r.1), p (Char.ofNat n) = false) {c : Char}
    (hc : ranges.covers c = true) : p c = false := by
  obtain ⟨r, hr, hrange⟩ := List.any_eq_true.mp hc
  simp only [Bool.and_eq_true, decide_eq_true_eq] at hrange
  have hmem : c.toNat ∈ List.range' r.1 (r.2 + 1 - r.1) := by
    rw [List.mem_range'_1]
    omega
  have hp := h r hr c.toNat hmem
  rwa [Char.ofNat_toNat] at hp

theorem isNamePart_eq_false_of_isBlank {c : Char} (h : isBlank c = true) : isNamePart c = false :=
  CodeRanges.eq_false_of_covers blankRanges isNamePart (by decide +kernel) h

theorem covers_of_isDigit {c : Char} (h : c.isDigit = true) :
    CodeRanges.covers [(48, 57)] c = true := by
  simpa [CodeRanges.covers, Char.isDigit, UInt32.le_iff_toNat_le] using h

theorem eq_false_of_isDigit {c : Char} (h : c.isDigit = true) (p : Char → Bool)
    (hp : ∀ n ∈ List.range' 48 10, p (Char.ofNat n) = false) : p c = false :=
  CodeRanges.eq_false_of_covers [(48, 57)] p (by simpa using hp) (covers_of_isDigit h)

theorem isAscii_of_isAlpha {c : Char} (h : c.isAlpha = true) : isAscii c = true := by
  have hle : c.toNat ≤ 122 := by
    rcases Bool.or_eq_true_iff.mp h with hupper | hlower
    · have hrange : 'A'.val ≤ c.val ∧ c.val ≤ 'Z'.val := of_decide_eq_true hupper
      have hlast : c.toNat ≤ 90 := UInt32.le_iff_toNat_le.mp hrange.2
      omega
    · have hrange := (Bool.and_eq_true_iff.mp hlower).2
      exact UInt32.le_iff_toNat_le.mp (of_decide_eq_true hrange)
  rw [isAscii, decide_eq_true_iff]
  omega

theorem isAscii_of_isDigit {c : Char} (h : c.isDigit = true) : isAscii c = true := by
  have hrange := covers_of_isDigit h
  simp only [CodeRanges.covers, List.any_cons, List.any_nil, Bool.or_false, Bool.and_eq_true,
    decide_eq_true_eq] at hrange
  rw [isAscii, decide_eq_true_iff]
  omega

theorem isNamePart_of_isNameStart {c : Char} (h : isNameStart c = true) : isNamePart c = true := by
  simp only [isNameStart, Bool.or_eq_true] at h
  rcases h with h | h <;> simp [isNamePart, h]

theorem isNameStart_of_isUpper {c : Char} (h : isUpper c = true) : isNameStart c = true := by
  unfold isUpper at h
  split_ifs at h with hascii
  · have halpha : c.isAlpha = true := Bool.or_eq_true_iff.mpr (.inl h)
    simp [isNameStart, isLetter, hascii, halpha]
  · simp [isNameStart, (Bool.and_eq_true_iff.mp h).1]

theorem isNameStart_eq_false_of_isBlank {c : Char} (h : isBlank c = true) :
    isNameStart c = false :=
  Bool.eq_false_iff.mpr fun hstart =>
    ne_of_class (isNamePart_of_isNameStart hstart) (isNamePart_eq_false_of_isBlank h) rfl

theorem isUpper_eq_false_of_isBlank {c : Char} (h : isBlank c = true) : isUpper c = false :=
  Bool.eq_false_iff.mpr fun hupper =>
    ne_of_class (isNameStart_of_isUpper hupper) (isNameStart_eq_false_of_isBlank h) rfl

theorem isDigit_eq_false_of_isNameStart {c : Char} (h : isNameStart c = true) :
    c.isDigit = false :=
  Bool.eq_false_iff.mpr fun hdigit =>
    ne_of_class h (eq_false_of_isDigit hdigit isNameStart (by decide)) rfl

namespace Rule

/-- A rule matches only texts that begin with a character of a class. -/
def BeginsIn (rule : Rule) (p : Char → Bool) : Prop :=
  ∀ c cs, p c = false → rule.reach? (c :: cs) = none

theorem reach?_eq_none_of_recognize {rule : Rule} {t : Text} (h : rule.recognize t = none) :
    rule.reach? t = none := by
  rw [reach?, h]
  rfl

theorem first?_cons_of_reach?_eq_none {rule : Rule} {rules : List Rule} {t : Text}
    (h : rule.reach? t = none) : first? (rule :: rules) t = first? rules t := by
  simp [first?, h]

theorem first?_cons_of_recognize {rule : Rule} {rules : List Rule} {t : Text} {n : Nat}
    (h : rule.recognize t = some n) (hn : 0 < n) :
    first? (rule :: rules) t = some (rule, n) := by
  simp [first?, reach?_of_recognize h hn]

theorem first?_cons_cons_of_recognize {rule next : Rule} {rules : List Rule} {t : Text} {n : Nat}
    (h : rule.recognize t = none) (hnext : next.recognize t = some n) (hn : 0 < n) :
    first? (rule :: next :: rules) t = some (next, n) :=
  (first?_cons_of_reach?_eq_none (reach?_eq_none_of_recognize h)).trans
    (first?_cons_of_recognize hnext hn)

/-- Rules whose classes avoid the first character are passed over. -/
theorem first?_eq_drop {rules : List Rule} {classes : List (Char → Bool)}
    (h : List.Forall₂ BeginsIn rules classes) {c : Char} (cs : Text) {k : Nat}
    (hk : ∀ p ∈ classes.take k, p c = false) :
    first? rules (c :: cs) = first? (rules.drop k) (c :: cs) := by
  induction h generalizing k with
  | nil => simp
  | @cons rule p rules classes hrule _ ih =>
    cases k with
    | zero => rfl
    | succ k =>
      rw [List.take_succ_cons, List.forall_mem_cons] at hk
      rw [first?_cons_of_reach?_eq_none (hrule c cs hk.1), ih hk.2]
      rfl

end Rule

namespace Recognizer

theorem literal?_cons_eq_none {g c : Char} (gs cs : Text) (h : (c == g) = false) :
    literal? (g :: gs) (c :: cs) = none := by
  have hne : (g == c) = false := by
    rw [beq_eq_false_iff_ne] at h ⊢
    exact h.symm
  simp [literal?, List.isPrefixOf, hne]

theorem word?_cons_eq_none {start part : Char → Bool} {c : Char} (cs : Text)
    (h : start c = false) : word? start part (c :: cs) = none := by
  simp [word?, h]

theorem one?_cons_eq_none {p : Char → Bool} {c : Char} (cs : Text) (h : p c = false) :
    one? p (c :: cs) = none := by
  simp [one?, h]

theorem dottedName?_cons_eq_none {c : Char} (cs : Text) (h : (c == '.') = false) :
    dottedName? (c :: cs) = none := by
  rw [beq_eq_false_iff_ne] at h
  rw [dottedName?]
  exact fun _ hc => h (List.cons.inj hc).1

theorem dottedName?_point_eq_none {cs : Text} (h : BeginsOutside isNameStart cs) :
    dottedName? ('.' :: cs) = none := by
  cases cs with
  | nil => rfl
  | cons c cs => rw [dottedName?, word?_cons_eq_none cs (h c rfl), Option.map_none]

theorem string?_cons_eq_none {c : Char} (cs : Text) (h : (c == '"') = false) :
    string? (c :: cs) = none := by
  rw [beq_eq_false_iff_ne] at h
  rw [string?]
  exact fun _ hc => h (List.cons.inj hc).1

theorem escape?_cons_eq_none {c : Char} (cs : Text) (h : (c == '\\') = false) :
    escape? (c :: cs) = none := by
  unfold escape?
  split
  · next heq => exact absurd (List.cons.inj heq).1 (beq_eq_false_iff_ne.mp h)
  · rfl

def isOperatorChar (c : Char) : Bool :=
  operators.any (·.contains c)

theorem isOperatorChar_of_mem {g : Text} (hg : g ∈ operators) {c : Char} (hc : c ∈ g) :
    isOperatorChar c = true :=
  List.any_eq_true.mpr ⟨g, hg, List.contains_iff_mem.mpr hc⟩

theorem ne_nil_of_mem_operators {g : Text} (hg : g ∈ operators) : g ≠ [] := by
  have hall : ∀ g ∈ operators, g ≠ [] := by decide
  exact hall g hg

theorem operator?_cons_eq_none {c : Char} (cs : Text) (h : isOperatorChar c = false) :
    operator? (c :: cs) = none := by
  rw [operator?, Option.map_eq_none_iff, List.find?_eq_none]
  intro g hg hprefix
  obtain ⟨d, ds, rfl⟩ := List.exists_cons_of_ne_nil (ne_nil_of_mem_operators hg)
  obtain ⟨rfl, -⟩ := List.cons_prefix_cons.mp (List.isPrefixOf_iff_prefix.mp hprefix)
  exact ne_of_class (isOperatorChar_of_mem hg List.mem_cons_self) h rfl

end Recognizer

namespace NumberLiteral

def isNumberStart (c : Char) : Bool :=
  c.isDigit || c == '.'

theorem number?_eq_none {t : Text} (hdigits : digits Char.isDigit t = 0)
    (hpointed : pointed? t = none) : number? t = none := by
  have hfloat : float? t = none := by simp [float?, hpointed, hdigits]
  have himaginary : imaginary? t = none := by simp [imaginary?, hfloat, hdigits]
  have hinteger : integer? t = none := by
    unfold integer?
    split
    · simp [digits] at hdigits
    · simp [digits] at hdigits
    · simp [hdigits]
  simp [number?, himaginary, hfloat, longInteger?, plainInteger?, hinteger]

theorem number?_cons_eq_none {c : Char} (cs : Text) (h : isNumberStart c = false) :
    number? (c :: cs) = none := by
  obtain ⟨hdigit, hpoint⟩ := Bool.or_eq_false_iff.mp h
  have hdigits : digits Char.isDigit (c :: cs) = 0 := digits_eq_zero (beginsOutside_cons hdigit)
  refine number?_eq_none hdigits (pointed?_eq_none ?_)
  rw [hdigits]
  exact beginsOutside_cons hpoint

theorem number?_point_eq_none {cs : Text} (h : BeginsOutside Char.isDigit cs) :
    number? ('.' :: cs) = none := by
  have hdigits : digits Char.isDigit ('.' :: cs) = 0 := digits_eq_zero (beginsOutside_cons rfl)
  refine number?_eq_none hdigits ?_
  simp [pointed?, hdigits, digits_eq_zero h]

end NumberLiteral

namespace RuleTable
open Recognizer Rule

/-- The classes of characters that the matches of the rules for code begin with. -/
def codeClasses : List (Char → Bool) :=
  [(· == '#'), (· == '#'), isUpper, (· == '.'), (· == '"'), (· == '\x27'), (· == '"'),
   NumberLiteral.isNumberStart, isNameStart, isOperatorChar, isOpening, isClosing, isBlank]

/-- The classes of the rules other than those for words and white space. -/
def signClasses : List (Char → Bool) :=
  [(· == '#'), (· == '.'), (· == '"'), (· == '\x27'), NumberLiteral.isNumberStart, isOperatorChar,
   isOpening, isClosing]

/-- White space is left to the last rule. -/
theorem codeClasses_eq_false_of_isBlank {c : Char} (h : isBlank c = true) :
    ∀ p ∈ codeClasses.take 12, p c = false := by
  have hsigns : ∀ p ∈ signClasses, p c = false := by
    have hranges : ∀ p ∈ signClasses, ∀ r ∈ blankRanges,
        ∀ n ∈ List.range' r.1 (r.2 + 1 - r.1), p (Char.ofNat n) = false := by decide +kernel
    exact fun p hp => blankRanges.eq_false_of_covers p (hranges p hp) h
  have hupper := isUpper_eq_false_of_isBlank h
  have hstart := isNameStart_eq_false_of_isBlank h
  simp only [signClasses, List.forall_mem_cons] at hsigns
  obtain ⟨hhash, hpoint, hquote, hapostrophe, hnumber, hoperator, hopening, hclosing, hnil⟩ := hsigns
  simp only [codeClasses, List.take_succ_cons, List.take_zero, List.forall_mem_cons]
  exact ⟨hhash, hhash, hupper, hpoint, hquote, hapostrophe, hquote, hnumber, hstart, hoperator,
    hopening, hclosing, hnil⟩

theorem codeRules_beginIn : List.Forall₂ BeginsIn codeRules codeClasses := by
  refine .cons ?_ (.cons ?_ (.cons ?_ (.cons ?_ (.cons ?_ (.cons ?_ (.cons ?_ (.cons ?_ (.cons ?_
    (.cons ?_ (.cons ?_ (.cons ?_ (.cons ?_ .nil))))))))))))
  all_goals intro c cs hc
  · exact reach?_eq_none_of_recognize (literal?_cons_eq_none _ cs hc)
  · exact reach?_eq_none_of_recognize (word?_cons_eq_none cs hc)
  · exact reach?_eq_none_of_recognize (word?_cons_eq_none cs hc)
  · exact reach?_eq_none_of_recognize (dottedName?_cons_eq_none cs hc)
  · exact reach?_eq_none_of_recognize (string?_cons_eq_none cs hc)
  · exact reach?_eq_none_of_recognize (charLiteral?_eq_none (by simpa using hc))
  · exact reach?_eq_none_of_recognize (literal?_cons_eq_none _ cs hc)
  · exact reach?_eq_none_of_recognize (NumberLiteral.number?_cons_eq_none cs hc)
  · exact reach?_eq_none_of_recognize (word?_cons_eq_none cs hc)
  · exact reach?_eq_none_of_recognize (operator?_cons_eq_none cs hc)
  · exact reach?_eq_none_of_recognize (one?_cons_eq_none cs hc)
  · exact reach?_eq_none_of_recognize (one?_cons_eq_none cs hc)
  · simp [reach?, run?, hc]

end RuleTable

theorem take_length_takeWhile (p : Char → Bool) (t : Text) :
    t.take (t.takeWhile p).length = t.takeWhile p :=
  (List.prefix_iff_eq_take.mp (List.takeWhile_prefix p)).symm

theorem drop_length_takeWhile (p : Char → Bool) (t : Text) :
    t.drop (t.takeWhile p).length = t.dropWhile p := by
  have hdrop : (t.takeWhile p ++ t.dropWhile p).drop (t.takeWhile p).length = t.dropWhile p :=
    List.drop_left
  rwa [List.takeWhile_append_dropWhile] at hdrop

theorem beginsOutside_dropWhile (p : Char → Bool) (t : Text) : BeginsOutside p (t.dropWhile p) := by
  intro c hc
  have hnot := List.head?_dropWhile_not p t
  rw [Option.mem_def.mp hc] at hnot
  simpa using hnot

/-- A run ends before a text that does not continue it. -/
theorem takeWhile_append_of_beginsOutside {p : Char → Bool} (t : Text) {rest : Text}
    (hrest : BeginsOutside p rest) : (t ++ rest).takeWhile p = t.takeWhile p := by
  have hnone : rest.takeWhile p = [] := by
    cases rest with
    | nil => rfl
    | cons c cs => exact List.takeWhile_cons_of_neg (by simp [hrest c rfl])
  rw [List.takeWhile_append]
  split_ifs with hwhole
  · rw [hnone, List.append_nil, (List.takeWhile_prefix p).eq_of_length hwhole]
  · rfl

theorem takeWhile_append_eq {p : Char → Bool} {t rest : Text} (ht : ∀ c ∈ t, p c = true)
    (hrest : BeginsOutside p rest) : (t ++ rest).takeWhile p = t := by
  rw [takeWhile_append_of_beginsOutside t hrest, List.takeWhile_eq_self_iff.mpr ht]

namespace Piece
open Rule RuleTable Recognizer

theorem cut_append (mode : Mode) {rule : Rule} {t rest : Text} (ht : t ≠ [])
    (h : first? (standard mode) (t ++ rest) = some (rule, t.length)) :
    cut .standard mode (t ++ rest) =
      (ofMatch rule t ++ (cut .standard (rule.next.getD mode) rest).1,
        (cut .standard (rule.next.getD mode) rest).2) := by
  rw [cut_eq_of_first? (by simp [ht]) h, List.take_left, List.drop_left]

/-- White space is cut off as one plain piece. -/
theorem cut_blanks {blanks rest : Text} (hne : blanks ≠ [])
    (hblank : ∀ c ∈ blanks, isBlank c = true) (hrest : BeginsOutside isBlank rest) :
    cut .standard .code (blanks ++ rest) =
      (⟨.plain, blanks, true⟩ :: (cut .standard .code rest).1, (cut .standard .code rest).2) := by
  obtain ⟨c, cs, rfl⟩ := List.exists_cons_of_ne_nil hne
  have hc := hblank c List.mem_cons_self
  have hpassed := codeClasses_eq_false_of_isBlank hc
  have hmatch : run? isBlank (c :: cs ++ rest) = some (c :: cs).length := by
    rw [run?, takeWhile_append_eq hblank hrest]
  have hfirst := (first?_eq_drop codeRules_beginIn (cs ++ rest) hpassed).trans
    (first?_cons_of_recognize hmatch (Nat.succ_pos _))
  exact cut_append .code hne hfirst

end Piece
end EditorAssist
