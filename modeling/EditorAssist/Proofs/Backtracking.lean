import EditorAssist.Proofs.NumberGrammar

/-! Patterns matched by backtracking: choices are tried in order, and the first match is taken. -/
namespace EditorAssist

/-- A class has two characters, or lacks them, whichever of them is met. -/
theorem class_of_pair {p : Char → Bool} {a b : Char} {v : Bool} (ha : p a = v) (hb : p b = v)
    (c : Char) (h : (c == a || c == b) = true) : p c = v := by
  rcases Bool.or_eq_true_iff.mp h with h | h
  · rwa [eq_of_beq h]
  · rwa [eq_of_beq h]

theorem not_pair {p : Char → Bool} {a b : Char} (ha : p a = false) (hb : p b = false) (c : Char)
    (h : p c = true) : (c == a || c == b) = false := by
  by_contra hpair
  have hfalse := class_of_pair ha hb c (Bool.of_not_eq_false hpair)
  rw [h] at hfalse
  cases hfalse

theorem head?_any_eq_false {p : Char → Bool} {t : Text} (h : BeginsOutside p t) :
    t.head?.any p = false := by
  cases t with
  | nil => rfl
  | cons c cs => exact h c rfl

theorem beginsOutside_of_class {p q : Char → Bool} (hdisjoint : ∀ c, p c = true → q c = false)
    {t : Text} (h : ¬ BeginsOutside p t) : BeginsOutside q t := by
  intro c hc
  by_contra hq
  refine h fun d hd => ?_
  cases Option.some.inj (hc.symm.trans hd)
  exact Bool.eq_false_iff.mpr fun hp => hq (hdisjoint c hp)

theorem exists_of_not_beginsOutside {p : Char → Bool} {t : Text} (h : ¬ BeginsOutside p t) :
    ∃ c cs, t = c :: cs ∧ p c = true := by
  cases t with
  | nil => exact absurd (fun _ hc => nomatch hc) h
  | cons c cs =>
    refine ⟨c, cs, rfl, ?_⟩
    by_contra hc
    exact h (beginsOutside_cons (Bool.eq_false_iff.mpr hc))

theorem drop_succ_of_drop {t cs : Text} {i : Nat} {c : Char} (h : t.drop i = c :: cs) :
    t.drop (i + 1) = cs := by
  rw [← List.drop_drop, h]
  rfl

theorem getLast?_take_succ {t cs : Text} {n : Nat} {c : Char} (h : t.drop n = c :: cs) :
    (t.take (n + 1)).getLast? = some c := by
  have hget : t[n]? = some c := by
    rw [← List.head?_drop, h]
    rfl
  rw [List.getLast?_take, if_neg (Nat.succ_ne_zero n), Nat.add_sub_cancel, hget]
  rfl

/-- One of two texts has a word character where they meet, and the other has none. -/
def WordBoundary (t rest : Text) : Prop :=
  t.getLast?.any isWordChar ≠ rest.head?.any isWordChar

instance (t rest : Text) : Decidable (WordBoundary t rest) :=
  inferInstanceAs (Decidable (_ ≠ _))

theorem wordBoundary_iff {t : Text} {c : Char} (hlast : t.getLast? = some c)
    (hc : isWordChar c = true) (rest : Text) : WordBoundary t rest ↔ atBoundary rest = true := by
  simp [WordBoundary, atBoundary, hlast, hc]

/-- A pattern of texts. Of two choices the left one comes first, and to go on comes before to
stop. -/
inductive Pattern where
  | one (p : Char → Bool)
  | boundary
  | seq (a b : Pattern)
  | either (a b : Pattern)
  | optional (a : Pattern)
  | many (a : Pattern)

namespace Pattern

/-- Where rounds of a step can end, of which there are at most as many as given. -/
def rounds (step : Nat → List Nat) : Nat → Nat → List Nat
  | 0, i => [i]
  | count + 1, i => (step i).flatMap (rounds step count) ++ [i]

/-- The places where a match that begins at a place of a text can end, in the order in which a
backtracking search comes upon them. Rounds that take characters are not more than the text has. -/
def ends (t : Text) : Pattern → Nat → List Nat
  | one p, i => if (t.drop i).head?.any p then [i + 1] else []
  | boundary, i => if WordBoundary (t.take i) (t.drop i) then [i] else []
  | seq a b, i => (a.ends t i).flatMap (b.ends t)
  | either a b, i => a.ends t i ++ b.ends t i
  | optional a, i => a.ends t i ++ [i]
  | many a, i => rounds (a.ends t) t.length i

/-- The length of the first match at the start of a text. -/
def find? (p : Pattern) (t : Text) : Option Nat :=
  (p.ends t 0).head?

/-- A search comes upon one place first, and behind all others there is a character of a class. -/
structure Greedy (p : Char → Bool) (t : Text) (places : List Nat) (found : Option Nat) : Prop where
  head : places.head? = found
  only : ∀ j ∈ places, BeginsOutside p (t.drop j) → found = some j

namespace Greedy
variable {p q : Char → Bool} {t : Text} {places others : List Nat} {found second : Option Nat}

theorem nil : Greedy p t [] none :=
  ⟨rfl, fun _ hj => absurd hj List.not_mem_nil⟩

theorem single (n : Nat) : Greedy p t [n] (some n) :=
  ⟨rfl, fun _ hj _ => by rw [List.mem_singleton.mp hj]⟩

theorem mono (h : Greedy p t places found) (hsub : ∀ c, p c = true → q c = true) :
    Greedy q t places found :=
  ⟨h.head, fun j hj houtside => h.only j hj (houtside.mono hsub)⟩

theorem eq_nil (h : Greedy p t places none) : places = [] :=
  List.head?_eq_none_iff.mp h.head

/-- Two choices make one if nothing can follow the second once the first is found. -/
theorem append (h : Greedy p t places found) (h' : Greedy p t others second)
    (hagree : ∀ n j, found = some n → second = some j → BeginsOutside p (t.drop j) → n = j) :
    Greedy p t (places ++ others) (found <|> second) := by
  constructor
  · rw [List.head?_append, h.head, h'.head]
    cases found <;> rfl
  · intro j hj houtside
    rcases List.mem_append.mp hj with hj | hj
    · rw [h.only j hj houtside]
      rfl
    · have hsecond := h'.only j hj houtside
      cases hfound : found with
      | none => exact hsecond
      | some n =>
        rw [hagree n j hfound hsecond houtside]
        rfl

/-- What comes next is tried at one place only, if it cannot begin at the others. -/
theorem flatMap (h : Greedy p t places found) {next : Nat → List Nat} {goal : Nat → Option Nat}
    (hnext : ∀ n, found = some n → Greedy q t (next n) (goal n))
    (hstop : ∀ n ∈ places, ¬ BeginsOutside p (t.drop n) → next n = []) :
    Greedy q t (places.flatMap next) (found.bind goal) := by
  have honly : ∀ n ∈ places, found ≠ some n → next n = [] :=
    fun n hn hne => hstop n hn fun houtside => hne (h.only n hn houtside)
  cases places with
  | nil =>
    cases h.head
    exact nil
  | cons n rest =>
    have hfound : some n = found := h.head
    subst hfound
    have hn := hnext n rfl
    constructor
    · rw [List.flatMap_cons, List.head?_append, hn.head, Option.bind_some]
      cases hgoal : goal n with
      | some m => rfl
      | none =>
        rw [hgoal] at hn
        have hrest : rest.flatMap next = [] := by
          rw [List.flatMap_eq_nil_iff]
          intro m hm
          by_cases hsame : some n = some m
          · rw [← Option.some.inj hsame, hn.eq_nil]
          · exact honly m (List.mem_cons_of_mem _ hm) hsame
        rw [hrest]
        rfl
    · intro j hj houtside
      obtain ⟨m, hm, hjm⟩ := List.mem_flatMap.mp hj
      by_cases hsame : some n = some m
      · cases Option.some.inj hsame
        exact hn.only j hjm houtside
      · rw [honly m hm hsame] at hjm
        exact absurd hjm List.not_mem_nil

end Greedy

theorem greedy_one (p q : Char → Bool) (t : Text) (i : Nat) :
    Greedy q t ((one p).ends t i) (if (t.drop i).head?.any p then some (i + 1) else none) := by
  unfold ends
  split_ifs
  · exact .single _
  · exact .nil

theorem ends_one_of_drop {p : Char → Bool} {t : Text} {i : Nat} {c : Char} {cs : Text}
    (h : t.drop i = c :: cs) : (one p).ends t i = if p c then [i + 1] else [] := by
  rw [ends, h]
  rfl

theorem ends_one_eq_nil {p : Char → Bool} {t : Text} {i : Nat} (h : BeginsOutside p (t.drop i)) :
    (one p).ends t i = [] := by
  cases hdrop : t.drop i with
  | nil =>
    rw [ends, hdrop]
    rfl
  | cons c cs =>
    have hc : p c = false := h c (by rw [hdrop]; rfl)
    rw [ends_one_of_drop hdrop, hc]
    rfl

theorem ends_seq_one_eq_nil {p : Char → Bool} {t : Text} {i : Nat} (h : BeginsOutside p (t.drop i))
    (a : Pattern) : ((one p).seq a).ends t i = [] := by
  rw [ends, ends_one_eq_nil h]
  rfl

theorem ends_seq_one_of_drop {p : Char → Bool} {t : Text} {i : Nat} {c : Char} {cs : Text}
    (h : t.drop i = c :: cs) (hc : p c = true) (a : Pattern) :
    ((one p).seq a).ends t i = a.ends t (i + 1) := by
  rw [ends, ends_one_of_drop h, if_pos hc, List.flatMap_singleton]

theorem greedy_seq_one {p q : Char → Bool} {t : Text} {i : Nat} {a : Pattern} {found : Option Nat}
    (h : Greedy q t (a.ends t (i + 1)) found) :
    Greedy q t (((one p).seq a).ends t i)
      (if (t.drop i).head?.any p then found else none) := by
  rw [ends, ends]
  split_ifs
  · rw [List.flatMap_singleton]
    exact h
  · exact .nil

/-- Every match takes characters of the text. -/
def Consumes (t : Text) (a : Pattern) : Prop :=
  ∀ i, ∀ j ∈ a.ends t i, i < j ∧ j ≤ t.length

theorem of_mem_one {p : Char → Bool} {t : Text} {i j : Nat} (h : j ∈ (one p).ends t i) :
    j = i + 1 ∧ i < t.length := by
  by_cases houtside : BeginsOutside p (t.drop i)
  · rw [ends_one_eq_nil houtside] at h
    exact absurd h List.not_mem_nil
  · obtain ⟨c, cs, hdrop, hc⟩ := exists_of_not_beginsOutside houtside
    rw [ends_one_of_drop hdrop, if_pos hc, List.mem_singleton] at h
    refine ⟨h, ?_⟩
    by_contra hlong
    rw [List.drop_eq_nil_of_le (Nat.le_of_not_lt hlong)] at hdrop
    cases hdrop

/-- More rounds than there are characters make no difference. -/
theorem rounds_congr {t : Text} {a : Pattern} (ha : Consumes t a) {m n i : Nat}
    (hm : t.length ≤ i + m) (hn : t.length ≤ i + n) :
    rounds (a.ends t) m i = rounds (a.ends t) n i := by
  have hend : ∀ k, t.length ≤ k → a.ends t k = [] := by
    intro k hle
    rw [List.eq_nil_iff_forall_not_mem]
    intro j hj
    have hbounds := ha k j hj
    omega
  induction m generalizing n i with
  | zero =>
    cases n with
    | zero => rfl
    | succ n =>
      rw [rounds, rounds, hend i hm]
      rfl
  | succ m ih =>
    cases n with
    | zero =>
      rw [rounds, rounds, hend i hn]
      rfl
    | succ n =>
      rw [rounds, rounds]
      congr 1
      refine List.flatMap_congr fun j hj => ?_
      have hlt := (ha i j hj).1
      exact ih (by omega) (by omega)

/-- Repetition takes a round and repeats, or else stops. -/
theorem ends_many {t : Text} {a : Pattern} (ha : Consumes t a) (i : Nat) :
    (many a).ends t i = (a.ends t i).flatMap ((many a).ends t) ++ [i] := by
  have hmore : rounds (a.ends t) t.length i = rounds (a.ends t) (t.length + 1) i :=
    rounds_congr ha (by omega) (by omega)
  exact hmore

theorem greedy_many_of_nil {p : Char → Bool} {t : Text} {a : Pattern} (ha : Consumes t a) {i : Nat}
    (h : a.ends t i = []) : Greedy p t ((many a).ends t i) (some i) := by
  rw [ends_many ha, h]
  exact .single i

/-- A round that can be taken is taken. -/
theorem greedy_many_of_round {p : Char → Bool} {t : Text} {a : Pattern} (ha : Consumes t a)
    {i j n : Nat} (hround : a.ends t i = [j]) (hi : ¬ BeginsOutside p (t.drop i))
    (h : Greedy p t ((many a).ends t j) (some n)) : Greedy p t ((many a).ends t i) (some n) := by
  rw [ends_many ha, hround, List.flatMap_singleton]
  refine h.append (.single i) fun m k _ hk houtside => ?_
  cases Option.some.inj hk
  exact absurd houtside hi

/-- A word character stands before a place. -/
def EndsWord (t : Text) (i : Nat) : Prop :=
  ∃ c, (t.take i).getLast? = some c ∧ isWordChar c = true

theorem endsWord_of_mem_one {p : Char → Bool} (hp : ∀ c, p c = true → isWordChar c = true) {t : Text}
    {i j : Nat} (h : j ∈ (one p).ends t i) : EndsWord t j := by
  by_cases houtside : BeginsOutside p (t.drop i)
  · rw [ends_one_eq_nil houtside] at h
    exact absurd h List.not_mem_nil
  · obtain ⟨c, cs, hdrop, hc⟩ := exists_of_not_beginsOutside houtside
    rw [ends_one_of_drop hdrop, if_pos hc, List.mem_singleton] at h
    subst h
    exact ⟨c, getLast?_take_succ hdrop, hp c hc⟩

theorem endsWord_of_mem_rounds {t : Text} {step : Nat → List Nat}
    (hstep : ∀ m, ∀ j ∈ step m, EndsWord t j) {count i j : Nat} (hi : EndsWord t i)
    (h : j ∈ rounds step count i) : EndsWord t j := by
  induction count generalizing i with
  | zero => rwa [List.mem_singleton.mp h]
  | succ count ih =>
    rcases List.mem_append.mp h with h | h
    · obtain ⟨m, hm, hj⟩ := List.mem_flatMap.mp h
      exact ih (hstep i m hm) hj
    · rwa [List.mem_singleton.mp h]

end Pattern
end EditorAssist
