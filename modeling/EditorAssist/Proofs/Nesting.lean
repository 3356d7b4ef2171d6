import EditorAssist.Proofs.Counting

/-! Depths of brackets. A bracket is as deep as many brackets of its shape are open around it,
partners are equally deep, and two pairs of one shape lie apart or one inside the other. -/
namespace EditorAssist
namespace Bracket

/-- The opening brackets of a shape before an index that are still open there: those without a
partner, and those whose partner comes later. -/
def openAt (glyphs : List Char) (partner : Nat → Option Nat) (shape : Shape) (i : Nat) : List Nat :=
  (List.range i).filter fun k =>
    (glyphs[k]?).any (fun c => shape? c == some (shape, true)) && (partner k).all (i < ·)

section
variable {glyphs : List Char} {partner next : Nat → Option Nat} {shape : Shape} {i n : Nat}

theorem mem_openAt {k : Nat} : k ∈ openAt glyphs partner shape i ↔
    k < i ∧ (∃ c, glyphs[k]? = some c ∧ shape? c = some (shape, true)) ∧
      ∀ j ∈ partner k, i < j := by
  unfold openAt
  rw [List.mem_filter, List.mem_range, Bool.and_eq_true, Option.any_eq_true, Option.all_eq_true]
  simp

theorem openAt_congr (h : ∀ k < i, (next k).all (i < ·) = (partner k).all (i < ·)) :
    openAt glyphs next shape i = openAt glyphs partner shape i := by
  unfold openAt
  apply List.filter_congr
  intro k hk
  rw [h k (List.mem_range.mp hk)]

/-- What is open at an index does not depend on the brackets from there on. -/
theorem openAt_concat (c : Char) (hi : i ≤ glyphs.length) :
    openAt (glyphs ++ [c]) partner shape i = openAt glyphs partner shape i := by
  unfold openAt
  apply List.filter_congr
  intro k hk
  have hlt : k < glyphs.length := Nat.lt_of_lt_of_le (List.mem_range.mp hk) hi
  rw [List.getElem?_append_left hlt]

/-- A pair that is closed at an index is no longer open there. -/
theorem openAt_pairUp (k : Nat) :
    openAt glyphs (pairUp partner k n) shape n =
      (openAt glyphs partner shape n).filter (· ≠ k) := by
  unfold openAt
  rw [List.filter_filter]
  apply List.filter_congr
  intro j hj
  have hjn : j ≠ n := Nat.ne_of_lt (List.mem_range.mp hj)
  by_cases hjk : j = k
  · subst hjk
    rw [pairUp_left partner hjn]
    simp
  · rw [pairUp_of_ne partner hjk hjn]
    simp [hjk]

theorem openAt_pairUp_of_lt {k : Nat} (hfree : partner k = none) (hi : i < n) :
    openAt glyphs (pairUp partner k n) shape i = openAt glyphs partner shape i := by
  apply openAt_congr
  intro j hj
  have hjn : j ≠ n := by omega
  by_cases hjk : j = k
  · subst hjk
    rw [pairUp_left partner hjn, hfree]
    simp [hi]
  · rw [pairUp_of_ne partner hjk hjn]

theorem pairwise_openAt : (openAt glyphs partner shape i).Pairwise (· < ·) :=
  List.pairwise_lt_range.filter _

end

/-- An opening bracket of a shape with its partner. -/
def Spans (glyphs : List Char) (partner : Nat → Option Nat) (shape : Shape) (i j : Nat) : Prop :=
  partner i = some j ∧ ∃ c, glyphs[i]? = some c ∧ shape? c = some (shape, true)

namespace Counted
variable {glyphs : List Char} {c : Char} {partner : Nat → Option Nat} {waiting : Shape → List Nat}
  {i j : Nat}

theorem lt_length_of_partner (h : Counted glyphs partner waiting) (hj : partner i = some j) :
    i < glyphs.length ∧ j < glyphs.length := by
  obtain ⟨-, b, d, shape, hb, hd, -⟩ := h.symmetric i j hj
  exact ⟨lt_length_of_getElem? hb, lt_length_of_getElem? hd⟩

/-- Behind one more bracket the same brackets are open, and this one if it opens. -/
theorem openAt_length (h : Counted (glyphs ++ [c]) partner waiting) (shape : Shape) :
    openAt (glyphs ++ [c]) partner shape (glyphs ++ [c]).length =
      openAt glyphs partner shape glyphs.length ++
        if shape? c = some (shape, true) ∧ partner glyphs.length = none then [glyphs.length]
        else [] := by
  have hlength : (glyphs ++ [c]).length = glyphs.length + 1 := by simp
  have hpassed : ∀ k i, glyphs.length ≤ i →
      ((partner k).all (i < ·) = true ↔ partner k = none) := by
    intro k i hi
    cases hpartner : partner k with
    | none => simp
    | some j =>
      have hlt := (h.lt_length_of_partner hpartner).2
      have hnot : ¬ i < j := by omega
      simp [hnot]
  have hbefore : openAt (glyphs ++ [c]) partner shape glyphs.length =
      openAt glyphs partner shape glyphs.length := openAt_concat c (Nat.le_refl _)
  rw [← hbefore, hlength]
  unfold openAt
  rw [List.range_succ, List.filter_append]
  congr 1
  · apply List.filter_congr
    intro k hk
    congr 1
    rw [Bool.eq_iff_iff, hpassed k _ (Nat.le_succ _), hpassed k _ (Nat.le_refl _)]
  · rw [List.filter_singleton, List.getElem?_concat_length, Bool.cond_eq_ite]
    apply if_congr _ rfl rfl
    rw [Bool.and_eq_true, hpassed _ _ (Nat.le_succ _), Option.any_some, beq_iff_eq]

end Counted

/-- What is known after some bracket characters of depths. The brackets that wait are those open at
the end, and each is as deep as many wait below it. Nothing waits inside a pair. -/
structure Nested (glyphs : List Char) (partner : Nat → Option Nat) (depth : Nat → Nat)
    (waiting : Shape → List Nat) : Prop where
  waits : ∀ shape, waiting shape = (openAt glyphs partner shape glyphs.length).reverse
  height : ∀ shape count i, (waiting shape)[count]? = some i →
    depth i + count + 1 = (waiting shape).length
  around : ∀ i c shape opening, glyphs[i]? = some c → shape? c = some (shape, opening) →
    depth i = (openAt glyphs partner shape i).length
  level : ∀ i j, partner i = some j → depth j = depth i
  outside : ∀ shape i j k, Spans glyphs partner shape i j → k ∈ waiting shape → i < k → j < k
  apart : ∀ shape i j k l, Spans glyphs partner shape i j → Spans glyphs partner shape k l →
    i < k → k < j → l < j

theorem nested_nil (depth : Nat → Nat) : Nested [] (fun _ => none) depth (fun _ => []) := by
  constructor
  case waits => intro shape; rfl
  case height => exact nofun
  case around => exact nofun
  case level => exact nofun
  case outside => exact nofun
  case apart => exact nofun

namespace Nested
variable {glyphs : List Char} {partner next : Nat → Option Nat} {depth : Nat → Nat}
  {waiting : Shape → List Nat} {shape : Shape} {c : Char} {d i j k : Nat}

theorem mem_waiting (h : Nested glyphs partner depth waiting) :
    k ∈ waiting shape ↔ k ∈ openAt glyphs partner shape glyphs.length := by
  rw [h.waits, List.mem_reverse]

theorem lt_length_of_mem_waiting (h : Nested glyphs partner depth waiting)
    (hk : k ∈ waiting shape) : k < glyphs.length :=
  (mem_openAt.mp (h.mem_waiting.mp hk)).1

/-- Later brackets wait further inside. -/
theorem pairwise_waiting (h : Nested glyphs partner depth waiting) (shape : Shape) :
    (waiting shape).Pairwise (· > ·) := by
  rw [h.waits, List.pairwise_reverse]
  exact pairwise_openAt

theorem update_of_getElem? {b : Char} (depth : Nat → Nat) (d : Nat) (hb : glyphs[i]? = some b) :
    Function.update depth glyphs.length d i = depth i :=
  Function.update_of_ne (Nat.ne_of_lt (lt_length_of_getElem? hb)) d depth

/-- One more bracket leaves the depths of the others. -/
theorem around_concat (h : Nested glyphs partner depth waiting) {b : Char} {opening : Bool}
    (hb : glyphs[i]? = some b) (hshape : shape? b = some (shape, opening))
    (hopen : openAt glyphs next shape i = openAt glyphs partner shape i) :
    Function.update depth glyphs.length d i = (openAt (glyphs ++ [c]) next shape i).length := by
  have hle := Nat.le_of_lt (lt_length_of_getElem? hb)
  rw [update_of_getElem? depth d hb, openAt_concat c hle, hopen,
    h.around i b shape opening hb hshape]

theorem level_concat (h : Nested glyphs partner depth waiting)
    (hcounted : Counted glyphs partner waiting) (hj : partner i = some j) :
    Function.update depth glyphs.length d j = Function.update depth glyphs.length d i := by
  obtain ⟨hi, hlt⟩ := hcounted.lt_length_of_partner hj
  rw [Function.update_of_ne (Nat.ne_of_lt hlt), Function.update_of_ne (Nat.ne_of_lt hi),
    h.level i j hj]

end Nested

theorem Spans.of_concat {glyphs : List Char} {partner : Nat → Option Nat}
    {waiting : Shape → List Nat} {shape : Shape} {c : Char} {i j : Nat}
    (h : Spans (glyphs ++ [c]) partner shape i j)
    (hcounted : Counted glyphs partner waiting) : Spans glyphs partner shape i j := by
  obtain ⟨hj, b, hb, hshape⟩ := h
  have hi := (hcounted.lt_length_of_partner hj).1
  rw [List.getElem?_append_left hi] at hb
  exact ⟨hj, b, hb, hshape⟩

namespace Nested
variable {glyphs : List Char} {partner : Nat → Option Nat} {depth : Nat → Nat}
  {waiting : Shape → List Nat} {shape : Shape} {c : Char}

/-- A bracket that begins to wait has those of its shape below it. -/
theorem height_cons (h : Nested glyphs partner depth waiting) {other : Shape} {count i : Nat}
    (hi : (Function.update waiting shape (glyphs.length :: waiting shape) other)[count]? = some i) :
    Function.update depth glyphs.length (waiting shape).length i + count + 1 =
      (Function.update waiting shape (glyphs.length :: waiting shape) other).length := by
  have hkept : ∀ {m : Nat}, (waiting other)[m]? = some i →
      Function.update depth glyphs.length (waiting shape).length i + m + 1 =
        (waiting other).length := by
    intro m hm
    have hlt := h.lt_length_of_mem_waiting (List.mem_of_getElem? hm)
    rw [Function.update_of_ne (Nat.ne_of_lt hlt), h.height other m i hm]
  by_cases hother : other = shape
  · subst hother
    rw [Function.update_self] at hi ⊢
    cases count with
    | zero =>
      rw [List.getElem?_cons_zero] at hi
      cases Option.some.inj hi
      rw [Function.update_self]
      rfl
    | succ count =>
      rw [List.getElem?_cons_succ] at hi
      have hheight := hkept hi
      rw [List.length_cons]
      omega
  · rw [Function.update_of_ne hother] at hi ⊢
    exact hkept hi

/-- An opening bracket is as deep as many of its shape wait. -/
theorem concat_opening (h : Nested glyphs partner depth waiting)
    (hcounted : Counted glyphs partner waiting) (hc : shape? c = some (shape, true)) :
    Nested (glyphs ++ [c]) partner
      (Function.update depth glyphs.length (waiting shape).length)
      (Function.update waiting shape (glyphs.length :: waiting shape)) := by
  have hnext := hcounted.concat_opening hc
  constructor
  case waits =>
    intro other
    rw [hnext.openAt_length, hc]
    by_cases hother : other = shape
    · subst hother
      rw [Function.update_self, h.waits, if_pos ⟨rfl, hcounted.partner_length⟩, List.reverse_append]
      rfl
    · have hne : ¬ (some (shape, true) = some (other, true) ∧ partner glyphs.length = none) := by
        rintro ⟨hsame, -⟩
        cases hsame
        exact hother rfl
      rw [Function.update_of_ne hother, h.waits, if_neg hne, List.append_nil]
  case height => exact fun other count i hi => h.height_cons hi
  case around =>
    intro i b other opening hb hshape
    rcases of_getElem?_concat hb with hb | ⟨rfl, rfl⟩
    · exact h.around_concat hb hshape rfl
    · rw [hc] at hshape
      cases hshape
      rw [Function.update_self, openAt_concat b (Nat.le_refl _), h.waits, List.length_reverse]
  case level => exact fun i j hj => h.level_concat hcounted hj
  case outside =>
    intro other i j k hspans hk hik
    have hold := hspans.of_concat hcounted
    have hj := (hcounted.lt_length_of_partner hold.1).2
    by_cases hother : other = shape
    · subst hother
      rw [Function.update_self, List.mem_cons] at hk
      rcases hk with rfl | hk
      · exact hj
      · exact h.outside other i j k hold hk hik
    · rw [Function.update_of_ne hother] at hk
      exact h.outside other i j k hold hk hik
  case apart =>
    intro other i j k l hij hkl
    exact h.apart other i j k l (hij.of_concat hcounted) (hkl.of_concat hcounted)

/-- A closing bracket for which none waits is not inside any bracket of its shape. -/
theorem concat_unpaired (h : Nested glyphs partner depth waiting)
    (hcounted : Counted glyphs partner waiting) (hc : shape? c = some (shape, false))
    (hwaiting : waiting shape = []) :
    Nested (glyphs ++ [c]) partner (Function.update depth glyphs.length 0) waiting := by
  have hnext := hcounted.concat_unpaired hc hwaiting
  constructor
  case waits =>
    intro other
    rw [hnext.openAt_length, hc, if_neg (by simp), List.append_nil, h.waits]
  case height =>
    intro other count i hi
    have hlt := h.lt_length_of_mem_waiting (List.mem_of_getElem? hi)
    rw [Function.update_of_ne (Nat.ne_of_lt hlt), h.height other count i hi]
  case around =>
    intro i b other opening hb hshape
    rcases of_getElem?_concat hb with hb | ⟨rfl, rfl⟩
    · exact h.around_concat hb hshape rfl
    · rw [hc] at hshape
      cases hshape
      rw [Function.update_self, openAt_concat b (Nat.le_refl _), ← List.length_reverse, ← h.waits,
        hwaiting]
      rfl
  case level => exact fun i j hj => h.level_concat hcounted hj
  case outside =>
    intro other i j k hspans
    exact h.outside other i j k (hspans.of_concat hcounted)
  case apart =>
    intro other i j k l hij hkl
    exact h.apart other i j k l (hij.of_concat hcounted) (hkl.of_concat hcounted)

section
variable {k : Nat} {outer : List Nat}

/-- The brackets behind the innermost one that waits begin before it. -/
theorem lt_of_mem_outer (h : Nested glyphs partner depth waiting)
    (hwaiting : waiting shape = k :: outer) {m : Nat} (hm : m ∈ outer) : m < k := by
  have hpairwise := h.pairwise_waiting shape
  rw [hwaiting] at hpairwise
  exact List.rel_of_pairwise_cons hpairwise hm

theorem mem_waiting_of_mem_outer (hwaiting : waiting shape = k :: outer) {other : Shape} {m : Nat}
    (hm : m ∈ Function.update waiting shape outer other) : m ∈ waiting other := by
  by_cases hother : other = shape
  · subst hother
    rw [Function.update_self] at hm
    rw [hwaiting]
    exact List.mem_cons_of_mem k hm
  · rwa [Function.update_of_ne hother] at hm

section
variable {d : Char} (hd : glyphs[k]? = some d) (hopens : shape? d = some (shape, true))
include hd hopens

/-- Where a bracket finds its partner it is no longer open, and the others of all shapes are. -/
theorem waits_pairUp (h : Nested glyphs partner depth waiting)
    (hwaiting : waiting shape = k :: outer) (other : Shape) :
    Function.update waiting shape outer other =
      (openAt glyphs (pairUp partner k glyphs.length) other glyphs.length).reverse := by
  rw [openAt_pairUp, ← List.filter_reverse, ← h.waits]
  by_cases hother : other = shape
  · subst hother
    have hkept : outer.filter (· ≠ k) = outer := by
      rw [List.filter_eq_self]
      intro m hm
      simpa using Nat.ne_of_lt (h.lt_of_mem_outer hwaiting hm)
    rw [Function.update_self, hwaiting, List.filter_cons_of_neg (by simp), hkept]
  · have hdiffers : ∀ m ∈ waiting other, m ≠ k := by
      rintro m hm rfl
      obtain ⟨-, ⟨b, hb, hshape⟩, -⟩ := mem_openAt.mp (h.mem_waiting.mp hm)
      rw [hd] at hb
      cases hb
      rw [hopens] at hshape
      cases hshape
      exact hother rfl
    rw [Function.update_of_ne hother, Eq.comm, List.filter_eq_self]
    simpa using hdiffers

/-- An opening bracket whose partner is found last has had it before, or is the new pair. -/
theorem spans_pairUp (hc : shape? c = some (shape, false)) {other : Shape} {i j : Nat}
    (h : Spans (glyphs ++ [c]) (pairUp partner k glyphs.length) other i j) :
    Spans glyphs partner other i j ∨ other = shape ∧ i = k ∧ j = glyphs.length := by
  obtain ⟨hj, b, hb, hshape⟩ := h
  rcases of_getElem?_concat hb with hb | ⟨rfl, rfl⟩
  · have hin := Nat.ne_of_lt (lt_length_of_getElem? hb)
    by_cases hik : i = k
    · subst hik
      rw [pairUp_left partner hin] at hj
      rw [hd] at hb
      cases hj
      cases hb
      rw [hopens] at hshape
      cases hshape
      exact .inr ⟨rfl, rfl, rfl⟩
    · rw [pairUp_of_ne partner hik hin] at hj
      exact .inl ⟨hj, b, hb, hshape⟩
  · rw [hc] at hshape
    cases hshape

end

/-- One bracket less waits outside each of those that still wait. -/
theorem height_outer (h : Nested glyphs partner depth waiting)
    (hwaiting : waiting shape = k :: outer) {other : Shape} {count i : Nat}
    (hi : (Function.update waiting shape outer other)[count]? = some i) :
    depth i + count + 1 = (Function.update waiting shape outer other).length := by
  by_cases hother : other = shape
  · subst hother
    rw [Function.update_self] at hi ⊢
    have hsucc : (waiting other)[count + 1]? = some i := by
      rw [hwaiting, List.getElem?_cons_succ, hi]
    have hcount := h.height other (count + 1) i hsucc
    rw [hwaiting, List.length_cons] at hcount
    omega
  · rw [Function.update_of_ne hother] at hi ⊢
    exact h.height other count i hi

/-- Partners are as deep as each other when the last bracket takes the depth of its own. -/
theorem level_pairUp (h : Nested glyphs partner depth waiting)
    (hcounted : Counted glyphs partner waiting) (hk : k < glyphs.length) {i j : Nat}
    (hj : pairUp partner k glyphs.length i = some j) :
    Function.update depth glyphs.length (depth k) j =
      Function.update depth glyphs.length (depth k) i := by
  by_cases hin : i = glyphs.length
  · subst hin
    rw [pairUp_right] at hj
    cases Option.some.inj hj
    rw [Function.update_self, Function.update_of_ne (Nat.ne_of_lt hk)]
  · by_cases hik : i = k
    · subst hik
      rw [pairUp_left partner hin] at hj
      cases Option.some.inj hj
      rw [Function.update_self, Function.update_of_ne hin]
    · rw [pairUp_of_ne partner hik hin] at hj
      exact h.level_concat hcounted hj

/-- A closing bracket is as deep as the innermost one that waits. -/
theorem concat_paired (h : Nested glyphs partner depth waiting)
    (hcounted : Counted glyphs partner waiting) (hc : shape? c = some (shape, false))
    (hwaiting : waiting shape = k :: outer) :
    Nested (glyphs ++ [c]) (pairUp partner k glyphs.length)
      (Function.update depth glyphs.length (depth k))
      (Function.update waiting shape outer) := by
  have hnext := hcounted.concat_paired hc hwaiting
  have hinnermost : (waiting shape)[0]? = some k := by rw [hwaiting, List.getElem?_cons_zero]
  obtain ⟨d, hd, hopens, hfree, -⟩ := hcounted.waits shape 0 k hinnermost
  constructor
  case waits =>
    intro other
    rw [hnext.openAt_length, hc, if_neg (by simp), List.append_nil]
    exact h.waits_pairUp hd hopens hwaiting other
  case height =>
    intro other count i hi
    have hlt := h.lt_length_of_mem_waiting
      (mem_waiting_of_mem_outer hwaiting (List.mem_of_getElem? hi))
    rw [Function.update_of_ne (Nat.ne_of_lt hlt)]
    exact h.height_outer hwaiting hi
  case around =>
    intro i b other opening hb hshape
    rcases of_getElem?_concat hb with hb | ⟨rfl, rfl⟩
    · exact h.around_concat hb hshape (openAt_pairUp_of_lt hfree (lt_length_of_getElem? hb))
    · rw [hc] at hshape
      cases hshape
      have houter := h.waits_pairUp hd hopens hwaiting shape
      have hheight := h.height shape 0 k hinnermost
      rw [Function.update_self] at houter
      rw [hwaiting, houter, List.length_cons, List.length_reverse] at hheight
      rw [Function.update_self, openAt_concat b (Nat.le_refl _)]
      omega
  case level => exact fun i j hj => h.level_pairUp hcounted (lt_length_of_getElem? hd) hj
  case outside =>
    intro other i j m hij hm him
    rcases spans_pairUp hd hopens hc hij with hold | ⟨rfl, rfl, rfl⟩
    · exact h.outside other i j m hold (mem_waiting_of_mem_outer hwaiting hm) him
    · rw [Function.update_self] at hm
      exact absurd him (Nat.lt_asymm (h.lt_of_mem_outer hwaiting hm))
  case apart =>
    intro other i j m l hij hml him hmj
    rcases spans_pairUp hd hopens hc hij with hfirst | ⟨-, rfl, rfl⟩
    · rcases spans_pairUp hd hopens hc hml with hsecond | ⟨rfl, rfl, -⟩
      · exact h.apart other i j m l hfirst hsecond him hmj
      · -- a pair around the bracket that waits would end before it
        have hm : m ∈ waiting other := by rw [hwaiting]; exact List.mem_cons_self
        have hjm := h.outside other i j m hfirst hm him
        omega
    · rcases spans_pairUp hd hopens hc hml with hsecond | ⟨-, rfl, -⟩
      · exact (hcounted.lt_length_of_partner hsecond.1).2
      · exact absurd him (Nat.lt_irrefl _)

end
end Nested

def depthAt (entries : Array Bracket) (i : Nat) : Nat :=
  (entries[i]?).elim 0 (·.depth)

theorem depthAt_eq {entries : Array Bracket} {i : Nat} {b : Bracket}
    (h : entries[i]? = some b) : depthAt entries i = b.depth := by
  rw [depthAt, h]
  rfl

theorem depthAt_push (entries : Array Bracket) (b : Bracket) :
    depthAt (entries.push b) = Function.update (depthAt entries) entries.size b.depth := by
  funext i
  rw [depthAt, Array.getElem?_push, Function.update_apply]
  split_ifs
  · rfl
  · rfl

theorem depthAt_modify (entries : Array Bracket) (i k : Nat) :
    depthAt (entries.modify i (pairedWith k)) = depthAt entries := by
  funext j
  rw [depthAt, depthAt, Array.getElem?_modify]
  split_ifs
  · cases entries[j]? <;> rfl
  · rfl

namespace Pairing

/-- The brackets met so far are as deep as they are nested. -/
def Nests (s : Pairing) : Prop :=
  Nested (glyphs s.entries) (partnerAt s.entries) (depthAt s.entries) s.waiting

theorem nests_empty : empty.Nests := by
  have hpartner : partnerAt empty.entries = fun _ => none := by
    funext i
    simp [partnerAt, empty]
  have hwaiting : empty.waiting = fun _ => [] := by
    funext shape
    cases shape <;> rfl
  unfold Nests
  rw [hpartner, hwaiting]
  exact nested_nil _

section
variable {s : Pairing} (h : s.Nests) (hcounts : s.Counts) {found : Position × Char} {shape : Shape}
include h hcounts

theorem Nests.addOpening (hfound : shape? found.2 = some (shape, true)) :
    (s.addOpening found shape).Nests := by
  have hnested := Nested.concat_opening h hcounts hfound
  unfold Nests Pairing.addOpening
  rw [entries_setWaiting, waiting_setWaiting_eq_update, glyphs_push,
    partnerAt_push_of_none _ rfl, depthAt_push, ← length_glyphs]
  exact hnested

theorem Nests.addUnpaired (hfound : shape? found.2 = some (shape, false))
    (hwaiting : s.waiting shape = []) : (s.addUnpaired found).Nests := by
  have hnested := Nested.concat_unpaired h hcounts hfound hwaiting
  unfold Nests Pairing.addUnpaired
  rw [glyphs_push, partnerAt_push_of_none _ rfl, depthAt_push, ← length_glyphs]
  exact hnested

theorem Nests.addPaired (hfound : shape? found.2 = some (shape, false)) {i : Nat}
    {rest : List Nat} (hwaiting : s.waiting shape = i :: rest) :
    (s.addPaired found shape i rest).Nests := by
  have hnested := Nested.concat_paired h hcounts hfound hwaiting
  have hi : i ∈ s.waiting shape := by rw [hwaiting]; exact List.mem_cons_self
  rw [length_glyphs, pairUp] at hnested
  unfold Nests Pairing.addPaired
  rw [entries_setWaiting, waiting_setWaiting_eq_update, glyphs_push, glyphs_modify, partnerAt_push,
    partnerAt_modify (hcounts.lt_size hi), depthAt_push, depthAt_modify, Array.size_modify]
  exact hnested

theorem Nests.add (hfound : (shape? found.2).isSome) : (s.add found).Nests := by
  obtain ⟨⟨shape, opening⟩, hshape⟩ := Option.isSome_iff_exists.mp hfound
  cases opening with
  | true =>
    rw [add_of_opening hshape]
    exact h.addOpening hcounts hshape
  | false =>
    cases hwaiting : s.waiting shape with
    | nil =>
      rw [add_of_waiting_eq_nil hshape hwaiting]
      exact h.addUnpaired hcounts hshape hwaiting
    | cons i rest =>
      rw [add_of_waiting_eq_cons hshape hwaiting]
      exact h.addPaired hcounts hshape hwaiting

theorem Nests.foldl {found : List (Position × Char)}
    (hfound : ∀ f ∈ found, (shape? f.2).isSome) : (found.foldl Pairing.add s).Nests := by
  induction found generalizing s with
  | nil => exact h
  | cons f rest ih =>
    rw [List.forall_mem_cons] at hfound
    exact ih (h.add hcounts hfound.1) (hcounts.add hfound.1) hfound.2

end

end Pairing

/-- What is known of the depths after all brackets of some lines. -/
theorem nested_build (lines : List LexedLine) :
    Nested (glyphs (BracketTable.build lines).entries)
      (partnerAt (BracketTable.build lines).entries) (depthAt (BracketTable.build lines).entries)
      ((glyphsFrom 0 lines).foldl Pairing.add .empty).waiting :=
  Pairing.nests_empty.foldl Pairing.counts_empty fun _ h => (of_mem_glyphsFrom h).2

def alike (a b : Bracket) : Bool :=
  (shape? a.glyph).map (·.1) == (shape? b.glyph).map (·.1)

/-- The brackets of a table that are open around the one with an index: the opening ones of its
shape before it, other than its partner, that have no partner or one behind it. -/
def surrounding (entries : Array Bracket) (i : Nat) (b : Bracket) : List Nat :=
  (List.range i).filter fun k => (entries[k]?).any fun a =>
    a.opens && a.alike b && b.partner != some k && a.partner.all (i < ·)

/-- Every bracket of a table is as deep as many brackets surround it, partners are equally deep,
and two pairs of one shape lie apart or one inside the other. -/
structure Layered (entries : Array Bracket) : Prop where
  depth : ∀ (i : Nat) (b : Bracket), entries[i]? = some b →
    b.depth = (surrounding entries i b).length
  level : ∀ (i j : Nat) (b : Bracket), entries[i]? = some b → b.partner = some j →
    ∃ c : Bracket, entries[j]? = some c ∧ c.depth = b.depth
  apart : ∀ (i j k l : Nat) (a b : Bracket),
    entries[i]? = some a → a.partner = some j → i < j →
    entries[k]? = some b → b.partner = some l → k < l → a.alike b →
    j < k ∨ l < i ∨ i ≤ k ∧ l ≤ j ∨ k ≤ i ∧ j ≤ l

theorem opens_and_alike_iff {a b : Bracket} {shape : Shape} {opening : Bool}
    (hb : shape? b.glyph = some (shape, opening)) :
    a.opens = true ∧ a.alike b = true ↔ shape? a.glyph = some (shape, true) := by
  unfold opens alike
  rw [hb]
  cases shape? a.glyph with
  | none => simp
  | some kind =>
    obtain ⟨other, facing⟩ := kind
    simp [and_comm]

section
variable {lines : List LexedLine} {i j : Nat} {b : Bracket}
  (hb : (BracketTable.build lines).entries[i]? = some b)
include hb

theorem exists_shape? : ∃ shape opening, shape? b.glyph = some (shape, opening) := by
  have hmem := List.mem_of_getElem? (BracketTable.getElem?_glyphsFrom hb)
  obtain ⟨⟨shape, opening⟩, hshape⟩ := Option.isSome_iff_exists.mp (of_mem_glyphsFrom hmem).2
  exact ⟨shape, opening, hshape⟩

/-- The surrounding brackets are those that the stacks hold when the bracket is met. -/
theorem surrounding_eq_openAt {shape : Shape} {opening : Bool}
    (hshape : shape? b.glyph = some (shape, opening)) :
    surrounding (BracketTable.build lines).entries i b =
      openAt (glyphs (BracketTable.build lines).entries)
        (partnerAt (BracketTable.build lines).entries) shape i := by
  unfold surrounding openAt
  apply List.filter_congr
  intro k hk
  have hsize := (Array.getElem?_eq_some_iff.mp hb).1
  have hlt := Nat.lt_trans (List.mem_range.mp hk) hsize
  obtain ⟨a, ha⟩ : ∃ a, (BracketTable.build lines).entries[k]? = some a :=
    ⟨_, Array.getElem?_eq_getElem hlt⟩
  -- its own partner is not open at the bracket either
  have hpartner : (∀ m ∈ a.partner, i < m) → b.partner ≠ some k := by
    intro hbehind hown
    rw [← partnerAt_eq hb] at hown
    obtain ⟨hback, -⟩ := (counted_build lines).symmetric i k hown
    rw [partnerAt_eq ha] at hback
    exact absurd (hbehind i hback) (Nat.lt_irrefl i)
  rw [ha, getElem?_glyphs ha, partnerAt_eq ha, Option.any_some, Option.any_some, Bool.eq_iff_iff]
  simp only [Bool.and_eq_true, opens_and_alike_iff hshape, bne_iff_ne, beq_iff_eq,
    Option.all_eq_true, decide_eq_true_eq]
  constructor
  · rintro ⟨⟨hopens, -⟩, hbehind⟩
    exact ⟨hopens, hbehind⟩
  · rintro ⟨hopens, hbehind⟩
    exact ⟨⟨hopens, hpartner hbehind⟩, hbehind⟩

/-- A bracket with a later partner opens its shape. -/
theorem spans_of_partner (hpartner : b.partner = some j) (hij : i < j) {shape : Shape}
    {opening : Bool} (hshape : shape? b.glyph = some (shape, opening)) :
    Spans (glyphs (BracketTable.build lines).entries)
      (partnerAt (BracketTable.build lines).entries) shape i j := by
  rw [← partnerAt_eq hb] at hpartner
  obtain ⟨-, x, y, other, hx, -, hfacing⟩ := (counted_build lines).symmetric i j hpartner
  rw [getElem?_glyphs hb] at hx
  cases Option.some.inj hx
  rcases hfacing with ⟨-, hopens, -⟩ | ⟨hji, -⟩
  · rw [hshape] at hopens
    cases hopens
    exact ⟨hpartner, b.glyph, getElem?_glyphs hb, hshape⟩
  · exact absurd hij (Nat.lt_asymm hji)

end

/-- Of two pairs of a shape the one that begins first ends before the other begins or after it
ends. -/
theorem lt_or_lt_of_spans {lines : List LexedLine} {shape : Shape} {i j k l : Nat}
    (hij : Spans (glyphs (BracketTable.build lines).entries)
      (partnerAt (BracketTable.build lines).entries) shape i j)
    (hkl : Spans (glyphs (BracketTable.build lines).entries)
      (partnerAt (BracketTable.build lines).entries) shape k l)
    (hik : i < k) (hl : k < l) : j < k ∨ l < j := by
  rcases Nat.lt_trichotomy j k with hjk | rfl | hkj
  · exact .inl hjk
  · -- a bracket that ends one pair does not begin another
    have hback := ((counted_build lines).symmetric i j hij.1).1
    rw [hkl.1] at hback
    cases hback
    exact absurd hik (Nat.lt_asymm hl)
  · exact .inr ((nested_build lines).apart shape i j k l hij hkl hik hkj)

/-- The table lists all brackets. Their depths are the numbers of surrounding brackets, in the whole
table and not only when a bracket is met, and pairs of one shape do not cross. -/
theorem layered_build (lines : List LexedLine) :
    (BracketTable.build lines).entries.toList.map (fun b => (b.position, b.glyph)) =
        glyphsFrom 0 lines ∧
      Layered (BracketTable.build lines).entries := by
  have hnested := nested_build lines
  refine ⟨BracketTable.map_entries_build lines, ?_⟩
  constructor
  case depth =>
    intro i b hb
    obtain ⟨shape, opening, hshape⟩ := exists_shape? hb
    have hdepth := hnested.around i b.glyph shape opening (getElem?_glyphs hb) hshape
    rw [surrounding_eq_openAt hb hshape, ← hdepth, depthAt_eq hb]
  case level =>
    intro i j b hb hj
    obtain ⟨c, hc⟩ := exists_getElem?_of_partner hb hj
    rw [← partnerAt_eq hb] at hj
    have hlevel := hnested.level i j hj
    rw [depthAt_eq hb, depthAt_eq hc] at hlevel
    exact ⟨c, hc, hlevel⟩
  case apart =>
    intro i j k l a b ha hj hij hb hl hkl halike
    obtain ⟨shape, opening, hbshape⟩ := exists_shape? hb
    obtain ⟨other, facing, hashape⟩ := exists_shape? ha
    have hother : other = shape := by
      unfold alike at halike
      rw [hashape, hbshape] at halike
      simpa using halike
    rw [hother] at hashape
    have hfirst := spans_of_partner ha hj hij hashape
    have hsecond := spans_of_partner hb hl hkl hbshape
    rcases Nat.lt_trichotomy i k with hik | rfl | hki
    · have hcases := lt_or_lt_of_spans hfirst hsecond hik hkl
      omega
    · have hsame := hfirst.1.symm.trans hsecond.1
      cases hsame
      exact .inr (.inr (.inl ⟨Nat.le_refl i, Nat.le_refl j⟩))
    · have hcases := lt_or_lt_of_spans hsecond hfirst hki hij
      omega

end Bracket
end EditorAssist
