import EditorAssist.Proofs.Pairing
import Mathlib.Logic.Function.Basic

/-! Partners by counting. Stacks of open brackets find the partner that a count over the brackets of
one shape finds, backwards from a closing bracket and forwards from an opening one. -/
namespace EditorAssist
namespace Bracket

/-- The first bracket of a shape, opening or closing as `sought` tells, at which the count is zero.
Each other such bracket takes one off the count, and each bracket of the shape that faces the other
way adds one. Brackets come with their indices, in the order of the search. -/
def seek (shape : Shape) (sought : Bool) : Nat → List (Char × Nat) → Option Nat
  | _, [] => none
  | count, (c, i) :: rest =>
    if shape? c = some (shape, sought) then
      match count with
      | 0 => some i
      | count + 1 => seek shape sought count rest
    else if shape? c = some (shape, !sought) then seek shape sought (count + 1) rest
    else seek shape sought count rest

section
variable {shape : Shape} {sought : Bool} {c : Char} {i count : Nat} {rest : List (Char × Nat)}

theorem seek_cons_zero (h : shape? c = some (shape, sought)) :
    seek shape sought 0 ((c, i) :: rest) = some i := by
  simp [seek, h]

theorem seek_cons_succ (h : shape? c = some (shape, sought)) :
    seek shape sought (count + 1) ((c, i) :: rest) = seek shape sought count rest := by
  simp [seek, h]

theorem seek_cons_facing (h : shape? c = some (shape, !sought)) :
    seek shape sought count ((c, i) :: rest) = seek shape sought (count + 1) rest := by
  cases sought <;> simp [seek, h]

theorem seek_cons_other {other : Shape} {opening : Bool} (h : shape? c = some (other, opening))
    (hother : shape ≠ other) :
    seek shape sought count ((c, i) :: rest) = seek shape sought count rest := by
  have hne : ∀ facing, shape? c ≠ some (shape, facing) := by
    intro facing hsame
    rw [h] at hsame
    cases hsame
    exact hother rfl
  simp only [seek, if_neg (hne sought), if_neg (hne !sought)]

end

/-- What is known after some bracket characters. Those that wait are what is found by counting
backwards from the end, at each count one, and counting forwards from one of them reaches the end
with the count at which it waits. All others have the partner that counting finds. -/
structure Counted (glyphs : List Char) (partner : Nat → Option Nat) (waiting : Shape → List Nat) :
    Prop where
  backward : ∀ shape count,
    seek shape true count glyphs.zipIdx.reverse = (waiting shape)[count]?
  waits : ∀ shape count i, (waiting shape)[count]? = some i →
    ∃ c, glyphs[i]? = some c ∧ shape? c = some (shape, true) ∧ partner i = none ∧
      ∀ rest, seek shape false 0 (glyphs.zipIdx.drop (i + 1) ++ rest) =
        seek shape false count rest
  closing : ∀ i c shape, glyphs[i]? = some c → shape? c = some (shape, false) →
    partner i = seek shape true 0 (glyphs.zipIdx.take i).reverse
  opening : ∀ i c shape, glyphs[i]? = some c → shape? c = some (shape, true) →
    i ∉ waiting shape → ∃ j, partner i = some j ∧
      ∀ rest, seek shape false 0 (glyphs.zipIdx.drop (i + 1) ++ rest) = some j
  symmetric : ∀ i j, partner i = some j → partner j = some i ∧
    ∃ b c shape, glyphs[i]? = some b ∧ glyphs[j]? = some c ∧
      (i < j ∧ shape? b = some (shape, true) ∧ shape? c = some (shape, false) ∨
        j < i ∧ shape? b = some (shape, false) ∧ shape? c = some (shape, true))

theorem counted_nil : Counted [] (fun _ => none) (fun _ => []) := by
  constructor
  case backward => exact fun _ _ => rfl
  case waits => exact nofun
  case closing => exact nofun
  case opening => exact nofun
  case symmetric => exact nofun

theorem zipIdx_concat (glyphs : List Char) (c : Char) :
    (glyphs ++ [c]).zipIdx = glyphs.zipIdx ++ [(c, glyphs.length)] := by
  simp [List.zipIdx_append]

theorem lt_length_of_getElem? {glyphs : List Char} {i : Nat} {c : Char}
    (h : glyphs[i]? = some c) : i < glyphs.length :=
  (List.getElem?_eq_some_iff.mp h).1

theorem getElem?_concat_of_getElem? {glyphs : List Char} {i : Nat} {b : Char}
    (h : glyphs[i]? = some b) (c : Char) : (glyphs ++ [c])[i]? = some b := by
  rw [List.getElem?_append_left (lt_length_of_getElem? h), h]

/-- A character of a longer list is the new one or an old one. -/
theorem of_getElem?_concat {glyphs : List Char} {i : Nat} {b c : Char}
    (h : (glyphs ++ [c])[i]? = some b) :
    glyphs[i]? = some b ∨ i = glyphs.length ∧ b = c := by
  rcases Nat.lt_trichotomy i glyphs.length with hlt | rfl | hgt
  · rw [List.getElem?_append_left hlt] at h
    exact .inl h
  · rw [List.getElem?_concat_length] at h
    exact .inr ⟨rfl, (Option.some.inj h).symm⟩
  · have hnone : (glyphs ++ [c])[i]? = none := by
      rw [List.getElem?_eq_none_iff, List.length_append, List.length_singleton]
      omega
    rw [hnone] at h
    cases h

section
variable {glyphs : List Char} {i : Nat} {b : Char} (h : glyphs[i]? = some b) (c : Char)
include h

theorem drop_zipIdx_concat (rest : List (Char × Nat)) :
    (glyphs ++ [c]).zipIdx.drop (i + 1) ++ rest =
      glyphs.zipIdx.drop (i + 1) ++ (c, glyphs.length) :: rest := by
  have hle : i + 1 ≤ glyphs.zipIdx.length := by
    rw [List.length_zipIdx]
    exact lt_length_of_getElem? h
  rw [zipIdx_concat, List.drop_append_of_le_length hle, List.append_assoc]
  rfl

theorem take_zipIdx_concat : (glyphs ++ [c]).zipIdx.take i = glyphs.zipIdx.take i := by
  have hle : i ≤ glyphs.zipIdx.length := by
    rw [List.length_zipIdx]
    exact Nat.le_of_lt (lt_length_of_getElem? h)
  rw [zipIdx_concat, List.take_append_of_le_length hle]

end

theorem take_zipIdx_concat_length (glyphs : List Char) (c : Char) :
    (glyphs ++ [c]).zipIdx.take glyphs.length = glyphs.zipIdx := by
  rw [zipIdx_concat, List.take_left' List.length_zipIdx]

theorem reverse_zipIdx_concat (glyphs : List Char) (c : Char) :
    (glyphs ++ [c]).zipIdx.reverse = (c, glyphs.length) :: glyphs.zipIdx.reverse := by
  rw [zipIdx_concat, List.reverse_append]
  rfl

/-- Make two brackets partners of each other. -/
def pairUp (partner : Nat → Option Nat) (i j : Nat) : Nat → Option Nat :=
  Function.update (Function.update partner i (some j)) j (some i)

section
variable (partner : Nat → Option Nat) {i j : Nat}

theorem pairUp_left (h : i ≠ j) : pairUp partner i j i = some j := by
  rw [pairUp, Function.update_of_ne h, Function.update_self]

theorem pairUp_right : pairUp partner i j j = some i := by
  rw [pairUp, Function.update_self]

theorem pairUp_of_ne {k : Nat} (hi : k ≠ i) (hj : k ≠ j) : pairUp partner i j k = partner k := by
  rw [pairUp, Function.update_of_ne hj, Function.update_of_ne hi]

end

namespace Counted
variable {glyphs : List Char} {partner : Nat → Option Nat} {waiting : Shape → List Nat}

theorem partner_length (h : Counted glyphs partner waiting) : partner glyphs.length = none := by
  cases hpartner : partner glyphs.length with
  | none => rfl
  | some j =>
    obtain ⟨-, b, c, shape, hb, -⟩ := h.symmetric _ _ hpartner
    exact absurd (lt_length_of_getElem? hb) (Nat.lt_irrefl _)

/-- What waits innermost waits only there. -/
theorem innermost_ne (h : Counted glyphs partner waiting) {shape : Shape} {c : Char}
    (hc : shape? c = some (shape, false)) {k : Nat} {outer : List Nat}
    (hwaiting : waiting shape = k :: outer) {count i : Nat} (hi : outer[count]? = some i) :
    i ≠ k := by
  rintro rfl
  have hzero : (waiting shape)[0]? = some i := by rw [hwaiting, List.getElem?_cons_zero]
  have hsucc : (waiting shape)[count + 1]? = some i := by
    rw [hwaiting, List.getElem?_cons_succ, hi]
  obtain ⟨-, -, -, -, hinner⟩ := h.waits shape 0 i hzero
  obtain ⟨-, -, -, -, houter⟩ := h.waits shape (count + 1) i hsucc
  have hfound := (houter [(c, i)]).symm.trans (hinner [(c, i)])
  rw [seek_cons_succ hc, seek_cons_zero hc] at hfound
  cases hfound

section
variable (h : Counted glyphs partner waiting) (c : Char) {next : Nat → Option Nat} {shape : Shape}
  {i : Nat} (hkept : next i = partner i)
include h

include hkept in
/-- What waits still waits behind one more bracket, at the count that this one leaves. -/
theorem waits_concat {count later : Nat} (hi : (waiting shape)[count]? = some i)
    (hlater : ∀ rest, seek shape false count ((c, glyphs.length) :: rest) =
      seek shape false later rest) :
    ∃ b, (glyphs ++ [c])[i]? = some b ∧ shape? b = some (shape, true) ∧ next i = none ∧
      ∀ rest, seek shape false 0 ((glyphs ++ [c]).zipIdx.drop (i + 1) ++ rest) =
        seek shape false later rest := by
  obtain ⟨b, hb, hshape, hpartner, hseek⟩ := h.waits shape count i hi
  refine ⟨b, getElem?_concat_of_getElem? hb c, hshape, ?_, fun rest => ?_⟩
  · rw [hkept, hpartner]
  · rw [drop_zipIdx_concat hb, hseek, hlater]

include hkept in
theorem closing_concat {b : Char} (hb : glyphs[i]? = some b)
    (hshape : shape? b = some (shape, false)) :
    next i = seek shape true 0 ((glyphs ++ [c]).zipIdx.take i).reverse := by
  rw [take_zipIdx_concat hb, hkept, h.closing i b shape hb hshape]

include hkept in
theorem opening_concat {b : Char} (hb : glyphs[i]? = some b)
    (hshape : shape? b = some (shape, true)) (hnot : i ∉ waiting shape) :
    ∃ j, next i = some j ∧
      ∀ rest, seek shape false 0 ((glyphs ++ [c]).zipIdx.drop (i + 1) ++ rest) = some j := by
  obtain ⟨j, hj, hseek⟩ := h.opening i b shape hb hshape hnot
  refine ⟨j, ?_, fun rest => ?_⟩
  · rw [hkept, hj]
  · rw [drop_zipIdx_concat hb, hseek]

theorem facing_concat {j : Nat} (hj : partner i = some j) :
    ∃ a b shape, (glyphs ++ [c])[i]? = some a ∧ (glyphs ++ [c])[j]? = some b ∧
      (i < j ∧ shape? a = some (shape, true) ∧ shape? b = some (shape, false) ∨
        j < i ∧ shape? a = some (shape, false) ∧ shape? b = some (shape, true)) := by
  obtain ⟨-, a, b, shape, ha, hb, hfacing⟩ := h.symmetric i j hj
  exact ⟨a, b, shape, getElem?_concat_of_getElem? ha c, getElem?_concat_of_getElem? hb c, hfacing⟩

end

/-- An opening bracket waits innermost. -/
theorem concat_opening (h : Counted glyphs partner waiting) {shape : Shape} {c : Char}
    (hc : shape? c = some (shape, true)) :
    Counted (glyphs ++ [c]) partner
      (Function.update waiting shape (glyphs.length :: waiting shape)) := by
  constructor
  case backward =>
    intro other count
    rw [reverse_zipIdx_concat]
    by_cases hother : other = shape
    · subst hother
      rw [Function.update_self]
      cases count with
      | zero => rw [seek_cons_zero hc, List.getElem?_cons_zero]
      | succ count => rw [seek_cons_succ hc, h.backward, List.getElem?_cons_succ]
    · rw [Function.update_of_ne hother, seek_cons_other hc hother, h.backward]
  case waits =>
    intro other count i hi
    by_cases hother : other = shape
    · subst hother
      rw [Function.update_self] at hi
      cases count with
      | zero =>
        rw [List.getElem?_cons_zero] at hi
        cases Option.some.inj hi
        refine ⟨c, List.getElem?_concat_length, hc, h.partner_length, fun rest => ?_⟩
        rw [List.drop_of_length_le (by simp), List.nil_append]
      | succ count =>
        rw [List.getElem?_cons_succ] at hi
        exact h.waits_concat c rfl hi fun _ => seek_cons_facing hc
    · rw [Function.update_of_ne hother] at hi
      exact h.waits_concat c rfl hi fun _ => seek_cons_other hc hother
  case closing =>
    intro i b other hb hshape
    rcases of_getElem?_concat hb with hb | ⟨-, rfl⟩
    · exact h.closing_concat c rfl hb hshape
    · rw [hc] at hshape
      cases hshape
  case opening =>
    intro i b other hb hshape hnot
    rcases of_getElem?_concat hb with hb | ⟨rfl, rfl⟩
    · refine h.opening_concat c rfl hb hshape fun hmem => hnot ?_
      by_cases hother : other = shape
      · subst hother
        rw [Function.update_self]
        exact List.mem_cons_of_mem _ hmem
      · rwa [Function.update_of_ne hother]
    · rw [hc] at hshape
      cases hshape
      rw [Function.update_self] at hnot
      exact absurd List.mem_cons_self hnot
  case symmetric =>
    intro i j hj
    exact ⟨(h.symmetric i j hj).1, h.facing_concat c hj⟩

/-- A closing bracket for which none waits has no partner. -/
theorem concat_unpaired (h : Counted glyphs partner waiting) {shape : Shape} {c : Char}
    (hc : shape? c = some (shape, false)) (hwaiting : waiting shape = []) :
    Counted (glyphs ++ [c]) partner waiting := by
  constructor
  case backward =>
    intro other count
    rw [reverse_zipIdx_concat]
    by_cases hother : other = shape
    · subst hother
      rw [seek_cons_facing hc, h.backward, hwaiting]
      rfl
    · rw [seek_cons_other hc hother, h.backward]
  case waits =>
    intro other count i hi
    have hother : other ≠ shape := by
      rintro rfl
      rw [hwaiting] at hi
      cases hi
    exact h.waits_concat c rfl hi fun _ => seek_cons_other hc hother
  case closing =>
    intro i b other hb hshape
    rcases of_getElem?_concat hb with hb | ⟨rfl, rfl⟩
    · exact h.closing_concat c rfl hb hshape
    · rw [hc] at hshape
      cases hshape
      rw [take_zipIdx_concat_length, h.backward, hwaiting, h.partner_length]
      rfl
  case opening =>
    intro i b other hb hshape hnot
    rcases of_getElem?_concat hb with hb | ⟨-, rfl⟩
    · exact h.opening_concat c rfl hb hshape hnot
    · rw [hc] at hshape
      cases hshape
  case symmetric =>
    intro i j hj
    exact ⟨(h.symmetric i j hj).1, h.facing_concat c hj⟩

/-- The new bracket and the one that it is paired with face each other; all others are partners as
before. -/
theorem symmetric_pairUp (h : Counted glyphs partner waiting) {shape : Shape} {c d : Char} {k : Nat}
    (hc : shape? c = some (shape, false)) (hd : glyphs[k]? = some d)
    (hopens : shape? d = some (shape, true)) (hfree : partner k = none) {i j : Nat}
    (hj : pairUp partner k glyphs.length i = some j) :
    pairUp partner k glyphs.length j = some i ∧
      ∃ a b shape, (glyphs ++ [c])[i]? = some a ∧ (glyphs ++ [c])[j]? = some b ∧
        (i < j ∧ shape? a = some (shape, true) ∧ shape? b = some (shape, false) ∨
          j < i ∧ shape? a = some (shape, false) ∧ shape? b = some (shape, true)) := by
  have hlt := lt_length_of_getElem? hd
  have hleft := pairUp_left partner (Nat.ne_of_lt hlt)
  have hdnew := getElem?_concat_of_getElem? hd c
  have hcnew : (glyphs ++ [c])[glyphs.length]? = some c := List.getElem?_concat_length
  by_cases hin : i = glyphs.length
  · subst hin
    rw [pairUp_right] at hj
    cases Option.some.inj hj
    exact ⟨hleft, c, d, shape, hcnew, hdnew, .inr ⟨hlt, hc, hopens⟩⟩
  · by_cases hik : i = k
    · subst hik
      rw [hleft] at hj
      cases Option.some.inj hj
      exact ⟨pairUp_right partner, d, c, shape, hdnew, hcnew, .inl ⟨hlt, hopens, hc⟩⟩
    · rw [pairUp_of_ne partner hik hin] at hj
      obtain ⟨hi, a, b, other, ha, hb, hfacing⟩ := h.symmetric i j hj
      have hjk : j ≠ k := by
        rintro rfl
        rw [hfree] at hi
        cases hi
      have hjn := Nat.ne_of_lt (lt_length_of_getElem? hb)
      exact ⟨by rw [pairUp_of_ne partner hjk hjn, hi], h.facing_concat c hj⟩

/-- A closing bracket takes the innermost one that waits as its partner. -/
theorem concat_paired (h : Counted glyphs partner waiting) {shape : Shape} {c : Char}
    (hc : shape? c = some (shape, false)) {k : Nat} {outer : List Nat}
    (hwaiting : waiting shape = k :: outer) :
    Counted (glyphs ++ [c]) (pairUp partner k glyphs.length)
      (Function.update waiting shape outer) := by
  have hinnermost : (waiting shape)[0]? = some k := by rw [hwaiting, List.getElem?_cons_zero]
  obtain ⟨d, hd, hopens, hfree, hreach⟩ := h.waits shape 0 k hinnermost
  -- of the brackets that stand already only `k` changes, and it opens `shape`
  have hkept : ∀ {i b}, glyphs[i]? = some b → i ≠ k →
      pairUp partner k glyphs.length i = partner i := fun hb hik =>
    pairUp_of_ne partner hik (Nat.ne_of_lt (lt_length_of_getElem? hb))
  have hne : ∀ {i b other opening}, glyphs[i]? = some b → shape? b = some (other, opening) →
      (other, opening) ≠ (shape, true) → i ≠ k := by
    rintro i b other opening hb hshape hdiffers rfl
    rw [hd] at hb
    cases hb
    rw [hopens] at hshape
    exact hdiffers (Option.some.inj hshape).symm
  constructor
  case backward =>
    intro other count
    rw [reverse_zipIdx_concat]
    by_cases hother : other = shape
    · subst hother
      rw [Function.update_self, seek_cons_facing hc, h.backward, hwaiting,
        List.getElem?_cons_succ]
    · rw [Function.update_of_ne hother, seek_cons_other hc hother, h.backward]
  case waits =>
    intro other count i hi
    by_cases hother : other = shape
    · subst hother
      rw [Function.update_self] at hi
      have hsucc : (waiting other)[count + 1]? = some i := by
        rw [hwaiting, List.getElem?_cons_succ, hi]
      obtain ⟨b, hb, -⟩ := h.waits other (count + 1) i hsucc
      exact h.waits_concat c (hkept hb (h.innermost_ne hc hwaiting hi)) hsucc
        fun _ => seek_cons_succ hc
    · rw [Function.update_of_ne hother] at hi
      obtain ⟨b, hb, hshape, -⟩ := h.waits other count i hi
      have hik := hne hb hshape fun hsame => hother (congrArg Prod.fst hsame)
      exact h.waits_concat c (hkept hb hik) hi fun _ => seek_cons_other hc hother
  case closing =>
    intro i b other hb hshape
    rcases of_getElem?_concat hb with hb | ⟨rfl, rfl⟩
    · exact h.closing_concat c (hkept hb (hne hb hshape (by simp))) hb hshape
    · rw [hc] at hshape
      cases hshape
      rw [take_zipIdx_concat_length, h.backward, hinnermost, pairUp_right]
  case opening =>
    intro i b other hb hshape hnot
    rcases of_getElem?_concat hb with hb | ⟨-, rfl⟩
    · by_cases hik : i = k
      · subst hik
        rw [hd] at hb
        cases hb
        rw [hopens] at hshape
        cases hshape
        refine ⟨_, pairUp_left partner (Nat.ne_of_lt (lt_length_of_getElem? hd)), fun rest => ?_⟩
        rw [drop_zipIdx_concat hd, hreach, seek_cons_zero hc]
      · refine h.opening_concat c (hkept hb hik) hb hshape fun hmem => hnot ?_
        by_cases hother : other = shape
        · subst hother
          rw [hwaiting] at hmem
          rw [Function.update_self]
          exact (List.mem_cons.mp hmem).resolve_left hik
        · rwa [Function.update_of_ne hother]
    · rw [hc] at hshape
      cases hshape
  case symmetric => exact fun _ _ hj => h.symmetric_pairUp hc hd hopens hfree hj

end Counted

def glyphs (entries : Array Bracket) : List Char :=
  entries.toList.map (·.glyph)

def partnerAt (entries : Array Bracket) (i : Nat) : Option Nat :=
  (entries[i]?).bind (·.partner)

theorem length_glyphs (entries : Array Bracket) : (glyphs entries).length = entries.size := by
  simp [glyphs]

theorem getElem?_glyphs {entries : Array Bracket} {i : Nat} {b : Bracket}
    (h : entries[i]? = some b) : (glyphs entries)[i]? = some b.glyph := by
  simp [glyphs, h]

theorem partnerAt_eq {entries : Array Bracket} {i : Nat} {b : Bracket}
    (h : entries[i]? = some b) : partnerAt entries i = b.partner := by
  rw [partnerAt, h]
  rfl

theorem glyphs_push (entries : Array Bracket) (b : Bracket) :
    glyphs (entries.push b) = glyphs entries ++ [b.glyph] := by
  simp [glyphs]

theorem glyphs_modify (entries : Array Bracket) (i k : Nat) :
    glyphs (entries.modify i (pairedWith k)) = glyphs entries := by
  have hsame : ∀ b, (pairedWith k b).glyph = b.glyph := fun _ => rfl
  have hmap := congrArg Array.toList (map_modify_eq_map hsame entries i)
  rwa [Array.toList_map, Array.toList_map] at hmap

theorem partnerAt_push (entries : Array Bracket) (b : Bracket) :
    partnerAt (entries.push b) =
      Function.update (partnerAt entries) entries.size b.partner := by
  funext i
  rw [partnerAt, Array.getElem?_push, Function.update_apply]
  split_ifs
  · rfl
  · rfl

theorem partnerAt_size (entries : Array Bracket) : partnerAt entries entries.size = none := by
  simp [partnerAt]

/-- A bracket without a partner leaves the partners of all indices. -/
theorem partnerAt_push_of_none (entries : Array Bracket) {b : Bracket} (h : b.partner = none) :
    partnerAt (entries.push b) = partnerAt entries := by
  rw [partnerAt_push, h, ← partnerAt_size entries, Function.update_eq_self]

theorem partnerAt_modify {entries : Array Bracket} {i : Nat} (hi : i < entries.size) (k : Nat) :
    partnerAt (entries.modify i (pairedWith k)) =
      Function.update (partnerAt entries) i (some k) := by
  funext j
  rw [partnerAt, Array.getElem?_modify, Function.update_apply]
  by_cases hij : i = j
  · subst hij
    rw [if_pos rfl, if_pos rfl, Array.getElem?_eq_getElem hi]
    rfl
  · rw [if_neg hij, if_neg (Ne.symm hij)]
    rfl

namespace Pairing

theorem waiting_setWaiting_eq_update (s : Pairing) (shape : Shape) (indices : List Nat) :
    (s.setWaiting shape indices).waiting = Function.update s.waiting shape indices := by
  funext other
  rw [waiting_setWaiting, Function.update_apply]

/-- The brackets met so far have the partners that counting finds. -/
def Counts (s : Pairing) : Prop :=
  Counted (glyphs s.entries) (partnerAt s.entries) s.waiting

theorem counts_empty : empty.Counts := by
  have hpartner : partnerAt empty.entries = fun _ => none := by
    funext i
    simp [partnerAt, empty]
  have hwaiting : empty.waiting = fun _ => [] := by
    funext shape
    cases shape <;> rfl
  rw [Counts, hpartner, hwaiting]
  exact counted_nil

section
variable {s : Pairing} (h : s.Counts) {found : Position × Char} {shape : Shape}
include h

theorem Counts.lt_size {i : Nat} (hi : i ∈ s.waiting shape) : i < s.entries.size := by
  obtain ⟨count, hcount⟩ := List.getElem?_of_mem hi
  obtain ⟨c, hc, -⟩ := h.waits shape count i hcount
  rw [← length_glyphs]
  exact lt_length_of_getElem? hc

theorem Counts.addOpening (hfound : shape? found.2 = some (shape, true)) :
    (s.addOpening found shape).Counts := by
  have hcounted := Counted.concat_opening h hfound
  rw [length_glyphs] at hcounted
  rw [Counts, Pairing.addOpening, entries_setWaiting, waiting_setWaiting_eq_update, glyphs_push,
    partnerAt_push_of_none _ rfl]
  exact hcounted

theorem Counts.addUnpaired (hfound : shape? found.2 = some (shape, false))
    (hwaiting : s.waiting shape = []) : (s.addUnpaired found).Counts := by
  have hcounted := Counted.concat_unpaired h hfound hwaiting
  rw [Counts, Pairing.addUnpaired, glyphs_push, partnerAt_push_of_none _ rfl]
  exact hcounted

theorem Counts.addPaired (hfound : shape? found.2 = some (shape, false)) {i : Nat}
    {rest : List Nat} (hwaiting : s.waiting shape = i :: rest) :
    (s.addPaired found shape i rest).Counts := by
  have hcounted := Counted.concat_paired h hfound hwaiting
  have hi : i ∈ s.waiting shape := by rw [hwaiting]; exact List.mem_cons_self
  rw [length_glyphs, pairUp] at hcounted
  rw [Counts, Pairing.addPaired, entries_setWaiting, waiting_setWaiting_eq_update, glyphs_push,
    glyphs_modify, partnerAt_push, partnerAt_modify (h.lt_size hi), Array.size_modify]
  exact hcounted

theorem Counts.add (hfound : (shape? found.2).isSome) : (s.add found).Counts := by
  obtain ⟨⟨shape, opening⟩, hshape⟩ := Option.isSome_iff_exists.mp hfound
  cases opening with
  | true =>
    rw [add_of_opening hshape]
    exact h.addOpening hshape
  | false =>
    cases hwaiting : s.waiting shape with
    | nil =>
      rw [add_of_waiting_eq_nil hshape hwaiting]
      exact h.addUnpaired hshape hwaiting
    | cons i rest =>
      rw [add_of_waiting_eq_cons hshape hwaiting]
      exact h.addPaired hshape hwaiting

theorem Counts.foldl {found : List (Position × Char)}
    (hfound : ∀ f ∈ found, (shape? f.2).isSome) : (found.foldl Pairing.add s).Counts := by
  induction found generalizing s with
  | nil => exact h
  | cons f rest ih =>
    rw [List.forall_mem_cons] at hfound
    exact ih (h.add hfound.1) hfound.2

end

end Pairing

/-- Every bracket of a table has the partner that counting over its shape finds, backwards from a
closing bracket and forwards from an opening one, and partners face each other. -/
structure CountsOut (entries : Array Bracket) : Prop where
  shaped : ∀ b ∈ entries, (shape? b.glyph).isSome
  closing : ∀ i (b : Bracket) shape, entries[i]? = some b → shape? b.glyph = some (shape, false) →
    b.partner = seek shape true 0 ((glyphs entries).zipIdx.take i).reverse
  opening : ∀ i (b : Bracket) shape, entries[i]? = some b → shape? b.glyph = some (shape, true) →
    b.partner = seek shape false 0 ((glyphs entries).zipIdx.drop (i + 1))
  symmetric : ∀ i (b : Bracket) j, entries[i]? = some b → b.partner = some j →
    ∃ (c : Bracket) (shape : Shape), entries[j]? = some c ∧ c.partner = some i ∧
      (i < j ∧ shape? b.glyph = some (shape, true) ∧ shape? c.glyph = some (shape, false) ∨
        j < i ∧ shape? b.glyph = some (shape, false) ∧ shape? c.glyph = some (shape, true))

/-- What is known after all brackets of some lines. -/
theorem counted_build (lines : List LexedLine) :
    Counted (glyphs (BracketTable.build lines).entries)
      (partnerAt (BracketTable.build lines).entries)
      ((glyphsFrom 0 lines).foldl Pairing.add .empty).waiting :=
  Pairing.counts_empty.foldl fun _ h => (of_mem_glyphsFrom h).2

/-- The partner of a bracket stands in the table. -/
theorem exists_getElem?_of_partner {lines : List LexedLine} {i j : Nat} {b : Bracket}
    (hb : (BracketTable.build lines).entries[i]? = some b) (hpartner : b.partner = some j) :
    ∃ c, (BracketTable.build lines).entries[j]? = some c := by
  rw [← partnerAt_eq hb] at hpartner
  obtain ⟨hback, -⟩ := (counted_build lines).symmetric i j hpartner
  obtain ⟨c, hc, -⟩ := Option.bind_eq_some_iff.mp hback
  exact ⟨c, hc⟩

/-- Pairing with stacks lists all brackets and gives each the partner that counting finds, whatever
brackets of other shapes lie between. -/
theorem countsOut_build (lines : List LexedLine) :
    (BracketTable.build lines).entries.toList.map (fun b => (b.position, b.glyph)) =
        glyphsFrom 0 lines ∧
      CountsOut (BracketTable.build lines).entries := by
  have hshaped : ∀ found ∈ glyphsFrom 0 lines, (shape? found.2).isSome :=
    fun found hfound => (of_mem_glyphsFrom hfound).2
  have hcounts := counted_build lines
  refine ⟨BracketTable.map_entries_build lines, ?_⟩
  constructor
  case shaped =>
    intro b hb
    obtain ⟨i, hi⟩ := Array.getElem?_of_mem hb
    exact hshaped _ (List.mem_of_getElem? (BracketTable.getElem?_glyphsFrom hi))
  case closing =>
    intro i b shape hb hshape
    rw [← partnerAt_eq hb]
    exact hcounts.closing i b.glyph shape (getElem?_glyphs hb) hshape
  case opening =>
    intro i b shape hb hshape
    rw [← partnerAt_eq hb]
    by_cases hwaits : i ∈ ((glyphsFrom 0 lines).foldl Pairing.add .empty).waiting shape
    · obtain ⟨count, hcount⟩ := List.getElem?_of_mem hwaits
      obtain ⟨-, -, -, hpartner, hseek⟩ := hcounts.waits shape count i hcount
      have hend := hseek []
      rw [List.append_nil] at hend
      rw [hpartner, hend]
      rfl
    · obtain ⟨j, hpartner, hseek⟩ :=
        hcounts.opening i b.glyph shape (getElem?_glyphs hb) hshape hwaits
      have hend := hseek []
      rw [List.append_nil] at hend
      rw [hpartner, hend]
  case symmetric =>
    intro i b j hb hpartner
    rw [← partnerAt_eq hb] at hpartner
    obtain ⟨hback, x, y, shape, hx, hy, hfacing⟩ := hcounts.symmetric i j hpartner
    obtain ⟨c, hc, hcpartner⟩ := Option.bind_eq_some_iff.mp hback
    rw [getElem?_glyphs hb] at hx
    rw [getElem?_glyphs hc] at hy
    cases Option.some.inj hx
    cases Option.some.inj hy
    exact ⟨c, shape, hc, hcpartner, hfacing⟩

end Bracket
end EditorAssist
