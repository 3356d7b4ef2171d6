import EditorAssist.Bracket
import Mathlib.Data.List.Basic

/-! Partners of brackets. Pairing looks at the order of brackets only, so brackets that move without
overtaking each other keep their partners, and the partner of a closing bracket comes before it. -/
namespace EditorAssist

theorem map_modify {α β : Type} {f : α → α} {g : α → β} {k : β → β} (h : ∀ a, g (f a) = k (g a))
    (entries : Array α) (i : Nat) :
    (entries.modify i f).map g = (entries.map g).modify i k := by
  refine Array.ext_getElem? fun j => ?_
  rw [Array.getElem?_map, Array.getElem?_modify, Array.getElem?_modify, Array.getElem?_map]
  split
  · rw [Option.map_map, Option.map_map]
    exact congrArg (Option.map · _) (funext h)
  · rfl

theorem map_modify_eq_map {α β : Type} {f : α → α} {g : α → β} (h : ∀ a, g (f a) = g a)
    (entries : Array α) (i : Nat) : (entries.modify i f).map g = entries.map g := by
  refine (map_modify (k := id) h entries i).trans (Array.ext_getElem? fun j => ?_)
  simp [Array.getElem?_modify]

namespace Bracket

def moved (move : Position → Position) (b : Bracket) : Bracket :=
  { b with position := move b.position }

def pairedWith (i : Nat) (b : Bracket) : Bracket :=
  { b with partner := some i }

namespace Pairing

def moved (move : Position → Position) (s : Pairing) : Pairing :=
  { s with entries := s.entries.map (·.moved move) }

@[simp] theorem waiting_moved (move : Position → Position) (s : Pairing) (shape : Shape) :
    (s.moved move).waiting shape = s.waiting shape := by
  cases shape <;> rfl

@[simp] theorem entries_setWaiting (s : Pairing) (shape : Shape) (indices : List Nat) :
    (s.setWaiting shape indices).entries = s.entries := by
  cases shape <;> rfl

theorem waiting_setWaiting (s : Pairing) (shape other : Shape) (indices : List Nat) :
    (s.setWaiting shape indices).waiting other =
      if other = shape then indices else s.waiting other := by
  cases shape <;> cases other <;> rfl

theorem moved_setWaiting (move : Position → Position) (s : Pairing) (shape : Shape)
    (indices : List Nat) :
    (s.setWaiting shape indices).moved move = (s.moved move).setWaiting shape indices := by
  cases shape <;> rfl

/-- The brackets met so far with an opening one that waits. -/
def addOpening (s : Pairing) (found : Position × Char) (shape : Shape) : Pairing :=
  { s with
    entries := s.entries.push ⟨found.1, found.2, (s.waiting shape).length, none⟩ }.setWaiting shape
      (s.entries.size :: s.waiting shape)

/-- The brackets met so far with a closing one and no partner for it. -/
def addUnpaired (s : Pairing) (found : Position × Char) : Pairing :=
  { s with entries := s.entries.push ⟨found.1, found.2, 0, none⟩ }

/-- The brackets met so far with a closing one and its partner. -/
def addPaired (s : Pairing) (found : Position × Char) (shape : Shape) (i : Nat)
    (rest : List Nat) : Pairing :=
  { s with
    entries := (s.entries.modify i (pairedWith s.entries.size)).push
      ⟨found.1, found.2, (s.entries[i]?).elim 0 (·.depth), some i⟩ }.setWaiting shape rest

section
variable {s : Pairing} {found : Position × Char} {shape : Shape}

theorem add_of_opening (h : shape? found.2 = some (shape, true)) :
    s.add found = s.addOpening found shape := by
  simp [add, h, addOpening]

theorem add_of_waiting_eq_nil (h : shape? found.2 = some (shape, false))
    (hwaiting : s.waiting shape = []) : s.add found = s.addUnpaired found := by
  simp [add, h, hwaiting, addUnpaired]

theorem add_of_waiting_eq_cons (h : shape? found.2 = some (shape, false)) {i : Nat}
    {rest : List Nat} (hwaiting : s.waiting shape = i :: rest) :
    s.add found = s.addPaired found shape i rest := by
  simp only [add, h, hwaiting]
  rfl

end

theorem add_moved (move : Position → Position) (s : Pairing) (found : Position × Char) :
    (s.moved move).add (move found.1, found.2) = (s.add found).moved move := by
  cases hshape : shape? found.2 with
  | none => simp [add, hshape]
  | some kind =>
    obtain ⟨shape, opening⟩ := kind
    have hmoved : shape? (move found.1, found.2).2 = some (shape, opening) := hshape
    cases opening with
    | true =>
      rw [add_of_opening hshape, add_of_opening hmoved, addOpening, addOpening, moved_setWaiting,
        waiting_moved]
      simp [moved, Bracket.moved]
    | false =>
      have hsame := waiting_moved move s shape
      cases hwaiting : s.waiting shape with
      | nil =>
        rw [hwaiting] at hsame
        rw [add_of_waiting_eq_nil hshape hwaiting, add_of_waiting_eq_nil hmoved hsame]
        simp [addUnpaired, moved, Bracket.moved]
      | cons i rest =>
        rw [hwaiting] at hsame
        rw [add_of_waiting_eq_cons hshape hwaiting, add_of_waiting_eq_cons hmoved hsame, addPaired,
          addPaired, moved_setWaiting]
        have hmodify : (s.entries.modify i (pairedWith s.entries.size)).map (·.moved move) =
            (s.entries.map (·.moved move)).modify i (pairedWith s.entries.size) := by
          refine map_modify ?_ _ _
          exact fun b => rfl
        have hdepth : ((s.entries.map (·.moved move))[i]?).elim 0 (·.depth) =
            (s.entries[i]?).elim 0 (·.depth) := by
          rw [Array.getElem?_map]
          cases s.entries[i]? <;> rfl
        simp only [moved, Array.map_push, Array.size_map, hmodify, hdepth]
        rfl

theorem foldl_add_moved (move : Position → Position) (glyphs : List (Position × Char))
    (s : Pairing) :
    (glyphs.map fun found => (move found.1, found.2)).foldl add (s.moved move) =
      (glyphs.foldl add s).moved move := by
  induction glyphs generalizing s with
  | nil => rfl
  | cons found rest ih => rw [List.map_cons, List.foldl_cons, add_moved, ih, List.foldl_cons]

/-- Entries stand for the brackets met so far, only opening ones wait, and the partner of a closing
one comes before it. -/
structure Sound (s : Pairing) (glyphs : List (Position × Char)) : Prop where
  glyphs : s.entries.map (fun b => (b.position, b.glyph)) = glyphs.toArray
  waiting : ∀ shape, ∀ i ∈ s.waiting shape, ∃ b : Bracket, s.entries[i]? = some b ∧ b.opens = true
  partner : ∀ j (b : Bracket), s.entries[j]? = some b → b.opens = false → ∀ i ∈ b.partner, i < j

theorem sound_empty : Sound empty [] := by
  refine ⟨by simp [empty], ?_, ?_⟩
  · intro shape i hi
    cases shape <;> cases hi
  · intro j b hb
    cases hb

section
variable {s : Pairing} {glyphs : List (Position × Char)} {found : Position × Char} {shape : Shape}

theorem Sound.lt_size (h : s.Sound glyphs) {i : Nat} (hi : i ∈ s.waiting shape) :
    i < s.entries.size := by
  obtain ⟨b, hb, -⟩ := h.waiting shape i hi
  exact (Array.getElem?_eq_some_iff.mp hb).1

theorem Sound.addOpening (h : s.Sound glyphs) (hfound : shape? found.2 = some (shape, true)) :
    (s.addOpening found shape).Sound (glyphs ++ [found]) := by
  have hopens : ∀ p depth partner, Bracket.opens ⟨p, found.2, depth, partner⟩ = true := by
    simp [opens, hfound]
  constructor
  case glyphs => simp [Pairing.addOpening, h.glyphs]
  case waiting =>
    intro other i hi
    rw [Pairing.addOpening, entries_setWaiting, Array.getElem?_push]
    by_cases hlast : i = s.entries.size
    · rw [if_pos hlast]
      exact ⟨_, rfl, hopens _ _ _⟩
    · rw [if_neg hlast]
      refine h.waiting other i ?_
      rw [Pairing.addOpening, waiting_setWaiting] at hi
      split_ifs at hi with hother
      · rw [hother]
        exact (List.mem_cons.mp hi).resolve_left hlast
      · exact hi
  case partner =>
    intro j b hb hcloses
    rw [Pairing.addOpening, entries_setWaiting, Array.getElem?_push] at hb
    split_ifs at hb
    · cases Option.some.inj hb
      rw [hopens] at hcloses
      cases hcloses
    · exact h.partner j b hb hcloses

theorem Sound.addUnpaired (h : s.Sound glyphs) :
    (s.addUnpaired found).Sound (glyphs ++ [found]) := by
  constructor
  case glyphs => simp [Pairing.addUnpaired, h.glyphs]
  case waiting =>
    intro other i hi
    have hlt := h.lt_size hi
    rw [Pairing.addUnpaired, Array.getElem?_push, if_neg (Nat.ne_of_lt hlt)]
    exact h.waiting other i hi
  case partner =>
    intro j b hb hcloses
    rw [Pairing.addUnpaired, Array.getElem?_push] at hb
    split_ifs at hb
    · cases Option.some.inj hb
      exact nofun
    · exact h.partner j b hb hcloses

theorem Sound.addPaired (h : s.Sound glyphs) {i : Nat} {rest : List Nat}
    (hwaiting : s.waiting shape = i :: rest) :
    (s.addPaired found shape i rest).Sound (glyphs ++ [found]) := by
  have hi : i ∈ s.waiting shape := by rw [hwaiting]; exact List.mem_cons_self
  constructor
  case glyphs =>
    have hsame : (s.entries.modify i (pairedWith s.entries.size)).map
        (fun b => (b.position, b.glyph)) = glyphs.toArray := by
      rw [← h.glyphs]
      refine map_modify_eq_map ?_ _ _
      exact fun b => rfl
    simp [Pairing.addPaired, hsame]
  case waiting =>
    intro other k hk
    have hkold : k ∈ s.waiting other := by
      rw [Pairing.addPaired, waiting_setWaiting] at hk
      split_ifs at hk with hother
      · rw [hother, hwaiting]
        exact List.mem_cons_of_mem i hk
      · exact hk
    obtain ⟨b, hb, hopens⟩ := h.waiting other k hkold
    have hlt := h.lt_size hkold
    rw [Pairing.addPaired, entries_setWaiting, Array.getElem?_push, Array.size_modify,
      if_neg (Nat.ne_of_lt hlt), Array.getElem?_modify, hb]
    split_ifs
    · exact ⟨_, rfl, hopens⟩
    · exact ⟨b, rfl, hopens⟩
  case partner =>
    intro j b hb hcloses
    rw [Pairing.addPaired, entries_setWaiting, Array.getElem?_push, Array.size_modify,
      Array.getElem?_modify] at hb
    split_ifs at hb with hlast hpaired
    · cases Option.some.inj hb
      rintro k ⟨⟩
      rw [hlast]
      exact h.lt_size hi
    · -- the partner of the new bracket is an opening one
      subst hpaired
      obtain ⟨old, hold, hopens⟩ := h.waiting shape i hi
      rw [hold] at hb
      cases Option.some.inj hb
      exact absurd (hopens.symm.trans hcloses) nofun
    · exact h.partner j b hb hcloses

theorem Sound.add (h : s.Sound glyphs) (hfound : (shape? found.2).isSome) :
    (s.add found).Sound (glyphs ++ [found]) := by
  obtain ⟨⟨shape, opening⟩, hshape⟩ := Option.isSome_iff_exists.mp hfound
  cases opening with
  | true =>
    rw [add_of_opening hshape]
    exact h.addOpening hshape
  | false =>
    cases hwaiting : s.waiting shape with
    | nil =>
      rw [add_of_waiting_eq_nil hshape hwaiting]
      exact h.addUnpaired
    | cons i rest =>
      rw [add_of_waiting_eq_cons hshape hwaiting]
      exact h.addPaired hwaiting

end

theorem sound_foldl (glyphs : List (Position × Char))
    (h : ∀ found ∈ glyphs, (shape? found.2).isSome) {s : Pairing}
    {before : List (Position × Char)} (hs : s.Sound before) :
    (glyphs.foldl Pairing.add s).Sound (before ++ glyphs) := by
  induction glyphs generalizing s before with
  | nil => simpa using hs
  | cons found rest ih =>
    rw [List.forall_mem_cons] at h
    simpa using ih h.2 (hs.add h.1)

end Pairing

theorem of_mem_glyphsOfToken {row : Nat} {t : Token} {found : Position × Char}
    (h : found ∈ glyphsOfToken row t) : found.1.row = row ∧ (shape? found.2).isSome := by
  obtain ⟨⟨c, offset⟩, -, hsome⟩ := List.mem_filterMap.mp h
  simp only [Option.ite_none_right_eq_some, Option.some.injEq] at hsome
  obtain ⟨hshape, rfl⟩ := hsome
  exact ⟨rfl, hshape⟩

def glyphsOfLine (row : Nat) (line : LexedLine) : List (Position × Char) :=
  (line.tokens.filter (·.kind.isBracket)).flatMap (glyphsOfToken row)

theorem glyphsFrom_cons (row : Nat) (line : LexedLine) (rest : List LexedLine) :
    glyphsFrom row (line :: rest) = glyphsOfLine row line ++ glyphsFrom (row + 1) rest := rfl

theorem of_mem_glyphsOfLine {row : Nat} {line : LexedLine} {found : Position × Char}
    (h : found ∈ glyphsOfLine row line) : found.1.row = row ∧ (shape? found.2).isSome := by
  obtain ⟨t, -, hfound⟩ := List.mem_flatMap.mp h
  exact of_mem_glyphsOfToken hfound

theorem glyphsFrom_append (row : Nat) (above below : List LexedLine) :
    glyphsFrom row (above ++ below) =
      glyphsFrom row above ++ glyphsFrom (row + above.length) below := by
  induction above generalizing row with
  | nil => rfl
  | cons line rest ih =>
    rw [List.cons_append, glyphsFrom, ih, glyphsFrom, List.append_assoc, List.length_cons,
      Nat.add_assoc, Nat.add_comm 1]

theorem of_mem_glyphsFrom {row : Nat} {lines : List LexedLine} {found : Position × Char}
    (h : found ∈ glyphsFrom row lines) : row ≤ found.1.row ∧ (shape? found.2).isSome := by
  induction lines generalizing row with
  | nil => cases h
  | cons line rest ih =>
    rcases List.mem_append.mp h with h | h
    · obtain ⟨hrow, hshape⟩ := of_mem_glyphsOfLine h
      exact ⟨Nat.le_of_eq hrow.symm, hshape⟩
    · obtain ⟨hrow, hshape⟩ := ih h
      exact ⟨Nat.le_of_succ_le hrow, hshape⟩

/-- Brackets come row by row. -/
theorem pairwise_glyphsFrom (row : Nat) (lines : List LexedLine) :
    (glyphsFrom row lines).Pairwise fun a b => a.1.row ≤ b.1.row := by
  induction lines generalizing row with
  | nil => exact .nil
  | cons line rest ih =>
    have hrow : ∀ found ∈ glyphsOfLine row line, found.1.row = row :=
      fun found h => (of_mem_glyphsOfLine h).1
    refine List.pairwise_append.mpr ⟨?_, ih (row + 1), ?_⟩
    · exact List.pairwise_of_forall_mem_list fun a ha b hb =>
        Nat.le_of_eq ((hrow a ha).trans (hrow b hb).symm)
    · intro a ha b hb
      rw [hrow a ha]
      exact Nat.le_of_succ_le (of_mem_glyphsFrom hb).1

end Bracket

namespace BracketTable
open EditorAssist.Bracket

def moved (move : Position → Position) (table : BracketTable) : BracketTable :=
  ⟨table.entries.map (·.moved move)⟩

theorem build_moved {move : Position → Position} {lines others : List LexedLine}
    (h : glyphsFrom 0 others = (glyphsFrom 0 lines).map fun found => (move found.1, found.2)) :
    build others = (build lines).moved move := by
  have hempty : Pairing.empty.moved move = Pairing.empty := by simp [Pairing.moved, Pairing.empty]
  rw [build, h, ← hempty, Pairing.foldl_add_moved]
  rfl

theorem sound_build (lines : List LexedLine) :
    ((glyphsFrom 0 lines).foldl Pairing.add .empty).Sound (glyphsFrom 0 lines) :=
  Pairing.sound_foldl _ (fun _ h => (of_mem_glyphsFrom h).2) Pairing.sound_empty

/-- The entries of a table are the brackets of the lines, in their order. -/
theorem map_entries_build (lines : List LexedLine) :
    (build lines).entries.toList.map (fun b => (b.position, b.glyph)) = glyphsFrom 0 lines := by
  have hglyphs := congrArg Array.toList (sound_build lines).glyphs
  rwa [Array.toList_map] at hglyphs

theorem exists_of_partner? {table : BracketTable} {p q : Position}
    (h : table.partner? p = some q) :
    ∃ (j : Nat) (b : Bracket) (i : Nat) (c : Bracket), table.entries[j]? = some b ∧
      b.position = p ∧ i ∈ b.partner ∧ table.entries[i]? = some c ∧ c.position = q := by
  simp only [partner?, Option.bind_eq_bind, Option.bind_eq_some_iff, Option.pure_def,
    Option.some.injEq] at h
  obtain ⟨b, hget, i, hi, c, hc, rfl⟩ := h
  obtain ⟨hb, hposition⟩ := Option.filter_eq_some_iff.mp hget
  exact ⟨_, b, i, c, hb, beq_iff_eq.mp hposition, hi, hc, rfl⟩

theorem getElem?_glyphsFrom {lines : List LexedLine} {j : Nat} {b : Bracket}
    (hb : (build lines).entries[j]? = some b) :
    (glyphsFrom 0 lines)[j]? = some (b.position, b.glyph) := by
  have hsame : ((build lines).entries.map fun b => (b.position, b.glyph))[j]? =
      (glyphsFrom 0 lines).toArray[j]? := congrArg (·[j]?) (sound_build lines).glyphs
  simpa [hb] using hsame.symm

/-- The partner of a closing bracket stands on no later row. -/
theorem row_le_of_partner? {lines : List LexedLine} {p q : Position}
    (hp : ∀ c, (p, c) ∈ glyphsFrom 0 lines → c = '}') (h : (build lines).partner? p = some q) :
    q.row ≤ p.row := by
  obtain ⟨j, b, i, c, hb, rfl, hi, hc, rfl⟩ := exists_of_partner? h
  have hclosing : b.opens = false := by
    rw [Bracket.opens, hp b.glyph (List.mem_of_getElem? (getElem?_glyphsFrom hb))]
    rfl
  have hlt := (sound_build lines).partner j b hb hclosing i hi
  obtain ⟨hj, hjglyph⟩ := List.getElem?_eq_some_iff.mp (getElem?_glyphsFrom hb)
  obtain ⟨hi, higlyph⟩ := List.getElem?_eq_some_iff.mp (getElem?_glyphsFrom hc)
  have hrows := List.pairwise_iff_getElem.mp (pairwise_glyphsFrom 0 lines) i j hi hj hlt
  rwa [hjglyph, higlyph] at hrows

section
variable {move : Position → Position} {p : Position}

theorem narrow_moved {entries : Array Bracket}
    (h : ∀ b ∈ entries, move p < move b.position ↔ p < b.position) (base size : Nat) :
    narrow (entries.map (·.moved move)) (move p) base size = narrow entries p base size := by
  fun_induction narrow entries p base size with
  | case1 base size hsize half after ih =>
    have hafter : ((entries.map (·.moved move))[base + half]?).any (move p < ·.position) =
        after := by
      rw [Array.getElem?_map]
      cases hentry : entries[base + half]? with
      | none => simp [after, hentry]
      | some b => simp [after, hentry, Bracket.moved, h b (Array.mem_of_getElem? hentry)]
    rw [narrow, if_pos hsize]
    dsimp only
    rw [hafter]
    simpa using ih
  | case2 base size hsize => rw [narrow, if_neg hsize]

theorem get?_moved {table : BracketTable}
    (hless : ∀ b ∈ table.entries, move p < move b.position ↔ p < b.position)
    (hsame : ∀ b ∈ table.entries, move b.position = move p ↔ b.position = p) :
    (table.moved move).get? (move p) = (table.get? p).map (·.moved move) := by
  rw [get?, get?, moved, narrow_moved hless, Array.size_map, Array.getElem?_map]
  cases hentry : table.entries[narrow table.entries p 0 table.entries.size]? with
  | none => rfl
  | some b =>
    have hb := hsame b (Array.mem_of_getElem? hentry)
    by_cases hposition : b.position = p
    · simp [Option.filter, Bracket.moved, hposition]
    · simp [Option.filter, Bracket.moved, hposition, hb]

/-- Brackets that keep their order keep their partners. -/
theorem partner?_moved {table : BracketTable}
    (hless : ∀ b ∈ table.entries, move p < move b.position ↔ p < b.position)
    (hsame : ∀ b ∈ table.entries, move b.position = move p ↔ b.position = p) :
    (table.moved move).partner? (move p) = (table.partner? p).map move := by
  rw [partner?, partner?, get?_moved hless hsame]
  cases table.get? p with
  | none => rfl
  | some b =>
    cases hpartner : b.partner with
    | none => simp [Bracket.moved, hpartner]
    | some i => cases hc : table.entries[i]? <;> simp [Bracket.moved, hpartner, moved, hc]

end

end BracketTable
end EditorAssist
