import EditorAssist.Proofs.Checked.Basic
import EditorAssist.Proofs.Counting
import EditorAssist.Proofs.Reindenting

/-! The bracket table on a machine with 64-bit words. Columns are sums of a token's column and a
place in the token, and entries are read by their index: the partner of a bracket, and the entry at
which a search ends. -/
namespace EditorAssist

namespace Bracket.Pairing

/-- Add the next bracket. Its column must fit 64 bits, and its partner must be there. -/
def addChecked (s : Pairing) (found : Position × Char) : Except Fault Pairing := do
  let _ ← boundedAdd 0 found.1.column
  match shape? found.2 with
  | some (shape, false) =>
    match s.waiting shape with
    | i :: _ =>
      let _ ← entryChecked s.entries.toList i
      return s.add found
    | [] => return s.add found
  | _ => return s.add found

theorem addChecked_eq {s : Pairing} {glyphs : List (Position × Char)} (h : s.Sound glyphs)
    {found : Position × Char} (hcolumn : found.1.column < wordLimit) :
    s.addChecked found = .ok (s.add found) := by
  have hsum : 0 + found.1.column < wordLimit := by rwa [Nat.zero_add]
  rw [addChecked, boundedAdd_eq hsum, ok_bind]
  split
  · next shape hshape =>
    split
    · next i outer hwaiting =>
      have hi : i ∈ s.waiting shape := by
        rw [hwaiting]
        exact List.mem_cons_self
      obtain ⟨b, hb, -⟩ := h.waiting shape i hi
      rw [← Array.getElem?_toList] at hb
      rw [entryChecked_of_getElem? hb]
      rfl
    · rfl
  · rfl

theorem foldlM_addChecked {glyphs : List (Position × Char)}
    (hshapes : ∀ found ∈ glyphs, (shape? found.2).isSome)
    (hcolumns : ∀ found ∈ glyphs, found.1.column < wordLimit) {s : Pairing}
    {before : List (Position × Char)} (hs : s.Sound before) :
    glyphs.foldlM addChecked s = .ok (glyphs.foldl add s) := by
  induction glyphs generalizing s before with
  | nil => rfl
  | cons found rest ih =>
    rw [List.forall_mem_cons] at hshapes hcolumns
    rw [List.foldlM_cons, addChecked_eq hs hcolumns.1, ok_bind, List.foldl_cons]
    exact ih hshapes.2 hcolumns.2 (hs.add hshapes.1)

end Bracket.Pairing

namespace BracketTable
open EditorAssist.Bracket

def tabulateChecked (lines : List LexedLine) : Except Fault BracketTable := do
  let s ← (glyphsFrom 0 lines).foldlM Pairing.addChecked .empty
  return ⟨s.entries⟩

/-- The bracket at a position. A search of an empty table finds nothing, and any other search ends
at an entry. -/
def getChecked (table : BracketTable) (p : Position) : Except Fault (Option Bracket) :=
  if table.entries.size = 0 then return none
  else do
    let found ← entryChecked table.entries.toList (narrow table.entries p 0 table.entries.size)
    return if found.position = p then some found else none

def partnerChecked (table : BracketTable) (p : Position) : Except Fault (Option Position) := do
  match (← table.getChecked p).bind (·.partner) with
  | some i =>
    let partner ← entryChecked table.entries.toList i
    return some partner.position
  | none => return none

theorem tabulateChecked_eq (mode : Mode) {rows : List Text}
    (h : ∀ line ∈ rows, line.length < wordLimit) :
    tabulateChecked (lexLines mode rows) = .ok (build (lexLines mode rows)) := by
  have hshapes : ∀ found ∈ glyphsFrom 0 (lexLines mode rows), (shape? found.2).isSome :=
    fun _ hfound => (of_mem_glyphsFrom hfound).2
  have hcolumns : ∀ found ∈ glyphsFrom 0 (lexLines mode rows),
      found.1.column < wordLimit := by
    intro found hfound
    obtain ⟨line, hline, hchar⟩ := getElem?_of_mem_glyphsFrom hfound
    have hlt := (List.getElem?_eq_some_iff.mp hchar).1
    exact Nat.lt_trans hlt (h line (List.mem_of_getElem? hline))
  rw [tabulateChecked, Pairing.foldlM_addChecked hshapes hcolumns Pairing.sound_empty]
  rfl

/-- Halving ends at one of the entries. -/
theorem narrow_lt (entries : Array Bracket) (p : Position) (base : Nat) {size : Nat}
    (h : 0 < size) :
    narrow entries p base size < base + size := by
  fun_induction narrow entries p base size with
  | case1 base size hmany half after ih =>
    have hhalf : half = size / 2 := rfl
    have hlt := ih (by omega)
    split_ifs at hlt ⊢ <;> omega
  | case2 base size hfew => omega

theorem getChecked_eq (table : BracketTable) (p : Position) :
    table.getChecked p = .ok (table.get? p) := by
  unfold getChecked
  split_ifs with hempty
  · have hnone : table.entries[narrow table.entries p 0 table.entries.size]? = none := by
      rw [Array.getElem?_eq_none_iff, hempty]
      exact Nat.zero_le _
    rw [get?, hnone]
    rfl
  · have hlt := narrow_lt table.entries p 0 (Nat.pos_of_ne_zero hempty)
    rw [Nat.zero_add] at hlt
    have hentry := Array.getElem?_eq_getElem hlt
    rw [get?, hentry, entryChecked_of_getElem? (by rw [Array.getElem?_toList, hentry]), ok_bind]
    simp only [Option.filter, beq_iff_eq]
    rfl

theorem partnerChecked_build (lines : List LexedLine) (p : Position) :
    (build lines).partnerChecked p = .ok ((build lines).partner? p) := by
  rw [partnerChecked, getChecked_eq, ok_bind, partner?]
  cases hget : (build lines).get? p with
  | none => rfl
  | some b =>
    cases hpartner : b.partner with
    | none => simp [hpartner, pure, Except.pure]
    | some i =>
      obtain ⟨hb, -⟩ := Option.filter_eq_some_iff.mp hget
      obtain ⟨c, hc⟩ := exists_getElem?_of_partner hb hpartner
      simp [hpartner, hc, entryChecked, bind, Except.bind, pure, Except.pure]

end BracketTable
end EditorAssist
