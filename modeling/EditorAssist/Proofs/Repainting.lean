import EditorAssist.Proofs.Relexing
import Mathlib.Order.Bounds.Defs

/-! Which rows a splice lexes. Behind the new lines lexing goes on up to the first row that begins as
the row it comes from began before, so no row is lexed without need and none is left out. -/
namespace EditorAssist
namespace LexCache

theorem drop_lexLines (mode : Mode) (rows : List Text) (k : Nat) :
    (lexLines mode rows).drop k = lexLines (modeBehind mode (rows.take k)) (rows.drop k) := by
  induction rows generalizing mode k with
  | nil => simp [lexLines]
  | cons line rest ih =>
    cases k with
    | zero => rfl
    | succ k => exact ih _ k

/-- Lexing again stops at the first row that begins alike both times, or behind the last one. -/
theorem isLeast_stale (mode before : Mode) (rows : List Text) :
    IsLeast {k | k = rows.length ∨
      modeBehind mode (rows.take k) = modeBehind before (rows.take k)} (stale mode before rows) := by
  induction rows generalizing mode before with
  | nil => exact ⟨Or.inl rfl, fun k _ => Nat.zero_le k⟩
  | cons line rest ih =>
    unfold stale
    split_ifs with hsame
    · exact ⟨Or.inr hsame, fun k _ => Nat.zero_le k⟩
    · obtain ⟨hstop, hleast⟩ := ih (lexLine mode line).endMode (lexLine before line).endMode
      constructor
      · rcases hstop with hend | hmeet
        · exact Or.inl (congrArg (· + 1) hend)
        · exact Or.inr hmeet
      · intro k hk
        cases k with
        | zero =>
          rcases hk with hend | hmeet
          · exact absurd hend (Nat.succ_ne_zero rest.length).symm
          · exact absurd hmeet hsame
        | succ k =>
          have hrest : k = rest.length ∨ modeBehind (lexLine mode line).endMode (rest.take k) =
              modeBehind (lexLine before line).endMode (rest.take k) := by
            rcases hk with hend | hmeet
            · exact Or.inl (Nat.succ.inj hend)
            · exact Or.inr hmeet
          exact Nat.succ_le_succ (hleast hrest)

theorem stale_le_length (mode before : Mode) (rows : List Text) :
    stale mode before rows ≤ rows.length :=
  (isLeast_stale mode before rows).2 (Or.inl rfl)

/-- Behind the rows that are lexed again, the lexed lines are the old ones. -/
theorem drop_stale_lexLines (mode before : Mode) (rows : List Text) :
    (lexLines mode rows).drop (stale mode before rows) =
      (lexLines before rows).drop (stale mode before rows) := by
  rw [drop_lexLines, drop_lexLines]
  rcases (isLeast_stale mode before rows).1 with hend | hmeet
  · rw [hend, List.drop_length]
    rfl
  · rw [hmeet]

theorem startMode_build_eq {rows : List Text} {row : Nat} (h : row ≤ rows.length) :
    (build rows).startMode row = modeBehind .code (rows.take row) := by
  have hsplit := startMode_build (rows.take row) (rows.drop row)
  rwa [List.take_append_drop, List.length_take, Nat.min_eq_left h] at hsplit

theorem getElem?_entries_build (above between below : List Text) (k : Nat) :
    (build (above ++ (between ++ below))).entries[above.length + between.length + k]? =
      (lexLines (modeBehind .code (above ++ between)) below)[k]? := by
  have hlength : (lexLines .code (above ++ between)).length = above.length + between.length := by
    rw [length_lexLines, List.length_append]
  rw [build, ← List.append_assoc, lexLines_append, ← hlength, List.getElem?_append_right
    (Nat.le_add_right _ _), Nat.add_sub_cancel_left]

/-- A row of the new lines needs no lexing: it begins as the old row that it comes from, or there is
no such row. -/
def MeetsOld (rows lines : List Text) (removed inserted row : Nat) : Prop :=
  row = lines.length ∨
    (build lines).startMode row = (build rows).startMode (row - inserted + removed)

section
variable (above gone inserted below : List Text)

theorem meetsOld_iff {k : Nat} (hk : k ≤ below.length) :
    MeetsOld (above ++ (gone ++ below)) (above ++ (inserted ++ below)) gone.length inserted.length
        (above.length + inserted.length + k) ↔
      k = below.length ∨ modeBehind (modeBehind .code (above ++ inserted)) (below.take k) =
        modeBehind (modeBehind .code (above ++ gone)) (below.take k) := by
  have hnew : (build (above ++ (inserted ++ below))).startMode
      (above.length + inserted.length + k) =
        modeBehind (modeBehind .code (above ++ inserted)) (below.take k) := by
    rw [startMode_build_eq (by simp only [List.length_append]; omega), ← List.append_assoc,
      ← List.length_append, List.take_length_add_append, modeBehind_append]
  have hold : (build (above ++ (gone ++ below))).startMode
      (above.length + inserted.length + k - inserted.length + gone.length) =
        modeBehind (modeBehind .code (above ++ gone)) (below.take k) := by
    have hrow : above.length + inserted.length + k - inserted.length + gone.length =
        above.length + gone.length + k := by omega
    rw [hrow, startMode_build_eq (by simp only [List.length_append]; omega), ← List.append_assoc,
      ← List.length_append, List.take_length_add_append, modeBehind_append]
  have hlength : (above ++ (inserted ++ below)).length =
      above.length + inserted.length + below.length := by
    simp only [List.length_append]
    omega
  unfold MeetsOld
  rw [hnew, hold, hlength, Nat.add_left_cancel_iff]

/-- The rows that are lexed end at the first row behind the new lines that meets the old text. -/
theorem isLeast_repaint :
    IsLeast {row | above.length + inserted.length ≤ row ∧
      MeetsOld (above ++ (gone ++ below)) (above ++ (inserted ++ below)) gone.length
        inserted.length row}
      (above.length + inserted.length +
        stale (modeBehind .code (above ++ inserted)) (modeBehind .code (above ++ gone)) below) := by
  obtain ⟨hstop, hleast⟩ := isLeast_stale (modeBehind .code (above ++ inserted))
    (modeBehind .code (above ++ gone)) below
  have hbound := stale_le_length (modeBehind .code (above ++ inserted))
    (modeBehind .code (above ++ gone)) below
  constructor
  · exact ⟨Nat.le_add_right _ _, (meetsOld_iff above gone inserted below hbound).mpr hstop⟩
  · rintro row ⟨hbehind, hmeets⟩
    obtain ⟨k, rfl⟩ := Nat.exists_eq_add_of_le hbehind
    apply Nat.add_le_add_left
    by_cases hk : k ≤ below.length
    · exact hleast ((meetsOld_iff above gone inserted below hk).mp hmeets)
    · omega

end

theorem exists_three_parts (rows : List Text) {first removed : Nat}
    (h : first + removed ≤ rows.length) :
    ∃ above gone below, rows = above ++ (gone ++ below) ∧ above.length = first ∧
      gone.length = removed := by
  refine ⟨rows.take first, (rows.drop first).take removed, rows.drop (first + removed), ?_, ?_, ?_⟩
  · rw [← List.drop_drop, List.take_append_drop, List.take_append_drop]
  · rw [List.length_take]
    omega
  · rw [List.length_take, List.length_drop]
    omega

/-- A splice lexes the rows from the first one on up to the least row behind the new lines that
begins as the row it comes from began before, or else all rows to the end. The lexed lines of all
other rows are the old ones. -/
theorem splice_repaints_exactly (rows inserted : List Text) {first removed : Nat}
    (h : first + removed ≤ rows.length) :
    ∃ cache stop, (build rows).splice (rows.take first ++ inserted ++ rows.drop (first + removed))
        first removed inserted.length = .ok (cache, ⟨first, stop⟩) ∧
      IsLeast {row | first + inserted.length ≤ row ∧
        MeetsOld rows (rows.take first ++ inserted ++ rows.drop (first + removed)) removed
          inserted.length row} stop ∧
      (∀ row, row < first → cache.entries[row]? = (build rows).entries[row]?) ∧
      ∀ row, stop ≤ row →
        cache.entries[row]? = (build rows).entries[row - inserted.length + removed]? := by
  obtain ⟨above, gone, below, rfl, rfl, rfl⟩ := exists_three_parts rows h
  have hlines : (above ++ (gone ++ below)).take above.length ++ inserted ++
      (above ++ (gone ++ below)).drop (above.length + gone.length) =
        above ++ (inserted ++ below) := by
    rw [List.take_left, List.drop_length_add_append, List.drop_left, List.append_assoc]
  rw [hlines]
  refine ⟨_, _, splice_build above gone inserted below, isLeast_repaint above gone inserted below,
    ?_, ?_⟩
  · intro row hrow
    have hkept : row < (lexLines .code above).length := by rwa [length_lexLines]
    simp only [build, lexLines_append]
    rw [List.getElem?_append_left hkept, List.getElem?_append_left hkept]
  · intro row hrow
    obtain ⟨k, rfl⟩ := Nat.exists_eq_add_of_le hrow
    have hold : above.length + inserted.length + stale (modeBehind .code (above ++ inserted))
        (modeBehind .code (above ++ gone)) below + k - inserted.length + gone.length =
          above.length + gone.length + (stale (modeBehind .code (above ++ inserted))
            (modeBehind .code (above ++ gone)) below + k) := by omega
    rw [hold, Nat.add_assoc (above.length + inserted.length), getElem?_entries_build,
      getElem?_entries_build, ← List.getElem?_drop, ← List.getElem?_drop, drop_stale_lexLines]

/-- A line that opened a comment gives way to two that do not: the rows below leave the comment, and
from the row behind its old end on nothing changes. -/
theorem splice_repaints_exactly_comment :
    let rows : List Text := [['#', '['], ['a'], ['b', ']', '#'], ['c'], ['d']]
    let lines : List Text := [['#', ' ', '['], ['x'], ['a'], ['b', ']', '#'], ['c'], ['d']]
    0 + 1 ≤ rows.length ∧ ∃ cache, (build rows).splice lines 0 1 2 = .ok (cache, ⟨0, 4⟩) ∧
      IsLeast {row | 0 + 2 ≤ row ∧ MeetsOld rows lines 1 2 row} 4 ∧
      ∀ row, 4 ≤ row → cache.entries[row]? = (build rows).entries[row - 2 + 1]? := by
  intro rows lines
  have hfits : 0 + 1 ≤ rows.length := by decide
  obtain ⟨cache, stop, hsplice, hleast, -, hkept⟩ :=
    splice_repaints_exactly rows [['#', ' ', '['], ['x']] hfits
  have hrange : ((build rows).splice lines 0 1 2).map (·.2) = .ok ⟨0, 4⟩ := by decide +kernel
  have hstop : stop = 4 := by
    have hsame : ((build rows).splice lines 0 1 2).map (·.2) = .ok ⟨0, stop⟩ :=
      congrArg (Except.map (·.2)) hsplice
    rw [hrange] at hsame
    exact (congrArg RowRange.stop (Except.ok.inj hsame)).symm
  subst hstop
  exact ⟨hfits, cache, hsplice, hleast, hkept⟩

end LexCache
end EditorAssist
