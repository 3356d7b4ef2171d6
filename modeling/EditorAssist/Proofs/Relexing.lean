import EditorAssist.LexCache
import Mathlib.Data.List.Basic

/-! Lexing again after lines were replaced. The cached lines behind the replacement stand as soon as
one of them begins in the mode in which it began before. -/
namespace EditorAssist

def modeBehind (mode : Mode) (rows : List Text) : Mode :=
  rows.foldl (fun mode line => (lexLine mode line).endMode) mode

@[simp] theorem modeBehind_nil (mode : Mode) : modeBehind mode [] = mode := rfl

@[simp] theorem modeBehind_cons (mode : Mode) (line : Text) (rows : List Text) :
    modeBehind mode (line :: rows) = modeBehind (lexLine mode line).endMode rows := rfl

theorem modeBehind_append (mode : Mode) (above below : List Text) :
    modeBehind mode (above ++ below) = modeBehind (modeBehind mode above) below :=
  List.foldl_append

@[simp] theorem length_lexLines (mode : Mode) (rows : List Text) :
    (lexLines mode rows).length = rows.length := by
  induction rows generalizing mode with
  | nil => rfl
  | cons line rest ih => simp [lexLines, ih]

theorem lexLines_append (mode : Mode) (above below : List Text) :
    lexLines mode (above ++ below) =
      lexLines mode above ++ lexLines (modeBehind mode above) below := by
  induction above generalizing mode with
  | nil => rfl
  | cons line rest ih => simp [lexLines, ih]

theorem getElem?_lexLines (mode : Mode) (above : List Text) (line : Text) (below : List Text) :
    (lexLines mode (above ++ line :: below))[above.length]? =
      some (lexLine (modeBehind mode above) line) := by
  rw [lexLines_append, List.getElem?_append_right (by simp)]
  simp [lexLines]

theorem getElem?_lexLines_eq_map (mode : Mode) (rows : List Text) (k : Nat) :
    (lexLines mode rows)[k]? = rows[k]?.map (lexLine (modeBehind mode (rows.take k))) := by
  induction rows generalizing mode k with
  | nil => rfl
  | cons line rest ih =>
    cases k with
    | zero => rfl
    | succ k =>
      rw [lexLines, List.getElem?_cons_succ, List.getElem?_cons_succ, ih]
      rfl

theorem elim_getLast?_lexLines (mode : Mode) (rows : List Text) :
    ((lexLines mode rows).getLast?).elim mode (·.endMode) = modeBehind mode rows := by
  rcases List.eq_nil_or_concat' rows with rfl | ⟨above, line, rfl⟩
  · rfl
  · simp [lexLines_append, modeBehind_append, lexLines]

namespace LexCache

theorem startMode_of_getElem? {cache : LexCache} {row : Nat} {entry : LexedLine}
    (h : cache.entries[row]? = some entry) : cache.startMode (row + 1) = entry.endMode := by
  simp [startMode, h]

theorem modeAfter_of_getElem? {cache : LexCache} {first count : Nat} {entry : LexedLine}
    (h : cache.entries[first + count]? = some entry) :
    cache.modeAfter first (count + 1) = .ok entry.endMode := by
  simp [modeAfter, h]

theorem startMode_build (above below : List Text) :
    (build (above ++ below)).startMode above.length = modeBehind .code above := by
  rcases List.eq_nil_or_concat' above with rfl | ⟨rest, line, rfl⟩
  · rfl
  · have hget := getElem?_lexLines .code rest line below
    rw [List.append_assoc, List.length_append, modeBehind_append]
    exact startMode_of_getElem? hget

theorem modeAfter_build (above removed below : List Text) :
    (build (above ++ (removed ++ below))).modeAfter above.length removed.length =
      .ok (modeBehind .code (above ++ removed)) := by
  rcases List.eq_nil_or_concat' removed with rfl | ⟨rest, line, rfl⟩
  · simp [modeAfter, startMode_build]
  · have hget := getElem?_lexLines .code (above ++ rest) line below
    rw [List.append_assoc, List.length_append] at hget
    have hmode : modeBehind .code (above ++ (rest ++ [line])) =
        (lexLine (modeBehind .code (above ++ rest)) line).endMode := by
      rw [← List.append_assoc, modeBehind_append]
      rfl
    rw [hmode, List.append_assoc, List.length_append]
    exact modeAfter_of_getElem? hget

/-- How many lines must be lexed again when the first begins in `mode` and began in `before`. -/
def stale (mode before : Mode) : List Text → Nat
  | [] => 0
  | line :: rest =>
    if mode = before then 0
    else stale (lexLine mode line).endMode (lexLine before line).endMode rest + 1

theorem settle_lexLines (mode before : Mode) (rows : List Text) :
    settle mode before (lexLines before rows) rows =
      .ok (lexLines mode rows, stale mode before rows) := by
  induction rows generalizing mode before with
  | nil => rfl
  | cons line rest ih =>
    by_cases h : mode = before
    · simp [lexLines, settle, stale, h]
    · simp only [lexLines, settle, stale, if_neg h, ih]
      rfl

/-- Replacing lines of a cache that is up to date gives the cache of the new lines. -/
theorem splice_build (above removed inserted below : List Text) :
    (build (above ++ (removed ++ below))).splice (above ++ (inserted ++ below)) above.length
        removed.length inserted.length =
      .ok (build (above ++ (inserted ++ below)),
        ⟨above.length, above.length + inserted.length +
          stale (modeBehind .code (above ++ inserted)) (modeBehind .code (above ++ removed))
            below⟩) := by
  have hfits : ¬ (build (above ++ (removed ++ below))).entries.length <
      above.length + removed.length := by
    simp [build]
  have hfresh : lexFirst (modeBehind .code above) inserted.length
      ((above ++ (inserted ++ below)).drop above.length) =
        .ok (lexLines (modeBehind .code above) inserted) := by
    simp [lexFirst]
  have hkept : (build (above ++ (removed ++ below))).entries.take above.length =
      lexLines .code above := by
    rw [build, lexLines_append, List.take_left' (by simp)]
  have hrest : (build (above ++ (removed ++ below))).entries.drop
      (above.length + removed.length) =
        lexLines (modeBehind .code (above ++ removed)) below := by
    rw [build, ← List.append_assoc, lexLines_append, List.drop_left' (by simp)]
  have hlines : (above ++ (inserted ++ below)).drop (above.length + inserted.length) = below := by
    rw [← List.append_assoc, List.drop_left' (by simp)]
  have hreached : modeBehind (modeBehind .code above) inserted =
      modeBehind .code (above ++ inserted) := (modeBehind_append _ _ _).symm
  simp only [splice, startMode_build, modeAfter_build, hfresh, hkept, hrest, hlines, hreached,
    if_neg hfits, elim_getLast?_lexLines, settle_lexLines, bind, Except.bind, pure, Except.pure]
  rw [build, lexLines_append, lexLines_append, hreached, List.append_assoc]

/-- Splicing a cache that is up to date gives the cache built afresh from the lines after the
change, whichever rows go and whatever lines come in their place. -/
theorem splice_eq_build (rows inserted : List Text) {first removed : Nat}
    (h : first + removed ≤ rows.length) :
    ∃ repaint, (build rows).splice (rows.take first ++ inserted ++ rows.drop (first + removed))
        first removed inserted.length =
      .ok (build (rows.take first ++ inserted ++ rows.drop (first + removed)), repaint) := by
  have habove : (rows.take first).length = first := by
    rw [List.length_take]
    omega
  have hgone : ((rows.drop first).take removed).length = removed := by
    rw [List.length_take, List.length_drop]
    omega
  have hrows : rows.take first ++ ((rows.drop first).take removed ++
      rows.drop (first + removed)) = rows := by
    rw [← List.drop_drop, List.take_append_drop, List.take_append_drop]
  have hsplice := splice_build (rows.take first) ((rows.drop first).take removed) inserted
    (rows.drop (first + removed))
  rw [habove, hgone, hrows] at hsplice
  rw [List.append_assoc]
  exact ⟨_, hsplice⟩

/-- The row that opens a comment is taken out, and the rows below leave the comment. -/
theorem splice_eq_build_comment :
    let rows : List Text := [['a'], ['#', '['], ['{'], [']', '#']]
    1 + 1 ≤ rows.length ∧ ∃ repaint,
      (build rows).splice [['a'], ['{'], [']', '#']] 1 1 0 =
        .ok (build [['a'], ['{'], [']', '#']], repaint) := by
  intro rows
  have hfits : 1 + 1 ≤ rows.length := by decide
  exact ⟨hfits, splice_eq_build rows [] hfits⟩

end LexCache
end EditorAssist
