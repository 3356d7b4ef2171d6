import EditorAssist.Proofs.Checked.Lexing
import EditorAssist.Proofs.Relexing

/-! The cache on a machine with 64-bit words. Cached lines are exchanged for blank ones, which are
then written row by row. Every row that is read or written is there, as the cache has one entry for
each line. -/
namespace EditorAssist
namespace LexCache

def buildChecked (rows : List Text) : Except Fault LexCache := do
  return ⟨← lexLinesChecked .code rows⟩

theorem buildChecked_eq {rows : List Text} (h : ∀ line ∈ rows, line.length < wordLimit) :
    buildChecked rows = .ok (build rows) := by
  rw [buildChecked, lexLinesChecked_eq .code h]
  rfl

/-- Lex the rows up to `stop` again. The result also tells the mode in which the last one ends. -/
def fillChecked (rows : List Text) (stop : Nat) (entries : List LexedLine) (mode : Mode)
    (row : Nat) : Except Fault (List LexedLine × Mode) :=
  if row < stop then do
    let line ← entryChecked rows row
    let fresh ← lexLineChecked mode line
    let _ ← entryChecked entries row
    let _ ← boundedAdd row 1
    fillChecked rows stop (entries.set row fresh) fresh.endMode (row + 1)
  else return (entries, mode)
termination_by stop - row

/-- Lex rows again until one begins in the mode in which it began before. The result also tells the
row where that is. -/
def settleChecked (rows : List Text) (entries : List LexedLine) (mode before : Mode) (row : Nat) :
    Except Fault (List LexedLine × Nat) :=
  if row < entries.length ∧ mode ≠ before then do
    let old ← entryChecked entries row
    let line ← entryChecked rows row
    let fresh ← lexLineChecked mode line
    let _ ← boundedAdd row 1
    settleChecked rows (entries.set row fresh) fresh.endMode old.endMode (row + 1)
  else return (entries, row)
termination_by entries.length - row
decreasing_by
  rw [List.length_set]
  omega

/-- A cached line before it is lexed. -/
def blankEntry : LexedLine :=
  ⟨[], .code⟩

def modeAfterChecked (cache : LexCache) (first : Nat) : Nat → Except Fault Mode
  | 0 => return cache.startMode first
  | last + 1 => do
    let row ← boundedAdd first last
    let entry ← entryChecked cache.entries row
    return entry.endMode

/-- Replace `removed` rows from `first` on by `inserted` rows, where `rows` are all lines of the text
after the change. -/
def spliceChecked (cache : LexCache) (rows : List Text) (first removed inserted : Nat) :
    Except Fault (LexCache × RowRange) := do
  let mode := cache.startMode first
  let before ← cache.modeAfterChecked first removed
  let bound ← boundedAdd first removed
  let entries ← exchangeChecked cache.entries first bound (List.replicate inserted blankEntry)
  let stop ← boundedAdd first inserted
  let (entries, mode) ← fillChecked rows stop entries mode first
  let (entries, row) ← settleChecked rows entries mode before stop
  let _ ← exactSub row first
  return (⟨entries⟩, ⟨first, row⟩)

theorem modeAfterChecked_eq {cache : LexCache} {first removed : Nat}
    (h : first + removed < wordLimit) :
    cache.modeAfterChecked first removed = cache.modeAfter first removed := by
  cases removed with
  | zero => rfl
  | succ last =>
    have hrow : first + last < wordLimit := Nat.lt_of_succ_lt h
    rw [modeAfterChecked, boundedAdd_eq hrow, ok_bind, entryChecked, modeAfter]
    cases cache.entries[first + last]? <;> rfl

section
variable {above : List Text} {kept : List LexedLine} {row : Nat}

/-- Filling writes the lexed lines over as many entries. -/
theorem fillChecked_eq {inserted : List Text} {blank : List LexedLine} (rest : List Text)
    (others : List LexedLine) (mode : Mode) (habove : above.length = row)
    (hkept : kept.length = row) (hblank : blank.length = inserted.length)
    (hlines : ∀ line ∈ inserted, line.length < wordLimit)
    (hrows : row + inserted.length < wordLimit) :
    fillChecked (above ++ (inserted ++ rest)) (row + inserted.length)
        (kept ++ (blank ++ others)) mode row =
      .ok (kept ++ (lexLines mode inserted ++ others), modeBehind mode inserted) := by
  induction inserted generalizing above kept blank mode row with
  | nil =>
    obtain rfl : blank = [] := List.eq_nil_of_length_eq_zero hblank
    rw [fillChecked, List.length_nil, Nat.add_zero, if_neg (Nat.lt_irrefl row)]
    rfl
  | cons line lines ih =>
    obtain ⟨old, olds, rfl⟩ := List.exists_cons_of_length_eq_add_one hblank
    rw [List.forall_mem_cons] at hlines
    rw [List.length_cons] at hrows hblank
    have hline : (above ++ (line :: lines ++ rest))[row]? = some line :=
      getElem?_append_length habove line _
    have hold : (kept ++ (old :: olds ++ others))[row]? = some old :=
      getElem?_append_length hkept old _
    have hmore : row < row + (line :: lines).length :=
      Nat.lt_add_of_pos_right (Nat.succ_pos _)
    have hnext : row + 1 < wordLimit := by omega
    rw [fillChecked, if_pos hmore, entryChecked_of_getElem? hline, ok_bind,
      lexLineChecked_eq mode hlines.1, ok_bind, entryChecked_of_getElem? hold, ok_bind,
      boundedAdd_eq hnext, ok_bind, List.cons_append, List.cons_append,
      set_append_length hkept]
    have habove : (above ++ [line]).length = row + 1 := by simp [habove]
    have hkept : (kept ++ [lexLine mode line]).length = row + 1 := by simp [hkept]
    have hblank : olds.length = lines.length := by simpa using hblank
    have hrest := ih (lexLine mode line).endMode habove hkept hblank hlines.2 (by omega)
    have hcount : row + (line :: lines).length = row + 1 + lines.length := by
      rw [List.length_cons]
      omega
    rw [hcount, lexLines, modeBehind_cons]
    simpa using hrest

/-- Settling brings the rows below in line, and stops where the modes agree. -/
theorem settleChecked_eq {below : List Text} (mode before : Mode) (habove : above.length = row)
    (hkept : kept.length = row) (hlines : ∀ line ∈ below, line.length < wordLimit)
    (hrows : row + below.length < wordLimit) :
    settleChecked (above ++ below) (kept ++ lexLines before below) mode before row =
      .ok (kept ++ lexLines mode below, row + stale mode before below) := by
  induction below generalizing above kept mode before row with
  | nil =>
    have hend : ¬ (row < (kept ++ lexLines before []).length ∧ mode ≠ before) := by
      simp [lexLines, hkept]
    rw [settleChecked, if_neg hend]
    rfl
  | cons line lines ih =>
    rw [List.forall_mem_cons] at hlines
    rw [List.length_cons] at hrows
    by_cases hmode : mode = before
    · subst hmode
      rw [settleChecked, if_neg (fun h => h.2 rfl), stale, if_pos rfl]
      rfl
    · have hmore : row < (kept ++ lexLines before (line :: lines)).length ∧ mode ≠ before := by
        refine ⟨?_, hmode⟩
        rw [List.length_append, length_lexLines, hkept, List.length_cons]
        omega
      have hline : (above ++ line :: lines)[row]? = some line :=
        getElem?_append_length habove line _
      have hold : (kept ++ lexLines before (line :: lines))[row]? =
          some (lexLine before line) :=
        getElem?_append_length hkept _ _
      have hnext : row + 1 < wordLimit := by omega
      rw [settleChecked, if_pos hmore, entryChecked_of_getElem? hold, ok_bind,
        entryChecked_of_getElem? hline, ok_bind, lexLineChecked_eq mode hlines.1, ok_bind,
        boundedAdd_eq hnext, ok_bind, lexLines, set_append_length hkept]
      have habove : (above ++ [line]).length = row + 1 := by simp [habove]
      have hkept : (kept ++ [lexLine mode line]).length = row + 1 := by simp [hkept]
      have hrest := ih (lexLine mode line).endMode (lexLine before line).endMode habove hkept
        hlines.2 (by omega)
      have hcount : row + stale mode before (line :: lines) =
          row + 1 + stale (lexLine mode line).endMode (lexLine before line).endMode lines := by
        rw [stale, if_neg hmode]
        omega
      rw [hcount, lexLines]
      simpa using hrest

end

/-- Exchanging cached lines leaves those of the rows above and below. -/
theorem exchangeChecked_build (above removed below : List Text) (fresh : List LexedLine) :
    exchangeChecked (build (above ++ (removed ++ below))).entries above.length
        (above.length + removed.length) fresh =
      .ok (lexLines .code above ++
        (fresh ++ lexLines (modeBehind .code (above ++ removed)) below)) := by
  have hkept : (lexLines .code above).length = above.length := length_lexLines .code above
  have hentries : (build (above ++ (removed ++ below))).entries =
      lexLines .code above ++ (lexLines (modeBehind .code above) removed ++
        lexLines (modeBehind .code (above ++ removed)) below) := by
    rw [build, lexLines_append, lexLines_append, modeBehind_append]
  have hfits : above.length + removed.length ≤
      (build (above ++ (removed ++ below))).entries.length := by
    rw [build, length_lexLines, List.length_append, List.length_append]
    omega
  have htake : (build (above ++ (removed ++ below))).entries.take above.length =
      lexLines .code above := by
    rw [hentries, List.take_left' hkept]
  have hdrop : (build (above ++ (removed ++ below))).entries.drop
      (above.length + removed.length) =
        lexLines (modeBehind .code (above ++ removed)) below := by
    rw [hentries, ← List.append_assoc, List.drop_left' (by simp)]
  rw [exchangeChecked_eq (Nat.le_add_right _ _) hfits, htake, hdrop, List.append_assoc]

/-- Replacing lines of a cache that is up to date does not fault. -/
theorem spliceChecked_build {above removed inserted below : List Text}
    (hlines : ∀ line ∈ inserted ++ below, line.length < wordLimit)
    (hbefore : (above ++ (removed ++ below)).length < wordLimit)
    (hafter : (above ++ (inserted ++ below)).length < wordLimit) :
    (build (above ++ (removed ++ below))).spliceChecked (above ++ (inserted ++ below))
        above.length removed.length inserted.length =
      (build (above ++ (removed ++ below))).splice (above ++ (inserted ++ below)) above.length
        removed.length inserted.length := by
  simp only [List.length_append] at hbefore hafter
  have hkept : (lexLines .code above).length = above.length := length_lexLines .code above
  have hgone : above.length + removed.length < wordLimit := by omega
  have hexchange := exchangeChecked_build above removed below
    (List.replicate inserted.length blankEntry)
  have hblank : (List.replicate inserted.length blankEntry).length = inserted.length :=
    List.length_replicate
  have hfill := fillChecked_eq below (lexLines (modeBehind .code (above ++ removed)) below)
    (modeBehind .code above) rfl hkept hblank
    (fun line hline => hlines line (List.mem_append_left below hline)) (by omega)
  have hupper : (above ++ inserted).length = above.length + inserted.length := List.length_append
  have hfilled : (lexLines .code above ++ lexLines (modeBehind .code above) inserted).length =
      above.length + inserted.length := by
    rw [List.length_append, length_lexLines, length_lexLines]
  have hsettle := settleChecked_eq (modeBehind .code (above ++ inserted))
    (modeBehind .code (above ++ removed)) hupper hfilled
    (fun line hline => hlines line (List.mem_append_right inserted hline)) (by omega)
  rw [List.append_assoc, List.append_assoc] at hsettle
  have hreached : modeBehind (modeBehind .code above) inserted =
      modeBehind .code (above ++ inserted) := (modeBehind_append _ _ _).symm
  have hback : above.length ≤ above.length + inserted.length +
      stale (modeBehind .code (above ++ inserted)) (modeBehind .code (above ++ removed))
        below := by
    omega
  simp only [spliceChecked, startMode_build, modeAfterChecked_eq hgone, modeAfter_build,
    boundedAdd_eq hgone, hexchange, boundedAdd_eq (show above.length + inserted.length < wordLimit by
      omega), hfill, hreached, hsettle, exactSub_eq hback, ok_bind]
  rw [splice_build, build, lexLines_append, lexLines_append, hreached, List.append_assoc]
  rfl

end LexCache
end EditorAssist
