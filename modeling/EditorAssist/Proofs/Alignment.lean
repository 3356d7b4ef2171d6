import EditorAssist.Proofs.Histories
import EditorAssist.Proofs.Reindenting

/-! Lining up closing braces row after row. No outdent changes which brace belongs to which, so the
rows come to rest with one indentation only, and one pass from top to bottom gets there. -/
namespace EditorAssist
namespace Document

def indentAt (d : Document) (row : Nat) : Text :=
  leadingIndent ((d.line? row).getD [])

/-- What stands behind the indentation of a row. -/
def bodyAt (d : Document) (row : Nat) : Text :=
  ((d.line? row).getD []).drop (d.indentAt row).length

/-- The row above that a row which begins with a closing brace is lined up with: the row of the
opening brace. -/
def openingRow? (d : Document) (row : Nat) : Option Nat :=
  if (d.bodyAt row).head? = some '}' then
    ((d.partner? ⟨row, (d.indentAt row).length⟩).map (·.row)).filter (· < row)
  else none

theorem lt_of_openingRow? {d : Document} {row above : Nat} (h : d.openingRow? row = some above) :
    above < row := by
  unfold openingRow? at h
  split_ifs at h
  simpa using (Option.filter_eq_some_iff.mp h).2

/-- The row reached from a row by going up from closing to opening braces. -/
def rootRow (d : Document) (row : Nat) : Nat :=
  match _h : d.openingRow? row with
  | some above => d.rootRow above
  | none => row
termination_by row
decreasing_by exact lt_of_openingRow? _h

/-- The text in which each row has the indentation of the row reached by going up. -/
def linedUp (d : Document) : Text :=
  Text.unlines ((List.range d.lineCount).map fun row => d.indentAt (d.rootRow row) ++ d.bodyAt row)

theorem indentAt_append_bodyAt (d : Document) (row : Nat) :
    d.indentAt row ++ d.bodyAt row = (d.line? row).getD [] :=
  leadingIndent_append_drop _

theorem text_eq_unlines (d : Document) :
    d.text = Text.unlines ((List.range d.lineCount).map fun row =>
      d.indentAt row ++ d.bodyAt row) := by
  rw [text]
  congr 1
  refine List.ext_getElem (by simp [lineCount]) fun row hrow _ => ?_
  simp [indentAt_append_bodyAt, line?, hrow]

theorem Current.partner?_eq {d : Document} (hd : d.Current) (p : Position) :
    d.partner? p = (BracketTable.build (lexLines .code d.lines)).partner? p := by
  rw [partner?, hd.bracketTable_eq, hd.cache]
  rfl

/-- The partner of a brace that a row begins with stands on no later row. -/
theorem row_le_of_partner? {d : Document} (hd : d.Current) {row : Nat}
    (hbody : (d.bodyAt row).head? = some '}') {p : Position}
    (hp : d.partner? ⟨row, (d.indentAt row).length⟩ = some p) : p.row ≤ row := by
  rw [hd.partner?_eq] at hp
  refine BracketTable.row_le_of_partner? (fun c hc => ?_) hp
  obtain ⟨own, hown, hchar⟩ := Bracket.getElem?_of_mem_glyphsFrom hc
  have hline : d.line? row = some own := hown
  rw [bodyAt, hline, Option.getD_some, List.head?_drop] at hbody
  exact Option.some.inj (hchar.symm.trans hbody)

theorem openingRow?_eq_some_iff {d : Document} {row above : Nat} :
    d.openingRow? row = some above ↔ (d.bodyAt row).head? = some '}' ∧
      ∃ p, d.partner? ⟨row, (d.indentAt row).length⟩ = some p ∧ p.row = above ∧ above < row := by
  unfold openingRow?
  split_ifs with hbody
  · simp only [Option.filter_eq_some_iff, Option.map_eq_some_iff, decide_eq_true_eq, hbody,
      true_and]
    constructor
    · rintro ⟨⟨p, hp, hrow⟩, hlt⟩
      exact ⟨p, hp, hrow, hlt⟩
    · rintro ⟨p, hp, hrow, hlt⟩
      exact ⟨⟨p, hp, hrow⟩, hlt⟩
  · simp [hbody]

theorem line?_of_head?_bodyAt {d : Document} {row : Nat} (h : (d.bodyAt row).head? = some '}') :
    ∃ line, d.line? row = some line := by
  cases hline : d.line? row with
  | some line => exact ⟨line, rfl⟩
  | none => simp [bodyAt, hline] at h

/-- What is planned for a row: it gets the indentation of the row of its opening brace, unless it
has it. -/
theorem outdent?_eq_some_iff_openingRow? {d : Document} (hd : d.Current) {row : Nat} {e : RowEdit} :
    d.outdent? row = some e ↔ ∃ above, d.openingRow? row = some above ∧
      d.indentAt above ≠ d.indentAt row ∧
      e = ⟨row, 0, (d.indentAt row).length, d.indentAt above⟩ := by
  have hat : ∀ {row line}, d.line? row = some line → d.indentAt row = leadingIndent line ∧
      d.bodyAt row = line.drop (leadingIndent line).length := by
    intro row line hline
    simp [indentAt, bodyAt, hline]
  rw [outdent?_eq_some_iff]
  constructor
  · rintro ⟨line, p, target, hline, hbrace, hp, hrow, htarget, hne, rfl⟩
    obtain ⟨hindent, hbody⟩ := hat hline
    rw [← hbody] at hbrace
    rw [← hindent] at hp hne ⊢
    rw [← (hat htarget).1] at hne ⊢
    have hlt := Nat.lt_of_le_of_ne (row_le_of_partner? hd hbrace hp) hrow
    exact ⟨p.row, openingRow?_eq_some_iff.mpr ⟨hbrace, p, hp, rfl, hlt⟩, hne, rfl⟩
  · rintro ⟨above, hopening, hne, rfl⟩
    obtain ⟨hbrace, p, hp, rfl, hlt⟩ := openingRow?_eq_some_iff.mp hopening
    obtain ⟨line, hline⟩ := line?_of_head?_bodyAt hbrace
    have hlength : row < d.lines.length := (List.getElem?_eq_some_iff.mp hline).1
    obtain ⟨target, htarget⟩ : ∃ target, d.line? p.row = some target :=
      ⟨_, List.getElem?_eq_getElem (Nat.lt_trans hlt hlength)⟩
    obtain ⟨hindent, hbody⟩ := hat hline
    rw [hbody] at hbrace
    rw [hindent] at hp hne ⊢
    rw [(hat htarget).1] at hne ⊢
    exact ⟨line, p, target, hline, hbrace, hp, Nat.ne_of_lt hlt, htarget, hne, rfl⟩

/-- Where no edit is planned for a row, it has the indentation of the row of its opening brace. -/
theorem outdent?_eq_none_iff {d : Document} (hd : d.Current) {row : Nat} :
    d.outdent? row = none ↔
      ∀ above, d.openingRow? row = some above → d.indentAt above = d.indentAt row := by
  rw [Option.eq_none_iff_forall_ne_some]
  constructor
  · intro h above hopening
    by_contra hne
    exact h _ ((outdent?_eq_some_iff_openingRow? hd).mpr ⟨above, hopening, hne, rfl⟩)
  · intro h e he
    obtain ⟨above, hopening, hne, -⟩ := (outdent?_eq_some_iff_openingRow? hd).mp he
    exact hne (h above hopening)

/-- Two documents differ in the indentation of rows only, and their braces belong together in the
same way. -/
structure SameFrame (d next : Document) : Prop where
  lineCount : next.lineCount = d.lineCount
  body : ∀ row, next.bodyAt row = d.bodyAt row
  opening : ∀ row, next.openingRow? row = d.openingRow? row

theorem SameFrame.refl (d : Document) : d.SameFrame d :=
  ⟨rfl, fun _ => rfl, fun _ => rfl⟩

theorem SameFrame.trans {a b c : Document} (h : a.SameFrame b) (h' : b.SameFrame c) :
    a.SameFrame c :=
  ⟨h'.lineCount.trans h.lineCount, fun row => (h'.body row).trans (h.body row),
    fun row => (h'.opening row).trans (h.opening row)⟩

theorem leadingIndent_brace {indent : Text} (h : ∀ c ∈ indent, isIndent c = true) (rest : Text) :
    leadingIndent (indent ++ '}' :: rest) = indent :=
  takeWhile_append_eq h (beginsOutside_cons rfl)

theorem indentAt_of_line? {d : Document} {row : Nat} {indent rest : Text}
    (hindent : ∀ c ∈ indent, isIndent c = true)
    (hline : d.line? row = some (indent ++ '}' :: rest)) :
    d.indentAt row = indent ∧ d.bodyAt row = '}' :: rest := by
  simp [indentAt, bodyAt, hline, leadingIndent_brace hindent]

section
variable {d next : Document} {above below : List Text} {old new rest : Text}

theorem line?_length_of_lines (hlines : d.lines = above ++ (old ++ '}' :: rest) :: below) :
    d.line? above.length = some (old ++ '}' :: rest) := by
  simp [line?, hlines]

variable (hd : d.Current) (hnext : next.Current) (hold : ∀ c ∈ old, isIndent c = true)
  (hnew : ∀ c ∈ new, isIndent c = true)
  (hlines : d.lines = above ++ (old ++ '}' :: rest) :: below)
  (hnextlines : next.lines = above ++ (new ++ '}' :: rest) :: below)

include hlines hnextlines in
theorem line?_of_lines {row : Nat} (hrow : row ≠ above.length) : next.line? row = d.line? row := by
  have hset : next.lines = d.lines.set above.length (new ++ '}' :: rest) := by
    rw [hnextlines, hlines]
    simp
  rw [line?, hset, List.getElem?_set_ne hrow.symm]
  rfl

include hd hnext hold hnew hlines hnextlines

/-- A row that begins with a closing brace may be indented anew. -/
theorem sameFrame_of_lines : d.SameFrame next := by
  have hother : ∀ row, row ≠ above.length → next.line? row = d.line? row :=
    fun row => line?_of_lines hlines hnextlines
  have hown := indentAt_of_line? hold (line?_length_of_lines hlines)
  have hownnext := indentAt_of_line? hnew (line?_length_of_lines hnextlines)
  have hbody : ∀ row, next.bodyAt row = d.bodyAt row := by
    intro row
    by_cases hrow : row = above.length
    · rw [hrow, hown.2, hownnext.2]
    · simp [bodyAt, indentAt, hother row hrow]
  -- the brace of the row slides to where it is asked for next time
  have hplace : ∀ row, (⟨row, (next.indentAt row).length⟩ : Position) =
      (⟨row, (d.indentAt row).length⟩ : Position).slide above.length old.length new.length := by
    intro row
    by_cases hrow : row = above.length
    · subst hrow
      simp [Position.slide, hown.1, hownnext.1]
    · rw [Position.slide_eq_self _ _ hrow, indentAt, hother row hrow]
      rfl
  have hpartner : ∀ row, (next.partner? ⟨row, (next.indentAt row).length⟩).map (·.row) =
      (d.partner? ⟨row, (d.indentAt row).length⟩).map (·.row) := by
    intro row
    have hbehind : row = above.length → old.length ≤ (d.indentAt row).length := by
      rintro rfl
      rw [hown.1]
    rw [hplace, hnext.partner?_eq, hd.partner?_eq, hlines, hnextlines,
      partner?_reindent hold hnew hbehind, Option.map_map]
    congr 1
    exact funext fun p => Position.row_slide _ _
  constructor
  case lineCount => simp [lineCount, hlines, hnextlines]
  case body => exact hbody
  case opening =>
    intro row
    rw [openingRow?, openingRow?, hbody, hpartner]

end

/-- The indentations of rows after one row got that of the row of its opening brace. -/
def aligned (opening : Nat → Option Nat) (indent : Nat → Text) (row : Nat) : Nat → Text :=
  Function.update indent row (indent ((opening row).getD row))

theorem aligned_self (opening : Nat → Option Nat) (indent : Nat → Text) (row : Nat) :
    aligned opening indent row row = indent ((opening row).getD row) :=
  Function.update_self _ _ _

theorem aligned_of_ne {row r : Nat} (h : r ≠ row) (opening : Nat → Option Nat)
    (indent : Nat → Text) : aligned opening indent row r = indent r :=
  Function.update_of_ne h _ _

theorem lines_brace (rest : Text) : ∃ y below, ∀ indent, (∀ c ∈ indent, isIndent c = true) →
    Text.lines (indent ++ '}' :: rest) = (indent ++ '}' :: y) :: below := by
  obtain ⟨y, below, hrest⟩ := List.exists_cons_of_ne_nil (Text.lines_ne_nil rest)
  refine ⟨y, below, fun indent hindent => ?_⟩
  have hnewline : '\n' ∉ indent ++ ['}'] := by
    simpa using newline_not_mem_of_isIndent hindent
  simpa using Text.lines_append_of_newline_not_mem hnewline hrest

/-- Lining up a row gives it the indentation of the row of its opening brace and changes nothing
else. -/
theorem exists_outdent_aligned {d : Document} (hd : d.Current) (row : Nat) :
    ∃ next, d.outdent row = .ok (next, d.outdent? row) ∧ next.Current ∧ d.SameFrame next ∧
      next.indentAt = aligned d.openingRow? d.indentAt row := by
  cases h : d.outdent? row with
  | none =>
    have hsame := (outdent?_eq_none_iff hd).mp h
    refine ⟨d, by simp [outdent, h], hd, .refl d, funext fun r => ?_⟩
    by_cases hr : r = row
    · subst hr
      rw [aligned_self]
      cases hopening : d.openingRow? r with
      | none => rfl
      | some above => exact (hsame above hopening).symm
    · exact (aligned_of_ne hr _ _).symm
  | some e =>
    obtain ⟨target, hopening, -, he⟩ := (outdent?_eq_some_iff_openingRow? hd).mp h
    obtain ⟨line, hline⟩ := line?_of_head?_bodyAt (openingRow?_eq_some_iff.mp hopening).1
    obtain ⟨above, s, rfl, habove, htext⟩ :=
      exists_endedLines hd (List.getElem?_eq_some_iff.mp hline).1
    obtain ⟨next, old, new, rest, houtdent, hnext, hold, hnew, rfl, hplace, hnexttext⟩ :=
      exists_outdent_place hd habove htext h
    obtain ⟨y, below, hbrace⟩ := lines_brace rest
    have hlines : d.lines = above ++ (old ++ '}' :: y) :: below := by
      rw [← hd.lines, htext, Text.lines_endedLines_append habove, hbrace old hold]
    have hnextlines : next.lines = above ++ (new ++ '}' :: y) :: below := by
      rw [← hnext.lines, hnexttext, Text.lines_endedLines_append habove, hbrace new hnew]
    have hindent : new = d.indentAt target :=
      congrArg RowEdit.text (hplace.symm.trans he)
    refine ⟨next, houtdent, hnext, sameFrame_of_lines hd hnext hold hnew hlines hnextlines,
      funext fun r => ?_⟩
    by_cases hr : r = above.length
    · subst hr
      rw [aligned_self, hopening,
        (indentAt_of_line? hnew (line?_length_of_lines hnextlines)).1]
      exact hindent
    · rw [aligned_of_ne hr, indentAt, line?_of_lines hlines hnextlines hr]
      rfl

/-- Lining up rows one after another never faults. -/
theorem exists_outdentRows {d : Document} (hd : d.Current) (rows : List Nat) :
    ∃ last edits, d.outdentRows rows = .ok (last, edits) ∧ last.Current ∧ d.SameFrame last ∧
      last.indentAt = rows.foldl (aligned d.openingRow?) d.indentAt := by
  induction rows generalizing d with
  | nil => exact ⟨d, [], rfl, hd, .refl d, rfl⟩
  | cons row rest ih =>
    obtain ⟨next, houtdent, hnext, hframe, hindent⟩ := exists_outdent_aligned hd row
    obtain ⟨last, edits, hrun, hlast, hrest, hindents⟩ := ih hnext
    refine ⟨last, (d.outdent? row).toList ++ edits, ?_, hlast, hframe.trans hrest, ?_⟩
    · simp [outdentRows, houtdent, hrun, bind, Except.bind, pure, Except.pure]
    · rw [hindents, hindent, funext hframe.opening, List.foldl_cons]

/-- A document in which no row is lined up any more. -/
def Settled (d : Document) : Prop :=
  ∀ row, d.outdent? row = none

theorem indentAt_rootRow {d : Document} (hd : d.Current) (h : d.Settled) (row : Nat) :
    d.indentAt (d.rootRow row) = d.indentAt row := by
  fun_induction rootRow d row with
  | case1 row above hopening ih =>
    rw [ih]
    exact (outdent?_eq_none_iff hd).mp (h row) above hopening
  | case2 row hopening => rfl

theorem openingRow?_rootRow (d : Document) (row : Nat) : d.openingRow? (d.rootRow row) = none := by
  fun_induction rootRow d row with
  | case1 row above hopening ih => exact ih
  | case2 row hopening => exact hopening

theorem SameFrame.rootRow_eq {d next : Document} (h : d.SameFrame next) (row : Nat) :
    next.rootRow row = d.rootRow row := by
  fun_induction rootRow d row with
  | case1 row above hopening ih =>
    have hnext := (h.opening row).trans hopening
    rw [rootRow]
    split
    · next other hother =>
      cases Option.some.inj (hother.symm.trans hnext)
      exact ih
    · next hnone => cases hnone.symm.trans hnext
  | case2 row hopening =>
    have hnext := (h.opening row).trans hopening
    rw [rootRow]
    split
    · next other hother => cases hother.symm.trans hnext
    · rfl

/-- Rows that begin with no closing brace keep their indentation. -/
theorem foldl_aligned_of_eq_none {opening : Nat → Option Nat} {row : Nat}
    (h : opening row = none) (rows : List Nat) (indent : Nat → Text) :
    rows.foldl (aligned opening) indent row = indent row := by
  induction rows generalizing indent with
  | nil => rfl
  | cons r rest ih =>
    rw [List.foldl_cons, ih]
    by_cases hr : row = r
    · rw [← hr, aligned_self, h]
      rfl
    · exact aligned_of_ne hr opening indent

/-- Whatever rows were lined up, a document that has come to rest has the one text with each row
indented as the row reached by going up. -/
theorem text_eq_linedUp {d last : Document} (hlast : last.Current) (hframe : d.SameFrame last)
    {rows : List Nat} (hindent : last.indentAt = rows.foldl (aligned d.openingRow?) d.indentAt)
    (hsettled : last.Settled) : last.text = d.linedUp := by
  have hrow : ∀ row, last.indentAt row ++ last.bodyAt row =
      d.indentAt (d.rootRow row) ++ d.bodyAt row := by
    intro row
    rw [hframe.body, ← indentAt_rootRow hlast hsettled, hframe.rootRow_eq, hindent,
      foldl_aligned_of_eq_none (openingRow?_rootRow d row)]
  rw [text_eq_unlines, linedUp, hframe.lineCount]
  simp only [hrow]

/-- Lining up rows in any order and any number, until no row is lined up any more, ends with one
text. -/
theorem outdentRows_confluent (t : Text) (steps : List Step) :
    ∃ d, (ofText t).run steps = .ok d ∧ ∀ rows others, ∃ a b edits moreEdits,
      d.outdentRows rows = .ok (a, edits) ∧ d.outdentRows others = .ok (b, moreEdits) ∧
      (a.Settled → b.Settled → a.text = b.text ∧ a.text = d.linedUp) := by
  obtain ⟨d, hrun, hd⟩ := exists_run (current_ofText t) steps
  refine ⟨d, hrun, fun rows others => ?_⟩
  obtain ⟨a, edits, ha, hacurrent, haframe, haindent⟩ := exists_outdentRows hd rows
  obtain ⟨b, moreEdits, hb, hbcurrent, hbframe, hbindent⟩ := exists_outdentRows hd others
  refine ⟨a, b, edits, moreEdits, ha, hb, fun hasettled hbsettled => ?_⟩
  have hatext := text_eq_linedUp hacurrent haframe haindent hasettled
  have hbtext := text_eq_linedUp hbcurrent hbframe hbindent hbsettled
  exact ⟨hatext.trans hbtext.symm, hatext⟩

/-- Going from top to bottom, the rows already passed stay lined up. -/
theorem foldl_aligned_range {opening : Nat → Option Nat}
    (hopening : ∀ row above, opening row = some above → above < row) (indent : Nat → Text)
    (count : Nat) {row above : Nat} (hrow : row < count) (h : opening row = some above) :
    (List.range count).foldl (aligned opening) indent above =
      (List.range count).foldl (aligned opening) indent row := by
  induction count with
  | zero => cases hrow
  | succ count ih =>
    have habove := hopening row above h
    -- the opening brace stands above the last row, so its row is done with
    rw [List.range_succ, List.foldl_append, List.foldl_cons, List.foldl_nil,
      aligned_of_ne (Nat.ne_of_lt (Nat.lt_of_lt_of_le habove (Nat.le_of_lt_succ hrow)))]
    rcases Nat.lt_succ_iff_lt_or_eq.mp hrow with hlt | rfl
    · rw [aligned_of_ne (Nat.ne_of_lt hlt), ih hlt]
    · rw [aligned_self, h]
      rfl

theorem outdentRows_of_settled {d : Document} (h : d.Settled) (rows : List Nat) :
    d.outdentRows rows = .ok (d, []) := by
  induction rows with
  | nil => rfl
  | cons row rest ih =>
    simp [outdentRows, outdent, h row, ih, bind, Except.bind, pure, Except.pure]

/-- One pass from top to bottom lines up all rows. -/
theorem exists_outdentAll_settled {d : Document} (hd : d.Current) :
    ∃ last edits, d.outdentAll = .ok (last, edits) ∧ last.Current ∧ last.Settled ∧
      d.SameFrame last ∧ last.text = d.linedUp := by
  obtain ⟨last, edits, hrun, hlast, hframe, hindent⟩ :=
    exists_outdentRows hd (List.range d.lineCount)
  suffices hsettled : last.Settled from
    ⟨last, edits, hrun, hlast, hsettled, hframe, text_eq_linedUp hlast hframe hindent hsettled⟩
  intro row
  rw [outdent?_eq_none_iff hlast]
  intro above hopening
  have hown := hframe.opening row ▸ hopening
  have hrow : row < d.lineCount := by
    obtain ⟨line, hline⟩ := line?_of_head?_bodyAt (openingRow?_eq_some_iff.mp hown).1
    exact (List.getElem?_eq_some_iff.mp hline).1
  rw [hindent]
  exact foldl_aligned_range (fun _ _ => lt_of_openingRow?) d.indentAt d.lineCount hrow hown

/-- One pass from top to bottom is enough: it gives each row that begins with a closing brace whose
partner stands above the spaces and tabs of that row, and a second pass makes no edit. Rows keep all
but their indentation, which is that of the row reached by going up. -/
theorem outdentAll_aligns (t : Text) :
    ∃ d edits, (ofText t).outdentAll = .ok (d, edits) ∧
      (∀ row indent rest p, (∀ c ∈ indent, c = ' ' ∨ c = '\t') →
        d.line? row = some (indent ++ '}' :: rest) →
        d.partner? ⟨row, indent.length⟩ = some p → p.row < row →
        ∃ above, d.line? p.row = some above ∧ leadingIndent above = indent) ∧
      d.outdentAll = .ok (d, []) ∧ (ofText t).SameFrame d ∧ d.text = (ofText t).linedUp := by
  obtain ⟨d, edits, hrun, hd, hsettled, hframe, htext⟩ :=
    exists_outdentAll_settled (current_ofText t)
  refine ⟨d, edits, hrun, ?_, outdentRows_of_settled hsettled _, hframe, htext⟩
  intro row indent rest p hindent hline hp hlt
  obtain ⟨hown, hbody⟩ := indentAt_of_line? (fun c hc => isIndent_iff.mpr (hindent c hc)) hline
  have hopening : d.openingRow? row = some p.row :=
    openingRow?_eq_some_iff.mpr ⟨by rw [hbody]; rfl, p, by rw [hown]; exact hp, rfl, hlt⟩
  have hsame := (outdent?_eq_none_iff hd).mp (hsettled row) p.row hopening
  have hlength : row < d.lines.length := (List.getElem?_eq_some_iff.mp hline).1
  have habove : d.line? p.row = some d.lines[p.row] := List.getElem?_eq_getElem _
  refine ⟨_, habove, ?_⟩
  rw [← hown, ← hsame, indentAt, habove]
  rfl

example : (ofText "\x7b\n  f \x7b\n \x7d else \x7b\n    \x7d\n \x7d".toList).outdentAll.map
    (·.1.text) = .ok "\x7b\n  f \x7b\n  \x7d else \x7b\n  \x7d\n\x7d".toList := by
  decide +kernel

end Document
end EditorAssist
