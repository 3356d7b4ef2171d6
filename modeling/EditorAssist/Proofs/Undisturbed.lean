import EditorAssist.Proofs.Alignment
import EditorAssist.Proofs.Lookup

/-! What lining up one row leaves alone. A brace that has a partner stands in code, where the
indentation before it is a token of its own, so nothing behind the indentation is lexed otherwise. -/
namespace EditorAssist

/-- The tokens of a line as they read, white space aside. -/
def LexedLine.wording (line : LexedLine) : List (Token.Kind × Text) :=
  line.significant.map fun t => (t.kind, t.lexeme)

namespace Piece

theorem attach_plain {p : Piece} (hkind : p.kind = .plain) (hclaimed : p.claimed = true)
    (pieces : List Piece) : attach p pieces = p :: pieces := by
  cases pieces with
  | nil => rfl
  | cons q rest =>
    have hjoins : p.joins q = false := by simp [joins, hkind, hclaimed]
    simp [attach, hjoins]

theorem wording_layOut (column : Nat) (pieces : List Piece) (mode : Mode) :
    LexedLine.wording ⟨layOut column pieces, mode⟩ =
      (pieces.filter fun p => !(p.kind == .plain && p.text.all isBlank)).map
        fun p => (p.kind, p.text) := by
  induction pieces generalizing column with
  | nil => rfl
  | cons p rest ih =>
    unfold LexedLine.wording LexedLine.significant at ih ⊢
    have hblank : (Token.place p.kind p.text column).isBlank =
        (p.kind == .plain && p.text.all isBlank) := rfl
    dsimp only at ih ⊢
    rw [layOut, List.filter_cons, List.filter_cons, hblank]
    split_ifs
    · rw [List.map_cons, List.map_cons, ih]
      rfl
    · exact ih _

end Piece

section
variable {indent : Text} (hindent : ∀ c ∈ indent, isIndent c = true) (rest : Text)
include hindent

/-- In code a line reads the same whatever its indentation. -/
theorem wording_lexLine_indent :
    (lexLine .code (indent ++ '}' :: rest)).wording = (lexLine .code ('}' :: rest)).wording := by
  by_cases hne : indent = []
  · subst hne
    rfl
  · have hblank : ∀ c ∈ indent, isBlank c = true := fun c hc => isBlank_of_isIndent (hindent c hc)
    have hall : indent.all isBlank = true := List.all_eq_true.mpr hblank
    have hjoin : Piece.join (Piece.cut .standard .code (indent ++ '}' :: rest)).1 =
        ⟨.plain, indent, true⟩ :: Piece.join (Piece.cut .standard .code ('}' :: rest)).1 := by
      rw [Piece.cut_blanks hne hblank (beginsOutside_cons rfl)]
      exact Piece.attach_plain rfl rfl _
    unfold lexLine RuleTable.lexLine
    rw [Piece.wording_layOut, Piece.wording_layOut, hjoin, List.filter_cons]
    simp [hall]

/-- A brace behind indentation is a bracket in code only. -/
theorem mode_eq_code_of_mem_glyphsOfLine {mode : Mode} {row : Nat} {c : Char}
    (h : (⟨row, indent.length⟩, c) ∈
      Bracket.glyphsOfLine row (lexLine mode (indent ++ '}' :: rest))) : mode = .code := by
  by_contra hmode
  obtain ⟨rule, n, kind, haction, hkind, hfirst, hindented⟩ :=
    exists_first?_indent hindent rest hmode
  obtain ⟨-, -, hn⟩ := Rule.of_first?_eq_some hfirst
  rw [Bracket.glyphsOfLine_lexLine, Piece.cut_eq_of_first? (by simp) hindented,
    Piece.shading_append, Piece.shading_ofMatch haction, Bracket.mem_glyphsAt] at h
  obtain ⟨-, other, hget, hother⟩ := h
  have hlt : indent.length <
      (((indent ++ '}' :: rest).take (indent.length + n)).map (·, kind)).length := by
    simp only [List.length_map, List.length_take, List.length_append, List.length_cons]
    omega
  rw [List.getElem?_append_left hlt, List.getElem?_map] at hget
  obtain ⟨d, -, hsame⟩ := Option.map_eq_some_iff.mp hget
  have hkinds : kind = other := congrArg Prod.snd hsame
  rw [hkinds, hother] at hkind
  cases hkind

end

theorem LexCache.stale_self (mode : Mode) (rows : List Text) : stale mode mode rows = 0 := by
  cases rows with
  | nil => rfl
  | cons line rest => exact if_pos rfl

namespace Document

/-- Two documents differ in the indentation of one row, which was the last to be lexed and is lined
up now. -/
structure OnlyReindents (d next : Document) (row : Nat) : Prop where
  lineCount : next.lineCount = d.lineCount
  line : ∀ r, r ≠ row → next.line? r = d.line? r
  body : next.bodyAt row = d.bodyAt row
  startMode : ∀ r, next.startMode r = d.startMode r
  endMode : ∀ r, next.endMode? r = d.endMode? r
  wording : (next.lexed? row).map (·.wording) = (d.lexed? row).map (·.wording)
  brackets : next.bracketTable.entries.map (fun b => (b.glyph, b.depth, b.partner)) =
    d.bracketTable.entries.map (fun b => (b.glyph, b.depth, b.partner))
  repaint : next.repaint = ⟨row, row + 1⟩
  settled : next.outdent? row = none

theorem clamp_position {d : Document} {z : Place} (hz : z.rows = d.lines) :
    d.clamp z.position = z.position := by
  have hlt := Place.length_above_lt hz
  have hget := Place.getElem?_above hz
  have hlast : ¬ d.lines.length - 1 < z.above.length := by omega
  unfold clamp
  simp [Place.position, hlast, lineLength, line?, hget]

/-- A row begins in the mode in which the row above it ended. -/
theorem startMode_succ (d : Document) (r : Nat) :
    d.startMode (r + 1) = (d.endMode? r).getD .code := by
  change (d.cache.entries[r]?).elim .code (·.endMode) =
    ((d.cache.entries[r]?).map (·.endMode)).getD .code
  cases d.cache.entries[r]? <;> rfl

section
variable {d next : Document} {above below : List Text} {old new rest : Text}
  (hd : d.Current) (hold : ∀ c ∈ old, isIndent c = true) (hnew : ∀ c ∈ new, isIndent c = true)
  (hlines : d.lines = above ++ (old ++ '}' :: rest) :: below)
include hd hold hlines

/-- A row whose first brace has a partner begins in code. -/
theorem modeBehind_eq_code_of_partner? {p : Position}
    (hp : d.partner? ⟨above.length, old.length⟩ = some p) : modeBehind .code above = .code := by
  rw [hd.partner?_eq, hlines] at hp
  obtain ⟨j, b, -, -, hb, hposition, -⟩ := BracketTable.exists_of_partner? hp
  have hglyph := List.mem_of_getElem? (BracketTable.getElem?_glyphsFrom hb)
  obtain ⟨k, line, hline, hown⟩ := Bracket.mem_glyphsFrom.mp hglyph
  have hrow := (Bracket.of_mem_glyphsOfLine hown).1
  rw [hposition] at hown hrow
  have hk : k = above.length := by
    dsimp only at hrow
    omega
  subst hk
  rw [getElem?_lexLines] at hline
  cases Option.some.inj hline
  rw [Nat.zero_add] at hown
  exact mode_eq_code_of_mem_glyphsOfLine hold rest hown

include hnew

/-- Giving a row that begins with a closing brace another indentation lexes that row only. -/
theorem exists_apply_indent : ∃ next c,
    d.apply ⟨above.length, 0, old.length, new⟩ = .ok (next, c) ∧ next.Current ∧
      next.lines = above ++ (new ++ '}' :: rest) :: below ∧
      next.repaint = ⟨above.length, above.length + 1⟩ := by
  let z : Place := ⟨above, [], old ++ '}' :: rest, below⟩
  let w : Place := ⟨above, old, '}' :: rest, below⟩
  have hz : z.rows = d.lines := hlines.symm
  have hw : w.rows = d.lines := hlines.symm
  have hspan := RowEdit.span_eq (e := ⟨above.length, 0, old.length, new⟩) (Nat.zero_le _)
  have hreplace : d.replace ⟨z.position, w.position⟩ new =
      .ok (replaced z w new, (z.before ++ new).endPosition) :=
    replace_of_places hd hz (clamp_position hz) hw (clamp_position hw) (Nat.le_refl _) new
  have hz' : z.rows = d.text.lines := by rw [hz, hd.lines]
  have hw' : w.rows = d.text.lines := by rw [hw, hd.lines]
  have hsingle : new.lines = [new] :=
    Text.lines_of_newline_not_mem (newline_not_mem_of_isIndent hnew)
  have hopened := Place.lines_before_append hz' new
  have hrows := Place.lines_before_append_after hz' hw' new
  rw [hsingle] at hopened hrows
  have hmode : modeBehind .code (above ++ [new ++ '}' :: rest]) =
      modeBehind .code (above ++ [old ++ '}' :: rest]) := by
    rw [modeBehind_append, modeBehind_append, modeBehind_cons, modeBehind_cons,
      endMode_lexLine_indent hnew, endMode_lexLine_indent hold]
  have hstale : LexCache.stale (modeBehind .code (appendLast w.right (z.before ++ new).lines))
      (modeBehind .code (w.above ++ [w.left ++ w.right])) w.below = 0 := by
    rw [hopened, appendLast_append _ _ (prependFirst_ne_nil _ _)]
    change LexCache.stale (modeBehind .code (above ++ [new ++ '}' :: rest]))
      (modeBehind .code (above ++ [old ++ '}' :: rest])) below = 0
    rw [hmode, LexCache.stale_self]
  refine ⟨replaced z w new, (z.before ++ new).endPosition, ?_, current_replaced z w new, hrows, ?_⟩
  · rw [apply, hspan]
    exact hreplace
  · unfold replaced
    dsimp only
    rw [hstale, hopened, List.length_append]
    rfl

omit hnew in
/-- Lining up a row that begins with a closing brace gives it another indentation. -/
theorem exists_outdent_of_lines {e : RowEdit} (h : d.outdent? above.length = some e) :
    ∃ next new, (∀ c ∈ new, isIndent c = true) ∧ e = ⟨above.length, 0, old.length, new⟩ ∧
      d.outdent above.length = .ok (next, some e) ∧ next.Current ∧
      next.lines = above ++ (new ++ '}' :: rest) :: below ∧
      next.repaint = ⟨above.length, above.length + 1⟩ := by
  obtain ⟨line, -, target, hline, -, -, -, -, -, he⟩ := outdent?_eq_some_iff.mp h
  have hnew : ∀ c ∈ leadingIndent target, isIndent c = true :=
    fun c => isIndent_of_mem_leadingIndent
  rw [line?_length_of_lines hlines] at hline
  cases Option.some.inj hline
  rw [leadingIndent_brace hold] at he
  obtain ⟨next, c, happly, hnext, hnextlines, hrepaint⟩ := exists_apply_indent hd hold hnew hlines
  refine ⟨next, leadingIndent target, hnew, he, ?_, hnext, hnextlines, hrepaint⟩
  rw [outdent, h, he]
  simp only [happly, bind, Except.bind, pure, Except.pure]

variable (hnext : next.Current) (hnextlines : next.lines = above ++ (new ++ '}' :: rest) :: below)
include hnext hnextlines

theorem endModes_reindent :
    next.cache.entries.map (·.endMode) = d.cache.entries.map (·.endMode) := by
  rw [hnext.cache, hd.cache, hlines, hnextlines, LexCache.build, LexCache.build, lexLines_append,
    lexLines_append, lexLines, lexLines, endMode_lexLine_indent hold, endMode_lexLine_indent hnew]
  simp only [List.map_append, List.map_cons, endMode_lexLine_indent hold,
    endMode_lexLine_indent hnew]

theorem bracketTable_reindent :
    next.bracketTable.entries.map (fun b => (b.glyph, b.depth, b.partner)) =
      d.bracketTable.entries.map (fun b => (b.glyph, b.depth, b.partner)) := by
  rw [hnext.bracketTable_eq, hd.bracketTable_eq, hnext.cache, hd.cache, hlines, hnextlines,
    LexCache.build, LexCache.build, BracketTable.build_moved (glyphsFrom_reindent hold hnew),
    BracketTable.moved, Array.map_map]
  rfl

theorem onlyReindents_of_lines (hcode : modeBehind .code above = .code)
    (hrepaint : next.repaint = ⟨above.length, above.length + 1⟩)
    (hsettled : next.outdent? above.length = none) : d.OnlyReindents next above.length := by
  have hmodes := endModes_reindent hd hold hnew hlines hnext hnextlines
  have hend : ∀ r, next.endMode? r = d.endMode? r := by
    intro r
    have hrow := congrArg (·[r]?) hmodes
    rwa [List.getElem?_map, List.getElem?_map] at hrow
  constructor
  case lineCount => simp [lineCount, hlines, hnextlines]
  case line => exact fun r hr => line?_of_lines hlines hnextlines hr
  case body => exact (sameFrame_of_lines hd hnext hold hnew hlines hnextlines).body _
  case startMode =>
    intro r
    cases r with
    | zero => rfl
    | succ r => rw [startMode_succ, startMode_succ, hend]
  case endMode => exact hend
  case wording =>
    have hown : d.lexed? above.length = some (lexLine .code (old ++ '}' :: rest)) := by
      rw [lexed?, hd.cache, hlines, LexCache.build, getElem?_lexLines, hcode]
    have hownnext : next.lexed? above.length = some (lexLine .code (new ++ '}' :: rest)) := by
      rw [lexed?, hnext.cache, hnextlines, LexCache.build, getElem?_lexLines, hcode]
    rw [hown, hownnext, Option.map_some, Option.map_some, wording_lexLine_indent hold,
      wording_lexLine_indent hnew]
  case brackets => exact bracketTable_reindent hd hold hnew hlines hnext hnextlines
  case repaint => exact hrepaint
  case settled => exact hsettled

end

/-- A row that was lined up is not lined up again. -/
theorem outdent?_eq_none_of_outdent {d next : Document} (hd : d.Current) {row : Nat}
    {edit : Option RowEdit} (h : d.outdent row = .ok (next, edit)) : next.outdent? row = none := by
  obtain ⟨other, houtdent, hnext, hframe, hindent⟩ := exists_outdent_aligned hd row
  have hsame : other = next := congrArg Prod.fst (Except.ok.inj (houtdent.symm.trans h))
  subst hsame
  rw [outdent?_eq_none_iff hnext]
  intro above hopening
  rw [hframe.opening] at hopening
  have hne : above ≠ row := Nat.ne_of_lt (lt_of_openingRow? hopening)
  rw [hindent, aligned_of_ne hne, aligned_self, hopening]
  rfl

/-- A row that is lined up begins with a closing brace that has a partner. -/
theorem exists_lines_of_outdent? {d : Document} {row : Nat} {e : RowEdit}
    (h : d.outdent? row = some e) :
    ∃ above old rest below p, above.length = row ∧ (∀ c ∈ old, isIndent c = true) ∧
      d.lines = above ++ (old ++ '}' :: rest) :: below ∧
      d.partner? ⟨row, old.length⟩ = some p := by
  obtain ⟨line, p, -, hline, hbrace, hpartner, -⟩ := outdent?_eq_some_iff.mp h
  obtain ⟨rest, hrest⟩ := List.head?_eq_some_iff.mp hbrace
  refine ⟨d.lines.take row, leadingIndent line, rest, d.lines.drop (row + 1), p, ?_,
    fun c => isIndent_of_mem_leadingIndent, ?_, hpartner⟩
  · have hlt := (List.getElem?_eq_some_iff.mp hline).1
    rw [List.length_take]
    omega
  · rw [← hrest, leadingIndent_append_drop, Text.take_append_cons_drop hline]

theorem exists_outdent_reindents {d : Document} (hd : d.Current) {row : Nat} {e : RowEdit}
    (h : d.outdent? row = some e) :
    ∃ next, d.outdent row = .ok (next, some e) ∧ d.OnlyReindents next row := by
  obtain ⟨above, old, rest, below, p, rfl, hold, hlines, hpartner⟩ := exists_lines_of_outdent? h
  obtain ⟨next, new, hnew, -, houtdent, hnext, hnextlines, hrepaint⟩ :=
    exists_outdent_of_lines hd hold hlines h
  have hcode := modeBehind_eq_code_of_partner? hd hold hlines hpartner
  have hsettled := outdent?_eq_none_of_outdent hd houtdent
  exact ⟨next, houtdent,
    onlyReindents_of_lines hd hold hnew hlines hnext hnextlines hcode hrepaint hsettled⟩

/-- After any history, lining up a row changes the indentation of the row or nothing. Every other
line, all modes, the words of the row and the pairing of brackets stay, one row is lexed, and doing
it once is enough. -/
theorem outdent_reindents_only (t : Text) (steps : List Step) :
    ∃ d, (ofText t).run steps = .ok d ∧ ∀ row, ∃ next edit, d.outdent row = .ok (next, edit) ∧
      (edit = none → next = d) ∧ (edit ≠ none → d.OnlyReindents next row) := by
  obtain ⟨d, hrun, hd⟩ := exists_run (current_ofText t) steps
  refine ⟨d, hrun, fun row => ?_⟩
  cases h : d.outdent? row with
  | none =>
    have houtdent : d.outdent row = .ok (d, none) := by rw [outdent, h]
    exact ⟨d, none, houtdent, fun _ => rfl, fun hne => absurd rfl hne⟩
  | some e =>
    obtain ⟨next, houtdent, hframe⟩ := exists_outdent_reindents hd h
    have hsome : some e ≠ none := Option.some_ne_none e
    exact ⟨next, some e, houtdent, fun hnone => absurd hnone hsome, fun _ => hframe⟩

end Document
end EditorAssist
