import EditorAssist.Proofs.Covering
import EditorAssist.Proofs.Pairing
import EditorAssist.Proofs.Precedence

/-! Other indentation before a closing brace. The row ends in the same mode as before, and its
brackets move sideways together. -/
namespace EditorAssist
open Recognizer Rule

theorem isIndent_iff {c : Char} : isIndent c = true ↔ c = ' ' ∨ c = '\t' := by
  simp [isIndent]

theorem isBlank_of_isIndent {c : Char} (h : isIndent c = true) : isBlank c = true := by
  rcases isIndent_iff.mp h with rfl | rfl <;> decide

theorem Piece.shading_ofMatch {rule : Rule} {kind : Token.Kind} (h : rule.action = .emit kind)
    (t : Text) : shading (ofMatch rule t) = t.map (·, kind) := by
  simp [ofMatch, h, Action.pieces]

section
variable {indent : Text} (hindent : ∀ c ∈ indent, isIndent c = true) (rest : Text)
include hindent

theorem run?_indent {p : Char → Bool} (hspace : p ' ' = true) (htab : p '\t' = true) :
    run? p (indent ++ rest) = some (indent.length + (rest.takeWhile p).length) := by
  have hrun : ∀ c ∈ indent, p c = true := by
    intro c hc
    rcases isIndent_iff.mp (hindent c hc) with rfl | rfl <;> assumption
  rw [run?, List.takeWhile_append_of_pos hrun, List.length_append]

theorem commentEnd?_indent :
    commentEnd? (indent ++ rest) = (commentEnd? rest).map (indent.length + ·) := by
  induction indent with
  | nil => cases h : commentEnd? rest <;> simp [h]
  | cons c cs ih =>
    rw [List.forall_mem_cons] at hindent
    have hc : c ≠ ']' ∧ c ≠ '\n' := by
      rcases isIndent_iff.mp hindent.1 with rfl | rfl <;> decide
    rw [List.cons_append, commentEnd?, if_neg hc.2, ih hindent.2, Option.map_map]
    · congr 1
      funext n
      simp only [Function.comp_apply, List.length_cons]
      omega
    · exact fun _ hclose _ => hc.1 hclose

theorem escape?_indent : escape? (indent ++ '}' :: rest) = none := by
  cases indent with
  | nil => rfl
  | cons c cs => rcases isIndent_iff.mp (hindent c List.mem_cons_self) with rfl | rfl <;> rfl

/-- Inside a comment or a string the first match takes the indentation in. -/
theorem exists_first?_indent {mode : Mode} (hmode : mode ≠ .code) :
    ∃ rule n kind, rule.action = .emit kind ∧ kind.isBracket = false ∧
      first? (RuleTable.standard mode) ('}' :: rest) = some (rule, n) ∧
      first? (RuleTable.standard mode) (indent ++ '}' :: rest) =
        some (rule, indent.length + n) := by
  cases mode with
  | code => exact absurd rfl hmode
  | comment =>
    have hshift := commentEnd?_indent hindent ('}' :: rest)
    cases hend : commentEnd? ('}' :: rest) with
    | some n =>
      have hn := commentEnd?_pos hend
      rw [hend, Option.map_some] at hshift
      exact ⟨_, n, .comment, rfl, rfl, first?_cons_of_recognize hend hn,
        first?_cons_of_recognize hshift (Nat.add_pos_right _ hn)⟩
    | none =>
      rw [hend, Option.map_none] at hshift
      have hrun := run?_indent hindent ('}' :: rest) (p := isInline) rfl rfl
      have hpos : 0 < (('}' :: rest).takeWhile isInline).length := Nat.succ_pos _
      exact ⟨_, _, .comment, rfl, rfl, first?_cons_cons_of_recognize hend rfl hpos,
        first?_cons_cons_of_recognize hshift hrun (Nat.add_pos_right _ hpos)⟩
  | quoted =>
    have hnone : escape? ('}' :: rest) = none := rfl
    have hshift := escape?_indent hindent rest
    have hrun := run?_indent hindent ('}' :: rest) (p := isStringBody) rfl rfl
    have hpos : 0 < (('}' :: rest).takeWhile isStringBody).length := Nat.succ_pos _
    exact ⟨_, _, .string, rfl, rfl, first?_cons_cons_of_recognize hnone rfl hpos,
      first?_cons_cons_of_recognize hshift hrun (Nat.add_pos_right _ hpos)⟩

namespace Piece

/-- Indentation before a closing brace has a kind of its own, and what follows is cut as without
it. -/
theorem exists_shading_cut_indent (mode : Mode) :
    ∃ kind : Token.Kind, kind.isBracket = false ∧
      shading (cut .standard mode (indent ++ '}' :: rest)).1 =
        indent.map (·, kind) ++ shading (cut .standard mode ('}' :: rest)).1 ∧
      (cut .standard mode (indent ++ '}' :: rest)).2 = (cut .standard mode ('}' :: rest)).2 := by
  by_cases hmode : mode = .code
  · -- in code white space is a piece of its own, if there is any
    subst hmode
    refine ⟨.plain, rfl, ?_⟩
    by_cases hne : indent = []
    · subst hne
      exact ⟨rfl, rfl⟩
    · have hblank : ∀ c ∈ indent, isBlank c = true := fun c hc => isBlank_of_isIndent (hindent c hc)
      rw [cut_blanks hne hblank (beginsOutside_cons rfl)]
      simp
  · obtain ⟨rule, n, kind, haction, hkind, hfirst, hindented⟩ :=
      exists_first?_indent hindent rest hmode
    refine ⟨kind, hkind, ?_⟩
    rw [cut_eq_of_first? (List.cons_ne_nil _ _) hfirst, cut_eq_of_first? (by simp) hindented,
      List.take_length_add_append, List.drop_length_add_append]
    simp [shading_append, shading_ofMatch haction]

end Piece

end

theorem Piece.map_fst_shading (pieces : List Piece) :
    (shading pieces).map (·.1) = spelling pieces := by
  induction pieces with
  | nil => rfl
  | cons p rest ih => simp [ih, Function.comp_def]

namespace Bracket

/-- The bracket characters of a shaded line from a column on, with their positions. -/
def glyphsAt (row column : Nat) (shading : List (Char × Token.Kind)) : List (Position × Char) :=
  (shading.zipIdx column).filterMap fun ((c, kind), column) =>
    if kind.isBracket && (shape? c).isSome then some (⟨row, column⟩, c) else none

theorem glyphsAt_append (row column : Nat) (s rest : List (Char × Token.Kind)) :
    glyphsAt row column (s ++ rest) =
      glyphsAt row column s ++ glyphsAt row (column + s.length) rest := by
  simp [glyphsAt, List.zipIdx_append]

theorem glyphsOfToken_place (row column : Nat) {kind : Token.Kind} (h : kind.isBracket = true)
    (t : Text) :
    glyphsOfToken row (.place kind t column) = glyphsAt row column (t.map (·, kind)) := by
  rw [glyphsAt, List.zipIdx_map, List.zipIdx_eq_map_add, List.map_map, List.filterMap_map]
  simp [glyphsOfToken, Token.place, Function.comp_def, h]

theorem glyphsAt_eq_nil (row column : Nat) {kind : Token.Kind} (h : kind.isBracket = false)
    (t : Text) : glyphsAt row column (t.map (·, kind)) = [] := by
  rw [glyphsAt, List.zipIdx_map, List.filterMap_map]
  simp [h]

/-- The brackets of tokens depend on the kinds of the characters only. -/
theorem flatMap_glyphsOfToken_layOut (row column : Nat) (pieces : List Piece) :
    ((Piece.layOut column pieces).filter (·.kind.isBracket)).flatMap (glyphsOfToken row) =
      glyphsAt row column (Piece.shading pieces) := by
  induction pieces generalizing column with
  | nil => rfl
  | cons p rest ih =>
    rw [Piece.shading_cons, glyphsAt_append, List.length_map, ← ih, Piece.layOut]
    cases h : p.kind.isBracket with
    | true => simp [Token.place, h, ← glyphsOfToken_place row column h]
    | false => simp [Token.place, h, glyphsAt_eq_nil row column h]

theorem glyphsOfLine_lexLine (row : Nat) (mode : Mode) (line : Text) :
    glyphsOfLine row (lexLine mode line) =
      glyphsAt row 0 (Piece.shading (Piece.cut .standard mode line).1) := by
  rw [← Piece.shading_join (Piece.honest_cut .standard mode line), ← flatMap_glyphsOfToken_layOut]
  rfl

theorem glyphsAt_eq_map (row column : Nat) (s : List (Char × Token.Kind)) :
    glyphsAt row column s =
      (glyphsAt row 0 s).map fun found => (⟨found.1.row, column + found.1.column⟩, found.2) := by
  rw [glyphsAt, glyphsAt, List.zipIdx_eq_map_add, List.filterMap_map, List.map_filterMap]
  refine List.filterMap_congr fun x _ => ?_
  dsimp only [Function.comp_apply]
  split_ifs <;> rfl

theorem of_mem_glyphsAt {row : Nat} {s : List (Char × Token.Kind)} {found : Position × Char}
    (h : found ∈ glyphsAt row 0 s) :
    found.1.row = row ∧ (s.map (·.1))[found.1.column]? = some found.2 := by
  obtain ⟨⟨⟨c, kind⟩, column⟩, hmem, hsome⟩ := List.mem_filterMap.mp h
  simp only [Option.ite_none_right_eq_some, Option.some.injEq] at hsome
  obtain ⟨-, rfl⟩ := hsome
  have hget := List.mem_zipIdx_iff_getElem?.mp hmem
  exact ⟨rfl, by simp [hget]⟩

/-- The bracket characters of a text stand where their positions say. -/
theorem getElem?_of_mem_glyphsFrom {mode : Mode} {row : Nat} {lines : List Text}
    {found : Position × Char} (h : found ∈ glyphsFrom row (lexLines mode lines)) :
    ∃ own, lines[found.1.row - row]? = some own ∧ own[found.1.column]? = some found.2 := by
  induction lines generalizing mode row with
  | nil => cases h
  | cons line rest ih =>
    rw [lexLines, glyphsFrom_cons] at h
    rcases List.mem_append.mp h with h | h
    · rw [glyphsOfLine_lexLine] at h
      obtain ⟨hrow, hchar⟩ := of_mem_glyphsAt h
      rw [Piece.map_fst_shading, Piece.spelling_cut] at hchar
      exact ⟨line, by simp [hrow], hchar⟩
    · obtain ⟨own, hown, hchar⟩ := ih h
      have hrow := (of_mem_glyphsFrom h).1
      refine ⟨own, ?_, hchar⟩
      rw [show found.1.row - row = found.1.row - (row + 1) + 1 by omega]
      exact hown

end Bracket

section
variable {indent : Text} (hindent : ∀ c ∈ indent, isIndent c = true) (mode : Mode) (rest : Text)
include hindent

theorem endMode_lexLine_indent :
    (lexLine mode (indent ++ '}' :: rest)).endMode = (lexLine mode ('}' :: rest)).endMode := by
  obtain ⟨kind, -, -, hmode⟩ := Piece.exists_shading_cut_indent hindent rest mode
  exact hmode

/-- Indentation before a closing brace moves the brackets of the line to the right. -/
theorem glyphsOfLine_indent (row : Nat) :
    Bracket.glyphsOfLine row (lexLine mode (indent ++ '}' :: rest)) =
      (Bracket.glyphsOfLine row (lexLine mode ('}' :: rest))).map fun found =>
        (⟨found.1.row, indent.length + found.1.column⟩, found.2) := by
  obtain ⟨kind, hkind, hshading, -⟩ := Piece.exists_shading_cut_indent hindent rest mode
  rw [Bracket.glyphsOfLine_lexLine, Bracket.glyphsOfLine_lexLine, hshading,
    Bracket.glyphsAt_append, Bracket.glyphsAt_eq_nil row 0 hkind, List.nil_append, List.length_map,
    Nat.zero_add, Bracket.glyphsAt_eq_map]

end

/-- Where a position on a row ends up when the indentation of the row changes its length. -/
def Position.slide (row old new : Nat) (p : Position) : Position :=
  if p.row = row then ⟨row, p.column - old + new⟩ else p

namespace Position
variable {row : Nat} {p q : Position} (old new : Nat)

theorem slide_eq_self (h : p.row ≠ row) : p.slide row old new = p :=
  if_neg h

theorem row_slide : (p.slide row old new).row = p.row := by
  unfold slide
  split_ifs with h
  · exact h.symm
  · rfl

theorem column_slide : (p.slide row old new).column =
    if p.row = row then p.column - old + new else p.column := by
  unfold slide
  split_ifs <;> rfl

theorem lt_iff : p < q ↔ p.row < q.row ∨ (p.row = q.row ∧ p.column < q.column) :=
  Iff.rfl

theorem eq_iff : p = q ↔ p.row = q.row ∧ p.column = q.column := by
  cases p
  cases q
  simp

section
variable (hp : p.row = row → old ≤ p.column) (hq : q.row = row → old ≤ q.column)
include hp hq

/-- Positions behind the indentation keep their order. -/
theorem slide_lt_iff : p.slide row old new < q.slide row old new ↔ p < q := by
  rw [lt_iff, lt_iff, row_slide, row_slide, column_slide, column_slide]
  split_ifs <;> omega

theorem slide_inj : p.slide row old new = q.slide row old new ↔ p = q := by
  rw [eq_iff, eq_iff, row_slide, row_slide, column_slide, column_slide]
  split_ifs <;> omega

end

end Position

section
variable {above below : List Text} {old new rest : Text} (hold : ∀ c ∈ old, isIndent c = true)
  (hnew : ∀ c ∈ new, isIndent c = true)
include hold

/-- The brackets of a text around a row that begins with a closing brace. -/
theorem glyphsFrom_split :
    Bracket.glyphsFrom 0 (lexLines .code (above ++ (old ++ '}' :: rest) :: below)) =
      Bracket.glyphsFrom 0 (lexLines .code above) ++
        ((Bracket.glyphsOfLine above.length
            (lexLine (modeBehind .code above) ('}' :: rest))).map fun found =>
              (⟨found.1.row, old.length + found.1.column⟩, found.2)) ++
          Bracket.glyphsFrom (above.length + 1)
            (lexLines (lexLine (modeBehind .code above) ('}' :: rest)).endMode below) := by
  rw [lexLines_append, lexLines, Bracket.glyphsFrom_append, Bracket.glyphsFrom_cons,
    endMode_lexLine_indent hold, length_lexLines, Nat.zero_add, ← glyphsOfLine_indent hold,
    List.append_assoc]

/-- No bracket stands in the indentation of a row. -/
theorem length_le_column_of_mem_entries {b : Bracket}
    (hb : b ∈ (BracketTable.build (lexLines .code
      (above ++ (old ++ '}' :: rest) :: below))).entries)
    (hrow : b.position.row = above.length) : old.length ≤ b.position.column := by
  obtain ⟨j, hj⟩ := Array.getElem?_of_mem hb
  have hglyph := List.mem_of_getElem? (BracketTable.getElem?_glyphsFrom hj)
  have hshape := (Bracket.of_mem_glyphsFrom hglyph).2
  obtain ⟨line, hline, hchar⟩ := Bracket.getElem?_of_mem_glyphsFrom hglyph
  obtain rfl : old ++ '}' :: rest = line := by simpa [hrow] using hline
  by_contra hlt
  rw [List.getElem?_append_left (Nat.lt_of_not_le hlt)] at hchar
  rcases isIndent_iff.mp (hold _ (List.mem_of_getElem? hchar)) with hc | hc <;>
    (rw [hc] at hshape; cases hshape)

include hnew

theorem glyphsFrom_reindent :
    Bracket.glyphsFrom 0 (lexLines .code (above ++ (new ++ '}' :: rest) :: below)) =
      (Bracket.glyphsFrom 0 (lexLines .code (above ++ (old ++ '}' :: rest) :: below))).map
        fun found => (found.1.slide above.length old.length new.length, found.2) := by
  have habove : ∀ found ∈ Bracket.glyphsFrom 0 (lexLines .code above),
      (found.1.slide above.length old.length new.length, found.2) = found := by
    intro found hfound
    obtain ⟨line, hline, -⟩ := Bracket.getElem?_of_mem_glyphsFrom hfound
    have hlt := (List.getElem?_eq_some_iff.mp hline).1
    rw [Position.slide_eq_self _ _ (Nat.ne_of_lt hlt)]
  have hbelow : ∀ mode, ∀ found ∈ Bracket.glyphsFrom (above.length + 1) (lexLines mode below),
      (found.1.slide above.length old.length new.length, found.2) = found := by
    intro mode found hfound
    have hlt := (Bracket.of_mem_glyphsFrom hfound).1
    rw [Position.slide_eq_self _ _ (Nat.ne_of_gt hlt)]
  have hown : ∀ found ∈ Bracket.glyphsOfLine above.length
      (lexLine (modeBehind .code above) ('}' :: rest)),
      ((⟨found.1.row, old.length + found.1.column⟩ : Position).slide above.length old.length
        new.length, found.2) = (⟨found.1.row, new.length + found.1.column⟩, found.2) := by
    intro found hfound
    rw [(Bracket.of_mem_glyphsOfLine hfound).1, Position.slide, if_pos rfl, Nat.add_sub_cancel_left,
      Nat.add_comm]
  rw [glyphsFrom_split hold, glyphsFrom_split hnew, List.map_append, List.map_append,
    List.map_congr_left habove, List.map_congr_left (hbelow _), List.map_id', List.map_id',
    List.map_map]
  exact congrArg (_ ++ · ++ _) (List.map_congr_left hown).symm

/-- Brackets keep their partners when a row that begins with a closing brace is indented anew. -/
theorem partner?_reindent {p : Position} (hp : p.row = above.length → old.length ≤ p.column) :
    (BracketTable.build (lexLines .code (above ++ (new ++ '}' :: rest) :: below))).partner?
        (p.slide above.length old.length new.length) =
      ((BracketTable.build (lexLines .code (above ++ (old ++ '}' :: rest) :: below))).partner?
        p).map (·.slide above.length old.length new.length) := by
  rw [BracketTable.build_moved (glyphsFrom_reindent hold hnew)]
  refine BracketTable.partner?_moved (fun b hb => ?_) (fun b hb => ?_)
  · exact Position.slide_lt_iff _ _ hp (length_le_column_of_mem_entries hold hb)
  · exact Position.slide_inj _ _ (length_le_column_of_mem_entries hold hb) hp

end

end EditorAssist
