import EditorAssist.Proofs.Matches
import EditorAssist.Proofs.Reindenting

/-! Brackets by position. The table of a text holds the brackets of its code in the order in which
they are read, and binary search finds each of them and nothing else. -/
namespace EditorAssist

namespace Position
variable {p q r : Position}

theorem lt_irrefl (p : Position) : ¬ p < p := by
  rw [lt_iff]
  omega

theorem lt_asymm (h : p < q) : ¬ q < p := by
  rw [lt_iff] at *
  omega

end Position

namespace Piece

/-- The kind of a token of a layout is the kind of each character that it covers. -/
theorem getElem?_shading_of_mem_layOut {pieces : List Piece} {column k : Nat} {t : Token}
    (ht : t ∈ layOut column pieces) (hstart : t.start ≤ k) (hstop : k < t.stop) :
    ∃ c, (shading pieces)[k - column]? = some (c, t.kind) := by
  induction pieces generalizing column with
  | nil => cases ht
  | cons p rest ih =>
    rw [shading_cons]
    rcases List.mem_cons.mp ht with rfl | ht
    · have hlt : k - column < p.text.length := by
        simp only [Token.place] at hstart hstop
        omega
      have hmap : k - column < (p.text.map (·, p.kind)).length := by
        rwa [List.length_map]
      rw [List.getElem?_append_left hmap, List.getElem?_map, List.getElem?_eq_getElem hlt]
      exact ⟨_, rfl⟩
    · obtain ⟨a, -, -, hbehind, -⟩ := exists_of_mem_layOut ht
      have hle : (p.text.map (·, p.kind)).length ≤ k - column := by
        rw [List.length_map]
        omega
      obtain ⟨c, hc⟩ := ih ht
      refine ⟨c, ?_⟩
      rw [List.getElem?_append_right hle, List.length_map, Nat.sub_sub, hc]

/-- Each character is covered by a token. -/
theorem exists_mem_layOut {pieces : List Piece} (column : Nat) {k : Nat}
    (hk : k < (spelling pieces).length) :
    ∃ t ∈ layOut column pieces, t.start ≤ column + k ∧ column + k < t.stop := by
  induction pieces generalizing column k with
  | nil => cases hk
  | cons p rest ih =>
    rw [spelling_cons, List.length_append] at hk
    by_cases hown : k < p.text.length
    · refine ⟨_, List.mem_cons_self, Nat.le_add_right _ _, ?_⟩
      exact Nat.add_lt_add_left hown column
    · have hrest : k - p.text.length < (spelling rest).length := by omega
      obtain ⟨t, ht, hstart, hstop⟩ := ih (column + p.text.length) hrest
      refine ⟨t, List.mem_cons_of_mem _ ht, ?_, ?_⟩ <;> omega

end Piece

/-- The kinds that a lexed line gives to the characters of its line. -/
theorem shading_lexLine (mode : Mode) (line : Text) :
    Piece.shading (Piece.join (Piece.cut .standard mode line).1) =
      Piece.shading (Piece.cut .standard mode line).1 :=
  Piece.shading_join (Piece.honest_cut .standard mode line)

theorem getElem?_shading_of_mem_tokens {mode : Mode} {line : Text} {t : Token} {k : Nat}
    (ht : t ∈ (lexLine mode line).tokens) (hstart : t.start ≤ k) (hstop : k < t.stop) :
    ∃ c, (Piece.shading (Piece.cut .standard mode line).1)[k]? = some (c, t.kind) := by
  rw [← shading_lexLine]
  exact Piece.getElem?_shading_of_mem_layOut ht hstart hstop

theorem getElem?_of_getElem?_shading {mode : Mode} {own : Text} {k : Nat} {c : Char}
    {kind : Token.Kind}
    (h : (Piece.shading (Piece.cut .standard mode own).1)[k]? = some (c, kind)) :
    own[k]? = some c := by
  have hspell : (Piece.shading (Piece.cut .standard mode own).1).map (·.1) = own := by
    rw [Piece.map_fst_shading, Piece.spelling_cut]
  have hchar := congrArg (·[k]?) hspell
  simpa [h] using hchar.symm

theorem exists_token_of_getElem? {mode : Mode} {own : Text} {k : Nat} {c : Char}
    (h : own[k]? = some c) : ∃ t ∈ (lexLine mode own).tokens, t.start ≤ k ∧ k < t.stop ∧
      (Piece.shading (Piece.cut .standard mode own).1)[k]? = some (c, t.kind) := by
  have hk : k < (Piece.spelling (Piece.join (Piece.cut .standard mode own).1)).length := by
    rw [spelling_lexLine]
    exact (List.getElem?_eq_some_iff.mp h).1
  obtain ⟨t, ht, hstart, hstop⟩ := Piece.exists_mem_layOut 0 hk
  rw [Nat.zero_add] at hstart hstop
  obtain ⟨d, hd⟩ := getElem?_shading_of_mem_tokens ht hstart hstop
  have hchar := getElem?_of_getElem?_shading hd
  rw [h] at hchar
  cases Option.some.inj hchar
  exact ⟨t, ht, hstart, hstop, hd⟩

namespace Bracket

theorem mem_glyphsAt {row column : Nat} {s : List (Char × Token.Kind)} {c : Char} :
    (⟨row, column⟩, c) ∈ glyphsAt row 0 s ↔
      (shape? c).isSome ∧ ∃ kind : Token.Kind, s[column]? = some (c, kind) ∧
        kind.isBracket = true := by
  rw [glyphsAt, List.mem_filterMap]
  constructor
  · rintro ⟨⟨⟨d, kind⟩, k⟩, hmem, hsome⟩
    simp only [Option.ite_none_right_eq_some, Bool.and_eq_true, Option.some.injEq] at hsome
    obtain ⟨⟨hkind, hshape⟩, hsame⟩ := hsome
    cases hsame
    exact ⟨hshape, kind, List.mem_zipIdx_iff_getElem?.mp hmem, hkind⟩
  · rintro ⟨hshape, kind, hget, hkind⟩
    refine ⟨((c, kind), column), List.mem_zipIdx_iff_getElem?.mpr hget, ?_⟩
    exact if_pos (Bool.and_eq_true_iff.mpr ⟨hkind, hshape⟩)

theorem mem_glyphsFrom {row : Nat} {lines : List LexedLine} {found : Position × Char} :
    found ∈ glyphsFrom row lines ↔
      ∃ k line, lines[k]? = some line ∧ found ∈ glyphsOfLine (row + k) line := by
  induction lines generalizing row with
  | nil => simp [glyphsFrom]
  | cons line rest ih =>
    rw [glyphsFrom_cons, List.mem_append, ih]
    constructor
    · rintro (h | ⟨k, other, hother, h⟩)
      · exact ⟨0, line, rfl, h⟩
      · refine ⟨k + 1, other, hother, ?_⟩
        rwa [Nat.add_assoc, Nat.add_comm 1] at h
    · rintro ⟨k, other, hother, h⟩
      cases k with
      | zero =>
        cases Option.some.inj hother
        exact .inl h
      | succ k =>
        refine .inr ⟨k, other, hother, ?_⟩
        rwa [Nat.add_assoc, Nat.add_comm 1]

theorem pairwise_glyphsAt (row column : Nat) (s : List (Char × Token.Kind)) :
    (glyphsAt row column s).Pairwise (·.1 < ·.1) := by
  have hcolumns : (s.zipIdx column).Pairwise (·.2 < ·.2) := by
    rw [← List.pairwise_map, List.zipIdx_map_snd]
    exact List.pairwise_lt_range'
  refine hcolumns.filterMap _ ?_
  rintro ⟨⟨c, kind⟩, k⟩ ⟨⟨d, other⟩, l⟩ hless a ha b hb
  simp only [Option.ite_none_right_eq_some, Option.some.injEq] at ha hb
  obtain ⟨-, rfl⟩ := ha
  obtain ⟨-, rfl⟩ := hb
  exact .inr ⟨rfl, hless⟩

/-- The brackets of lexed lines come in the order in which they are read. -/
theorem pairwise_lt_glyphsFrom_lexLines (row : Nat) (mode : Mode) (rows : List Text) :
    (glyphsFrom row (lexLines mode rows)).Pairwise (·.1 < ·.1) := by
  induction rows generalizing row mode with
  | nil => exact .nil
  | cons line rest ih =>
    rw [lexLines, glyphsFrom_cons]
    refine List.pairwise_append.mpr ⟨?_, ih _ _, ?_⟩
    · rw [glyphsOfLine_lexLine]
      exact pairwise_glyphsAt row 0 _
    · intro a ha b hb
      have hrow := (of_mem_glyphsOfLine ha).1
      have hbelow := (of_mem_glyphsFrom hb).1
      exact .inl (by omega)

end Bracket

namespace BracketTable
open EditorAssist.Bracket

/-- Entries in the order in which their brackets are read. -/
def Ordered (entries : Array Bracket) : Prop :=
  entries.toList.Pairwise (·.position < ·.position)

section
variable {entries : Array Bracket} (h : Ordered entries) {i j : Nat} {a b : Bracket}
  (ha : entries[i]? = some a) (hb : entries[j]? = some b)
include h ha hb

theorem Ordered.lt_of_lt (hij : i < j) : a.position < b.position := by
  rw [← Array.getElem?_toList] at ha hb
  obtain ⟨hi, rfl⟩ := List.getElem?_eq_some_iff.mp ha
  obtain ⟨hj, rfl⟩ := List.getElem?_eq_some_iff.mp hb
  exact List.pairwise_iff_getElem.mp h i j hi hj hij

theorem Ordered.le_of_not_lt (hless : ¬ b.position < a.position) : i ≤ j := by
  by_contra hlater
  exact hless (h.lt_of_lt hb ha (Nat.lt_of_not_le hlater))

theorem Ordered.lt_of_position_lt (hless : a.position < b.position) : i < j := by
  by_contra hnot
  rcases Nat.lt_or_eq_of_le (Nat.le_of_not_lt hnot) with hlater | rfl
  · exact Position.lt_asymm hless (h.lt_of_lt hb ha hlater)
  · rw [ha] at hb
    cases Option.some.inj hb
    exact Position.lt_irrefl _ hless

end

/-- Halving keeps the entry that is sought. -/
theorem narrow_eq {entries : Array Bracket} (h : Ordered entries) {j : Nat} {b : Bracket}
    (hb : entries[j]? = some b) {base size : Nat} (hbase : base ≤ j) (hj : j < base + size)
    (hsize : base + size ≤ entries.size) : narrow entries b.position base size = j := by
  fun_induction narrow entries b.position base size with
  | case1 base size hmany half after ih =>
    have hhalf : half = size / 2 := rfl
    have hmiddle : base + half < entries.size := by omega
    have hentry := Array.getElem?_eq_getElem hmiddle
    by_cases hafter : after = true
    · -- the entry in the middle lies behind the position, so the sought one is before it
      have hless : b.position < entries[base + half].position := by
        simpa [after, hentry] using hafter
      have hlower := h.lt_of_position_lt hb hentry hless
      rw [dif_pos hafter] at ih
      rw [if_pos hafter]
      refine ih hbase ?_ ?_ <;> omega
    · have hnot : ¬ b.position < entries[base + half].position := by
        simpa [after, hentry] using hafter
      have hupper := h.le_of_not_lt hentry hb hnot
      rw [dif_neg hafter] at ih
      rw [if_neg hafter]
      refine ih hupper ?_ ?_ <;> omega
  | case2 base size hfew => omega

/-- Binary search in an ordered table finds exactly the entries. -/
theorem get?_eq_some_iff {table : BracketTable} (h : Ordered table.entries) {p : Position}
    {b : Bracket} : table.get? p = some b ↔ b ∈ table.entries ∧ b.position = p := by
  rw [get?, Option.filter_eq_some_iff, beq_iff_eq]
  constructor
  · rintro ⟨hb, hposition⟩
    exact ⟨Array.mem_of_getElem? hb, hposition⟩
  · rintro ⟨hmem, rfl⟩
    obtain ⟨j, hj⟩ := Array.getElem?_of_mem hmem
    have hlt := (Array.getElem?_eq_some_iff.mp hj).1
    have hfound := narrow_eq h hj (Nat.zero_le j) (by omega) (Nat.le_of_eq (Nat.zero_add _))
    exact ⟨by rw [hfound, hj], rfl⟩

theorem partner?_eq_none_of_get? {table : BracketTable} {p : Position} (h : table.get? p = none) :
    table.partner? p = none := by
  rw [partner?, h]
  rfl

theorem exists_mem_entries {lines : List LexedLine} {p : Position} {c : Char} :
    (∃ b ∈ (build lines).entries, b.position = p ∧ b.glyph = c) ↔ (p, c) ∈ glyphsFrom 0 lines := by
  rw [← map_entries_build, List.mem_map]
  simp only [Array.mem_toList_iff, Prod.mk.injEq]

end BracketTable

/-- The character at a position of a text. -/
def Text.charAt? (source : Text) (p : Position) : Option Char :=
  ((source.splitOn '\n')[p.row]?).bind (·[p.column]?)

/-- A bracket of the code of a text: the character at a position, if no string and no comment covers
it. -/
structure CodeBracketAt (source : Text) (p : Position) (c : Char) : Prop where
  char : source.charAt? p = some c
  bracket : c ∈ ['(', ')', '[', ']', '{', '}']
  code : ∀ line ∈ (lexText source)[p.row]?, ∀ t ∈ line.tokens, t.start ≤ p.column →
    p.column < t.stop → t.kind ≠ .string ∧ t.kind ≠ .comment

/-- The bracket tokens of a text hold the brackets of its code. -/
theorem mem_glyphsFrom_lexText {source : Text} {p : Position} {c : Char} :
    (p, c) ∈ Bracket.glyphsFrom 0 (lexText source) ↔ CodeBracketAt source p c := by
  have hrows : ∀ k, (lexText source)[k]? = (source.splitOn '\n')[k]?.map
      (lexLine (modeBehind .code (source.lines.take k))) := by
    intro k
    rw [lexText, getElem?_lexLines_eq_map, source.lines_eq_splitOn]
  constructor
  · intro h
    obtain ⟨k, lexed, hlexed, hmem⟩ := Bracket.mem_glyphsFrom.mp h
    rw [Nat.zero_add] at hmem
    obtain ⟨row, column⟩ := p
    obtain rfl : row = k := (Bracket.of_mem_glyphsOfLine hmem).1
    rw [hrows, Option.map_eq_some_iff] at hlexed
    obtain ⟨line, hline, rfl⟩ := hlexed
    rw [Bracket.glyphsOfLine_lexLine, Bracket.mem_glyphsAt] at hmem
    obtain ⟨hshape, kind, hshading, hkind⟩ := hmem
    constructor
    case char =>
      rw [Text.charAt?, hline]
      exact getElem?_of_getElem?_shading hshading
    case bracket => exact mem_brackets_iff.mpr hshape
    case code =>
      intro own hown t ht hstart hstop
      rw [hrows, hline] at hown
      cases Option.some.inj hown
      obtain ⟨d, hd⟩ := getElem?_shading_of_mem_tokens ht hstart hstop
      rw [hshading] at hd
      cases Option.some.inj hd
      constructor <;> (intro hsame; rw [hsame] at hkind; cases hkind)
  · rintro ⟨hchar, hbracket, hcode⟩
    obtain ⟨row, column⟩ := p
    obtain ⟨line, hline, hcolumn⟩ := Option.bind_eq_some_iff.mp hchar
    have hlexed := hrows row
    rw [hline, Option.map_some] at hlexed
    have hshape := mem_brackets_iff.mp hbracket
    obtain ⟨t, ht, hstart, hstop, hshading⟩ := exists_token_of_getElem? hcolumn
    have hkind : t.kind.isBracket = true := by
      obtain ⟨hstring, hcomment⟩ := hcode _ hlexed t ht hstart hstop
      have hholds := Piece.holdsBrackets_of_mem_shading_cut hshape (List.mem_of_getElem? hshading)
      exact (hholds.resolve_left hstring).resolve_left hcomment
    refine Bracket.mem_glyphsFrom.mpr ⟨row, _, hlexed, ?_⟩
    rw [Nat.zero_add, Bracket.glyphsOfLine_lexLine, Bracket.mem_glyphsAt]
    exact ⟨hshape, t.kind, hshading, hkind⟩

/-- A table finds the brackets of the code of a text, each at its position, and nothing else. -/
structure BracketTable.FindsCode (table : BracketTable) (source : Text) : Prop where
  ordered : Ordered table.entries
  isSome_iff : ∀ p, (table.get? p).isSome ↔ ∃ c, CodeBracketAt source p c
  found : ∀ p, ∀ b ∈ table.get? p, b.position = p ∧ source.charAt? p = some b.glyph
  elsewhere : ∀ p, (¬ ∃ c, CodeBracketAt source p c) →
    table.get? p = none ∧ table.partner? p = none

theorem BracketTable.ordered_build (source : Text) :
    Ordered (build (lexText source)).entries := by
  have hpairwise := Bracket.pairwise_lt_glyphsFrom_lexLines 0 .code source.lines
  rw [← lexText, ← map_entries_build, List.pairwise_map] at hpairwise
  exact hpairwise

theorem BracketTable.get?_build_eq_some_iff {source : Text} {p : Position} {c : Char} :
    (∃ b, (build (lexText source)).get? p = some b ∧ b.glyph = c) ↔ CodeBracketAt source p c := by
  rw [← mem_glyphsFrom_lexText, ← exists_mem_entries]
  simp only [get?_eq_some_iff (ordered_build source), and_assoc]

/-- The table of a text sees exactly the brackets of its code. -/
theorem BracketTable.findsCode_build (source : Text) :
    (build (lexText source)).FindsCode source := by
  have hiff : ∀ p, ((build (lexText source)).get? p).isSome ↔ ∃ c, CodeBracketAt source p c := by
    intro p
    rw [Option.isSome_iff_exists]
    constructor
    · rintro ⟨b, hb⟩
      exact ⟨b.glyph, get?_build_eq_some_iff.mp ⟨b, hb, rfl⟩⟩
    · rintro ⟨c, hc⟩
      obtain ⟨b, hb, -⟩ := get?_build_eq_some_iff.mpr hc
      exact ⟨b, hb⟩
  constructor
  case ordered => exact ordered_build source
  case isSome_iff => exact hiff
  case found =>
    intro p b hb
    have hposition := ((get?_eq_some_iff (ordered_build source)).mp hb).2
    exact ⟨hposition, (get?_build_eq_some_iff.mp ⟨b, hb, rfl⟩).char⟩
  case elsewhere =>
    intro p hnot
    have hnone : (build (lexText source)).get? p = none := by
      rw [← hiff, Option.not_isSome_iff_eq_none] at hnot
      exact hnot
    exact ⟨hnone, partner?_eq_none_of_get? hnone⟩

end EditorAssist
