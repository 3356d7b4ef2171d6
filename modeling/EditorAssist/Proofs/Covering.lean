import EditorAssist.Proofs.Cutting
import EditorAssist.Proofs.Lines
import EditorAssist.Proofs.Relexing

/-! Lexing loses nothing. The tokens of a line stand side by side and spell it, and the lexed lines
of a text spell the text. -/
namespace EditorAssist

namespace Recognizer

/-- A dotted name has a dot and at least one character behind it. -/
theorem of_dottedName?_eq_some {t : Text} {n : Nat} (h : dottedName? t = some n) :
    2 ≤ n ∧ 2 ≤ t.length := by
  unfold dottedName? at h
  split at h
  · next rest =>
    obtain ⟨m, hname, rfl⟩ := Option.map_eq_some_iff.mp h
    cases rest with
    | nil => cases hname
    | cons c cs =>
      simp only [word?] at hname
      split_ifs at hname
      cases Option.some.inj hname
      simp only [List.length_cons]
      omega
  · cases h

end Recognizer

namespace Rule

theorem Action.flatMap_pieces (action : Action) (matched : Text) :
    (action.pieces matched).flatMap (·.2) = matched := by
  cases action with
  | emit kind => simp [Action.pieces]
  | byWord => simp [Action.pieces]
  | dotted =>
    simp only [Action.pieces, List.flatMap_cons, List.flatMap_nil, List.append_nil]
    exact List.take_append_drop 1 matched

/-- An action that one rule alone takes, and in code, tells the rule. -/
theorem eq_of_action {mode : Mode} {rule only : Rule} {action : Action}
    (hcode : (RuleTable.standard .code).filter (·.action == action) = [only])
    (hcomment : (RuleTable.standard .comment).filter (·.action == action) = [])
    (hquoted : (RuleTable.standard .quoted).filter (·.action == action) = [])
    (h : rule ∈ RuleTable.standard mode) (haction : rule.action = action) :
    mode = .code ∧ rule = only := by
  have hmem : rule ∈ (RuleTable.standard mode).filter (·.action == action) :=
    List.mem_filter.mpr ⟨h, beq_iff_eq.mpr haction⟩
  cases mode with
  | code =>
    rw [hcode] at hmem
    exact ⟨rfl, List.mem_singleton.mp hmem⟩
  | comment =>
    rw [hcomment] at hmem
    cases hmem
  | quoted =>
    rw [hquoted] at hmem
    cases hmem

/-- In the table of the language only the rule for dotted names divides what it matches. -/
theorem recognize_eq_of_dotted {mode : Mode} {rule : Rule} (h : rule ∈ RuleTable.standard mode)
    (hdotted : rule.action = .dotted) : rule.recognize = Recognizer.dottedName? := by
  obtain ⟨-, rfl⟩ := eq_of_action rfl rfl rfl h hdotted
  rfl

theorem Action.ne_nil_of_mem_pieces {action : Action} {matched : Text} (hmatched : matched ≠ [])
    (hdotted : action = .dotted → 2 ≤ matched.length) {found : Token.Kind × Text}
    (h : found ∈ action.pieces matched) : found.2 ≠ [] := by
  cases action with
  | emit kind =>
    rw [List.mem_singleton.mp h]
    exact hmatched
  | byWord =>
    rw [List.mem_singleton.mp h]
    exact hmatched
  | dotted =>
    have hlength := hdotted rfl
    simp only [Action.pieces, List.mem_cons, List.not_mem_nil, or_false] at h
    rw [← List.length_pos_iff]
    rcases h with rfl | rfl <;> simp only [List.length_take, List.length_drop] <;> omega

end Rule

namespace Piece

def spelling (pieces : List Piece) : Text :=
  pieces.flatMap (·.text)

@[simp] theorem spelling_nil : spelling [] = [] := rfl

@[simp] theorem spelling_cons (p : Piece) (rest : List Piece) :
    spelling (p :: rest) = p.text ++ spelling rest := by
  simp [spelling]

theorem spelling_append (pieces rest : List Piece) :
    spelling (pieces ++ rest) = spelling pieces ++ spelling rest := by
  simp [spelling]

theorem spelling_ofMatch (rule : Rule) (matched : Text) :
    spelling (ofMatch rule matched) = matched := by
  rw [spelling, ofMatch, List.flatMap_map]
  exact rule.action.flatMap_pieces matched

/-- Cutting a line by any table loses nothing. -/
theorem spelling_cut (table : RuleTable) (mode : Mode) (line : Text) :
    spelling (cut table mode line).1 = line := by
  induction mode, line using cut_induction table with
  | nil mode => rfl
  | matched mode c cs rule n hfirst ih =>
    rw [cut_eq_of_first? (List.cons_ne_nil c cs) hfirst, spelling_append, spelling_ofMatch, ih,
      List.take_append_drop]
  | unmatched mode c cs hfirst ih =>
    rw [cut_of_first?_eq_none hfirst, spelling_cons, ih]
    rfl

theorem spelling_attach (p : Piece) (pieces : List Piece) :
    spelling (attach p pieces) = p.text ++ spelling pieces := by
  cases pieces with
  | nil => simp [attach]
  | cons q rest => by_cases hjoins : p.joins q = true <;> simp [attach, hjoins]

theorem spelling_join (pieces : List Piece) : spelling (join pieces) = spelling pieces := by
  induction pieces with
  | nil => rfl
  | cons p rest ih =>
    rw [spelling_cons, ← ih]
    exact spelling_attach p (join rest)

theorem ne_nil_of_mem_cut {mode : Mode} {line : Text} :
    ∀ p ∈ (cut .standard mode line).1, p.text ≠ [] := by
  induction mode, line using cut_induction .standard with
  | nil mode => simp
  | matched mode c cs rule n hfirst ih =>
    obtain ⟨hrule, hmatch, hn⟩ := Rule.of_first?_eq_some hfirst
    have hmatched : (c :: cs).take n ≠ [] := by
      rw [← List.length_pos_iff, List.length_take, List.length_cons]
      omega
    have hdotted : rule.action = .dotted → 2 ≤ ((c :: cs).take n).length := by
      intro haction
      rw [Rule.recognize_eq_of_dotted hrule haction] at hmatch
      obtain ⟨htwo, hlength⟩ := Recognizer.of_dottedName?_eq_some hmatch
      rw [List.length_take]
      omega
    rw [cut_eq_of_first? (List.cons_ne_nil c cs) hfirst]
    intro p hp
    rcases List.mem_append.mp hp with hp | hp
    · obtain ⟨found, hfound, rfl⟩ := List.mem_map.mp hp
      exact Rule.Action.ne_nil_of_mem_pieces hmatched hdotted hfound
    · exact ih p hp
  | unmatched mode c cs hfirst ih =>
    rw [cut_of_first?_eq_none hfirst, List.forall_mem_cons]
    exact ⟨List.cons_ne_nil c [], ih⟩

theorem ne_nil_of_mem_join {pieces : List Piece} (h : ∀ p ∈ pieces, p.text ≠ []) :
    ∀ p ∈ join pieces, p.text ≠ [] := by
  induction pieces with
  | nil => exact h
  | cons p rest ih =>
    rw [List.forall_mem_cons] at h
    have hrest := ih h.2
    change ∀ q ∈ attach p (join rest), q.text ≠ []
    cases hjoin : join rest with
    | nil => simpa [attach] using h.1
    | cons q others =>
      rw [hjoin, List.forall_mem_cons] at hrest
      by_cases hjoins : p.joins q = true
      · simpa [attach, hjoins, h.1] using hrest.2
      · simpa [attach, hjoins, h.1] using hrest

/-- A token of a layout is one of the pieces, behind what the pieces before it spell. -/
theorem exists_append_of_mem_layOut {pieces : List Piece} {column : Nat} {t : Token}
    (h : t ∈ layOut column pieces) : ∃ front p back, pieces = front ++ p :: back ∧
      t = Token.place p.kind p.text (column + (spelling front).length) := by
  induction pieces generalizing column with
  | nil => cases h
  | cons p rest ih =>
    rcases List.mem_cons.mp h with rfl | h
    · exact ⟨[], p, rest, rfl, rfl⟩
    · obtain ⟨front, q, back, rfl, rfl⟩ := ih h
      refine ⟨p :: front, q, back, rfl, ?_⟩
      rw [spelling_cons, List.length_append, Nat.add_assoc]

theorem exists_piece_of_mem_layOut {pieces : List Piece} {column : Nat} {t : Token}
    (h : t ∈ layOut column pieces) : ∃ p ∈ pieces, t.kind = p.kind ∧ t.lexeme = p.text := by
  obtain ⟨front, p, back, rfl, rfl⟩ := exists_append_of_mem_layOut h
  exact ⟨p, by simp, rfl, rfl⟩

/-- Where a token of a layout stands among what the pieces spell. -/
theorem exists_of_mem_layOut {pieces : List Piece} {column : Nat} {t : Token}
    (h : t ∈ layOut column pieces) :
    ∃ a b, spelling pieces = a ++ t.lexeme ++ b ∧ t.start = column + a.length ∧
      t.stop = t.start + t.lexeme.length := by
  obtain ⟨front, p, back, rfl, rfl⟩ := exists_append_of_mem_layOut h
  refine ⟨spelling front, spelling back, ?_, rfl, rfl⟩
  rw [spelling_append, spelling_cons, List.append_assoc]
  rfl

theorem start_of_head?_layOut {pieces : List Piece} {column : Nat} {t : Token}
    (h : (layOut column pieces).head? = some t) : t.start = column := by
  cases pieces with
  | nil => cases h
  | cons p rest =>
    cases Option.some.inj h
    rfl

theorem isChain_layOut (column : Nat) (pieces : List Piece) :
    (layOut column pieces).IsChain fun a b => b.start = a.stop := by
  induction pieces generalizing column with
  | nil => exact .nil
  | cons p rest ih =>
    cases rest with
    | nil => exact .singleton _
    | cons q rest => exact .cons_cons rfl (ih (column + p.text.length))

/-- What holds of neighbouring pieces holds of their tokens. -/
theorem isChain_layOut_of {R : Piece → Piece → Prop} {S : Token → Token → Prop}
    (hRS : ∀ p q column, R p q → S (Token.place p.kind p.text column)
      (Token.place q.kind q.text (column + p.text.length)))
    {pieces : List Piece} (h : pieces.IsChain R) (column : Nat) :
    (layOut column pieces).IsChain S := by
  induction pieces generalizing column with
  | nil => exact .nil
  | cons p rest ih =>
    cases rest with
    | nil => exact .singleton _
    | cons q rest =>
      obtain ⟨hpq, hrest⟩ := List.isChain_cons_cons.mp h
      exact .cons_cons (hRS p q column hpq) (ih hrest (column + p.text.length))

theorem stop_of_getLast?_layOut {pieces : List Piece} {column : Nat} {t : Token}
    (h : (layOut column pieces).getLast? = some t) :
    t.stop = column + (spelling pieces).length := by
  induction pieces generalizing column with
  | nil => cases h
  | cons p rest ih =>
    rw [spelling_cons, List.length_append, ← Nat.add_assoc]
    cases rest with
    | nil =>
      have ht : Token.place p.kind p.text column = t := Option.some.inj h
      rw [← ht]
      rfl
    | cons q rest =>
      refine ih ?_
      rw [← h]
      exact List.getLast?_cons_cons.symm

theorem text_layOut (column : Nat) (pieces : List Piece) (mode : Mode) :
    LexedLine.text ⟨layOut column pieces, mode⟩ = spelling pieces := by
  induction pieces generalizing column with
  | nil => rfl
  | cons p rest ih =>
    rw [spelling_cons, ← ih (column + p.text.length)]
    rfl

end Piece

/-- The tokens of a lexed line stand side by side over all columns of a line and spell it. -/
structure LexedLine.Tiles (lexed : LexedLine) (line : Text) : Prop where
  nonempty : ∀ t ∈ lexed.tokens, t.lexeme ≠ []
  first : ∀ t ∈ lexed.tokens.head?, t.start = 0
  adjacent : lexed.tokens.IsChain fun a b => b.start = a.stop
  last : ∀ t ∈ lexed.tokens.getLast?, t.stop = line.length
  lexeme : ∀ t ∈ lexed.tokens, t.lexeme = (line.drop t.start).take (t.stop - t.start)
  text : lexed.text = line

/-- The lexed lines of a text are its lines in order, each lexed in the mode in which the one before
it ended. -/
structure Rejoins (lexed : List LexedLine) (source : Text) : Prop where
  length : lexed.length = (source.splitOn '\n').length
  text : ['\n'].intercalate (lexed.map (·.text)) = source
  first : lexed.head? = (source.splitOn '\n').head?.map (lexLine .code)
  next : ∀ row, ∀ before ∈ lexed[row]?,
    lexed[row + 1]? = (source.splitOn '\n')[row + 1]?.map (lexLine before.endMode)

theorem spelling_lexLine (mode : Mode) (line : Text) :
    Piece.spelling (Piece.join (Piece.cut .standard mode line).1) = line := by
  rw [Piece.spelling_join, Piece.spelling_cut]

theorem text_lexLine (mode : Mode) (line : Text) : (lexLine mode line).text = line :=
  (Piece.text_layOut 0 _ _).trans (spelling_lexLine mode line)

theorem tiles_lexLine (mode : Mode) (line : Text) : (lexLine mode line).Tiles line := by
  have hspell := spelling_lexLine mode line
  constructor
  case nonempty =>
    intro t ht
    obtain ⟨p, hp, -, hlexeme⟩ := Piece.exists_piece_of_mem_layOut ht
    rw [hlexeme]
    exact Piece.ne_nil_of_mem_join Piece.ne_nil_of_mem_cut p hp
  case first =>
    intro t ht
    exact Piece.start_of_head?_layOut ht
  case adjacent => exact Piece.isChain_layOut 0 _
  case last =>
    intro t ht
    have hstop := Piece.stop_of_getLast?_layOut ht
    rwa [hspell, Nat.zero_add] at hstop
  case lexeme =>
    intro t ht
    obtain ⟨a, b, hline, hstart, hstop⟩ := Piece.exists_of_mem_layOut ht
    rw [hspell] at hline
    rw [hstop, hstart, Nat.zero_add, Nat.add_sub_cancel_left, hline, List.append_assoc,
      List.drop_left, List.take_left]
  case text => exact text_lexLine mode line

theorem map_text_lexLines (mode : Mode) (rows : List Text) :
    (lexLines mode rows).map (·.text) = rows := by
  induction rows generalizing mode with
  | nil => rfl
  | cons line rest ih => rw [lexLines, List.map_cons, text_lexLine, ih]

theorem getElem?_succ_lexLines {mode : Mode} {rows : List Text} {row : Nat} {before : LexedLine}
    (h : (lexLines mode rows)[row]? = some before) :
    (lexLines mode rows)[row + 1]? = rows[row + 1]?.map (lexLine before.endMode) := by
  induction rows generalizing mode row with
  | nil => cases h
  | cons line rest ih =>
    cases row with
    | zero =>
      cases Option.some.inj h
      cases rest <;> rfl
    | succ row => exact ih h

theorem rejoins_lexText (source : Text) : Rejoins (lexText source) source := by
  have hlines : source.lines = source.splitOn '\n' := source.lines_eq_splitOn
  constructor
  case length => rw [lexText, length_lexLines, hlines]
  case text => rw [lexText, map_text_lexLines, hlines, List.intercalate_splitOn]
  case first =>
    rw [lexText, ← hlines]
    cases source.lines <;> rfl
  case next =>
    intro row before hbefore
    rw [← hlines]
    exact getElem?_succ_lexLines hbefore

/-- Lexing is lossless: in every mode the tokens of a line tile it, and the lexed lines of a text
join to the text again. -/
theorem tiles_lexLine_and_rejoins_lexText :
    (∀ mode line, (lexLine mode line).Tiles line) ∧
      ∀ source, Rejoins (lexText source) source :=
  ⟨tiles_lexLine, rejoins_lexText⟩

end EditorAssist
