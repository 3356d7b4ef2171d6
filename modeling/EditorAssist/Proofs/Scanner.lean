import EditorAssist.Proofs.Cutting
import EditorAssist.Proofs.Inert

/-! A scanner that goes over a line character by character and only tells strings, comments and code
apart. The rules of the language draw the same borders. -/
namespace EditorAssist
open Recognizer

/-- What a character belongs to. -/
inductive Region where
  | code
  | string
  | comment
  deriving DecidableEq, Repr

/-- What tokens of a kind belong to. -/
def Region.ofKind : Token.Kind → Region
  | .comment => .comment
  | .string => .string
  | _ => .code

/-- The characters of a line with the region of each, and the mode the next line begins in. -/
structure Marking where
  marks : List (Char × Region)
  endMode : Mode
  deriving DecidableEq, Repr

/-- A marking with a stretch of one region put before it. -/
def Marking.prepend (m : Marking) (region : Region) (t : Text) : Marking :=
  ⟨t.map (·, region) ++ m.marks, m.endMode⟩

/-- The marking that the kinds of the tokens give. -/
def LexedLine.marking (line : LexedLine) : Marking :=
  ⟨line.tokens.flatMap fun t => t.lexeme.map (·, Region.ofKind t.kind), line.endMode⟩

@[simp] def scan : Mode → Text → Marking
  | mode, [] => ⟨[], mode⟩
  | .comment, ']' :: '#' :: rest => (scan .code rest).prepend .comment [']', '#']
  | .comment, c :: rest => (scan .comment rest).prepend .comment [c]
  | .quoted, '\\' :: c :: rest => (scan .quoted rest).prepend .string ['\\', c]
  | .quoted, '"' :: rest => (scan .code rest).prepend .string ['"']
  | .quoted, c :: rest => (scan .quoted rest).prepend .string [c]
  | .code, '#' :: '[' :: rest => (scan .comment rest).prepend .comment ['#', '[']
  | .code, '#' :: rest => ⟨('#' :: rest).map (·, .comment), .code⟩
  | .code, '"' :: rest => (scan .quoted rest).prepend .string ['"']
  | .code, '\x27' :: '\\' :: c :: '\x27' :: rest =>
    (scan .code rest).prepend .string ['\x27', '\\', c, '\x27']
  | .code, '\x27' :: c :: '\x27' :: rest =>
    if c = '\x27' ∨ c = '\\' then (scan .code (c :: '\x27' :: rest)).prepend .code ['\x27']
    else (scan .code rest).prepend .string ['\x27', c, '\x27']
  | .code, c :: rest => (scan .code rest).prepend .code [c]

theorem scan_comment_close (rest : Text) :
    scan .comment (']' :: '#' :: rest) = (scan .code rest).prepend .comment [']', '#'] := rfl

theorem scan_quoted_escape (c : Char) (rest : Text) :
    scan .quoted ('\\' :: c :: rest) = (scan .quoted rest).prepend .string ['\\', c] := rfl

theorem scan_quoted_close (rest : Text) :
    scan .quoted ('"' :: rest) = (scan .code rest).prepend .string ['"'] := rfl

theorem scan_code_open (rest : Text) :
    scan .code ('#' :: '[' :: rest) = (scan .comment rest).prepend .comment ['#', '['] := rfl

theorem scan_code_quote (rest : Text) :
    scan .code ('"' :: rest) = (scan .quoted rest).prepend .string ['"'] := rfl

theorem scan_code_escape (c : Char) (rest : Text) :
    scan .code ('\x27' :: '\\' :: c :: '\x27' :: rest) =
      (scan .code rest).prepend .string ['\x27', '\\', c, '\x27'] := rfl

theorem Marking.prepend_append (m : Marking) (region : Region) (t u : Text) :
    m.prepend region (t ++ u) = (m.prepend region u).prepend region t := by
  simp [prepend]

theorem scan_comment_cons {c : Char} {cs : Text}
    (hclose : ∀ rest, c = ']' → cs = '#' :: rest → False) :
    scan .comment (c :: cs) = (scan .comment cs).prepend .comment [c] := by
  rw [scan]
  exact hclose

theorem scan_quoted_cons {c : Char} {cs : Text} (hquote : c ≠ '"')
    (hescape : ∀ d rest, c = '\\' → cs = d :: rest → False) :
    scan .quoted (c :: cs) = (scan .quoted cs).prepend .string [c] := by
  rw [scan]
  · exact hescape
  · exact hquote

theorem scan_code_hash {cs : Text} (h : cs.head? ≠ some '[') :
    scan .code ('#' :: cs) = ⟨('#' :: cs).map (·, .comment), .code⟩ := by
  rw [scan]
  rintro rest rfl
  exact h rfl

theorem scan_code_single {c : Char} (rest : Text) (hquote : c ≠ '\x27') (hescape : c ≠ '\\') :
    scan .code ('\x27' :: c :: '\x27' :: rest) =
      (scan .code rest).prepend .string ['\x27', c, '\x27'] := by
  rw [scan, if_neg (by simp [hquote, hescape])]
  exact fun _ hc _ => hescape hc

/-- A character that begins no comment, string or character literal is code. -/
theorem scan_code_cons {c : Char} {cs : Text} (hhash : c ≠ '#') (hquote : c ≠ '"')
    (hliteral : charLiteral? (c :: cs) = none) (h : '\n' ∉ cs) :
    scan .code (c :: cs) = (scan .code cs).prepend .code [c] := by
  have hescape : ∀ d rest, c = '\x27' → cs = '\\' :: d :: '\x27' :: rest → False := by
    rintro d rest rfl rfl
    have hd : d ≠ '\n' := by
      rintro rfl
      simp at h
    simp [charLiteral?, hd] at hliteral
  by_cases hsingle : ∃ d rest, c = '\x27' ∧ cs = d :: '\x27' :: rest
  · obtain ⟨d, rest, rfl, rfl⟩ := hsingle
    have hd : d = '\x27' ∨ d = '\\' := by
      by_contra hd
      rw [charLiteral?] at hliteral
      · simp [hd] at hliteral
      · exact fun _ he _ => hd (Or.inr he)
    rw [scan, if_pos hd]
    exact fun rest hd hrest => hescape '\x27' rest rfl (by rw [hd, hrest])
  · rw [scan]
    · exact fun rest hc _ => hhash hc
    · exact hhash
    · exact hquote
    · exact hescape
    · exact fun d rest hc hcs => hsingle ⟨d, rest, hc, hcs⟩

theorem scan_code_inert {t : Text} {n : Nat} (ht : '\n' ∉ t) (h : MadeOf isInert t n) :
    scan .code t = (scan .code (t.drop n)).prepend .code (t.take n) := by
  induction n generalizing t with
  | zero => rfl
  | succ n ih =>
    cases t with
    | nil => rfl
    | cons c cs =>
      have hinert := h.chars
      rw [List.take_succ_cons, List.forall_mem_cons] at hinert
      have hc : (c ≠ '#' ∧ c ≠ '"') ∧ c ≠ '\x27' := by
        simpa [isInert] using hinert.1
      have hcs : '\n' ∉ cs := fun hmem => ht (List.mem_cons_of_mem c hmem)
      have hrest : MadeOf isInert cs n := ⟨Nat.le_of_succ_le_succ h.fits, hinert.2⟩
      rw [scan_code_cons hc.1.1 hc.1.2 (charLiteral?_eq_none hc.2) hcs, ih hcs hrest,
        ← Marking.prepend_append]
      rfl

theorem scan_code_unmarked {t : Text} {n : Nat} (ht : '\n' ∉ t) (h : MadeOf isUnmarked t n) :
    scan .code t = (scan .code (t.drop n)).prepend .code (t.take n) :=
  scan_code_inert ht (h.mono fun _ => isInert_of_isUnmarked)

theorem scan_comment_of_commentEnd? {t : Text} {n : Nat} (ht : '\n' ∉ t)
    (h : commentEnd? t = some n) :
    scan .comment t = (scan .code (t.drop n)).prepend .comment (t.take n) := by
  fun_induction commentEnd? t generalizing n with
  | case1 => cases h
  | case2 rest =>
    cases Option.some.inj h
    exact scan_comment_close rest
  | case3 => cases h
  | case4 c cs hclose hc ih =>
    obtain ⟨m, hm, rfl⟩ := Option.map_eq_some_iff.mp h
    have hcs : '\n' ∉ cs := fun hmem => ht (List.mem_cons_of_mem c hmem)
    rw [scan_comment_cons, ih hcs hm, ← Marking.prepend_append]
    · rfl
    · exact hclose

theorem scan_comment_of_commentEnd?_eq_none {t : Text} (ht : '\n' ∉ t)
    (h : commentEnd? t = none) :
    scan .comment t = (scan .comment []).prepend .comment t := by
  fun_induction commentEnd? t with
  | case1 => rfl
  | case2 => cases h
  | case3 => simp at ht
  | case4 c cs hclose hc ih =>
    have hcs : '\n' ∉ cs := fun hmem => ht (List.mem_cons_of_mem c hmem)
    rw [scan_comment_cons, ih hcs (Option.map_eq_none_iff.mp h), ← Marking.prepend_append]
    · rfl
    · exact hclose

theorem scan_quoted_of_closingQuote? {t : Text} {n : Nat} (ht : '\n' ∉ t)
    (h : closingQuote? t = some n) :
    scan .quoted t = (scan .code (t.drop n)).prepend .string (t.take n) := by
  fun_induction closingQuote? t generalizing n with
  | case1 => cases h
  | case2 rest =>
    cases Option.some.inj h
    exact scan_quoted_close rest
  | case3 => cases h
  | case4 c cs hc ih =>
    obtain ⟨m, hm, rfl⟩ := Option.map_eq_some_iff.mp h
    have hcs : '\n' ∉ cs := fun hmem => ht (by simp [hmem])
    rw [scan_quoted_escape, ih hcs hm, ← Marking.prepend_append]
    rfl
  | case5 c cs hquote hescape ih =>
    obtain ⟨m, hm, rfl⟩ := Option.map_eq_some_iff.mp h
    have hcs : '\n' ∉ cs := fun hmem => ht (by simp [hmem])
    rw [scan_quoted_cons hquote hescape, ih hcs hm, ← Marking.prepend_append]
    rfl

/-- What the text that a rule matches belongs to. -/
def Rule.region (rule : Rule) : Region :=
  match rule.action with
  | .emit kind => .ofKind kind
  | .byWord | .dotted => .code

theorem scan_lineComment {t : Text} {n : Nat} (ht : '\n' ∉ t) (hopen : ¬ ['#', '['] <+: t)
    (h : lineComment? t = some n) :
    scan .code t = (scan .code (t.drop n)).prepend .comment (t.take n) := by
  cases t with
  | nil => cases h
  | cons c cs =>
    have hcs : '\n' ∉ cs := fun hmem => ht (List.mem_cons_of_mem c hmem)
    simp only [lineComment?, word?, takeWhile_isInline hcs,
      beq_iff_eq] at h
    split_ifs at h with hc
    cases Option.some.inj h
    subst hc
    have hhead : cs.head? ≠ some '[' := by
      intro hhead
      obtain ⟨rest, rfl⟩ := List.head?_eq_some_iff.mp hhead
      exact hopen ⟨rest, rfl⟩
    rw [scan_code_hash hhead, List.drop_of_length_le (by simp), List.take_of_length_le (by simp)]
    simp [Marking.prepend]

theorem scan_string {t : Text} {n : Nat} (ht : '\n' ∉ t) (h : string? t = some n) :
    scan .code t = (scan .code (t.drop n)).prepend .string (t.take n) := by
  unfold string? at h
  split at h
  · next rest =>
    obtain ⟨m, hclose, rfl⟩ := Option.map_eq_some_iff.mp h
    have hrest : '\n' ∉ rest := fun hmem => ht (List.mem_cons_of_mem _ hmem)
    rw [scan_code_quote, scan_quoted_of_closingQuote? hrest hclose, ← Marking.prepend_append]
    rfl
  · cases h

theorem scan_charLiteral {t : Text} {n : Nat} (h : charLiteral? t = some n) :
    scan .code t = (scan .code (t.drop n)).prepend .string (t.take n) := by
  unfold charLiteral? at h
  split at h
  · next c rest =>
    split_ifs at h
    cases Option.some.inj h
    exact scan_code_escape c rest
  · next c rest _ =>
    split_ifs at h with hc
    cases Option.some.inj h
    exact scan_code_single rest (fun hquote => hc (.inl hquote)) fun hescape => hc (.inr hescape)
  · cases h

/-- Where a rule of the table matches first, it takes a line as the scanner does. -/
theorem scan_of_first?_code {t : Text} (ht : '\n' ∉ t) {rule : Rule} {n : Nat}
    (h : Rule.first? RuleTable.codeRules t = some (rule, n)) :
    scan .code t = (scan (rule.next.getD .code) (t.drop n)).prepend rule.region (t.take n) := by
  rcases Rule.first?_cons_eq_some.mp h with ⟨hreach, rfl⟩ | ⟨hreach, h⟩
  · obtain ⟨rfl, rest, rfl⟩ := literal?_eq_some (Rule.recognize_of_reach? hreach).1
    exact scan_code_open rest
  have hopen : ¬ ['#', '['] <+: t := by
    intro hopen
    have hmatch : literal? ['#', '['] t = some 2 := if_pos (List.isPrefixOf_iff_prefix.mpr hopen)
    rw [Rule.reach?_of_recognize hmatch (by decide)] at hreach
    cases hreach
  obtain ⟨hrule, hmatch, -⟩ := Rule.of_first?_eq_some h
  simp only [List.mem_cons, List.not_mem_nil, or_false] at hrule
  -- one rule after another, in the order of the table
  rcases hrule with rfl | rfl | rfl | rfl | rfl | rfl | rfl | rfl | rfl | rfl | rfl | rfl
  · exact scan_lineComment ht hopen hmatch
  · exact scan_code_unmarked ht
      (madeOf_word? (fun _ => isUnmarked_of_isUpper) (fun _ => isUnmarked_of_isNamePart) hmatch)
  · exact scan_code_unmarked ht (madeOf_dottedName? hmatch)
  · exact scan_string ht hmatch
  · exact scan_charLiteral hmatch
  · obtain ⟨rfl, rest, rfl⟩ := literal?_eq_some hmatch
    exact scan_code_quote rest
  · exact scan_code_unmarked ht (NumberLiteral.madeOf_number? hmatch)
  · exact scan_code_unmarked ht
      (madeOf_word? (fun _ => isUnmarked_of_isNameStart) (fun _ => isUnmarked_of_isNamePart)
        hmatch)
  · exact scan_code_unmarked ht (madeOf_operator? hmatch)
  · exact scan_code_inert ht
      ((madeOf_one? hmatch).mono fun _ hc => isInert_of_class rfl rfl rfl hc)
  · exact scan_code_inert ht
      ((madeOf_one? hmatch).mono fun _ hc => isInert_of_class rfl rfl rfl hc)
  · exact scan_code_unmarked ht ((madeOf_run? hmatch).mono fun _ => isUnmarked_of_isBlank)

theorem scan_of_first?_comment {t : Text} (ht : '\n' ∉ t) {rule : Rule} {n : Nat}
    (h : Rule.first? RuleTable.commentRules t = some (rule, n)) :
    scan .comment t =
      (scan (rule.next.getD .comment) (t.drop n)).prepend rule.region (t.take n) := by
  rcases Rule.first?_cons_eq_some.mp h with ⟨hreach, rfl⟩ | ⟨hreach, h⟩
  · exact scan_comment_of_commentEnd? ht (Rule.recognize_of_reach? hreach).1
  have hopen : commentEnd? t = none := by
    cases hend : commentEnd? t with
    | none => rfl
    | some m =>
      rw [Rule.reach?_of_recognize hend (commentEnd?_pos hend)] at hreach
      cases hreach
  obtain ⟨hrule, hmatch, -⟩ := Rule.of_first?_eq_some h
  rw [List.mem_singleton] at hrule
  subst hrule
  have hlength : t.length = n := by
    simpa [run?, takeWhile_isInline ht] using hmatch
  rw [← hlength, List.drop_length, List.take_length]
  exact scan_comment_of_commentEnd?_eq_none ht hopen

theorem scan_quoted_run (t : Text) {n : Nat}
    (h : run? isStringBody t = some n) :
    scan .quoted t = (scan .quoted (t.drop n)).prepend .string (t.take n) := by
  induction t generalizing n with
  | nil => simp [Marking.prepend]
  | cons c cs ih =>
    cases Option.some.inj h
    by_cases hc : isStringBody c = true
    · have hbody : c ≠ '"' ∧ c ≠ '\\' := by simpa [isStringBody] using hc
      rw [scan_quoted_cons hbody.1 fun _ _ hescape => absurd hescape hbody.2, ih rfl,
        ← Marking.prepend_append, List.takeWhile_cons_of_pos hc]
      rfl
    · rw [List.takeWhile_cons_of_neg hc]
      rfl

theorem scan_of_first?_quoted {t : Text} (ht : '\n' ∉ t) {rule : Rule} {n : Nat}
    (h : Rule.first? RuleTable.quotedRules t = some (rule, n)) :
    scan .quoted t =
      (scan (rule.next.getD .quoted) (t.drop n)).prepend rule.region (t.take n) := by
  rcases Rule.first?_cons_eq_some.mp h with ⟨hreach, rfl⟩ | ⟨hreach, h⟩
  · have hmatch := (Rule.recognize_of_reach? hreach).1
    dsimp only [escape?] at hmatch
    split at hmatch
    · split_ifs at hmatch
      cases Option.some.inj hmatch
      exact scan_quoted_escape _ _
    · cases hmatch
  obtain ⟨hrule, hmatch, -⟩ := Rule.of_first?_eq_some h
  simp only [List.mem_cons, List.not_mem_nil, or_false] at hrule
  rcases hrule with rfl | rfl | rfl
  · exact scan_quoted_run t hmatch
  · obtain ⟨rfl, rest, rfl⟩ := literal?_eq_some hmatch
    cases rest with
    | nil => rfl
    | cons c rest =>
      have hc : c ≠ '\n' := by
        rintro rfl
        simp at ht
      have hescape : escape? ('\\' :: c :: rest) = some 2 := if_neg hc
      rw [List.singleton_append, Rule.reach?_of_recognize hescape (by decide)] at hreach
      cases hreach
  · obtain ⟨rfl, rest, rfl⟩ := literal?_eq_some hmatch
    exact scan_quoted_close rest

/-- Where a rule of the language matches first, it takes a line as the scanner does. -/
theorem scan_of_first? {mode : Mode} {t : Text} (ht : '\n' ∉ t) {rule : Rule} {n : Nat}
    (h : Rule.first? (RuleTable.standard mode) t = some (rule, n)) :
    scan mode t = (scan (rule.next.getD mode) (t.drop n)).prepend rule.region (t.take n) := by
  cases mode with
  | code => exact scan_of_first?_code ht h
  | comment => exact scan_of_first?_comment ht h
  | quoted => exact scan_of_first?_quoted ht h

/-- Where no rule matches, the scanner finds one character of code. -/
theorem scan_of_first?_eq_none {mode : Mode} {c : Char} {cs : Text} (ht : '\n' ∉ c :: cs)
    (h : Rule.first? (RuleTable.standard mode) (c :: cs) = none) :
    scan mode (c :: cs) = (scan mode cs).prepend .code [c] := by
  cases mode with
  | code =>
    have hnone := Rule.first?_eq_none_iff.mp h
    simp only [RuleTable.standard, RuleTable.codeRules, List.forall_mem_cons] at hnone
    obtain ⟨-, hcomment, -, -, -, hchar, hstring, -⟩ := hnone
    have hhash : c ≠ '#' := by
      rintro rfl
      have hmatch : lineComment? ('#' :: cs) = some ((cs.takeWhile isInline).length + 1) := rfl
      exact Rule.reach?_ne_none hmatch (Nat.succ_pos _) hcomment
    have hquote : c ≠ '"' := by
      rintro rfl
      exact Rule.reach?_ne_none (n := 1) rfl (by decide) hstring
    have hliteral : charLiteral? (c :: cs) = none := by
      cases hmatch : charLiteral? (c :: cs) with
      | none => rfl
      | some n => exact absurd hchar (Rule.reach?_ne_none hmatch (charLiteral?_pos hmatch))
    exact scan_code_cons hhash hquote hliteral fun hmem => ht (List.mem_cons_of_mem c hmem)
  | comment =>
    obtain rfl := (Rule.first?_comment_eq_none_iff c cs).mp h
    exact absurd List.mem_cons_self ht
  | quoted => exact absurd h (Rule.first?_quoted_ne_none c cs)

namespace Piece

/-- The characters of some pieces with the regions of their kinds. -/
def marks (pieces : List Piece) : List (Char × Region) :=
  pieces.flatMap fun p => p.text.map (·, Region.ofKind p.kind)

@[simp] theorem marks_nil : marks [] = [] := rfl

@[simp] theorem marks_cons (p : Piece) (rest : List Piece) :
    marks (p :: rest) = p.text.map (·, Region.ofKind p.kind) ++ marks rest := by
  simp [marks]

theorem marks_append (pieces rest : List Piece) :
    marks (pieces ++ rest) = marks pieces ++ marks rest := by
  simp [marks]

theorem region_wordKind (word : Text) : Region.ofKind (wordKind word) = .code := by
  unfold wordKind
  split_ifs <;> rfl

theorem marks_ofMatch (rule : Rule) (matched : Text) :
    marks (ofMatch rule matched) = matched.map (·, rule.region) := by
  unfold ofMatch Rule.region
  cases rule.action with
  | emit kind => simp [Rule.Action.pieces]
  | byWord => simp [Rule.Action.pieces, region_wordKind]
  | dotted =>
    simp only [Rule.Action.pieces, List.map_cons, List.map_nil, marks_cons, marks_nil,
      List.append_nil]
    exact (List.map_append).symm.trans (congrArg _ (List.take_append_drop 1 matched))

theorem marks_layOut (column : Nat) (pieces : List Piece) :
    ((layOut column pieces).flatMap fun t => t.lexeme.map (·, Region.ofKind t.kind)) =
      marks pieces := by
  induction pieces generalizing column with
  | nil => rfl
  | cons p rest ih => simp [layOut, Token.place, ih]

theorem marks_eq_map_shading (pieces : List Piece) :
    marks pieces = (shading pieces).map fun (c, kind) => (c, Region.ofKind kind) := by
  induction pieces with
  | nil => rfl
  | cons p rest ih => simp [ih]

theorem marks_join {pieces : List Piece} (h : ∀ p ∈ pieces, p.Honest) :
    marks (join pieces) = marks pieces := by
  rw [marks_eq_map_shading, shading_join h, ← marks_eq_map_shading]

theorem marks_cut {mode : Mode} {line : Text} (h : '\n' ∉ line) :
    ⟨marks (cut .standard mode line).1, (cut .standard mode line).2⟩ = scan mode line := by
  induction mode, line using cut_induction .standard with
  | nil mode => simp
  | matched mode c cs rule n hfirst ih =>
    have hrest : '\n' ∉ (c :: cs).drop n := fun hmem => h (List.mem_of_mem_drop hmem)
    rw [scan_of_first? h hfirst, cut_eq_of_first? (List.cons_ne_nil c cs) hfirst, ← ih hrest,
      marks_append, marks_ofMatch]
    rfl
  | unmatched mode c cs hfirst ih =>
    have hcs : '\n' ∉ cs := fun hmem => h (List.mem_cons_of_mem c hmem)
    rw [scan_of_first?_eq_none h hfirst, cut_of_first?_eq_none hfirst, ← ih hcs]
    rfl

end Piece

/-- The tokens of a line tell strings, comments and code apart as the scanner does, and both end in
the same mode. -/
theorem marking_lexLine {mode : Mode} {line : Text} (h : '\n' ∉ line) :
    (lexLine mode line).marking = scan mode line := by
  have hmarks := Piece.marks_join (Piece.honest_cut .standard mode line)
  rw [← Piece.marks_cut h]
  simp only [lexLine, RuleTable.lexLine, LexedLine.marking, Piece.marks_layOut, hmarks]

/-- A quote as a character literal, a string with an escaped quote and a hash in it, and a block
comment that stays open. -/
theorem marking_lexLine_quotes :
    let line := ['1', '\x27', '"', '\x27', '"', '\\', '"', '#', '"', '#', '[', '"']
    '\n' ∉ line ∧ (lexLine .code line).marking =
      ⟨[('1', .code), ('\x27', .string), ('"', .string), ('\x27', .string), ('"', .string),
        ('\\', .string), ('"', .string), ('#', .string), ('"', .string), ('#', .comment),
        ('[', .comment), ('"', .comment)], .comment⟩ := by
  intro line
  have hline : '\n' ∉ line := by decide
  exact ⟨hline, marking_lexLine hline⟩

end EditorAssist
