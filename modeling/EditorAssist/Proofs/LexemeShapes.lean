import EditorAssist.Proofs.Covering
import EditorAssist.Proofs.Inert
import EditorAssist.Proofs.LongestNumber
import EditorAssist.Proofs.Printing

/-! The shapes of lexemes. What a token spells is of the shape that its kind stands for, and ends
where that shape ends; a member has a point before it. -/
namespace EditorAssist
open Recognizer Rule RuleTable

def isModuleName : Text → Bool
  | c :: cs => isUpper c && cs.all isNamePart
  | [] => false

/-- A name that is neither reserved nor capitalized. -/
structure IsIdentifier (word : Text) : Prop where
  name : isName word = true
  keyword : String.ofList word ∉ keywords
  constant : String.ofList word ∉ constants
  uncapitalized : BeginsOutside isUpper word

/-- The lexemes of a kind in front of a text. A word goes on as long as a name can, and no operator
that is longer begins where one does. -/
def Token.Kind.Admits : Token.Kind → Text → Text → Prop
  | .keyword, word, rest => String.ofList word ∈ keywords ∧ BeginsOutside isNamePart rest
  | .constant, word, rest => String.ofList word ∈ constants ∧ BeginsOutside isNamePart rest
  | .identifier, word, rest => IsIdentifier word ∧ BeginsOutside isNamePart rest
  | .moduleName, word, rest => isModuleName word = true ∧ BeginsOutside isNamePart rest
  | .member, word, rest => isName word = true ∧ BeginsOutside isNamePart rest
  | .operator, glyphs, rest =>
    glyphs ∈ operators ∧ ∀ g ∈ operators, g <+: glyphs ++ rest → g.length ≤ glyphs.length
  | .opening, glyph, _ => ∃ c, isOpening c = true ∧ glyph = [c]
  | .closing, glyph, _ => ∃ c, isClosing c = true ∧ glyph = [c]
  | .number, literal, _ => NumberLiteral.IsLiteral literal
  | .plain, t, _ =>
    (∀ c ∈ t, EditorAssist.isBlank c = true) ∨ ∀ c ∈ t, EditorAssist.isBlank c = false
  | .string, _, _ | .comment, _, _ => True

/-- The tokens of a line stand at their lexemes, which their kinds admit, and a member follows a
point. -/
structure LexedLine.Shapely (lexed : LexedLine) (line : Text) : Prop where
  place : ∀ t ∈ lexed.tokens, line.drop t.start = t.lexeme ++ line.drop t.stop
  lexeme : ∀ t ∈ lexed.tokens, t.kind.Admits t.lexeme (line.drop t.stop)
  first : ∀ t ∈ lexed.tokens.head?, t.kind ≠ .member
  access : lexed.tokens.IsChain fun point t =>
    t.kind = .member → point.kind = .operator ∧ point.lexeme = ['.']

theorem BeginsOutside.take {p : Char → Bool} {t : Text} (h : BeginsOutside p t) (n : Nat) :
    BeginsOutside p (t.take n) := by
  intro c hc
  rw [Option.mem_def, List.head?_take] at hc
  split_ifs at hc
  exact h c hc

namespace NumberLiteral

theorem Admissible.isLiteral {t rest : Text} (h : Admissible t rest) : IsLiteral t := by
  cases h with
  | imaginary body hc _ =>
    rcases body with body | body
    · exact .imaginary body hc
    · exact .imaginaryWhole body hc
  | float body _ => exact .float body
  | long body hc _ => exact .long body hc
  | integer body _ => exact .integer body

theorem isLiteral_of_number? {t : Text} {n : Nat} (h : number? t = some n) :
    IsLiteral (t.take n) := by
  obtain ⟨u, v, rfl, hu, rfl⟩ := mem_literalLengths_of_number? h
  rw [List.take_left]
  exact hu.isLiteral

end NumberLiteral

namespace Recognizer

/-- A word is read up to where nothing continues it. -/
theorem exists_of_word? {start part : Char → Bool} {t : Text} {n : Nat}
    (h : word? start part t = some n) : ∃ c cs, t.take n = c :: cs ∧ start c = true ∧
      cs.all part = true ∧ BeginsOutside part (t.drop n) := by
  cases t with
  | nil => cases h
  | cons c cs =>
    simp only [word?] at h
    split_ifs at h with hc
    cases Option.some.inj h
    refine ⟨c, cs.takeWhile part, ?_, hc, ?_, ?_⟩
    · rw [List.take_succ_cons, take_length_takeWhile]
    · exact List.all_takeWhile
    · rw [List.drop_succ_cons, drop_length_takeWhile]
      exact beginsOutside_dropWhile part cs

theorem isName_of_word? {t : Text} {n : Nat} (h : word? isNameStart isNamePart t = some n) :
    isName (t.take n) = true ∧ BeginsOutside isNamePart (t.drop n) := by
  obtain ⟨c, cs, htake, hc, hcs, hrest⟩ := exists_of_word? h
  rw [htake]
  exact ⟨Bool.and_eq_true_iff.mpr ⟨hc, hcs⟩, hrest⟩

theorem isModuleName_of_word? {t : Text} {n : Nat} (h : word? isUpper isNamePart t = some n) :
    isModuleName (t.take n) = true ∧ BeginsOutside isNamePart (t.drop n) := by
  obtain ⟨c, cs, htake, hc, hcs, hrest⟩ := exists_of_word? h
  rw [htake]
  exact ⟨Bool.and_eq_true_iff.mpr ⟨hc, hcs⟩, hrest⟩

theorem exists_of_one? {p : Char → Bool} {t : Text} {n : Nat} (h : one? p t = some n) :
    ∃ c, p c = true ∧ t.take n = [c] := by
  cases t with
  | nil => cases h
  | cons c cs =>
    simp only [one?] at h
    split_ifs at h with hc
    cases Option.some.inj h
    exact ⟨c, hc, rfl⟩

/-- No operator stands in the table before a longer one that begins like it. -/
theorem operators_pairwise : operators.Pairwise fun o g => o <+: g → g.length ≤ o.length := by
  decide

theorem isOperatorChar_eq_false_of_isNameStart {c : Char} (h : isNameStart c = true) :
    isOperatorChar c = false := by
  refine Bool.eq_false_iff.mpr fun hc => ?_
  obtain ⟨g, hg, hmem⟩ := List.any_eq_true.mp hc
  have hall : (operators.all fun g => g.all fun c => !isNameStart c) = true := rfl
  have hglyphs := List.all_eq_true.mp (List.all_eq_true.mp hall g hg) c
  simpa [h] using hglyphs (List.contains_iff_mem.mp hmem)

/-- The operator that is read is the longest. -/
theorem admits_of_operator? {t : Text} {n : Nat} (h : operator? t = some n) :
    Token.Kind.operator.Admits (t.take n) (t.drop n) := by
  obtain ⟨o, hfind, rfl⟩ := Option.map_eq_some_iff.mp h
  obtain ⟨hbegins, before, after, hsplit, hbefore⟩ := List.find?_eq_some_iff_append.mp hfind
  rw [List.isPrefixOf_iff_prefix] at hbegins
  rw [Token.Kind.Admits, List.take_append_drop, ← List.prefix_iff_eq_take.mp hbegins]
  refine ⟨List.mem_of_find?_eq_some hfind, fun g hg hprefix => ?_⟩
  rw [hsplit, List.mem_append, List.mem_cons] at hg
  rcases hg with hg | rfl | hg
  · have hpassed := hbefore g hg
    rw [Bool.not_eq_true', Bool.eq_false_iff, ne_eq, List.isPrefixOf_iff_prefix] at hpassed
    exact absurd hprefix hpassed
  · exact Nat.le_refl _
  · -- of two that begin the text one begins the other
    rcases Nat.le_total g.length o.length with hle | hle
    · exact hle
    · have horder := operators_pairwise
      rw [hsplit, List.pairwise_append, List.pairwise_cons] at horder
      obtain ⟨-, ⟨hbehind, -⟩, -⟩ := horder
      exact hbehind g hg (List.prefix_of_prefix_length_le hbegins hprefix hle)

end Recognizer

namespace Rule

/-- What a rule with a fixed kind matches is of the shape of that kind. -/
theorem admits_of_emit {mode : Mode} {rule : Rule} (h : rule ∈ standard mode) {kind : Token.Kind}
    (haction : rule.action = .emit kind) {t : Text} {n : Nat}
    (hmatch : rule.recognize t = some n) : kind.Admits (t.take n) (t.drop n) := by
  induction h using standard_cases with
  | commentOpen | lineComment | string | char | stringOpen | commentClose | commentBody | escape
  | stringBody | backslash | stringClose =>
    cases haction
    trivial
  | access | name => cases haction
  | moduleName =>
    cases haction
    exact isModuleName_of_word? hmatch
  | number =>
    cases haction
    exact NumberLiteral.isLiteral_of_number? hmatch
  | operator =>
    cases haction
    exact admits_of_operator? hmatch
  | opening =>
    cases haction
    exact exists_of_one? hmatch
  | closing =>
    cases haction
    exact exists_of_one? hmatch
  | blanks =>
    cases haction
    exact .inl (madeOf_run? hmatch).chars

/-- A capitalized word is left to the rule for modules. -/
theorem beginsOutside_isUpper_of_byWord {t : Text} {rule : Rule} {n : Nat}
    (h : first? codeRules t = some (rule, n)) (haction : rule.action = .byWord) :
    BeginsOutside isUpper t := by
  intro c hc
  obtain ⟨cs, rfl⟩ := List.head?_eq_some_iff.mp hc
  refine Bool.eq_false_iff.mpr fun hupper => ?_
  have hhash : (c == '#') = false := beq_eq_false_of_class hupper rfl
  have hpassed : ∀ p ∈ codeClasses.take 2, p c = false := by
    simp [codeClasses, hhash]
  have hmatch : word? isUpper isNamePart (c :: cs) =
      some ((cs.takeWhile isNamePart).length + 1) := if_pos hupper
  have hmodule : first? (codeRules.drop 2) (c :: cs) =
      some (⟨"module_reference", word? isUpper isNamePart, .emit .moduleName, none⟩,
        (cs.takeWhile isNamePart).length + 1) :=
    first?_cons_of_recognize hmatch (Nat.succ_pos _)
  rw [first?_eq_drop codeRules_beginIn cs hpassed, hmodule] at h
  cases h
  cases haction

/-- In the table of the language only the rule for names tells words apart. -/
theorem recognize_eq_of_byWord {mode : Mode} {rule : Rule} (h : rule ∈ standard mode)
    (haction : rule.action = .byWord) :
    mode = .code ∧ rule.recognize = word? isNameStart isNamePart := by
  obtain ⟨rfl, rfl⟩ := eq_of_action rfl rfl rfl h haction
  exact ⟨rfl, rfl⟩

theorem admits_of_byWord {mode : Mode} {t : Text} {rule : Rule} {n : Nat}
    (h : first? (standard mode) t = some (rule, n)) (haction : rule.action = .byWord) :
    (wordKind (t.take n)).Admits (t.take n) (t.drop n) := by
  obtain ⟨hrule, hmatch, -⟩ := of_first?_eq_some h
  obtain ⟨rfl, hrecognize⟩ := recognize_eq_of_byWord hrule haction
  rw [hrecognize] at hmatch
  obtain ⟨hname, hrest⟩ := isName_of_word? hmatch
  have hupper := (beginsOutside_isUpper_of_byWord h haction).take n
  unfold wordKind
  split_ifs with hkeyword hconstant
  · exact ⟨List.contains_iff_mem.mp hkeyword, hrest⟩
  · exact ⟨List.contains_iff_mem.mp hconstant, hrest⟩
  · rw [List.contains_iff_mem] at hkeyword hconstant
    exact ⟨⟨hname, hkeyword, hconstant, hupper⟩, hrest⟩

theorem admits_of_dotted {mode : Mode} {rule : Rule} (h : rule ∈ standard mode)
    (haction : rule.action = .dotted) {t : Text} {n : Nat} (hmatch : rule.recognize t = some n) :
    ∃ name, t.take n = '.' :: name ∧ Token.Kind.operator.Admits ['.'] (name ++ t.drop n) ∧
      Token.Kind.member.Admits name (t.drop n) := by
  rw [recognize_eq_of_dotted h haction, dottedName?.eq_def] at hmatch
  split at hmatch
  · next rest =>
    obtain ⟨m, hword, rfl⟩ := Option.map_eq_some_iff.mp hmatch
    obtain ⟨hname, hrest⟩ := isName_of_word? hword
    refine ⟨rest.take m, rfl, ⟨by decide, fun g hg hprefix => ?_⟩, hname, hrest⟩
    have hbehind : BeginsOutside isOperatorChar (rest.take m ++ rest.drop m) := by
      obtain ⟨c, cs, hcons, hc, -⟩ := exists_cons_of_isName hname
      rw [hcons]
      exact beginsOutside_cons (isOperatorChar_eq_false_of_isNameStart hc)
    exact (prefix_of_prefix_append (fun _ => isOperatorChar_of_mem hg) hbehind hprefix).length_le
  · cases hmatch

/-- What no rule claims is white space inside a comment, and none outside. -/
theorem isBlank_of_first?_eq_none {mode : Mode} {c : Char} {cs : Text}
    (h : first? (standard mode) (c :: cs) = none) : isBlank c = (mode == .comment) := by
  cases mode with
  | code =>
    refine Bool.eq_false_iff.mpr fun hblank => ?_
    have hrule : ⟨"whitespace", run? isBlank, .emit .plain, none⟩ ∈ standard .code := by
      simp [standard, codeRules]
    exact reach?_ne_none (run?_cons_of_pos hblank cs) (Nat.succ_pos _)
      (reach?_eq_none_of_first? h hrule)
  | comment =>
    rw [(first?_comment_eq_none_iff c cs).mp h]
    rfl
  | quoted => exact absurd h (first?_quoted_ne_none c cs)

end Rule

namespace Piece

/-- Each piece is admitted by its kind in front of those behind it. -/
def Admitted : List Piece → Prop
  | [] => True
  | p :: rest => p.kind.Admits p.text (spelling rest) ∧ Admitted rest

theorem admits_of_admitted {front back : List Piece} {p : Piece} (h : Admitted (front ++ p :: back)) :
    p.kind.Admits p.text (spelling back) := by
  induction front with
  | nil => exact h.1
  | cons q rest ih => exact ih h.2

/-- A member stands behind a point that a rule claims. -/
def Accesses (p q : Piece) : Prop :=
  q.kind = .member → p = claim (.operator, ['.'])

/-- A claimed point is joined to nothing. -/
theorem ne_point_of_joins {p q : Piece} (h : p.joins q = true) :
    q ≠ claim (.operator, ['.']) := by
  rintro rfl
  unfold joins at h
  split_ifs at h
  · simp only [claim, Bool.and_eq_true, beq_iff_eq, Bool.or_eq_true] at h
    simp [h.1.2] at h
  · simp [claim] at h

/-- Parts of a string or a comment are joined whatever they spell. -/
theorem admits_of_joins {p q : Piece} (hclaimed : p.claimed = true) (h : p.joins q = true)
    (t rest : Text) : p.kind.Admits t rest := by
  simp only [joins, hclaimed, if_true, Bool.and_eq_true, Bool.or_eq_true, beq_iff_eq] at h
  rcases h.2 with hkind | hkind <;> rw [hkind] <;> trivial

theorem admits_plain {t : Text} {blank : Bool} (h : ∀ c ∈ t, isBlank c = blank) (rest : Text) :
    Token.Kind.plain.Admits t rest := by
  cases blank with
  | true => exact .inl h
  | false => exact .inr h

/-- What the joined pieces of a line that begins in a mode have in common. Unclaimed characters at
its start are all white space or none. -/
structure Orderly (mode : Mode) (pieces : List Piece) : Prop where
  admitted : Admitted pieces
  access : pieces.IsChain Accesses
  first : ∀ q ∈ pieces.head?, q.kind ≠ .member
  unclaimed : ∀ q ∈ pieces.head?, q.claimed = false →
    ∀ c ∈ q.text, isBlank c = (mode == .comment)

namespace Orderly
variable {mode next : Mode} {p : Piece} {pieces : List Piece}

theorem nil (mode : Mode) : Orderly mode [] :=
  ⟨trivial, .nil, nofun, nofun⟩

theorem of_cons (admitted : Admitted (p :: pieces)) (access : (p :: pieces).IsChain Accesses)
    (first : p.kind ≠ .member)
    (unclaimed : p.claimed = false → ∀ c ∈ p.text, isBlank c = (mode == .comment)) :
    Orderly mode (p :: pieces) := by
  refine ⟨admitted, access, ?_, ?_⟩
  · rintro q ⟨⟩
    exact first
  · rintro q ⟨⟩
    exact unclaimed

theorem isChain_cons (h : Orderly next pieces) (p : Piece) : (p :: pieces).IsChain Accesses := by
  cases pieces with
  | nil => exact .singleton p
  | cons q rest => exact .cons_cons (fun hq => absurd hq (h.first q rfl)) h.access

theorem isChain_attach (h : Orderly next pieces) (p : Piece) :
    (Piece.attach p pieces).IsChain Accesses := by
  obtain hattach | ⟨q, rest, rfl, hjoins, hattach⟩ := attach_cases p pieces
  · rw [hattach]
    exact h.isChain_cons p
  · rw [hattach]
    cases rest with
    | nil => exact .singleton _
    | cons r rest =>
      obtain ⟨hqr, hrest⟩ := List.isChain_cons_cons.mp h.access
      exact .cons_cons (fun hr => absurd (hqr hr) (ne_point_of_joins hjoins)) hrest

/-- A claimed piece goes in front, or takes up a part of the same string or comment. -/
theorem attach (h : Orderly next pieces) (hp : p.kind.Admits p.text (spelling pieces))
    (hmember : p.kind ≠ .member) (hclaimed : p.claimed = true) :
    Orderly mode (Piece.attach p pieces) := by
  have haccess := h.isChain_attach p
  obtain hattach | ⟨q, rest, rfl, hjoins, hattach⟩ := attach_cases p pieces
  · rw [hattach] at haccess ⊢
    exact of_cons ⟨hp, h.admitted⟩ haccess hmember fun hc => by simp [hclaimed] at hc
  · rw [hattach] at haccess ⊢
    have hjoined := admits_of_joins hclaimed hjoins (p.text ++ q.text) (spelling rest)
    exact of_cons ⟨hjoined, h.admitted.2⟩ haccess hmember fun hc => by
      simp [extend, hclaimed] at hc

/-- A character that no rule claims goes in front, or takes up others of its mode. -/
theorem attach_unclaimed (h : Orderly mode pieces) {c : Char}
    (hc : isBlank c = (mode == .comment)) : Orderly mode (Piece.attach (Piece.unclaimed c) pieces) := by
  have haccess := h.isChain_attach (Piece.unclaimed c)
  have hmember : Token.Kind.plain ≠ .member := by decide
  obtain hattach | ⟨q, rest, rfl, hjoins, hattach⟩ := attach_cases (Piece.unclaimed c) pieces
  · rw [hattach] at haccess ⊢
    have hblank : ∀ d ∈ [c], isBlank d = (mode == .comment) := List.forall_mem_singleton.mpr hc
    exact of_cons ⟨admits_plain hblank _, h.admitted⟩ haccess hmember fun _ => hblank
  · rw [hattach] at haccess ⊢
    have hq : q.claimed = false := by simpa [joins, Piece.unclaimed] using hjoins
    have hblank : ∀ d ∈ c :: q.text, isBlank d = (mode == .comment) :=
      List.forall_mem_cons.mpr ⟨hc, h.unclaimed q rfl hq⟩
    exact of_cons ⟨admits_plain hblank _, h.admitted.2⟩ haccess hmember fun _ => hblank

/-- A point and a member go in front, joined to nothing. -/
theorem attach_access (h : Orderly next pieces) {name : Text}
    (hpoint : Token.Kind.operator.Admits ['.'] (name ++ spelling pieces))
    (hname : Token.Kind.member.Admits name (spelling pieces)) :
    Orderly mode
      (Piece.attach (claim (.operator, ['.'])) (Piece.attach (claim (.member, name)) pieces)) := by
  have hmember : Piece.attach (claim (.member, name)) pieces = claim (.member, name) :: pieces :=
    attach_claim fun q hq hkind => absurd hkind (h.first q hq)
  rw [hmember]
  have haccess : (claim (.operator, ['.']) :: claim (.member, name) :: pieces).IsChain Accesses :=
    .cons_cons (fun _ => rfl) (h.isChain_cons _)
  exact of_cons ⟨hpoint, hname, h.admitted⟩ haccess nofun nofun

/-- What a rule makes of its match goes in front. -/
theorem ofMatch (h : Orderly next pieces) {t : Text} {rule : Rule} {n : Nat}
    (hfirst : first? (standard mode) t = some (rule, n)) (hrest : spelling pieces = t.drop n) :
    Orderly mode ((Piece.ofMatch rule (t.take n)).foldr Piece.attach pieces) := by
  obtain ⟨hrule, hmatch, -⟩ := of_first?_eq_some hfirst
  rw [Piece.ofMatch]
  cases haction : rule.action with
  | emit kind =>
    have hkinds : (standard mode).all (·.action != .emit .member) = true := by
      cases mode <;> rfl
    have hmember : kind ≠ .member := by
      rintro rfl
      simpa [haction] using List.all_eq_true.mp hkinds rule hrule
    have hadmits := admits_of_emit hrule haction hmatch
    rw [← hrest] at hadmits
    exact h.attach hadmits hmember rfl
  | byWord =>
    have hmember : wordKind (t.take n) ≠ .member := by
      unfold wordKind
      split_ifs <;> decide
    have hadmits := admits_of_byWord hfirst haction
    rw [← hrest] at hadmits
    exact h.attach hadmits hmember rfl
  | dotted =>
    obtain ⟨name, htake, hpoint, hname⟩ := admits_of_dotted hrule haction hmatch
    rw [← hrest] at hpoint hname
    rw [htake]
    exact h.attach_access hpoint hname

end Orderly

/-- The joined pieces of a line are in order, whatever mode it begins in. -/
theorem orderly_join_cut (mode : Mode) (line : Text) :
    Orderly mode (join (cut .standard mode line).1) := by
  -- what is cut off goes in front of pieces that are in order for the mode behind it
  induction mode, line using cut_induction .standard with
  | nil mode => exact .nil mode
  | matched mode c cs rule n hfirst ih =>
    rw [cut_eq_of_first? (List.cons_ne_nil c cs) hfirst, join_append]
    exact ih.ofMatch hfirst (spelling_lexLine _ _)
  | unmatched mode c cs hfirst ih =>
    rw [cut_of_first?_eq_none hfirst]
    exact ih.attach_unclaimed (isBlank_of_first?_eq_none hfirst)

theorem exists_piece_of_head?_layOut {pieces : List Piece} {column : Nat} {t : Token}
    (h : (layOut column pieces).head? = some t) : ∃ p ∈ pieces.head?, t.kind = p.kind := by
  cases pieces with
  | nil => cases h
  | cons p rest =>
    cases Option.some.inj h
    exact ⟨p, rfl, rfl⟩

theorem isChain_access_layOut {pieces : List Piece} (h : pieces.IsChain Accesses) (column : Nat) :
    (layOut column pieces).IsChain fun point t =>
      t.kind = .member → point.kind = .operator ∧ point.lexeme = ['.'] := by
  refine isChain_layOut_of (fun p q column hpq hmember => ?_) h column
  rw [hpq hmember]
  exact ⟨rfl, rfl⟩

end Piece

/-- Every lexeme of a line fits its kind. Words are names of their sort up to where the name ends, an
operator is the longest one that begins where it does, brackets stand alone, numbers are literals,
other plain text is white space or has none, and a member follows a point. -/
theorem shapely_lexLine (mode : Mode) (line : Text) : (lexLine mode line).Shapely line := by
  have horderly := Piece.orderly_join_cut mode line
  have hstands : ∀ t ∈ (lexLine mode line).tokens, ∃ a b, line = a ++ (t.lexeme ++ b) ∧
      t.start = a.length ∧ t.stop = a.length + t.lexeme.length ∧ t.kind.Admits t.lexeme b := by
    intro t ht
    obtain ⟨front, p, back, hsplit, rfl⟩ := Piece.exists_append_of_mem_layOut ht
    have hadmitted := horderly.admitted
    have hspell := spelling_lexLine mode line
    rw [hsplit, Piece.spelling_append, Piece.spelling_cons] at hspell
    rw [hsplit] at hadmitted
    exact ⟨Piece.spelling front, Piece.spelling back, hspell.symm, Nat.zero_add _,
      congrArg (· + p.text.length) (Nat.zero_add _), Piece.admits_of_admitted hadmitted⟩
  constructor
  case place =>
    intro t ht
    obtain ⟨a, b, hline, hstart, hstop, -⟩ := hstands t ht
    rw [hstart, hstop, ← List.drop_drop, hline, List.drop_left, List.drop_left]
  case lexeme =>
    intro t ht
    obtain ⟨a, b, hline, -, hstop, hadmits⟩ := hstands t ht
    rwa [hstop, ← List.drop_drop, hline, List.drop_left, List.drop_left]
  case first =>
    intro t ht
    obtain ⟨p, hp, hkind⟩ := Piece.exists_piece_of_head?_layOut ht
    rw [hkind]
    exact horderly.first p hp
  case access => exact Piece.isChain_access_layOut horderly.access 0

end EditorAssist
