import EditorAssist.Indentation
import EditorAssist.Proofs.LongestNumber
import EditorAssist.Proofs.Matches
import EditorAssist.Proofs.Printing

/-! White space at the end of a line. It makes a comment, an open string or other white space longer
and changes no other match, so that the indentation predicted for the next line stays the same. -/
namespace EditorAssist
open Recognizer Rule RuleTable

/-- Whether a line begins a block when it goes on with a token, where `before` says so for what
comes before it. White space changes nothing. -/
def Token.beginsAfter (before : Bool) (t : Token) : Bool :=
  if t.isBlank then before else t.beginsBlock

/-- Kinds of lexemes that begin no block and that white space can make longer. -/
def Token.Kind.isQuiet (kind : Token.Kind) : Bool :=
  kind == .plain || kind == .comment || kind == .string

/-- The last token that is not white space decides. -/
theorem LexedLine.any_lastNonblank? (line : LexedLine) :
    line.lastNonblank?.any (·.beginsBlock) = line.tokens.foldl Token.beginsAfter false := by
  unfold lastNonblank?
  induction line.tokens using List.reverseRecOn with
  | nil => rfl
  | append_singleton tokens t ih =>
    rw [List.reverse_concat, List.find?_cons, List.foldl_concat, ← ih, Token.beginsAfter]
    cases t.isBlank <;> rfl

namespace Piece

/-- Whether a line begins a block when it goes on with a piece. -/
def beginsAfter (before : Bool) (p : Piece) : Bool :=
  (Token.place p.kind p.text 0).beginsAfter before

theorem foldl_beginsAfter_layOut (pieces : List Piece) (column : Nat) (before : Bool) :
    (layOut column pieces).foldl Token.beginsAfter before = pieces.foldl beginsAfter before := by
  induction pieces generalizing column before with
  | nil => rfl
  | cons p rest ih => exact ih (column + p.text.length) (beginsAfter before p)

theorem beginsAfter_of_isQuiet {p : Piece} (h : p.kind.isQuiet = true) (before : Bool) :
    beginsAfter before p = (p.kind == .plain && p.text.all isBlank && before) := by
  obtain ⟨kind, text, claimed⟩ := p
  simp only [Token.Kind.isQuiet, Bool.or_eq_true, beq_iff_eq] at h
  unfold beginsAfter Token.beginsAfter Token.isBlank
  rcases h with (rfl | rfl) | rfl
  · change (if text.all isBlank then before else false) = (text.all isBlank && before)
    cases text.all isBlank <;> rfl
  · rfl
  · rfl

theorem beginsAfter_extend {p : Piece} (h : p.kind.isQuiet = true) {blanks : Text}
    (hblanks : ∀ c ∈ blanks, isBlank c = true) (before : Bool) :
    beginsAfter before (p.extend blanks) = beginsAfter before p := by
  have hextended : (p.extend blanks).kind.isQuiet = true := h
  have hall : blanks.all isBlank = true := List.all_eq_true.mpr hblanks
  rw [beginsAfter_of_isQuiet hextended, beginsAfter_of_isQuiet h]
  simp only [extend, List.all_append, hall, Bool.and_true]

theorem isQuiet_of_joins {p q : Piece} (hp : p.Honest) (h : p.joins q = true) :
    p.kind.isQuiet = true := by
  unfold joins at h
  unfold Token.Kind.isQuiet
  split_ifs at h with hclaimed
  · simp only [Bool.and_eq_true, Bool.or_eq_true, beq_iff_eq] at h
    rcases h.2 with hkind | hkind <;> rw [hkind] <;> rfl
  · rw [hp (by simpa using hclaimed)]
    rfl

/-- Two pieces that read as one lexeme decide together what they decide one after the other. -/
theorem beginsAfter_of_joins {p q : Piece} (hp : p.Honest) (hq : q.Honest)
    (h : p.joins q = true) (before : Bool) :
    beginsAfter before (p.extend q.text) = beginsAfter (beginsAfter before p) q := by
  have hquiet := isQuiet_of_joins hp h
  have hextended : (p.extend q.text).kind.isQuiet = true := hquiet
  have hkind := kind_eq_of_joins hp hq h
  have hnext : q.kind.isQuiet = true := by rw [← hkind, hquiet]
  rw [beginsAfter_of_isQuiet hextended, beginsAfter_of_isQuiet hnext,
    beginsAfter_of_isQuiet hquiet, ← hkind]
  simp only [extend, List.all_append]
  cases p.kind == .plain <;> cases p.text.all isBlank <;> cases q.text.all isBlank <;> rfl

/-- Joining pieces changes nothing for what begins a block. -/
theorem foldl_beginsAfter_join {pieces : List Piece} (h : ∀ p ∈ pieces, p.Honest) (before : Bool) :
    (join pieces).foldl beginsAfter before = pieces.foldl beginsAfter before := by
  induction pieces generalizing before with
  | nil => rfl
  | cons p rest ih =>
    rw [List.forall_mem_cons] at h
    rw [List.foldl_cons, ← ih h.2]
    change (attach p (join rest)).foldl beginsAfter before = _
    obtain hattach | ⟨q, others, hjoin, hjoins, hattach⟩ := attach_cases p (join rest)
    · rw [hattach, List.foldl_cons]
    · have hq : q.Honest := honest_join h.2 q (by rw [hjoin]; exact List.mem_cons_self)
      rw [hattach, hjoin, List.foldl_cons, List.foldl_cons, beginsAfter_of_joins h.1 hq hjoins]

end Piece

/-- A line begins a block if it ends in code and the last of its pieces that is not white space
does. -/
theorem beginsBlock_lexLine (mode : Mode) (line : Text) :
    (lexLine mode line).beginsBlock = ((Piece.cut .standard mode line).2 == .code &&
      (Piece.cut .standard mode line).1.foldl Piece.beginsAfter false) := by
  have hhonest := Piece.honest_cut .standard mode line
  unfold LexedLine.beginsBlock
  rw [LexedLine.any_lastNonblank?, ← Piece.foldl_beginsAfter_join hhonest,
    ← Piece.foldl_beginsAfter_layOut _ 0]
  rfl

theorem isBlank_eq_false_of_isGraphic {c : Char} (h : isGraphic c = true) : isBlank c = false :=
  Bool.eq_false_iff.mpr fun hblank =>
    ne_of_class h (blankRanges.eq_false_of_covers isGraphic (by decide +kernel) hblank) rfl

theorem isWordChar_eq_false_of_isBlank {c : Char} (h : isBlank c = true) :
    isWordChar c = false := by
  have hascii : (c.isAlphanum || c == '_') = false :=
    blankRanges.eq_false_of_covers (fun c => c.isAlphanum || c == '_') (by decide +kernel) h
  have hjoined : joinedRanges.covers c = false :=
    blankRanges.eq_false_of_covers joinedRanges.covers (by decide +kernel) h
  have hletter : isLetter c = false :=
    (Bool.or_eq_false_iff.mp (isNameStart_eq_false_of_isBlank h)).1
  unfold isWordChar
  split_ifs
  · exact hascii
  · rw [hletter, hjoined]
    rfl

section
variable {blanks : Text} (hblanks : ∀ c ∈ blanks, isBlank c = true)
include hblanks

theorem not_mem_blanks {c : Char} (hc : isBlank c = false) : c ∉ blanks :=
  fun hmem => ne_of_class (hblanks c hmem) hc rfl

theorem beginsOutside_blanks {p : Char → Bool} (hp : ∀ c, isBlank c = true → p c = false) :
    BeginsOutside p blanks :=
  fun c hc => hp c (hblanks c (List.mem_of_mem_head? hc))

/-- A prefix that does not end in white space does not reach into the blanks. -/
theorem prefix_append_blanks_iff {g t : Text} (hg : g.getLast?.any isBlank = false) :
    g <+: t ++ blanks ↔ g <+: t := by
  constructor
  · intro h
    rcases List.prefix_or_prefix_of_prefix h (List.prefix_append t blanks) with hprefix | ⟨s, rfl⟩
    · exact hprefix
    · obtain ⟨rest, rfl⟩ := (List.prefix_append_right_inj t).mp h
      cases hlast : s.getLast? with
      | none => simp [List.getLast?_eq_none_iff.mp hlast]
      | some c =>
        have hends : (t ++ s).getLast? = some c := by simp [hlast]
        have hmem : c ∈ s ++ rest := List.mem_append_left rest (List.mem_of_getLast? hlast)
        rw [hends, Option.any_some, hblanks c hmem] at hg
        cases hg
  · exact fun h => h.trans (List.prefix_append t blanks)

theorem isPrefixOf_append_blanks {g t : Text} (hg : g.getLast?.any isBlank = false) :
    g.isPrefixOf (t ++ blanks) = g.isPrefixOf t := by
  rw [Bool.eq_iff_iff, List.isPrefixOf_iff_prefix, List.isPrefixOf_iff_prefix]
  exact prefix_append_blanks_iff hblanks hg

end

namespace NumberLiteral

/-- Whether a text is a literal depends on whether a word character or a point comes next. -/
theorem Admissible.congr {t rest other : Text} (h : Admissible t rest)
    (hword : rest.head?.any isWordChar = other.head?.any isWordChar)
    (hpoint : other.head? = some '.' → rest.head? = some '.') : Admissible t other := by
  have hboundary : ∀ u, WordBoundary u rest → WordBoundary u other := by
    intro u hend
    unfold WordBoundary at hend ⊢
    rwa [← hword]
  cases h with
  | imaginary body hc hend => exact .imaginary body hc (hboundary _ hend)
  | float body hrange => exact .float body fun hends => hrange ⟨hends.1, hpoint hends.2⟩
  | long body hc hend => exact .long body hc (hboundary _ hend)
  | integer body hend => exact .integer body (hboundary _ hend)

/-- What number is read depends on the literals at the start only. -/
theorem number?_congr {t u : Text} (h : literalLengths t = literalLengths u) :
    number? t = number? u := by
  cases ht : number? t with
  | none =>
    cases hu : number? u with
    | none => rfl
    | some m =>
      have hm := mem_literalLengths_of_number? hu
      rw [← h] at hm
      obtain ⟨n, hn⟩ := exists_number?_of_mem hm
      rw [ht] at hn
      cases hn
  | some n =>
    have hn := isGreatest_of_number? ht
    rw [h] at hn
    obtain ⟨m, hm⟩ := exists_number?_of_mem hn.1
    rw [hm, hn.unique (isGreatest_of_number? hm)]

theorem literalLengths_append_blanks {blanks : Text} (hblanks : ∀ c ∈ blanks, isBlank c = true)
    (t : Text) : literalLengths (t ++ blanks) = literalLengths t := by
  -- a blank is neither a word character nor a point, like the end of the text
  have hword : blanks.head?.any isWordChar = false := by
    cases blanks with
    | nil => rfl
    | cons c cs => exact isWordChar_eq_false_of_isBlank (hblanks c List.mem_cons_self)
  have hpoint : blanks.head? ≠ some '.' := fun hhead =>
    not_mem_blanks hblanks rfl (List.mem_of_mem_head? hhead)
  have hsame : ∀ v : Text, (v ++ blanks).head?.any isWordChar = v.head?.any isWordChar ∧
      ((v ++ blanks).head? = some '.' ↔ v.head? = some '.') := by
    intro v
    cases v with
    | nil => simp [hword, hpoint]
    | cons c cs => exact ⟨rfl, Iff.rfl⟩
  ext n
  constructor
  · rintro ⟨u, v, hsplit, hu, rfl⟩
    have hprefix : u <+: t := by
      have hends : u.getLast?.any isBlank = false := by
        cases hlast : u.getLast? with
        | none => rfl
        | some c =>
          exact isBlank_eq_false_of_isGraphic (hu.isGraphic c (List.mem_of_getLast? hlast))
      exact (prefix_append_blanks_iff hblanks hends).mp ⟨v, hsplit.symm⟩
    obtain ⟨rest, rfl⟩ := hprefix
    rw [List.append_assoc, List.append_cancel_left_eq] at hsplit
    rw [← hsplit] at hu
    exact ⟨u, rest, rfl, hu.congr (hsame rest).1 (hsame rest).2.mpr, rfl⟩
  · rintro ⟨u, v, rfl, hu, rfl⟩
    exact ⟨u, v ++ blanks, List.append_assoc u v blanks,
      hu.congr (hsame v).1.symm (hsame v).2.mp, rfl⟩

theorem number?_append_blanks {blanks : Text} (hblanks : ∀ c ∈ blanks, isBlank c = true)
    (t : Text) : number? (t ++ blanks) = number? t :=
  number?_congr (literalLengths_append_blanks hblanks t)

end NumberLiteral

namespace Recognizer

/-- Only a backslash at the end of a text takes a character behind it. -/
theorem escape?_append {t : Text} (ht : t ≠ []) (hslash : t ≠ ['\\'])
    (rest : Text) : escape? (t ++ rest) = escape? t := by
  obtain ⟨c, cs, rfl⟩ := List.exists_cons_of_ne_nil ht
  by_cases hc : c = '\\'
  · subst hc
    have hcs : cs ≠ [] := fun hnil => hslash (by rw [hnil])
    obtain ⟨d, ds, rfl⟩ := List.exists_cons_of_ne_nil hcs
    rfl
  · have hmark : (c == '\\') = false := beq_eq_false_iff_ne.mpr hc
    rw [List.cons_append, escape?_cons_eq_none _ hmark, escape?_cons_eq_none _ hmark]

theorem closingQuote?_eq_none {t : Text} (h : '"' ∉ t) : closingQuote? t = none := by
  rw [Option.eq_none_iff_forall_ne_some]
  intro n hn
  obtain ⟨body, htake⟩ := exists_take_of_closingQuote? hn
  exact h (List.mem_of_mem_take (by rw [htake]; simp))

theorem commentEnd?_eq_none {t : Text} (h : '#' ∉ t) : commentEnd? t = none := by
  rw [Option.eq_none_iff_forall_ne_some]
  intro n hn
  obtain ⟨body, htake⟩ := exists_take_of_commentEnd? hn
  exact h (List.mem_of_mem_take (by rw [htake]; simp))

section
variable {blanks : Text} (hblanks : ∀ c ∈ blanks, isBlank c = true)
include hblanks

theorem literal?_append_blanks {glyphs : Text} (hglyphs : glyphs.getLast?.any isBlank = false)
    (t : Text) : literal? glyphs (t ++ blanks) = literal? glyphs t := by
  unfold literal?
  rw [isPrefixOf_append_blanks hblanks hglyphs]

theorem operator?_append_blanks (t : Text) : operator? (t ++ blanks) = operator? t := by
  have hoperators : (operators.all fun g => !g.getLast?.any isBlank) = true := rfl
  have hfind : operators.find? (·.isPrefixOf (t ++ blanks)) = operators.find? (·.isPrefixOf t) := by
    refine List.find?_congr fun g hg => isPrefixOf_append_blanks hblanks ?_
    simpa using List.all_eq_true.mp hoperators g hg
  rw [operator?, hfind]
  rfl

theorem word?_append_blanks {start part : Char → Bool}
    (hstart : ∀ c, isBlank c = true → start c = false)
    (hpart : ∀ c, isBlank c = true → part c = false) (t : Text) :
    word? start part (t ++ blanks) = word? start part t := by
  cases t with
  | nil =>
    cases blanks with
    | nil => rfl
    | cons c cs => exact word?_cons_eq_none cs (hstart c (hblanks c List.mem_cons_self))
  | cons c cs =>
    have hrun := takeWhile_append_of_beginsOutside cs (beginsOutside_blanks hblanks hpart)
    rw [List.cons_append, word?, word?, hrun]

theorem dottedName?_append_blanks {t : Text} (ht : t ≠ []) :
    dottedName? (t ++ blanks) = dottedName? t := by
  obtain ⟨c, cs, rfl⟩ := List.exists_cons_of_ne_nil ht
  by_cases hc : c = '.'
  · subst hc
    have hword := word?_append_blanks hblanks (fun _ => isNameStart_eq_false_of_isBlank)
      (fun _ => isNamePart_eq_false_of_isBlank) cs
    rw [List.cons_append, dottedName?, dottedName?, hword]
  · have hpoint : (c == '.') = false := beq_eq_false_iff_ne.mpr hc
    rw [List.cons_append, dottedName?_cons_eq_none _ hpoint, dottedName?_cons_eq_none _ hpoint]

theorem closingQuote?_append_blanks (t : Text) :
    closingQuote? (t ++ blanks) = closingQuote? t := by
  have hquote : '"' ∉ blanks := not_mem_blanks hblanks rfl
  fun_induction closingQuote? t with
  | case1 => exact closingQuote?_eq_none hquote
  | case2 rest => rfl
  | case3 cs => rfl
  | case4 c cs hc ih =>
    rw [List.cons_append, List.cons_append, closingQuote?, if_neg hc, ih]
  | case5 c cs hclose hescape ih =>
    by_cases hslash : c = '\\'
    · -- a backslash at the end takes a blank with it, and no quote follows
      subst hslash
      have hnil : cs = [] := by
        cases cs with
        | nil => rfl
        | cons d ds => exact absurd rfl (hescape d ds rfl)
      subst hnil
      exact closingQuote?_eq_none (by simp [hquote])
    · rw [List.cons_append, closingQuote?, ih]
      · exact hclose
      · exact fun _ _ hc _ => hslash hc

theorem string?_append_blanks {t : Text} (ht : t ≠ []) : string? (t ++ blanks) = string? t := by
  obtain ⟨c, cs, rfl⟩ := List.exists_cons_of_ne_nil ht
  by_cases hc : c = '"'
  · subst hc
    rw [List.cons_append, string?, string?, closingQuote?_append_blanks hblanks]
  · have hquote : (c == '"') = false := beq_eq_false_iff_ne.mpr hc
    rw [List.cons_append, string?_cons_eq_none _ hquote, string?_cons_eq_none _ hquote]

theorem commentEnd?_append_blanks (t : Text) : commentEnd? (t ++ blanks) = commentEnd? t := by
  have hhash : '#' ∉ blanks := not_mem_blanks hblanks rfl
  fun_induction commentEnd? t with
  | case1 => exact commentEnd?_eq_none hhash
  | case2 rest => rfl
  | case3 cs hclose =>
    rw [List.cons_append, commentEnd?, if_pos rfl]
    exact fun _ h _ => absurd h (by decide)
  | case4 c cs hclose hc ih =>
    rw [List.cons_append, commentEnd?, if_neg hc, ih]
    intro rest hbracket hcs
    cases cs with
    | nil => exact hhash (by rw [← List.nil_append blanks, hcs]; exact List.mem_cons_self)
    | cons d ds => exact hclose ds hbracket (by rw [(List.cons.inj hcs).1])

theorem charLiteral?_append_blanks (t : Text) :
    charLiteral? (t ++ blanks) = charLiteral? t := by
  have hescaped : ∀ c rest, t ++ blanks = '\x27' :: '\\' :: c :: '\x27' :: rest →
      ∃ tail, t = '\x27' :: '\\' :: c :: '\x27' :: tail := by
    intro c rest hsplit
    have hprefix : ['\x27', '\\', c, '\x27'] <+: t ++ blanks := ⟨rest, hsplit.symm⟩
    obtain ⟨tail, htail⟩ := (prefix_append_blanks_iff hblanks rfl).mp hprefix
    exact ⟨tail, htail.symm⟩
  have hsingle : ∀ c rest, t ++ blanks = '\x27' :: c :: '\x27' :: rest →
      ∃ tail, t = '\x27' :: c :: '\x27' :: tail := by
    intro c rest hsplit
    have hprefix : ['\x27', c, '\x27'] <+: t ++ blanks := ⟨rest, hsplit.symm⟩
    obtain ⟨tail, htail⟩ := (prefix_append_blanks_iff hblanks rfl).mp hprefix
    exact ⟨tail, htail.symm⟩
  rw [charLiteral?.eq_def t]
  split
  · rfl
  · next c rest hnot =>
    rw [List.cons_append, List.cons_append, List.cons_append, charLiteral?]
    intro tail hc hrest
    obtain ⟨others, hothers⟩ := hescaped '\x27' tail (by rw [hc, ← hrest]; rfl)
    simp only [List.cons.injEq, true_and] at hothers
    exact hnot others hothers.1 hothers.2
  · next hnotescaped hnotsingle =>
    rw [charLiteral?]
    · intro c rest heq
      obtain ⟨tail, htail⟩ := hescaped c rest heq
      exact hnotescaped c tail htail
    · intro c rest heq
      obtain ⟨tail, htail⟩ := hsingle c rest heq
      exact hnotsingle c tail htail

end
end Recognizer

namespace Rule

/-- A rule stays in its mode and makes one token, of a kind that white space can make longer. -/
structure Grows (rule : Rule) : Prop where
  next : rule.next = none
  action : ∃ kind, rule.action = .emit kind ∧ kind.isQuiet = true

/-- What a rule matches at the start of a text does not depend on what is put behind it, or it is
all of the text and some of what is behind. -/
inductive Steady (rule : Rule) (t rest : Text) : Prop where
  | same (h : rule.reach? (t ++ rest) = rule.reach? t)
  | longer (more : Nat) (grows : rule.Grows) (whole : rule.reach? t = some t.length)
    (behind : rule.reach? (t ++ rest) = some (t.length + more))

theorem steady_of_recognize {rule : Rule} {t rest : Text}
    (h : rule.recognize (t ++ rest) = rule.recognize t) : rule.Steady t rest :=
  .same (by rw [reach?, reach?, h])

/-- A run behind some characters ends within the text or goes on behind it. -/
theorem steady_of_takeWhile {rule : Rule} (hgrows : rule.Grows) (head : Text) {t rest : Text}
    (hpos : 0 < (head ++ t).length) {p : Char → Bool}
    (h : ∀ u, rule.recognize (head ++ u) = some ((u.takeWhile p).length + head.length)) :
    rule.Steady (head ++ t) rest := by
  have hwhole := h t
  have hbehind := h (t ++ rest)
  rw [List.takeWhile_append] at hbehind
  split_ifs at hbehind with hall
  · have hlength : (t.takeWhile p).length + head.length = (head ++ t).length := by
      rw [hall, List.length_append, Nat.add_comm]
    have hmore : (t ++ rest.takeWhile p).length + head.length =
        (head ++ t).length + (rest.takeWhile p).length := by
      simp only [List.length_append]
      omega
    rw [hlength] at hwhole
    rw [hmore, ← List.append_assoc] at hbehind
    exact .longer _ hgrows (reach?_of_recognize hwhole hpos)
      (reach?_of_recognize hbehind (Nat.add_pos_left hpos _))
  · apply steady_of_recognize
    rw [List.append_assoc, hbehind, hwhole]

theorem steady_of_run {rule : Rule} (hgrows : rule.Grows) {p : Char → Bool}
    (hrecognize : rule.recognize = run? p) {t : Text} (ht : t ≠ []) (rest : Text) :
    rule.Steady t rest := by
  refine steady_of_takeWhile hgrows [] (List.length_pos_iff.mpr ht) (p := p) fun u => ?_
  rw [hrecognize]
  rfl

/-- A comment up to the end of the line takes in what is put behind it. -/
theorem steady_of_lineComment {rule : Rule} (hgrows : rule.Grows)
    (hrecognize : rule.recognize = lineComment?) {t : Text} (ht : t ≠ []) (rest : Text) :
    rule.Steady t rest := by
  obtain ⟨c, cs, rfl⟩ := List.exists_cons_of_ne_nil ht
  by_cases hc : c = '#'
  · subst hc
    refine steady_of_takeWhile hgrows ['#'] (Nat.succ_pos _) (p := isInline) fun u => ?_
    rw [hrecognize]
    rfl
  · have hhash : (c == '#') = false := beq_eq_false_iff_ne.mpr hc
    apply steady_of_recognize
    rw [hrecognize]
    exact (word?_cons_eq_none (cs ++ rest) hhash).trans (word?_cons_eq_none cs hhash).symm

theorem first?_append {rules : List Rule} {t rest : Text} (h : ∀ rule ∈ rules, rule.Steady t rest) :
    first? rules (t ++ rest) = first? rules t ∨
      ∃ rule more, rule.Grows ∧ first? rules t = some (rule, t.length) ∧
        first? rules (t ++ rest) = some (rule, t.length + more) := by
  induction rules with
  | nil => exact .inl rfl
  | cons rule rules ih =>
    rw [List.forall_mem_cons] at h
    cases h.1 with
    | same hsame =>
      cases hreach : rule.reach? t with
      | none =>
        rw [first?_cons_of_reach?_eq_none hreach,
          first?_cons_of_reach?_eq_none (hsame.trans hreach)]
        exact ih h.2
      | some n => exact .inl (by simp [first?, hsame, hreach])
    | longer more hgrows hwhole hbehind =>
      exact .inr ⟨rule, more, hgrows, by simp [first?, hwhole], by simp [first?, hbehind]⟩

section
variable {blanks : Text} (hblanks : ∀ c ∈ blanks, isBlank c = true)
include hblanks

/-- White space leaves the matches of all rules as they are or makes them longer, except that a
backslash at the end of an open string takes the first blank. -/
theorem steady_append_blanks {mode : Mode} {rule : Rule} (hrule : rule ∈ standard mode) {t : Text}
    (ht : t ≠ []) (hslash : mode = .quoted → t ≠ ['\\']) : rule.Steady t blanks := by
  have hword : ∀ {start : Char → Bool}, (∀ c, isBlank c = true → start c = false) →
      word? start isNamePart (t ++ blanks) = word? start isNamePart t := fun hstart =>
    word?_append_blanks hblanks hstart (fun _ => isNamePart_eq_false_of_isBlank) t
  have hone : ∀ p, one? p (t ++ blanks) = one? p t := by
    obtain ⟨c, cs, rfl⟩ := List.exists_cons_of_ne_nil ht
    exact fun p => rfl
  induction hrule using standard_cases with
  | commentOpen => exact steady_of_recognize (literal?_append_blanks hblanks rfl t)
  | lineComment => exact steady_of_lineComment ⟨rfl, _, rfl, rfl⟩ rfl ht blanks
  | moduleName => exact steady_of_recognize (hword fun _ => isUpper_eq_false_of_isBlank)
  | access => exact steady_of_recognize (dottedName?_append_blanks hblanks ht)
  | string => exact steady_of_recognize (string?_append_blanks hblanks ht)
  | char => exact steady_of_recognize (charLiteral?_append_blanks hblanks t)
  | stringOpen => exact steady_of_recognize (literal?_append_blanks hblanks rfl t)
  | number => exact steady_of_recognize (NumberLiteral.number?_append_blanks hblanks t)
  | name => exact steady_of_recognize (hword fun _ => isNameStart_eq_false_of_isBlank)
  | operator => exact steady_of_recognize (operator?_append_blanks hblanks t)
  | opening => exact steady_of_recognize (hone isOpening)
  | closing => exact steady_of_recognize (hone isClosing)
  | blanks => exact steady_of_run ⟨rfl, _, rfl, rfl⟩ rfl ht blanks
  | commentClose => exact steady_of_recognize (commentEnd?_append_blanks hblanks t)
  | commentBody => exact steady_of_run ⟨rfl, _, rfl, rfl⟩ rfl ht blanks
  | escape => exact steady_of_recognize (escape?_append ht (hslash rfl) blanks)
  | stringBody => exact steady_of_run ⟨rfl, _, rfl, rfl⟩ rfl ht blanks
  | backslash => exact steady_of_recognize (literal?_append_blanks hblanks rfl t)
  | stringClose => exact steady_of_recognize (literal?_append_blanks hblanks rfl t)

/-- White space behind a text leaves the first match as it is, or the match is all of the text and
takes in some of the white space. -/
theorem first?_append_blanks {mode : Mode} {t : Text} (ht : t ≠ [])
    (hslash : mode = .quoted → t ≠ ['\\']) :
    first? (standard mode) (t ++ blanks) = first? (standard mode) t ∨
      ∃ rule more, rule.Grows ∧ first? (standard mode) t = some (rule, t.length) ∧
        first? (standard mode) (t ++ blanks) = some (rule, t.length + more) :=
  first?_append fun _ hrule => steady_append_blanks hblanks hrule ht hslash

end

/-- A rule that changes the mode matches only where a hash or a double quote is. -/
theorem next_eq_none_of_not_mem {mode : Mode} {rule : Rule} (hrule : rule ∈ standard mode)
    {t : Text} {n : Nat} (hmatch : rule.recognize t = some n) (hhash : '#' ∉ t) (hquote : '"' ∉ t) :
    rule.next = none := by
  have hclose : literal? ['"'] t ≠ some n := by
    intro h
    obtain ⟨-, rest, rfl⟩ := literal?_eq_some h
    exact hquote List.mem_cons_self
  induction hrule using standard_cases with
  | commentOpen =>
    obtain ⟨-, rest, rfl⟩ := literal?_eq_some hmatch
    exact absurd List.mem_cons_self hhash
  | stringOpen | stringClose => exact absurd hmatch hclose
  | commentClose =>
    have hnone := commentEnd?_eq_none hhash
    cases hnone.symm.trans hmatch
  | lineComment | moduleName | access | string | char | number | name | operator | opening | closing
  | blanks | commentBody | escape | stringBody | backslash => rfl

end Rule

namespace Piece

/-- Without hashes and double quotes a line ends in the mode it begins in. -/
theorem mode_cut_eq {t : Text} (hhash : '#' ∉ t) (hquote : '"' ∉ t) (mode : Mode) :
    (cut .standard mode t).2 = mode := by
  induction mode, t using cut_induction .standard with
  | nil mode => rfl
  | matched mode c cs rule n hfirst ih =>
    obtain ⟨hrule, hmatch, -⟩ := of_first?_eq_some hfirst
    rw [cut_eq_of_first? (List.cons_ne_nil c cs) hfirst]
    rw [next_eq_none_of_not_mem hrule hmatch hhash hquote] at ih ⊢
    exact ih (fun h => hhash (List.mem_of_mem_drop h)) fun h => hquote (List.mem_of_mem_drop h)
  | unmatched mode c cs hfirst ih =>
    rw [cut_of_first?_eq_none hfirst]
    exact ih (fun h => hhash (List.mem_cons_of_mem c h)) fun h => hquote (List.mem_cons_of_mem c h)

/-- Two texts end a line in the same mode and, if that is code, begin a block alike. -/
structure EndsAlike (mode : Mode) (t u : Text) : Prop where
  endMode : (cut .standard mode t).2 = (cut .standard mode u).2
  block : (cut .standard mode u).2 = .code → ∀ before,
    (cut .standard mode t).1.foldl beginsAfter before =
      (cut .standard mode u).1.foldl beginsAfter before

namespace EndsAlike

/-- Texts in which the same is cut off first end alike if what is left does. -/
theorem of_cut {mode next : Mode} {t u rest left : Text} {pieces others : List Piece}
    (h : EndsAlike next rest left)
    (ht : cut .standard mode t =
      (pieces ++ (cut .standard next rest).1, (cut .standard next rest).2))
    (hu : cut .standard mode u =
      (others ++ (cut .standard next left).1, (cut .standard next left).2))
    (hpieces : ∀ before, pieces.foldl beginsAfter before = others.foldl beginsAfter before) :
    EndsAlike mode t u := by
  constructor
  case endMode => rw [ht, hu, h.endMode]
  case block =>
    intro hcode before
    rw [hu] at hcode
    rw [ht, hu, List.foldl_append, List.foldl_append, hpieces, h.block hcode]

section
variable {blanks : Text} (hblanks : ∀ c ∈ blanks, isBlank c = true)
include hblanks

/-- White space alone ends a line like nothing. -/
theorem of_blanks (mode : Mode) : EndsAlike mode blanks [] := by
  constructor
  case endMode => exact mode_cut_eq (not_mem_blanks hblanks rfl) (not_mem_blanks hblanks rfl) mode
  case block =>
    intro hcode before
    have hmode : mode = .code := hcode
    subst hmode
    by_cases hne : blanks = []
    · rw [hne]
    · have hcut : cut .standard .code (blanks ++ []) = ([⟨.plain, blanks, true⟩], .code) :=
        cut_blanks hne hblanks nofun
      have hall : blanks.all isBlank = true := List.all_eq_true.mpr hblanks
      rw [List.append_nil] at hcut
      rw [hcut, List.foldl_cons, beginsAfter_of_isQuiet rfl, hall]
      rfl

/-- A backslash at the end of an open string does not close it, whatever it takes with it. -/
theorem of_backslash : EndsAlike .quoted ('\\' :: blanks) ['\\'] := by
  have hhash : '#' ∉ '\\' :: blanks :=
    List.not_mem_cons_of_ne_of_not_mem (by decide) (not_mem_blanks hblanks rfl)
  have hquote : '"' ∉ '\\' :: blanks :=
    List.not_mem_cons_of_ne_of_not_mem (by decide) (not_mem_blanks hblanks rfl)
  have hstays : (cut .standard .quoted ['\\']).2 = .quoted :=
    mode_cut_eq (by decide) (by decide) .quoted
  constructor
  case endMode => rw [mode_cut_eq hhash hquote, hstays]
  case block =>
    intro hcode
    rw [hstays] at hcode
    cases hcode

/-- A match that takes in white space decides what it decided without. -/
theorem of_longer {mode : Mode} {t : Text} (ht : t ≠ []) {rule : Rule} {more : Nat}
    (hgrows : rule.Grows) (hwhole : first? (standard mode) t = some (rule, t.length))
    (hbehind : first? (standard mode) (t ++ blanks) = some (rule, t.length + more)) :
    EndsAlike mode (t ++ blanks) t := by
  obtain ⟨hnext, kind, haction, hquiet⟩ := hgrows
  have hshorter := cut_eq_of_first? ht hwhole
  have hlonger := cut_eq_of_first? (List.append_ne_nil_of_left_ne_nil ht blanks) hbehind
  rw [List.take_length, List.drop_length, hnext, Option.getD_none] at hshorter
  rw [List.take_length_add_append, List.drop_length_add_append, hnext, Option.getD_none] at hlonger
  have hrest : EndsAlike mode (blanks.drop more) [] :=
    of_blanks (fun c hc => hblanks c (List.mem_of_mem_drop hc)) mode
  refine hrest.of_cut hlonger hshorter fun before => ?_
  have htaken : ∀ c ∈ blanks.take more, isBlank c = true := fun c hc =>
    hblanks c (List.mem_of_mem_take hc)
  simp only [ofMatch, haction, Action.pieces]
  exact beginsAfter_extend (p := ⟨kind, t, true⟩) hquiet htaken before

/-- White space at the end of a line leaves its mode and what begins a block as they are. -/
theorem append_blanks (mode : Mode) (t : Text) : EndsAlike mode (t ++ blanks) t := by
  -- along the cuts of the line without the blanks
  induction mode, t using cut_induction .standard with
  | nil mode => exact of_blanks hblanks mode
  | matched mode c cs rule n hfirst ih =>
    have hne := List.cons_ne_nil c cs
    by_cases hslash : mode = .quoted ∧ c :: cs = ['\\']
    · rw [hslash.1, hslash.2]
      exact of_backslash hblanks
    rcases first?_append_blanks hblanks hne fun hmode heq => hslash ⟨hmode, heq⟩ with
      hsame | ⟨r, more, hgrows, hwhole, hbehind⟩
    · obtain ⟨hrule, hmatch, -⟩ := of_first?_eq_some hfirst
      have hle := length_le_of_recognize hrule hmatch
      have hlonger := cut_eq_of_first? (List.cons_ne_nil c (cs ++ blanks)) (hsame.trans hfirst)
      rw [← List.cons_append, List.take_append_of_le_length hle,
        List.drop_append_of_le_length hle] at hlonger
      exact ih.of_cut hlonger (cut_eq_of_first? hne hfirst) fun _ => rfl
    · exact of_longer hblanks hne hgrows hwhole hbehind
  | unmatched mode c cs hfirst ih =>
    have hmode : mode ≠ .quoted := by
      intro hquoted
      rw [hquoted] at hfirst
      exact first?_quoted_ne_none c cs hfirst
    have hcut : ∀ u, first? (standard mode) (c :: u) = none → cut .standard mode (c :: u) =
        ([unclaimed c] ++ (cut .standard mode u).1, (cut .standard mode u).2) :=
      fun u => cut_of_first?_eq_none
    rcases first?_append_blanks hblanks (List.cons_ne_nil c cs) fun hquoted => absurd hquoted hmode
      with hsame | ⟨r, more, -, hwhole, -⟩
    · exact ih.of_cut (hcut _ (hsame.trans hfirst)) (hcut _ hfirst) fun _ => rfl
    · rw [hfirst] at hwhole
      cases hwhole

end
end EndsAlike
end Piece

/-- White space at the end of a line changes neither the mode in which the line ends nor whether it
begins a block, and the indentation predicted behind it stays the same. A line of nothing but spaces
and tabs is left out, since more of them are indentation too. -/
theorem nextIndent_append_blanks {line blanks : Text} (hline : ∃ c ∈ line, isIndent c = false)
    (hblanks : ∀ c ∈ blanks, isBlank c = true) (mode : Mode) (unit : Text) :
    (lexLine mode (line ++ blanks)).endMode = (lexLine mode line).endMode ∧
      (lexLine mode (line ++ blanks)).beginsBlock = (lexLine mode line).beginsBlock ∧
      nextIndent (line ++ blanks) (lexLine mode (line ++ blanks)) unit =
        nextIndent line (lexLine mode line) unit := by
  have halike := Piece.EndsAlike.append_blanks hblanks mode line
  have hmode : (lexLine mode (line ++ blanks)).endMode = (lexLine mode line).endMode :=
    halike.endMode
  have hblock : (lexLine mode (line ++ blanks)).beginsBlock = (lexLine mode line).beginsBlock := by
    rw [beginsBlock_lexLine, beginsBlock_lexLine, halike.endMode]
    cases hend : (Piece.cut .standard mode line).2 with
    | code => rw [halike.block hend]
    | comment => rfl
    | quoted => rfl
  have hindent : leadingIndent (line ++ blanks) = leadingIndent line := by
    unfold leadingIndent
    rw [List.takeWhile_append, if_neg]
    intro hwhole
    obtain ⟨c, hc, hnot⟩ := hline
    have hall := (List.takeWhile_prefix isIndent).eq_of_length hwhole
    rw [← hall] at hc
    exact ne_of_class (List.mem_takeWhile_imp hc) hnot rfl
  refine ⟨hmode, hblock, ?_⟩
  unfold nextIndent
  rw [hindent, hblock]

theorem nextIndent_append_blanks_assignment :
    (∃ c ∈ ['x', ' ', '='], isIndent c = false) ∧ (∀ c ∈ ['\t', '\u00a0'], isBlank c = true) ∧
      nextIndent ['x', ' ', '=', '\t', '\u00a0'] (lexLine .code ['x', ' ', '=', '\t', '\u00a0'])
        [' '] = [' '] := by
  have hline : ∃ c ∈ ['x', ' ', '='], isIndent c = false := ⟨'x', List.mem_cons_self, rfl⟩
  have hblanks : ∀ c ∈ ['\t', '\u00a0'], isBlank c = true := List.all_eq_true.mp rfl
  have hbare : nextIndent ['x', ' ', '='] (lexLine .code ['x', ' ', '=']) [' '] = [' '] := rfl
  obtain ⟨-, -, hsame⟩ := nextIndent_append_blanks hline hblanks .code [' ']
  exact ⟨hline, hblanks, hsame.trans hbare⟩

end EditorAssist
