import EditorAssist.Bracket
import EditorAssist.Proofs.Lines
import EditorAssist.Proofs.Precedence
import Mathlib.Data.List.Chain
import Mathlib.Data.List.Find

/-! Lexing undoes printing: lexical items that are written with single spaces between them, and
perhaps a comment behind them, are the tokens of their line. -/
namespace EditorAssist
open Recognizer

def isName : Text → Bool
  | c :: cs => isNameStart c && cs.all isNamePart
  | [] => false

/-- What stands between the quotes of a string: a quote only behind a backslash, which takes the
next character with it. -/
inductive IsStringBody : Text → Prop where
  | nil : IsStringBody []
  | plain {c : Char} {cs : Text} (hquote : c ≠ '"') (hescape : c ≠ '\\') (rest : IsStringBody cs) :
    IsStringBody (c :: cs)
  | escape {c : Char} {cs : Text} (hc : c ≠ '\n') (rest : IsStringBody cs) :
    IsStringBody ('\\' :: c :: cs)

/-- A lexical item that stands on one line. -/
inductive Item where
  | word (name : Text) (shape : isName name = true)
  | number (literal : Text) (shape : NumberLiteral.IsLiteral literal)
  | operator (glyphs : Text) (known : glyphs ∈ operators)
  | bracket (glyph : Char) (known : isOpening glyph = true ∨ isClosing glyph = true)
  | access (name : Text) (shape : isName name = true)
  | string (body : Text) (shape : IsStringBody body)
  | single (c : Char) (hquote : c ≠ '\x27') (hescape : c ≠ '\\')
  | escaped (c : Char) (inline : c ≠ '\n')
  /-- The end of a block comment stands behind its body and nowhere before. -/
  | comment (body : Text) (inline : '\n' ∉ body)
    (closed : ∀ a b, body ++ [']', '#'] = a ++ ']' :: '#' :: b → b = [])

namespace Item

def text : Item → Text
  | word name _ => name
  | number literal _ => literal
  | operator glyphs _ => glyphs
  | bracket glyph _ => [glyph]
  | access name _ => '.' :: name
  | string body _ => '"' :: body ++ ['"']
  | single c _ _ => ['\x27', c, '\x27']
  | escaped c _ => ['\x27', '\\', c, '\x27']
  | comment body _ _ => '#' :: '[' :: body ++ [']', '#']

/-- The lexemes of an item with their kinds. Only the access to a member has two. -/
def lexemes : Item → List (Token.Kind × Text)
  | word name _ => [(if name.head?.any isUpper then .moduleName else wordKind name, name)]
  | number literal _ => [(.number, literal)]
  | operator glyphs _ => [(.operator, glyphs)]
  | bracket glyph _ => [(if isOpening glyph then .opening else .closing, [glyph])]
  | access name _ => [(.operator, ['.']), (.member, name)]
  | string body _ => [(.string, '"' :: body ++ ['"'])]
  | single c _ _ => [(.string, ['\x27', c, '\x27'])]
  | escaped c _ => [(.string, ['\x27', '\\', c, '\x27'])]
  | comment body _ _ => [(.comment, '#' :: '[' :: body ++ [']', '#'])]

end Item

/-- A comment up to the end of the line. -/
structure Remark where
  text : Text
  plain : text.head? ≠ some '['
  inline : '\n' ∉ text

/-- Items with single spaces between them, and perhaps a space and a comment behind them. -/
def printLine (items : List Item) (remark : Option Remark) : Text :=
  [' '].intercalate (items.map (·.text)) ++ remark.elim [] fun r => ' ' :: '#' :: r.text

def printedLexemes (items : List Item) (remark : Option Remark) : List (Token.Kind × Text) :=
  [(.plain, [' '])].intercalate (items.map (·.lexemes)) ++
    remark.elim [] fun r => [(.plain, [' ']), (.comment, '#' :: r.text)]

theorem exists_cons_of_isName {name : Text} (h : isName name = true) :
    ∃ c cs, name = c :: cs ∧ isNameStart c = true ∧ ∀ d ∈ cs, isNamePart d = true := by
  cases name with
  | nil => cases h
  | cons c cs =>
    rw [isName, Bool.and_eq_true, List.all_eq_true] at h
    exact ⟨c, cs, rfl, h.1, h.2⟩

namespace Recognizer

/-- A name is read as a whole. -/
theorem word?_append {start : Char → Bool} {c : Char} {cs rest : Text} (hc : start c = true)
    (hcs : ∀ d ∈ cs, isNamePart d = true) (hrest : BeginsOutside isNamePart rest) :
    word? start isNamePart (c :: cs ++ rest) = some (c :: cs).length := by
  rw [List.cons_append, word?, if_pos hc, takeWhile_append_eq hcs hrest]
  rfl

theorem closingQuote?_append {body : Text} (h : IsStringBody body) (rest : Text) :
    closingQuote? (body ++ '"' :: rest) = some (body.length + 1) := by
  induction h with
  | nil => rfl
  | plain hquote hescape _ ih =>
    rw [List.cons_append, closingQuote?, ih]
    · rfl
    · exact hquote
    · exact fun _ _ hc _ => hescape hc
  | escape hc _ ih =>
    rw [List.cons_append, List.cons_append, closingQuote?, if_neg hc, ih]
    rfl

theorem commentEnd?_append {body : Text} (hinline : '\n' ∉ body)
    (hclosed : ∀ a b, body ++ [']', '#'] = a ++ ']' :: '#' :: b → b = []) (rest : Text) :
    commentEnd? (body ++ ']' :: '#' :: rest) = some (body.length + 2) := by
  induction body with
  | nil => rfl
  | cons c cs ih =>
    have hrest := ih (fun hmem => hinline (List.mem_cons_of_mem c hmem)) fun a b hab =>
      hclosed (c :: a) b (by rw [List.cons_append, hab, List.cons_append])
    have hc : c ≠ '\n' := by
      rintro rfl
      exact hinline List.mem_cons_self
    rw [List.cons_append, commentEnd?, if_neg hc, hrest]
    · rfl
    · rintro tail rfl htail
      -- the end would stand in front of another one
      cases cs with
      | nil => cases htail
      | cons d ds =>
        cases (List.cons.inj htail).1
        have hnil := hclosed [] (ds ++ [']', '#']) rfl
        simp at hnil

theorem prefix_of_prefix_append {p : Char → Bool} {o g rest : Text} (ho : ∀ c ∈ o, p c = true)
    (hrest : BeginsOutside p rest) (h : o <+: g ++ rest) : o <+: g := by
  rcases List.prefix_or_prefix_of_prefix h (List.prefix_append g rest) with hprefix | ⟨s, rfl⟩
  · exact hprefix
  · cases s with
    | nil => simp
    | cons c cs =>
      obtain ⟨tail, rfl⟩ := (List.prefix_append_right_inj g).mp h
      exact absurd rfl (ne_of_class (ho c (by simp)) (hrest c rfl))

/-- An operator is read as a whole. -/
theorem operator?_append {g rest : Text} (hg : g ∈ operators)
    (hrest : BeginsOutside isOperatorChar rest) : operator? (g ++ rest) = some g.length := by
  have hfind : ∀ g ∈ operators, operators.find? (·.isPrefixOf g) = some g := by decide
  have hsame : operators.find? (·.isPrefixOf (g ++ rest)) = operators.find? (·.isPrefixOf g) := by
    refine List.find?_congr fun o ho => ?_
    rw [Bool.eq_iff_iff, List.isPrefixOf_iff_prefix, List.isPrefixOf_iff_prefix]
    exact ⟨prefix_of_prefix_append (fun _ => isOperatorChar_of_mem ho) hrest,
      fun h => h.trans (List.prefix_append g rest)⟩
  rw [operator?, hsame, hfind g hg]
  rfl

end Recognizer

namespace NumberLiteral

/-- A text begins with a digit, or with a point and a digit. -/
def BeginsNumber (t : Text) : Prop :=
  ∃ c cs, t = c :: cs ∧ (c.isDigit = true ∨ c = '.' ∧ ∃ d ds, cs = d :: ds ∧ d.isDigit = true)

theorem BeginsNumber.append {t : Text} (h : BeginsNumber t) (rest : Text) :
    BeginsNumber (t ++ rest) := by
  obtain ⟨c, cs, rfl, hc | ⟨hc, d, ds, rfl, hd⟩⟩ := h
  · exact ⟨c, cs ++ rest, rfl, .inl hc⟩
  · exact ⟨c, d :: ds ++ rest, rfl, .inr ⟨hc, d, ds ++ rest, rfl, hd⟩⟩

theorem IsDigits.beginsNumber {t : Text} (h : IsDigits Char.isDigit t) : BeginsNumber t := by
  obtain ⟨c, cs, rfl, hc⟩ := h.exists_cons
  exact ⟨c, cs, rfl, .inl hc⟩

theorem IsPointed.beginsNumber {t : Text} (h : IsPointed t) : BeginsNumber t := by
  cases h with
  | @fraction cs right =>
    obtain ⟨d, ds, rfl, hd⟩ := right.exists_cons
    exact ⟨'.', d :: ds, rfl, .inr ⟨rfl, d, ds, rfl, hd⟩⟩
  | whole left => exact left.beginsNumber.append _
  | both left right => exact left.beginsNumber.append _

theorem IsFloat.beginsNumber {t : Text} (h : IsFloat t) : BeginsNumber t := by
  cases h with
  | pointed body => exact body.beginsNumber
  | scaled body exponent => exact body.beginsNumber.append _
  | scaledWhole body exponent => exact body.beginsNumber.append _

theorem IsInteger.beginsNumber {t : Text} (h : IsInteger t) : BeginsNumber t := by
  cases h with
  | based hbase body => exact ⟨'0', _, rfl, .inl rfl⟩
  | decimal hc body => exact body.beginsNumber
  | zero => exact ⟨'0', [], rfl, .inl rfl⟩

theorem IsLiteral.beginsNumber {t : Text} (h : IsLiteral t) : BeginsNumber t := by
  cases h with
  | imaginary body hc => exact body.beginsNumber.append _
  | imaginaryWhole body hc => exact body.beginsNumber.append _
  | float body => exact body.beginsNumber
  | long body hc => exact body.beginsNumber.append _
  | integer body => exact body.beginsNumber

end NumberLiteral

/-- A space or nothing comes next. -/
def Parted (rest : Text) : Prop :=
  ∀ c ∈ rest.head?, c = ' '

theorem Parted.beginsOutside {rest : Text} (h : Parted rest) {p : Char → Bool}
    (hp : p ' ' = false) : BeginsOutside p rest := by
  intro c hc
  rw [h c hc]
  exact hp

namespace Piece

/-- The piece that a rule makes of a lexeme. -/
def claim (lexeme : Token.Kind × Text) : Piece :=
  ⟨lexeme.1, lexeme.2, true⟩

/-- The joined pieces of a line that begins in code, and the mode it ends in. -/
def ofCode (line : Text) : List Piece × Mode :=
  (join (cut .standard .code line).1, (cut .standard .code line).2)

theorem attach_claim {lexeme : Token.Kind × Text} {pieces : List Piece}
    (h : ∀ q ∈ pieces.head?, q.kind = lexeme.1 → lexeme.1 ≠ .string ∧ lexeme.1 ≠ .comment) :
    attach (claim lexeme) pieces = claim lexeme :: pieces := by
  cases pieces with
  | nil => rfl
  | cons q rest =>
    have hjoins : (claim lexeme).joins q = false := by
      refine Bool.eq_false_iff.mpr fun hjoins => ?_
      simp only [joins, claim, if_true, Bool.and_eq_true, Bool.or_eq_true, beq_iff_eq] at hjoins
      obtain ⟨hstring, hcomment⟩ := h q rfl hjoins.1.2.symm
      exact hjoins.2.elim hstring hcomment
    simp [attach, hjoins]

theorem kind_of_head?_join {p : Piece} {pieces : List Piece} :
    ∀ q ∈ (join (p :: pieces)).head?, q.kind = p.kind := by
  change ∀ q ∈ (attach p (join pieces)).head?, q.kind = p.kind
  cases join pieces with
  | nil => simp [attach]
  | cons r rest => by_cases hjoins : p.joins r = true <;> simp [attach, hjoins]

/-- Lexemes of different kinds do not join with each other, nor with white space behind them. -/
theorem join_map_claim_append {found : List (Token.Kind × Text)} {pieces : List Piece}
    (hfound : found.IsChain fun a b => a.1 ≠ b.1)
    (hpieces : ∀ q ∈ (join pieces).head?, q.kind = .plain) :
    join (found.map claim ++ pieces) = found.map claim ++ join pieces := by
  induction found with
  | nil => rfl
  | cons a rest ih =>
    change attach (claim a) (join (rest.map claim ++ pieces)) = _
    rw [ih hfound.tail]
    refine attach_claim fun q hq hkind => ?_
    cases rest with
    | nil =>
      rw [← hkind, hpieces q hq]
      decide
    | cons b rest =>
      cases Option.some.inj hq
      cases hfound with
      | cons_cons hne _ => exact absurd hkind.symm hne

theorem kind_of_head?_ofCode {rest : Text} (hrest : Parted rest) :
    ∀ q ∈ (ofCode rest).1.head?, q.kind = .plain := by
  cases rest with
  | nil => simp [ofCode, join]
  | cons c cs =>
    obtain rfl := hrest c rfl
    have hsplit : ' ' :: cs.takeWhile isBlank ++ cs.dropWhile isBlank = ' ' :: cs := by
      rw [List.cons_append, List.takeWhile_append_dropWhile]
    have hblank : ∀ c ∈ ' ' :: cs.takeWhile isBlank, isBlank c = true :=
      List.forall_mem_cons.mpr ⟨rfl, fun c hc => List.mem_takeWhile_imp hc⟩
    rw [ofCode, ← hsplit,
      cut_blanks (List.cons_ne_nil _ _) hblank (beginsOutside_dropWhile isBlank cs)]
    exact kind_of_head?_join

end Piece

open Piece RuleTable Rule

/-- A text that stands before a space or at the end of a line is read as some lexemes. -/
def Reads (t : Text) (found : List (Token.Kind × Text)) : Prop :=
  ∀ rest, Parted rest → ofCode (t ++ rest) = (found.map claim ++ (ofCode rest).1, (ofCode rest).2)

/-- A text is read by the first rule that is not passed over, if that rule takes all of it. -/
theorem reads_of_drop {t : Text} (ht : t ≠ []) (k : Nat)
    (hpassed : ∀ rest, Parted rest → first? codeRules (t ++ rest) =
      first? (codeRules.drop k) (t ++ rest))
    {rule : Rule} {rules : List Rule} (hrule : codeRules.drop k = rule :: rules)
    (hnext : rule.next = none)
    (hmatch : ∀ rest, Parted rest → rule.recognize (t ++ rest) = some t.length) :
    Reads t (rule.action.pieces t) := by
  intro rest hrest
  have hfirst : first? codeRules (t ++ rest) = some (rule, t.length) := by
    rw [hpassed rest hrest, hrule]
    exact first?_cons_of_recognize (hmatch rest hrest) (List.length_pos_iff.mpr ht)
  have hcut := cut_append .code ht hfirst
  rw [hnext, Option.getD_none] at hcut
  have hpieces : (rule.action.pieces t).IsChain fun a b => a.1 ≠ b.1 := by
    cases rule.action with
    | emit kind => exact .singleton _
    | byWord => exact .singleton _
    | dotted => exact .cons_cons nofun (.singleton _)
  rw [ofCode, hcut]
  exact Prod.ext (join_map_claim_append hpieces (kind_of_head?_ofCode hrest)) rfl

/-- Rules are passed over whose classes avoid the first character. -/
theorem reads_of_classes {c : Char} {cs : Text} (k : Nat)
    (hpassed : ∀ p ∈ codeClasses.take k, p c = false) {rule : Rule} {rules : List Rule}
    (hrule : codeRules.drop k = rule :: rules) (hnext : rule.next = none)
    (hmatch : ∀ rest, Parted rest → rule.recognize (c :: cs ++ rest) = some (c :: cs).length) :
    Reads (c :: cs) (rule.action.pieces (c :: cs)) :=
  reads_of_drop (List.cons_ne_nil c cs) k
    (fun rest _ => first?_eq_drop codeRules_beginIn (cs ++ rest) hpassed) hrule hnext hmatch

theorem beq_eq_false_of_class {p : Char → Bool} {c d : Char} (hc : p c = true)
    (hd : p d = false) : (c == d) = false :=
  beq_eq_false_iff_ne.mpr (ne_of_class hc hd)

theorem reads_word {name : Text} (h : isName name = true) :
    Reads name [(if name.head?.any isUpper then .moduleName else wordKind name, name)] := by
  obtain ⟨c, cs, rfl, hc, hcs⟩ := exists_cons_of_isName h
  have hhash : (c == '#') = false := beq_eq_false_of_class hc rfl
  have hpoint : (c == '.') = false := beq_eq_false_of_class hc rfl
  have hquote : (c == '"') = false := beq_eq_false_of_class hc rfl
  have hapostrophe : (c == '\x27') = false := beq_eq_false_of_class hc rfl
  rw [List.head?_cons, Option.any_some]
  cases hupper : isUpper c with
  | true =>
    have hpassed : ∀ p ∈ codeClasses.take 2, p c = false := by
      simp [codeClasses, hhash]
    exact reads_of_classes 2 hpassed rfl rfl
      fun rest hrest => word?_append hupper hcs (hrest.beginsOutside rfl)
  | false =>
    have hdigit : NumberLiteral.isNumberStart c = false := by
      rw [NumberLiteral.isNumberStart, isDigit_eq_false_of_isNameStart hc, hpoint]
      rfl
    have hpassed : ∀ p ∈ codeClasses.take 8, p c = false := by
      simp [codeClasses, hhash, hpoint, hquote, hapostrophe, hupper, hdigit]
    exact reads_of_classes 8 hpassed rfl rfl
      fun rest hrest => word?_append hc hcs (hrest.beginsOutside rfl)

theorem reads_access {name : Text} (h : isName name = true) :
    Reads ('.' :: name) [(.operator, ['.']), (.member, name)] := by
  obtain ⟨c, cs, rfl, hc, hcs⟩ := exists_cons_of_isName h
  refine reads_of_classes 3 (by decide) rfl rfl fun rest hrest => ?_
  have hname := word?_append hc hcs (hrest.beginsOutside rfl)
  change dottedName? ('.' :: (c :: cs ++ rest)) = _
  rw [dottedName?, hname]
  rfl

theorem reads_string {body : Text} (h : IsStringBody body) :
    Reads ('"' :: body ++ ['"']) [(.string, '"' :: body ++ ['"'])] := by
  refine reads_of_classes 4 (by decide) rfl rfl fun rest _ => ?_
  have hclose := closingQuote?_append h rest
  change string? ('"' :: (body ++ ['"'] ++ rest)) = _
  rw [string?, List.append_assoc, List.singleton_append, hclose]
  simp

theorem reads_single {c : Char} (hquote : c ≠ '\x27') (hescape : c ≠ '\\') :
    Reads ['\x27', c, '\x27'] [(.string, ['\x27', c, '\x27'])] := by
  refine reads_of_classes 5 (by decide) rfl rfl fun rest _ => ?_
  change charLiteral? ('\x27' :: c :: '\x27' :: rest) = _
  rw [charLiteral?, if_neg (not_or.mpr ⟨hquote, hescape⟩)]
  · rfl
  · intro _ hc _
    exact absurd hc hescape

theorem reads_escaped {c : Char} (hc : c ≠ '\n') :
    Reads ['\x27', '\\', c, '\x27'] [(.string, ['\x27', '\\', c, '\x27'])] := by
  refine reads_of_classes 5 (by decide) rfl rfl fun rest _ => ?_
  change charLiteral? ('\x27' :: '\\' :: c :: '\x27' :: rest) = _
  rw [charLiteral?, if_neg hc]
  rfl

theorem BeginsOutside.append {p : Char → Bool} {t rest : Text} (ht : ∀ c ∈ t, p c = false)
    (hrest : BeginsOutside p rest) : BeginsOutside p (t ++ rest) := by
  cases t with
  | nil => exact hrest
  | cons c cs => exact beginsOutside_cons (ht c List.mem_cons_self)

/-- A point that begins no member access is left to the rules from that for numbers on. -/
theorem first?_point {cs : Text} (h : BeginsOutside isNameStart cs) :
    first? codeRules ('.' :: cs) = first? (codeRules.drop 7) ('.' :: cs) := by
  calc first? codeRules ('.' :: cs)
      = first? (codeRules.drop 3) ('.' :: cs) := first?_eq_drop codeRules_beginIn cs (by decide)
    _ = first? (codeRules.drop 4) ('.' :: cs) :=
        first?_cons_of_reach?_eq_none (reach?_eq_none_of_recognize (dottedName?_point_eq_none h))
    _ = first? (codeRules.drop 7) ('.' :: cs) :=
        first?_eq_drop (k := 3) (List.forall₂_drop 4 codeRules_beginIn) cs (by decide)

theorem reads_number {literal : Text} (h : NumberLiteral.IsLiteral literal) :
    Reads literal [(.number, literal)] := by
  have hmatch : ∀ rest, Parted rest →
      NumberLiteral.number? (literal ++ rest) = some literal.length :=
    fun rest hrest => NumberLiteral.number?_append h (hrest.beginsOutside rfl)
  obtain ⟨c, cs, rfl, hc | ⟨rfl, d, ds, rfl, hd⟩⟩ := h.beginsNumber
  · have hdigits : ∀ p ∈ codeClasses.take 7, ∀ n ∈ List.range' 48 10,
        p (Char.ofNat n) = false := by decide
    exact reads_of_classes 7 (fun p hp => eq_false_of_isDigit hc p (hdigits p hp)) rfl rfl hmatch
  · have hname : isNameStart d = false := eq_false_of_isDigit hd isNameStart (by decide)
    exact reads_of_drop (t := '.' :: d :: ds) (List.cons_ne_nil _ _) 7
      (fun rest _ => first?_point (beginsOutside_cons hname)) rfl rfl hmatch

theorem reads_operator {g : Text} (h : g ∈ operators) : Reads g [(.operator, g)] := by
  have hmatch : ∀ rest, Parted rest → operator? (g ++ rest) = some g.length :=
    fun rest hrest => operator?_append h (hrest.beginsOutside rfl)
  have hpoints : ∀ g ∈ operators, g.head? = some '.' → g.tail.all (· == '.') = true := by decide
  have hothers : ∀ g ∈ operators, g.head? ≠ some '.' →
      ∀ p ∈ codeClasses.take 9, g.head?.any p = false := by decide +kernel
  obtain ⟨c, cs, rfl⟩ := List.exists_cons_of_ne_nil (ne_nil_of_mem_operators h)
  by_cases hc : c = '.'
  · subst hc
    have hbehind : ∀ p : Char → Bool, p '.' = false → p ' ' = false → ∀ rest, Parted rest →
        BeginsOutside p (cs ++ rest) := by
      intro p hpoint hspace rest hrest
      refine BeginsOutside.append (fun c hc => ?_) (hrest.beginsOutside hspace)
      rw [beq_iff_eq.mp (List.all_eq_true.mp (hpoints _ h rfl) c hc)]
      exact hpoint
    refine reads_of_drop (List.cons_ne_nil _ _) 9 (fun rest hrest => ?_) rfl rfl hmatch
    have hnumber := NumberLiteral.number?_point_eq_none (hbehind _ rfl rfl rest hrest)
    calc first? codeRules ('.' :: (cs ++ rest))
        = first? (codeRules.drop 7) ('.' :: (cs ++ rest)) :=
          first?_point (hbehind _ rfl rfl rest hrest)
      _ = first? (codeRules.drop 8) ('.' :: (cs ++ rest)) :=
          first?_cons_of_reach?_eq_none (reach?_eq_none_of_recognize hnumber)
      _ = first? (codeRules.drop 9) ('.' :: (cs ++ rest)) :=
          first?_eq_drop (k := 1) (List.forall₂_drop 8 codeRules_beginIn) _ (by decide)
  · exact reads_of_classes 9 (hothers _ h (by simpa using hc)) rfl rfl hmatch

theorem isOpening_iff {c : Char} : isOpening c = true ↔ c = '(' ∨ c = '[' ∨ c = '{' := by
  simp [isOpening, or_assoc]

theorem isClosing_iff {c : Char} : isClosing c = true ↔ c = ')' ∨ c = ']' ∨ c = '}' := by
  simp [isClosing, or_assoc]

theorem reads_bracket {c : Char} (h : isOpening c = true ∨ isClosing c = true) :
    Reads [c] [(if isOpening c then .opening else .closing, [c])] := by
  cases hopening : isOpening c with
  | true =>
    have hpassed : ∀ p ∈ codeClasses.take 10, p c = false := by
      rcases isOpening_iff.mp hopening with rfl | rfl | rfl <;> decide
    exact reads_of_classes 10 hpassed rfl rfl fun rest _ => if_pos hopening
  | false =>
    have hclosing : isClosing c = true := by simpa [hopening] using h
    have hpassed : ∀ p ∈ codeClasses.take 11, p c = false := by
      rcases isClosing_iff.mp hclosing with rfl | rfl | rfl <;> decide
    exact reads_of_classes 11 hpassed rfl rfl fun rest _ => if_pos hclosing

/-- The opening of a comment and what follows up to its end are cut off apart and joined again. -/
theorem reads_comment {body : Text} (hinline : '\n' ∉ body)
    (hclosed : ∀ a b, body ++ [']', '#'] = a ++ ']' :: '#' :: b → b = []) :
    Reads ('#' :: '[' :: body ++ [']', '#'])
      [(.comment, '#' :: '[' :: body ++ [']', '#'])] := by
  intro rest hrest
  have hend : commentEnd? (body ++ [']', '#'] ++ rest) = some (body ++ [']', '#']).length := by
    rw [List.append_assoc, List.length_append]
    exact commentEnd?_append hinline hclosed rest
  have hne : body ++ [']', '#'] ≠ [] := by simp
  have hopen : cut .standard .code ('#' :: '[' :: body ++ [']', '#'] ++ rest) =
      (claim (.comment, ['#', '[']) :: (cut .standard .comment (body ++ [']', '#'] ++ rest)).1,
        (cut .standard .comment (body ++ [']', '#'] ++ rest)).2) :=
    cut_append .code (t := ['#', '[']) (List.cons_ne_nil _ _)
      (first?_cons_of_recognize rfl Nat.two_pos)
  have hclose : cut .standard .comment (body ++ [']', '#'] ++ rest) =
      (claim (.comment, body ++ [']', '#']) :: (cut .standard .code rest).1,
        (cut .standard .code rest).2) :=
    cut_append .comment hne
      (first?_cons_of_recognize hend (List.length_pos_iff.mpr hne))
  have hjoin : join (claim (.comment, body ++ [']', '#']) :: (cut .standard .code rest).1) =
      claim (.comment, body ++ [']', '#']) :: join (cut .standard .code rest).1 :=
    join_map_claim_append (.singleton _) (kind_of_head?_ofCode hrest)
  rw [ofCode, hopen, hclose]
  refine Prod.ext ?_ rfl
  change attach (claim (.comment, ['#', '['])) (join _) = _
  rw [hjoin]
  rfl

theorem Item.reads (item : Item) : Reads item.text item.lexemes := by
  cases item with
  | word name shape => exact reads_word shape
  | number literal shape => exact reads_number shape
  | operator glyphs known => exact reads_operator known
  | bracket glyph known => exact reads_bracket known
  | access name shape => exact reads_access shape
  | string body shape => exact reads_string shape
  | single c hquote hescape => exact reads_single hquote hescape
  | escaped c inline => exact reads_escaped inline
  | comment body inline closed => exact reads_comment inline closed

theorem ofCode_remark (remark : Remark) :
    ofCode ('#' :: remark.text) = ([claim (.comment, '#' :: remark.text)], .code) := by
  have hopen : literal? ['#', '['] ('#' :: remark.text) = none := by
    cases htext : remark.text with
    | nil => rfl
    | cons c cs =>
      have hc : '[' ≠ c := by
        rintro rfl
        exact remark.plain (by rw [htext]; rfl)
      simp [literal?, hc]
  have hline : lineComment? ('#' :: remark.text) = some ('#' :: remark.text).length := by
    rw [lineComment?, word?, takeWhile_isInline remark.inline]
    rfl
  have hfirst : first? codeRules ('#' :: remark.text ++ []) =
      some (⟨"line_comment", lineComment?, .emit .comment, none⟩, ('#' :: remark.text).length) := by
    rw [List.append_nil]
    exact first?_cons_cons_of_recognize hopen hline (Nat.succ_pos _)
  have hcut := cut_append .code (List.cons_ne_nil '#' remark.text) hfirst
  rw [List.append_nil] at hcut
  rw [ofCode, hcut]
  rfl

/-- No lexical item begins with white space. -/
theorem Item.beginsOutside (item : Item) (rest : Text) :
    BeginsOutside isBlank (item.text ++ rest) := by
  cases item with
  | word name shape =>
    obtain ⟨c, cs, rfl, hc, -⟩ := exists_cons_of_isName shape
    refine beginsOutside_cons (Bool.eq_false_iff.mpr fun hblank => ?_)
    exact ne_of_class (isNamePart_of_isNameStart hc) (isNamePart_eq_false_of_isBlank hblank) rfl
  | number literal shape =>
    obtain ⟨c, cs, rfl, hc | ⟨rfl, -⟩⟩ := shape.beginsNumber
    · exact beginsOutside_cons (eq_false_of_isDigit hc isBlank (by decide))
    · exact beginsOutside_cons rfl
  | operator glyphs known =>
    have hblank : ∀ g ∈ operators, g.head?.any isBlank = false := by decide
    obtain ⟨c, cs, rfl⟩ := List.exists_cons_of_ne_nil (ne_nil_of_mem_operators known)
    exact beginsOutside_cons (hblank _ known)
  | bracket glyph known =>
    refine beginsOutside_cons ?_
    rcases known with hopening | hclosing
    · rcases isOpening_iff.mp hopening with rfl | rfl | rfl <;> rfl
    · rcases isClosing_iff.mp hclosing with rfl | rfl | rfl <;> rfl
  | access name shape => exact beginsOutside_cons rfl
  | string body shape => exact beginsOutside_cons rfl
  | single c hquote hescape => exact beginsOutside_cons rfl
  | escaped c inline => exact beginsOutside_cons rfl
  | comment body inline closed => exact beginsOutside_cons rfl

theorem ofCode_space {rest : Text} (hrest : BeginsOutside isBlank rest) :
    ofCode (' ' :: rest) = (claim (.plain, [' ']) :: (ofCode rest).1, (ofCode rest).2) := by
  have hcut : cut .standard .code (' ' :: rest) =
      (claim (.plain, [' ']) :: (cut .standard .code rest).1, (cut .standard .code rest).2) :=
    cut_blanks (List.cons_ne_nil _ _) (List.forall_mem_singleton.mpr rfl) hrest
  have hattach : attach (claim (.plain, [' '])) (join (cut .standard .code rest).1) =
      claim (.plain, [' ']) :: join (cut .standard .code rest).1 := by
    refine attach_claim fun _ _ _ => ⟨?_, ?_⟩ <;> exact Token.Kind.noConfusion
  rw [ofCode, hcut]
  exact Prod.ext hattach rfl

/-- What stands behind an item on a printed line. -/
def continuation (items : List Item) (remark : Option Remark) : Text :=
  items.flatMap (fun item => ' ' :: item.text) ++ remark.elim [] fun r => ' ' :: '#' :: r.text

def continuedLexemes (items : List Item) (remark : Option Remark) : List (Token.Kind × Text) :=
  items.flatMap (fun item => (.plain, [' ']) :: item.lexemes) ++
    remark.elim [] fun r => [(.plain, [' ']), (.comment, '#' :: r.text)]

theorem parted_continuation (items : List Item) (remark : Option Remark) :
    Parted (continuation items remark) := by
  intro c hc
  cases items with
  | nil =>
    cases remark with
    | none => cases hc
    | some r => exact (Option.some.inj hc).symm
  | cons item items => exact (Option.some.inj hc).symm

theorem ofCode_continuation (items : List Item) (remark : Option Remark) :
    ofCode (continuation items remark) =
      ((continuedLexemes items remark).map claim, .code) := by
  induction items with
  | nil =>
    cases remark with
    | none => rfl
    | some r =>
      change ofCode (' ' :: '#' :: r.text) = _
      rw [ofCode_space (beginsOutside_cons rfl), ofCode_remark]
      rfl
  | cons item items ih =>
    have hitem := item.reads _ (parted_continuation items remark)
    have hspace := ofCode_space (item.beginsOutside (continuation items remark))
    rw [hitem, ih] at hspace
    simp only [continuation, continuedLexemes, List.flatMap_cons, List.append_assoc,
      List.cons_append, List.map_cons, List.map_append] at hspace ⊢
    exact hspace

theorem map_layOut_claim (column : Nat) (found : List (Token.Kind × Text)) :
    (layOut column (found.map claim)).map (fun t => (t.kind, t.lexeme)) = found := by
  induction found generalizing column with
  | nil => rfl
  | cons a rest ih => exact congrArg (a :: ·) (ih _)

/-- Lexing undoes printing: the tokens of a printed line are its lexemes, and it ends in code. -/
theorem lexLine_printLine (items : List Item) (remark : Option Remark) :
    (lexLine .code (printLine items remark)).tokens.map (fun t => (t.kind, t.lexeme)) =
        printedLexemes items remark ∧
      (lexLine .code (printLine items remark)).endMode = .code := by
  have hread : ofCode (printLine items remark) =
      ((printedLexemes items remark).map claim, .code) := by
    cases items with
    | nil => exact ofCode_continuation [] remark
    | cons item items =>
      have hline : printLine (item :: items) remark = item.text ++ continuation items remark := by
        simp [printLine, continuation, intercalate_cons, List.flatMap_map]
      have hlexemes : printedLexemes (item :: items) remark =
          item.lexemes ++ continuedLexemes items remark := by
        simp [printedLexemes, continuedLexemes, intercalate_cons, List.flatMap_map]
      rw [hline, hlexemes, item.reads _ (parted_continuation items remark), ofCode_continuation,
        List.map_append]
  have hlexed : lexLine .code (printLine items remark) =
      ⟨layOut 0 (ofCode (printLine items remark)).1, (ofCode (printLine items remark)).2⟩ := rfl
  rw [hlexed, hread]
  exact ⟨map_layOut_claim 0 _, rfl⟩

example : printLine [.number ['1', '.'] (.float (.pointed (.whole (.single rfl)))),
    .operator ['.', '.'] (by decide), .access ['a'] rfl, .escaped '\x27' (by decide)]
    (some ⟨['b'], by decide, by decide⟩) = "1. .. .a '\\'' #b".toList := by decide

end EditorAssist
