import EditorAssist.Lexing.Line
import Mathlib.Data.List.TakeWhile

/-! Cutting a line by a table of rules: which rule applies, and what the pieces have in common. -/
namespace EditorAssist

namespace Recognizer

theorem literal?_eq_some {glyphs t : Text} {n : Nat} (h : literal? glyphs t = some n) :
    n = glyphs.length ∧ ∃ rest, t = glyphs ++ rest := by
  unfold literal? at h
  split_ifs at h with hbegins
  obtain ⟨rest, hrest⟩ := List.isPrefixOf_iff_prefix.mp hbegins
  exact ⟨(Option.some.inj h).symm, rest, hrest.symm⟩

theorem takeWhile_isInline {t : Text} (ht : '\n' ∉ t) : t.takeWhile isInline = t := by
  refine List.takeWhile_eq_self_iff.mpr fun c hc => ?_
  rw [isInline, bne_iff_ne]
  rintro rfl
  exact ht hc

theorem run?_cons_of_pos {p : Char → Bool} {c : Char} (hc : p c = true) (cs : Text) :
    run? p (c :: cs) = some ((cs.takeWhile p).length + 1) := by
  rw [run?, List.takeWhile_cons_of_pos hc, List.length_cons]

theorem charLiteral?_eq_none {c : Char} {cs : Text} (h : c ≠ '\x27') :
    charLiteral? (c :: cs) = none := by
  rw [charLiteral?]
  · exact fun _ _ hc => h (List.cons.inj hc).1
  · exact fun _ _ hc => h (List.cons.inj hc).1

theorem charLiteral?_pos {t : Text} {n : Nat} (h : charLiteral? t = some n) : 0 < n := by
  unfold charLiteral? at h
  split at h
  · split_ifs at h
    cases Option.some.inj h
    decide
  · split_ifs at h
    cases Option.some.inj h
    decide
  · cases h

theorem commentEnd?_pos {t : Text} {n : Nat} (h : commentEnd? t = some n) : 0 < n := by
  unfold commentEnd? at h
  split at h
  · cases h
  · cases Option.some.inj h
    decide
  · split_ifs at h
    obtain ⟨m, -, rfl⟩ := Option.map_eq_some_iff.mp h
    exact Nat.succ_pos m

theorem length_le_of_closingQuote? {t : Text} {n : Nat} (h : closingQuote? t = some n) :
    n ≤ t.length := by
  fun_induction closingQuote? t generalizing n with
  | case1 => cases h
  | case2 rest =>
    cases Option.some.inj h
    exact Nat.succ_pos _
  | case3 => cases h
  | case4 c cs hc ih =>
    obtain ⟨m, hm, rfl⟩ := Option.map_eq_some_iff.mp h
    have hle := ih hm
    simp only [List.length_cons]
    omega
  | case5 c cs hquote hescape ih =>
    obtain ⟨m, hm, rfl⟩ := Option.map_eq_some_iff.mp h
    exact Nat.succ_le_succ (ih hm)

theorem length_le_of_commentEnd? {t : Text} {n : Nat} (h : commentEnd? t = some n) :
    n ≤ t.length := by
  fun_induction commentEnd? t generalizing n with
  | case1 => cases h
  | case2 rest =>
    cases Option.some.inj h
    simp only [List.length_cons]
    omega
  | case3 => cases h
  | case4 c cs hclose hc ih =>
    obtain ⟨m, hm, rfl⟩ := Option.map_eq_some_iff.mp h
    exact Nat.succ_le_succ (ih hm)

end Recognizer

namespace RuleTable
open Recognizer

/-- The rules of the language, one by one. -/
theorem standard_cases {motive : (mode : Mode) → (rule : Rule) → rule ∈ standard mode → Prop}
    (commentOpen : ∀ h, motive .code
      ⟨"block_comment_open", literal? ['#', '['], .emit .comment, some .comment⟩ h)
    (lineComment : ∀ h, motive .code ⟨"line_comment", lineComment?, .emit .comment, none⟩ h)
    (moduleName : ∀ h, motive .code
      ⟨"module_reference", word? isUpper isNamePart, .emit .moduleName, none⟩ h)
    (access : ∀ h, motive .code ⟨"member_access", dottedName?, .dotted, none⟩ h)
    (string : ∀ h, motive .code ⟨"string", string?, .emit .string, none⟩ h)
    (char : ∀ h, motive .code ⟨"char", charLiteral?, .emit .string, none⟩ h)
    (stringOpen : ∀ h, motive .code ⟨"open_string", literal? ['"'], .emit .string, some .quoted⟩ h)
    (number : ∀ h, motive .code ⟨"number", NumberLiteral.number?, .emit .number, none⟩ h)
    (name : ∀ h, motive .code ⟨"identifier", word? isNameStart isNamePart, .byWord, none⟩ h)
    (operator : ∀ h, motive .code ⟨"operator", operator?, .emit .operator, none⟩ h)
    (opening : ∀ h, motive .code ⟨"open_paren", one? isOpening, .emit .opening, none⟩ h)
    (closing : ∀ h, motive .code ⟨"close_paren", one? isClosing, .emit .closing, none⟩ h)
    (blanks : ∀ h, motive .code ⟨"whitespace", run? isBlank, .emit .plain, none⟩ h)
    (commentClose : ∀ h, motive .comment
      ⟨"block_comment_close", commentEnd?, .emit .comment, some .code⟩ h)
    (commentBody : ∀ h, motive .comment
      ⟨"block_comment_body", run? isInline, .emit .comment, none⟩ h)
    (escape : ∀ h, motive .quoted ⟨"escape", escape?, .emit .string, none⟩ h)
    (stringBody : ∀ h, motive .quoted ⟨"string_body", run? isStringBody, .emit .string, none⟩ h)
    (backslash : ∀ h, motive .quoted
      ⟨"line_continuation", literal? ['\\'], .emit .string, none⟩ h)
    (stringClose : ∀ h, motive .quoted
      ⟨"close_string", literal? ['"'], .emit .string, some .code⟩ h)
    {mode : Mode} {rule : Rule} (h : rule ∈ standard mode) : motive mode rule h := by
  have hrule := h
  cases mode with
  | code =>
    simp only [standard, codeRules, List.mem_cons, List.not_mem_nil, or_false] at hrule
    rcases hrule with rfl | rfl | rfl | rfl | rfl | rfl | rfl | rfl | rfl | rfl | rfl | rfl | rfl
    exacts [commentOpen h, lineComment h, moduleName h, access h, string h, char h, stringOpen h,
      number h, name h, operator h, opening h, closing h, blanks h]
  | comment =>
    simp only [standard, commentRules, List.mem_cons, List.not_mem_nil, or_false] at hrule
    rcases hrule with rfl | rfl
    exacts [commentClose h, commentBody h]
  | quoted =>
    simp only [standard, quotedRules, List.mem_cons, List.not_mem_nil, or_false] at hrule
    rcases hrule with rfl | rfl | rfl | rfl
    exacts [escape h, stringBody h, backslash h, stringClose h]

end RuleTable

namespace Rule
open Recognizer

theorem recognize_of_reach? {rule : Rule} {t : Text} {n : Nat} (h : rule.reach? t = some n) :
    rule.recognize t = some n ∧ 0 < n := by
  obtain ⟨hmatch, hpos⟩ := Option.filter_eq_some_iff.mp h
  exact ⟨hmatch, of_decide_eq_true hpos⟩

theorem reach?_of_recognize {rule : Rule} {t : Text} {n : Nat} (h : rule.recognize t = some n)
    (hn : 0 < n) : rule.reach? t = some n := by
  rw [reach?, h]
  exact Option.filter_some_pos (decide_eq_true hn)

theorem of_first?_eq_some {rules : List Rule} {t : Text} {rule : Rule} {n : Nat}
    (h : first? rules t = some (rule, n)) : rule ∈ rules ∧ rule.recognize t = some n ∧ 0 < n := by
  obtain ⟨r, hr, hreach⟩ := List.exists_of_findSome?_eq_some h
  obtain ⟨m, hm, heq⟩ := Option.map_eq_some_iff.mp hreach
  cases heq
  exact ⟨hr, recognize_of_reach? hm⟩

theorem first?_cons_eq_some {rule r : Rule} {rules : List Rule} {t : Text} {n : Nat} :
    first? (rule :: rules) t = some (r, n) ↔
      (rule.reach? t = some n ∧ r = rule) ∨
        (rule.reach? t = none ∧ first? rules t = some (r, n)) := by
  cases h : rule.reach? t with
  | none => simp [first?, h]
  | some m =>
    simp only [first?, List.findSome?_cons, h, Option.map_some, Option.some.injEq, Prod.mk.injEq,
      reduceCtorEq, false_and, or_false]
    constructor
    · rintro ⟨rfl, rfl⟩
      exact ⟨rfl, rfl⟩
    · rintro ⟨rfl, rfl⟩
      exact ⟨rfl, rfl⟩

theorem first?_eq_none_iff {rules : List Rule} {t : Text} :
    first? rules t = none ↔ ∀ rule ∈ rules, rule.reach? t = none := by
  simp [first?]

theorem reach?_eq_none_of_first? {rules : List Rule} {t : Text} (h : first? rules t = none)
    {rule : Rule} (hrule : rule ∈ rules) : rule.reach? t = none :=
  first?_eq_none_iff.mp h rule hrule

theorem reach?_ne_none {rule : Rule} {t : Text} {n : Nat} (h : rule.recognize t = some n)
    (hn : 0 < n) : rule.reach? t ≠ none := by
  simp [reach?_of_recognize h hn]

/-- Rules that do not come first can be left out. -/
theorem first?_filter {rules : List Rule} {t : Text} {keep : Rule → Bool}
    (h : ∀ found ∈ first? rules t, keep found.1 = true) :
    first? (rules.filter keep) t = first? rules t := by
  induction rules with
  | nil => rfl
  | cons rule rules ih =>
    cases hreach : rule.reach? t with
    | none =>
      have hrest : first? (rule :: rules) t = first? rules t := by simp [first?, hreach]
      rw [hrest] at h ⊢
      rw [← ih h]
      by_cases hkeep : keep rule = true
      · rw [List.filter_cons_of_pos hkeep]
        simp [first?, hreach]
      · rw [List.filter_cons_of_neg hkeep]
    | some n =>
      have hfirst : ∀ others, first? (rule :: others) t = some (rule, n) := by
        simp [first?, hreach]
      rw [List.filter_cons_of_pos (h _ (hfirst rules)), hfirst, hfirst]

/-- Inside an open string some rule always matches. -/
theorem first?_quoted_ne_none (c : Char) (cs : Text) :
    first? RuleTable.quotedRules (c :: cs) ≠ none := by
  rw [Ne, first?_eq_none_iff]
  simp only [RuleTable.quotedRules, List.forall_mem_cons]
  rintro ⟨-, hbody, hescape, hclose, -⟩
  by_cases hc : isStringBody c = true
  · exact reach?_ne_none (run?_cons_of_pos hc cs) (Nat.succ_pos _) hbody
  · have hmark : c = '"' ∨ c = '\\' := by
      simpa [isStringBody, or_iff_not_imp_left] using hc
    rcases hmark with rfl | rfl
    · exact reach?_ne_none (n := 1) rfl (by decide) hclose
    · exact reach?_ne_none (n := 1) rfl (by decide) hescape

/-- Inside a block comment only a line feed is left over. -/
theorem first?_comment_eq_none_iff (c : Char) (cs : Text) :
    first? RuleTable.commentRules (c :: cs) = none ↔ c = '\n' := by
  rw [first?_eq_none_iff]
  simp only [RuleTable.commentRules, List.forall_mem_cons, List.not_mem_nil, false_implies,
    implies_true, and_true]
  constructor
  · rintro ⟨-, hbody⟩
    by_contra hc
    have hinline : isInline c = true := by simpa [isInline] using hc
    exact reach?_ne_none (run?_cons_of_pos hinline cs) (Nat.succ_pos _) hbody
  · rintro rfl
    exact ⟨rfl, rfl⟩

end Rule

namespace Piece

/-- Where a rule matches, cutting goes on behind the match. -/
theorem cut_eq_of_first? {table : RuleTable} {mode : Mode} {t : Text} (ht : t ≠ []) {rule : Rule}
    {n : Nat} (h : Rule.first? (table mode) t = some (rule, n)) :
    cut table mode t =
      (ofMatch rule (t.take n) ++ (cut table (rule.next.getD mode) (t.drop n)).1,
        (cut table (rule.next.getD mode) (t.drop n)).2) := by
  obtain ⟨-, -, hn⟩ := Rule.of_first?_eq_some h
  obtain ⟨c, cs, rfl⟩ := List.exists_cons_of_ne_nil ht
  rw [cut_of_first? h, ← List.drop_cons hn]

/-- Induction along the cuts of a line: on what is left behind a match, or behind a character that
no rule claims. -/
theorem cut_induction (table : RuleTable) {motive : Mode → Text → Prop}
    (nil : ∀ mode, motive mode [])
    (matched : ∀ mode c cs rule n, Rule.first? (table mode) (c :: cs) = some (rule, n) →
      motive (rule.next.getD mode) ((c :: cs).drop n) → motive mode (c :: cs))
    (unmatched : ∀ mode c cs, Rule.first? (table mode) (c :: cs) = none →
      motive mode cs → motive mode (c :: cs))
    (mode : Mode) (line : Text) : motive mode line := by
  induction hlength : line.length using Nat.strong_induction_on generalizing mode line with
  | _ length ih =>
    cases line with
    | nil => exact nil mode
    | cons c cs =>
      rw [List.length_cons] at hlength
      cases hfirst : Rule.first? (table mode) (c :: cs) with
      | none => exact unmatched mode c cs hfirst (ih cs.length (by omega) mode cs rfl)
      | some found =>
        obtain ⟨-, -, hn⟩ := Rule.of_first?_eq_some hfirst
        have hshorter : ((c :: cs).drop found.2).length < length := by
          rw [List.length_drop, List.length_cons]
          omega
        exact matched mode c cs found.1 found.2 hfirst (ih _ hshorter _ _ rfl)

theorem join_append (pieces rest : List Piece) :
    join (pieces ++ rest) = pieces.foldr attach (join rest) :=
  List.foldr_append

/-- A piece with more text behind its own. -/
def extend (p : Piece) (more : Text) : Piece :=
  { p with text := p.text ++ more }

/-- A piece stays in front of the others or takes up the first of them. -/
theorem attach_cases (p : Piece) (pieces : List Piece) :
    attach p pieces = p :: pieces ∨ ∃ q rest, pieces = q :: rest ∧ p.joins q = true ∧
      attach p pieces = p.extend q.text :: rest := by
  cases pieces with
  | nil => exact .inl rfl
  | cons q rest =>
    by_cases hjoins : p.joins q = true
    · exact .inr ⟨q, rest, rfl, hjoins, if_pos hjoins⟩
    · exact .inl (if_neg hjoins)

theorem joins_extend (p q : Piece) (more : Text) : (p.extend more).joins q = p.joins q := rfl

/-- What is joined to a piece joins to others as that piece does. -/
theorem joins_congr {p q : Piece} (h : p.joins q = true) (r : Piece) : p.joins r = q.joins r := by
  obtain ⟨kind, text, claimed⟩ := p
  obtain ⟨other, more, alsoClaimed⟩ := q
  cases claimed <;> cases alsoClaimed <;> simp_all [joins]

/-- Joining goes from left to right: a piece takes up the next one, or is done. -/
theorem join_cons_cons (q p : Piece) (rest : List Piece) :
    join (q :: p :: rest) =
      if q.joins p then join (q.extend p.text :: rest) else q :: join (p :: rest) := by
  change attach q (attach p (join rest)) = if q.joins p then attach (q.extend p.text) (join rest)
    else q :: attach p (join rest)
  cases join rest with
  | nil => rfl
  | cons r others =>
    have hsame : q.joins p = true → (q.extend p.text).joins r = p.joins r := fun h => by
      rw [joins_extend, joins_congr h]
    have hjoined : q.joins (p.extend r.text) = q.joins p := rfl
    by_cases hpr : p.joins r = true
    · have hattach : attach p (r :: others) = p.extend r.text :: others := if_pos hpr
      rw [hattach, attach, hjoined]
      split_ifs with hqp
      · rw [attach, hsame hqp, if_pos hpr]
        simp only [extend, List.append_assoc]
      · rfl
    · have hattach : attach p (r :: others) = p :: r :: others := if_neg hpr
      rw [hattach, attach]
      split_ifs with hqp
      · rw [attach, hsame hqp, if_neg hpr]
        rfl
      · rfl

/-- A piece that no rule claims is plain. -/
def Honest (p : Piece) : Prop :=
  p.claimed = false → p.kind = .plain

theorem kind_eq_of_joins {p q : Piece} (hp : p.Honest) (hq : q.Honest) (h : p.joins q = true) :
    p.kind = q.kind := by
  unfold joins at h
  split_ifs at h with hclaimed
  · simp only [Bool.and_eq_true, beq_iff_eq] at h
    exact h.1.2
  · rw [hp (by simpa using hclaimed), hq (by simpa using h)]

theorem honest_attach {p : Piece} {pieces : List Piece} (hp : p.Honest)
    (h : ∀ q ∈ pieces, q.Honest) : ∀ q ∈ attach p pieces, q.Honest := by
  cases pieces with
  | nil => simpa [attach] using hp
  | cons q rest =>
    rw [List.forall_mem_cons] at h
    by_cases hjoins : p.joins q = true
    · simpa [attach, hjoins, Honest] using ⟨hp, h.2⟩
    · simpa [attach, hjoins] using ⟨hp, h⟩

theorem honest_join {pieces : List Piece} (h : ∀ p ∈ pieces, p.Honest) :
    ∀ p ∈ join pieces, p.Honest := by
  induction pieces with
  | nil => exact h
  | cons p rest ih =>
    rw [List.forall_mem_cons] at h
    exact honest_attach h.1 (ih h.2)

theorem honest_cut (table : RuleTable) (mode : Mode) (line : Text) :
    ∀ p ∈ (cut table mode line).1, p.Honest := by
  induction mode, line using cut_induction table with
  | nil mode => simp
  | matched mode c cs rule n hfirst ih =>
    rw [cut_eq_of_first? (List.cons_ne_nil c cs) hfirst]
    intro p hp
    rcases List.mem_append.mp hp with hp | hp
    · obtain ⟨found, -, rfl⟩ := List.mem_map.mp hp
      intro hclaimed
      cases hclaimed
    · exact ih p hp
  | unmatched mode c cs hfirst ih =>
    rw [cut_of_first?_eq_none hfirst, List.forall_mem_cons]
    exact ⟨fun _ => rfl, ih⟩

/-- The characters that pieces spell, each with the kind of its piece. -/
def shading (pieces : List Piece) : List (Char × Token.Kind) :=
  pieces.flatMap fun p => p.text.map (·, p.kind)

@[simp] theorem shading_nil : shading [] = [] := rfl

@[simp] theorem shading_cons (p : Piece) (rest : List Piece) :
    shading (p :: rest) = p.text.map (·, p.kind) ++ shading rest := by
  simp [shading]

theorem shading_append (pieces rest : List Piece) :
    shading (pieces ++ rest) = shading pieces ++ shading rest := by
  simp [shading]

theorem shading_attach {p : Piece} {pieces : List Piece} (hp : p.Honest)
    (h : ∀ q ∈ pieces, q.Honest) :
    shading (attach p pieces) = p.text.map (·, p.kind) ++ shading pieces := by
  cases pieces with
  | nil => simp [attach]
  | cons q rest =>
    by_cases hjoins : p.joins q = true
    · have hkind := kind_eq_of_joins hp (h q (by simp)) hjoins
      simp [attach, hjoins, hkind]
    · simp [attach, hjoins]

/-- Joining pieces changes the kind of no character. -/
theorem shading_join {pieces : List Piece} (h : ∀ p ∈ pieces, p.Honest) :
    shading (join pieces) = shading pieces := by
  induction pieces with
  | nil => rfl
  | cons p rest ih =>
    rw [List.forall_mem_cons] at h
    rw [shading_cons, ← ih h.2]
    exact shading_attach h.1 (honest_join h.2)

end Piece
end EditorAssist
