import EditorAssist.Proofs.Precedence

/-! Strings read at once and piece by piece. A string that is closed is matched as a whole by a rule
of its own. Without that rule its opening quote would begin an open string, whose pieces join to the
same token. -/
namespace EditorAssist
open Recognizer Rule RuleTable

namespace RuleTable

/-- Only the rule for closed strings bears its name. -/
theorem eq_of_name_string {mode : Mode} {rule : Rule} (h : rule ∈ standard mode)
    (hname : rule.name = "string") :
    mode = .code ∧ rule = ⟨"string", string?, .emit .string, none⟩ := by
  have hmem : rule ∈ (standard mode).filter (·.name == "string") :=
    List.mem_filter.mpr ⟨h, beq_iff_eq.mpr hname⟩
  cases mode with
  | code => exact ⟨rfl, List.mem_singleton.mp hmem⟩
  | comment => cases hmem
  | quoted => cases hmem

/-- Without the rule for closed strings a quote begins an open string. -/
theorem first?_without_string_quote (rest : Text) :
    first? (standard.without "string" .code) ('"' :: rest) =
      some (⟨"open_string", literal? ['"'], .emit .string, some .quoted⟩, 1) := by
  have hrules : standard.without "string" .code = codeRules.take 4 ++ codeRules.drop 5 := rfl
  have hclasses : List.Forall₂ BeginsIn (codeRules.take 4 ++ codeRules.drop 5)
      (codeClasses.take 4 ++ codeClasses.drop 5) :=
    List.rel_append (List.forall₂_take 4 codeRules_beginIn) (List.forall₂_drop 5 codeRules_beginIn)
  rw [hrules, first?_eq_drop (k := 5) hclasses rest (by decide)]
  exact first?_cons_of_recognize rfl Nat.one_pos

end RuleTable

namespace Piece

/-- The joined pieces of a line behind a first part of a string, and the mode it ends in. -/
def behindString (table : RuleTable) (mode : Mode) (lead rest : Text) : List Piece × Mode :=
  (join (⟨.string, lead, true⟩ :: (cut table mode rest).1), (cut table mode rest).2)

section
variable {table : RuleTable}

/-- More of the string is joined to its first part. -/
theorem behindString_of_first? {mode : Mode} {lead rest : Text} (hrest : rest ≠ []) {rule : Rule} {n : Nat}
    (h : first? (table mode) rest = some (rule, n)) (hstring : rule.action = .emit .string) :
    behindString table mode lead rest =
      behindString table (rule.next.getD mode) (lead ++ rest.take n) (rest.drop n) := by
  have hpieces : ofMatch rule (rest.take n) = [⟨.string, rest.take n, true⟩] := by
    rw [ofMatch, hstring]
    rfl
  rw [behindString, cut_eq_of_first? hrest h, hpieces, List.singleton_append, join_cons_cons]
  rfl

variable (hquoted : table .quoted = quotedRules)
include hquoted

theorem behindString_close (lead rest : Text) :
    behindString table .quoted lead ('"' :: rest) =
      behindString table .code (lead ++ ['"']) rest := by
  have hfirst : first? (table .quoted) ('"' :: rest) =
      some (⟨"close_string", literal? ['"'], .emit .string, some .code⟩, 1) := by
    rw [hquoted]
    rfl
  exact behindString_of_first? (List.cons_ne_nil _ _) hfirst rfl

theorem behindString_escape {c : Char} (hc : c ≠ '\n') (lead rest : Text) :
    behindString table .quoted lead ('\\' :: c :: rest) =
      behindString table .quoted (lead ++ ['\\', c]) rest := by
  have hmatch : escape? ('\\' :: c :: rest) = some 2 := if_neg hc
  have hfirst : first? (table .quoted) ('\\' :: c :: rest) =
      some (⟨"escape", escape?, .emit .string, none⟩, 2) := by
    rw [hquoted]
    exact first?_cons_of_recognize hmatch Nat.two_pos
  exact behindString_of_first? (List.cons_ne_nil _ _) hfirst rfl

/-- A run of characters that stand for themselves is taken up at once. -/
theorem behindString_run (lead rest : Text) :
    behindString table .quoted lead rest =
      behindString table .quoted (lead ++ rest.takeWhile isStringBody)
        (rest.dropWhile isStringBody) := by
  cases rest with
  | nil => simp
  | cons c cs =>
    by_cases hc : isStringBody c = true
    · have hslash : (c == '\\') = false := beq_eq_false_iff_ne.mpr (ne_of_class hc rfl)
      have hpos : 0 < ((c :: cs).takeWhile isStringBody).length := by simp [hc]
      have hfirst : first? (table .quoted) (c :: cs) =
          some (⟨"string_body", run? isStringBody, .emit .string, none⟩,
            ((c :: cs).takeWhile isStringBody).length) := by
        rw [hquoted]
        exact first?_cons_cons_of_recognize (escape?_cons_eq_none cs hslash) rfl hpos
      rw [behindString_of_first? (List.cons_ne_nil _ _) hfirst rfl, take_length_takeWhile,
        drop_length_takeWhile]
      rfl
    · simp [hc]

theorem behindString_body {c : Char} (hc : isStringBody c = true) (lead rest : Text) :
    behindString table .quoted lead (c :: rest) =
      behindString table .quoted (lead ++ [c]) rest := by
  rw [behindString_run hquoted lead, behindString_run hquoted (lead ++ [c]),
    List.takeWhile_cons_of_pos hc, List.dropWhile_cons_of_pos hc, List.append_assoc]
  rfl

/-- The pieces of an open string up to its closing quote join to its first part. -/
theorem behindString_of_closingQuote? {t : Text} {n : Nat} (h : closingQuote? t = some n)
    (lead : Text) :
    behindString table .quoted lead t =
      behindString table .code (lead ++ t.take n) (t.drop n) := by
  fun_induction closingQuote? t generalizing n lead with
  | case1 => cases h
  | case2 rest =>
    cases Option.some.inj h
    exact behindString_close hquoted lead rest
  | case3 => cases h
  | case4 c cs hc ih =>
    obtain ⟨m, hm, rfl⟩ := Option.map_eq_some_iff.mp h
    rw [behindString_escape hquoted hc, ih hm, List.append_assoc]
    rfl
  | case5 c cs hquote hescape ih =>
    obtain ⟨m, hm, rfl⟩ := Option.map_eq_some_iff.mp h
    have hslash : c ≠ '\\' := by
      rintro rfl
      -- behind a last backslash nothing is left to close the string
      cases cs with
      | nil => cases hm
      | cons d ds => exact hescape d ds rfl rfl
    have hmark : c ≠ '"' := hquote
    have hbody : isStringBody c = true := by simp [isStringBody, hslash, hmark]
    rw [behindString_body hquoted hbody, ih hm, List.append_assoc]
    rfl

end

/-- The joined pieces of a line by a table, and the mode it ends in. -/
def joined (table : RuleTable) (mode : Mode) (line : Text) : List Piece × Mode :=
  (join (cut table mode line).1, (cut table mode line).2)

/-- Joined pieces behind a match are joined to those of the match. -/
theorem joined_of_first? {table : RuleTable} {mode : Mode} {t : Text} (ht : t ≠ []) {rule : Rule}
    {n : Nat} (h : first? (table mode) t = some (rule, n)) :
    joined table mode t =
      ((ofMatch rule (t.take n)).foldr attach (joined table (rule.next.getD mode) (t.drop n)).1,
        (joined table (rule.next.getD mode) (t.drop n)).2) := by
  rw [joined, cut_eq_of_first? ht h, join_append]
  rfl

/-- A closed string gives the same token without the rule for closed strings, if the rest of the
line does. -/
theorem joined_without_string_of_string? {t : Text} {n : Nat} (h : string? t = some n)
    (hrest : joined .standard .code (t.drop n) =
      joined (standard.without "string") .code (t.drop n)) :
    attach ⟨.string, t.take n, true⟩ (joined .standard .code (t.drop n)).1 =
        (joined (standard.without "string") .code t).1 ∧
      (joined .standard .code (t.drop n)).2 = (joined (standard.without "string") .code t).2 := by
  unfold string? at h
  split at h
  · next rest =>
    obtain ⟨m, hclose, rfl⟩ := Option.map_eq_some_iff.mp h
    have hopen : joined (standard.without "string") .code ('"' :: rest) =
        behindString (standard.without "string") .quoted ['"'] rest :=
      joined_of_first? (List.cons_ne_nil _ _) (first?_without_string_quote rest)
    rw [hopen, behindString_of_closingQuote? rfl hclose, hrest]
    exact ⟨rfl, rfl⟩
  · cases h

theorem joined_without_string (mode : Mode) (line : Text) :
    joined .standard mode line = joined (standard.without "string") mode line := by
  induction mode, line using cut_induction .standard with
  | nil mode => rfl
  | matched mode c cs rule n hfirst ih =>
    obtain ⟨hrule, hmatch, -⟩ := of_first?_eq_some hfirst
    by_cases hname : rule.name = "string"
    · obtain ⟨rfl, rfl⟩ := eq_of_name_string hrule hname
      obtain ⟨hpieces, hmode⟩ := joined_without_string_of_string? hmatch ih
      rw [joined_of_first? (List.cons_ne_nil c cs) hfirst]
      exact Prod.ext hpieces hmode
    · have hkept : first? (standard.without "string" mode) (c :: cs) = some (rule, n) := by
        rw [← hfirst]
        refine first?_filter fun found hfound => ?_
        rw [hfirst] at hfound
        cases Option.some.inj hfound
        simpa using hname
      rw [joined_of_first? (List.cons_ne_nil c cs) hfirst,
        joined_of_first? (List.cons_ne_nil c cs) hkept, ih]
  | unmatched mode c cs hfirst ih =>
    have hkept : first? (standard.without "string" mode) (c :: cs) = none := by
      rw [← hfirst]
      refine first?_filter fun found hfound => ?_
      rw [hfirst] at hfound
      cases hfound
    simp only [joined, Prod.mk.injEq] at ih ⊢
    rw [cut_of_first?_eq_none hfirst, cut_of_first?_eq_none hkept]
    refine ⟨?_, ih.2⟩
    change attach (unclaimed c) (join _) = attach (unclaimed c) (join _)
    rw [ih.1]

end Piece

/-- Deleting the rule for closed strings changes no line: every string gives the same token, at the
same place, when its quote begins an open string. -/
theorem lexLine_without_string (mode : Mode) (line : Text) :
    (RuleTable.standard.without "string").lexLine mode line = lexLine mode line := by
  have hjoined := Piece.joined_without_string mode line
  simp only [Piece.joined, Prod.mk.injEq] at hjoined
  rw [lexLine, RuleTable.lexLine, RuleTable.lexLine, hjoined.1, hjoined.2]

end EditorAssist
