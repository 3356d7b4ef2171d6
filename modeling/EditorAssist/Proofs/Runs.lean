import EditorAssist.Proofs.LexemeShapes

/-! Runs of text. A token takes up all that reads as one with it: neighbours are never parts of one
string or of one comment, nor plain text that is white space on both sides or on neither. -/
namespace EditorAssist
open Recognizer Rule RuleTable

/-- Neighbouring lexemes, each with its kind, that read as one run. -/
inductive OneRun : Token.Kind × Text → Token.Kind × Text → Prop
  | string (t u : Text) : OneRun (.string, t) (.string, u)
  | comment (t u : Text) : OneRun (.comment, t) (.comment, u)
  | blank {t u : Text} (ht : ∀ c ∈ t, isBlank c = true) (hu : ∀ c ∈ u, isBlank c = true) :
    OneRun (.plain, t) (.plain, u)
  | glyphs {t u : Text} (ht : ∀ c ∈ t, isBlank c = false) (hu : ∀ c ∈ u, isBlank c = false) :
    OneRun (.plain, t) (.plain, u)

namespace Rule

/-- In the table of the language only the rule for white space makes plain text. -/
theorem recognize_eq_of_plain {mode : Mode} {rule : Rule} (h : rule ∈ standard mode)
    (haction : rule.action = .emit .plain) : mode = .code ∧ rule.recognize = run? isBlank := by
  obtain ⟨rfl, rfl⟩ := eq_of_action rfl rfl rfl h haction
  exact ⟨rfl, rfl⟩

end Rule

namespace OneRun
variable {kind other : Token.Kind} {t u : Text}

theorem kind_eq (h : OneRun (kind, t) (other, u)) :
    kind = other ∧ (kind = .string ∨ kind = .comment ∨ kind = .plain) := by
  cases h <;> simp

theorem of_append {front : Text} (h : OneRun (kind, front ++ t) (other, u)) :
    OneRun (kind, t) (other, u) := by
  cases h with
  | string => exact .string t u
  | comment => exact .comment t u
  | blank ht hu => exact .blank (List.forall_mem_append.mp ht).2 hu
  | glyphs ht hu => exact .glyphs (List.forall_mem_append.mp ht).2 hu

/-- Plain texts of different sorts do not read as one. -/
theorem not_of_plain {blank : Bool} (ht : t ≠ []) (hu : u ≠ [])
    (hblank : ∀ c ∈ t, isBlank c = blank) (hglyphs : ∀ c ∈ u.head?, isBlank c = !blank) :
    ¬ OneRun (.plain, t) (.plain, u) := by
  obtain ⟨c, cs, rfl⟩ := List.exists_cons_of_ne_nil ht
  obtain ⟨d, ds, rfl⟩ := List.exists_cons_of_ne_nil hu
  have hc := hblank c List.mem_cons_self
  have hd := hglyphs d rfl
  intro h
  cases h with
  | blank hfront hback =>
    rw [hfront c List.mem_cons_self] at hc
    rw [hback d List.mem_cons_self, ← hc] at hd
    cases hd
  | glyphs hfront hback =>
    rw [hfront c List.mem_cons_self] at hc
    rw [hback d List.mem_cons_self, ← hc] at hd
    cases hd

end OneRun

namespace Piece

/-- Neighbouring pieces that do not read as one run. -/
def Apart (p q : Piece) : Prop :=
  ¬ OneRun (p.kind, p.text) (q.kind, q.text)

/-- Of parts of one string or one comment the first takes up the next. -/
theorem apart_of_claimed {p q : Piece} (hp : p.claimed = true) (hplain : p.kind ≠ .plain)
    (hq : q.Honest) (h : p.joins q = false) : p.Apart q := by
  intro hrun
  obtain ⟨hkind, hmerges⟩ := hrun.kind_eq
  have hclaimed : q.claimed = true := by
    by_contra hunclaimed
    exact hplain (hkind.trans (hq (by simpa using hunclaimed)))
  have hstring : ¬ (q.kind = .string ∨ q.kind = .comment) := by
    simpa [joins, hp, hclaimed, hkind] using h
  rw [hkind] at hmerges hplain
  exact (or_assoc.mpr hmerges).elim hstring hplain

/-- A piece goes in front, and if it takes up the first of the others it stays apart from the
second as that one was. -/
theorem isChain_apart_attach {p : Piece} {pieces : List Piece} (hp : p.Honest)
    (hpieces : ∀ q ∈ pieces, q.Honest) (h : pieces.IsChain Apart)
    (hfirst : ∀ q ∈ pieces.head?, p.joins q = false → p.Apart q) :
    (attach p pieces).IsChain Apart := by
  cases pieces with
  | nil => exact .singleton p
  | cons q rest =>
    by_cases hjoins : p.joins q = true
    · have hattach : attach p (q :: rest) = p.extend q.text :: rest := if_pos hjoins
      have hkind : p.kind = q.kind := kind_eq_of_joins hp (hpieces q List.mem_cons_self) hjoins
      rw [hattach]
      cases rest with
      | nil => exact .singleton _
      | cons r rest =>
        obtain ⟨hqr, hrest⟩ := List.isChain_cons_cons.mp h
        refine .cons_cons (fun hrun => hqr ?_) hrest
        rw [← hkind]
        exact OneRun.of_append hrun
    · have hattach : attach p (q :: rest) = p :: q :: rest := if_neg hjoins
      rw [hattach]
      exact .cons_cons (hfirst q rfl (by simpa using hjoins)) h

/-- Neighbours among the joined pieces of a line that begins in a mode are apart. Plain text at its
start is white space if a rule claims it, unless the line begins inside a comment, where that is so
of what no rule claims. -/
structure Separate (mode : Mode) (pieces : List Piece) : Prop where
  apart : pieces.IsChain Apart
  first : ∀ q ∈ pieces.head?, q.kind = .plain → ∀ c ∈ q.text,
    isBlank c = (q.claimed ^^ (mode == .comment))

namespace Separate
variable {mode next : Mode} {p : Piece} {pieces : List Piece}

/-- A piece that is not plain goes in front. -/
theorem attach_claimed (h : Separate next pieces) (hpieces : ∀ q ∈ pieces, q.Honest)
    (hp : p.claimed = true) (hplain : p.kind ≠ .plain) : Separate mode (attach p pieces) := by
  have hhonest : p.Honest := fun hunclaimed => by simp [hp] at hunclaimed
  constructor
  case apart =>
    refine isChain_apart_attach hhonest hpieces h.apart fun q hq => ?_
    exact apart_of_claimed hp hplain (hpieces q (List.mem_of_mem_head? hq))
  case first =>
    intro q hq hkind
    obtain hattach | ⟨r, rest, -, -, hattach⟩ := attach_cases p pieces <;>
    · rw [hattach] at hq
      cases hq
      exact absurd hkind hplain

/-- White space goes in front of what does not begin with white space. -/
theorem attach_blanks (h : Separate next pieces) (hpieces : ∀ q ∈ pieces, q.text ≠ [])
    {t : Text} (ht : t ≠ []) (hblank : ∀ c ∈ t, isBlank c = true)
    (hrest : BeginsOutside isBlank (spelling pieces)) :
    Separate .code (attach (claim (.plain, t)) pieces) := by
  have hattach : attach (claim (.plain, t)) pieces = claim (.plain, t) :: pieces :=
    attach_claim fun q hq hkind => ⟨nofun, nofun⟩
  rw [hattach]
  constructor
  case apart =>
    cases pieces with
    | nil => exact .singleton _
    | cons q rest =>
      refine .cons_cons (fun hrun => ?_) h.apart
      have hkind : Token.Kind.plain = q.kind := hrun.kind_eq.1
      have hq := hpieces q List.mem_cons_self
      have hglyphs : ∀ c ∈ q.text.head?, isBlank c = !true := by
        intro c hc
        refine hrest c ?_
        rw [spelling_cons, List.head?_append_of_ne_nil _ hq]
        exact hc
      rw [← hkind] at hrun
      exact OneRun.not_of_plain ht hq hblank hglyphs hrun
  case first =>
    rintro q ⟨⟩ -
    exact hblank

/-- A character that no rule claims goes in front, or takes up others of its mode. -/
theorem attach_unclaimed (h : Separate mode pieces) (hpieces : ∀ q ∈ pieces, q.Honest)
    (hnonempty : ∀ q ∈ pieces, q.text ≠ []) {c : Char} (hc : isBlank c = (mode == .comment)) :
    Separate mode (attach (unclaimed c) pieces) := by
  have hblank : ∀ d ∈ [c], isBlank d = (mode == .comment) := List.forall_mem_singleton.mpr hc
  constructor
  case apart =>
    refine isChain_apart_attach (fun _ => rfl) hpieces h.apart fun q hq hjoins hrun => ?_
    have hclaimed : q.claimed = true := by simpa [joins, unclaimed] using hjoins
    have hkind : Token.Kind.plain = q.kind := hrun.kind_eq.1
    have hglyphs : ∀ d ∈ q.text.head?, isBlank d = !(mode == .comment) := by
      intro d hd
      rw [h.first q hq hkind.symm d (List.mem_of_mem_head? hd), hclaimed, Bool.true_xor]
    change OneRun (.plain, [c]) (q.kind, q.text) at hrun
    rw [← hkind] at hrun
    have hq := hnonempty q (List.mem_of_mem_head? hq)
    exact OneRun.not_of_plain (List.cons_ne_nil c []) hq hblank hglyphs hrun
  case first =>
    intro q hq _
    obtain hattach | ⟨r, rest, rfl, hjoins, hattach⟩ := attach_cases (unclaimed c) pieces
    · rw [hattach] at hq
      cases hq
      simpa [unclaimed] using hc
    · rw [hattach] at hq
      cases hq
      have hr : r.claimed = false := by simpa [joins, unclaimed] using hjoins
      have hplain := hpieces r List.mem_cons_self hr
      have hothers := h.first r rfl hplain
      rw [hr, Bool.false_xor] at hothers
      simpa [unclaimed, extend] using And.intro hc hothers

/-- What a rule makes of its match goes in front. -/
theorem ofMatch (h : Separate next pieces) (hpieces : ∀ q ∈ pieces, q.Honest)
    (hnonempty : ∀ q ∈ pieces, q.text ≠ []) {t : Text} {rule : Rule} {n : Nat}
    (hfirst : first? (standard mode) t = some (rule, n)) (hrest : spelling pieces = t.drop n) :
    Separate mode ((Piece.ofMatch rule (t.take n)).foldr Piece.attach pieces) := by
  obtain ⟨hrule, hmatch, hn⟩ := of_first?_eq_some hfirst
  rw [Piece.ofMatch]
  cases haction : rule.action with
  | emit kind =>
    by_cases hplain : kind = .plain
    · subst hplain
      obtain ⟨rfl, hrecognize⟩ := recognize_eq_of_plain hrule haction
      rw [hrecognize, run?] at hmatch
      obtain rfl := Option.some.inj hmatch
      rw [drop_length_takeWhile] at hrest
      rw [take_length_takeWhile]
      refine h.attach_blanks hnonempty (List.length_pos_iff.mp hn) ?_ ?_
      · exact fun c hc => List.mem_takeWhile_imp hc
      · rw [hrest]
        exact beginsOutside_dropWhile isBlank t
    · exact h.attach_claimed (p := claim (kind, t.take n)) hpieces rfl hplain
  | byWord =>
    have hplain : wordKind (t.take n) ≠ .plain := by
      unfold wordKind
      split_ifs <;> decide
    exact h.attach_claimed (p := claim (wordKind (t.take n), t.take n)) hpieces rfl hplain
  | dotted =>
    have hname : (claim (.member, (t.take n).drop 1)).Honest := fun hclaimed => by cases hclaimed
    have hmember : Token.Kind.member ≠ .plain := by decide
    have hoperator : Token.Kind.operator ≠ .plain := by decide
    have hbehind : Separate mode (Piece.attach (claim (.member, (t.take n).drop 1)) pieces) :=
      h.attach_claimed hpieces rfl hmember
    exact hbehind.attach_claimed (p := claim (.operator, (t.take n).take 1))
      (honest_attach hname hpieces) rfl hoperator

end Separate

/-- Neighbours among the joined pieces of a line are apart, whatever mode it begins in. -/
theorem separate_join_cut (mode : Mode) (line : Text) :
    Separate mode (join (cut .standard mode line).1) := by
  induction mode, line using cut_induction .standard with
  | nil mode => exact ⟨.nil, nofun⟩
  | matched mode c cs rule n hfirst ih =>
    rw [cut_eq_of_first? (List.cons_ne_nil c cs) hfirst, join_append]
    exact ih.ofMatch (honest_join (honest_cut _ _ _)) (ne_nil_of_mem_join ne_nil_of_mem_cut) hfirst
      (spelling_lexLine _ _)
  | unmatched mode c cs hfirst ih =>
    rw [cut_of_first?_eq_none hfirst]
    exact ih.attach_unclaimed (honest_join (honest_cut _ _ _))
      (ne_nil_of_mem_join ne_nil_of_mem_cut) (isBlank_of_first?_eq_none hfirst)

theorem isChain_apart_layOut {pieces : List Piece} (h : pieces.IsChain Apart) (column : Nat) :
    (layOut column pieces).IsChain fun s t => ¬ OneRun (s.kind, s.lexeme) (t.kind, t.lexeme) :=
  isChain_layOut_of (fun _ _ _ hpq => hpq) h column

end Piece

/-- Tokens are maximal runs. In every mode no two neighbours on a line are both parts of a string,
both parts of a comment, both white space, or both plain text without white space. -/
theorem apart_lexLine (mode : Mode) (line : Text) :
    (lexLine mode line).tokens.IsChain fun s t => ¬ OneRun (s.kind, s.lexeme) (t.kind, t.lexeme) :=
  Piece.isChain_apart_layOut (Piece.separate_join_cut mode line).apart 0

end EditorAssist
