import EditorAssist.LexedLine.Render
import Mathlib.Data.List.Basic

/-! What rendered lines tell. A quoted text shows where it ends, so a listing can be taken apart
into rows and tokens again, whichever characters are hidden. -/
namespace EditorAssist

/-- What is written shows a view of the value and where it ends, whatever text follows. -/
def Shows {α β : Type} (view : α → β) (write : α → Text) : Prop :=
  ∀ a b r s, write a ++ r = write b ++ s → view a = view b ∧ r = s

section
variable {α β : Type}

/-- A mark that neither text holds shows where they end. -/
theorem append_cons_inj {c : Char} {t u r s : Text} (ht : c ∉ t) (hu : c ∉ u)
    (h : t ++ c :: r = u ++ c :: s) : t = u ∧ r = s := by
  induction t generalizing u with
  | nil =>
    cases u with
    | nil => exact ⟨rfl, (List.cons.inj h).2⟩
    | cons d u => exact absurd ((List.cons.inj h).1 ▸ List.mem_cons_self) hu
  | cons d t ih =>
    rw [List.mem_cons, not_or] at ht
    cases u with
    | nil => exact absurd (List.cons.inj h).1.symm ht.1
    | cons e u =>
      rw [List.mem_cons, not_or] at hu
      obtain ⟨rfl, hrest⟩ := List.cons.inj h
      obtain ⟨rfl, hbehind⟩ := ih ht.2 hu.2 hrest
      exact ⟨rfl, hbehind⟩

/-- A form is shown if it is closed by a mark that it does not hold. -/
theorem shows_of_mark {write : α → Text} {c : Char} (hmark : ∀ a, c ∉ write a)
    (hinj : ∀ a b, write a = write b → a = b) : Shows id fun a => write a ++ [c] := by
  intro a b r s h
  rw [List.append_assoc, List.append_assoc] at h
  obtain ⟨hwrite, hrest⟩ := append_cons_inj (hmark a) (hmark b) h
  exact ⟨hinj a b hwrite, hrest⟩

/-- Items written one after another are shown if what stands behind them begins like none. -/
theorem Shows.flatMap {view : α → β} {write : α → Text} (h : Shows view write) {xs ys : List α}
    {r s : Text} (hr : ∀ a t, r ≠ write a ++ t) (hs : ∀ a t, s ≠ write a ++ t)
    (heq : xs.flatMap write ++ r = ys.flatMap write ++ s) : xs.map view = ys.map view ∧ r = s := by
  induction xs generalizing ys with
  | nil =>
    cases ys with
    | nil => exact ⟨rfl, heq⟩
    | cons y ys =>
      rw [List.flatMap_nil, List.nil_append, List.flatMap_cons, List.append_assoc] at heq
      exact absurd heq (hr y _)
  | cons x xs ih =>
    rw [List.flatMap_cons, List.append_assoc] at heq
    cases ys with
    | nil => exact absurd heq.symm (hs x _)
    | cons y ys =>
      rw [List.flatMap_cons, List.append_assoc] at heq
      obtain ⟨hview, hrest⟩ := h x y _ _ heq
      obtain ⟨hviews, hbehind⟩ := ih hrest
      exact ⟨by rw [List.map_cons, List.map_cons, hview, hviews], hbehind⟩

end

section
variable {base : Nat}

/-- Below sixteen every digit has a character of its own. -/
theorem digitChar_inj {m n : Nat} (hm : m < 16) (hn : n < 16)
    (h : Nat.digitChar m = Nat.digitChar n) : m = n := by
  have hall : ∀ m < 16, ∀ n < 16, Nat.digitChar m = Nat.digitChar n → m = n := by decide
  exact hall m hm n hn h

theorem exists_of_mem_toDigits (hbase : 1 < base) {n : Nat} {c : Char}
    (h : c ∈ Nat.toDigits base n) : ∃ d < base, c = Nat.digitChar d := by
  induction n using Nat.strongRecOn with
  | ind n ih =>
    rw [Nat.toDigits_eq_if hbase] at h
    split_ifs at h with hn
    · exact ⟨n, hn, List.mem_singleton.mp h⟩
    · rcases List.mem_append.mp h with h | h
      · exact ih (n / base) (Nat.div_lt_self (by omega) hbase) h
      · exact ⟨n % base, Nat.mod_lt n (by omega), List.mem_singleton.mp h⟩

theorem toDigits_inj (hbase : 1 < base) (hsixteen : base ≤ 16) {m n : Nat}
    (h : Nat.toDigits base m = Nat.toDigits base n) : m = n := by
  induction m using Nat.strongRecOn generalizing n with
  | ind m ih =>
    rw [Nat.toDigits_eq_if hbase, Nat.toDigits_eq_if hbase (n := n)] at h
    split_ifs at h with hm hn hn
    · exact digitChar_inj (by omega) (by omega) (List.cons.inj h).1
    · change [] ++ [Nat.digitChar m] = _ at h
      exact absurd (List.append_inj' h rfl).1.symm Nat.toDigits_ne_nil
    · change _ = [] ++ [Nat.digitChar n] at h
      exact absurd (List.append_inj' h rfl).1 Nat.toDigits_ne_nil
    · obtain ⟨hfront, hlast⟩ := List.append_inj' h rfl
      have hdiv := ih (m / base) (Nat.div_lt_self (by omega) hbase) hfront
      have hmod : m % base = n % base := by
        refine digitChar_inj ?_ ?_ (List.cons.inj hlast).1
        · exact Nat.lt_of_lt_of_le (Nat.mod_lt m (by omega)) hsixteen
        · exact Nat.lt_of_lt_of_le (Nat.mod_lt n (by omega)) hsixteen
      rw [← Nat.div_add_mod m base, ← Nat.div_add_mod n base, hdiv, hmod]

end

namespace Text

/-- The characters with short escapes, each with the letter behind the backslash. -/
def shortEscapes : List (Char × Char) :=
  [('\x00', '0'), ('\t', 't'), ('\r', 'r'), ('\n', 'n'), ('"', '"'), ('\\', '\\')]

section
variable (hidden : Char → Bool)

/-- The three written forms of a character inside quotes. -/
theorem escapeBy_cases (c : Char) :
    (∃ e, (c, e) ∈ shortEscapes ∧ escapeBy hidden c = ['\\', e]) ∨
      escapeBy hidden c = '\\' :: 'u' :: '{' :: (Nat.toDigits 16 c.toNat ++ ['}']) ∨
      (c ≠ '"' ∧ c ≠ '\\' ∧ c ≠ '\n' ∧ escapeBy hidden c = [c]) := by
  unfold escapeBy
  split_ifs with h₀ h₁ h₂ h₃ h₄ h₅ h₆
  · exact .inl ⟨'0', by simp [shortEscapes, h₀], rfl⟩
  · exact .inl ⟨'t', by simp [shortEscapes, h₁], rfl⟩
  · exact .inl ⟨'r', by simp [shortEscapes, h₂], rfl⟩
  · exact .inl ⟨'n', by simp [shortEscapes, h₃], rfl⟩
  · exact .inl ⟨'"', by simp [shortEscapes, h₄], rfl⟩
  · exact .inl ⟨'\\', by simp [shortEscapes, h₅], rfl⟩
  · exact .inr (.inl rfl)
  · exact .inr (.inr ⟨h₄, h₅, h₃, rfl⟩)

theorem shows_codePoint : Shows id fun c : Char => Nat.toDigits 16 c.toNat ++ ['}'] := by
  refine shows_of_mark (fun c hmem => ?_) fun c d hdigits => ?_
  · obtain ⟨digit, hdigit, heq⟩ := exists_of_mem_toDigits (by decide) hmem
    have hall : ∀ digit < 16, '}' ≠ Nat.digitChar digit := by decide
    exact hall digit hdigit heq
  · exact Char.toNat_inj.mp (toDigits_inj (by decide) (by decide) hdigits)

/-- Every written form shows its character: after a backslash the next letter tells what is meant,
and a code point ends with its brace. -/
theorem shows_escapeBy : Shows id (escapeBy hidden) := by
  intro c d r s h
  have hletter : ∀ p ∈ shortEscapes, ∀ q ∈ shortEscapes, p.2 = q.2 → p.1 = q.1 := by decide
  have hcode : ∀ p ∈ shortEscapes, p.2 ≠ 'u' := by decide
  obtain ⟨e, he, hc⟩ | hc | ⟨-, hslash, -, hc⟩ := escapeBy_cases hidden c
  · obtain ⟨f, hf, hd⟩ | hd | ⟨-, hother, -, hd⟩ := escapeBy_cases hidden d <;>
      rw [hc, hd] at h <;> injection h with hfirst hrest
    · injection hrest with hsecond hrest
      exact ⟨hletter _ he _ hf hsecond, hrest⟩
    · injection hrest with hsecond hrest
      exact absurd hsecond (hcode _ he)
    · exact absurd hfirst.symm hother
  · obtain ⟨f, hf, hd⟩ | hd | ⟨-, hother, -, hd⟩ := escapeBy_cases hidden d <;>
      rw [hc, hd] at h <;> injection h with hfirst hrest
    · injection hrest with hsecond hrest
      exact absurd hsecond.symm (hcode _ hf)
    · exact shows_codePoint c d r s (List.cons.inj (List.cons.inj hrest).2).2
    · exact absurd hfirst.symm hother
  · obtain ⟨f, hf, hd⟩ | hd | ⟨-, hother, -, hd⟩ := escapeBy_cases hidden d <;>
      rw [hc, hd] at h <;> injection h with hfirst hrest
    · exact absurd hfirst hslash
    · exact absurd hfirst hslash
    · exact ⟨hfirst, hrest⟩

/-- A quote inside a quoted text is escaped. -/
theorem quote_ne_escapeBy (c : Char) (r s : Text) : '"' :: r ≠ escapeBy hidden c ++ s := by
  intro h
  obtain ⟨e, he, hc⟩ | hc | ⟨hquote, -, -, hc⟩ := escapeBy_cases hidden c <;> rw [hc] at h
  · cases h
  · cases h
  · exact hquote (List.cons.inj h).1.symm

/-- A quoted text shows what it quotes. -/
theorem shows_quoteBy : Shows id (quoteBy hidden) := by
  intro t u r s h
  rw [quoteBy, quoteBy, List.cons_append, List.cons_append, List.append_assoc,
    List.append_assoc] at h
  obtain ⟨htext, hrest⟩ := (shows_escapeBy hidden).flatMap (fun c => quote_ne_escapeBy hidden c r)
    (fun c => quote_ne_escapeBy hidden c s) (List.cons.inj h).2
  rw [List.map_id, List.map_id] at htext
  exact ⟨htext, (List.cons.inj hrest).2⟩

end

end Text

theorem shows_decimal {c : Char} (hc : c.isDigit = false) :
    Shows id fun n => decimal n ++ [c] := by
  refine shows_of_mark (fun n hmem => ?_) fun m n => toDigits_inj (by decide) (by decide)
  rw [Nat.isDigit_of_mem_toDigits (by decide) (by decide) hmem] at hc
  cases hc

theorem Token.Kind.shows_scope : Shows id fun kind : Token.Kind => kind.scope.toList ++ [' '] := by
  refine shows_of_mark (fun kind => ?_) fun kind other => ?_
  · cases kind <;> decide
  · cases kind <;> cases other <;> decide

theorem Mode.name_inj {mode other : Mode} (h : mode.name.toList = other.name.toList) :
    mode = other := by
  cases mode <;> cases other <;> first | rfl | exact absurd h (by decide)

theorem Mode.shows_name : Shows id fun mode : Mode => mode.name.toList ++ ['\n'] := by
  refine shows_of_mark (fun mode => ?_) fun _ _ => name_inj
  cases mode <;> decide

namespace Token
variable (hidden : Char → Bool)

/-- A rendered token shows its kind and its lexeme. -/
theorem shows_renderBy :
    Shows (fun t : Token => (t.kind, t.lexeme)) fun t => t.renderBy hidden ++ ['\n'] := by
  intro t u r s h
  simp only [renderBy, List.append_assoc, List.cons_append] at h
  obtain ⟨hkind, hrest⟩ := Kind.shows_scope t.kind u.kind _ _ (by simpa using h)
  obtain ⟨hlexeme, hbehind⟩ := Text.shows_quoteBy hidden _ _ _ _ hrest
  exact ⟨Prod.ext hkind hlexeme, (List.cons.inj hbehind).2⟩

/-- A token rendered with its columns shows all of it. -/
theorem shows_renderPlacedBy : Shows id fun t : Token => t.renderPlacedBy hidden ++ ['\n'] := by
  intro t u r s h
  simp only [renderPlacedBy, List.append_assoc, List.cons_append] at h
  obtain ⟨hstart, hpoint⟩ := shows_decimal (c := '.') rfl t.start u.start _ _ (by simpa using h)
  have hstopped := (List.cons.inj hpoint).2
  obtain ⟨hstop, hrest⟩ := shows_decimal (c := ' ') rfl t.stop u.stop _ _ (by simpa using hstopped)
  obtain ⟨hpair, hbehind⟩ := shows_renderBy hidden t u r s (by simpa using hrest)
  obtain ⟨kind, lexeme, start, stop⟩ := t
  cases hpair
  cases hstart
  cases hstop
  exact ⟨rfl, hbehind⟩

end Token

namespace LexedLine
variable {hidden : Char → Bool}

/-- The arrow before a mode begins no token. -/
theorem arrow_ne_renderBy (rest : Text) (t : Token) (s : Text) :
    "-> ".toList ++ rest ≠ t.renderBy hidden ++ ['\n'] ++ s := by
  have hscope : ∀ kind : Token.Kind, kind.scope.toList.head?.any (· != '-') = true := by
    intro kind
    cases kind <;> decide
  intro h
  obtain ⟨c, cs, hcons⟩ : ∃ c cs, t.kind.scope.toList = c :: cs := by
    cases t.kind <;> exact ⟨_, _, rfl⟩
  have hc := hscope t.kind
  simp only [Token.renderBy, hcons, List.append_assoc, List.cons_append] at h hc
  have hdash : c = '-' := (List.cons.inj h).1.symm
  simp [hdash] at hc

/-- The readable form of a line without columns tells its mode, and the kinds and lexemes of its
tokens, and nothing else. -/
theorem renderBy_eq_iff {a b : LexedLine} : a.renderBy hidden = b.renderBy hidden ↔
    a.endMode = b.endMode ∧
      a.tokens.map (fun t => (t.kind, t.lexeme)) = b.tokens.map fun t => (t.kind, t.lexeme) := by
  constructor
  · intro h
    rw [renderBy, renderBy, List.append_assoc, List.append_assoc] at h
    obtain ⟨htokens, hmode⟩ := (Token.shows_renderBy hidden).flatMap
      (arrow_ne_renderBy a.endMode.name.toList) (arrow_ne_renderBy b.endMode.name.toList) h
    exact ⟨Mode.name_inj (List.append_cancel_left hmode), htokens⟩
  · rintro ⟨hmode, htokens⟩
    have hpairs : ∀ tokens : List Token,
        tokens.flatMap (fun t => t.renderBy hidden ++ ['\n']) =
          (tokens.map fun t => (t.kind, t.lexeme)).flatMap
            fun p => Token.renderBy hidden ⟨p.1, p.2, 0, 0⟩ ++ ['\n'] := by
      intro tokens
      rw [List.flatMap_map]
      rfl
    rw [renderBy, renderBy, hpairs, hpairs, hmode, htokens]

/-- A row of a listing begins with its number, and no token with a digit. -/
theorem renderFromBy_ne_token (row : Nat) (lines : List LexedLine) (t : Token) (s : Text) :
    renderFromBy hidden row lines ≠
      "    ".toList ++ t.renderPlacedBy hidden ++ ['\n'] ++ s := by
  intro h
  cases lines with
  | nil => cases h
  | cons line rest =>
    obtain ⟨c, cs, hcons⟩ := List.exists_cons_of_ne_nil (Nat.toDigits_ne_nil (n := row) (b := 10))
    have hdigit : c.isDigit = true :=
      Nat.isDigit_of_mem_toDigits (by decide) (by decide) (hcons ▸ List.mem_cons_self)
    simp only [renderFromBy, renderRowBy, decimal, hcons, List.append_assoc, List.cons_append] at h
    rw [(List.cons.inj h).1] at hdigit
    cases hdigit

theorem shows_indented :
    Shows id fun t : Token => "    ".toList ++ t.renderPlacedBy hidden ++ ['\n'] := by
  intro t u r s h
  simp only [List.append_assoc] at h
  have htoken := List.append_cancel_left h
  exact Token.shows_renderPlacedBy hidden t u r s (by simpa using htoken)

/-- A listing tells its lines with all their tokens and columns. -/
theorem renderFromBy_inj {row : Nat} {xs ys : List LexedLine}
    (h : renderFromBy hidden row xs = renderFromBy hidden row ys) : xs = ys := by
  induction xs generalizing row ys with
  | nil =>
    cases ys with
    | nil => rfl
    | cons y ys => simp [renderFromBy, renderRowBy] at h
  | cons x xs ih =>
    cases ys with
    | nil => simp [renderFromBy, renderRowBy] at h
    | cons y ys =>
      simp only [renderFromBy, renderRowBy, List.append_assoc, List.cons_append] at h
      have hrow := List.append_cancel_left (List.append_cancel_left h)
      obtain ⟨hmode, htokens⟩ := Mode.shows_name x.endMode y.endMode _ _ (by simpa using hrow)
      obtain ⟨hview, hrest⟩ := shows_indented.flatMap (renderFromBy_ne_token (row + 1) xs)
        (renderFromBy_ne_token (row + 1) ys) htokens
      rw [List.map_id, List.map_id] at hview
      obtain ⟨tokens, mode⟩ := x
      cases hview
      cases hmode
      rw [ih hrest]

end LexedLine

/-- Rendered lines are unambiguous, whichever characters of lexemes are hidden: two lines have the
same readable form exactly if they end in the same mode with the same kinds and lexemes, and two
listings are the same exactly if all their lines are, columns included. -/
theorem renderBy_unambiguous (hidden : Char → Bool) :
    (∀ a b : LexedLine, a.renderBy hidden = b.renderBy hidden ↔ a.endMode = b.endMode ∧
      a.tokens.map (fun t => (t.kind, t.lexeme)) = b.tokens.map fun t => (t.kind, t.lexeme)) ∧
    ∀ xs ys : List LexedLine,
      LexedLine.renderAllBy hidden xs = LexedLine.renderAllBy hidden ys ↔ xs = ys :=
  ⟨fun _ _ => LexedLine.renderBy_eq_iff, fun _ _ => ⟨LexedLine.renderFromBy_inj, congrArg _⟩⟩

end EditorAssist
