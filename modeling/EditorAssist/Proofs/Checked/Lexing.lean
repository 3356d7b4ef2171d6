import EditorAssist.Proofs.Checked.Basic
import EditorAssist.Proofs.Matches

/-! Lexing on a machine with 64-bit words. A line is cut at byte offsets, and its tokens are put
together from left to right with a running column. Lines whose columns fit 64 bits are lexed without
a fault, and their tokens are those of the lexed line. -/
namespace EditorAssist

namespace Text

def firstWidth (t : Text) : Nat :=
  t.head?.elim 1 Char.utf8Size

theorem firstWidth_pos (t : Text) : 0 < t.firstWidth := by
  cases t with
  | nil => exact Nat.one_pos
  | cons c cs => exact c.utf8Size_pos

theorem divideAt_firstWidth (c : Char) (cs : Text) :
    divideAt (c :: cs) (firstWidth (c :: cs)) = .ok ([c], cs) :=
  divideAt_byteLength [c] cs

/-- The byte offset behind a stretch of a text. Byte lengths of texts fit 64 bits, and so does an
offset that does not leave its text. -/
def advanceChecked (t : Text) (offset width : Nat) : Except Fault Nat :=
  if offset + width ≤ t.byteLength then .ok (offset + width) else .error .overflow

theorem advanceChecked_eq (before matched rest : Text) :
    (before ++ (matched ++ rest)).advanceChecked before.byteLength matched.byteLength =
      .ok (byteLength (before ++ matched)) := by
  have hsum : byteLength before + byteLength matched = byteLength (before ++ matched) :=
    (byteLength_append before matched).symm
  have hle : byteLength (before ++ matched) ≤ byteLength (before ++ (matched ++ rest)) := by
    rw [← List.append_assoc, byteLength_append _ rest]
    exact Nat.le_add_right _ _
  rw [advanceChecked, hsum, if_pos hle]

end Text

namespace NumberLiteral

/-- Look behind a float for another point, as the number rule does. -/
def lookBehindFloatChecked (rest : Text) : Except Fault Unit :=
  match float? rest with
  | some n => do
    let _ ← rest.divideAt (rest.byteEnd n)
    return ()
  | none => return ()

theorem lookBehindFloatChecked_eq (rest : Text) : lookBehindFloatChecked rest = .ok () := by
  unfold lookBehindFloatChecked
  split
  · next n hfloat =>
    rw [Text.divideAt_byteEnd (madeOf_float? hfloat).fits]
    rfl
  · rfl

end NumberLiteral

namespace Rule

/-- The number of bytes of a rule's match. A match of nothing does not count. -/
def width? (rule : Rule) (rest : Text) : Option Nat :=
  ((rule.recognize rest).map rest.byteEnd).filter (0 < ·)

/-- The first rule of a list that matches, with the number of bytes of its match. -/
def firstWidth? (rules : List Rule) (rest : Text) : Option (Rule × Nat) :=
  rules.findSome? fun rule => (rule.width? rest).map (rule, ·)

theorem width?_eq (rule : Rule) (rest : Text) :
    rule.width? rest = (rule.reach? rest).map rest.byteEnd := by
  rw [width?, reach?]
  cases rule.recognize rest with
  | none => rfl
  | some n =>
    cases n with
    | zero => cases rest <;> rfl
    | succ n =>
      have hwidth : 0 < rest.byteEnd (n + 1) := Text.byteEnd_pos (Nat.succ_pos n)
      simp [Option.filter, hwidth]

theorem firstWidth?_eq (rules : List Rule) (rest : Text) :
    firstWidth? rules rest =
      (first? rules rest).map fun found => (found.1, rest.byteEnd found.2) := by
  rw [firstWidth?, first?, List.map_findSome?]
  congr 1
  funext rule
  rw [width?_eq, Function.comp_apply, Option.map_map, Option.map_map]
  rfl

theorem firstWidth?_pos {rules : List Rule} {rest : Text} {rule : Rule} {width : Nat}
    (h : firstWidth? rules rest = some (rule, width)) : 0 < width := by
  rw [firstWidth?_eq, Option.map_eq_some_iff] at h
  obtain ⟨⟨found, n⟩, hfirst, heq⟩ := h
  cases heq
  exact Text.byteEnd_pos (of_first?_eq_some hfirst).2.2

/-- The pieces of a matched text. The dot of a dotted name is cut off as its first byte. -/
def piecesChecked (rule : Rule) (matched : Text) : Except Fault (List Piece) :=
  match rule.action with
  | .dotted => do
    let (dot, name) ← matched.divideAt 1
    return [⟨.operator, dot, true⟩, ⟨.member, name, true⟩]
  | _ => return Piece.ofMatch rule matched

theorem piecesChecked_eq {mode : Mode} {rule : Rule} (h : rule ∈ RuleTable.standard mode)
    {t : Text} {n : Nat} (hmatch : rule.recognize t = some n) :
    rule.piecesChecked (t.take n) = .ok (Piece.ofMatch rule (t.take n)) := by
  unfold piecesChecked
  split
  · next haction =>
    rw [recognize_eq_of_dotted h haction] at hmatch
    obtain ⟨htwo, -⟩ := Recognizer.of_dottedName?_eq_some hmatch
    obtain ⟨rest, rfl⟩ : ∃ rest, t = '.' :: rest := by
      unfold Recognizer.dottedName? at hmatch
      split at hmatch
      · exact ⟨_, rfl⟩
      · cases hmatch
    obtain ⟨m, rfl⟩ : ∃ m, n = m + 1 := ⟨n - 1, by omega⟩
    have hdivide : Text.divideAt ('.' :: rest.take m) 1 = .ok (['.'], rest.take m) :=
      Text.divideAt_byteLength ['.'] (rest.take m)
    rw [List.take_succ_cons, hdivide, Piece.ofMatch, haction]
    rfl
  · rfl

end Rule

/-- The tokens of a line so far, the last one first, with the column behind them. The last piece may
have been one that no rule claims. -/
structure Sink where
  tokens : List Token
  column : Nat
  unclaimed : Bool

namespace Sink

def merges (s : Sink) (last : Token) (p : Piece) : Bool :=
  if p.claimed then (p.kind == .string || p.kind == .comment) && last.kind == p.kind
  else s.unclaimed

def addChecked (s : Sink) (p : Piece) : Except Fault Sink := do
  let width ← p.text.lengthChecked
  let column ← boundedAdd s.column width
  match s.tokens with
  | last :: earlier =>
    if s.merges last p then
      let stop ← boundedAdd last.stop width
      return ⟨{ last with lexeme := last.lexeme ++ p.text, stop } :: earlier, column, !p.claimed⟩
    else
      let token ← Token.placeChecked p.kind p.text s.column
      return ⟨token :: last :: earlier, column, !p.claimed⟩
  | [] =>
    let token ← Token.placeChecked p.kind p.text s.column
    return ⟨[token], column, !p.claimed⟩

end Sink

/-- Lex a line from a byte offset on. -/
def RuleTable.scanChecked (table : RuleTable) (line : Text) (mode : Mode) (offset : Nat)
    (sink : Sink) : Except Fault (Sink × Mode) :=
  if _h : offset < line.byteLength then do
    let (_, rest) ← line.divideAt offset
    let _ ← NumberLiteral.lookBehindFloatChecked rest
    match _hfirst : Rule.firstWidth? (table mode) rest with
    | some (rule, width) =>
      let (matched, _) ← rest.divideAt width
      let pieces ← rule.piecesChecked matched
      let sink ← pieces.foldlM Sink.addChecked sink
      let _ ← line.advanceChecked offset width
      scanChecked table line (rule.next.getD mode) (offset + width) sink
    | none =>
      let (own, _) ← rest.divideAt rest.firstWidth
      let sink ← sink.addChecked ⟨.plain, own, false⟩
      let _ ← line.advanceChecked offset rest.firstWidth
      scanChecked table line mode (offset + rest.firstWidth) sink
  else return (sink, mode)
termination_by line.byteLength - offset
decreasing_by
  · have hwidth := Rule.firstWidth?_pos _hfirst
    omega
  · have hwidth := Text.firstWidth_pos rest
    omega

def lexLineChecked (mode : Mode) (line : Text) : Except Fault LexedLine := do
  let (sink, mode) ← RuleTable.standard.scanChecked line mode 0 ⟨[], 0, false⟩
  return ⟨sink.tokens.reverse, mode⟩

def lexLinesChecked (mode : Mode) : List Text → Except Fault (List LexedLine)
  | [] => return []
  | line :: rest => do
    let lexed ← lexLineChecked mode line
    let others ← lexLinesChecked lexed.endMode rest
    return lexed :: others

namespace Piece

theorem layOut_append (column : Nat) (pieces rest : List Piece) :
    layOut column (pieces ++ rest) =
      layOut column pieces ++ layOut (column + (spelling pieces).length) rest := by
  induction pieces generalizing column with
  | nil => rfl
  | cons p others ih =>
    rw [List.cons_append, layOut, layOut, ih, spelling_cons, List.length_append, Nat.add_assoc]
    rfl

end Piece

namespace Sink

/-- What is held after pieces that are done and one that may still grow. -/
def holding (done : List Piece) (q : Piece) : Sink :=
  ⟨Token.place q.kind q.text (Piece.spelling done).length :: (Piece.layOut 0 done).reverse,
    (Piece.spelling done).length + q.text.length, !q.claimed⟩

theorem tokens_holding (done : List Piece) (q : Piece) :
    (holding done q).tokens.reverse = Piece.layOut 0 (done ++ [q]) := by
  rw [Piece.layOut_append, Nat.zero_add, holding, List.reverse_cons, List.reverse_reverse]
  rfl

/-- Pieces go into one token when they read as one lexeme. -/
theorem merges_holding (done : List Piece) {q : Piece} (hq : q.Honest) (p : Piece) :
    (holding done q).merges (.place q.kind q.text (Piece.spelling done).length) p =
      q.joins p := by
  obtain ⟨kind, text, claimed⟩ := q
  obtain ⟨other, more, alsoClaimed⟩ := p
  cases claimed with
  | true =>
    cases alsoClaimed with
    | true => cases kind <;> cases other <;> rfl
    | false => rfl
  | false =>
    obtain rfl : kind = .plain := hq rfl
    cases alsoClaimed with
    | true => cases other <;> rfl
    | false => rfl

theorem addChecked_empty {p : Piece} (hp : p.text.length < wordLimit) :
    addChecked ⟨[], 0, false⟩ p = .ok (holding [] p) := by
  have hcolumn : 0 + p.text.length < wordLimit := by rwa [Nat.zero_add]
  simp only [addChecked, Text.lengthChecked_eq hp, boundedAdd_eq hcolumn, Token.placeChecked, ok_bind]
  rfl

theorem addChecked_holding (done : List Piece) {q p : Piece} (hq : q.Honest)
    (hfits : (Piece.spelling done).length + q.text.length + p.text.length < wordLimit) :
    (holding done q).addChecked p =
      .ok (if q.joins p then holding done (q.extend p.text) else holding (done ++ [q]) p) := by
  have hwidth : p.text.length < wordLimit := by omega
  have hmerges := merges_holding done hq p
  have hspelling : (Piece.spelling (done ++ [q])).length =
      (Piece.spelling done).length + q.text.length := by
    rw [Piece.spelling_append, List.length_append, Piece.spelling_cons, Piece.spelling_nil,
      List.append_nil]
  have hlast : Token.stop (.place q.kind q.text (Piece.spelling done).length) =
      (Piece.spelling done).length + q.text.length := rfl
  have hcolumn : (holding done q).column = (Piece.spelling done).length + q.text.length := rfl
  have htokens : (holding done q).tokens =
      .place q.kind q.text (Piece.spelling done).length :: (Piece.layOut 0 done).reverse := rfl
  simp only [addChecked, Text.lengthChecked_eq hwidth, hcolumn, boundedAdd_eq hfits, htokens, hmerges,
    hlast, Token.placeChecked, ok_bind]
  by_cases hjoins : q.joins p = true
  · have hclaimed : q.claimed = p.claimed := by
      unfold Piece.joins at hjoins
      split_ifs at hjoins with hq
      · simp only [Bool.and_eq_true] at hjoins
        rw [hq, hjoins.1.1]
      · simp_all
    rw [if_pos hjoins, if_pos hjoins]
    simp only [holding, Piece.extend, Token.place, List.length_append, Nat.add_assoc, hclaimed]
    rfl
  · rw [if_neg hjoins, if_neg hjoins]
    have hdone : (Piece.layOut 0 (done ++ [q])).reverse =
        .place q.kind q.text (Piece.spelling done).length :: (Piece.layOut 0 done).reverse := by
      rw [← tokens_holding, List.reverse_reverse]
      rfl
    rw [holding, hdone, hspelling]
    rfl

theorem foldlM_addChecked_holding (done : List Piece) {q : Piece} (hq : q.Honest) {pieces : List Piece}
    (hpieces : ∀ p ∈ pieces, p.Honest)
    (hfits : (Piece.spelling (done ++ q :: pieces)).length < wordLimit) :
    ∃ s, pieces.foldlM addChecked (holding done q) = .ok s ∧
      s.tokens.reverse = Piece.layOut 0 (done ++ Piece.join (q :: pieces)) := by
  induction pieces generalizing done q with
  | nil => exact ⟨_, rfl, tokens_holding done q⟩
  | cons p rest ih =>
    rw [List.forall_mem_cons] at hpieces
    have hlengths := hfits
    simp only [Piece.spelling_append, Piece.spelling_cons, List.length_append] at hlengths
    have hgrows : (Piece.spelling done).length + q.text.length + p.text.length < wordLimit := by
      omega
    rw [List.foldlM_cons, addChecked_holding done hq hgrows, ok_bind, Piece.join_cons_cons]
    split_ifs with hjoins
    · have hgrown : (Piece.spelling (done ++ q.extend p.text :: rest)).length < wordLimit := by
        simp only [Piece.spelling_append, Piece.spelling_cons, Piece.extend, List.length_append]
        omega
      exact ih done hq hpieces.2 hgrown
    · have hmore := ih (done ++ [q]) hpieces.1 hpieces.2 (by simpa using hfits)
      simpa using hmore

/-- Adding pieces from left to right gives the tokens of the joined pieces. -/
theorem exists_foldlM_addChecked {pieces : List Piece} (hpieces : ∀ p ∈ pieces, p.Honest)
    (hfits : (Piece.spelling pieces).length < wordLimit) :
    ∃ s, pieces.foldlM addChecked ⟨[], 0, false⟩ = .ok s ∧
      s.tokens.reverse = Piece.layOut 0 (Piece.join pieces) := by
  cases pieces with
  | nil => exact ⟨_, rfl, rfl⟩
  | cons p rest =>
    rw [List.forall_mem_cons] at hpieces
    have hp : p.text.length < wordLimit := by
      rw [Piece.spelling_cons, List.length_append] at hfits
      omega
    rw [List.foldlM_cons, addChecked_empty hp, ok_bind]
    exact foldlM_addChecked_holding [] hpieces.1 hpieces.2 hfits

end Sink

section
variable {mode : Mode} {t before : Text} {sink : Sink}

/-- Where a rule matches, its pieces are added and scanning goes on behind the match. -/
theorem scanChecked_of_first? (ht : t ≠ []) {rule : Rule} {n : Nat}
    (hfirst : Rule.first? (RuleTable.standard mode) t = some (rule, n)) :
    RuleTable.standard.scanChecked (before ++ t) mode before.byteLength sink =
      (Piece.ofMatch rule (t.take n)).foldlM Sink.addChecked sink >>=
        RuleTable.standard.scanChecked (before ++ t) (rule.next.getD mode)
          (Text.byteLength (before ++ t.take n)) := by
  obtain ⟨hrule, hmatch, -⟩ := Rule.of_first?_eq_some hfirst
  have hn := Rule.length_le_of_recognize hrule hmatch
  have hmore : before.byteLength < Text.byteLength (before ++ t) := by
    rw [Text.byteLength_append]
    exact Nat.lt_add_of_pos_right (Text.byteLength_pos ht)
  have hwidth : Rule.firstWidth? (RuleTable.standard mode) t = some (rule, t.byteEnd n) := by
    rw [Rule.firstWidth?_eq, hfirst]
    rfl
  have hadvance := Text.advanceChecked_eq before (t.take n) (t.drop n)
  rw [List.take_append_drop, ← Text.byteEnd_eq hn] at hadvance
  rw [RuleTable.scanChecked, dif_pos hmore, Text.divideAt_byteLength, ok_bind]
  simp only [NumberLiteral.lookBehindFloatChecked_eq, ok_bind]
  split
  · next found width hfound =>
    rw [hwidth] at hfound
    cases hfound
    simp only [Text.divideAt_byteEnd hn, Rule.piecesChecked_eq hrule hmatch, hadvance, ok_bind]
    rw [Text.byteLength_append, ← Text.byteEnd_eq hn]
  · next hnone =>
    rw [hwidth] at hnone
    cases hnone

/-- Where no rule matches, one character is added. -/
theorem scanChecked_of_first?_eq_none {c : Char} {cs : Text}
    (hfirst : Rule.first? (RuleTable.standard mode) (c :: cs) = none) :
    RuleTable.standard.scanChecked (before ++ c :: cs) mode before.byteLength sink =
      sink.addChecked (.unclaimed c) >>=
        RuleTable.standard.scanChecked (before ++ c :: cs) mode
          (Text.byteLength (before ++ [c])) := by
  have hmore : before.byteLength < Text.byteLength (before ++ c :: cs) := by
    rw [Text.byteLength_append]
    exact Nat.lt_add_of_pos_right (Text.byteLength_pos (List.cons_ne_nil c cs))
  have hwidth : Rule.firstWidth? (RuleTable.standard mode) (c :: cs) = none := by
    rw [Rule.firstWidth?_eq, hfirst]
    rfl
  have hadvance : Text.advanceChecked (before ++ c :: cs) before.byteLength (Text.byteLength [c]) =
      .ok (Text.byteLength (before ++ [c])) := Text.advanceChecked_eq before [c] cs
  rw [RuleTable.scanChecked, dif_pos hmore, Text.divideAt_byteLength, ok_bind]
  simp only [NumberLiteral.lookBehindFloatChecked_eq, ok_bind]
  split
  · next found width hfound =>
    rw [hwidth] at hfound
    cases hfound
  · have hown : Text.firstWidth (c :: cs) = Text.byteLength [c] := rfl
    simp only [Text.divideAt_firstWidth, ok_bind]
    simp only [hown, hadvance, ok_bind]
    rw [Text.byteLength_append]
    rfl

end

/-- Scanning a line adds the pieces that it is cut into. -/
theorem scanChecked_eq (mode : Mode) (rest before : Text) (sink : Sink) :
    RuleTable.standard.scanChecked (before ++ rest) mode before.byteLength sink = do
      let s ← (Piece.cut .standard mode rest).1.foldlM Sink.addChecked sink
      return (s, (Piece.cut .standard mode rest).2) := by
  induction mode, rest using Piece.cut_induction .standard generalizing before sink with
  | nil mode =>
    rw [RuleTable.scanChecked, dif_neg (by rw [List.append_nil]; exact Nat.lt_irrefl _)]
    rfl
  | matched mode c cs rule n hfirst ih =>
    have hnext := ih (before ++ (c :: cs).take n)
    rw [List.append_assoc, List.take_append_drop] at hnext
    rw [scanChecked_of_first? (List.cons_ne_nil c cs) hfirst,
      Piece.cut_eq_of_first? (List.cons_ne_nil c cs) hfirst, List.foldlM_append, bind_assoc]
    exact congrArg (_ >>= ·) (funext hnext)
  | unmatched mode c cs hfirst ih =>
    have hnext := ih (before ++ [c])
    rw [List.append_assoc, List.singleton_append] at hnext
    rw [scanChecked_of_first?_eq_none hfirst, Piece.cut_of_first?_eq_none hfirst,
      List.foldlM_cons, bind_assoc]
    exact congrArg (_ >>= ·) (funext hnext)

/-- A line whose columns fit 64 bits is lexed without a fault. -/
theorem lexLineChecked_eq (mode : Mode) {line : Text} (h : line.length < wordLimit) :
    lexLineChecked mode line = .ok (lexLine mode line) := by
  have hfits : (Piece.spelling (Piece.cut .standard mode line).1).length < wordLimit := by
    rwa [Piece.spelling_cut]
  obtain ⟨s, hadd, htokens⟩ :=
    Sink.exists_foldlM_addChecked (Piece.honest_cut .standard mode line) hfits
  have hscan := scanChecked_eq mode line [] ⟨[], 0, false⟩
  rw [List.nil_append, Text.byteLength_nil, hadd, ok_bind] at hscan
  rw [lexLineChecked, hscan]
  simp only [pure, Except.pure, ok_bind]
  rw [htokens]
  rfl

theorem width_of_mem_tokens {mode : Mode} {line : Text} {t : Token}
    (ht : t ∈ (lexLine mode line).tokens) : t.width = .ok t.lexeme.length := by
  obtain ⟨a, b, -, -, hstop⟩ := Piece.exists_of_mem_layOut ht
  rw [Token.width, hstop, exactSub_eq (Nat.le_add_right _ _), Nat.add_sub_cancel_left]

theorem lexLinesChecked_eq (mode : Mode) {rows : List Text}
    (h : ∀ line ∈ rows, line.length < wordLimit) :
    lexLinesChecked mode rows = .ok (lexLines mode rows) := by
  induction rows generalizing mode with
  | nil => rfl
  | cons line rest ih =>
    rw [List.forall_mem_cons] at h
    rw [lexLinesChecked, lexLineChecked_eq mode h.1, ok_bind, ih _ h.2]
    rfl

end EditorAssist
