import EditorAssist.LexedLine.Basic
import EditorAssist.Lexing.Table

/-! Pieces: the stretches of a line that the rules cut off one after another, before those that
belong together are joined into tokens. -/
namespace EditorAssist

/-- A stretch of a line. It is claimed if a rule matched it. -/
structure Piece where
  kind : Token.Kind
  text : Text
  claimed : Bool
  deriving DecidableEq, Repr

namespace Piece

def ofMatch (rule : Rule) (matched : Text) : List Piece :=
  (rule.action.pieces matched).map fun (kind, text) => ⟨kind, text, true⟩

def unclaimed (c : Char) : Piece :=
  ⟨.plain, [c], false⟩

/-- Cut a line into pieces after passing over `skip` characters that belong to an earlier match.
At each place the first rule that matches applies; a character that none matches is a piece of its
own. -/
def cutAfter (table : RuleTable) (mode : Mode) (skip : Nat) : Text → List Piece × Mode
  | [] => ([], mode)
  | c :: cs =>
    match skip with
    | skip + 1 => cutAfter table mode skip cs
    | 0 =>
      match Rule.first? (table mode) (c :: cs) with
      | some (rule, n) =>
        let rest := cutAfter table (rule.next.getD mode) (n - 1) cs
        (ofMatch rule ((c :: cs).take n) ++ rest.1, rest.2)
      | none =>
        let rest := cutAfter table mode 0 cs
        (unclaimed c :: rest.1, rest.2)

/-- The pieces of a line that begins in the given mode, and the mode it ends in. -/
def cut (table : RuleTable) (mode : Mode) (line : Text) : List Piece × Mode :=
  cutAfter table mode 0 line

/-- Passing over characters is the same as dropping them. -/
theorem cutAfter_eq_cut_drop (table : RuleTable) (mode : Mode) (skip : Nat) (t : Text) :
    cutAfter table mode skip t = cut table mode (t.drop skip) := by
  induction t generalizing skip with
  | nil => simp [cut, cutAfter]
  | cons c cs ih =>
    cases skip with
    | zero => rfl
    | succ skip => simpa [cutAfter] using ih skip

@[simp] theorem cut_nil (table : RuleTable) (mode : Mode) : cut table mode [] = ([], mode) := rfl

/-- Where a rule matches, its pieces come first and cutting goes on behind the match. -/
theorem cut_of_first? {table : RuleTable} {mode : Mode} {c : Char} {cs : Text} {rule : Rule}
    {n : Nat} (h : Rule.first? (table mode) (c :: cs) = some (rule, n)) :
    cut table mode (c :: cs) =
      (ofMatch rule ((c :: cs).take n) ++ (cut table (rule.next.getD mode) (cs.drop (n - 1))).1,
        (cut table (rule.next.getD mode) (cs.drop (n - 1))).2) := by
  rw [← cutAfter_eq_cut_drop]
  simp [cut, cutAfter, h]

/-- Where no rule matches, one character is cut off. -/
theorem cut_of_first?_eq_none {table : RuleTable} {mode : Mode} {c : Char} {cs : Text}
    (h : Rule.first? (table mode) (c :: cs) = none) :
    cut table mode (c :: cs) =
      (unclaimed c :: (cut table mode cs).1, (cut table mode cs).2) := by
  simp [cut, cutAfter, h]

/-- Whether two neighbours read as one lexeme: parts of one string, parts of one comment, or
characters that no rule claims. -/
def joins (p q : Piece) : Bool :=
  if p.claimed then
    q.claimed && p.kind == q.kind && (p.kind == .string || p.kind == .comment)
  else !q.claimed

/-- Put a piece before others, joining it to the first if they read as one lexeme. -/
def attach (p : Piece) : List Piece → List Piece
  | [] => [p]
  | q :: rest => if p.joins q then { p with text := p.text ++ q.text } :: rest else p :: q :: rest

def join (pieces : List Piece) : List Piece :=
  pieces.foldr attach []

def layOut (column : Nat) : List Piece → List Token
  | [] => []
  | p :: rest => Token.place p.kind p.text column :: layOut (column + p.text.length) rest

end EditorAssist.Piece
