import EditorAssist.LexedLine.Render

/-! Expectations on a lexed line, with a report that shows the line when one fails. -/
namespace EditorAssist

inductive Expectation where
  /-- It ends in a mode. -/
  | endMode (mode : Mode)
  /-- It has a number of tokens. -/
  | count (n : Nat)
  /-- It has exactly these kinds and lexemes. -/
  | exactly (pairs : List (Token.Kind × Text))
  /-- It has these kinds and lexemes when white space is left out. -/
  | significant (pairs : List (Token.Kind × Text))
  /-- It has a token at an index. -/
  | token (index : Nat)
  /-- Its tokens spell a text. -/
  | spells (text : Text)
  deriving DecidableEq, Repr

namespace Expectation

def countReport (wanted found : Nat) (line : LexedLine) : Text :=
  "Expected ".toList ++ decimal wanted ++ " tokens, found ".toList ++ decimal found ++
    ":\n".toList ++ line.render

/-- The index of the first place where two lists differ, if neither has ended before. -/
def firstDifference? {α : Type} [DecidableEq α] : List α → List α → Option Nat
  | a :: as, b :: bs => if a = b then (firstDifference? as bs).map (· + 1) else some 0
  | _, _ => none

def compare (tokens : List Token) (wanted : List (Token.Kind × Text)) (line : LexedLine) :
    Except Text Unit :=
  match firstDifference? (tokens.map fun t => (t.kind, t.lexeme)) wanted with
  | some i => .error ("Token ".toList ++ decimal i ++ " differs:\n".toList ++ line.render)
  | none =>
    if tokens.length = wanted.length then .ok ()
    else .error (countReport wanted.length tokens.length line)

/-- Check an expectation. An expected token is handed back; a failure comes with its report. -/
def check (line : LexedLine) : Expectation → Except Text (Option Token)
  | endMode mode =>
    if line.endMode = mode then .ok none
    else .error ("Expected end state ".toList ++ mode.name.toList ++ ", found ".toList ++
      line.endMode.name.toList ++ ":\n".toList ++ line.render)
  | count n =>
    if line.tokens.length = n then .ok none else .error (countReport n line.tokens.length line)
  | exactly pairs => do
    compare line.tokens pairs line
    return none
  | significant pairs => do
    compare line.significant pairs line
    return none
  | token index =>
    match line.tokens[index]? with
    | some t => .ok (some t)
    | none => .error ("Token index ".toList ++ decimal index ++ " out of bounds (line has ".toList
        ++ decimal line.tokens.length ++ " tokens)".toList)
  | spells text =>
    if line.text = text then .ok none
    else .error ("Lexemes do not reproduce the line:\n".toList ++ line.render)

end EditorAssist.Expectation
