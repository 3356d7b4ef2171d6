import EditorAssist.Lexing.Reserved
import EditorAssist.Mode

/-! Lexical rules: how a rule finds its match at the start of a text and what it makes of it. -/
namespace EditorAssist

/-- What a rule makes of the text it matches. -/
inductive Rule.Action where
  /-- One token of a fixed kind. -/
  | emit (kind : Token.Kind)
  /-- One token, whose kind depends on the word. -/
  | byWord
  /-- The dot as an operator and the name after it as a member. -/
  | dotted
  deriving DecidableEq, Repr

/-- A lexical rule. `recognize` gives the length of the match at the start of a text, and `next` the
mode to go on in, if the rule changes it. -/
structure Rule where
  name : String
  recognize : Text → Option Nat
  action : Rule.Action
  next : Option Mode := none

namespace Rule

def Action.pieces (action : Action) (matched : Text) : List (Token.Kind × Text) :=
  match action with
  | .emit kind => [(kind, matched)]
  | .byWord => [(wordKind matched, matched)]
  | .dotted => [(.operator, matched.take 1), (.member, matched.drop 1)]

/-- The length of a rule's match. A match of nothing does not count. -/
def reach? (rule : Rule) (rest : Text) : Option Nat :=
  (rule.recognize rest).filter (0 < ·)

def first? (rules : List Rule) (rest : Text) : Option (Rule × Nat) :=
  rules.findSome? fun rule => (rule.reach? rest).map (rule, ·)

end EditorAssist.Rule
