import EditorAssist.Lexing.NumberLiteral
import EditorAssist.Text.Blank
import EditorAssist.Text.Upper

/-! Recognizers: the lengths of the lexical forms at the start of a text. -/
namespace EditorAssist.Recognizer

def literal? (glyphs : Text) (rest : Text) : Option Nat :=
  if glyphs.isPrefixOf rest then some glyphs.length else none

def run? (p : Char → Bool) (rest : Text) : Option Nat :=
  some (rest.takeWhile p).length

def one? (p : Char → Bool) : Text → Option Nat
  | c :: _ => if p c then some 1 else none
  | [] => none

/-- A character of one class and the run of another after it. -/
def word? (start part : Char → Bool) : Text → Option Nat
  | c :: cs => if start c then some ((cs.takeWhile part).length + 1) else none
  | [] => none

def isInline (c : Char) : Bool :=
  c != '\n'

def lineComment? (rest : Text) : Option Nat :=
  word? (· == '#') isInline rest

def dottedName? : Text → Option Nat
  | '.' :: rest => (word? isNameStart isNamePart rest).map (· + 1)
  | _ => none

/-- The text of a string up to and including its closing quote. A backslash takes the next character
with it, which may not be a line feed. -/
def closingQuote? : Text → Option Nat
  | [] => none
  | '"' :: _ => some 1
  | '\\' :: c :: cs => if c = '\n' then none else (closingQuote? cs).map (· + 2)
  | _ :: cs => (closingQuote? cs).map (· + 1)

def string? : Text → Option Nat
  | '"' :: rest => (closingQuote? rest).map (· + 1)
  | _ => none

/-- A single character, or an escape, between apostrophes. -/
def charLiteral? : Text → Option Nat
  | '\x27' :: '\\' :: c :: '\x27' :: _ => if c = '\n' then none else some 4
  | '\x27' :: c :: '\x27' :: _ => if c = '\x27' ∨ c = '\\' then none else some 3
  | _ => none

/-- The operators; of two that begin alike the longer comes first. -/
def operators : List Text :=
  (["...", "..", "->", "=>", "|>", "==", "!=", "<=", ">=", "<<", ">>", "//", "-", "+", "*", "/",
    "%", "&", "|", "^", "~", "<", ">", "=", "!", ":", ",", ".", ";"] : List String).map
    String.toList

def operator? (rest : Text) : Option Nat :=
  (operators.find? (·.isPrefixOf rest)).map List.length

def isOpening (c : Char) : Bool :=
  c == '(' || c == '[' || c == '{'

def isClosing (c : Char) : Bool :=
  c == ')' || c == ']' || c == '}'

/-- The text of a block comment up to and including its end, if that is on the same line. -/
def commentEnd? : Text → Option Nat
  | [] => none
  | ']' :: '#' :: _ => some 2
  | c :: cs => if c = '\n' then none else (commentEnd? cs).map (· + 1)

/-- A backslash with the character after it, which may not be a line feed. -/
def escape? : Text → Option Nat
  | '\\' :: c :: _ => if c = '\n' then none else some 2
  | _ => none

/-- A character of a string that stands for itself. -/
def isStringBody (c : Char) : Bool :=
  c != '"' && c != '\\'

end EditorAssist.Recognizer
