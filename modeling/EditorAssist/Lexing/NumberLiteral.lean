import EditorAssist.Text.Word

/-! Number literals: integers in four bases, floats, and the imaginary and long suffixes. A single
underscore may stand between two digits. Every function gives the length of the form it finds at the
start of a text. -/
namespace EditorAssist.NumberLiteral

def isOctal (c : Char) : Bool :=
  '0' ≤ c && c ≤ '7'

def isHex (c : Char) : Bool :=
  c.isDigit || ('a' ≤ c && c ≤ 'f') || ('A' ≤ c && c ≤ 'F')

def isBinary (c : Char) : Bool :=
  c == '0' || c == '1'

/-- Further digits of a run, each with at most one underscore before it. -/
def moreDigits (digit : Char → Bool) : Text → Nat
  | [] => 0
  | [c] => if digit c then 1 else 0
  | c :: d :: cs =>
    if digit c then moreDigits digit (d :: cs) + 1
    else if c == '_' && digit d then moreDigits digit cs + 2
    else 0

/-- A run of digits with single underscores inside; zero if there is none. -/
def digits (digit : Char → Bool) : Text → Nat
  | [] => 0
  | c :: cs => if digit c then moreDigits digit cs + 1 else 0

/-- An integer in a base given by a letter after the zero; without digits only the zero counts. -/
def integer? : Text → Option Nat
  | '0' :: letter :: cs =>
    let base : Option (Char → Bool) :=
      if letter == 'o' || letter == 'O' then some isOctal
      else if letter == 'x' || letter == 'X' then some isHex
      else if letter == 'b' || letter == 'B' then some isBinary
      else none
    match base with
    | some digit => if digits digit cs = 0 then some 1 else some (digits digit cs + 2)
    | none => some 1
  | '0' :: [] => some 1
  | t => if digits Char.isDigit t = 0 then none else some (digits Char.isDigit t)

/-- Digits around a point, of which one side may be empty. -/
def pointed? (t : Text) : Option Nat :=
  let whole := digits Char.isDigit t
  match t.drop whole with
  | '.' :: rest =>
    let fraction := digits Char.isDigit rest
    if whole = 0 ∧ fraction = 0 then none else some (whole + 1 + fraction)
  | _ => none

/-- An exponent: its letter, an optional sign, and digits. -/
def exponent? : Text → Option Nat
  | [] => none
  | c :: cs =>
    if c == 'e' || c == 'E' then
      let sign := if cs.head?.any (fun s => s == '+' || s == '-') then 1 else 0
      let power := digits Char.isDigit (cs.drop sign)
      if power = 0 then none else some (1 + sign + power)
    else none

/-- A float: a number with a point, an exponent, or both. -/
def float? (t : Text) : Option Nat :=
  match pointed? t with
  | some n => some (n + (exponent? (t.drop n)).getD 0)
  | none =>
    let whole := digits Char.isDigit t
    if whole = 0 then none else (exponent? (t.drop whole)).map (whole + ·)

/-- A suffix letter after `n` characters, closed by a word boundary. -/
def suffixed? (letter : Char → Bool) (t : Text) (n : Nat) : Option Nat :=
  match t.drop n with
  | c :: rest => if letter c && atBoundary rest then some (n + 1) else none
  | [] => none

/-- An imaginary number: a float or a run of digits with the suffix `j`. -/
def imaginary? (t : Text) : Option Nat :=
  let body := match float? t with
    | some n => some n
    | none => if digits Char.isDigit t = 0 then none else some (digits Char.isDigit t)
  body.bind (suffixed? (fun c => c == 'j' || c == 'J') t)

/-- Whether the first `n` characters end in a point and another point follows, as in a range. -/
def beginsRange (t : Text) (n : Nat) : Bool :=
  (t.take n).getLast? == some '.' && (t.drop n).head? == some '.'

def longInteger? (t : Text) : Option Nat :=
  (integer? t).bind (suffixed? (fun c => c == 'l' || c == 'L') t)

def plainInteger? (t : Text) : Option Nat :=
  (integer? t).filter (fun n => atBoundary (t.drop n))

/-- A number literal. Imaginary numbers come first, then floats other than the left end of a range,
long integers and integers. -/
def number? (t : Text) : Option Nat :=
  imaginary? t <|> (float? t).filter (fun n => !beginsRange t n) <|> longInteger? t <|>
    plainInteger? t

end EditorAssist.NumberLiteral
