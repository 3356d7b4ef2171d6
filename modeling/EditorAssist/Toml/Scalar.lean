import EditorAssist.Decimal.Nearest
import EditorAssist.Lexing.NumberLiteral
import EditorAssist.Toml.Basic

/-! Strings, numbers, dates and times of TOML. Every reader returns what it read and the rest. -/
namespace EditorAssist.Toml

/-- A character that may stand in comments and, quotes aside, in strings. -/
def isVisible (c : Char) : Bool :=
  c == '\t' || (0x20 ≤ c.toNat && c.toNat != 0x7f)

def skipBlank (t : Text) : Text :=
  t.dropWhile fun c => c == ' ' || c == '\t'

def newline? : Text → Option Text
  | '\n' :: rest => some rest
  | '\r' :: '\n' :: rest => some rest
  | _ => none

def hexValue? (c : Char) : Option Nat :=
  if c.isDigit then some (c.toNat - 48)
  else if 'a' ≤ c && c ≤ 'f' then some (c.toNat - 87)
  else if 'A' ≤ c && c ≤ 'F' then some (c.toNat - 55)
  else none

/-- The character with a code point given in hexadecimal digits. -/
def scalar? (digits : Text) : Option Char := do
  let values ← digits.mapM hexValue?
  let code := values.foldl (fun n d => n * 16 + d) 0
  if code.isValidChar then some (Char.ofNat code) else none

def unescape? : Char → Option Char
  | 'b' => some '\x08'
  | 't' => some '\t'
  | 'n' => some '\n'
  | 'f' => some '\x0c'
  | 'r' => some '\r'
  | '"' => some '"'
  | '\\' => some '\\'
  | _ => none

def before (c : Char) (read : Option (Text × Text)) : Option (Text × Text) :=
  read.map fun (t, rest) => (c :: t, rest)

def basicString : Text → Option (Text × Text)
  | '"' :: rest => some ([], rest)
  | '\\' :: 'u' :: a :: b :: c :: d :: rest => do
    before (← scalar? [a, b, c, d]) (basicString rest)
  | '\\' :: 'U' :: a :: b :: c :: d :: e :: f :: g :: h :: rest => do
    before (← scalar? [a, b, c, d, e, f, g, h]) (basicString rest)
  | '\\' :: c :: rest => do before (← unescape? c) (basicString rest)
  | c :: rest => if isVisible c && c != '\\' then before c (basicString rest) else none
  | [] => none

def literalString : Text → Option (Text × Text)
  | '\x27' :: rest => some ([], rest)
  | c :: rest => if isVisible c then before c (literalString rest) else none
  | [] => none

/-- The rest of a string in three double quotes. While `trimming`, blanks and line breaks are passed
over, as they are after a backslash at the end of a line. -/
def basicBlock (trimming : Bool) : Text → Option (Text × Text)
  | '"' :: '"' :: '"' :: '"' :: '"' :: rest => some (['"', '"'], rest)
  | '"' :: '"' :: '"' :: '"' :: rest => some (['"'], rest)
  | '"' :: '"' :: '"' :: rest => some ([], rest)
  | '\\' :: 'u' :: a :: b :: c :: d :: rest => do
    before (← scalar? [a, b, c, d]) (basicBlock false rest)
  | '\\' :: 'U' :: a :: b :: c :: d :: e :: f :: g :: h :: rest => do
    before (← scalar? [a, b, c, d, e, f, g, h]) (basicBlock false rest)
  | '\\' :: c :: rest =>
    if (newline? (skipBlank (c :: rest))).isSome then basicBlock true (c :: rest)
    else do before (← unescape? c) (basicBlock false rest)
  | '\n' :: rest => if trimming then basicBlock true rest else before '\n' (basicBlock false rest)
  | '\r' :: '\n' :: rest =>
    if trimming then basicBlock true rest else before '\n' (basicBlock false rest)
  | c :: rest =>
    if trimming && (c == ' ' || c == '\t') then basicBlock true rest
    else if isVisible c && c != '\\' then before c (basicBlock false rest)
    else none
  | [] => none

def literalBlock : Text → Option (Text × Text)
  | '\x27' :: '\x27' :: '\x27' :: '\x27' :: '\x27' :: rest => some (['\x27', '\x27'], rest)
  | '\x27' :: '\x27' :: '\x27' :: '\x27' :: rest => some (['\x27'], rest)
  | '\x27' :: '\x27' :: '\x27' :: rest => some ([], rest)
  | '\r' :: '\n' :: rest => before '\n' (literalBlock rest)
  | c :: rest => if isVisible c || c == '\n' then before c (literalBlock rest) else none
  | [] => none

/-- A string of any of the four kinds. A line break right after three quotes does not count. -/
def string? : Text → Option (Text × Text)
  | '"' :: '"' :: '"' :: rest => basicBlock false ((newline? rest).getD rest)
  | '"' :: rest => basicString rest
  | '\x27' :: '\x27' :: '\x27' :: rest => literalBlock ((newline? rest).getD rest)
  | '\x27' :: rest => literalString rest
  | _ => none

/-- The number that digits of a base write; underscores do not count. -/
def valueOf (base : Nat) (digits : Text) : Nat :=
  (digits.filter (· != '_')).foldl (fun n c => n * base + (hexValue? c).getD 0) 0

def sign : Text → Bool × Text
  | '+' :: rest => (false, rest)
  | '-' :: rest => (true, rest)
  | rest => (false, rest)

/-- The length of a decimal integer without superfluous zeros. -/
def decimalLength : Text → Nat
  | '0' :: _ => 1
  | t => NumberLiteral.digits Char.isDigit t

def fitting (n : Int) (rest : Text) : Option (Item × Text) :=
  if fitsSigned n then some (.integer n, rest) else none

def based (base : Nat) (digit : Char → Bool) (t : Text) : Option (Item × Text) :=
  let n := NumberLiteral.digits digit t
  if n = 0 then none else fitting (valueOf base (t.take n)) (t.drop n)

def integer? : Text → Option (Item × Text)
  | '0' :: 'x' :: rest => based 16 NumberLiteral.isHex rest
  | '0' :: 'o' :: rest => based 8 NumberLiteral.isOctal rest
  | '0' :: 'b' :: rest => based 2 NumberLiteral.isBinary rest
  | t =>
    let (negative, body) := sign t
    let n := decimalLength body
    let value : Int := valueOf 10 (body.take n)
    if n = 0 then none else fitting (if negative then -value else value) (body.drop n)

/-- The digits after a point, as a length that counts the point. -/
def fractionLength : Text → Nat
  | '.' :: rest =>
    let n := NumberLiteral.digits Char.isDigit rest
    if n = 0 then 0 else n + 1
  | _ => 0

def powerOf : Text → Int
  | _ :: '-' :: digits => -valueOf 10 digits
  | _ :: '+' :: digits => valueOf 10 digits
  | _ :: digits => valueOf 10 digits
  | [] => 0

/-- A float with a fraction, an exponent or both, or one of the values that are no ordinary numbers.
A positive number too large for a double is refused. -/
def float? (t : Text) : Option (Item × Text) :=
  let (negative, body) := sign t
  match body with
  | 'i' :: 'n' :: 'f' :: rest => some (.float (if negative then -1.0 / 0.0 else 1.0 / 0.0), rest)
  | 'n' :: 'a' :: 'n' :: rest => some (.float (0.0 / 0.0), rest)
  | _ =>
    let whole := decimalLength body
    let afterWhole := body.drop whole
    let fraction := fractionLength afterWhole
    let afterFraction := afterWhole.drop fraction
    let power := (NumberLiteral.exponent? afterFraction).getD 0
    if whole = 0 ∨ (fraction = 0 ∧ power = 0) then none
    else
      let fractionDigits := ((afterWhole.take fraction).drop 1).filter (· != '_')
      let digits := valueOf 10 (body.take whole ++ fractionDigits)
      let exponent := powerOf (afterFraction.take power) - fractionDigits.length
      let x := Decimal.nearest negative digits exponent
      if x == 1.0 / 0.0 then none else some (.float x, afterFraction.drop power)

def twoDigits? (low high : Nat) : Text → Option (Nat × Text)
  | a :: b :: rest =>
    let n := valueOf 10 [a, b]
    if a.isDigit && b.isDigit && low ≤ n && n ≤ high then some (n, rest) else none
  | _ => none

def daysIn (year month : Nat) : Nat :=
  if month = 2 then
    if (year % 4 = 0 ∧ year % 100 ≠ 0) ∨ year % 400 = 0 then 29 else 28
  else if month = 4 ∨ month = 6 ∨ month = 9 ∨ month = 11 then 30 else 31

def date? : Text → Option (Text × Text)
  | a :: b :: c :: d :: '-' :: rest => do
    if !(List.all [a, b, c, d] Char.isDigit) then none
    else
      let (month, afterMonth) ← twoDigits? 1 12 rest
      match afterMonth with
      | '-' :: afterDash =>
        let (_, afterDay) ← twoDigits? 1 (daysIn (valueOf 10 [a, b, c, d]) month) afterDash
        return ([a, b, c, d, '-'] ++ rest.take 2 ++ '-' :: afterDash.take 2, afterDay)
      | _ => none
  | _ => none

/-- A fraction of a second, kept to nine places without zeros at the end. -/
def secondFraction (t : Text) : Text × Text :=
  match t with
  | '.' :: rest =>
    let digits := rest.takeWhile Char.isDigit
    let kept := ((digits.take 9).reverse.dropWhile (· == '0')).reverse
    if digits.isEmpty then ([], t)
    else (if kept.isEmpty then [] else '.' :: kept, rest.dropWhile Char.isDigit)
  | _ => ([], t)

/-- A time of day, with hours up to `lastHour`. -/
def time? (lastHour : Nat) (t : Text) : Option (Text × Text) := do
  let (_, afterHour) ← twoDigits? 0 lastHour t
  match afterHour with
  | ':' :: rest =>
    let (_, afterMinute) ← twoDigits? 0 59 rest
    match afterMinute with
    | ':' :: seconds =>
      let (_, afterSecond) ← twoDigits? 0 60 seconds
      let (fraction, rest) := secondFraction afterSecond
      return (t.take 8 ++ fraction, rest)
    | _ => none
  | _ => none

/-- The offset of a time from universal time. No offset behind it is written with a minus sign. -/
def offset (t : Text) : Text × Text :=
  match t with
  | 'Z' :: rest => (['Z'], rest)
  | 'z' :: rest => (['Z'], rest)
  | c :: rest =>
    if c == '+' || c == '-' then
      match (do
        let (hour, afterHour) ← twoDigits? 0 23 rest
        match afterHour with
        | ':' :: minutes =>
          let (minute, last) ← twoDigits? 0 59 minutes
          let shown := if hour = 0 ∧ minute = 0 then '+' else c
          return (shown :: rest.take 5, last)
        | _ => none : Option (Text × Text)) with
      | some read => read
      | none => ([], t)
    else ([], t)
  | [] => ([], t)

def isDateEnd (c : Char) : Bool :=
  c == 'T' || c == 't' || c == ' '

/-- A date, a time, or both with an optional offset, in their standard spelling. -/
def moment? (t : Text) : Option (Item × Text) :=
  match date? t with
  | some (date, c :: rest) =>
    match if isDateEnd c then time? 23 rest else none with
    | some (time, rest) =>
      let (zone, rest) := offset rest
      some (.moment (date ++ 'T' :: time ++ zone), rest)
    | none => some (.moment date, c :: rest)
  | some (date, []) => some (.moment date, [])
  | none => (time? 23 t).map fun (time, rest) => (.moment time, rest)

def boolean? : Text → Option (Item × Text)
  | 't' :: 'r' :: 'u' :: 'e' :: rest => some (.boolean true, rest)
  | 'f' :: 'a' :: 'l' :: 's' :: 'e' :: rest => some (.boolean false, rest)
  | _ => none

/-- A value that is neither an array nor a table. -/
def scalarItem? (t : Text) : Option (Item × Text) :=
  (string? t).map (fun (s, rest) => (.string s, rest)) <|> boolean? t <|> moment? t <|> float? t <|>
    integer? t

end EditorAssist.Toml
