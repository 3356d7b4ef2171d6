/-! Writing doubles: the fewest decimal digits that read back as the same double. -/
namespace EditorAssist.Decimal

/-- The double with a given sign and magnitude `mantissa * 2 ^ exponent`, or one of the others. -/
inductive Double where
  | nan
  | infinite (negative : Bool)
  | finite (negative : Bool) (mantissa : Nat) (exponent : Int)
  deriving DecidableEq, Repr

/-- The leading bit of the mantissa of a normal double, which is not stored. -/
def implicitBit : Nat := 1 <<< 52

def Double.ofFloat (x : Float) : Double :=
  let bits : Nat := x.toBits.toNat
  let negative := bits >>> 63 == 1
  let biased : Nat := (bits >>> 52) % 0x800
  let fraction : Nat := bits % implicitBit
  if biased = 0x7ff then if fraction = 0 then .infinite negative else .nan
  else if biased = 0 then .finite negative fraction (-1074)
  else .finite negative (fraction + implicitBit) ((biased : Int) - 1075)

/-- Whether `n * 10 ^ place` lies in the interval of numbers that round to `mantissa * 2 ^
exponent`. Everything is scaled so that the ends of the interval are integers; its ends belong to
it if the mantissa is even, and below a power of two it is half as wide. -/
def readsBack (mantissa : Nat) (exponent : Int) (n : Nat) (place : Int) : Bool :=
  let scale2 := 1 <<< (exponent - 2).toNat
  let down2 := 1 <<< (2 - exponent).toNat
  let scale10 := Nat.pow 10 place.toNat
  let down10 := Nat.pow 10 (-place).toNat
  let value := n * scale10 * down2
  let unit := scale2 * down10
  let narrow := mantissa = implicitBit ∧ -1074 < exponent
  let low := (if narrow then 4 * mantissa - 1 else 4 * mantissa - 2) * unit
  let high := (4 * mantissa + 2) * unit
  if mantissa % 2 = 0 then low ≤ value && value ≤ high else low < value && value < high

/-- Look for a decimal that reads back on ever finer grids of powers of ten. Of the two neighbours
of the value on a grid the nearer is preferred, and the upper one if they are equally near. -/
def search (mantissa : Nat) (exponent : Int) : Nat → Int → Nat × Int
  | 0, place => (0, place)
  | tries + 1, place =>
    let num := (mantissa <<< exponent.toNat) * Nat.pow 10 (-place).toNat
    let den := Nat.pow 10 place.toNat <<< (-exponent).toNat
    let lower := num / den
    let lowerOk := readsBack mantissa exponent lower place
    let upperOk := readsBack mantissa exponent (lower + 1) place
    if upperOk ∧ (¬ lowerOk ∨ den ≤ 2 * (num % den)) then (lower + 1, place)
    else if lowerOk then (lower, place)
    else search mantissa exponent tries (place - 1)

/-- The fewest digits for a positive double, as a number and the power of ten of its last digit. -/
def shortest (mantissa : Nat) (exponent : Int) : Nat × Int :=
  let num := mantissa <<< exponent.toNat
  let den := 1 <<< (-exponent).toNat
  let leading : Int := (Nat.toDigits 10 (num / den)).length - (Nat.toDigits 10 (den / num)).length
  search mantissa exponent 20 leading

/-- A number of digits with a point before the last `places` of them. -/
def positional (digits : List Char) (place : Int) : List Char :=
  if 0 ≤ place then digits ++ List.replicate place.toNat '0'
  else
    let places := (-place).toNat
    let padded := List.replicate (places + 1 - digits.length) '0' ++ digits
    padded.take (padded.length - places) ++ '.' :: padded.drop (padded.length - places)

/-- A double in positional notation, always with a point unless it is no number. -/
def render (x : Float) : List Char :=
  match Double.ofFloat x with
  | .nan => ['N', 'a', 'N']
  | .infinite negative => (if negative then ['-'] else []) ++ ['i', 'n', 'f']
  | .finite negative mantissa exponent =>
    let (digits, place) := if mantissa = 0 then (0, 0) else shortest mantissa exponent
    let text := positional (Nat.toDigits 10 digits) place
    (if negative then ['-'] else []) ++ text ++ if text.contains '.' then [] else ['.', '0']

end EditorAssist.Decimal
