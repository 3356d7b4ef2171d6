/-! Reading decimals: the double nearest to a decimal number, computed exactly. -/
namespace EditorAssist.Decimal

/-- The quotient of two positive numbers rounded to the nearest integer, a half to the even one. -/
def roundDiv (num den : Nat) : Nat :=
  let q := num / den
  let r := num % den
  if den < 2 * r ∨ (den = 2 * r ∧ q % 2 = 1) then q + 1 else q

/-- The bits of the double nearest to the positive number `num / den`. Subnormal numbers and
infinity come out of the same rounding, since the bits of neighbouring doubles are neighbouring
numbers. -/
def bitsOfRatio (num den : Nat) : Nat :=
  let estimate : Int := num.log2 - den.log2
  let below : Bool := if 0 ≤ estimate then num < den <<< estimate.toNat
    else num <<< (-estimate).toNat < den
  let magnitude := if below then estimate - 1 else estimate
  let exponent := max magnitude (-1022)
  let shift := 52 - exponent
  let significand := if 0 ≤ shift then roundDiv (num <<< shift.toNat) den
    else roundDiv num (den <<< (-shift).toNat)
  let infinity := 0x7ff <<< 52
  if 1023 < exponent then infinity
  else min infinity (((exponent + 1022).toNat <<< 52) + significand)

/-- The double nearest to `digits * 10 ^ exponent`, with a sign. Numbers far outside the range of
doubles are settled without computing their powers of ten. -/
def nearest (negative : Bool) (digits : Nat) (exponent : Int) : Float :=
  let size : Int := (Nat.toDigits 10 digits).length + exponent
  let bits :=
    if digits = 0 ∨ size < -400 then 0
    else if 400 < size then 0x7ff <<< 52
    else if 0 ≤ exponent then bitsOfRatio (digits * Nat.pow 10 exponent.toNat) 1
    else bitsOfRatio digits (Nat.pow 10 (-exponent).toNat)
  Float.ofBits (UInt64.ofNat (bits + if negative then 1 <<< 63 else 0))

end EditorAssist.Decimal
