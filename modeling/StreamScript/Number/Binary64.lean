/-! Binary floating numbers of 64 bits. A finite number is a mantissa below `2 ^ 53` times a power of two that is
at least `2 ^ -1074`; the mantissa is at least `2 ^ 52` unless the power is the least one. -/

namespace StreamScript.Number

inductive Binary64 where
  | nan
  | infinite (negative : Bool)
  | finite (negative : Bool) (mantissa : Nat) (exponent : Int)
deriving Repr, DecidableEq, Inhabited

namespace Binary64

/-- The least mantissa of a number that has all its 53 binary digits. -/
def hiddenBit : Nat := 4503599627370496

def leastExponent : Int := -1074

def greatestExponent : Int := 971

def zero (negative : Bool) : Binary64 := finite negative 0 leastExponent

/-- The quotient as a whole number, a half going to the even neighbour. -/
def roundEven (numerator denominator : Nat) : Nat :=
  let whole := numerator / denominator
  let twice := 2 * (numerator % denominator)
  if denominator < twice ∨ (twice = denominator ∧ whole % 2 = 1) then whole + 1 else whole

/-- Numerator and denominator of a power, which is whole when its exponent is not negative. -/
def power (base : Nat) (exponent : Int) : Nat × Nat := (base.pow exponent.toNat, base.pow (-exponent).toNat)

/-- The power of two under which the quotient has 53 binary digits before the point. -/
def fittingExponent (numerator denominator : Nat) : Int :=
  let guess : Int := numerator.log2 - denominator.log2 - 52
  let (up, down) := power 2 guess
  if numerator * down < hiddenBit * (denominator * up) then guess - 1 else guess

/-- The number nearest to a positive quotient; from halfway past the greatest finite number on it is infinite. -/
def ofQuotient (negative : Bool) (numerator denominator : Nat) : Binary64 :=
  let exponent := max leastExponent (fittingExponent numerator denominator)
  let (up, down) := power 2 exponent
  let mantissa := roundEven (numerator * down) (denominator * up)
  let (mantissa, exponent) := if mantissa = 2 * hiddenBit then (hiddenBit, exponent + 1) else (mantissa, exponent)
  if greatestExponent < exponent then infinite negative else finite negative mantissa exponent

def decimalLength (n : Nat) : Nat := (Nat.toDigits 10 n).length

/-- The number nearest to `digits * 10 ^ exponent`. A value with more than 310 places before the point is beyond
every finite number, and one with 330 zeros after it rounds to zero. -/
def ofDecimal (negative : Bool) (digits : Nat) (exponent : Int) : Binary64 :=
  let places := decimalLength digits + exponent
  if digits = 0 ∨ places < -330 then zero negative
  else if 310 < places then infinite negative
  else
    let (up, down) := power 10 exponent
    ofQuotient negative (digits * up) down

end Binary64

end StreamScript.Number
