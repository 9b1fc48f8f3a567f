import StreamScript.Number.Binary64

/-! The text of a floating number: the fewest decimal digits that read back as it. Of two such decimals the
nearer is taken and of two equally near ones the greater. -/

namespace StreamScript.Number.Binary64

/-- A decimal `digits * 10 ^ exponent`. -/
structure Decimal where
  digits : Nat
  exponent : Int
deriving Repr, DecidableEq

/-- The number of decimal places before the point of a positive quotient, negative for zeros after the point. -/
def decimalPlaces (numerator denominator : Nat) : Int :=
  let guess : Int := (decimalLength numerator : Int) - decimalLength denominator
  let (up, down) := power 10 guess
  if denominator * up ≤ numerator * down then guess + 1 else guess

/-- The multiple of `10 ^ exponent` nearest to the number, if it reads back as the number. The decimals that do
lie between the middles to both neighbours, the middles included when the mantissa is even; below a power of
two the neighbour is at half the distance. -/
def nearestMultiple (mantissa : Nat) (binary exponent : Int) : Option Decimal :=
  let (twosUp, twosDown) := power 2 (binary - 2)
  let (tensUp, tensDown) := power 10 exponent
  let scale := twosUp * tensDown
  let unit := twosDown * tensUp
  let value := 4 * mantissa * scale
  let low := (4 * mantissa - if mantissa = hiddenBit ∧ leastExponent < binary then 1 else 2) * scale
  let high := (4 * mantissa + 2) * scale
  let readsBack (digits : Nat) : Bool :=
    if mantissa % 2 = 0 then low ≤ digits * unit ∧ digits * unit ≤ high
    else low < digits * unit ∧ digits * unit < high
  let below := value / unit
  let above := below + 1
  let up := unit ≤ 2 * (value % unit)
  if up ∧ readsBack above then some ⟨above, exponent⟩
  else if readsBack below then some ⟨below, exponent⟩
  else if readsBack above then some ⟨above, exponent⟩
  else none

/-- Seventeen digits always suffice. -/
def shortest (mantissa : Nat) (binary : Int) : Decimal :=
  let (up, down) := power 2 binary
  let places := decimalPlaces (mantissa * up) down
  let found := (List.range 17).findSome? fun (count : Nat) => nearestMultiple mantissa binary (places - 1 - count)
  found.getD ⟨0, 0⟩

def stripZeros (digits : List Char) : List Char := (digits.reverse.dropWhile (· = '0')).reverse

/-- Digits around a point that stands after `places` of them; there is one on either side at least. -/
def positional (digits : List Char) (places : Int) : List Char :=
  if places ≤ 0 then '0' :: '.' :: (List.replicate (-places).toNat '0' ++ digits)
  else
    let whole := places.toNat
    if digits.length ≤ whole then digits ++ List.replicate (whole - digits.length) '0' ++ ['.', '0']
    else digits.take whole ++ '.' :: digits.drop whole

/-- One digit before the point, which is left out when nothing follows it. -/
def scientific (digits : List Char) (places : Int) : List Char :=
  let lead := match digits with
    | [] => ['0']
    | [digit] => [digit]
    | digit :: more => digit :: '.' :: more
  lead ++ 'e' :: (toString (places - 1)).toList

/-- Numbers from `10 ^ -4` to below `10 ^ 16` are written positionally. -/
def magnitudeText (mantissa : Nat) (binary : Int) : String :=
  if mantissa = 0 then "0.0"
  else
    let decimal := shortest mantissa binary
    let written := Nat.toDigits 10 decimal.digits
    let digits := stripZeros written
    let places := written.length + decimal.exponent
    String.ofList (if -4 < places ∧ places ≤ 16 then positional digits places else scientific digits places)

def signText (negative : Bool) : String := if negative then "-" else ""

def text : Binary64 → String
  | nan => "NaN"
  | infinite negative => signText negative ++ "inf"
  | finite negative mantissa exponent => signText negative ++ magnitudeText mantissa exponent

end StreamScript.Number.Binary64
