import StreamScript.Number.Binary64
import StreamScript.Text.Letter
import StreamScript.Text.Uppercase

/-! Numbers written in a text. An integer is an optional sign and ASCII digits; a floating number may have a
point, with digits on one side at least, and an exponent, or be the name of a special value. -/

namespace StreamScript.Number

open Text (isDigit)

def digitValue (c : Char) : Nat := c.toNat - 0x30

def digitsValue (digits : List Char) : Nat := digits.foldl (fun value c => 10 * value + digitValue c) 0

/-- Whether there is a minus sign in front, and the text after the sign. -/
def takeSign : List Char → Bool × List Char
  | '-' :: rest => (true, rest)
  | '+' :: rest => (false, rest)
  | text => (false, text)

def signed (negative : Bool) (magnitude : Nat) : Int := if negative then -magnitude else magnitude

/-- Digits only, and one of them at least. -/
def readNatural (text : List Char) : Option Nat :=
  if text ≠ [] ∧ text.all isDigit then some (digitsValue text) else none

def readInteger (text : List Char) : Option Int :=
  let (negative, digits) := takeSign text
  (readNatural digits).map (signed negative)

/-- An integer beyond 32 bits is not read. -/
def readInt32 (text : String) : Option Int32 :=
  (readInteger text.toList).bind fun value =>
    if -2147483648 ≤ value ∧ value ≤ 2147483647 then some (Int32.ofInt value) else none

/-- The exponent at the end of a floating number: nothing, or a mark and an integer. -/
def readExponent : List Char → Option Int
  | [] => some 0
  | mark :: text => if mark = 'e' ∨ mark = 'E' then readInteger text else none

def readDecimal (negative : Bool) (text : List Char) : Option Binary64 :=
  let whole := text.takeWhile isDigit
  let afterWhole := text.dropWhile isDigit
  let (fraction, rest) :=
    match afterWhole with
    | '.' :: places => (places.takeWhile isDigit, places.dropWhile isDigit)
    | _ => ([], afterWhole)
  if whole = [] ∧ fraction = [] then none
  else (readExponent rest).map fun exponent =>
    Binary64.ofDecimal negative (digitsValue (whole ++ fraction)) (exponent - fraction.length)

/-- The special values have names in any case. -/
def readSpecial (negative : Bool) (text : List Char) : Option Binary64 :=
  let name := Text.asciiUpper (String.ofList text)
  if name = "NAN" then some .nan
  else if name = "INF" ∨ name = "INFINITY" then some (.infinite negative)
  else none

def readBinary64 (text : String) : Option Binary64 :=
  let (negative, rest) := takeSign text.toList
  (readDecimal negative rest).or (readSpecial negative rest)

end StreamScript.Number
