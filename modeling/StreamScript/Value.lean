import StreamScript.Number.Reading
import StreamScript.Number.Shortest
import StreamScript.Token.Basic

/-! Values of the language, what the operators make of them, and the types that variables are declared with. -/

namespace StreamScript

inductive Value where
  | integer (n : Int32)
  | text (s : String)
  | boolean (b : Bool)
  | floating (x : Number.Binary64)
  | character (c : Char)
deriving Repr, DecidableEq

namespace Value

def display : Value → String
  | integer n => toString n.toInt
  | text s => s
  | boolean b => if b then "true" else "false"
  | floating x => x.text
  | character c => c.toString

def sort : Value → String
  | integer _ => "integer"
  | text _ => "text"
  | boolean _ => "boolean"
  | floating _ => "floating"
  | character _ => "character"

def isText : Value → Bool
  | text _ => true
  | _ => false

end Value

inductive Operator where
  | add
  | subtract
  | multiply
  | divide
  | remainder
deriving Repr, DecidableEq

namespace Operator

def ofKind? : Kind → Option Operator
  | .plus => some add
  | .minus => some subtract
  | .star => some multiply
  | .slash => some divide
  | .percent => some remainder
  | _ => none

def ofSymbol? : String → Option Operator
  | "+" => some add
  | "-" => some subtract
  | "*" => some multiply
  | "/" => some divide
  | "%" => some remainder
  | _ => none

def symbol : Operator → String
  | add => "+"
  | subtract => "-"
  | multiply => "*"
  | divide => "/"
  | remainder => "%"

def precedence : Operator → Nat
  | add => 1
  | subtract => 1
  | multiply => 2
  | divide => 2
  | remainder => 2

end Operator

namespace Value

inductive Fault where
  | nonNumeric (operator : Operator) (left right : String)
  | divisionByZero
deriving Repr, DecidableEq

def Fault.message : Fault → String
  | nonNumeric operator left right => "cannot apply '" ++ operator.symbol ++ "' to " ++ left ++ " and " ++ right
  | divisionByZero => "/ by zero"

/-- Arithmetic of 32 bits that wraps around. A quotient is cut toward zero and the remainder goes with it. -/
def calculate : Operator → Int32 → Int32 → Except Fault Int32
  | .add, a, b => .ok (a + b)
  | .subtract, a, b => .ok (a - b)
  | .multiply, a, b => .ok (a * b)
  | .divide, a, b => if b = 0 then .error .divisionByZero else .ok (a / b)
  | .remainder, a, b => if b = 0 then .error .divisionByZero else .ok (a % b)

def numeric (operator : Operator) : Value → Value → Except Fault Value
  | integer a, integer b => (calculate operator a b).map integer
  | left, right => .error (.nonNumeric operator left.sort right.sort)

/-- Addition next to a text joins the printed forms; every other operation needs two integers. -/
def combine (operator : Operator) (left right : Value) : Except Fault Value :=
  if operator = .add ∧ (left.isText ∨ right.isText) then .ok (text (left.display ++ right.display))
  else numeric operator left right

end Value

inductive ValueType where
  | int
  | byte
  | boolean
  | char
  | float
  | double
  | string
deriving Repr, DecidableEq

namespace ValueType

def name : ValueType → String
  | int => "INT"
  | byte => "BYTE"
  | boolean => "BOOLEAN"
  | char => "CHAR"
  | float => "FLOAT"
  | double => "DOUBLE"
  | string => "STRING"

/-- In any case of the ASCII letters. -/
def ofName? (name : String) : Option ValueType :=
  match Text.asciiUpper name with
  | "INT" => some int
  | "BYTE" => some byte
  | "BOOLEAN" => some boolean
  | "CHAR" => some char
  | "FLOAT" => some float
  | "DOUBLE" => some double
  | "STRING" => some string
  | _ => none

/-- Whether a variable of the type may hold the value. A text of one character passes for a character. -/
def accepts : ValueType → Value → Bool
  | int, .integer _ => true
  | byte, .integer n => -128 ≤ n.toInt && n.toInt ≤ 127
  | boolean, .boolean _ => true
  | char, .character _ => true
  | char, .text s => s.length = 1
  | float, .floating _ => true
  | double, .floating _ => true
  | string, .text _ => true
  | _, _ => false

end ValueType

end StreamScript
