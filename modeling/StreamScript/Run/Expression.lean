import StreamScript.Run.Error
import StreamScript.Store

/-! Expressions: operands and operators in a row. Values and operators wait on two stacks, the latest on top; an
operator is applied when one that does not bind tighter follows it, or at the end. Tokens that are neither
operands nor operators are passed over, and whether an operator has operands shows only when it is applied. -/

namespace StreamScript.Run

/-- The one library there is. -/
def outputName : String := "Output"

/-- The library is not a value, whether it is imported or not. -/
def libraryFault (imports : List String) : Fault :=
  if imports.contains outputName then .libraryAsValue outputName else .notImported outputName

/-- A character literal of another length is a text. -/
def characterValue (literal : String) : Value :=
  match literal.toList with
  | [c] => .character c
  | _ => .text literal

/-- The value of an operand, or nothing for a token of another kind. -/
def operand (store : Store) (imports : List String) (token : Token) : Except Error (Option Value) :=
  match token.kind with
  | .number =>
    match Number.readInt32 token.literal with
    | some n => .ok (some (.integer n))
    | none => .error (.ofToken token (.invalidIntegerLiteral token.literal))
  | .floating =>
    match Number.readBinary64 token.literal with
    | some x => .ok (some (.floating x))
    | none => .error (.ofToken token (.invalidFloatLiteral token.literal))
  | .text => .ok (some (.text token.literal))
  | .character => .ok (some (characterValue token.literal))
  | .boolean => .ok (some (.boolean (token.literal = "true")))
  | .identifier =>
    if token.literal = outputName then .error (.ofToken token (libraryFault imports))
    else
      match store.value? token.literal with
      | some value => .ok (some value)
      | none => .error (.ofToken token (.undefinedReference token.literal))
  | _ => .ok none

/-- An operator that waits, with its place. -/
structure Waiting where
  operator : Operator
  position : Position
deriving Repr, DecidableEq

structure Stacks where
  values : List Value := []
  waiting : List Waiting := []
deriving Repr, DecidableEq

/-- Replaces the two values on top by what the operator makes of them. -/
def applyTop (top : Waiting) : List Value → Except Error (List Value)
  | right :: left :: rest =>
    match Value.combine top.operator left right with
    | .ok value => .ok (value :: rest)
    | .error fault => .error ⟨.evaluation fault, some top.position⟩
  | _ => .error ⟨.missingOperand top.operator, some top.position⟩

/-- Applies the waiting operators that bind at least so tightly, down to the first that does not. -/
def unwind (precedence : Nat) (values : List Value) : List Waiting → Except Error Stacks
  | [] => .ok ⟨values, []⟩
  | top :: rest =>
    if top.operator.precedence < precedence then .ok ⟨values, top :: rest⟩
    else
      match applyTop top values with
      | .ok values => unwind precedence values rest
      | .error error => .error error

def feed (store : Store) (imports : List String) (state : Stacks) (token : Token) : Except Error Stacks :=
  match Operator.ofKind? token.kind with
  | some operator => do
    let unwound ← unwind operator.precedence state.values state.waiting
    return { unwound with waiting := ⟨operator, token.position⟩ :: unwound.waiting }
  | none => do
    match ← operand store imports token with
    | some value => return { state with values := value :: state.values }
    | none => return state

def feedAll (store : Store) (imports : List String) (state : Stacks) : List Token → Except Error Stacks
  | [] => .ok state
  | token :: rest =>
    match feed store imports state token with
    | .ok state => feedAll store imports state rest
    | .error error => .error error

/-- One value must be left. A fault of the whole expression stands at its first token. -/
def soleValue (place : Option Position) : List Value → Except Error Value
  | [value] => .ok value
  | [] => .error ⟨.emptyExpression, place⟩
  | values => .error ⟨.danglingOperands values.length, place⟩

def evaluate (store : Store) (imports : List String) (tokens : List Token) : Except Error Value := do
  let state ← feedAll store imports {} tokens
  let unwound ← unwind 0 state.values state.waiting
  soleValue (tokens.head?.map (·.position)) unwound.values

end StreamScript.Run
