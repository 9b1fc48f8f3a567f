import StreamScript.Token.Stream
import StreamScript.Value

/-! Ways for a run to fail. -/

namespace StreamScript.Run

inductive Fault where
  | alreadyDeclared (name : String)
  | missingEqual (name : String)
  | malformedDeclaration
  | unknownType (name : String)
  | undeclared (name : String)
  | undefinedReference (name : String)
  | typeMismatch (name : String) (expected : ValueType) (actual : String)
  | notImported (library : String)
  | libraryAsValue (library : String)
  | unsupportedInputType (name : String)
  | invalidIntegerInput (line : String)
  | inputExhausted
  | console (message : String)
  | invalidIntegerLiteral (literal : String)
  | invalidFloatLiteral (literal : String)
  | emptyExpression
  | missingOperand (operator : Operator)
  | danglingOperands (count : Nat)
  | evaluation (fault : Value.Fault)
  | unknownStatement (kind : Kind)
  | stream (fault : Stream.Fault)
deriving Repr, DecidableEq

def Fault.message : Fault → String
  | alreadyDeclared name => "Variable '" ++ name ++ "' is already declared"
  | missingEqual name => "Expected '=' after declaration of variable '" ++ name ++ "'"
  | malformedDeclaration => "Malformed variable declaration"
  | unknownType name => "Unknown type '" ++ name ++ "'"
  | undeclared name => "Variable '" ++ name ++ "' is not declared"
  | undefinedReference name => "Undefined variable: " ++ name
  | typeMismatch name expected actual =>
    "Type mismatch: variable '" ++ name ++ "' is of type " ++ expected.name ++ ", but tried to assign " ++ actual
  | notImported library => "Library '" ++ library ++ "' not imported. Use `using " ++ library ++ ";`"
  | libraryAsValue library => "Invalid use of '" ++ library ++ "' as variable in expression"
  | unsupportedInputType name => "Unsupported input type: " ++ name
  | invalidIntegerInput line => "Invalid integer input '" ++ line ++ "'"
  | inputExhausted => "No input line available"
  | console message => "Console I/O failed: " ++ message
  | invalidIntegerLiteral literal => "Invalid integer literal '" ++ literal ++ "'"
  | invalidFloatLiteral literal => "Invalid floating literal '" ++ literal ++ "'"
  | emptyExpression => "Empty expression"
  | missingOperand operator => "Operator '" ++ operator.symbol ++ "' is missing an operand"
  | danglingOperands count => "Malformed expression: " ++ toString count ++ " values left"
  | evaluation fault => "Runtime error: " ++ fault.message
  | unknownStatement kind => "Unknown statement starting with " ++ kind.name
  | stream fault => "Malformed token stream: " ++ fault.message

structure Error where
  fault : Fault
  position : Option Position
deriving Repr, DecidableEq

namespace Error

def ofToken (token : Token) (fault : Fault) : Error := ⟨fault, some token.position⟩

/-- A bad line of the stream stands at its line. -/
def ofStream (error : Stream.Error) : Error := ⟨.stream error.fault, some (.ofLine error.line)⟩

end Error

end StreamScript.Run
