import StreamScript.Run.Expression

/-! Statements, told apart by the kinds of their tokens. -/

namespace StreamScript.Run

/-- The two ways to write through the library. -/
inductive Method where
  | print
  | println
deriving Repr, DecidableEq

def Method.ofName? : String → Option Method
  | "print" => some print
  | "println" => some println
  | _ => none

inductive Statement where
  | declaration (type name separator : Token) (value : List Token)
  | prompted (name library prompt inputType : Token)
  | assignment (name : Token) (value : List Token)
  | call (library : Token) (method : Method) (argument : Token)
  | print (value : Token)
  | unrecognized (first : Token)
deriving Repr, DecidableEq

namespace Statement

def name : Statement → String
  | declaration .. => "declaration"
  | prompted .. => "prompted assignment"
  | assignment .. => "assignment"
  | call .. => "library call"
  | print .. => "print"
  | unrecognized .. => "unrecognized"

/-- `var(type) name = value`; the value may be anything that is not empty. -/
def declaration? : List Token → Option Statement
  | var :: type :: name :: separator :: value =>
    if var.is .varWord && !value.isEmpty then some (declaration type name separator value) else none
  | _ => none

/-- `name = Output.input("prompt")(type)` -/
def prompted? : List Token → Option Statement
  | [name, equal, library, dot, input, opening, prompt, closing, typeOpening, inputType, typeClosing] =>
    if name.is .identifier && equal.is .equal && library.isNamed outputName && dot.is .dot && input.isNamed "input" &&
        opening.is .leftParenthesis && prompt.is .text && closing.is .rightParenthesis &&
        typeOpening.is .leftParenthesis && inputType.is .identifier && typeClosing.is .rightParenthesis then
      some (prompted name library prompt inputType)
    else none
  | _ => none

/-- `name = value` -/
def assignment? : List Token → Option Statement
  | name :: equal :: value =>
    if name.is .identifier && equal.is .equal && !value.isEmpty then some (assignment name value) else none
  | _ => none

/-- `Output.print(argument)` and `Output.println(argument)`; `print` by itself is a word of its own kind. -/
def call? : List Token → Option Statement
  | [library, dot, method, opening, argument, closing] =>
    if library.isNamed outputName && dot.is .dot && (method.is .identifier || method.is .printWord) &&
        opening.is .leftParenthesis && closing.is .rightParenthesis then
      (Method.ofName? method.literal).map fun method => call library method argument
    else none
  | _ => none

/-- `print value` -/
def print? : List Token → Option Statement
  | [word, value] => if word.is .printWord then some (print value) else none
  | _ => none

/-- The first form that fits; a statement that is not empty and fits none is unrecognized. -/
def classify (tokens : List Token) : Option Statement :=
  (declaration? tokens).or <| (prompted? tokens).or <| (assignment? tokens).or <| (call? tokens).or <|
    (print? tokens).or <| tokens.head?.map unrecognized

end Statement

end StreamScript.Run
