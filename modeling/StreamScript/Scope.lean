import StreamScript.Diagnostic
import StreamScript.Token.Basic

/-! Declaration before use, checked on the tokens alone. Only neighbouring tokens are looked at: a declaration is
`var`, a type, a name, an equals sign and something after it, and an assignment is a name and an equals sign. -/

namespace StreamScript.Scope

inductive Fault where
  | incompleteDeclaration
  | invalidDeclaration
  | alreadyDeclared (name : String)
  | undeclared (name : String)
deriving Repr, DecidableEq

namespace Fault

def message : Fault → String
  | incompleteDeclaration => "Incomplete variable declaration: expected format 'var(type) name = value'"
  | invalidDeclaration => "Invalid syntax in variable declaration"
  | alreadyDeclared name => "Variable '" ++ name ++ "' is already declared"
  | undeclared name => "Variable '" ++ name ++ "' is not declared"

def code : Fault → String
  | incompleteDeclaration => "SM001"
  | invalidDeclaration => "SM002"
  | alreadyDeclared _ => "SM003"
  | undeclared _ => "SM004"

end Fault

structure Error where
  fault : Fault
  position : Position
deriving Repr, DecidableEq

def assigns (token : Token) (rest : List Token) : Bool :=
  token.is .identifier && (rest.head?.map (·.is .equal)).getD false

/-- Checks the tokens with these names declared before them. -/
def checkFrom (declared : List String) : List Token → Except Error Unit
  | [] => .ok ()
  | token :: rest =>
    if token.is .varWord then
      match rest with
      | type :: name :: equal :: value =>
        if value.isEmpty then .error ⟨.incompleteDeclaration, token.position⟩
        else if !(type.is .identifier && name.is .identifier && equal.is .equal) then
          .error ⟨.invalidDeclaration, name.position⟩
        else if declared.contains name.literal then .error ⟨.alreadyDeclared name.literal, name.position⟩
        else checkFrom (name.literal :: declared) value
      | _ => .error ⟨.incompleteDeclaration, token.position⟩
    else if assigns token rest && !declared.contains token.literal then
      .error ⟨.undeclared token.literal, token.position⟩
    else checkFrom declared rest

def check (tokens : List Token) : Except Error Unit := checkFrom [] tokens

def diagnostic : Except Error Unit → Diagnostic
  | .ok () => ⟨.info, "Semantic analysis completed successfully", none⟩
  | .error error => ⟨.fatal, error.fault.message, some error.position⟩

end StreamScript.Scope
