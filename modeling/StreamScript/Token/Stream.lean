import StreamScript.Token.Basic
import StreamScript.Text.Basic
import StreamScript.Text.Escape

/-! Token streams: one token on a line, `KIND('literal')` with the literal escaped. A stream is read line by line,
so what was read before a bad line can be used. White space around a line and blank lines do not matter, but
every line counts. -/

namespace StreamScript

namespace Stream

inductive Fault where
  | unknownKind (name : String)
  | malformedLine (text : String)
deriving Repr, DecidableEq

namespace Fault

def message : Fault → String
  | unknownKind name => "Unknown token kind '" ++ name ++ "'"
  | malformedLine text => "Malformed token line '" ++ text ++ "'"

end Fault

/-- A line that holds no token. -/
structure Error where
  fault : Fault
  line : Nat
deriving Repr, DecidableEq

/-- What one line of a stream yields. -/
abbrev Item := Except Error Token

def encodeToken (token : Token) : String := token.kind.name ++ "('" ++ Text.escape token.literal ++ "')"

def encode (tokens : List Token) : String :=
  String.join (tokens.map fun token => encodeToken token ++ "\n")

/-- The texts before and after the first opening of a payload. -/
def splitOpening : List Char → Option (List Char × List Char)
  | [] => none
  | '(' :: '\'' :: rest => some ([], rest)
  | c :: rest => (splitOpening rest).map fun (before, after) => (c :: before, after)

/-- The text without the closing of a payload at its end. -/
def dropClosing (text : List Char) : Option (List Char) :=
  match text.reverse with
  | ')' :: '\'' :: rest => some rest.reverse
  | _ => none

/-- The text without a quote at either end; one quote is not two. -/
def dropQuotes : List Char → List Char
  | '"' :: rest =>
    match rest.reverse with
    | '"' :: inner => inner.reverse
    | _ => '"' :: rest
  | text => text

/-- A string may be written with quotes around it. -/
def payloadLiteral (kind : Kind) (payload : List Char) : String :=
  String.ofList (Text.unescapeChars (if kind = .text then dropQuotes payload else payload))

def decodeLine (text : String) (line : Nat) : Item :=
  match splitOpening text.toList with
  | none => .error ⟨.malformedLine text, line⟩
  | some (name, rest) =>
    match dropClosing rest with
    | none => .error ⟨.malformedLine text, line⟩
    | some payload =>
      match Kind.ofName? (String.ofList name) with
      | none => .error ⟨.unknownKind (String.ofList name), line⟩
      | some kind => .ok ⟨kind, payloadLiteral kind payload, .ofLine line⟩

def itemsFrom (line : Nat) : List (List Char) → List Item
  | [] => []
  | text :: rest =>
    let trimmed := Text.trim text
    if trimmed = [] then itemsFrom (line + 1) rest
    else decodeLine (String.ofList trimmed) line :: itemsFrom (line + 1) rest

def items (stream : String) : List Item := itemsFrom 1 (Text.lines stream.toList)

/-- All tokens, or the first bad line. -/
def collect : List Item → Except Error (List Token)
  | [] => .ok []
  | .error error :: _ => .error error
  | .ok token :: rest => (collect rest).map (token :: ·)

def decode (stream : String) : Except Error (List Token) := collect (items stream)

end Stream

end StreamScript
