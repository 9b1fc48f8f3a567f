import StreamScript.Diagnostic
import StreamScript.Source.Lexeme
import StreamScript.Text.Escape
import StreamScript.Text.Uppercase
import StreamScript.Token.Basic

/-! From a source to its tokens. Every piece of the source yields tokens, warnings or a fault at the place where it
stands; reading can go on after a fault. -/

namespace StreamScript.Source

inductive Fault where
  | unclosedString
  | danglingEscape
  | emptyCharacter
  | unclosedCharacter
  | invalidTypeCharacter (c : Char)
  | unclosedType
deriving Repr, DecidableEq

namespace Fault

def message : Fault → String
  | unclosedString => "Unterminated string literal"
  | danglingEscape => "Unterminated escape sequence in string literal"
  | emptyCharacter => "Empty character literal"
  | unclosedCharacter => "Unterminated character literal"
  | invalidTypeCharacter c => "Invalid character '" ++ c.toString ++ "' in type declaration"
  | unclosedType => "Expected closing ')' in variable declaration"

def code : Fault → String
  | unclosedString => "LX001"
  | danglingEscape => "LX002"
  | emptyCharacter => "LX003"
  | unclosedCharacter => "LX004"
  | invalidTypeCharacter _ => "LX005"
  | unclosedType => "LX006"

end Fault

/-- A fault at the character to blame. The span is in bytes, from that character to the next unread one. -/
structure Error where
  fault : Fault
  position : Position
  start : Nat
  stop : Nat
deriving Repr, DecidableEq

inductive Event where
  | token (token : Token)
  | warning (diagnostic : Diagnostic)
  | fault (error : Error)
deriving Repr, DecidableEq

def warningAt (mark : Mark) (message : String) : Event := .warning ⟨.warning, message, some mark.position⟩

def tokenAt (mark : Mark) (kind : Kind) (literal : List Char) : Event :=
  .token ⟨kind, String.ofList literal, mark.position⟩

/-- The fault of a piece that begins at `mark`, blamed on the character behind `before`. -/
def faultIn (mark : Mark) (fault : Fault) (before raw : List Char) : Event :=
  .fault ⟨fault, (mark.past before).position, (mark.past before).offset, (mark.past raw).offset⟩

namespace BodyPart

def literal : BodyPart → List Char
  | plain c => [c]
  | pair c =>
    match Text.unescapeChar c with
    | some meaning => [meaning]
    | none => ['\\', c]

/-- A pair without a meaning is reported at its second character. -/
def warnings (mark : Mark) : BodyPart → List Event
  | plain _ => []
  | pair c =>
    match Text.unescapeChar c with
    | some _ => []
    | none =>
      [warningAt (mark.after '\\') ("Unknown escape sequence \\" ++ c.toString ++ " in string literal")]

end BodyPart

def bodyLiteral (body : List BodyPart) : List Char := body.flatMap BodyPart.literal

def bodyWarnings (mark : Mark) : List BodyPart → List Event
  | [] => []
  | part :: rest => part.warnings mark ++ bodyWarnings (mark.past part.raw) rest

/-- The upper-cased name of the type, as a token of its own. -/
def TypeName.events (mark : Mark) : TypeName → List Event
  | absent => []
  | enclosed letters => [tokenAt (mark.after '(') .identifier (Text.upper letters)]
  | word name => [tokenAt mark .identifier (Text.upper name)]

def numberKind : Option (List Char) → Kind
  | none => .number
  | some _ => .floating

namespace Lexeme

/-- What a piece that begins at `mark` yields, in order. -/
def events (mark : Mark) : Lexeme → List Event
  | blank _ => []
  | stray c => [warningAt mark ("Unknown character: '" ++ c.toString ++ "'")]
  | symbol kind c => [tokenAt mark kind [c]]
  | number whole fraction => [tokenAt mark (numberKind fraction) (whole ++ fractionRaw fraction)]
  | word name => [tokenAt mark (.ofWord (String.ofList name)) name]
  | character c => [tokenAt mark .character [c]]
  | text body => bodyWarnings (mark.after '"') body ++ [tokenAt mark .text (bodyLiteral body)]
  | library _ name => [tokenAt mark .usingWord (if name = [] then usingText else name)]
  | declaration gap typeName => tokenAt mark .varWord varText :: typeName.events (mark.past (varText ++ gap))
  | openText body dangling =>
    bodyWarnings (mark.after '"') body ++
      [faultIn mark (if dangling then .danglingEscape else .unclosedString) [] (openText body dangling).raw]
  | emptyCharacter closed => [faultIn mark .emptyCharacter [] (emptyCharacter closed).raw]
  | openCharacter c next => [faultIn mark .unclosedCharacter [] (openCharacter c next).raw]
  | openType gap letters =>
    [faultIn mark .unclosedType (varText ++ gap) (openType gap letters).raw]
  | badType gap letters bad =>
    [faultIn mark (.invalidTypeCharacter bad) (varText ++ gap ++ '(' :: letters) (badType gap letters bad).raw]

end Lexeme

/-- The events of pieces that stand one after the other from `mark` on. -/
def scan (mark : Mark) : List Lexeme → List Event
  | [] => []
  | lexeme :: rest => lexeme.events mark ++ scan (mark.past lexeme.raw) rest

def events (source : String) : List Event := scan .start (lexemes source.toList)

def endToken (source : String) : Token := ⟨.endOfFile, "", (Mark.start.past source.toList).position⟩

/-- The tokens of a source, or the first fault; the warnings before it come with either. -/
structure Lexing where
  warnings : List Diagnostic
  result : Except Error (List Token)

/-- The last token ends the list if no fault does. -/
def gather (last : Token) : List Event → Lexing
  | [] => ⟨[], .ok [last]⟩
  | .token token :: rest =>
    let lexing := gather last rest
    { lexing with result := lexing.result.map (token :: ·) }
  | .warning diagnostic :: rest =>
    let lexing := gather last rest
    { lexing with warnings := diagnostic :: lexing.warnings }
  | .fault error :: _ => ⟨[], .error error⟩

def tokenize (source : String) : Lexing := gather (endToken source) (events source)

/-- A reader that hands out one token or fault at a time, and the end of the source from then on. -/
structure Scanner where
  unread : List Event
  last : Token

/-- One answer of a reader, with the warnings that it met on the way. -/
structure Reading where
  warnings : List Diagnostic
  result : Except Error Token

namespace Scanner

def ofSource (source : String) : Scanner := ⟨events source, endToken source⟩

def nextOf (last : Token) : List Event → Reading × List Event
  | [] => (⟨[], .ok last⟩, [])
  | .token token :: rest => (⟨[], .ok token⟩, rest)
  | .fault error :: rest => (⟨[], .error error⟩, rest)
  | .warning diagnostic :: rest =>
    let (reading, unread) := nextOf last rest
    ({ reading with warnings := diagnostic :: reading.warnings }, unread)

def next (scanner : Scanner) : Reading × Scanner :=
  let (reading, unread) := nextOf scanner.last scanner.unread
  (reading, { scanner with unread })

def readings (scanner : Scanner) : Nat → List Reading
  | 0 => []
  | count + 1 => scanner.next.1 :: scanner.next.2.readings count

/-- Calls that are answered before the end of the source is. -/
def remaining (scanner : Scanner) : Nat :=
  scanner.unread.countP fun
    | .warning _ => false
    | _ => true

end Scanner

end StreamScript.Source
