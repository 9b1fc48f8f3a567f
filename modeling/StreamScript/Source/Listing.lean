import StreamScript.Source.Scan
import StreamScript.Text.Quoted
import StreamScript.Token.Stream

/-! Listings of the tokens of a source, one on a line: for people, with every field, or as a token stream holds
them. A fault is shown in the manner of the listing; a report of it names a line and a column, which it finds by
numbers of characters. -/

namespace StreamScript.Source

inductive Format where
  | detailed
  | basic
  | stream
deriving Repr, DecidableEq

namespace Format

def ofName? : String → Option Format
  | "debug" => some detailed
  | "basic" => some basic
  | "stream" => some stream
  | _ => none

end Format

/-- The name of a record and its fields between braces. -/
def record (name : String) (fields : List (String × String)) : String :=
  let shown := fields.map fun (field, value) => field ++ ": " ++ value
  name ++ " \x7b " ++ String.intercalate ", " shown ++ " \x7d"

def positionRecord (position : Position) : String :=
  record "Position" [("line", toString position.line), ("column", toString position.column)]

def tokenRecord (token : Token) : String :=
  record "Token" [("kind", token.kind.label), ("literal", Text.quoteText token.literal),
    ("position", positionRecord token.position)]

def Fault.label : Fault → String
  | unclosedString => "UnclosedString"
  | danglingEscape => "DanglingEscape"
  | emptyCharacter => "EmptyChar"
  | unclosedCharacter => "UnclosedChar"
  | invalidTypeCharacter c => "InvalidTypeCharacter(" ++ Text.quoteChar c ++ ")"
  | unclosedType => "UnclosedTypeAnnotation"

def errorRecord (error : Error) : String :=
  record "LexicalError" [("kind", error.fault.label), ("position", positionRecord error.position),
    ("span", toString error.start ++ ".." ++ toString error.stop)]

def tokenLine : Format → Token → String
  | .detailed, token => tokenRecord token
  | .basic, token => token.position.text ++ " " ++ token.kind.name ++ " " ++ Text.escape token.literal
  | .stream, token => Stream.encodeToken token

/-- Reports count lines by every line break of the Unicode standard. A carriage return with a newline is one break. -/
def breaksLine (c : Char) : Bool :=
  c = '\n' || c = '\x0b' || c = '\x0c' || c = '\r' || c = '\u0085' || c = '\u2028' || c = '\u2029'

/-- The position of the character with this number, from the position of the first one on. A break at the very end
of the text starts no line. -/
def locateFrom (position : Position) : Nat → List Char → Position
  | 0, _ => position
  | _, [] => position
  | index + 1, c :: rest =>
    let closes := breaksLine c && !(c = '\r' && rest.head? = some '\n') && !rest.isEmpty
    let next := if closes then ⟨position.line + 1, 1⟩ else ⟨position.line, position.column + 1⟩
    locateFrom next index rest

/-- The place that a report shows for the span from `start` to `stop`. The ends of a span are used as numbers of
characters, so a span that lies beyond the last one has no place. -/
def locate (text : List Char) (start stop : Nat) : Option Position :=
  if text.length < start ∨ (start < stop ∧ text.length < stop - 1) then none
  else some (locateFrom ⟨1, 1⟩ start text)

/-- A fault under its code, and the place in a file that it is shown at. -/
structure Report where
  header : String
  location : Option String
deriving Repr, DecidableEq

def reportOf (source path : String) (error : Error) : Report :=
  let size := source.utf8ByteSize
  let place := locate source.toList (min error.start size) (min error.stop size)
  ⟨"[" ++ error.fault.code ++ "] Error: " ++ error.fault.message,
    place.map fun position => s!"{path}:{position.line}:{position.column}"⟩

def basicError (error : Error) : String := "[" ++ error.position.text ++ "] Error: " ++ error.fault.message

def errorLines (source path : String) : Format → Error → List String
  | .detailed, error => [errorRecord error]
  | .basic, error => [basicError error]
  | .stream, error =>
    let report := reportOf source path error
    report.header :: (report.location.map ("--> " ++ ·)).toList

/-- The lines for the tokens up to the end of the source or the first fault. -/
structure Listing where
  lines : List String
  warnings : List Diagnostic
  failure : Option Error

def listEvents (format : Format) (last : Token) : List Event → Listing
  | [] => ⟨[tokenLine format last], [], none⟩
  | .token token :: rest =>
    let listing := listEvents format last rest
    { listing with lines := tokenLine format token :: listing.lines }
  | .warning diagnostic :: rest =>
    let listing := listEvents format last rest
    { listing with warnings := diagnostic :: listing.warnings }
  | .fault error :: _ => ⟨[], [], some error⟩

def list (format : Format) (source : String) : Listing := listEvents format (endToken source) (events source)

end StreamScript.Source
