/-! Texts on one line. Five characters are written as a backslash and a letter, so an escaped text holds no
line break, tab or lone quote. Reading keeps every pair that it does not know. -/

namespace StreamScript.Text

def escapeChar : Char → List Char
  | '\\' => ['\\', '\\']
  | '\n' => ['\\', 'n']
  | '\r' => ['\\', 'r']
  | '\t' => ['\\', 't']
  | '"' => ['\\', '"']
  | c => [c]

/-- What a backslash and this character stand for. -/
def unescapeChar : Char → Option Char
  | '\\' => some '\\'
  | 'n' => some '\n'
  | 'r' => some '\r'
  | 't' => some '\t'
  | '"' => some '"'
  | _ => none

def escapeChars (text : List Char) : List Char := text.flatMap escapeChar

/-- A pair that stands for nothing, or a backslash at the end, is kept. -/
def unescapeChars : List Char → List Char
  | [] => []
  | '\\' :: c :: rest =>
    match unescapeChar c with
    | some meaning => meaning :: unescapeChars rest
    | none => '\\' :: c :: unescapeChars rest
  | c :: rest => c :: unescapeChars rest

def escape (text : String) : String := String.ofList (escapeChars text.toList)

def unescape (text : String) : String := String.ofList (unescapeChars text.toList)

end StreamScript.Text
