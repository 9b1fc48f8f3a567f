import StreamScript.Position

/-! Tokens: a kind, the text that was read, and its place. A kind has a name in token streams and a label in detailed
listings. -/

namespace StreamScript

inductive Kind where
  | varWord
  | printWord
  | ifWord
  | elseWord
  | elseIfWord
  | forWord
  | whileWord
  | plus
  | minus
  | star
  | slash
  | percent
  | equal
  | semicolon
  | dot
  | leftParenthesis
  | rightParenthesis
  | usingWord
  | identifier
  | number
  | floating
  | boolean
  | character
  | text
  | endOfFile
deriving Repr, DecidableEq

namespace Kind

def all : List Kind :=
  [varWord, printWord, ifWord, elseWord, elseIfWord, forWord, whileWord, plus, minus, star, slash, percent, equal,
  semicolon, dot, leftParenthesis, rightParenthesis, usingWord, identifier, number, floating, boolean, character,
  text, endOfFile]

def name : Kind → String
  | varWord => "VAR"
  | printWord => "PRINT"
  | ifWord => "IF"
  | elseWord => "ELSE"
  | elseIfWord => "ELSEIF"
  | forWord => "FOR"
  | whileWord => "WHILE"
  | plus => "PLUS"
  | minus => "MINUS"
  | star => "STAR"
  | slash => "SLASH"
  | percent => "PERCENT"
  | equal => "EQUAL"
  | semicolon => "SEMICOLON"
  | dot => "DOT"
  | leftParenthesis => "LPAREN"
  | rightParenthesis => "RPAREN"
  | usingWord => "USING"
  | identifier => "IDENTIFIER"
  | number => "NUMBER"
  | floating => "FLOAT"
  | boolean => "BOOLEAN"
  | character => "CHAR"
  | text => "STRING"
  | endOfFile => "EOF"

def label : Kind → String
  | varWord => "KeywordVar"
  | printWord => "KeywordPrint"
  | ifWord => "KeywordIf"
  | elseWord => "KeywordElse"
  | elseIfWord => "KeywordElseIf"
  | forWord => "KeywordFor"
  | whileWord => "KeywordWhile"
  | plus => "Plus"
  | minus => "Minus"
  | star => "Star"
  | slash => "Slash"
  | percent => "Percent"
  | equal => "Equal"
  | semicolon => "Semicolon"
  | dot => "Dot"
  | leftParenthesis => "LeftParenthesis"
  | rightParenthesis => "RightParenthesis"
  | usingWord => "Using"
  | identifier => "Ident"
  | number => "NumericLiteral"
  | floating => "FloatLiteral"
  | boolean => "Boolean"
  | character => "CharLiteral"
  | text => "StringLiteral"
  | endOfFile => "Eof"

def ofName? (name : String) : Option Kind := all.find? (·.name = name)

/-- Words that are a kind of their own. `using` and `var` are not among them: they take in what follows. -/
def ofWord : String → Kind
  | "true" => boolean
  | "false" => boolean
  | "print" => printWord
  | "if" => ifWord
  | "else" => elseWord
  | "elseif" => elseIfWord
  | "for" => forWord
  | "while" => whileWord
  | _ => identifier

/-- Punctuation, each character a token by itself. -/
def ofSymbol? : Char → Option Kind
  | '+' => some plus
  | '-' => some minus
  | '*' => some star
  | '/' => some slash
  | '%' => some percent
  | '=' => some equal
  | ';' => some semicolon
  | '.' => some dot
  | '(' => some leftParenthesis
  | ')' => some rightParenthesis
  | _ => none

end Kind

structure Token where
  kind : Kind
  literal : String
  position : Position
deriving Repr, DecidableEq

namespace Token

def is (token : Token) (kind : Kind) : Bool := token.kind = kind

/-- An identifier spelled exactly so. -/
def isNamed (token : Token) (name : String) : Bool := token.kind = .identifier ∧ token.literal = name

def text (token : Token) : String :=
  token.kind.name ++ "('" ++ token.literal ++ "') at " ++ token.position.text

end Token

end StreamScript
