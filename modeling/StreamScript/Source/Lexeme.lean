import StreamScript.Text.Basic
import StreamScript.Text.Letter
import StreamScript.Token.Basic

/-! Lexemes: the pieces that a source falls into, from left to right. Every character belongs to exactly one
piece; a piece that went wrong holds the characters up to where that showed. -/

namespace StreamScript.Source

open Text (isBlank isLetter isNumeral isDigit)

def isWordStart (c : Char) : Bool := isLetter c || c = '_'

def isWordChar (c : Char) : Bool := isLetter c || isNumeral c || c = '_'

/-- The words that take in what follows them. -/
def usingText : List Char := ['u', 's', 'i', 'n', 'g']

def varText : List Char := ['v', 'a', 'r']

/-- Part of a quoted string: one character, or a backslash and the character after it. -/
inductive BodyPart where
  | plain (c : Char)
  | pair (c : Char)
deriving Repr, DecidableEq

def BodyPart.raw : BodyPart → List Char
  | plain c => [c]
  | pair c => ['\\', c]

inductive TypeName where
  | absent
  | enclosed (letters : List Char)
  | word (name : List Char)
deriving Repr, DecidableEq

def TypeName.raw : TypeName → List Char
  | absent => []
  | enclosed letters => '(' :: (letters ++ [')'])
  | word name => name

inductive Lexeme where
  | blank (c : Char)
  | stray (c : Char)
  | symbol (kind : Kind) (c : Char)
  | number (whole : List Char) (fraction : Option (List Char))
  | word (name : List Char)
  | character (c : Char)
  | text (body : List BodyPart)
  | library (gap name : List Char)
  | declaration (gap : List Char) (typeName : TypeName)
  | openText (body : List BodyPart) (dangling : Bool)
  | emptyCharacter (closed : Bool)
  | openCharacter (c : Char) (next : Option Char)
  | openType (gap letters : List Char)
  | badType (gap letters : List Char) (bad : Char)
deriving Repr, DecidableEq

def bodyRaw (body : List BodyPart) : List Char := body.flatMap BodyPart.raw

/-- A point and the digits after it. -/
def fractionRaw : Option (List Char) → List Char
  | none => []
  | some digits => '.' :: digits

namespace Lexeme

def raw : Lexeme → List Char
  | blank c => [c]
  | stray c => [c]
  | symbol _ c => [c]
  | number whole fraction => whole ++ fractionRaw fraction
  | word name => name
  | character c => ['\'', c, '\'']
  | text body => '"' :: (bodyRaw body ++ ['"'])
  | library gap name => usingText ++ gap ++ name
  | declaration gap typeName => varText ++ gap ++ typeName.raw
  | openText body dangling => '"' :: (bodyRaw body ++ if dangling then ['\\'] else [])
  | emptyCharacter closed => '\'' :: if closed then ['\''] else []
  | openCharacter c next => '\'' :: c :: next.toList
  | openType gap letters => varText ++ gap ++ '(' :: letters
  | badType gap letters bad => varText ++ gap ++ '(' :: (letters ++ [bad])

end Lexeme

inductive Ending where
  | closed (rest : List Char)
  | unclosed (dangling : Bool)
deriving Repr, DecidableEq

def readBody : List Char → List BodyPart × Ending
  | [] => ([], .unclosed false)
  | '"' :: rest => ([], .closed rest)
  | ['\\'] => ([], .unclosed true)
  | '\\' :: c :: rest =>
    let (body, ending) := readBody rest
    (.pair c :: body, ending)
  | c :: rest =>
    let (body, ending) := readBody rest
    (.plain c :: body, ending)

/-- A string after its opening quote. -/
def readText (source : List Char) : Lexeme × List Char :=
  match readBody source with
  | (body, .closed rest) => (.text body, rest)
  | (body, .unclosed dangling) => (.openText body dangling, [])

/-- A character literal after its opening quote. -/
def readCharacter : List Char → Lexeme × List Char
  | [] => (.emptyCharacter false, [])
  | '\'' :: rest => (.emptyCharacter true, rest)
  | [c] => (.openCharacter c none, [])
  | c :: next :: rest => if next = '\'' then (.character c, rest) else (.openCharacter c (some next), rest)

/-- Digits and at most one point after the first of them. -/
def readNumber (source : List Char) : Lexeme × List Char :=
  let whole := source.takeWhile isDigit
  match source.dropWhile isDigit with
  | '.' :: rest => (.number whole (some (rest.takeWhile isDigit)), rest.dropWhile isDigit)
  | rest => (.number whole none, rest)

def startsWord : List Char → Bool
  | [] => false
  | c :: _ => isWordStart c

/-- The word at the front, or nothing. -/
def takeWord (source : List Char) : List Char × List Char :=
  if startsWord source then (source.takeWhile isWordChar, source.dropWhile isWordChar) else ([], source)

def readLibrary (source : List Char) : Lexeme × List Char :=
  let (name, rest) := takeWord (source.dropWhile isBlank)
  (.library (source.takeWhile isBlank) name, rest)

/-- A type in parentheses, after the opening one. -/
def readEnclosed (gap source : List Char) : Lexeme × List Char :=
  let letters := source.takeWhile isLetter
  match source.dropWhile isLetter with
  | [] => (.openType gap letters, [])
  | c :: rest => if c = ')' then (.declaration gap (.enclosed letters), rest) else (.badType gap letters c, rest)

def readDeclaration (source : List Char) : Lexeme × List Char :=
  let gap := source.takeWhile isBlank
  match source.dropWhile isBlank with
  | '(' :: rest => readEnclosed gap rest
  | rest =>
    match takeWord rest with
    | ([], after) => (.declaration gap .absent, after)
    | (name, after) => (.declaration gap (.word name), after)

def readWord (source : List Char) : Lexeme × List Char :=
  let name := source.takeWhile isWordChar
  let rest := source.dropWhile isWordChar
  if name = usingText then readLibrary rest
  else if name = varText then readDeclaration rest
  else (.word name, rest)

/-- The first piece of a source that is not empty, and the source after it. -/
def readLexeme (c : Char) (rest : List Char) : Lexeme × List Char :=
  match Kind.ofSymbol? c with
  | some kind => (.symbol kind c, rest)
  | none =>
    if c = '"' then readText rest
    else if c = '\'' then readCharacter rest
    else if isBlank c then (.blank c, rest)
    else if isDigit c then readNumber (c :: rest)
    else if isWordStart c then readWord (c :: rest)
    else (.stray c, rest)

theorem readBody_raw (source : List Char) :
    bodyRaw (readBody source).1 ++ (match (readBody source).2 with
      | .closed rest => '"' :: rest
      | .unclosed dangling => if dangling then ['\\'] else []) = source := by
  fun_induction readBody source <;> simp_all [bodyRaw, BodyPart.raw]

theorem readText_raw (source : List Char) : (readText source).1.raw ++ (readText source).2 = '"' :: source := by
  have body := readBody_raw source
  unfold readText
  split <;> simp_all [Lexeme.raw]

theorem readCharacter_raw (source : List Char) :
    (readCharacter source).1.raw ++ (readCharacter source).2 = '\'' :: source := by
  fun_cases readCharacter source <;> simp_all [Lexeme.raw]

theorem readNumber_raw (source : List Char) : (readNumber source).1.raw ++ (readNumber source).2 = source := by
  have parts := List.takeWhile_append_dropWhile (p := isDigit) (l := source)
  unfold readNumber
  split <;> simp_all [Lexeme.raw, fractionRaw]

theorem takeWord_raw (source : List Char) : (takeWord source).1 ++ (takeWord source).2 = source := by
  unfold takeWord
  split <;> simp

theorem readLibrary_raw (source : List Char) :
    (readLibrary source).1.raw ++ (readLibrary source).2 = usingText ++ source := by
  simp [readLibrary, Lexeme.raw, takeWord_raw]

theorem readEnclosed_raw (gap source : List Char) :
    (readEnclosed gap source).1.raw ++ (readEnclosed gap source).2 = varText ++ gap ++ '(' :: source := by
  have parts := List.takeWhile_append_dropWhile (p := isLetter) (l := source)
  unfold readEnclosed
  split
  · simp_all [Lexeme.raw]
  · split <;> simp_all [Lexeme.raw, TypeName.raw]

theorem readDeclaration_raw (source : List Char) :
    (readDeclaration source).1.raw ++ (readDeclaration source).2 = varText ++ source := by
  have parts := List.takeWhile_append_dropWhile (p := isBlank) (l := source)
  unfold readDeclaration
  split
  · simp_all [readEnclosed_raw]
  · have words := takeWord_raw (source.dropWhile isBlank)
    split <;> simp_all [Lexeme.raw, TypeName.raw]

theorem readWord_raw (source : List Char) : (readWord source).1.raw ++ (readWord source).2 = source := by
  have parts := List.takeWhile_append_dropWhile (p := isWordChar) (l := source)
  simp only [readWord]
  split
  · next same => rw [readLibrary_raw, ← same, parts]
  · split
    · next same => rw [readDeclaration_raw, ← same, parts]
    · simp [Lexeme.raw]

/-- Reading loses nothing. -/
theorem readLexeme_raw (c : Char) (rest : List Char) :
    (readLexeme c rest).1.raw ++ (readLexeme c rest).2 = c :: rest := by
  unfold readLexeme
  split
  · simp [Lexeme.raw]
  · split
    · next same => rw [readText_raw, same]
    · split
      · next same => rw [readCharacter_raw, same]
      · split
        · simp [Lexeme.raw]
        · split
          · exact readNumber_raw _
          · split
            · exact readWord_raw _
            · simp [Lexeme.raw]

theorem readNumber_raw_ne_nil {c : Char} (rest : List Char) (digit : isDigit c = true) :
    (readNumber (c :: rest)).1.raw ≠ [] := by
  simp only [readNumber, List.takeWhile_cons, digit]
  split <;> simp [Lexeme.raw]

theorem isWordChar_of_isWordStart {c : Char} (start : isWordStart c = true) : isWordChar c = true := by
  simp only [isWordStart, isWordChar, Bool.or_eq_true] at *
  exact start.imp_left Or.inl

theorem readEnclosed_raw_ne_nil (gap source : List Char) : (readEnclosed gap source).1.raw ≠ [] := by
  unfold readEnclosed
  split
  · simp [Lexeme.raw]
  · split <;> simp [Lexeme.raw, varText]

theorem readWord_raw_ne_nil {c : Char} (rest : List Char) (start : isWordStart c = true) :
    (readWord (c :: rest)).1.raw ≠ [] := by
  have char := isWordChar_of_isWordStart start
  simp only [readWord]
  split
  · simp [readLibrary, Lexeme.raw, usingText]
  · split
    · unfold readDeclaration
      split
      · exact readEnclosed_raw_ne_nil _ _
      · split <;> simp [Lexeme.raw, varText]
    · simp [Lexeme.raw, char]

/-- Reading takes at least one character. -/
theorem readLexeme_raw_ne_nil (c : Char) (rest : List Char) : (readLexeme c rest).1.raw ≠ [] := by
  unfold readLexeme
  split
  · simp [Lexeme.raw]
  · split
    · unfold readText
      split <;> simp [Lexeme.raw]
    · split
      · fun_cases readCharacter rest <;> simp_all [Lexeme.raw]
      · split
        · simp [Lexeme.raw]
        · split
          · next digit => exact readNumber_raw_ne_nil rest digit
          · split
            · next start => exact readWord_raw_ne_nil rest start
            · simp [Lexeme.raw]

theorem readLexeme_rest_length (c : Char) (rest : List Char) : (readLexeme c rest).2.length ≤ rest.length := by
  have whole := congrArg List.length (readLexeme_raw c rest)
  have taken := List.length_pos_iff.mpr (readLexeme_raw_ne_nil c rest)
  simp only [List.length_append, List.length_cons] at whole
  omega

def lexemes : List Char → List Lexeme
  | [] => []
  | c :: rest => (readLexeme c rest).1 :: lexemes (readLexeme c rest).2
termination_by source => source.length
decreasing_by
  have shorter := readLexeme_rest_length c rest
  simp only [List.length_cons]
  omega

end StreamScript.Source
