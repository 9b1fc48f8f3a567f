/-! Characters and lines of a text. A set of characters is given as ascending ranges of code points; white space, the
set that is cut off at the ends of a text, is that of the Unicode standard. Every newline ends a line, so there is
always one line more than there are newlines. -/

namespace StreamScript.Text

/-- Both ends of a range belong to it. The ranges ascend, so the search stops at the first range above the code. -/
def inRanges (code : Nat) : List (Nat × Nat) → Bool
  | [] => false
  | (first, last) :: rest => if code < first then false else code ≤ last || inRanges code rest

def blanks : List (Nat × Nat) :=
  [(0x9, 0xD), (0x20, 0x20), (0x85, 0x85), (0xA0, 0xA0), (0x1680, 0x1680), (0x2000, 0x200A),
  (0x2028, 0x2029), (0x202F, 0x202F), (0x205F, 0x205F), (0x3000, 0x3000)]

def isBlank (c : Char) : Bool := inRanges c.toNat blanks

def trimLeft (text : List Char) : List Char := text.dropWhile isBlank

def trimRight (text : List Char) : List Char := (trimLeft text.reverse).reverse

def trim (text : List Char) : List Char := trimRight (trimLeft text)

def addToLines (c : Char) : List (List Char) → List (List Char)
  | [] => [[c]]
  | line :: lines => if c = '\n' then [] :: line :: lines else (c :: line) :: lines

def lines (text : List Char) : List (List Char) := text.foldr addToLines [[]]

end StreamScript.Text
