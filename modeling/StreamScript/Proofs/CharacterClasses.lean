import StreamScript.Proofs.Spellings
import StreamScript.Source.Lexeme

/-! The classes of characters that a source is read by. What a piece begins with tells its sort, because
punctuation, quotes, white space, digits and the beginnings of words have nothing in common. -/

namespace StreamScript

namespace Text

theorem inRanges_below {code first last : Nat} {rest : List (Nat × Nat)} (below : code < first) :
    inRanges code ((first, last) :: rest) = false :=
  if_pos below

theorem exists_of_inRanges {code : Nat} {ranges : List (Nat × Nat)} (inside : inRanges code ranges = true) :
    ∃ range ∈ ranges, range.1 ≤ code ∧ code ≤ range.2 := by
  induction ranges with
  | nil => cases inside
  | cons range rest ih =>
    obtain ⟨first, last⟩ := range
    unfold inRanges at inside
    split at inside
    · cases inside
    · rcases Bool.or_eq_true_iff.mp inside with here | later
      · exact ⟨(first, last), List.mem_cons_self .., by omega, of_decide_eq_true here⟩
      · obtain ⟨range, member, bounds⟩ := ih later
        exact ⟨range, List.mem_cons_of_mem _ member, bounds⟩

/-- The codes of white space, one by one. -/
def blankCodes : List Nat := blanks.flatMap fun range => List.range' range.1 (range.2 + 1 - range.1)

theorem mem_blankCodes {c : Char} (blank : isBlank c = true) : c.toNat ∈ blankCodes := by
  obtain ⟨range, member, low, high⟩ := exists_of_inRanges blank
  refine List.mem_flatMap.mpr ⟨range, member, List.mem_range'_1.mpr ⟨low, ?_⟩⟩
  omega

theorem isDigit_iff {c : Char} : isDigit c = true ↔ 0x30 ≤ c.toNat ∧ c.toNat ≤ 0x39 := by
  simp [isDigit]

theorem isLetter_of_isDigit {c : Char} (digit : isDigit c = true) : isLetter c = false := by
  have range := isDigit_iff.mp digit
  exact inRanges_below (by omega)

theorem isNumeral_of_isDigit {c : Char} (digit : isDigit c = true) : isNumeral c = true := by
  obtain ⟨low, high⟩ := isDigit_iff.mp digit
  rw [isNumeral, numerals, inRanges, if_neg (by omega), decide_eq_true high]
  rfl

end Text

namespace Source

open Text (isBlank isLetter isNumeral isDigit)

theorem isWordChar_of_isBlank {c : Char} (blank : isBlank c = true) : isWordChar c = false := by
  have outside : ∀ code ∈ Text.blankCodes,
      Text.inRanges code Text.letters = false ∧ Text.inRanges code Text.numerals = false ∧ code ≠ '_'.toNat := by
    decide +kernel
  obtain ⟨letter, numeral, underscore⟩ := outside _ (Text.mem_blankCodes blank)
  have different : c ≠ '_' := by
    rintro rfl
    exact underscore rfl
  simp [isWordChar, isLetter, isNumeral, letter, numeral, different]

theorem isBlank_of_isWordChar {c : Char} (char : isWordChar c = true) : isBlank c = false := by
  rw [← Bool.not_eq_true]
  intro blank
  exact absurd char (by simp [isWordChar_of_isBlank blank])

theorem isWordStart_of_isDigit {c : Char} (digit : isDigit c = true) : isWordStart c = false := by
  have different : c ≠ '_' := by
    rintro rfl
    exact absurd digit (by decide)
  simp [isWordStart, Text.isLetter_of_isDigit digit, different]

theorem isWordChar_of_isDigit {c : Char} (digit : isDigit c = true) : isWordChar c = true := by
  simp [isWordChar, Text.isNumeral_of_isDigit digit]

/-- Punctuation and quotes are neither white space nor part of a word. -/
theorem no_mark {c : Char} (ordinary : (isBlank c || isWordChar c) = true) :
    Kind.ofSymbol? c = none ∧ c ≠ '"' ∧ c ≠ '\'' := by
  refine ⟨?_, ?_, ?_⟩
  · fun_cases Kind.ofSymbol? c with
    | case11 => rfl
    | _ => exact absurd ordinary (by decide +kernel)
  · rintro rfl
    exact absurd ordinary (by decide +kernel)
  · rintro rfl
    exact absurd ordinary (by decide +kernel)

/-- A character that begins no token and is no white space. -/
def StartsNothing (c : Char) : Prop :=
  c ∉ symbols.map Prod.snd ∧ c ≠ '"' ∧ c ≠ '\'' ∧ isBlank c = false ∧ isDigit c = false ∧ isWordStart c = false

variable {c : Char} (rest : List Char)

theorem readLexeme_symbol {kind : Kind} (symbol : (kind, c) ∈ symbols) :
    readLexeme c rest = (.symbol kind c, rest) := by
  simp only [readLexeme, ofSymbol?_eq_some_iff.mpr symbol]

theorem readLexeme_blank (blank : isBlank c = true) : readLexeme c rest = (.blank c, rest) := by
  obtain ⟨symbol, quote, apostrophe⟩ := no_mark (c := c) (by simp [blank])
  simp [readLexeme, symbol, quote, apostrophe, blank]

theorem readLexeme_digit (digit : isDigit c = true) : readLexeme c rest = readNumber (c :: rest) := by
  have char := isWordChar_of_isDigit digit
  obtain ⟨symbol, quote, apostrophe⟩ := no_mark (c := c) (by simp [char])
  simp [readLexeme, symbol, quote, apostrophe, isBlank_of_isWordChar char, digit]

theorem readLexeme_wordStart (start : isWordStart c = true) : readLexeme c rest = readWord (c :: rest) := by
  have char := isWordChar_of_isWordStart start
  obtain ⟨symbol, quote, apostrophe⟩ := no_mark (c := c) (by simp [char])
  have digit : isDigit c = false := by
    rw [← Bool.not_eq_true]
    intro digit
    exact absurd start (by simp [isWordStart_of_isDigit digit])
  simp [readLexeme, symbol, quote, apostrophe, isBlank_of_isWordChar char, digit, start]

theorem readLexeme_stray (nothing : StartsNothing c) : readLexeme c rest = (.stray c, rest) := by
  obtain ⟨symbol, quote, apostrophe, blank, digit, start⟩ := nothing
  simp [readLexeme, ofSymbol?_eq_none_iff.mpr symbol, quote, apostrophe, blank, digit, start]

end Source

end StreamScript
