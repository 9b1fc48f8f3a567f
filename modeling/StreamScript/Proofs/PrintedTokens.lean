import StreamScript.Proofs.LexedTokens

/-! Tokens written out again. A text of tokens with single spaces between them is read as these tokens, and nothing
in it is warned about: every token is one piece, and a space ends it. -/

namespace StreamScript.Source

open Text (isBlank isDigit)

def reservedWords : List String := ["using", "var"] ++ keywords.map Prod.snd

/-- A token that can be written out, or the two tokens of a declaration. -/
inductive Item where
  | symbol (kind : Kind) (c : Char) (spelled : (kind, c) ∈ symbols)
  | keyword (kind : Kind) (name : String) (spelled : (kind, name) ∈ keywords)
  | identifier (name : String) (word : IsWord name.toList) (free : name ∉ reservedWords)
  | number (digits : String) (nonempty : digits.toList ≠ []) (only : ∀ c ∈ digits.toList, isDigit c = true)
  | floating (whole fraction : String) (nonempty : whole.toList ≠ []) (only : ∀ c ∈ whole.toList, isDigit c = true)
      (onlyBehind : ∀ c ∈ fraction.toList, isDigit c = true)
  | character (c : Char) (other : c ≠ '\'')
  | text (content : String)
  | library (name : String) (word : IsWord name.toList)
  | declaration (type : String) (word : IsWord type.toList) (upper : Text.upper type.toList = type.toList)

namespace Item

def forms : Item → List (Kind × String)
  | symbol kind c _ => [(kind, c.toString)]
  | keyword kind name _ => [(kind, name)]
  | identifier name .. => [(.identifier, name)]
  | number digits .. => [(.number, digits)]
  | floating whole fraction .. => [(.floating, whole ++ "." ++ fraction)]
  | character c _ => [(.character, c.toString)]
  | text content => [(.text, content)]
  | library name _ => [(.usingWord, name)]
  | declaration type .. => [(.varWord, "var"), (.identifier, type)]

def print : Item → String
  | symbol _ c _ => c.toString
  | keyword _ name _ => name
  | identifier name .. => name
  | number digits .. => digits
  | floating whole fraction .. => whole ++ "." ++ fraction
  | character c _ => "'" ++ c.toString ++ "'"
  | text content => "\"" ++ Text.escape content ++ "\""
  | library name _ => "using " ++ name
  | declaration type .. => "var " ++ type

def printAll (items : List Item) : String := " ".intercalate (items.map print)

end Item

/-- Nothing follows, or a space. -/
def Spaced (rest : List Char) : Prop := ∀ c ∈ rest.head?, c = ' '

theorem Spaced.stops {rest : List Char} (spaced : Spaced rest) {inClass : Char → Bool} (outside : inClass ' ' = false) :
    Stops inClass rest := by
  intro c first
  rwa [spaced c first]

theorem Spaced.head?_ne {rest : List Char} (spaced : Spaced rest) {c : Char} (different : c ≠ ' ') :
    rest.head? ≠ some c :=
  fun first => different (spaced c first)

/-- A piece of a source that says what the item says and ends before a space. -/
structure Item.Piece (item : Item) (lexeme : Lexeme) : Prop where
  formed : lexeme.WellFormed
  maximal : ∀ rest, Spaced rest → lexeme.Maximal rest
  raw : lexeme.raw = item.print.toList
  forms : lexeme.forms = item.forms
  notices : lexeme.notices = []

theorem word_of_mem_keywords : ∀ entry ∈ keywords,
    IsWord entry.2.toList ∧ entry.2.toList ≠ usingText ∧ entry.2.toList ≠ varText := by
  decide +kernel

theorem wordKind_of_not_reserved {name : String} (free : name ∉ reservedWords) :
    wordKind name = .identifier ∧ name.toList ≠ usingText ∧ name.toList ≠ varText := by
  refine ⟨?_, ?_, ?_⟩
  · exact wordKind_of_notMem fun listed => free (List.mem_append_right _ listed)
  · intro same
    obtain rfl : name = "using" := String.toList_inj.mp same
    exact absurd free (by decide)
  · intro same
    obtain rfl : name = "var" := String.toList_inj.mp same
    exact absurd free (by decide)

/-- The form of a character in a string is a part that reading knows. -/
theorem exists_bodyPart (c : Char) :
    ∃ part : BodyPart, part.WellFormed ∧ part.raw = Text.escapeChar c ∧ part.notice? = none := by
  fun_cases Text.escapeChar c with
  | case1 => exact ⟨.pair '\\', trivial, rfl, rfl⟩
  | case2 => exact ⟨.pair 'n', trivial, rfl, rfl⟩
  | case3 => exact ⟨.pair 'r', trivial, rfl, rfl⟩
  | case4 => exact ⟨.pair 't', trivial, rfl, rfl⟩
  | case5 => exact ⟨.pair '"', trivial, rfl, rfl⟩
  | case6 c backslash _ _ _ quote => exact ⟨.plain c, ⟨quote, backslash⟩, rfl, rfl⟩

theorem exists_body (text : List Char) :
    ∃ body : List BodyPart, (∀ part ∈ body, part.WellFormed) ∧ bodyRaw body = Text.escapeChars text ∧
      body.filterMap BodyPart.notice? = [] := by
  induction text with
  | nil => exact ⟨[], by simp, rfl, rfl⟩
  | cons c rest ih =>
    obtain ⟨part, formed, raw, quiet⟩ := exists_bodyPart c
    obtain ⟨body, formedBody, rawBody, quietBody⟩ := ih
    refine ⟨part :: body, ?_, ?_, ?_⟩
    · exact List.forall_mem_cons.mpr ⟨formed, formedBody⟩
    · simp only [bodyRaw, Text.escapeChars, List.flatMap_cons] at rawBody ⊢
      rw [raw, rawBody]
    · rw [List.filterMap_cons_none quiet, quietBody]

/-- Every item is written as one piece. -/
theorem Item.exists_piece (item : Item) : ∃ lexeme, item.Piece lexeme := by
  have gap : ∀ c ∈ [' '], isBlank c = true := List.forall_mem_singleton.mpr (by decide)
  have stops {rest : List Char} (spaced : Spaced rest) : Stops isWordChar rest := spaced.stops (by decide +kernel)
  have ends {rest : List Char} (spaced : Spaced rest) : Stops isDigit rest := spaced.stops (by decide)
  cases item with
  | symbol kind c spelled =>
    refine ⟨.symbol kind c, spelled, fun _ _ => trivial, ?_, rfl, rfl⟩
    simp [Lexeme.raw, print]
  | keyword kind name spelled =>
    obtain ⟨word, notUsing, notVar⟩ := word_of_mem_keywords _ spelled
    refine ⟨.word name.toList, ⟨word, notUsing, notVar⟩, fun _ => stops, rfl, ?_, rfl⟩
    simp only [Lexeme.forms, forms, String.ofList_toList, wordKind_of_mem spelled]
  | identifier name word free =>
    obtain ⟨kindOf, notUsing, notVar⟩ := wordKind_of_not_reserved free
    refine ⟨.word name.toList, ⟨word, notUsing, notVar⟩, fun _ => stops, rfl, ?_, rfl⟩
    simp only [Lexeme.forms, forms, String.ofList_toList, kindOf]
  | number digits nonempty only =>
    refine ⟨.number digits.toList none, ⟨nonempty, only, by simp⟩, ?_, ?_, ?_, rfl⟩
    · exact fun rest spaced => ⟨ends spaced, spaced.head?_ne (by decide)⟩
    · simp [Lexeme.raw, fractionRaw, print]
    · simp only [Lexeme.forms, forms, String.ofList_toList]
  | floating whole fraction nonempty only onlyBehind =>
    refine ⟨.number whole.toList (some fraction.toList), ⟨nonempty, only, ?_⟩, fun _ => ends, ?_, ?_, rfl⟩
    · rintro _ ⟨⟩
      exact onlyBehind
    · simp [Lexeme.raw, fractionRaw, print]
    · simp [Lexeme.forms, forms, ← String.toList_inj]
  | character c other =>
    refine ⟨.character c, other, fun _ _ => trivial, ?_, rfl, rfl⟩
    simp [Lexeme.raw, print]
  | text content =>
    obtain ⟨body, formed, raw, quiet⟩ := exists_body content.toList
    refine ⟨.text body, formed, fun _ _ => trivial, ?_, ?_, quiet⟩
    · simp [Lexeme.raw, print, Text.escape, raw]
    · simp [Lexeme.forms, forms, Text.unescape, raw, Text.unescapeChars_escapeChars]
  | library name word =>
    obtain ⟨c, later, same, _⟩ := word.exists_cons
    refine ⟨.library [' '] name.toList, ⟨gap, .inr ⟨List.cons_ne_nil _ _, word⟩⟩, ?_, ?_, ?_, rfl⟩
    · rw [same]
      exact fun _ => stops
    · simp [Lexeme.raw, usingText, print]
    · simp [same, Lexeme.forms, forms, ← String.toList_inj]
  | declaration type word upper =>
    refine ⟨.declaration [' '] (.word type.toList), ⟨gap, List.cons_ne_nil _ _, word⟩, fun _ => stops, ?_, ?_, rfl⟩
    · simp [Lexeme.raw, TypeName.raw, varText, print]
    · simp only [Lexeme.forms, forms, upper, String.ofList_toList]

/-- Items with single spaces between them are pieces that fit together, with a piece for every space. -/
theorem Item.exists_segmentation (items : List Item) :
    ∃ pieces, Segmentation [] pieces ∧ pieces.flatMap Lexeme.raw = (printAll items).toList ∧
      pieces.flatMap Lexeme.forms = items.flatMap forms ∧ pieces.flatMap Lexeme.notices = [] := by
  induction items with
  | nil => exact ⟨[], .nil, rfl, rfl, rfl⟩
  | cons item rest ih =>
    obtain ⟨lexeme, piece⟩ := item.exists_piece
    obtain ⟨pieces, fitting, raw, forms, quiet⟩ := ih
    cases rest with
    | nil =>
      refine ⟨[lexeme], .cons piece.formed (piece.maximal _ (by simp [Spaced])) .nil, ?_, ?_, ?_⟩
      · simp [piece.raw, printAll]
      · simp [piece.forms]
      · simp [piece.notices]
    | cons next rest =>
      have spaced : Spaced ((Lexeme.blank ' ' :: pieces).flatMap Lexeme.raw ++ []) := by simp [Spaced, Lexeme.raw]
      have blank : isBlank ' ' = true := by decide
      refine ⟨lexeme :: .blank ' ' :: pieces,
        .cons piece.formed (piece.maximal _ spaced) (.cons blank trivial fitting), ?_, ?_, ?_⟩
      · rw [List.flatMap_cons, List.flatMap_cons, raw, piece.raw]
        simp [printAll, Lexeme.raw]
      · rw [List.flatMap_cons, List.flatMap_cons, forms, piece.forms]
        rfl
      · rw [List.flatMap_cons, List.flatMap_cons, quiet, piece.notices]
        rfl

/-- Lexing undoes printing. -/
theorem tokenize_printAll (items : List Item) :
    ∃ tokens, (tokenize (Item.printAll items)).result = .ok tokens ∧
      tokens.map Token.form = items.flatMap Item.forms ++ [(.endOfFile, "")] ∧
      (tokenize (Item.printAll items)).warnings = [] := by
  obtain ⟨pieces, fitting, raw, forms, quiet⟩ := Item.exists_segmentation items
  obtain ⟨tokens, lexed, said, noted⟩ := tokenize_of_segmentation fitting raw
  rw [forms] at said
  rw [quiet, List.map_nil] at noted
  exact ⟨tokens, lexed, said, List.map_eq_nil_iff.mp noted⟩

theorem tokenize_printAll_declaration :
    ∃ tokens, (tokenize "var INT x = \"a\\\"b\" ; using var").result = .ok tokens ∧
      tokens.map Token.form =
        [(.varWord, "var"), (.identifier, "INT"), (.identifier, "x"), (.equal, "="), (.text, "a\"b"), (.semicolon, ";"),
        (.usingWord, "var"), (.endOfFile, "")] := by
  obtain ⟨tokens, lexed, forms, _⟩ := tokenize_printAll
    [.declaration "INT" (by decide +kernel) (by decide +kernel), .identifier "x" (by decide +kernel) (by decide),
      .symbol .equal '=' (by decide), .text "a\"b", .symbol .semicolon ';' (by decide),
      .library "var" (by decide +kernel)]
  exact ⟨tokens, lexed, forms⟩

end StreamScript.Source
