import StreamScript.Proofs.CharacterClasses

/-! The pieces of a source, described without reading it. A source falls into pieces of the right form, each of
which the text behind it cannot make longer, in one way only. Reading finds these pieces. -/

namespace StreamScript.Source

open Text (isBlank isLetter isDigit)

/-- The text does not go on with a character of the class. -/
def Stops (inClass : Char → Bool) (text : List Char) : Prop := ∀ c ∈ text.head?, inClass c = false

def IsWord (name : List Char) : Prop := startsWord name = true ∧ ∀ c ∈ name, isWordChar c = true

instance (name : List Char) : Decidable (IsWord name) :=
  decidable_of_iff ((startsWord name && name.all isWordChar) = true) (by simp [IsWord])

theorem isWord_usingText : IsWord usingText := by decide +kernel

theorem isWord_varText : IsWord varText := by decide +kernel

/-- A backslash stands for itself only as the second character of a pair. -/
def BodyPart.WellFormed : BodyPart → Prop
  | plain c => c ≠ '"' ∧ c ≠ '\\'
  | pair _ => True

def TypeName.WellFormed (gap : List Char) : TypeName → Prop
  | absent => True
  | enclosed letters => ∀ c ∈ letters, isLetter c = true
  | word name => gap ≠ [] ∧ IsWord name

namespace Lexeme

/-- The forms of white space, of characters that begin nothing, and of the pieces that yield tokens. -/
def WellFormed : Lexeme → Prop
  | blank c => isBlank c = true
  | stray c => StartsNothing c
  | symbol kind c => (kind, c) ∈ symbols
  | number whole fraction =>
    whole ≠ [] ∧ (∀ c ∈ whole, isDigit c = true) ∧ ∀ digits ∈ fraction, ∀ c ∈ digits, isDigit c = true
  | word name => IsWord name ∧ name ≠ usingText ∧ name ≠ varText
  | character c => c ≠ '\''
  | text body => ∀ part ∈ body, part.WellFormed
  | library gap name => (∀ c ∈ gap, isBlank c = true) ∧ (name = [] ∨ gap ≠ [] ∧ IsWord name)
  | declaration gap typeName => (∀ c ∈ gap, isBlank c = true) ∧ typeName.WellFormed gap
  | openText .. => False
  | emptyCharacter _ => False
  | openCharacter .. => False
  | openType .. => False
  | badType .. => False

/-- The text behind a piece does not go on with something that belongs to it. -/
def Maximal (rest : List Char) : Lexeme → Prop
  | number _ none => Stops isDigit rest ∧ rest.head? ≠ some '.'
  | number _ (some _) => Stops isDigit rest
  | word _ => Stops isWordChar rest
  | library gap [] => Stops isBlank rest ∧ startsWord rest = false ∧ (gap = [] → Stops isWordChar rest)
  | library _ (_ :: _) => Stops isWordChar rest
  | declaration gap .absent =>
    Stops isBlank rest ∧ startsWord rest = false ∧ rest.head? ≠ some '(' ∧ (gap = [] → Stops isWordChar rest)
  | declaration _ (.word _) => Stops isWordChar rest
  | _ => True

/-- A piece that went wrong. -/
def broken : Lexeme → Bool
  | openText .. => true
  | emptyCharacter _ => true
  | openCharacter .. => true
  | openType .. => true
  | badType .. => true
  | _ => false

end Lexeme

/-- The pieces of a text that stands in front of `tail`. -/
inductive Segmentation (tail : List Char) : List Lexeme → Prop where
  | nil : Segmentation tail []
  | cons {lexeme : Lexeme} {rest : List Lexeme} (formed : lexeme.WellFormed)
      (maximal : lexeme.Maximal (rest.flatMap Lexeme.raw ++ tail)) (later : Segmentation tail rest) :
      Segmentation tail (lexeme :: rest)

section Classes

variable {inClass : Char → Bool} {body rest : List Char}

theorem stops_cons {c : Char} (outside : inClass c = false) (text : List Char) : Stops inClass (c :: text) := by
  intro first same
  cases same
  exact outside

theorem stops_dropWhile (text : List Char) : Stops inClass (text.dropWhile inClass) := by
  intro c first
  have outside := List.head?_dropWhile_not inClass text
  rw [Option.mem_def.mp first] at outside
  exact outside

theorem mem_takeWhile {text : List Char} {c : Char} (member : c ∈ text.takeWhile inClass) : inClass c = true :=
  List.all_eq_true.mp List.all_takeWhile c member

theorem takeWhile_append (inside : ∀ c ∈ body, inClass c = true) (stops : Stops inClass rest) :
    (body ++ rest).takeWhile inClass = body := by
  rw [List.takeWhile_append_of_pos inside]
  cases rest with
  | nil => simp
  | cons c rest => simp [stops c rfl]

theorem dropWhile_append (inside : ∀ c ∈ body, inClass c = true) (stops : Stops inClass rest) :
    (body ++ rest).dropWhile inClass = rest := by
  rw [List.dropWhile_append_of_pos inside]
  cases rest with
  | nil => rfl
  | cons c rest => simp [stops c rfl]

end Classes

namespace IsWord

variable {name : List Char} (word : IsWord name) (rest : List Char)

include word

theorem exists_cons : ∃ c later, name = c :: later ∧ isWordStart c = true := by
  cases name with
  | nil => cases word.1
  | cons c later => exact ⟨c, later, rfl, word.1⟩

theorem startsWord_append : startsWord (name ++ rest) = true := by
  obtain ⟨c, later, rfl, start⟩ := word.exists_cons
  exact start

theorem stops_blank : Stops isBlank (name ++ rest) := by
  obtain ⟨c, later, rfl, start⟩ := word.exists_cons
  exact stops_cons (isBlank_of_isWordChar (isWordChar_of_isWordStart start)) _

theorem head?_append_ne_parenthesis : (name ++ rest).head? ≠ some '(' := by
  obtain ⟨c, later, rfl, start⟩ := word.exists_cons
  intro same
  cases same
  exact absurd start (by decide)

end IsWord

/-! Every reader finds the piece that stands in front of it. -/

section Completeness

variable {rest : List Char}

theorem readBody_append {body : List BodyPart} (formed : ∀ part ∈ body, part.WellFormed) (rest : List Char) :
    readBody (bodyRaw body ++ '"' :: rest) = (body, .closed rest) := by
  induction body with
  | nil => rfl
  | cons part body ih =>
    have later := ih fun other member => formed other (List.mem_cons_of_mem part member)
    have first := formed part (List.mem_cons_self ..)
    cases part with
    | pair c =>
      change readBody ('\\' :: c :: (bodyRaw body ++ '"' :: rest)) = _
      simp [readBody, later]
    | plain c =>
      change readBody (c :: (bodyRaw body ++ '"' :: rest)) = _
      obtain ⟨quote, backslash⟩ := first
      rw [readBody, later]
      · exact quote
      · exact fun same _ => backslash same
      · exact fun _ _ same _ => backslash same

theorem readCharacter_append {c : Char} (other : c ≠ '\'') (rest : List Char) :
    readCharacter (c :: '\'' :: rest) = (.character c, rest) := by
  simp [readCharacter]

theorem readNumber_append {whole : List Char} {fraction : Option (List Char)}
    (formed : (Lexeme.number whole fraction).WellFormed) (maximal : (Lexeme.number whole fraction).Maximal rest) :
    readNumber (whole ++ fractionRaw fraction ++ rest) = (.number whole fraction, rest) := by
  obtain ⟨_, digits, fractionDigits⟩ := formed
  cases fraction with
  | none =>
    obtain ⟨stops, point⟩ := maximal
    simp only [readNumber, fractionRaw, List.append_nil, takeWhile_append digits stops, dropWhile_append digits stops]
    split
    next later => exact absurd rfl point
    · rfl
  | some later =>
    have stops : Stops isDigit ('.' :: (later ++ rest)) := stops_cons (by decide) _
    have inside := fractionDigits later rfl
    simp only [readNumber, fractionRaw, List.append_assoc, List.cons_append, takeWhile_append digits stops,
      dropWhile_append digits stops, takeWhile_append inside maximal, dropWhile_append inside maximal]

theorem takeWord_append {name : List Char} (word : IsWord name) (stops : Stops isWordChar rest) :
    takeWord (name ++ rest) = (name, rest) := by
  rw [takeWord, if_pos (word.startsWord_append rest), takeWhile_append word.2 stops, dropWhile_append word.2 stops]

theorem takeWord_absent (absent : startsWord rest = false) : takeWord rest = ([], rest) := by
  simp [takeWord, absent]

theorem readWord_append {name : List Char} (chars : ∀ c ∈ name, isWordChar c = true) (stops : Stops isWordChar rest) :
    readWord (name ++ rest) =
      if name = usingText then readLibrary rest
      else if name = varText then readDeclaration rest
      else (.word name, rest) := by
  simp only [readWord, takeWhile_append chars stops, dropWhile_append chars stops]

theorem readLibrary_append {gap name : List Char} (formed : (Lexeme.library gap name).WellFormed)
    (maximal : (Lexeme.library gap name).Maximal rest) :
    readLibrary (gap ++ name ++ rest) = (.library gap name, rest) := by
  obtain ⟨blanks, rfl | ⟨_, word⟩⟩ := formed
  · obtain ⟨stops, absent, _⟩ := maximal
    simp only [readLibrary, List.append_nil, takeWhile_append blanks stops, dropWhile_append blanks stops,
      takeWord_absent absent]
  · have stops := word.stops_blank rest
    have ends : Stops isWordChar rest := by
      obtain ⟨c, later, rfl, _⟩ := word.exists_cons
      exact maximal
    simp only [readLibrary, List.append_assoc, takeWhile_append blanks stops, dropWhile_append blanks stops,
      takeWord_append word ends]

theorem readDeclaration_unenclosed {gap source : List Char} (blanks : ∀ c ∈ gap, isBlank c = true)
    (stops : Stops isBlank source) (unopened : source.head? ≠ some '(') :
    readDeclaration (gap ++ source) =
      match takeWord source with
      | ([], after) => (.declaration gap .absent, after)
      | (name, after) => (.declaration gap (.word name), after) := by
  simp only [readDeclaration, takeWhile_append blanks stops, dropWhile_append blanks stops]
  split
  · exact absurd rfl unopened
  · rfl

theorem readDeclaration_append {gap : List Char} {typeName : TypeName}
    (formed : (Lexeme.declaration gap typeName).WellFormed) (maximal : (Lexeme.declaration gap typeName).Maximal rest) :
    readDeclaration (gap ++ typeName.raw ++ rest) = (.declaration gap typeName, rest) := by
  obtain ⟨blanks, named⟩ := formed
  rw [List.append_assoc]
  cases typeName with
  | absent =>
    obtain ⟨stops, absent, unopened, _⟩ := maximal
    rw [TypeName.raw, List.nil_append, readDeclaration_unenclosed blanks stops unopened, takeWord_absent absent]
  | enclosed letters =>
    have stops : Stops isBlank ('(' :: (letters ++ ')' :: rest)) := stops_cons (by decide) _
    have closes : Stops isLetter (')' :: rest) := stops_cons (by decide) _
    simp only [readDeclaration, TypeName.raw, List.append_assoc, List.cons_append, List.nil_append,
      takeWhile_append blanks stops, dropWhile_append blanks stops, readEnclosed, takeWhile_append named closes,
      dropWhile_append named closes, if_true]
  | word name =>
    obtain ⟨_, word⟩ := named
    rw [TypeName.raw, readDeclaration_unenclosed blanks (word.stops_blank rest) (word.head?_append_ne_parenthesis rest),
      takeWord_append word maximal]
    obtain ⟨c, later, rfl, _⟩ := word.exists_cons
    rfl

/-- A word that takes in what follows it ends where the white space begins. -/
theorem stops_isWordChar_gap {gap : List Char} (blanks : ∀ c ∈ gap, isBlank c = true) {rest : List Char}
    (ends : gap = [] → Stops isWordChar rest) : Stops isWordChar (gap ++ rest) := by
  cases gap with
  | nil => exact ends rfl
  | cons c gap => exact stops_cons (isWordChar_of_isBlank (blanks c (List.mem_cons_self ..))) _

theorem readLexeme_append {lexeme : Lexeme} (formed : lexeme.WellFormed) (maximal : lexeme.Maximal rest) {c : Char}
    {after : List Char} (source : lexeme.raw ++ rest = c :: after) : readLexeme c after = (lexeme, rest) := by
  cases lexeme with
  | blank first =>
    cases source
    exact readLexeme_blank rest formed
  | stray first =>
    cases source
    exact readLexeme_stray rest formed
  | symbol kind first =>
    cases source
    exact readLexeme_symbol rest formed
  | number whole fraction =>
    have digit : isDigit c = true := by
      obtain ⟨some, digits, _⟩ := formed
      obtain ⟨first, later, rfl⟩ := List.exists_cons_of_ne_nil some
      cases source
      exact digits _ (List.mem_cons_self ..)
    rw [readLexeme_digit after digit, ← source]
    exact readNumber_append formed maximal
  | word name =>
    obtain ⟨word, notUsing, notVar⟩ := formed
    have start : isWordStart c = true := by
      obtain ⟨first, later, rfl, start⟩ := word.exists_cons
      cases source
      exact start
    rw [readLexeme_wordStart after start, ← source]
    simp only [Lexeme.raw, readWord_append word.2 maximal, notUsing, notVar, if_false]
  | character first =>
    cases source
    exact readCharacter_append formed rest
  | text body =>
    cases source
    change readText (bodyRaw body ++ ['"'] ++ rest) = _
    rw [List.append_assoc, List.singleton_append, readText, readBody_append formed]
  | library gap name =>
    have start : isWordStart c = true := by
      cases source
      decide
    have stops : Stops isWordChar (gap ++ (name ++ rest)) := by
      apply stops_isWordChar_gap formed.1
      rintro rfl
      rcases formed.2 with rfl | ⟨some, _⟩
      · exact maximal.2.2 rfl
      · exact absurd rfl some
    rw [readLexeme_wordStart after start, ← source, Lexeme.raw, List.append_assoc, List.append_assoc,
      readWord_append isWord_usingText.2 stops, if_pos rfl, ← List.append_assoc]
    exact readLibrary_append formed maximal
  | declaration gap typeName =>
    have start : isWordStart c = true := by
      cases source
      decide
    have stops : Stops isWordChar (gap ++ (typeName.raw ++ rest)) := by
      apply stops_isWordChar_gap formed.1
      rintro rfl
      cases typeName with
      | absent => exact maximal.2.2.2 rfl
      | enclosed letters => exact stops_cons (by decide) _
      | word name => exact absurd rfl formed.2.1
    rw [readLexeme_wordStart after start, ← source, Lexeme.raw, List.append_assoc, List.append_assoc,
      readWord_append isWord_varText.2 stops, if_neg (by decide), if_pos rfl, ← List.append_assoc]
    exact readDeclaration_append formed maximal
  | openText | emptyCharacter | openCharacter | openType | badType => cases formed

end Completeness

/-! What a reader finds is a piece, unless it went wrong. -/

section Soundness

/-- The piece that was read has its form and is as long as it can be, unless it went wrong. -/
def Sound (reading : Lexeme × List Char) : Prop :=
  reading.1.broken = false → reading.1.WellFormed ∧ reading.1.Maximal reading.2

theorem readBody_wellFormed (source : List Char) : ∀ part ∈ (readBody source).1, part.WellFormed := by
  fun_induction readBody source with
  | case1 | case2 | case3 => simp
  | case4 c rest body ending read ih =>
    intro part member
    rcases List.mem_cons.mp member with rfl | later
    · trivial
    · exact ih part (by rwa [read])
  | case5 c rest quote lone paired body ending read ih =>
    intro part member
    rcases List.mem_cons.mp member with rfl | later
    · refine ⟨quote, ?_⟩
      rintro rfl
      cases rest with
      | nil => exact lone rfl rfl
      | cons next rest => exact paired next rest rfl rfl
    · exact ih part (by rwa [read])

theorem readNumber_sound {c : Char} (rest : List Char) (digit : isDigit c = true) :
    Sound (readNumber (c :: rest)) := by
  intro _
  have some : (c :: rest).takeWhile isDigit ≠ [] := by simp [digit]
  have digits : ∀ d ∈ (c :: rest).takeWhile isDigit, isDigit d = true := fun d => mem_takeWhile
  have stops : Stops isDigit ((c :: rest).dropWhile isDigit) := stops_dropWhile _
  unfold readNumber
  split
  next later _ =>
    refine ⟨⟨some, digits, ?_⟩, stops_dropWhile later⟩
    intro fraction same
    cases same
    exact fun d => mem_takeWhile
  next later unpointed =>
    refine ⟨⟨some, digits, by simp⟩, stops, ?_⟩
    intro point
    obtain ⟨after, pointed⟩ := List.head?_eq_some_iff.mp point
    exact unpointed after pointed

theorem isWord_takeWhile {c : Char} (rest : List Char) (start : isWordStart c = true) :
    IsWord ((c :: rest).takeWhile isWordChar) := by
  refine ⟨?_, fun d => mem_takeWhile⟩
  rw [List.takeWhile_cons, if_pos (isWordChar_of_isWordStart start)]
  exact start

theorem takeWord_sound (source : List Char) :
    takeWord source = ([], source) ∧ startsWord source = false ∨
    IsWord (takeWord source).1 ∧ Stops isWordChar (takeWord source).2 := by
  unfold takeWord
  split
  next start =>
    right
    cases source with
    | nil => cases start
    | cons c rest => exact ⟨isWord_takeWhile rest start, stops_dropWhile _⟩
  next absent => exact .inl ⟨rfl, by simpa using absent⟩

private theorem dropWhile_of_gap {source : List Char} (none : source.takeWhile isBlank = []) :
    source.dropWhile isBlank = source := by
  have parts := List.takeWhile_append_dropWhile (p := isBlank) (l := source)
  rwa [none] at parts

theorem startsWord_of_stops {source : List Char} (ends : Stops isWordChar source) : startsWord source = false := by
  cases source with
  | nil => rfl
  | cons c rest =>
    change isWordStart c = false
    rw [← Bool.not_eq_true]
    intro start
    exact absurd (ends c rfl) (by simp [isWordChar_of_isWordStart start])

/-- Behind the end of a word there is white space before the next one. -/
private theorem gap_of_word {source : List Char} (ends : Stops isWordChar source)
    (word : IsWord (takeWord (source.dropWhile isBlank)).1) : source.takeWhile isBlank ≠ [] := by
  intro none
  rw [dropWhile_of_gap none, takeWord_absent (startsWord_of_stops ends)] at word
  cases word.1

theorem readLibrary_sound {source : List Char} (ends : Stops isWordChar source) :
    Sound (readLibrary source) := by
  intro _
  have blanks : ∀ c ∈ source.takeWhile isBlank, isBlank c = true := fun c => mem_takeWhile
  have stops : Stops isBlank (source.dropWhile isBlank) := stops_dropWhile source
  simp only [readLibrary]
  rcases takeWord_sound (source.dropWhile isBlank) with ⟨none, absent⟩ | ⟨word, later⟩
  · rw [none]
    refine ⟨⟨blanks, .inl rfl⟩, stops, absent, ?_⟩
    intro noGap
    rwa [dropWhile_of_gap noGap]
  · refine ⟨⟨blanks, .inr ⟨gap_of_word ends word, word⟩⟩, ?_⟩
    obtain ⟨c, name, same, _⟩ := word.exists_cons
    rw [same]
    exact later

theorem readEnclosed_sound {gap : List Char} (blanks : ∀ c ∈ gap, isBlank c = true) (source : List Char) :
    Sound (readEnclosed gap source) := by
  unfold readEnclosed
  split
  next =>
    intro whole
    cases whole
  next c rest _ =>
    split
    next => exact fun _ => ⟨⟨blanks, fun d => mem_takeWhile⟩, trivial⟩
    next =>
      intro whole
      cases whole

theorem readDeclaration_sound {source : List Char} (ends : Stops isWordChar source) :
    Sound (readDeclaration source) := by
  have blanks : ∀ c ∈ source.takeWhile isBlank, isBlank c = true := fun c => mem_takeWhile
  have stops : Stops isBlank (source.dropWhile isBlank) := stops_dropWhile source
  unfold readDeclaration
  split
  next rest _ => exact readEnclosed_sound blanks rest
  next rest unopened =>
    intro _
    have closed : (source.dropWhile isBlank).head? ≠ some '(' := by
      intro opens
      obtain ⟨after, opened⟩ := List.head?_eq_some_iff.mp opens
      exact unopened after opened
    rcases takeWord_sound (source.dropWhile isBlank) with ⟨none, absent⟩ | ⟨word, later⟩
    · rw [none]
      refine ⟨⟨blanks, trivial⟩, stops, absent, closed, ?_⟩
      intro noGap
      rwa [dropWhile_of_gap noGap]
    · have spaced := gap_of_word ends word
      obtain ⟨c, name, same, _⟩ := word.exists_cons
      split
      next after taken =>
        rw [taken] at same
        cases same
      next found after _ taken =>
        rw [taken] at word later
        exact ⟨⟨blanks, spaced, word⟩, later⟩

theorem readWord_sound {c : Char} (rest : List Char) (start : isWordStart c = true) :
    Sound (readWord (c :: rest)) := by
  have ends : Stops isWordChar ((c :: rest).dropWhile isWordChar) := stops_dropWhile _
  have word := isWord_takeWhile rest start
  simp only [readWord]
  split
  next => exact readLibrary_sound ends
  next notUsing =>
    split
    next => exact readDeclaration_sound ends
    next notVar => exact fun _ => ⟨⟨word, notUsing, notVar⟩, ends⟩

theorem readText_sound (source : List Char) : Sound (readText source) := by
  have formed := readBody_wellFormed source
  unfold readText
  split
  next body rest read =>
    rw [read] at formed
    exact fun _ => ⟨formed, trivial⟩
  next =>
    intro whole
    cases whole

theorem readCharacter_sound (source : List Char) : Sound (readCharacter source) := by
  fun_cases readCharacter source with
  | case4 rest c other => exact fun _ => ⟨fun same => other same, trivial⟩
  | _ =>
    intro whole
    cases whole

theorem readLexeme_sound (c : Char) (rest : List Char) : Sound (readLexeme c rest) := by
  unfold readLexeme
  split
  next kind symbol => exact fun _ => ⟨ofSymbol?_eq_some_iff.mp symbol, trivial⟩
  next symbol =>
    split
    next => exact readText_sound rest
    next quote =>
      split
      next => exact readCharacter_sound rest
      next apostrophe =>
        split
        next blank => exact fun _ => ⟨blank, trivial⟩
        next blank =>
          split
          next digit => exact readNumber_sound rest digit
          next digit =>
            split
            next start => exact readWord_sound rest start
            next start =>
              have nothing : StartsNothing c :=
                ⟨ofSymbol?_eq_none_iff.mp symbol, quote, apostrophe, by simpa using blank, by simpa using digit,
                  by simpa using start⟩
              exact fun _ => ⟨nothing, trivial⟩

end Soundness

/-- Nothing of a source is lost. -/
theorem flatMap_raw_lexemes (source : List Char) : (lexemes source).flatMap Lexeme.raw = source := by
  fun_induction lexemes source with
  | case1 => rfl
  | case2 c rest ih => rw [List.flatMap_cons, ih, readLexeme_raw]

theorem segmentation_lexemes (source : List Char) (whole : ∀ piece ∈ lexemes source, piece.broken = false) :
    Segmentation [] (lexemes source) := by
  fun_induction lexemes source with
  | case1 => exact .nil
  | case2 c rest ih =>
    obtain ⟨formed, maximal⟩ := readLexeme_sound c rest (whole _ (List.mem_cons_self ..))
    refine .cons formed ?_ (ih fun piece member => whole piece (List.mem_cons_of_mem _ member))
    rwa [flatMap_raw_lexemes, List.append_nil]

theorem Lexeme.WellFormed.raw_ne_nil {lexeme : Lexeme} (formed : lexeme.WellFormed) : lexeme.raw ≠ [] := by
  cases lexeme with
  | number whole fraction =>
    intro empty
    exact formed.1 (List.append_eq_nil_iff.mp empty).1
  | word name =>
    obtain ⟨c, later, rfl, _⟩ := formed.1.exists_cons
    exact List.cons_ne_nil _ _
  | openText | emptyCharacter | openCharacter | openType | badType => cases formed
  | _ => exact List.cons_ne_nil _ _

theorem Lexeme.WellFormed.broken {lexeme : Lexeme} (formed : lexeme.WellFormed) : lexeme.broken = false := by
  cases lexeme with
  | openText | emptyCharacter | openCharacter | openType | badType => cases formed
  | _ => rfl

/-- Pieces that fit together are read back, whatever comes behind them. -/
theorem lexemes_append {tail : List Char} {pieces : List Lexeme} (fitting : Segmentation tail pieces) :
    lexemes (pieces.flatMap Lexeme.raw ++ tail) = pieces ++ lexemes tail := by
  induction fitting with
  | nil => rfl
  | @cons lexeme rest formed maximal later ih =>
    rw [List.flatMap_cons, List.append_assoc]
    obtain ⟨c, after, source⟩ := List.exists_cons_of_ne_nil
      (List.append_ne_nil_of_left_ne_nil formed.raw_ne_nil (rest.flatMap Lexeme.raw ++ tail))
    rw [source, lexemes, readLexeme_append formed maximal source, ih, List.cons_append]

end StreamScript.Source
