import StreamScript.Number.Reading
import StreamScript.Proofs.LexedTokens
import StreamScript.Run.Expression

/-! The literals that a source can have, and how they are read as values. An integer is a row of digits, which is read
unless it is too large; a floating number always has a value, and so has a character. -/

namespace StreamScript

open Text (isDigit)

namespace Kind

/-- The literals of a kind that a source can hold. Those that are not read as values may be anything. -/
def Admits : Kind → List Char → Prop
  | number, literal => literal ≠ [] ∧ ∀ c ∈ literal, isDigit c = true
  | floating, literal => ∃ whole fraction, literal = whole ++ '.' :: fraction ∧ whole ≠ [] ∧
      (∀ c ∈ whole, isDigit c = true) ∧ ∀ c ∈ fraction, isDigit c = true
  | character, literal => ∃ c, literal = [c]
  | _, _ => True

/-- The kinds that do not admit every literal. -/
def restricted : List Kind := [.number, .floating, .character]

theorem admits_of_unrestricted {kind : Kind} (unrestricted : kind ∉ restricted) (literal : List Char) :
    kind.Admits literal := by
  cases kind with
  | number | floating | character => exact absurd unrestricted (by decide)
  | _ => trivial

end Kind

namespace Source

theorem Segmentation.formed {tail : List Char} {pieces : List Lexeme} (fitting : Segmentation tail pieces) :
    ∀ piece ∈ pieces, piece.WellFormed := by
  induction fitting with
  | nil => simp
  | cons formed _ _ ih => simpa using ⟨formed, ih⟩

theorem Lexeme.admits_forms {lexeme : Lexeme} (formed : lexeme.WellFormed) :
    ∀ form ∈ lexeme.forms, form.1.Admits form.2.toList := by
  cases lexeme with
  | symbol kind c =>
    simp only [forms, List.mem_singleton, forall_eq]
    have unrestricted : ∀ entry ∈ symbols, entry.1 ∉ Kind.restricted := by decide
    exact Kind.admits_of_unrestricted (unrestricted _ formed) _
  | number whole fraction =>
    obtain ⟨some, digits, fractionDigits⟩ := formed
    cases fraction with
    | none => simpa [forms, Kind.Admits] using ⟨some, digits⟩
    | some places =>
      simp only [forms, List.mem_singleton, forall_eq, String.toList_ofList]
      exact ⟨whole, places, rfl, some, digits, fractionDigits places rfl⟩
  | word name =>
    simp only [forms, List.mem_singleton, forall_eq]
    have unrestricted : ∀ kind ∈ wordKinds, kind ∉ Kind.restricted := by decide
    exact Kind.admits_of_unrestricted (unrestricted _ (wordKind_mem_wordKinds _)) _
  | library gap name => cases name <;> simp [forms, Kind.Admits]
  | declaration gap typeName => cases typeName <;> simp [forms, Kind.Admits]
  | _ => simp [forms, Kind.Admits]

section Lexed

variable {source : String} {tokens : List Token} (lexed : (tokenize source).result = .ok tokens)

include lexed in
theorem forms_of_tokenize :
    tokens.map Token.form = (lexemes source.toList).flatMap Lexeme.forms ++ [(.endOfFile, "")] := by
  obtain ⟨found, result, forms, _⟩ :=
    tokenize_of_segmentation (segmentation_of_tokenize lexed) (flatMap_raw_lexemes source.toList)
  cases lexed.symm.trans result
  exact forms

include lexed in
theorem admits_of_tokenize : ∀ token ∈ tokens, token.kind.Admits token.literal.toList := by
  intro token member
  have formMember : token.form ∈ tokens.map Token.form := List.mem_map_of_mem member
  rw [forms_of_tokenize lexed, List.mem_append, List.mem_flatMap, List.mem_singleton] at formMember
  rcases formMember with ⟨piece, pieceMember, inPiece⟩ | isLast
  · have formed := (segmentation_of_tokenize lexed).formed piece pieceMember
    exact Lexeme.admits_forms formed token.form inPiece
  · have kind : token.kind = .endOfFile := congrArg Prod.fst isLast
    rw [kind]
    trivial

include lexed in
theorem endOfFile_of_tokenize : ∃ token ∈ tokens, token.kind = .endOfFile := by
  have member : (Kind.endOfFile, "") ∈ tokens.map Token.form := by simp [forms_of_tokenize lexed]
  obtain ⟨token, inside, form⟩ := List.mem_map.mp member
  exact ⟨token, inside, congrArg Prod.fst form⟩

end Lexed

end Source

namespace Number

theorem takeSign_of_digits {text : List Char} (digits : ∀ c ∈ text.head?, isDigit c = true) :
    takeSign text = (false, text) := by
  fun_cases takeSign text with
  | case1 rest => exact absurd (digits '-' rfl) (by decide)
  | case2 rest => exact absurd (digits '+' rfl) (by decide)
  | case3 => rfl

/-- A row of digits is read unless it is too large. -/
theorem readInt32_eq_none_iff {text : String} (admits : Kind.number.Admits text.toList) :
    readInt32 text = none ↔ 2147483647 < digitsValue text.toList := by
  obtain ⟨nonempty, digits⟩ := admits
  have unsigned := takeSign_of_digits fun c first => digits c (List.mem_of_mem_head? first)
  have natural : readNatural text.toList = some (digitsValue text.toList) := by
    rw [readNatural, if_pos ⟨nonempty, List.all_eq_true.mpr digits⟩]
  have read : readInteger text.toList = some (digitsValue text.toList : Int) := by
    rw [readInteger, unsigned]
    simp [natural, signed]
  rw [readInt32, read, Option.bind_some]
  split
  next inRange =>
    have small : ¬ 2147483647 < digitsValue text.toList := by omega
    simp only [reduceCtorEq, small]
  next outOfRange =>
    have large : 2147483647 < digitsValue text.toList := by omega
    simp only [large]

theorem readBinary64_ne_none {text : String} (admits : Kind.floating.Admits text.toList) :
    readBinary64 text ≠ none := by
  obtain ⟨whole, fraction, split, nonempty, digits, fractionDigits⟩ := admits
  have unsigned : takeSign text.toList = (false, text.toList) := by
    apply takeSign_of_digits
    intro c first
    rw [split, List.head?_append, List.head?_eq_some_head nonempty] at first
    obtain rfl : whole.head nonempty = c := Option.some.inj first
    exact digits _ (List.head_mem nonempty)
  have point : Source.Stops isDigit ('.' :: fraction) := Source.stops_cons (by decide) fraction
  have wholeRead : text.toList.takeWhile isDigit = whole := by rw [split, Source.takeWhile_append digits point]
  have rest : text.toList.dropWhile isDigit = '.' :: fraction := by rw [split, Source.dropWhile_append digits point]
  have ends : Source.Stops isDigit [] := by simp [Source.Stops]
  have fractionRead : fraction.dropWhile isDigit = [] := by simpa using Source.dropWhile_append fractionDigits ends
  simp [readBinary64, unsigned, readDecimal, wholeRead, rest, fractionRead, nonempty, readExponent]

end Number

namespace Run

theorem operand_character {token : Token} (kind : token.kind = .character)
    (admits : token.kind.Admits token.literal.toList) :
    ∃ c, ∀ store imports, operand store imports token = .ok (some (.character c)) := by
  rw [kind] at admits
  obtain ⟨c, single⟩ := admits
  refine ⟨c, fun store imports => ?_⟩
  rw [operand, kind]
  simp only [characterValue, single]

end Run

end StreamScript
