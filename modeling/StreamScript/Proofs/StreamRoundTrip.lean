import StreamScript.Proofs.EscapedText
import StreamScript.Proofs.TextLines
import StreamScript.Token.Stream

/-! A stream gives back the tokens that were written to it. A literal may hold the marks of the format itself,
and a line is cut at the first opening, at the last closing and at quotes around the payload. Escaping and the
names of the kinds keep these cuts where they were made. -/

namespace StreamScript

namespace Kind

/-- No name holds a mark of the format, or anything else that a reader would cut at. -/
theorem name_isUpper (kind : Kind) : ∀ c ∈ kind.name.toList, c.isUpper = true := by
  cases kind <;> simp [name]

theorem name_unopened (kind : Kind) : ¬ ['(', '\''] <:+: kind.name.toList := by
  intro opening
  exact absurd (kind.name_isUpper '(' (opening.subset (by simp))) (by decide)

theorem name_toList_ne_nil (kind : Kind) : kind.name.toList ≠ [] := by
  cases kind <;> decide

theorem ofName?_name (kind : Kind) : ofName? kind.name = some kind := by
  cases kind <;> decide

end Kind

namespace Stream

/-- The tokens with the places that a reader gives them: one token on a line, and the column unknown. -/
def numbered (tokens : List Token) : List Token :=
  tokens.mapIdx fun index token => { token with position := ⟨index + 1, 0⟩ }

private theorem isBlank_of_isUpper {c : Char} (upper : c.isUpper = true) : Text.isBlank c = false := by
  have range : 65 ≤ c.toNat ∧ c.toNat ≤ 90 := by
    have both : decide (c.val ≥ 'A'.val ∧ c.val ≤ 'Z'.val) = true := upper
    simpa [UInt32.le_iff_toNat_le] using both
  have controls : decide (c.toNat ≤ 0xD) = false := by simpa using by omega
  have space : decide (c.toNat ≤ 0x20) = false := by simpa using by omega
  rw [Text.isBlank, Text.blanks, Text.inRanges, if_neg (by omega), Text.inRanges, if_neg (by omega), Text.inRanges,
    if_pos (by omega), controls, space]
  rfl

/-- A bracket at the end of the name does no harm: the opening needs a quote behind its bracket. -/
theorem splitOpening_append {name : List Char} (rest : List Char) (unopened : ¬ ['(', '\''] <:+: name) :
    splitOpening (name ++ '(' :: '\'' :: rest) = some (name, rest) := by
  induction name with
  | nil => rfl
  | cons c name ih =>
    have later := ih fun inside => unopened (inside.trans (List.suffix_cons c name).isInfix)
    rw [List.cons_append, splitOpening, later]
    · rfl
    · intro _ opening quote
      cases name with
      | nil => cases quote
      | cons next name =>
        obtain ⟨rfl, _⟩ := List.cons.inj quote
        exact unopened ⟨[], name, by simp [opening]⟩

/-- Closings inside the payload do not matter: the last one counts. -/
theorem dropClosing_append (payload : List Char) : dropClosing (payload ++ ['\'', ')']) = some payload := by
  simp [dropClosing]

theorem dropQuotes_escapeChars (text : List Char) : dropQuotes (Text.escapeChars text) = Text.escapeChars text := by
  -- Quotes around a literal are escaped with it, so they are not taken for the quotes around a payload.
  have unquoted := Text.head?_escapeChars_ne_quote text
  revert unquoted
  fun_cases dropQuotes (Text.escapeChars text) <;> simp_all

theorem payloadLiteral_escapeChars (kind : Kind) (literal : String) :
    payloadLiteral kind (Text.escapeChars literal.toList) = literal := by
  have payload : (if kind = .text then dropQuotes (Text.escapeChars literal.toList)
      else Text.escapeChars literal.toList) = Text.escapeChars literal.toList := by
    rw [dropQuotes_escapeChars, ite_self]
  rw [payloadLiteral, payload, Text.unescapeChars_escapeChars, String.ofList_toList]

theorem encodeToken_toList (token : Token) :
    (encodeToken token).toList =
      token.kind.name.toList ++ '(' :: '\'' :: (Text.escapeChars token.literal.toList ++ ['\'', ')']) := by
  simp [encodeToken, Text.escape]

theorem decodeLine_encodeToken (token : Token) (line : Nat) :
    decodeLine (encodeToken token) line = .ok { token with position := .ofLine line } := by
  rw [decodeLine, encodeToken_toList, splitOpening_append _ token.kind.name_unopened]
  simp only [dropClosing_append, String.ofList_toList, Kind.ofName?_name, payloadLiteral_escapeChars]

theorem newline_not_mem_encodeToken (token : Token) : '\n' ∉ (encodeToken token).toList := by
  have name : '\n' ∉ token.kind.name.toList := by
    intro newline
    exact absurd (token.kind.name_isUpper _ newline) (by decide)
  have literal := Text.newline_not_mem_escapeChars token.literal.toList
  simp [encodeToken_toList, name, literal]

theorem trim_encodeToken (token : Token) : Text.trim (encodeToken token).toList = (encodeToken token).toList := by
  -- The line begins with a letter and ends with a bracket, so white space inside its literal is kept.
  apply Text.trim_eq_self
  · intro c first
    rw [encodeToken_toList, List.head?_append, List.head?_eq_some_head token.kind.name_toList_ne_nil] at first
    have letter := token.kind.name_isUpper _ (List.head_mem token.kind.name_toList_ne_nil)
    obtain rfl : token.kind.name.toList.head _ = c := Option.some.inj first
    exact isBlank_of_isUpper letter
  · intro c last
    have bracket : c = ')' := by
      simpa [encodeToken_toList, List.getLast?_append, List.getLast?_cons, eq_comm] using last
    subst bracket
    decide

theorem encodeToken_toList_ne_nil (token : Token) : (encodeToken token).toList ≠ [] := by
  simp [encodeToken_toList]

theorem lines_encode (tokens : List Token) :
    Text.lines (encode tokens).toList = tokens.map (fun token => (encodeToken token).toList) ++ [[]] := by
  induction tokens with
  | nil => rfl
  | cons token rest ih =>
    have text : (encode (token :: rest)).toList = (encodeToken token).toList ++ '\n' :: (encode rest).toList := by
      simp [encode, String.toList_join]
    rw [text, Text.lines_append _ (newline_not_mem_encodeToken token), ih]
    rfl

private theorem itemsFrom_encodeToken (tokens : List Token) (line : Nat) :
    itemsFrom line (tokens.map (fun token => (encodeToken token).toList) ++ [[]]) =
      (tokens.mapIdx fun index token => { token with position := ⟨index + line, 0⟩ }).map .ok := by
  induction tokens generalizing line with
  | nil => rfl
  | cons token rest ih =>
    rw [List.map_cons, List.cons_append, itemsFrom, trim_encodeToken, List.mapIdx_cons]
    simp only [encodeToken_toList_ne_nil, if_false, String.ofList_toList, decodeLine_encodeToken, ih]
    simp only [List.map_cons, Nat.zero_add, Nat.add_assoc, Nat.add_comm line, Position.ofLine]

theorem items_encode (tokens : List Token) : items (encode tokens) = (numbered tokens).map .ok := by
  rw [items, lines_encode, itemsFrom_encodeToken, numbered]

theorem collect_map_ok (tokens : List Token) : collect (tokens.map .ok) = .ok tokens := by
  induction tokens with
  | nil => rfl
  | cons token rest ih =>
    rw [List.map_cons, collect, ih]
    rfl

/-- Reading a written stream succeeds with the same kinds and literals in the same order, the token at place `i`
of the list being on line `i + 1`. -/
theorem decode_encode (tokens : List Token) : decode (encode tokens) = .ok (numbered tokens) := by
  rw [decode, items_encode, collect_map_ok]

end Stream

end StreamScript
