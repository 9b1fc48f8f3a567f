import StreamScript.Proofs.StreamRoundTrip

/-! The lines that a stream may hold. A line is a name, an opening, a payload and a closing. The marks may stand in the
payload again and may share a character with each other, so a line could be cut in several ways: it is cut at the
first opening. With that a line says one thing only, and every other line is refused. -/

namespace StreamScript

theorem Kind.ofName?_eq_some {name : String} {kind : Kind} (found : ofName? name = some kind) : name = kind.name := by
  have same := List.find?_some found
  exact (of_decide_eq_true same).symm

namespace Stream

/-- `word('payload')` -/
def framed (word payload : String) : String := word ++ "('" ++ payload ++ "')"

/-- The word may stand in front of the first opening of a line. -/
def Unopened (word : String) : Prop := ¬ ['(', '\''] <:+: word.toList

/-- What a payload of the kind stands for. Quotes around a string are not part of it. -/
inductive StandsFor (kind : Kind) : String → String → Prop where
  | quoted (inner : String) (isText : kind = .text) : StandsFor kind ("\"" ++ inner ++ "\"") (Text.unescape inner)
  | bare (payload : String) (unquoted : kind = .text → ∀ inner, payload ≠ "\"" ++ inner ++ "\"") :
      StandsFor kind payload (Text.unescape payload)

section Cuts

theorem framed_toList (word payload : String) :
    (framed word payload).toList = word.toList ++ '(' :: '\'' :: (payload.toList ++ ['\'', ')']) := by
  simp [framed]

theorem eq_of_splitOpening {text before after : List Char} (split : splitOpening text = some (before, after)) :
    text = before ++ '(' :: '\'' :: after ∧ ¬ ['(', '\''] <:+: before := by
  fun_induction splitOpening text generalizing before after with
  | case1 => cases split
  | case2 rest =>
    cases split
    simp
  | case3 c rest notOpening ih =>
    obtain ⟨⟨front, back⟩, found, same⟩ := Option.map_eq_some_iff.mp split
    cases same
    obtain ⟨rfl, unopened⟩ := ih found
    refine ⟨rfl, ?_⟩
    intro inside
    rcases List.infix_cons_iff.mp inside with ⟨more, begins⟩ | later
    · simp only [List.cons_append, List.nil_append, List.cons.injEq] at begins
      obtain ⟨rfl, rfl⟩ := begins
      exact notOpening _ rfl rfl
    · exact unopened later

theorem eq_of_dropClosing {text payload : List Char} (closed : dropClosing text = some payload) :
    text = payload ++ ['\'', ')'] := by
  unfold dropClosing at closed
  split at closed
  next rest reversed =>
    cases closed
    rw [← List.reverse_eq_iff.mpr reversed.symm]
    simp
  next => cases closed

theorem dropQuotes_quoted (inner : List Char) : dropQuotes ('"' :: (inner ++ ['"'])) = inner := by
  simp [dropQuotes]

theorem dropQuotes_of_unquoted {text : List Char} (unquoted : ∀ inner, text ≠ '"' :: (inner ++ ['"'])) :
    dropQuotes text = text := by
  fun_cases dropQuotes text with
  | case1 rest inner reversed =>
    have quoted := List.reverse_eq_iff.mp reversed
    exact absurd (congrArg ('"' :: ·) quoted) (by simpa using unquoted inner.reverse)
  | case2 | case3 => rfl

end Cuts

theorem payloadLiteral_eq (kind : Kind) (payload : String) :
    payloadLiteral kind payload.toList =
      Text.unescape (if kind = .text then String.ofList (dropQuotes payload.toList) else payload) := by
  unfold payloadLiteral Text.unescape
  split <;> simp

theorem standsFor_payloadLiteral (kind : Kind) (payload : String) :
    StandsFor kind payload (payloadLiteral kind payload.toList) := by
  rw [payloadLiteral_eq]
  by_cases isText : kind = .text
  · rw [if_pos isText]
    by_cases quoted : ∃ inner, payload = "\"" ++ inner ++ "\""
    · obtain ⟨inner, rfl⟩ := quoted
      have dropped : String.ofList (dropQuotes ("\"" ++ inner ++ "\"").toList) = inner := by
        simp [dropQuotes_quoted]
      rw [dropped]
      exact .quoted inner isText
    · have unquoted : ∀ inner, payload.toList ≠ '"' :: (inner ++ ['"']) := by
        intro inner same
        refine quoted ⟨String.ofList inner, ?_⟩
        rw [← String.toList_inj]
        simpa using same
      rw [dropQuotes_of_unquoted unquoted, String.ofList_toList]
      exact .bare payload fun _ inner same => quoted ⟨inner, same⟩
  · rw [if_neg isText]
    exact .bare payload fun same => absurd same isText

/-- A word with no opening in it is what the line is taken to begin with. -/
theorem decodeLine_framed {word : String} (unopened : Unopened word) (payload : String) (line : Nat) :
    decodeLine (framed word payload) line =
      match Kind.ofName? word with
      | none => .error ⟨.unknownKind word, line⟩
      | some kind => .ok ⟨kind, payloadLiteral kind payload.toList, ⟨line, 0⟩⟩ := by
  rw [decodeLine, framed_toList, splitOpening_append _ unopened]
  simp only [dropClosing_append, String.ofList_toList]
  rfl

theorem framed_inj {word other payload otherPayload : String} (unopened : Unopened word)
    (otherUnopened : Unopened other) (same : framed word payload = framed other otherPayload) :
    word = other ∧ payload = otherPayload := by
  have lists := congrArg (fun text => splitOpening text.toList) same
  simp only [framed_toList, splitOpening_append _ unopened, splitOpening_append _ otherUnopened, Option.some.injEq,
    Prod.mk.injEq, List.append_cancel_right_eq, String.toList_inj] at lists
  exact lists

/-- A line that cannot be cut is malformed. -/
theorem framed_or_malformed (text : String) (line : Nat) :
    (∃ word payload, text = framed word payload ∧ Unopened word) ∨
      decodeLine text line = .error ⟨.malformedLine text, line⟩ := by
  unfold decodeLine
  cases split : splitOpening text.toList with
  | none => exact .inr rfl
  | some parts =>
    obtain ⟨word, rest⟩ := parts
    obtain ⟨cut, unopened⟩ := eq_of_splitOpening split
    cases closed : dropClosing rest with
    | none =>
      right
      simp [closed]
    | some payload =>
      left
      refine ⟨String.ofList word, String.ofList payload, ?_, by simpa [Unopened] using unopened⟩
      rw [← String.toList_inj, framed_toList, cut, eq_of_dropClosing closed]
      simp

/-- A line is read exactly if it is the name of a kind with a payload in the frame. Kind and payload are then
determined, and the literal is what the payload stands for. In front of the first opening any other word is an unknown
kind, and without a frame behind it the whole line is malformed. -/
theorem decodeLine_grammar (text : String) (line : Nat) :
    ((∃ token, decodeLine text line = .ok token) ↔ ∃ kind payload, text = framed (Kind.name kind) payload) ∧
    (∀ kind payload, text = framed (Kind.name kind) payload →
      (∃ literal, StandsFor kind payload literal ∧ decodeLine text line = .ok ⟨kind, literal, ⟨line, 0⟩⟩) ∧
      ∀ other otherPayload, text = framed (Kind.name other) otherPayload → other = kind ∧ otherPayload = payload) ∧
    (∀ word payload, text = framed word payload → Unopened word → (∀ kind, word ≠ Kind.name kind) →
      decodeLine text line = .error ⟨.unknownKind word, line⟩) ∧
    ((∀ kind payload, text ≠ framed (Kind.name kind) payload) →
      (∀ word payload, text = framed word payload → Unopened word → ∃ kind, word = Kind.name kind) →
      decodeLine text line = .error ⟨.malformedLine text, line⟩) := by
  have reads : ∀ kind payload, decodeLine (framed (Kind.name kind) payload) line =
      .ok ⟨kind, payloadLiteral kind payload.toList, ⟨line, 0⟩⟩ := by
    intro kind payload
    rw [decodeLine_framed kind.name_unopened, Kind.ofName?_name]
  refine ⟨⟨?_, ?_⟩, ?_, ?_, ?_⟩
  · rintro ⟨token, read⟩
    rcases framed_or_malformed text line with ⟨word, payload, rfl, unopened⟩ | malformed
    · rw [decodeLine_framed unopened] at read
      cases named : Kind.ofName? word with
      | none => simp [named] at read
      | some kind => exact ⟨kind, payload, by rw [Kind.ofName?_eq_some named]⟩
    · cases read.symm.trans malformed
  · rintro ⟨kind, payload, rfl⟩
    exact ⟨_, reads kind payload⟩
  · rintro kind payload rfl
    refine ⟨⟨_, standsFor_payloadLiteral kind payload, reads kind payload⟩, ?_⟩
    intro other otherPayload same
    obtain ⟨names, payloads⟩ := framed_inj kind.name_unopened other.name_unopened same
    have kinds := congrArg Kind.ofName? names
    rw [Kind.ofName?_name, Kind.ofName?_name] at kinds
    exact ⟨(Option.some.inj kinds).symm, payloads.symm⟩
  · rintro word payload rfl unopened foreign
    rw [decodeLine_framed unopened]
    cases named : Kind.ofName? word with
    | none => rfl
    | some kind => exact absurd (Kind.ofName?_eq_some named) (foreign kind)
  · intro noKind noWord
    rcases framed_or_malformed text line with ⟨word, payload, rfl, unopened⟩ | malformed
    · obtain ⟨kind, rfl⟩ := noWord word payload rfl unopened
      exact absurd rfl (noKind kind payload)
    · exact malformed

/-- A closing and quotes in the payload, a bracket in front of the opening, and an opening that shares its quote with
the closing. -/
theorem decodeLine_grammar_overlaps :
    ("STRING('\"')\"')" = framed (Kind.name .text) "\"')\"" ∧
      ∃ literal, StandsFor .text "\"')\"" literal ∧
        decodeLine "STRING('\"')\"')" 1 = .ok ⟨.text, literal, ⟨1, 0⟩⟩) ∧
    ("(('')" = framed "(" "" ∧ Unopened "(" ∧ decodeLine "(('')" 2 = .error ⟨.unknownKind "(", 2⟩) ∧
    (∀ word payload, "EOF(')" = framed word payload → ¬ Unopened word) ∧
      decodeLine "EOF(')" 3 = .error ⟨.malformedLine "EOF(')", 3⟩ := by
  have bracket : Unopened "(" := by
    intro inside
    simpa using inside.length_le
  have foreign : ∀ kind, "(" ≠ Kind.name kind := by
    intro kind same
    exact absurd (kind.name_isUpper '(' (by rw [← same]; decide)) (by decide)
  have unframed : ∀ word payload, "EOF(')" = framed word payload → ¬ Unopened word := by
    intro word payload same unopened
    have cut := congrArg (fun text => splitOpening text.toList) same
    rw [framed_toList, splitOpening_append _ unopened] at cut
    have closing : [')'] = payload.toList ++ ['\'', ')'] := (Prod.mk.inj (Option.some.inj cut)).2
    simpa using congrArg List.length closing
  refine ⟨⟨rfl, ((decodeLine_grammar _ 1).2.1 .text _ rfl).1⟩, ⟨rfl, bracket, ?_⟩, unframed, ?_⟩
  · exact (decodeLine_grammar _ 2).2.2.1 "(" "" rfl bracket foreign
  · apply (decodeLine_grammar _ 3).2.2.2
    · intro kind payload same
      exact unframed _ _ same kind.name_unopened
    · intro word payload same unopened
      exact absurd unopened (unframed word payload same)

end Stream

end StreamScript
