import StreamScript.Proofs.ReaderCalls
import StreamScript.Proofs.Relocation

/-! Sources that are put together. A source whose last token is a semicolon leaves nothing open: with any text behind
it, it falls into the same pieces, and this text is lexed as it would be alone, only from another place on. -/

namespace StreamScript.Source

/-- The fault when `front` is put in front of the source. -/
def Error.moved (front : List Char) (error : Error) : Error :=
  { error with
    position := error.position.shift front
    start := error.start + Text.byteSize front
    stop := error.stop + Text.byteSize front }

/-- The event when `front` is put in front of the source. -/
def Event.moved (front : List Char) : Event → Event
  | .token found => .token (found.relocate (.shift front))
  | .warning diagnostic => .warning (diagnostic.relocate (.shift front))
  | .fault error => .fault (error.moved front)

/-- The lexing when `front` is put in front of the source. -/
def Lexing.moved (front : List Char) (lexing : Lexing) : Lexing where
  warnings := lexing.warnings.map (Diagnostic.relocate (.shift front))
  result :=
    match lexing.result with
    | .ok tokens => .ok (tokens.map (Token.relocate (.shift front)))
    | .error error => .error (error.moved front)

section Moving

variable (front : List Char)

theorem Saying.event_moved (before read : List Char) (saying : Saying) :
    saying.event (front ++ before) (front ++ read) = (saying.event before read).moved front := by
  cases saying with
  | token kind literal => simp [event, Event.moved, Token.relocate, Position.behind_append]
  | warning message => simp [event, Event.moved, Diagnostic.relocate, Position.behind_append]
  | fault fault =>
    simp [event, Event.moved, Error.moved, Position.behind_append, Text.byteSize_append, Nat.add_comm]

theorem Lexeme.events_moved (passed : List Char) (lexeme : Lexeme) :
    lexeme.events (.past .start (front ++ passed)) = (lexeme.events (.past .start passed)).map (Event.moved front) := by
  rw [lexeme.events_eq, lexeme.events_eq, List.map_map]
  apply List.map_congr_left
  intro mention _
  rw [Function.comp_apply, Mention.event, Mention.event, List.append_assoc, List.append_assoc, Saying.event_moved]

theorem scan_moved (passed : List Char) (pieces : List Lexeme) :
    scan (.past .start (front ++ passed)) pieces = (scan (.past .start passed) pieces).map (Event.moved front) := by
  induction pieces generalizing passed with
  | nil => rfl
  | cons lexeme rest ih =>
    have later := ih (passed ++ lexeme.raw)
    rw [← List.append_assoc] at later
    rw [scan, scan, List.map_append, lexeme.events_moved, ← Mark.past_append, ← Mark.past_append, later]

theorem gather_moved (last : Token) (events : List Event) :
    gather (last.relocate (.shift front)) (events.map (Event.moved front)) = (gather last events).moved front := by
  induction events with
  | nil => rfl
  | cons event rest ih =>
    cases event with
    | token token =>
      rw [List.map_cons, Event.moved, gather, gather, ih, Lexing.moved, Lexing.moved]
      cases (gather last rest).result <;> rfl
    | warning diagnostic =>
      rw [List.map_cons, Event.moved, gather, gather, ih]
      rfl
    | fault error => rfl

theorem endToken_moved (first second : String) :
    endToken (first ++ second) = (endToken second).relocate (.shift first.toList) := by
  rw [endToken_eq, endToken_eq, String.toList_append, Position.behind_append]
  rfl

end Moving

section Closing

theorem startsWord_congr {first second : List Char} (same : first.head? = second.head?) :
    startsWord first = startsWord second := by
  cases first <;> cases second <;> cases same <;> rfl

/-- How far a piece goes is seen from the one character behind it. -/
theorem Lexeme.Maximal.congr {lexeme : Lexeme} {first second : List Char} (same : first.head? = second.head?)
    (maximal : lexeme.Maximal first) : lexeme.Maximal second := by
  have words := startsWord_congr same
  cases lexeme with
  | number whole fraction => cases fraction <;> simpa only [Maximal, Stops, same] using maximal
  | library gap name => cases name <;> simpa only [Maximal, Stops, same, words] using maximal
  | declaration gap typeName =>
    cases typeName with
    | enclosed => trivial
    | absent | word => simpa only [Maximal, Stops, same, words] using maximal
  | word => simpa only [Maximal, Stops, same] using maximal
  | _ => trivial

/-- A piece that yields nothing or ends with a semicolon does not go on, whatever is behind it. -/
theorem Lexeme.maximal_of_closed {lexeme : Lexeme} (formed : lexeme.WellFormed)
    (closed : ∀ form ∈ lexeme.forms.getLast?, form.1 = .semicolon) (rest : List Char) : lexeme.Maximal rest := by
  cases lexeme with
  | number whole fraction => cases fraction <;> cases closed _ rfl
  | word name => exact absurd (closed _ rfl) (wordKind_ne (by decide) _)
  | library gap name => cases name <;> cases closed _ rfl
  | declaration gap typeName => cases typeName <;> cases closed _ rfl
  | openText | emptyCharacter | openCharacter | openType | badType => cases formed
  | _ => trivial

theorem Lexeme.head?_raw_append {lexeme : Lexeme} (nonempty : lexeme.raw ≠ []) (first second : List Char) :
    (lexeme.raw ++ first).head? = (lexeme.raw ++ second).head? := by
  obtain ⟨c, later, raw⟩ := List.exists_cons_of_ne_nil nonempty
  rw [raw]
  rfl

/-- The pieces of a whole source whose last token, if it has one, is a semicolon fit in front of any text. -/
theorem Segmentation.extend {pieces : List Lexeme} (fitting : Segmentation [] pieces)
    (closed : ∀ form ∈ (pieces.flatMap Lexeme.forms).getLast?, form.1 = .semicolon) (tail : List Char) :
    Segmentation tail pieces := by
  induction fitting with
  | nil => exact .nil
  | @cons lexeme rest formed maximal later ih =>
    rw [List.flatMap_cons, List.getLast?_append] at closed
    have closedRest : ∀ form ∈ (rest.flatMap Lexeme.forms).getLast?, form.1 = .semicolon := by
      intro form member
      apply closed
      rw [Option.mem_def.mp member]
      rfl
    refine .cons formed ?_ (ih closedRest)
    cases rest with
    | nil => exact Lexeme.maximal_of_closed formed (by simpa using closed) _
    | cons next others =>
      -- The piece behind it begins with the same character.
      apply maximal.congr
      cases later with
      | cons formedNext _ _ =>
        rw [List.flatMap_cons, List.append_assoc, List.append_assoc]
        exact Lexeme.head?_raw_append formedNext.raw_ne_nil ..

end Closing

theorem scan_append (mark : Mark) (first second : List Lexeme) :
    scan mark (first ++ second) = scan mark first ++ scan (mark.past (first.flatMap Lexeme.raw)) second := by
  induction first generalizing mark with
  | nil => rfl
  | cons lexeme rest ih =>
    rw [List.cons_append, scan, scan, ih, List.append_assoc, List.flatMap_cons, Mark.past_append]

section Portions

variable {first : String} {earlier : List Token} {semicolon last : Token}

theorem token?_of_tokenize {tokens : List Token} (lexed : (tokenize first).result = .ok (tokens ++ [last])) :
    (events first).filterMap Event.token? = tokens := by
  have faultless := faultless_of_gather _ lexed
  rw [tokenize, gather_of_faultless _ faultless] at lexed
  exact List.append_inj_left' (Except.ok.inj lexed) rfl

/-- The pieces of a source whose last token is a semicolon, with any text behind it. -/
theorem segmentation_of_closed (lexed : (tokenize first).result = .ok (earlier ++ [semicolon] ++ [last]))
    (closed : semicolon.kind = .semicolon) (tail : List Char) : Segmentation tail (lexemes first.toList) := by
  have fitting := segmentation_of_tokenize lexed
  apply fitting.extend
  intro form member
  rw [← fitting.form_scan .start, ← events, token?_of_tokenize lexed] at member
  simp only [List.map_append, List.map_cons, List.map_nil, List.getLast?_concat, Option.mem_some_iff] at member
  rw [← member]
  exact closed

theorem events_append (second : String) (fitting : Segmentation second.toList (lexemes first.toList)) :
    events (first ++ second) = events first ++ (events second).map (Event.moved first.toList) := by
  have pieces := lexemes_append fitting
  rw [flatMap_raw_lexemes] at pieces
  rw [events, String.toList_append, pieces, scan_append, flatMap_raw_lexemes]
  have moved := scan_moved first.toList [] (lexemes second.toList)
  rw [List.append_nil] at moved
  rw [moved]
  rfl

end Portions

/-- Behind a source whose last token is a semicolon, a second one yields what it yields alone: its tokens and warnings
come behind those of the first, without the first end, and stand where the second source now stands. So does its
fault, with a span that is moved by the bytes of the first. -/
theorem tokenize_append {first : String} {earlier : List Token} {semicolon last : Token}
    (lexed : (tokenize first).result = .ok (earlier ++ [semicolon, last])) (closed : semicolon.kind = .semicolon)
    (second : String) :
    (tokenize (first ++ second)).warnings =
      (tokenize first).warnings ++ (tokenize second).warnings.map (Diagnostic.relocate (.shift first.toList)) ∧
    (tokenize (first ++ second)).result =
      match (tokenize second).result with
      | .ok tokens => .ok (earlier ++ semicolon :: tokens.map (Token.relocate (.shift first.toList)))
      | .error error => .error (error.moved first.toList) := by
  have split : earlier ++ [semicolon, last] = earlier ++ [semicolon] ++ [last] := by simp
  rw [split] at lexed
  have faultless := faultless_of_gather _ lexed
  have joined : tokenize (first ++ second) =
      gather ((endToken second).relocate (.shift first.toList))
        (events first ++ (events second).map (Event.moved first.toList)) := by
    rw [tokenize, endToken_moved, events_append second (segmentation_of_closed lexed closed _)]
  have alone : (tokenize first).warnings = (events first).filterMap Event.warning? := by
    rw [tokenize, gather_of_faultless _ faultless]
  rw [joined, gather_append _ faultless, gather_moved, token?_of_tokenize lexed, alone]
  refine ⟨rfl, ?_⟩
  rw [Lexing.moved, tokenize]
  cases (gather (endToken second) (events second)).result with
  | ok tokens => simp [Except.map]
  | error error => rfl

theorem tokenize_append_fault :
    (tokenize "\"é\\q\";\n ").result =
      .ok ([⟨.text, "é\\q", ⟨1, 1⟩⟩] ++ [⟨.semicolon, ";", ⟨1, 6⟩⟩, ⟨.endOfFile, "", ⟨2, 2⟩⟩]) ∧
    (tokenize ("\"é\\q\";\n " ++ "#\n'y")).warnings.map (·.position) = [some ⟨1, 4⟩, some ⟨2, 2⟩] ∧
    (tokenize ("\"é\\q\";\n " ++ "#\n'y")).result = .error ⟨.unclosedCharacter, ⟨3, 1⟩, 11, 13⟩ := by
  have lexed : (tokenize "\"é\\q\";\n ").result =
      .ok ([⟨.text, "é\\q", ⟨1, 1⟩⟩] ++ [⟨.semicolon, ";", ⟨1, 6⟩⟩, ⟨.endOfFile, "", ⟨2, 2⟩⟩]) := by
    with_unfolding_all rfl
  have fault : (tokenize "#\n'y").result = .error ⟨.unclosedCharacter, ⟨2, 1⟩, 2, 4⟩ := by
    with_unfolding_all rfl
  obtain ⟨warnings, result⟩ := tokenize_append lexed rfl "#\n'y"
  refine ⟨lexed, ?_, ?_⟩
  · rw [warnings]
    decide +kernel
  · rw [result, fault]
    rfl

end StreamScript.Source
