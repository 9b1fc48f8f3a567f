import StreamScript.Proofs.ReaderCalls

/-! Where tokens, warnings and faults point to. Each of them is about one character of one piece, and its place is told
by the text in front of this character. -/

namespace StreamScript.Source

/-- The parts of a quoted string, whether it is closed or not. -/
def Lexeme.body : Lexeme → List BodyPart
  | text body => body
  | openText body _ => body
  | _ => []

/-- What is said of which character `c` of a piece, with the text `inside` in front of it. -/
inductive Lexeme.Tells : Lexeme → Saying → (inside : List Char) → (c : Char) → Prop where
  | token {lexeme : Lexeme} {kind : Kind} {literal : List Char} {c : Char}
      (first : lexeme.forms.head? = some (kind, String.ofList literal)) :
      Tells lexeme (.token kind literal) [] c
  | enclosedType {gap letters : List Char} {c : Char} (first : (letters ++ [')']).head? = some c) :
      Tells (.declaration gap (.enclosed letters)) (.token .identifier (Text.upper letters)) (varText ++ gap ++ ['(']) c
  | typeWord {gap name : List Char} {c : Char} (first : name.head? = some c) :
      Tells (.declaration gap (.word name)) (.token .identifier (Text.upper name)) (varText ++ gap) c
  | stray {c : Char} : Tells (.stray c) (.warning ("Unknown character: '" ++ c.toString ++ "'")) [] c
  | escape {lexeme : Lexeme} {before after : List BodyPart} {c : Char}
      (body : lexeme.body = before ++ .pair c :: after) (unknown : c ∉ escapeLetters) :
      Tells lexeme (.warning ("Unknown escape sequence \\" ++ c.toString ++ " in string literal"))
        ('"' :: bodyRaw before ++ ['\\']) c
  | openText {body : List BodyPart} {dangling : Bool} :
      Tells (.openText body dangling) (.fault (if dangling then .danglingEscape else .unclosedString)) [] '"'
  | emptyCharacter {closed : Bool} : Tells (.emptyCharacter closed) (.fault .emptyCharacter) [] '\''
  | openCharacter {c : Char} {next : Option Char} : Tells (.openCharacter c next) (.fault .unclosedCharacter) [] '\''
  | openType {gap letters : List Char} : Tells (.openType gap letters) (.fault .unclosedType) (varText ++ gap) '('
  | badType {gap letters : List Char} {bad : Char} :
      Tells (.badType gap letters bad) (.fault (.invalidTypeCharacter bad)) (varText ++ gap ++ '(' :: letters) bad

/-- The event is about a character of the piece. Its place is the one behind all text in front of this character, and
the span of a fault reaches from there to the end of the piece. -/
inductive Piece.Yields {source : List Char} (piece : Piece source) : Event → Prop where
  | intro {saying : Saying} {inside rest : List Char} {c : Char} (within : piece.lexeme.raw = inside ++ c :: rest)
      (tells : piece.lexeme.Tells saying inside c) :
      Yields piece (saying.event (piece.front ++ inside) (piece.front ++ piece.lexeme.raw))

/-- A span of bytes holds at least one character, and characters of the source only. -/
structure Spans (source : String) (start stop : Nat) : Prop where
  nonempty : start < stop
  inside : stop ≤ source.utf8ByteSize
  startsCharacter : (String.Pos.Raw.mk start).IsValid source
  endsCharacter : (String.Pos.Raw.mk stop).IsValid source

section Mentions

theorem exists_pair_of_mem_bodyMentions {inside : List Char} {body : List BodyPart} {mention : Mention}
    (member : mention ∈ bodyMentions inside body) :
    ∃ before c after, body = before ++ .pair c :: after ∧ c ∉ escapeLetters ∧ mention =
      ⟨inside ++ bodyRaw before ++ ['\\'],
        .warning ("Unknown escape sequence \\" ++ c.toString ++ " in string literal")⟩ := by
  induction body generalizing inside with
  | nil => cases member
  | cons part rest ih =>
    rcases List.mem_append.mp member with here | later
    · obtain ⟨notice, noticed, rfl⟩ := Option.map_eq_some_iff.mp (Option.mem_toList.mp here)
      cases part with
      | plain c => cases noticed
      | pair c =>
        simp only [BodyPart.notice?] at noticed
        split at noticed
        next => cases noticed
        next unknown =>
          cases noticed
          exact ⟨[], c, rest, rfl, unknown, by simp [bodyRaw]⟩
    · obtain ⟨before, c, after, rfl, unknown, rfl⟩ := ih later
      exact ⟨part :: before, c, after, rfl, unknown, by simp [bodyRaw]⟩

namespace Lexeme

variable {lexeme : Lexeme} {mention : Mention}

/-- A warning about a string is about the second character of a pair. -/
theorem tells_of_mem_bodyMentions (closing : List Char) (raw : lexeme.raw = '"' :: (bodyRaw lexeme.body ++ closing))
    (member : mention ∈ bodyMentions ['"'] lexeme.body) :
    ∃ c rest, lexeme.raw = mention.inside ++ c :: rest ∧ lexeme.Tells mention.saying mention.inside c := by
  obtain ⟨before, c, after, body, unknown, rfl⟩ := exists_pair_of_mem_bodyMentions member
  refine ⟨c, bodyRaw after ++ closing, ?_, .escape body unknown⟩
  simp [raw, body, bodyRaw, BodyPart.raw]

theorem tells_of_mem_warned (member : mention ∈ lexeme.warned) :
    ∃ c rest, lexeme.raw = mention.inside ++ c :: rest ∧ lexeme.Tells mention.saying mention.inside c := by
  cases lexeme with
  | stray c =>
    cases List.mem_singleton.mp member
    exact ⟨c, [], rfl, .stray⟩
  | text body => exact tells_of_mem_bodyMentions ['"'] rfl member
  | openText body dangling => exact tells_of_mem_bodyMentions _ rfl member
  | _ => cases member

theorem TypeName.tells_of_mem_mentions {gap : List Char} {typeName : TypeName}
    (formed : (Lexeme.declaration gap typeName).WellFormed) (member : mention ∈ typeName.mentions (varText ++ gap)) :
    ∃ c rest, (Lexeme.declaration gap typeName).raw = mention.inside ++ c :: rest ∧
      (Lexeme.declaration gap typeName).Tells mention.saying mention.inside c := by
  cases typeName with
  | absent => cases member
  | enclosed letters =>
    cases List.mem_singleton.mp member
    obtain ⟨c, rest, first⟩ := @List.exists_cons_of_ne_nil _ (letters ++ [')']) (by simp)
    refine ⟨c, rest, ?_, .enclosedType (by simp [first])⟩
    simp [raw, TypeName.raw, first]
  | word name =>
    cases List.mem_singleton.mp member
    obtain ⟨c, rest, rfl, _⟩ := formed.2.2.exists_cons
    exact ⟨c, rest, rfl, .typeWord rfl⟩

/-- The first token of a piece is about its first character. -/
theorem tells_first {kind : Kind} {literal : List Char} (nonempty : lexeme.raw ≠ [])
    (first : lexeme.forms.head? = some (kind, String.ofList literal)) :
    ∃ c rest, lexeme.raw = [] ++ c :: rest ∧ lexeme.Tells (.token kind literal) [] c := by
  obtain ⟨c, rest, raw⟩ := List.exists_cons_of_ne_nil nonempty
  exact ⟨c, rest, raw, .token first⟩

theorem Found.tells_of_mem_answered (found : lexeme.Found) (member : mention ∈ lexeme.answered) :
    ∃ c rest, lexeme.raw = mention.inside ++ c :: rest ∧ lexeme.Tells mention.saying mention.inside c := by
  have some := found.nonempty
  cases lexeme with
  | blank | stray => cases member
  | symbol kind c =>
    cases List.mem_singleton.mp member
    exact tells_first some rfl
  | number whole fraction =>
    cases List.mem_singleton.mp member
    cases fraction with
    | none => exact tells_first some (by simp [forms, numberKind, fractionRaw])
    | some digits => exact tells_first some rfl
  | word | character =>
    cases List.mem_singleton.mp member
    exact tells_first some rfl
  | text body =>
    cases List.mem_singleton.mp member
    have formed := found.formed rfl
    exact tells_first some (by simp [forms, Text.unescape, bodyLiteral_eq formed])
  | library gap name =>
    cases List.mem_singleton.mp member
    cases name <;> exact tells_first some rfl
  | declaration gap typeName =>
    rcases List.mem_cons.mp member with rfl | later
    · exact tells_first some (by cases typeName <;> rfl)
    · exact TypeName.tells_of_mem_mentions (found.formed rfl) later
  | openText body dangling =>
    cases List.mem_singleton.mp member
    exact ⟨'"', _, rfl, .openText⟩
  | emptyCharacter closed =>
    cases List.mem_singleton.mp member
    exact ⟨'\'', _, rfl, .emptyCharacter⟩
  | openCharacter c next =>
    cases List.mem_singleton.mp member
    exact ⟨'\'', _, rfl, .openCharacter⟩
  | openType gap letters =>
    cases List.mem_singleton.mp member
    exact ⟨'(', letters, rfl, .openType⟩
  | badType gap letters bad =>
    cases List.mem_singleton.mp member
    exact ⟨bad, [], by simp [raw], .badType⟩

/-- Everything that a piece says is about one of its characters. -/
theorem Found.tells (found : lexeme.Found) (member : mention ∈ lexeme.warned ++ lexeme.answered) :
    ∃ c rest, lexeme.raw = mention.inside ++ c :: rest ∧ lexeme.Tells mention.saying mention.inside c := by
  rcases List.mem_append.mp member with warned | answered
  · exact tells_of_mem_warned warned
  · exact found.tells_of_mem_answered answered

end Lexeme

end Mentions

namespace Piece

variable {source : List Char} (piece : Piece source)

theorem yields_of_mem {mention : Mention} (member : mention ∈ piece.lexeme.warned ++ piece.lexeme.answered) :
    piece.Yields (mention.event piece.front piece.lexeme.raw) := by
  obtain ⟨c, rest, within, told⟩ := piece.found.tells member
  exact .intro within told

/-- A character of a piece is a character of the source, and the piece ends in the source. -/
theorem source_eq_of_within {inside rest : List Char} {c : Char} (within : piece.lexeme.raw = inside ++ c :: rest) :
    source = piece.front ++ inside ++ c :: (rest ++ piece.unread) := by
  have whole := piece.source_eq
  rw [within] at whole
  simpa using whole

end Piece

section Places

variable {source : String}

theorem isValid_byteSize {front rest : List Char} (split : source.toList = front ++ rest) :
    (String.Pos.Raw.mk (Text.byteSize front)).IsValid source := by
  rw [String.Pos.Raw.isValid_iff_exists_append]
  refine ⟨String.ofList front, String.ofList rest, ?_, rfl⟩
  rw [← String.ofList_append, ← split, String.ofList_toList]

/-- From a character of a piece to the end of the piece. -/
theorem Piece.spans (piece : Piece source.toList) {inside rest : List Char} {c : Char}
    (within : piece.lexeme.raw = inside ++ c :: rest) :
    Spans source (Text.byteSize (piece.front ++ inside)) (Text.byteSize (piece.front ++ piece.lexeme.raw)) := by
  have whole : source.utf8ByteSize = Text.byteSize (piece.front ++ piece.lexeme.raw) + Text.byteSize piece.unread := by
    rw [← Text.byteSize_append, ← piece.source_eq, Text.byteSize, String.ofList_toList]
  constructor
  · have some := Text.byteSize_cons_pos c rest
    rw [within, ← List.append_assoc, Text.byteSize_append _ (c :: rest)]
    exact Nat.lt_add_of_pos_right some
  · rw [whole]
    exact Nat.le_add_right ..
  · exact isValid_byteSize (piece.source_eq_of_within within)
  · exact isValid_byteSize piece.source_eq

theorem Piece.Yields.spans {piece : Piece source.toList} {error : Error} (yields : piece.Yields (.fault error)) :
    Spans source error.start error.stop := by
  generalize blamed : Event.fault error = event at yields
  obtain @⟨saying, _, _, _, within, _⟩ := yields
  cases saying with
  | token | warning => cases blamed
  | fault fault =>
    cases blamed
    exact piece.spans within

/-- Where an event points to. -/
def Event.place? : Event → Option Position
  | .token found => some found.position
  | .warning diagnostic => diagnostic.position
  | .fault error => some error.position

/-- A source has at least as many characters as the line and the column of one of its characters. -/
theorem Piece.Yields.small {piece : Piece source.toList} {event : Event} {place : Position}
    (yields : piece.Yields event) (points : event.place? = some place) :
    place.line ≤ source.length ∧ place.column ≤ source.length := by
  obtain @⟨saying, inside, rest, c, within, _⟩ := yields
  have same : place = .behind (piece.front ++ inside) := by
    cases saying <;> exact (Option.some.inj points).symm
  have fewer := congrArg List.length (piece.source_eq_of_within within)
  have bound := Position.behind_le_length (piece.front ++ inside)
  rw [List.length_append, List.length_cons, String.length_toList] at fewer
  rw [same]
  omega

end Places

/-- Where an answer points to. -/
def answerPlace : Except Error Token → Position
  | .ok token => token.position
  | .error error => error.position

section Order

variable {front raw : List Char}

theorem answerPlace_of_event {mention : Mention} {answer : Except Error Token}
    (answers : (mention.event front raw).answer? = some answer) :
    answerPlace answer = .behind (front ++ mention.inside) := by
  obtain ⟨inside, saying⟩ := mention
  cases saying with
  | token | fault =>
    cases answers
    rfl
  | warning => cases answers

/-- The answers of one piece go on from left to right. -/
theorem Lexeme.pairwise_answered (lexeme : Lexeme) :
    lexeme.answered.Pairwise fun earlier later => ∃ c more, later.inside = earlier.inside ++ c :: more := by
  cases lexeme with
  | blank | stray => exact .nil
  | declaration gap typeName =>
    refine .cons ?_ ?_
    · intro later member
      cases typeName with
      | absent => cases member
      | enclosed | word =>
        cases List.mem_singleton.mp member
        exact ⟨'v', _, rfl⟩
    · cases typeName with
      | absent => exact .nil
      | enclosed | word => exact List.pairwise_singleton ..
  | _ => exact List.pairwise_singleton ..

theorem Lexeme.pairwise_answers (lexeme : Lexeme) :
    ((lexeme.events (.past .start front)).filterMap Event.answer?).Pairwise fun earlier later =>
      answerPlace earlier < answerPlace later := by
  rw [lexeme.filterMap_answer?_events, List.pairwise_filterMap]
  refine lexeme.pairwise_answered.imp ?_
  rintro first second ⟨c, more, behind⟩ earlier answers later answersLater
  rw [answerPlace_of_event answers, answerPlace_of_event answersLater, behind, ← List.append_assoc]
  exact Position.behind_lt_behind_append ..

/-- An answer of a row of pieces points behind a text that is shorter than the row. -/
theorem exists_of_mem_answers {pieces : List Lexeme} {answer : Except Error Token}
    (found : ∀ piece ∈ pieces, piece.Found)
    (member : answer ∈ (scan (.past .start front) pieces).filterMap Event.answer?) :
    ∃ inside c rest, pieces.flatMap Lexeme.raw = inside ++ c :: rest ∧
      answerPlace answer = .behind (front ++ inside) := by
  obtain ⟨event, scanned, answers⟩ := List.mem_filterMap.mp member
  obtain ⟨passed, behind, split⟩ := List.append_of_mem scanned
  obtain ⟨earlier, lexeme, later, said, mention, unsaid, rfl, mentions, rfl, _⟩ :=
    exists_mention_of_scan_eq front split
  have among : mention ∈ lexeme.warned ++ lexeme.answered := by simp [mentions]
  obtain ⟨c, rest, within, _⟩ := (found lexeme (by simp)).tells among
  refine ⟨earlier.flatMap Lexeme.raw ++ mention.inside, c, rest ++ later.flatMap Lexeme.raw, by simp [within], ?_⟩
  rw [answerPlace_of_event answers, List.append_assoc]

theorem pairwise_answers_scan {pieces : List Lexeme} (found : ∀ piece ∈ pieces, piece.Found) :
    ((scan (.past .start front) pieces).filterMap Event.answer?).Pairwise fun earlier later =>
      answerPlace earlier < answerPlace later := by
  induction pieces generalizing front with
  | nil => exact .nil
  | cons lexeme rest ih =>
    have later := fun piece member => found piece (List.mem_cons_of_mem lexeme member)
    rw [scan, ← Mark.past_append, List.filterMap_append, List.pairwise_append]
    refine ⟨lexeme.pairwise_answers, ih later, ?_⟩
    intro first here second behind
    rw [lexeme.filterMap_answer?_events] at here
    obtain ⟨mention, member, answers⟩ := List.mem_filterMap.mp here
    obtain ⟨c, more, within, _⟩ := (found lexeme (List.mem_cons_self ..)).tells_of_mem_answered member
    obtain ⟨inside, _, _, _, place⟩ := exists_of_mem_answers later behind
    have text : front ++ lexeme.raw ++ inside = front ++ mention.inside ++ c :: (more ++ inside) := by simp [within]
    rw [answerPlace_of_event answers, place, text]
    exact Position.behind_lt_behind_append ..

end Order

namespace Reading

/-- Where the answer of a reading points to. -/
def place (reading : Reading) : Position := answerPlace reading.result

/-- Where a reading points to. -/
def places (reading : Reading) : List Position := reading.warnings.filterMap (·.position) ++ [reading.place]

end Reading

/-- What a reading is about. The warnings and the token or the fault are about characters of pieces, unless the token
is the end; its place is behind all of the source. A fault takes in its piece: `unread` begins with the piece that is
read from the text behind it, and the span of the fault ends there. -/
structure Located (source : String) (reading : Reading) (unread : List Event) : Prop where
  warnings : ∀ warning ∈ reading.warnings, ∃ piece : Piece source.toList, piece.Yields (.warning warning)
  token : ∀ token, reading.result = .ok token →
    if token.kind = .endOfFile then token.position = .behind source.toList
    else ∃ piece : Piece source.toList, piece.Yields (.token token)
  fault : ∀ error, reading.result = .error error → Spans source error.start error.stop ∧
    ∃ piece : Piece source.toList, piece.Yields (.fault error) ∧
      unread = scan (.past .start (piece.front ++ piece.lexeme.raw)) (lexemes piece.unread)
  small : ∀ place ∈ reading.places,
    place = .behind source.toList ∨ place.line ≤ source.length ∧ place.column ≤ source.length

section Readings

variable (source : String)

theorem pairwise_answers :
    (Scanner.ofSource source).answers.Pairwise fun earlier later => answerPlace earlier < answerPlace later :=
  @pairwise_answers_scan [] _ fun _ member => found_of_mem_lexemes member

theorem answerPlace_lt_end {answer : Except Error Token} (member : answer ∈ (Scanner.ofSource source).answers) :
    answerPlace answer < .behind source.toList := by
  obtain ⟨inside, c, rest, whole, place⟩ :=
    @exists_of_mem_answers [] _ _ (fun _ inside => found_of_mem_lexemes inside) member
  rw [flatMap_raw_lexemes] at whole
  rw [place, whole]
  exact Position.behind_lt_behind_append ..

/-- A reading that is not the end is an answer. -/
theorem lt_length_of_isEnd {call : Nat} (more : ((Scanner.ofSource source).after call).next.1.isEnd = false) :
    call < (Scanner.ofSource source).answers.length := by
  rw [← Nat.not_le]
  intro done
  have result := Scanner.result_after (.ofSource source) call
  rw [List.getElem?_eq_none done, Option.getD_none] at result
  rw [Reading.isEnd, result] at more
  cases more

/-- Until the end is handed out, every reading points farther to the right than those before it. -/
theorem pairwise_readings (count : Nat) :
    ((Scanner.ofSource source).readings count).Pairwise fun earlier later =>
      earlier.isEnd = false → earlier.place < later.place := by
  rw [Scanner.readings_eq, List.pairwise_map]
  refine List.pairwise_lt_range.imp ?_
  intro first second before more
  have early := lt_length_of_isEnd source more
  rw [Reading.place, Reading.place, Scanner.result_after, Scanner.result_after, List.getElem?_eq_getElem early]
  by_cases late : second < (Scanner.ofSource source).answers.length
  · rw [List.getElem?_eq_getElem late]
    exact List.pairwise_iff_getElem.mp (pairwise_answers source) first second early late before
  · rw [List.getElem?_eq_none (Nat.le_of_not_lt late)]
    have last : (Scanner.ofSource source).last = endToken source := rfl
    rw [Option.getD_none, last, endToken_eq]
    exact answerPlace_lt_end source (List.getElem_mem early)

end Readings

section Calls

variable {source : String}

theorem unread_after_suffix (scanner : Scanner) (count : Nat) : (scanner.after count).unread <:+ scanner.unread := by
  induction count generalizing scanner with
  | zero => exact List.suffix_rfl
  | succ count ih => exact (ih scanner.next.2).trans scanner.call_next.suffix

theorem exists_yields_of_mem_events {event : Event} (member : event ∈ events source) :
    ∃ piece : Piece source.toList, piece.Yields event := by
  obtain ⟨piece, mention, mentioned, rfl⟩ := exists_piece_of_mem_events member
  exact ⟨piece, piece.yields_of_mem mentioned⟩

/-- A piece that went wrong has one answer. -/
theorem Lexeme.answered_of_fault {lexeme : Lexeme} {inside : List Char} {fault : Fault}
    (member : ⟨inside, .fault fault⟩ ∈ lexeme.answered) : lexeme.answered = [⟨inside, .fault fault⟩] := by
  cases lexeme with
  | blank | stray => cases member
  | declaration gap typeName =>
    rcases List.mem_cons.mp member with same | later
    · cases same
    · cases typeName with
      | absent => cases later
      | enclosed | word => cases List.mem_singleton.mp later
  | _ => exact congrArg (fun mention => [mention]) (List.mem_singleton.mp member).symm

/-- A fault ends what a piece has to say. -/
theorem Lexeme.unsaid_of_fault {lexeme : Lexeme} {said unsaid : List Mention} {inside : List Char} {fault : Fault}
    (mentions : lexeme.warned ++ lexeme.answered = said ++ ⟨inside, .fault fault⟩ :: unsaid) : unsaid = [] := by
  have among : ⟨inside, .fault fault⟩ ∈ lexeme.answered := mem_answered_of_mem (by simp [mentions]) rfl
  rw [answered_of_fault among] at mentions
  rcases List.eq_nil_or_concat unsaid with rfl | ⟨more, final, rfl⟩
  · rfl
  · rw [List.concat_eq_append, ← List.cons_append, ← List.append_assoc] at mentions
    have warned := List.append_inj_left' mentions rfl
    have silent : ⟨inside, .fault fault⟩ ∈ lexeme.warned := by simp [warned]
    cases isWarning_of_mem_warned silent

/-- Behind a fault, reading goes on with the text behind its piece. -/
theorem exists_yields_of_fault {error : Error} {passed behind : List Event}
    (split : events source = passed ++ .fault error :: behind) :
    ∃ piece : Piece source.toList, piece.Yields (.fault error) ∧
      behind = scan (.past .start (piece.front ++ piece.lexeme.raw)) (lexemes piece.unread) := by
  obtain ⟨piece, said, ⟨inside, saying⟩, unsaid, mentions, same, unread⟩ := exists_piece_of_events_eq split
  cases saying with
  | token | warning => cases same
  | fault fault =>
    obtain rfl := Lexeme.unsaid_of_fault mentions
    refine ⟨piece, ?_, unread⟩
    rw [same]
    exact piece.yields_of_mem (by simp [mentions])

/-- A call that begins with the last events of a source. -/
theorem Call.located {reading : Reading} {passed events unread : List Event}
    (split : Source.events source = passed ++ events) (call : Call (endToken source) events reading unread) :
    Located source reading unread := by
  have warnings : ∀ warning ∈ reading.warnings, ∃ piece : Piece source.toList, piece.Yields (.warning warning) := by
    intro warning member
    apply exists_yields_of_mem_events
    cases call <;> simp [split, member]
  have smallWarnings : ∀ place ∈ reading.warnings.filterMap (·.position),
      place.line ≤ source.length ∧ place.column ≤ source.length := by
    intro place member
    obtain ⟨warning, among, points⟩ := List.mem_filterMap.mp member
    obtain ⟨piece, yields⟩ := warnings warning among
    exact yields.small points
  cases call with
  | finish =>
    refine ⟨warnings, ?_, ?_, ?_⟩
    · intro token same
      cases same
      rw [endToken_eq, if_pos rfl]
    · intro error same
      cases same
    · intro place member
      rcases List.mem_append.mp member with warned | last
      · exact .inr (smallWarnings place warned)
      · cases List.mem_singleton.mp last
        rw [endToken_eq]
        exact .inl rfl
  | @answer before event result _ answers =>
    rw [← List.append_assoc] at split
    have among : event ∈ Source.events source := by simp [split]
    obtain ⟨piece, yields⟩ := exists_yields_of_mem_events among
    refine ⟨warnings, ?_, ?_, ?_⟩
    · rintro token rfl
      have answered : .ok token ∈ (Scanner.ofSource source).answers :=
        List.mem_filterMap.mpr ⟨event, among, answers⟩
      cases event with
      | token found =>
        cases answers
        rw [if_neg (kind_ne_of_mem_answers source answered)]
        exact ⟨piece, yields⟩
      | warning | fault => cases answers
    · rintro error rfl
      cases event with
      | fault found =>
        cases answers
        exact ⟨yields.spans, exists_yields_of_fault split⟩
      | token | warning => cases answers
    · intro place member
      rcases List.mem_append.mp member with warned | last
      · exact .inr (smallWarnings place warned)
      · cases List.mem_singleton.mp last
        refine .inr (yields.small ?_)
        cases event with
        | token | fault =>
          cases answers
          rfl
        | warning => cases answers

end Calls

/-- However many calls were made, and whatever they answered: everything that the next one hands out is about a
character of the source, or is the end. Up to the end, readings go on from left to right. -/
theorem calls_located (source : String) (count : Nat) :
    Located source ((Scanner.ofSource source).after count).next.1
      ((Scanner.ofSource source).after count).next.2.unread ∧
    ((Scanner.ofSource source).readings count).Pairwise fun earlier later =>
      earlier.isEnd = false → earlier.place < later.place := by
  obtain ⟨passed, whole⟩ := unread_after_suffix (.ofSource source) count
  have taken := ((Scanner.ofSource source).after count).call_next
  rw [Scanner.after_last] at taken
  exact ⟨taken.located whole.symm, pairwise_readings source count⟩

end StreamScript.Source
