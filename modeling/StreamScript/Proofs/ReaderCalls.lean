import StreamScript.Proofs.PieceMentions

/-! Calls of a reader, one after the other. Each call takes the warnings in front of the next token or fault and that
token or fault; once there is none left, it takes what warnings there are and answers with the end of the source. -/

namespace StreamScript.Source

/-- What a call hands out for an event that it stops at. -/
def Event.answer? : Event → Option (Except Error Token)
  | .token found => some (.ok found)
  | .fault error => some (.error error)
  | .warning _ => none

namespace Reading

/-- The reading hands out the end of the source. -/
def isEnd (reading : Reading) : Bool :=
  match reading.result with
  | .ok token => token.is .endOfFile
  | .error _ => false

end Reading

/-- What a loop gathers that asks for one reading after the other, until one of them fails. -/
def Lexing.ofReadings : List Reading → Lexing
  | [] => ⟨[], .ok []⟩
  | reading :: rest =>
    match reading.result with
    | .error error => ⟨reading.warnings, .error error⟩
    | .ok token =>
      ⟨reading.warnings ++ (ofReadings rest).warnings, (ofReadings rest).result.map (token :: ·)⟩

/-- One call: the events before it, the reading and the events after it. -/
inductive Call (last : Token) : List Event → Reading → List Event → Prop where
  | answer {warnings : List Diagnostic} {event : Event} {result : Except Error Token} {unread : List Event}
      (answers : event.answer? = some result) :
      Call last (warnings.map .warning ++ event :: unread) ⟨warnings, result⟩ unread
  | finish {warnings : List Diagnostic} : Call last (warnings.map .warning) ⟨warnings, .ok last⟩ []

namespace Call

variable {last : Token} {events unread : List Event} {reading : Reading}

/-- A call takes the first answer, and once there is none it answers with the end. -/
theorem answers (call : Call last events reading unread) :
    reading.result = (events.filterMap Event.answer?).headD (.ok last) ∧
    unread.filterMap Event.answer? = (events.filterMap Event.answer?).tail := by
  have silent : ∀ warnings : List Diagnostic, (warnings.map Event.warning).filterMap Event.answer? = [] := by
    intro warnings
    simp [Event.answer?]
  cases call with
  | answer answers => simp [silent, answers]
  | finish => simp [silent]

/-- What a call leaves are the last events. -/
theorem suffix (call : Call last events reading unread) : unread <:+ events := by
  cases call with
  | @answer warnings event _ _ _ => exact ⟨warnings.map .warning ++ [event], by simp⟩
  | finish => exact List.nil_suffix

end Call

namespace Scanner

theorem call_nextOf (last : Token) (events : List Event) :
    Call last events (nextOf last events).1 (nextOf last events).2 := by
  fun_induction nextOf last events with
  | case1 => exact @Call.finish last []
  | case2 token rest => exact @Call.answer last [] (.token token) _ rest rfl
  | case3 error rest => exact @Call.answer last [] (.fault error) _ rest rfl
  | case4 diagnostic rest reading unread read ih =>
    rw [read] at ih
    cases ih with
    | @answer warnings event result _ answers => exact @Call.answer last (diagnostic :: warnings) event result _ answers
    | @finish warnings => exact @Call.finish last (diagnostic :: warnings)

/-- The reader after so many calls. -/
def after (scanner : Scanner) : Nat → Scanner
  | 0 => scanner
  | count + 1 => scanner.next.2.after count

/-- The tokens and faults that are still to be handed out. -/
def answers (scanner : Scanner) : List (Except Error Token) := scanner.unread.filterMap Event.answer?

section Calls

variable (scanner : Scanner)

theorem call_next : Call scanner.last scanner.unread scanner.next.1 scanner.next.2.unread :=
  call_nextOf scanner.last scanner.unread

theorem next_answers :
    scanner.next.1.result = scanner.answers.headD (.ok scanner.last) ∧
    scanner.next.2.answers = scanner.answers.tail :=
  scanner.call_next.answers

theorem after_answers (count : Nat) : (scanner.after count).answers = scanner.answers.drop count := by
  induction count generalizing scanner with
  | zero => rfl
  | succ count ih => rw [after, ih, scanner.next_answers.2, List.drop_tail]

theorem after_last (count : Nat) : (scanner.after count).last = scanner.last := by
  induction count generalizing scanner with
  | zero => rfl
  | succ count ih => exact ih scanner.next.2

/-- The calls are answered in order, and from then on with the end. -/
theorem result_after (count : Nat) :
    (scanner.after count).next.1.result = scanner.answers[count]?.getD (.ok scanner.last) := by
  rw [(scanner.after count).next_answers.1, after_answers, after_last, List.headD_eq_head?_getD, List.head?_drop]

theorem readings_eq (count : Nat) :
    scanner.readings count = (List.range count).map fun call => (scanner.after call).next.1 := by
  induction count generalizing scanner with
  | zero => rfl
  | succ count ih =>
    rw [readings, ih, List.range_succ_eq_map, List.map_cons, List.map_map]
    rfl

theorem remaining_eq : scanner.remaining = scanner.answers.length := by
  rw [remaining, answers, List.length_filterMap_eq_countP]
  congr 1
  funext event
  cases event <;> rfl

end Calls

/-- Gathering the events is asking for readings until the end or a fault. -/
theorem gather_eq_ofReadings (last : Token) (events : List Event) :
    gather last events = .ofReadings ((Scanner.mk events last).readings ((Scanner.mk events last).remaining + 1)) := by
  induction events with
  | nil => rfl
  | cons event rest ih =>
    cases event with
    | token token =>
      have more : (Scanner.mk (.token token :: rest) last).remaining = (Scanner.mk rest last).remaining + 1 := by
        simp [remaining]
      rw [gather, ih, more]
      rfl
    | fault error => rfl
    | warning diagnostic =>
      have same : (Scanner.mk (.warning diagnostic :: rest) last).remaining = (Scanner.mk rest last).remaining := by
        simp [remaining]
      rw [gather, ih, same, readings, readings, Lexing.ofReadings, Lexing.ofReadings]
      simp only [next, nextOf]
      cases (nextOf last rest).1.result <;> rfl

end Scanner

section Sources

theorem isSome_answer?_event (front raw : List Char) (mention : Mention) :
    (mention.event front raw).answer?.isSome = !mention.saying.isWarning := by
  obtain ⟨inside, saying⟩ := mention
  cases saying <;> rfl

/-- The warnings of a piece answer nothing. -/
theorem Lexeme.filterMap_answer?_events (front : List Char) (lexeme : Lexeme) :
    (lexeme.events (.past .start front)).filterMap Event.answer? =
      lexeme.answered.filterMap fun mention => (mention.event front lexeme.raw).answer? := by
  have silent : (lexeme.warned.map (Mention.event front lexeme.raw)).filterMap Event.answer? = [] := by
    rw [List.filterMap_map, List.filterMap_eq_nil_iff]
    intro mention member
    have warning := isSome_answer?_event front lexeme.raw mention
    rw [isWarning_of_mem_warned member] at warning
    simpa using warning
  rw [lexeme.events_eq, List.map_append, List.filterMap_append, silent, List.nil_append, List.filterMap_map]
  rfl

/-- There are no more answers than characters. -/
theorem length_answers_scan_le (front : List Char) {pieces : List Lexeme} (found : ∀ piece ∈ pieces, piece.Found) :
    ((scan (.past .start front) pieces).filterMap Event.answer?).length ≤ (pieces.flatMap Lexeme.raw).length := by
  induction pieces generalizing front with
  | nil => exact Nat.le_refl 0
  | cons lexeme rest ih =>
    have few := Lexeme.length_answered_le (found lexeme (List.mem_cons_self ..)).nonempty
    have later := ih (front ++ lexeme.raw) fun piece member => found piece (List.mem_cons_of_mem _ member)
    rw [Mark.past_append] at later
    rw [scan, List.filterMap_append, List.length_append, lexeme.filterMap_answer?_events, List.flatMap_cons,
      List.length_append]
    exact Nat.add_le_add (Nat.le_trans (List.length_filterMap_le ..) few) later

variable (source : String)

theorem endToken_eq : endToken source = ⟨.endOfFile, "", .behind source.toList⟩ := by
  rw [endToken, Mark.past_start]

theorem remaining_ofSource_le : (Scanner.ofSource source).remaining ≤ source.length := by
  have bound := length_answers_scan_le [] fun piece (member : piece ∈ lexemes source.toList) =>
    found_of_mem_lexemes member
  rw [flatMap_raw_lexemes, String.length_toList] at bound
  rw [Scanner.remaining_eq]
  exact bound

theorem kind_ne_of_mem_answers {token : Token} (member : .ok token ∈ (Scanner.ofSource source).answers) :
    token.kind ≠ .endOfFile := by
  obtain ⟨event, inside, answers⟩ := List.mem_filterMap.mp member
  obtain ⟨piece, ⟨before, saying⟩, said, rfl⟩ := exists_piece_of_mem_events inside
  cases saying with
  | token kind literal =>
    cases answers
    exact piece.found.kind_ne (Lexeme.mem_answered_of_mem said rfl)
  | warning => cases answers
  | fault => cases answers

theorem isEnd_of_mem_readings {reading : Reading} {count : Nat}
    (few : count ≤ (Scanner.ofSource source).remaining) (member : reading ∈ (Scanner.ofSource source).readings count) :
    reading.isEnd = false := by
  rw [Scanner.readings_eq] at member
  obtain ⟨call, inside, rfl⟩ := List.mem_map.mp member
  have early : call < (Scanner.ofSource source).answers.length := by
    rw [← Scanner.remaining_eq]
    exact Nat.lt_of_lt_of_le (List.mem_range.mp inside) few
  have answered := Scanner.result_after (.ofSource source) call
  rw [List.getElem?_eq_getElem early, Option.getD_some] at answered
  have within := List.getElem_mem early
  rw [← answered] at within
  unfold Reading.isEnd
  split
  next token result =>
    rw [result] at within
    simpa [Token.is] using kind_ne_of_mem_answers source within
  next => rfl

theorem result_after_remaining (more : Nat) :
    ((Scanner.ofSource source).after ((Scanner.ofSource source).remaining + more)).next.1.result =
      .ok (endToken source) := by
  rw [Scanner.result_after, Scanner.remaining_eq, List.getElem?_eq_none (Nat.le_add_right _ more)]
  rfl

theorem tokenize_ends {tokens : List Token} (lexed : (tokenize source).result = .ok tokens) :
    ∃ earlier, tokens = earlier ++ [endToken source] ∧ ∀ token ∈ earlier, token.kind ≠ .endOfFile := by
  have faultless := faultless_of_gather _ lexed
  rw [tokenize, gather_of_faultless _ faultless] at lexed
  cases lexed
  refine ⟨_, rfl, ?_⟩
  intro token member
  obtain ⟨event, inside, isToken⟩ := List.mem_filterMap.mp member
  have answers : event.answer? = some (.ok token) := by
    cases event <;> cases isToken
    rfl
  exact kind_ne_of_mem_answers source (List.mem_filterMap.mpr ⟨event, inside, answers⟩)

end Sources

/-- However often a reader is asked, and whatever it fails over: no more tokens and faults come than the source has
characters, and then the end comes again and again. Lexing asks once more than there are answers, and its tokens end
with the only one for the end. -/
theorem readings_end (source : String) :
    (Scanner.ofSource source).remaining ≤ source.length ∧
    (∀ reading ∈ (Scanner.ofSource source).readings (Scanner.ofSource source).remaining, reading.isEnd = false) ∧
    (∀ more, ((Scanner.ofSource source).after ((Scanner.ofSource source).remaining + more)).next.1.result =
      .ok ⟨.endOfFile, "", .behind source.toList⟩) ∧
    tokenize source = .ofReadings ((Scanner.ofSource source).readings ((Scanner.ofSource source).remaining + 1)) ∧
    ∀ tokens, (tokenize source).result = .ok tokens →
      ∃ earlier, tokens = earlier ++ [⟨.endOfFile, "", .behind source.toList⟩] ∧
        ∀ token ∈ earlier, token.kind ≠ .endOfFile := by
  rw [← endToken_eq]
  refine ⟨remaining_ofSource_le source, ?_, result_after_remaining source, ?_, ?_⟩
  · intro reading member
    exact isEnd_of_mem_readings source (Nat.le_refl _) member
  · exact Scanner.gather_eq_ofReadings (endToken source) (events source)
  · intro tokens lexed
    exact tokenize_ends source lexed

end StreamScript.Source
