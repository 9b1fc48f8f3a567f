import StreamScript.Proofs.LexedTokens
import StreamScript.Proofs.SourcePlaces

/-! What the pieces of a source say, and of which of their characters. A piece has warnings first and then the answers
that a reader hands out: nothing, one token or fault, or the two tokens of a declaration. -/

namespace StreamScript.Source

/-- What is said of a character, wherever it stands. -/
inductive Saying where
  | token (kind : Kind) (literal : List Char)
  | warning (message : String)
  | fault (fault : Fault)
deriving DecidableEq

namespace Saying

/-- The event about the character behind `before`, when the text `read` has been taken in. -/
def event (before read : List Char) : Saying → Event
  | token kind literal => .token ⟨kind, String.ofList literal, .behind before⟩
  | warning message => .warning ⟨.warning, message, some (.behind before)⟩
  | fault found => .fault ⟨found, .behind before, Text.byteSize before, Text.byteSize read⟩

def isWarning : Saying → Bool
  | warning _ => true
  | _ => false

end Saying

/-- Something that a piece says of its character behind `inside`. -/
structure Mention where
  inside : List Char
  saying : Saying
deriving DecidableEq

/-- The event of a mention in a piece `raw` that stands behind `front`. -/
def Mention.event (front raw : List Char) (mention : Mention) : Event :=
  mention.saying.event (front ++ mention.inside) (front ++ raw)

/-- A pair without a meaning is reported at its second character. -/
def bodyMentions (inside : List Char) : List BodyPart → List Mention
  | [] => []
  | part :: rest =>
    (part.notice?.map fun notice => ⟨inside ++ ['\\'], .warning notice⟩).toList ++
      bodyMentions (inside ++ part.raw) rest

def TypeName.mentions (inside : List Char) : TypeName → List Mention
  | absent => []
  | enclosed letters => [⟨inside ++ ['('], .token .identifier (Text.upper letters)⟩]
  | word name => [⟨inside, .token .identifier (Text.upper name)⟩]

namespace Lexeme

/-- The warnings about a piece. -/
def warned : Lexeme → List Mention
  | stray c => [⟨[], .warning ("Unknown character: '" ++ c.toString ++ "'")⟩]
  | text body => bodyMentions ['"'] body
  | openText body _ => bodyMentions ['"'] body
  | _ => []

/-- The tokens and the fault of a piece. -/
def answered : Lexeme → List Mention
  | blank _ => []
  | stray _ => []
  | symbol kind c => [⟨[], .token kind [c]⟩]
  | number whole fraction => [⟨[], .token (numberKind fraction) (whole ++ fractionRaw fraction)⟩]
  | word name => [⟨[], .token (wordKind (String.ofList name)) name⟩]
  | character c => [⟨[], .token .character [c]⟩]
  | text body => [⟨[], .token .text (bodyLiteral body)⟩]
  | library _ name => [⟨[], .token .usingWord (if name = [] then usingText else name)⟩]
  | declaration gap typeName =>
    ⟨[], .token .varWord varText⟩ :: typeName.mentions (varText ++ gap)
  | openText _ dangling => [⟨[], .fault (if dangling then .danglingEscape else .unclosedString)⟩]
  | emptyCharacter _ => [⟨[], .fault .emptyCharacter⟩]
  | openCharacter _ _ => [⟨[], .fault .unclosedCharacter⟩]
  | openType gap _ => [⟨varText ++ gap, .fault .unclosedType⟩]
  | badType gap letters bad => [⟨varText ++ gap ++ '(' :: letters, .fault (.invalidTypeCharacter bad)⟩]

end Lexeme

section Events

variable (front raw inside : List Char)

theorem Mention.event_warning (message : String) :
    event front raw ⟨inside, .warning message⟩ = warningAt ((Mark.start.past front).past inside) message := by
  rw [← Mark.past_append, Mark.past_start]
  rfl

theorem Mention.event_token (kind : Kind) (literal : List Char) :
    event front raw ⟨inside, .token kind literal⟩ = tokenAt ((Mark.start.past front).past inside) kind literal := by
  rw [← Mark.past_append, Mark.past_start]
  rfl

theorem Mention.event_fault (fault : Fault) :
    event front raw ⟨inside, .fault fault⟩ = faultIn (.past .start front) fault inside raw := by
  rw [faultIn, ← Mark.past_append, ← Mark.past_append, Mark.past_start, Mark.past_start]
  rfl

theorem bodyWarnings_eq (body : List BodyPart) :
    bodyWarnings ((Mark.start.past front).past inside) body =
      (bodyMentions inside body).map (Mention.event front raw) := by
  induction body generalizing inside with
  | nil => rfl
  | cons part rest ih =>
    have later := ih (inside ++ part.raw)
    rw [Mark.past_append] at later
    rw [bodyWarnings, bodyMentions, List.map_append, part.warnings_eq, later]
    cases part.notice? with
    | none => rfl
    | some notice => simp [Mention.event_warning]

theorem TypeName.events_eq (typeName : TypeName) :
    typeName.events ((Mark.start.past front).past inside) =
      (typeName.mentions inside).map (Mention.event front raw) := by
  cases typeName with
  | absent => rfl
  | enclosed letters => simp [events, mentions, Mention.event_token]
  | word name => simp [events, mentions, Mention.event_token]

/-- The events of a piece are its warnings and its answers, each at its character. -/
theorem Lexeme.events_eq (lexeme : Lexeme) :
    lexeme.events (.past .start front) = (lexeme.warned ++ lexeme.answered).map (Mention.event front lexeme.raw) := by
  have body := fun raw parts => bodyWarnings_eq front raw ['"'] parts
  have types := fun raw gap typeName => TypeName.events_eq front raw (varText ++ gap) typeName
  cases lexeme with
  | text parts => simp [events, warned, answered, Mention.event_token, ← body]
  | openText parts dangling => simp [events, warned, answered, Mention.event_fault, ← body]
  | declaration gap typeName => simp [events, warned, answered, Mention.event_token, ← types]
  | stray c => simp [events, warned, answered, Mention.event_warning]
  | word name => simp [events, warned, answered, Mention.event_token, ofWord_eq_wordKind]
  | blank => rfl
  | _ => simp [events, warned, answered, Mention.event_token, Mention.event_fault]

/-- Every event of a row of pieces is a mention of one of them. Behind it come the other mentions of that piece and the
events of the later pieces. -/
theorem exists_mention_of_scan_eq {event : Event} {pieces : List Lexeme} {passed behind : List Event}
    (split : scan (.past .start front) pieces = passed ++ event :: behind) :
    ∃ earlier lexeme later said mention unsaid, pieces = earlier ++ lexeme :: later ∧
      lexeme.warned ++ lexeme.answered = said ++ mention :: unsaid ∧
      event = mention.event (front ++ earlier.flatMap Lexeme.raw) lexeme.raw ∧
      behind = unsaid.map (Mention.event (front ++ earlier.flatMap Lexeme.raw) lexeme.raw) ++
        scan (.past .start (front ++ earlier.flatMap Lexeme.raw ++ lexeme.raw)) later := by
  induction pieces generalizing front passed with
  | nil => cases (List.append_eq_nil_iff.mp split.symm).2
  | cons lexeme rest ih =>
    rw [scan, ← Mark.past_append, lexeme.events_eq] at split
    -- The event is behind the mentions of the first piece, or one of them.
    rcases List.append_eq_append_iff.mp split with ⟨more, _, later⟩ | ⟨more, first, here⟩
    · obtain ⟨earlier, found, others, said, mention, unsaid, rfl, mentions, same, unread⟩ := ih _ later
      exact ⟨lexeme :: earlier, found, others, said, mention, unsaid, rfl, mentions, by simpa using same,
        by simpa using unread⟩
    · cases more with
      | nil =>
        obtain ⟨earlier, found, others, said, mention, unsaid, rfl, mentions, same, unread⟩ :=
          @ih _ [] here.symm
        exact ⟨lexeme :: earlier, found, others, said, mention, unsaid, rfl, mentions, by simpa using same,
          by simpa using unread⟩
      | cons head more =>
        obtain ⟨rfl, rfl⟩ := List.cons.inj here
        obtain ⟨said, unread, mentions, _, others⟩ := List.map_eq_append_iff.mp first
        obtain ⟨mention, unsaid, rfl, rfl, rfl⟩ := List.map_eq_cons_iff.mp others
        exact ⟨[], lexeme, rest, said, mention, unsaid, rfl, mentions, by simp, by simp⟩

end Events

section Answers

theorem isWarning_of_mem_bodyMentions {inside : List Char} {body : List BodyPart} {mention : Mention}
    (member : mention ∈ bodyMentions inside body) : mention.saying.isWarning = true := by
  induction body generalizing inside with
  | nil => cases member
  | cons part rest ih =>
    rcases List.mem_append.mp member with here | later
    · obtain ⟨notice, _, rfl⟩ := Option.map_eq_some_iff.mp (Option.mem_toList.mp here)
      rfl
    · exact ih later

namespace Lexeme

variable {lexeme : Lexeme} {mention : Mention}

theorem isWarning_of_mem_warned (member : mention ∈ lexeme.warned) : mention.saying.isWarning = true := by
  cases lexeme with
  | stray c =>
    obtain rfl := List.mem_singleton.mp member
    rfl
  | text body => exact isWarning_of_mem_bodyMentions member
  | openText body dangling => exact isWarning_of_mem_bodyMentions member
  | _ => cases member

theorem mem_answered_of_mem (member : mention ∈ lexeme.warned ++ lexeme.answered)
    (answers : mention.saying.isWarning = false) : mention ∈ lexeme.answered := by
  rcases List.mem_append.mp member with warned | answered
  · cases answers.symm.trans (isWarning_of_mem_warned warned)
  · exact answered

/-- A piece has a character for each of its answers. -/
theorem length_answered_le (nonempty : lexeme.raw ≠ []) : lexeme.answered.length ≤ lexeme.raw.length := by
  have some := List.length_pos_iff.mpr nonempty
  cases lexeme with
  | blank | stray => exact Nat.zero_le _
  | declaration gap typeName =>
    have one : (typeName.mentions (varText ++ gap)).length ≤ 1 := by cases typeName <;> simp [TypeName.mentions]
    have word : varText.length = 3 := rfl
    simp only [answered, raw, List.length_cons, List.length_append]
    omega
  | _ => exact some

end Lexeme

end Answers

/-- What is known of a piece that reading found. -/
structure Lexeme.Found (lexeme : Lexeme) : Prop where
  nonempty : lexeme.raw ≠ []
  formed : lexeme.broken = false → lexeme.WellFormed

theorem found_of_mem_lexemes {source : List Char} {lexeme : Lexeme} (member : lexeme ∈ lexemes source) :
    lexeme.Found := by
  fun_induction lexemes source with
  | case1 => cases member
  | case2 c rest ih =>
    rcases List.mem_cons.mp member with rfl | later
    · exact ⟨readLexeme_raw_ne_nil c rest, fun whole => (readLexeme_sound c rest whole).1⟩
    · exact ih later

theorem eq_lexemes_of_append {source : List Char} {earlier later : List Lexeme}
    (split : lexemes source = earlier ++ later) : later = lexemes (later.flatMap Lexeme.raw) := by
  induction earlier generalizing source with
  | nil =>
    obtain rfl : lexemes source = later := split
    rw [flatMap_raw_lexemes]
  | cons lexeme rest ih =>
    cases source with
    | nil =>
      rw [lexemes] at split
      cases split
    | cons c source =>
      rw [lexemes, List.cons_append] at split
      exact ih (List.cons.inj split).2

/-- A piece of a source, with the pieces in front of it and the text behind it, which is read next. -/
structure Piece (source : List Char) where
  earlier : List Lexeme
  lexeme : Lexeme
  unread : List Char
  split : lexemes source = earlier ++ lexeme :: lexemes unread

namespace Piece

variable {source : List Char} (piece : Piece source)

/-- The text in front of a piece. -/
def front : List Char := piece.earlier.flatMap Lexeme.raw

theorem source_eq : source = piece.front ++ piece.lexeme.raw ++ piece.unread := by
  have whole := flatMap_raw_lexemes source
  rw [piece.split, List.flatMap_append, List.flatMap_cons, flatMap_raw_lexemes, ← List.append_assoc] at whole
  exact whole.symm

theorem found : piece.lexeme.Found := by
  have member : piece.lexeme ∈ lexemes source := by simp [piece.split]
  exact found_of_mem_lexemes member

end Piece

/-- Every event of a source is a mention of one of its pieces. Behind it come the other mentions of that piece and the
events of the text that is read next. -/
theorem exists_piece_of_events_eq {source : String} {event : Event} {passed behind : List Event}
    (split : events source = passed ++ event :: behind) :
    ∃ (piece : Piece source.toList) (said : List Mention) (mention : Mention) (unsaid : List Mention),
      piece.lexeme.warned ++ piece.lexeme.answered = said ++ mention :: unsaid ∧
      event = mention.event piece.front piece.lexeme.raw ∧
      behind = unsaid.map (Mention.event piece.front piece.lexeme.raw) ++
        scan (.past .start (piece.front ++ piece.lexeme.raw)) (lexemes piece.unread) := by
  obtain ⟨earlier, lexeme, later, said, mention, unsaid, pieces, mentions, same, unread⟩ :=
    exists_mention_of_scan_eq [] split
  have apart : lexemes source.toList = (earlier ++ [lexeme]) ++ later := by simp [pieces]
  have rest := eq_lexemes_of_append apart
  rw [rest] at pieces unread
  exact ⟨⟨earlier, lexeme, _, pieces⟩, said, mention, unsaid, mentions, same, unread⟩

theorem exists_piece_of_mem_events {source : String} {event : Event} (member : event ∈ events source) :
    ∃ (piece : Piece source.toList) (mention : Mention), mention ∈ piece.lexeme.warned ++ piece.lexeme.answered ∧
      event = mention.event piece.front piece.lexeme.raw := by
  obtain ⟨passed, behind, split⟩ := List.append_of_mem member
  obtain ⟨piece, said, mention, unsaid, mentions, same, _⟩ := exists_piece_of_events_eq split
  exact ⟨piece, mention, by simp [mentions], same⟩

/-- No piece of a source is a token for its end. -/
theorem Lexeme.Found.kind_ne {lexeme : Lexeme} (found : lexeme.Found) {inside literal : List Char} {kind : Kind}
    (member : ⟨inside, .token kind literal⟩ ∈ lexeme.answered) : kind ≠ .endOfFile := by
  cases lexeme with
  | blank | stray => cases member
  | symbol kind c =>
    cases List.mem_singleton.mp member
    have listed : ∀ entry ∈ symbols, entry.1 ≠ .endOfFile := by decide
    exact listed _ (found.formed rfl)
  | number whole fraction =>
    cases List.mem_singleton.mp member
    cases fraction <;> simp [numberKind]
  | word name =>
    cases List.mem_singleton.mp member
    exact wordKind_ne (by decide) _
  | declaration gap typeName =>
    rcases List.mem_cons.mp member with same | later
    · cases same
      simp
    · cases typeName with
      | absent => cases later
      | enclosed | word =>
        cases List.mem_singleton.mp later
        simp
  | character | text | library =>
    cases List.mem_singleton.mp member
    simp
  | openText | emptyCharacter | openCharacter | openType | badType => cases List.mem_singleton.mp member

end StreamScript.Source
