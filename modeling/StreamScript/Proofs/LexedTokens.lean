import StreamScript.Proofs.EscapedText
import StreamScript.Proofs.Segmentation
import StreamScript.Source.Scan

/-! What lexing makes of the pieces of a source. The tokens, without their places, and the warnings are those of the
pieces, in order; a source without an answer has a piece that went wrong. -/

namespace StreamScript

/-- What a token says, wherever it stands. -/
def Token.form (token : Token) : Kind × String := (token.kind, token.literal)

/-- What a message says, wherever it points to. -/
def Diagnostic.note (diagnostic : Diagnostic) : Level × String := (diagnostic.level, diagnostic.message)

namespace Source

/-- The characters that mean something behind a backslash. -/
def escapeLetters : List Char := ['n', 't', 'r', '"', '\\']

def BodyPart.notice? : BodyPart → Option String
  | plain _ => none
  | pair c =>
    if c ∈ escapeLetters then none
    else some ("Unknown escape sequence \\" ++ c.toString ++ " in string literal")

namespace Lexeme

/-- The kinds and literals of the tokens of a piece. -/
def forms : Lexeme → List (Kind × String)
  | symbol kind c => [(kind, c.toString)]
  | number whole none => [(.number, String.ofList whole)]
  | number whole (some digits) => [(.floating, String.ofList (whole ++ '.' :: digits))]
  | word name => [(wordKind (String.ofList name), String.ofList name)]
  | character c => [(.character, c.toString)]
  | text body => [(.text, Text.unescape (String.ofList (bodyRaw body)))]
  | library _ [] => [(.usingWord, "using")]
  | library _ name => [(.usingWord, String.ofList name)]
  | declaration _ .absent => [(.varWord, "var")]
  | declaration _ (.enclosed letters) => [(.varWord, "var"), (.identifier, String.ofList (Text.upper letters))]
  | declaration _ (.word name) => [(.varWord, "var"), (.identifier, String.ofList (Text.upper name))]
  | _ => []

/-- The texts of the warnings about a piece. -/
def notices : Lexeme → List String
  | stray c => ["Unknown character: '" ++ c.toString ++ "'"]
  | text body => body.filterMap BodyPart.notice?
  | _ => []

end Lexeme

namespace Event

def token? : Event → Option Token
  | .token found => some found
  | _ => none

def warning? : Event → Option Diagnostic
  | .warning diagnostic => some diagnostic
  | _ => none

def isFault : Event → Bool
  | .fault _ => true
  | _ => false

end Event

section Gathering

variable (last : Token) {events : List Event}

/-- Events without a fault are gathered before those behind them. -/
theorem gather_append (faultless : events.any Event.isFault = false) (more : List Event) :
    gather last (events ++ more) =
      ⟨events.filterMap Event.warning? ++ (gather last more).warnings,
        (gather last more).result.map (events.filterMap Event.token? ++ ·)⟩ := by
  induction events with
  | nil => cases result : (gather last more).result <;> simp [Except.map, ← result]
  | cons event rest ih =>
    rw [List.any_cons, Bool.or_eq_false_iff] at faultless
    cases event with
    | token token =>
      rw [List.cons_append, gather, ih faultless.2]
      cases (gather last more).result <;> rfl
    | warning diagnostic =>
      rw [List.cons_append, gather, ih faultless.2]
      rfl
    | fault error => cases faultless.1

theorem gather_of_faultless (faultless : events.any Event.isFault = false) :
    gather last events = ⟨events.filterMap Event.warning?, .ok (events.filterMap Event.token? ++ [last])⟩ := by
  have alone := gather_append last faultless []
  rwa [List.append_nil, gather, List.append_nil] at alone

theorem faultless_of_gather {tokens : List Token} (gathered : (gather last events).result = .ok tokens) :
    events.any Event.isFault = false := by
  induction events generalizing tokens with
  | nil => rfl
  | cons event rest ih =>
    cases event with
    | token token =>
      simp only [gather] at gathered
      cases later : (gather last rest).result with
      | error error =>
        rw [later] at gathered
        cases gathered
      | ok found => exact ih later
    | warning diagnostic => exact ih gathered
    | fault error => cases gathered

theorem fault_mem_of_gather {error : Error} (gathered : (gather last events).result = .error error) :
    .fault error ∈ events := by
  induction events with
  | nil => cases gathered
  | cons event rest ih =>
    cases event with
    | token token =>
      simp only [gather] at gathered
      cases later : (gather last rest).result with
      | error found =>
        rw [later] at gathered
        cases gathered
        exact List.mem_cons_of_mem _ (ih later)
      | ok found =>
        rw [later] at gathered
        cases gathered
    | warning diagnostic => exact List.mem_cons_of_mem _ (ih gathered)
    | fault found =>
      cases gathered
      exact List.mem_cons_self ..

end Gathering

section Body

variable (mark : Mark)

theorem isSome_unescapeChar_iff {c : Char} : (Text.unescapeChar c).isSome = true ↔ c ∈ escapeLetters := by
  fun_cases Text.unescapeChar c with
  | case6 => simp_all [escapeLetters]
  | _ => simp [escapeLetters]

theorem BodyPart.literal_append {part : BodyPart} (formed : part.WellFormed) (rest : List Char) :
    part.literal ++ Text.unescapeChars rest = Text.unescapeChars (part.raw ++ rest) := by
  cases part with
  | plain c => exact (Text.unescapeChars_cons rest formed.2).symm
  | pair c =>
    change _ = Text.unescapeChars ('\\' :: c :: rest)
    rw [Text.unescapeChars, BodyPart.literal]
    cases Text.unescapeChar c <;> rfl

theorem bodyLiteral_eq {body : List BodyPart} (formed : ∀ part ∈ body, part.WellFormed) :
    bodyLiteral body = Text.unescapeChars (bodyRaw body) := by
  induction body with
  | nil => rfl
  | cons part rest ih =>
    have later := ih fun other member => formed other (List.mem_cons_of_mem part member)
    have first := formed part (List.mem_cons_self ..)
    calc bodyLiteral (part :: rest)
        = part.literal ++ bodyLiteral rest := rfl
      _ = part.literal ++ Text.unescapeChars (bodyRaw rest) := by rw [later]
      _ = Text.unescapeChars (part.raw ++ bodyRaw rest) := part.literal_append first _

/-- A part of a string is warned about or passed over. -/
theorem BodyPart.warnings_eq (part : BodyPart) :
    part.warnings mark = (part.notice?.map (warningAt (mark.after '\\'))).toList := by
  cases part with
  | plain c => rfl
  | pair c =>
    rw [BodyPart.warnings, BodyPart.notice?]
    cases meaning : Text.unescapeChar c with
    | none =>
      have unknown : c ∉ escapeLetters := by simp [← isSome_unescapeChar_iff, meaning]
      rw [if_neg unknown]
      rfl
    | some meant =>
      have known : c ∈ escapeLetters := by simp [← isSome_unescapeChar_iff, meaning]
      rw [if_pos known]
      rfl

theorem mem_bodyWarnings {body : List BodyPart} {event : Event} (member : event ∈ bodyWarnings mark body) :
    ∃ place text, event = warningAt place text := by
  induction body generalizing mark with
  | nil => cases member
  | cons part rest ih =>
    rcases List.mem_append.mp member with here | later
    · rw [part.warnings_eq, Option.mem_toList] at here
      obtain ⟨text, _, same⟩ := Option.map_eq_some_iff.mp here
      exact ⟨_, text, same.symm⟩
    · exact ih _ later

theorem filterMap_token?_bodyWarnings (body : List BodyPart) :
    (bodyWarnings mark body).filterMap Event.token? = [] := by
  rw [List.filterMap_eq_nil_iff]
  intro event member
  obtain ⟨place, text, rfl⟩ := mem_bodyWarnings mark member
  rfl

theorem any_isFault_bodyWarnings (body : List BodyPart) : (bodyWarnings mark body).any Event.isFault = false := by
  rw [List.any_eq_false]
  intro event member
  obtain ⟨place, text, rfl⟩ := mem_bodyWarnings mark member
  exact Bool.false_ne_true

theorem note_bodyWarnings (body : List BodyPart) :
    ((bodyWarnings mark body).filterMap Event.warning?).map Diagnostic.note =
      (body.filterMap BodyPart.notice?).map (Level.warning, ·) := by
  induction body generalizing mark with
  | nil => rfl
  | cons part rest ih =>
    rw [bodyWarnings, List.filterMap_append, List.map_append, ih, List.filterMap_cons, part.warnings_eq]
    cases part.notice? <;> rfl

end Body

namespace Lexeme

variable (mark : Mark) {lexeme : Lexeme}

theorem any_isFault_events (lexeme : Lexeme) : (lexeme.events mark).any Event.isFault = lexeme.broken := by
  cases lexeme with
  | text body =>
    rw [events, List.any_append, any_isFault_bodyWarnings]
    rfl
  | openText body dangling =>
    rw [events, List.any_append, any_isFault_bodyWarnings]
    rfl
  | declaration gap typeName => cases typeName <;> rfl
  | _ => rfl

theorem form_events (formed : lexeme.WellFormed) :
    ((lexeme.events mark).filterMap Event.token?).map Token.form = lexeme.forms := by
  cases lexeme with
  | number whole fraction =>
    cases fraction with
    | none =>
      simp [events, forms, tokenAt, Event.token?, Token.form, numberKind, fractionRaw]
    | some digits => rfl
  | word name =>
    rw [forms, ← ofWord_eq_wordKind]
    rfl
  | text body =>
    rw [events, List.filterMap_append, filterMap_token?_bodyWarnings, bodyLiteral_eq formed]
    simp [forms, tokenAt, Event.token?, Token.form, Text.unescape]
  | library gap name =>
    cases name <;> rfl
  | declaration gap typeName => cases typeName <;> rfl
  | openText | emptyCharacter | openCharacter | openType | badType => cases formed
  | _ => rfl

theorem note_events (formed : lexeme.WellFormed) :
    ((lexeme.events mark).filterMap Event.warning?).map Diagnostic.note = lexeme.notices.map (Level.warning, ·) := by
  cases lexeme with
  | text body =>
    rw [events, List.filterMap_append, List.map_append, note_bodyWarnings]
    simp [notices, tokenAt, Event.warning?]
  | declaration gap typeName => cases typeName <;> rfl
  | openText | emptyCharacter | openCharacter | openType | badType => cases formed
  | _ => rfl

end Lexeme

section Pieces

variable {pieces : List Lexeme}

theorem any_isFault_scan (mark : Mark) (pieces : List Lexeme) :
    (scan mark pieces).any Event.isFault = pieces.any Lexeme.broken := by
  induction pieces generalizing mark with
  | nil => rfl
  | cons lexeme rest ih => rw [scan, List.any_append, ih, lexeme.any_isFault_events, List.any_cons]

theorem Segmentation.form_scan {tail : List Char} (fitting : Segmentation tail pieces) (mark : Mark) :
    ((scan mark pieces).filterMap Event.token?).map Token.form = pieces.flatMap Lexeme.forms := by
  induction fitting generalizing mark with
  | nil => rfl
  | cons formed _ _ ih =>
    rw [scan, List.filterMap_append, List.map_append, ih, Lexeme.form_events mark formed, List.flatMap_cons]

theorem Segmentation.note_scan {tail : List Char} (fitting : Segmentation tail pieces) (mark : Mark) :
    ((scan mark pieces).filterMap Event.warning?).map Diagnostic.note =
      (pieces.flatMap Lexeme.notices).map (Level.warning, ·) := by
  induction fitting generalizing mark with
  | nil => rfl
  | cons formed _ _ ih =>
    rw [scan, List.filterMap_append, List.map_append, ih, Lexeme.note_events mark formed, List.flatMap_cons,
      List.map_append]

theorem Segmentation.any_broken {tail : List Char} (fitting : Segmentation tail pieces) :
    pieces.any Lexeme.broken = false := by
  induction fitting with
  | nil => rfl
  | cons formed _ _ ih => rw [List.any_cons, formed.broken, ih, Bool.false_or]

/-- Pieces that fit together are the pieces that reading finds. -/
theorem Segmentation.eq_lexemes {source : List Char} (fitting : Segmentation [] pieces)
    (joined : pieces.flatMap Lexeme.raw = source) : pieces = lexemes source := by
  have found := lexemes_append fitting
  rw [List.append_nil, joined] at found
  rw [found, lexemes, List.append_nil]

end Pieces

theorem tokenize_of_segmentation {source : String} {pieces : List Lexeme} (fitting : Segmentation [] pieces)
    (joined : pieces.flatMap Lexeme.raw = source.toList) :
    ∃ tokens, (tokenize source).result = .ok tokens ∧
      tokens.map Token.form = pieces.flatMap Lexeme.forms ++ [(.endOfFile, "")] ∧
      (tokenize source).warnings.map Diagnostic.note = (pieces.flatMap Lexeme.notices).map (Level.warning, ·) := by
  have scanned : events source = scan .start pieces := by rw [events, ← fitting.eq_lexemes joined]
  have faultless : (events source).any Event.isFault = false := by
    rw [scanned, any_isFault_scan, fitting.any_broken]
  rw [tokenize, gather_of_faultless _ faultless, scanned]
  refine ⟨_, rfl, ?_, fitting.note_scan _⟩
  rw [List.map_append, fitting.form_scan]
  rfl

theorem segmentation_of_tokenize {source : String} {tokens : List Token}
    (lexed : (tokenize source).result = .ok tokens) : Segmentation [] (lexemes source.toList) := by
  apply segmentation_lexemes
  have faultless := faultless_of_gather _ lexed
  rw [events, any_isFault_scan, List.any_eq_false] at faultless
  intro piece member
  simpa using faultless piece member

end Source

end StreamScript
