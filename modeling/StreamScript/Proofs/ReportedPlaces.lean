import Mathlib.Data.List.Basic
import StreamScript.Proofs.LocatedEvents
import StreamScript.Source.Listing

/-! Where a report shows a fault. The span of a fault counts bytes, but a report takes its ends for numbers of
characters, and it knows line breaks that reading does not know. So the place that it shows is the position of the
fault only if all characters in front take one byte and only newlines break their lines. -/

namespace StreamScript

namespace Position

/-- The next place, on the same line or at the beginning of the next one. -/
def advance (closes : Bool) (position : Position) : Position :=
  if closes then ⟨position.line + 1, 1⟩ else ⟨position.line, position.column + 1⟩

theorem lt_advance (closes : Bool) (position : Position) : position < position.advance closes := by
  rw [lt_def, advance]
  split <;> simp

theorem line_le_advance (closes : Bool) (position : Position) : position.line ≤ (position.advance closes).line := by
  rw [advance]
  split <;> simp

end Position

namespace Source

/-- A report counts a line from here on, where `rest` stands behind the character. -/
def closesLine (c : Char) (rest : List Char) : Bool :=
  breaksLine c && !(c = '\r' && rest.head? = some '\n') && !rest.isEmpty

/-- Reading and reports agree about this character. -/
def plainBreak (c : Char) (rest : List Char) : Bool :=
  !breaksLine c || c = '\n' || (c = '\r' && rest.head? = some '\n')

/-- All line breaks of a text with `more` behind it are newlines, with or without a carriage return. -/
def plainBreaks (more : List Char) : List Char → Bool
  | [] => true
  | c :: rest => plainBreak c (rest ++ more) && plainBreaks more rest

section Breaks

variable {c : Char} {rest : List Char}

theorem closesLine_newline (some : rest ≠ []) : closesLine '\n' rest = true := by
  simp [closesLine, breaksLine, some]

theorem closesLine_of_plain (plain : plainBreak c rest = true) (some : rest ≠ []) :
    closesLine c rest = decide (c = '\n') := by
  by_cases newline : c = '\n'
  · subst newline
    simpa using closesLine_newline some
  · simp only [plainBreak, newline, decide_false, Bool.or_false, Bool.or_eq_true, Bool.not_eq_true'] at plain
    rcases plain with quiet | joined
    · simp [closesLine, quiet, newline]
    · simp [closesLine, joined, newline]

theorem closesLine_of_not_plain (odd : plainBreak c rest = false) (some : rest ≠ []) :
    closesLine c rest = true ∧ c ≠ '\n' := by
  simp only [plainBreak, Bool.or_eq_false_iff, Bool.not_eq_false', decide_eq_false_iff_not] at odd
  obtain ⟨⟨breaks, other⟩, apart⟩ := odd
  exact ⟨by simp [closesLine, breaks, apart, some], other⟩

end Breaks

/-- The text behind a part of a text goes on with the rest of it. -/
theorem plainBreaks_of_append {more front back : List Char} (plain : plainBreaks more (front ++ back) = true) :
    plainBreaks (back ++ more) front = true := by
  induction front with
  | nil => rfl
  | cons c rest ih =>
    rw [List.cons_append, plainBreaks, Bool.and_eq_true, List.append_assoc] at plain
    rw [plainBreaks, Bool.and_eq_true]
    exact ⟨plain.1, ih plain.2⟩

section Places

variable {before more : List Char}

theorem locateFrom_zero (position : Position) (text : List Char) : locateFrom position 0 text = position := rfl

theorem locateFrom_cons (position : Position) (index : Nat) (c : Char) (rest : List Char) :
    locateFrom position (index + 1) (c :: rest) = locateFrom (position.advance (closesLine c rest)) index rest := rfl

theorem Mark.position_after (mark : Mark) (c : Char) :
    (mark.after c).position = mark.position.advance (decide (c = '\n')) := by
  simp [after, Position.advance]

/-- A report counts on from the character that it has come to. -/
theorem locateFrom_append (position : Position) (before more : List Char) (extra : Nat) :
    locateFrom position (before.length + extra) (before ++ more) =
      locateFrom (locateFrom position before.length (before ++ more)) extra more := by
  induction before generalizing position with
  | nil => rw [List.length_nil, Nat.zero_add, List.nil_append, locateFrom_zero]
  | cons c rest ih =>
    rw [List.length_cons, Nat.add_right_comm, List.cons_append, locateFrom_cons, locateFrom_cons, ih]

theorem lt_locateFrom (position : Position) {count : Nat} {text : List Char} (inside : count < text.length) :
    position < locateFrom position (count + 1) text := by
  induction count generalizing position text with
  | zero =>
    obtain ⟨c, rest, rfl⟩ := List.exists_cons_of_length_pos inside
    rw [locateFrom_cons, locateFrom_zero]
    exact position.lt_advance _
  | succ count ih =>
    obtain ⟨c, rest, rfl⟩ := List.exists_cons_of_length_pos (Nat.zero_lt_of_lt inside)
    rw [locateFrom_cons]
    exact Position.lt_trans (position.lt_advance _) (ih _ (Nat.lt_of_succ_lt_succ inside))

theorem locateFrom_length_of_plain (plain : plainBreaks more before = true) (some : more ≠ []) (mark : Mark) :
    locateFrom mark.position before.length (before ++ more) = (mark.past before).position := by
  induction before generalizing mark with
  | nil => rfl
  | cons c rest ih =>
    rw [plainBreaks, Bool.and_eq_true] at plain
    have goesOn : rest ++ more ≠ [] := List.append_ne_nil_of_right_ne_nil rest some
    rw [List.length_cons, List.cons_append, locateFrom_cons, closesLine_of_plain plain.1 goesOn,
      ← Mark.position_after, ih plain.2, Mark.past_cons]

/-- Every newline is a line break of a report, so that a report which is ahead by a line stays ahead. -/
theorem past_line_lt (some : more ≠ []) {mark : Mark} {position : Position}
    (ahead : mark.position.line < position.line) :
    (mark.past before).position.line < (locateFrom position before.length (before ++ more)).line := by
  induction before generalizing mark position with
  | nil => exact ahead
  | cons c rest ih =>
    have goesOn : rest ++ more ≠ [] := List.append_ne_nil_of_right_ne_nil rest some
    rw [List.length_cons, List.cons_append, locateFrom_cons, Mark.past_cons]
    apply ih
    rw [Mark.position_after]
    by_cases newline : c = '\n'
    · subst newline
      simpa [closesLine_newline goesOn, Position.advance] using ahead
    · simp only [newline, decide_false]
      exact Nat.lt_of_lt_of_le ahead (position.line_le_advance _)

theorem past_lt_locateFrom (odd : plainBreaks more before = false) (some : more ≠ []) (mark : Mark) :
    (mark.past before).position < locateFrom mark.position before.length (before ++ more) := by
  induction before generalizing mark with
  | nil => cases odd
  | cons c rest ih =>
    have goesOn : rest ++ more ≠ [] := List.append_ne_nil_of_right_ne_nil rest some
    rw [List.length_cons, List.cons_append, locateFrom_cons, Mark.past_cons]
    by_cases plain : plainBreak c (rest ++ more) = true
    · rw [closesLine_of_plain plain goesOn, ← Mark.position_after]
      exact ih (by simpa [plainBreaks, plain] using odd) (mark.after c)
    · obtain ⟨closes, other⟩ := closesLine_of_not_plain (Bool.not_eq_true _ ▸ plain) goesOn
      left
      apply past_line_lt some
      rw [Mark.position_after, closes]
      simp [other, Position.advance]

/-- The place with the number of bytes in front is the one behind the text in front, exactly if no character counts
for more than one there and no line break is unknown to reading. -/
theorem locateFrom_byteSize_iff (some : more ≠ []) (inside : Text.byteSize before ≤ (before ++ more).length) :
    locateFrom Mark.start.position (Text.byteSize before) (before ++ more) = .behind before ↔
      (∀ c ∈ before, c.utf8Size = 1) ∧ plainBreaks more before = true := by
  have reached : (Mark.start.past before).position = .behind before := congrArg Mark.position (Mark.past_start before)
  obtain ⟨extra, size⟩ := Nat.exists_eq_add_of_le (Text.length_le_byteSize before)
  rw [size, List.length_append] at inside
  rw [← Text.byteSize_eq_length_iff, size, locateFrom_append]
  -- Extra bytes and extra line breaks both move the place to the right, so that they cannot make up for each other.
  cases plain : plainBreaks more before with
  | true =>
    rw [locateFrom_length_of_plain plain some, reached]
    cases extra with
    | zero => simp [locateFrom_zero]
    | succ count =>
      have beyond := lt_locateFrom (.behind before) (show count < more.length by omega)
      exact iff_of_false (Position.ne_of_gt beyond) (by omega)
  | false =>
    have ahead := past_lt_locateFrom plain some .start
    rw [reached] at ahead
    refine iff_of_false (Position.ne_of_gt ?_) (by simp)
    cases extra with
    | zero => exact ahead
    | succ count => exact Position.lt_trans ahead (lt_locateFrom _ (by omega))

end Places

/-- How a report writes a place in a file. -/
def placeText (path : String) (position : Position) : String := s!"{path}:{position.line}:{position.column}"

theorem colon_notMem_toDigits (number : Nat) : ':' ∉ Nat.toDigits 10 number := by
  intro member
  cases Nat.isDigit_of_mem_toDigits (by decide) (by decide) member

theorem eq_of_toDigits_eq {first second : Nat} (same : Nat.toDigits 10 first = Nat.toDigits 10 second) :
    first = second := by
  have value := congrArg (fun digits => Nat.ofDigitChars 10 digits 0) same
  simpa using value

theorem placeText_inj {path : String} {first second : Position} :
    placeText path first = placeText path second ↔ first = second := by
  constructor
  · intro same
    have digits : Nat.toDigits 10 first.line ++ ':' :: Nat.toDigits 10 first.column =
        Nat.toDigits 10 second.line ++ ':' :: Nat.toDigits 10 second.column := by
      simpa [placeText, toString] using congrArg String.toList same
    obtain ⟨lines, -, columns⟩ :=
      (List.append_cons_inj_of_notMem (colon_notMem_toDigits _) (colon_notMem_toDigits _)).mp digits
    exact (Position.mk.injEq ..).mpr ⟨eq_of_toDigits_eq lines, eq_of_toDigits_eq columns⟩
  · rintro rfl
    rfl

/-- The texts that a fault divides a source into: what stands in front of the character to blame, what was read from
there on, and what is read next. -/
structure Blame (source : String) (error : Error) where
  before : List Char
  seen : List Char
  unread : List Char
  source_eq : source.toList = before ++ seen ++ unread
  nonempty : seen ≠ []
  position_eq : error.position = .behind before
  start_eq : error.start = Text.byteSize before
  stop_eq : error.stop = Text.byteSize (before ++ seen)

theorem Piece.Yields.blame {source : String} {error : Error} {piece : Piece source.toList}
    (yields : piece.Yields (.fault error)) : Nonempty (Blame source error) := by
  generalize blamed : Event.fault error = event at yields
  obtain @⟨saying, inside, rest, c, within, _⟩ := yields
  cases saying with
  | token | warning => cases blamed
  | fault fault =>
    cases blamed
    refine ⟨piece.front ++ inside, c :: rest, piece.unread, ?_, List.cons_ne_nil c rest, rfl, rfl, ?_⟩
    · simpa using piece.source_eq_of_within within
    · simp [within]

theorem exists_blame {source : String} {error : Error} (failed : (tokenize source).result = .error error) :
    Nonempty (Blame source error) := by
  obtain ⟨piece, yields⟩ := exists_yields_of_mem_events (fault_mem_of_gather (endToken source) failed)
  exact yields.blame

namespace Blame

variable {source : String} {error : Error} (blame : Blame source error)

include blame

theorem start_lt_stop : error.start < error.stop := by
  obtain ⟨c, rest, seen⟩ := List.exists_cons_of_ne_nil blame.nonempty
  have some := Text.byteSize_cons_pos c rest
  rw [blame.start_eq, blame.stop_eq, Text.byteSize_append, seen]
  omega

theorem stop_le_size : error.stop ≤ source.utf8ByteSize := by
  have whole : source.utf8ByteSize = Text.byteSize source.toList := by rw [Text.byteSize, String.ofList_toList]
  rw [whole, blame.source_eq, Text.byteSize_append, blame.stop_eq]
  exact Nat.le_add_right ..

theorem location_eq (path : String) :
    (reportOf source path error).location =
      if source.length + 1 < error.stop then none
      else some (placeText path (locateFrom Mark.start.position error.start source.toList)) := by
  have order := blame.start_lt_stop
  have inside := blame.stop_le_size
  rw [reportOf, Nat.min_eq_left inside, Nat.min_eq_left (by omega), locate, String.length_toList]
  by_cases beyond : source.length + 1 < error.stop
  · rw [if_pos (by omega), if_pos beyond]
    rfl
  · rw [if_neg (by omega), if_neg beyond]
    rfl

theorem location_eq_none_iff (path : String) :
    (reportOf source path error).location = none ↔ source.length + 1 < error.stop := by
  rw [blame.location_eq]
  split <;> simp_all

theorem location_eq_some_iff (path : String) :
    (reportOf source path error).location = some (placeText path error.position) ↔
      error.stop ≤ source.length + 1 ∧ (∀ c ∈ blame.before, c.utf8Size = 1) ∧
        plainBreaks (blame.seen ++ blame.unread) blame.before = true := by
  have order := blame.start_lt_stop
  have whole : source.toList = blame.before ++ (blame.seen ++ blame.unread) := by
    rw [blame.source_eq, List.append_assoc]
  have some : blame.seen ++ blame.unread ≠ [] := List.append_ne_nil_of_left_ne_nil blame.nonempty _
  rw [blame.location_eq]
  by_cases beyond : source.length + 1 < error.stop
  · rw [if_pos beyond]
    exact iff_of_false (by simp) (by omega)
  · have inside : Text.byteSize blame.before ≤ (blame.before ++ (blame.seen ++ blame.unread)).length := by
      rw [← whole, ← blame.start_eq, String.length_toList]
      omega
    rw [if_neg beyond, Option.some.injEq, placeText_inj, blame.position_eq, blame.start_eq, whole,
      locateFrom_byteSize_iff some inside, and_iff_right (Nat.le_of_not_lt beyond)]

end Blame

section Faults

variable {source : String} {error : Error}

/-- Faults of a source with characters of one byte only, and with newlines only, are shown at their positions. -/
theorem location_of_ascii (failed : (tokenize source).result = .error error)
    (small : ∀ c ∈ source.toList, c.utf8Size = 1) (plain : plainBreaks [] source.toList = true) (path : String) :
    (reportOf source path error).location = some (placeText path error.position) := by
  obtain ⟨blame⟩ := exists_blame failed
  have size : source.utf8ByteSize = source.length := by
    rw [← String.length_toList, ← (Text.byteSize_eq_length_iff _).mpr small, Text.byteSize, String.ofList_toList]
  have inside := blame.stop_le_size
  rw [blame.source_eq, List.append_assoc] at small plain
  refine (blame.location_eq_some_iff path).mpr ⟨by omega, fun c member => small c (by simp [member]), ?_⟩
  simpa using plainBreaks_of_append plain

/-- A report shows no place for a fault if more bytes stand in front of the last one of its span than the source has
characters. Otherwise it shows the position of the fault exactly if the text in front has neither a character of
several bytes nor a line break that reading does not know. -/
theorem location_of_fault (failed : (tokenize source).result = .error error) (path : String) :
    Nonempty (Blame source error) ∧ ∀ blame : Blame source error,
      ((reportOf source path error).location = none ↔ source.length + 1 < error.stop) ∧
      ((reportOf source path error).location = some (placeText path error.position) ↔
        error.stop ≤ source.length + 1 ∧ (∀ c ∈ blame.before, c.utf8Size = 1) ∧
          plainBreaks (blame.seen ++ blame.unread) blame.before = true) :=
  ⟨exists_blame failed, fun blame => ⟨blame.location_eq_none_iff path, blame.location_eq_some_iff path⟩⟩

/-- The quote behind a line that ends with a carriage return and a newline is shown where it stands. -/
theorem location_of_fault_shown :
    let error : Error := ⟨.emptyCharacter, ⟨2, 1⟩, 3, 4⟩
    (tokenize "x\r\n'").result = .error error ∧
    (reportOf "x\r\n'" "main.cy" error).location = some "main.cy:2:1" := by
  intro error
  have failed : (tokenize "x\r\n'").result = .error error := by decide +kernel
  let blame : Blame "x\r\n'" error := ⟨['x', '\r', '\n'], ['\''], [], rfl, by simp, rfl, rfl, rfl⟩
  obtain ⟨-, places⟩ := location_of_fault failed "main.cy"
  have shown : placeText "main.cy" error.position = "main.cy:2:1" := by decide +kernel
  have small : ∀ c ∈ blame.before, c.utf8Size = 1 := (Text.byteSize_eq_length_iff _).mp rfl
  have located := (places blame).2.mpr ⟨by decide, small, by decide⟩
  exact ⟨failed, located.trans (congrArg some shown)⟩

/-- Behind a letter of two bytes a quote is shown one column too far to the right, and behind two letters of three
bytes an open text is not shown at all. A form feed moves what follows it to the next line. -/
theorem location_of_fault_missed :
    let shifted : Error := ⟨.emptyCharacter, ⟨1, 2⟩, 2, 3⟩
    let unshown : Error := ⟨.unclosedString, ⟨1, 3⟩, 6, 9⟩
    let lowered : Error := ⟨.emptyCharacter, ⟨1, 3⟩, 2, 3⟩
    (tokenize "é'").result = .error shifted ∧
    (reportOf "é'" "main.cy" shifted).location = some "main.cy:1:3" ∧
    (tokenize "日本\"ab").result = .error unshown ∧
    (reportOf "日本\"ab" "main.cy" unshown).location = none ∧
    (tokenize "x\x0c'").result = .error lowered ∧
    (reportOf "x\x0c'" "main.cy" lowered).location = some "main.cy:2:1" := by
  decide +kernel

end Faults

end Source

end StreamScript
