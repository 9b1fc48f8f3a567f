import StreamScript.Command.Plan
import StreamScript.Proofs.FolderChanges

/-! How commands end. Reading, lexing and checking a source either go on or end the command, so compiling, listing and
checking come down to the tokens of the source and to whether they are accepted. -/

namespace StreamScript

/-- A listing shows the tokens that lexing finds, and fails where lexing fails. -/
theorem Source.listEvents_gather (format : Format) (last : Token) (events : List Event) :
    match (gather last events).result with
    | .ok tokens =>
      (listEvents format last events).failure = none ∧
      (listEvents format last events).lines = tokens.map (tokenLine format)
    | .error error => (listEvents format last events).failure = some error := by
  induction events with
  | nil => exact ⟨rfl, rfl⟩
  | cons event rest ih =>
    cases event with
    | token token =>
      simp only [gather, listEvents]
      cases gathered : (gather last rest).result with
      | error error =>
        rw [gathered] at ih
        exact ih
      | ok tokens =>
        rw [gathered] at ih
        exact ⟨ih.1, by simp [ih.2]⟩
    | warning diagnostic => exact ih
    | fault error => exact rfl

namespace Command

/-- The text that is read at a path. -/
def Folder.text (folder : Folder) (input : List UInt8) (path : String) : Except Failure String :=
  match folder.readable path with
  | .error failure => .error failure
  | .ok (.file content) => decodeText content
  | .ok (.device .input) => decodeText ⟨input.toArray⟩
  | .ok (.device _) => .ok ""

theorem Folder.text_of_file {folder : Folder} {path source : String}
    (readable : folder.readable path = .ok (.file source.toUTF8)) (input : List UInt8) :
    folder.text input path = .ok source := by
  simp only [text, readable, decodeText_toUTF8]

/-- The tokens of a source that has no fault and, if it is to be checked, passes the check. -/
def accepted? (source : String) (checked : Bool) : Option (List Token) :=
  match (Source.tokenize source).result with
  | .error _ => none
  | .ok tokens => if checked && (Scope.check tokens).isOk = false then none else some tokens

theorem accepted?_of_lexed {source : String} {tokens : List Token}
    (lexed : (Source.tokenize source).result = .ok tokens) : accepted? source false = some tokens := by
  simp [accepted?, lexed]

theorem lexed_of_accepted {source : String} {checked : Bool} {tokens : List Token}
    (accepted : accepted? source checked = some tokens) : (Source.tokenize source).result = .ok tokens := by
  unfold accepted? at accepted
  split at accepted
  · cases accepted
  next lexed =>
    split at accepted
    · cases accepted
    · cases accepted
      exact lexed

theorem accepted?_false_eq_none_iff {source : String} :
    accepted? source false = none ↔ ∃ error, (Source.tokenize source).result = .error error := by
  unfold accepted?
  cases (Source.tokenize source).result <;> simp

/-- How a command ends: its code, and the files that it leaves. -/
def Outcome.ending (outcome : Outcome) : Nat × Folder := (outcome.code, outcome.folder)

namespace Plan

variable (folder : Folder) (input : List UInt8)

@[simp] theorem ending_notifyAll (notices : List Notice) (next : Plan) :
    ((notifyAll notices next).perform folder input).ending = (next.perform folder input).ending := by
  induction notices with
  | nil => rfl
  | cons notice rest ih => exact ih

@[simp] theorem ending_reportAll (diagnostics : List Diagnostic) (next : Plan) :
    ((reportAll diagnostics next).perform folder input).ending = (next.perform folder input).ending :=
  ending_notifyAll folder input _ next

@[simp] theorem ending_warnOnExtension (path expected : String) (next : Plan) :
    ((warnOnExtension path expected next).perform folder input).ending = (next.perform folder input).ending := by
  unfold warnOnExtension
  split <;> rfl

theorem ending_fileFailure (action : FileAction) (path : String) (failure : Failure) :
    ((fileFailure action path failure).perform folder input).ending = (1, folder) :=
  ending_notifyAll folder input _ _

theorem output_notifyAll (notices : List Notice) (next : Plan) :
    ((notifyAll notices next).perform folder input).output = (next.perform folder input).output := by
  induction notices with
  | nil => rfl
  | cons notice rest ih => exact ih

@[simp] theorem ending_sayLines (lines : List String) (next : Plan) :
    ((sayLines lines next).perform folder input).ending = (next.perform folder input).ending := rfl

/-- Reading uses up the input if it is what is read, and nothing else. -/
theorem perform_read (path : String) :
    ∃ left, ∀ next, (read path next).perform folder input = (next (folder.text input path)).perform folder left := by
  simp only [Folder.text, perform]
  rcases folder.readable path with failure | content | device
  · exact ⟨input, fun next => rfl⟩
  · exact ⟨input, fun next => rfl⟩
  · cases device with
    | input => exact ⟨[], fun next => rfl⟩
    | _ => exact ⟨input, fun next => rfl⟩

theorem ending_lexing (source : String) (next : List Token → Plan) :
    ((lexing source next).perform folder input).ending =
      match (Source.tokenize source).result with
      | .ok tokens => ((next tokens).perform folder input).ending
      | .error _ => (65, folder) := by
  simp only [lexing, ending_reportAll]
  cases (Source.tokenize source).result with
  | ok tokens => rfl
  | error error => exact ending_reportAll folder input _ dataFailure

theorem ending_checking (tokens : List Token) (next : Plan) :
    ((checking tokens next).perform folder input).ending =
      match Scope.check tokens with
      | .ok () => (next.perform folder input).ending
      | .error _ => (65, folder) := by
  simp only [checking, ending_reportAll]
  cases Scope.check tokens <;> rfl

/-- A compilation ends when the source cannot be read, when it is not accepted, or as writing its stream ends. -/
theorem ending_compile_eq (path output : String) (checked : Bool) :
    ∃ left, ((compile path output checked).perform folder input).ending =
      match folder.text input path with
      | .error _ => (1, folder)
      | .ok source =>
        match accepted? source checked with
        | none => (65, folder)
        | some tokens => ((writeStream output tokens).perform folder left).ending := by
  obtain ⟨left, read⟩ := perform_read folder input path
  refine ⟨left, ?_⟩
  rw [compile, ending_warnOnExtension, readSource, read]
  cases folder.text input path with
  | error failure => exact ending_fileFailure folder left .read path failure
  | ok source =>
    simp only [ending_lexing, accepted?]
    cases (Source.tokenize source).result with
    | error error => rfl
    | ok tokens =>
      cases checked with
      | false => rfl
      | true =>
        simp only [if_true, ending_checking]
        cases Scope.check tokens <;> rfl

/-- Writing leaves the stream at the location that the output path leads to, or no file at all. -/
theorem ending_writeStream_cases (output : String) (tokens : List Token) :
    let ending := ((writeStream output tokens).perform folder input).ending
    (∃ location, folder.writable output = .ok (.file location) ∧
      ending = (0, folder.set location (Stream.encode tokens).toUTF8)) ∨
    ending = (0, folder) ∨ ending = (1, folder) := by
  rw [writeStream, perform]
  rcases folder.writable output with failure | location | device
  · exact .inr (.inr (ending_fileFailure folder input .create output failure))
  · exact .inl ⟨location, rfl, rfl⟩
  · cases device with
    | full => exact .inr (.inr (ending_fileFailure folder input .write output .noSpace))
    | _ => exact .inr (.inl rfl)

section Readable

variable {folder input} {path source : String} (readable : folder.text input path = .ok source)

include readable

theorem perform_readSource :
    ∃ left, ∀ next, (readSource path next).perform folder input = (next source).perform folder left := by
  obtain ⟨left, read⟩ := perform_read folder input path
  exact ⟨left, fun next => by rw [readSource, read, readable]⟩

theorem ending_tokenize (format : Source.Format) :
    ((tokenize path format).perform folder input).ending =
      match accepted? source false with
      | none => (65, folder)
      | some _ => (0, folder) := by
  obtain ⟨left, read⟩ := perform_readSource readable
  have listed := Source.listEvents_gather format (Source.endToken source) (Source.events source)
  rw [tokenize, read, ending_sayLines, ending_reportAll, accepted?, Source.tokenize, Source.list]
  cases lexed : (Source.gather (Source.endToken source) (Source.events source)).result with
  | error error =>
    rw [lexed] at listed
    simp only [listed]
    exact ending_notifyAll folder left _ dataFailure
  | ok tokens =>
    rw [lexed] at listed
    simp only [listed.1]
    rfl

theorem output_tokenize {tokens : List Token} (lexed : (Source.tokenize source).result = .ok tokens) :
    ((tokenize path .stream).perform folder input).output = Stream.encode tokens := by
  obtain ⟨left, read⟩ := perform_readSource readable
  have listed := Source.listEvents_gather .stream (Source.endToken source) (Source.events source)
  rw [Source.tokenize] at lexed
  rw [lexed] at listed
  rw [tokenize, read]
  simp only [sayLines, perform, Outcome.afterOutput, Source.list, listed.1, listed.2, reportAll, output_notifyAll]
  simp [success, perform, Stream.encode, Function.comp_def, Source.tokenLine]

theorem ending_check :
    ((check path).perform folder input).ending =
      match accepted? source true with
      | none => (65, folder)
      | some _ => (0, folder) := by
  obtain ⟨left, read⟩ := perform_readSource readable
  rw [check, read, ending_lexing, accepted?]
  cases (Source.tokenize source).result with
  | error error => rfl
  | ok tokens =>
    simp only [ending_checking]
    cases Scope.check tokens <;> rfl

theorem ending_compile_of_text (output : String) (checked : Bool) :
    ∃ left, ((compile path output checked).perform folder input).ending =
      match accepted? source checked with
      | none => (65, folder)
      | some tokens => ((writeStream output tokens).perform folder left).ending := by
  obtain ⟨left, ended⟩ := ending_compile_eq folder input path output checked
  rw [readable] at ended
  exact ⟨left, ended⟩

end Readable

variable {folder}

theorem ending_writeStream {output : String} {location : Location}
    (writable : folder.writable output = .ok (.file location)) (tokens : List Token) :
    ((writeStream output tokens).perform folder input).ending =
      (0, folder.set location (Stream.encode tokens).toUTF8) := by
  rw [writeStream, perform, writable]
  rfl

end Plan

end Command

end StreamScript
