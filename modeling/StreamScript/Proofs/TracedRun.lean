import StreamScript.Proofs.RunHistory

/-! Tracing watches a run and has no part in it. The log is written and never read, so a traced run differs from an
untraced one in its log only: there is one announcement for every import and for every statement that is not empty.
Whether traced or not, a run reports the fault that ends it once, as the last thing it does. -/

namespace StreamScript.Run

namespace Statement

/-- The statement that tokens make up, if there is at least one. -/
def form (first : Token) (rest : List Token) : Statement := (classify (first :: rest)).getD (.unrecognized first)

theorem classify_cons (first : Token) (rest : List Token) : classify (first :: rest) = some (form first rest) := by
  have unrecognized (forms : Option Statement) : ∃ statement, forms.or (some (.unrecognized first)) = some statement := by
    cases forms with
    | none => exact ⟨_, rfl⟩
    | some statement => exact ⟨statement, rfl⟩
  obtain ⟨statement, classified⟩ : ∃ statement, classify (first :: rest) = some statement := by
    simp only [classify, List.head?_cons, Option.map_some, ← Option.or_assoc]
    exact unrecognized _
  rw [form, classified]
  rfl

end Statement

variable {κ : Type}

/-- What is said about a statement before it is executed: its form and where it begins. Of nothing, nothing is said. -/
def executing? : List Token → Option Diagnostic
  | [] => none
  | first :: rest => some ⟨.debug, "Executing " ++ (Statement.form first rest).name, some first.position⟩

/-- What a traced machine says about a token that is fed to it. -/
def Moment.announcement? (moment : Moment κ) : Option Diagnostic :=
  match moment.token.kind with
  | .usingWord => some ⟨.debug, "Importing library " ++ moment.token.literal, some moment.token.position⟩
  | .semicolon => executing? moment.machine.pending
  | _ => none

/-- Whether announcements are made at all. -/
def Settings.traced (settings : Settings) (announcements : List Diagnostic) : List Diagnostic :=
  if settings.trace then announcements else []

theorem Settings.traced_append (settings : Settings) (first last : List Diagnostic) :
    settings.traced (first ++ last) = settings.traced first ++ settings.traced last := by
  unfold traced
  split <;> rfl

@[simp] theorem Settings.traced_nil (settings : Settings) : settings.traced [] = [] := by
  unfold traced
  split <;> rfl

/-- What the end of a run adds to the log. -/
def closingReport : Except Error Unit → List Diagnostic
  | .ok () => []
  | .error error => [⟨.fatal, error.fault.message, error.position⟩]

theorem level_announcement? {moment : Moment κ} {diagnostic : Diagnostic}
    (said : moment.announcement? = some diagnostic) : diagnostic.level = .debug := by
  unfold Moment.announcement? at said
  split at said
  · cases said
    rfl
  · unfold executing? at said
    split at said
    · cases said
    · cases said
      rfl
  · cases said

theorem level_closingReport (result : Except Error Unit) :
    ∀ diagnostic ∈ closingReport result, diagnostic.level = .fatal := by
  cases result <;> simp [closingReport]

namespace Machine

def withLog {α : Type} (ended : Except Error α × Machine κ) (log : List Diagnostic) : Except Error α × Machine κ :=
  (ended.1, { ended.2 with log })

variable [Console κ] (settings : Settings) (machine : Machine κ) (log : List Diagnostic)

/-! Statements do not look at the log. -/

theorem writeText_withLog (token : Token) (method : Method) (text : String) :
    writeText { machine with log } token method text = withLog (machine.writeText token method text) log := by
  have settled (answer : Except String Unit × κ) :
      settle { machine with log } token answer = withLog (machine.settle token answer) log := by
    rcases answer with ⟨_ | _, console⟩ <;> rfl
  cases method with
  | print => exact settled _
  | println => exact settled _

theorem ask_withLog (prompt : Token) : ask { machine with log } prompt = withLog (machine.ask prompt) log := by
  simp only [ask]
  rcases Console.write (prompt.literal ++ " ") machine.console with ⟨_ | _, written⟩
  · rfl
  · simp only [settle]
    rcases Console.readLine written with ⟨_ | _ | _, read⟩ <;> rfl

theorem execute_withLog (statement : Statement) :
    execute settings { machine with log } statement = withLog (machine.execute settings statement) log := by
  cases statement with
  | declaration type name separator value =>
    simp only [execute]
    cases declare machine.store machine.imports type name separator value <;> rfl
  | assignment name value =>
    simp only [execute]
    cases assign machine.store machine.imports name value <;> rfl
  | prompted name library prompt inputType =>
    simp only [execute]
    cases promptedType machine.store machine.imports name library with
    | error error => rfl
    | ok type =>
      simp only [ask_withLog]
      rcases machine.ask prompt with ⟨_ | line, after⟩
      · rfl
      · simp only [withLog]
        cases enter after.store name inputType type line <;> rfl
  | call library method argument =>
    simp only [execute]
    cases callText machine.store machine.imports library argument with
    | error error => rfl
    | ok text => exact writeText_withLog machine log library method text
  | print value => exact writeText_withLog machine log value .println (printText machine.store value)
  | unrecognized first =>
    simp only [execute]
    split <;> rfl

theorem execute_untraced (statement : Statement) :
    machine.execute { settings with trace := false } statement = machine.execute settings statement := by
  cases statement <;> rfl

omit [Console κ] in
theorem trace_withLog (message : String) (place : Option Position) :
    trace settings { machine with log } message place =
      { machine with log := log ++ settings.traced [⟨.debug, message, place⟩] } := by
  unfold trace Settings.traced
  split
  · rfl
  · simp

theorem dispatch_withLog (tokens : List Token) :
    dispatch settings { machine with log } tokens =
      withLog (machine.dispatch { settings with trace := false } tokens)
        (log ++ settings.traced (executing? tokens).toList) := by
  cases tokens with
  | nil =>
    simp only [executing?, Option.toList, Settings.traced_nil, List.append_nil]
    rfl
  | cons first rest =>
    simp only [dispatch, Statement.classify_cons, trace_withLog, execute_withLog]
    rw [← execute_untraced settings machine]
    rfl

/-- Whatever is in the log, a traced step is the untraced one with its announcement added. -/
theorem step_withLog (token : Token) :
    step settings { machine with log } token =
      withLog (machine.step { settings with trace := false } token)
        (log ++ settings.traced (Moment.announcement? ⟨machine, token⟩).toList) := by
  rcases kind_cases token with isEnd | isUsing | isSemicolon | waits
  · simp only [step_endOfFile _ _ token isEnd, Moment.announcement?, isEnd, Option.toList, Settings.traced_nil,
      List.append_nil]
    rfl
  · simp only [step_usingWord _ _ token isUsing, Moment.announcement?, isUsing, Option.toList, importing,
      trace_withLog]
    rfl
  · have dispatched := dispatch_withLog settings machine.cleared log machine.pending
    simp only [step_semicolon _ _ token isSemicolon, Moment.announcement?, isSemicolon]
    change dispatch settings (cleared { machine with log }) machine.pending = _ at dispatched
    rw [dispatched]
    rfl
  · have silent : Moment.announcement? ⟨machine, token⟩ = none := by
      obtain ⟨_, notUsing, notSemicolon⟩ := waits
      simp only [Moment.announcement?]
    simp only [step_waits _ _ token waits, silent, Option.toList, Settings.traced_nil, List.append_nil]
    rfl

omit [Console κ] in
theorem announcements_cons (moment : Moment κ) (later : List (Moment κ)) :
    (moment :: later).filterMap Moment.announcement? =
      moment.announcement?.toList ++ later.filterMap Moment.announcement? := by
  cases said : moment.announcement? <;> simp [said]

theorem drive_withLog (items : List Stream.Item) :
    drive settings { machine with log } items =
      withLog (machine.drive { settings with trace := false } items)
        (log ++ settings.traced
          ((machine.moments { settings with trace := false } items).filterMap Moment.announcement?)) := by
  induction items generalizing machine log with
  | nil => simp [drive, moments, withLog]
  | cons item rest ih =>
    cases item with
    | error error => simp [drive, moments, withLog]
    | ok token =>
      simp only [drive, moments, step_withLog, announcements_cons, Settings.traced_append, ← List.append_assoc]
      rcases machine.step { settings with trace := false } token with ⟨_ | _ | _, after⟩
      · simp [withLog]
      · exact ih after _
      · simp [withLog]

theorem run_withLog (items : List Stream.Item) :
    run settings { machine with log } items =
      withLog (machine.run { settings with trace := false } items)
        (log ++ (settings.traced
          ((machine.moments { settings with trace := false } items).filterMap Moment.announcement?) ++
          closingReport (machine.run { settings with trace := false } items).1)) := by
  simp only [run, drive_withLog]
  rcases machine.drive { settings with trace := false } items with ⟨error | _, after⟩
  · simp [withLog, report, closingReport]
  · simp [withLog, closingReport]

/-- Two runs that differ in tracing end alike but for the log. To the log, the traced run adds what it announces, and
both add the fault if they end with one. -/
theorem traced_run_announces (items : List Stream.Item) :
    let plain := machine.run { settings with trace := false } items
    let traced := machine.run { settings with trace := true } items
    let announcements :=
      (machine.moments { settings with trace := false } items).filterMap Moment.announcement?
    let added := announcements ++ closingReport plain.1
    traced = (plain.1, { plain.2 with log := machine.log ++ added }) ∧
    plain.2.log = machine.log ++ added.filter (·.level ≠ .debug) ∧
    added.filter (·.level ≠ .debug) = closingReport plain.1 ∧
    added.filter (·.level = .debug) = announcements := by
  intro plain traced announcements added
  have debug : ∀ diagnostic ∈ announcements, diagnostic.level = .debug := by
    intro diagnostic member
    obtain ⟨moment, _, said⟩ := List.mem_filterMap.mp member
    exact level_announcement? said
  have fatal : ∀ diagnostic ∈ closingReport plain.1, diagnostic.level = .fatal := level_closingReport plain.1
  have others : added.filter (·.level ≠ .debug) = closingReport plain.1 := by
    rw [List.filter_append, List.filter_eq_nil_iff.mpr, List.filter_eq_self.mpr, List.nil_append]
    · intro diagnostic member
      simp [fatal diagnostic member]
    · intro diagnostic member
      simp [debug diagnostic member]
  have announced : added.filter (·.level = .debug) = announcements := by
    rw [List.filter_append, List.filter_eq_self.mpr, List.filter_eq_nil_iff.mpr, List.append_nil]
    · intro diagnostic member
      simp [fatal diagnostic member]
    · intro diagnostic member
      simp [debug diagnostic member]
  refine ⟨run_withLog { settings with trace := true } machine machine.log items, ?_, others, announced⟩
  rw [others]
  exact congrArg (·.2.log) (run_withLog { settings with trace := false } machine machine.log items)

/-- The semicolon behind the import ends a statement that is empty. The assignment fails, and is announced. -/
example :
    let start : Machine Transcript := { console := {} }
    let items : List Stream.Item :=
      [.ok ⟨.usingWord, "Output", ⟨1, 1⟩⟩, .ok ⟨.semicolon, ";", ⟨1, 13⟩⟩, .ok ⟨.identifier, "x", ⟨2, 1⟩⟩,
      .ok ⟨.equal, "=", ⟨2, 3⟩⟩, .ok ⟨.number, "1", ⟨2, 5⟩⟩, .ok ⟨.semicolon, ";", ⟨2, 6⟩⟩]
    (start.moments {} items).filterMap Moment.announcement? =
      [⟨.debug, "Importing library Output", some ⟨1, 1⟩⟩, ⟨.debug, "Executing assignment", some ⟨2, 1⟩⟩] := by
  rfl

end Machine

end StreamScript.Run
