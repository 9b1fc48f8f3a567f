import StreamScript.Run.Machine

/-! What one token does to a machine, and what follows for everything that can be done with one. Whoever holds a
machine may feed it tokens, run lists of items or run streams, in any order and also after errors. A fact about
one step that can be chained is a fact about all such histories. -/

namespace StreamScript

/-- A token that only waits for the end of its statement. -/
def Token.Waits (token : Token) : Prop :=
  token.kind ≠ .endOfFile ∧ token.kind ≠ .usingWord ∧ token.kind ≠ .semicolon

namespace Run.Machine

variable {κ : Type}

def importing (settings : Settings) (machine : Machine κ) (token : Token) : Machine κ :=
  let traced := machine.trace settings ("Importing library " ++ token.literal) (some token.position)
  { traced with imports := traced.imports.insert token.literal }

def cleared (machine : Machine κ) : Machine κ := { machine with pending := [] }

def holding (machine : Machine κ) (token : Token) : Machine κ := { machine with pending := machine.pending ++ [token] }

/-! What the parts of a step leave alone, each in one statement. -/

theorem trace_frame (settings : Settings) (machine : Machine κ) (message : String) (place : Option Position) :
    ∃ log, machine.trace settings message place = { machine with log } := by
  unfold trace
  split
  · exact ⟨_, rfl⟩
  · exact ⟨machine.log, rfl⟩

theorem importing_frame (settings : Settings) (machine : Machine κ) (token : Token) :
    ∃ log imports, machine.importing settings token = { machine with log, imports } := by
  obtain ⟨log, traced⟩ := machine.trace_frame settings ("Importing library " ++ token.literal) (some token.position)
  refine ⟨log, machine.imports.insert token.literal, ?_⟩
  simp only [importing, traced]

theorem settle_frame {α : Type} (machine : Machine κ) (token : Token) (answer : Except String α × κ) :
    ∃ console, (machine.settle token answer).2 = { machine with console } := by
  obtain ⟨_ | _, console⟩ := answer <;> exact ⟨console, rfl⟩

theorem update_frame (machine : Machine κ) (result : Except Error Store) :
    ∃ store, (machine.update result).2 = { machine with store } := by
  cases result with
  | ok store => exact ⟨store, rfl⟩
  | error error => exact ⟨machine.store, rfl⟩

theorem update_console (machine : Machine κ) (result : Except Error Store) :
    (machine.update result).2.console = machine.console := by
  cases result <;> rfl

section Frames

variable [Console κ] (settings : Settings) (machine : Machine κ)

theorem writeText_frame (token : Token) (method : Method) (text : String) :
    ∃ console, (machine.writeText token method text).2 = { machine with console } := by
  cases method <;> exact settle_frame machine token _

theorem ask_frame (prompt : Token) : ∃ console, (machine.ask prompt).2 = { machine with console } := by
  obtain ⟨written, wrote⟩ := machine.settle_frame prompt (Console.write (prompt.literal ++ " ") machine.console)
  unfold ask
  generalize machine.settle prompt (Console.write (prompt.literal ++ " ") machine.console) = first at wrote
  obtain ⟨_ | _, after⟩ := first
  · exact ⟨written, wrote⟩
  · obtain rfl : after = { machine with console := written } := wrote
    obtain ⟨read, answered⟩ := settle_frame { machine with console := written } prompt (Console.readLine written)
    simp only
    generalize settle { machine with console := written } prompt (Console.readLine written) = second at answered
    obtain ⟨_ | _ | _, last⟩ := second <;> exact ⟨read, answered⟩

/-- How a statement is executed, with what decided on it. -/
inductive Execution : Statement → Except Error Unit × Machine κ → Prop where
  | declared (type name separator : Token) (value : List Token) :
      Execution (.declaration type name separator value)
        (machine.update (declare machine.store machine.imports type name separator value))
  | assigned (name : Token) (value : List Token) :
      Execution (.assignment name value) (machine.update (assign machine.store machine.imports name value))
  | forbidden {name library : Token} (prompt inputType : Token) {error : Error}
      (refused : promptedType machine.store machine.imports name library = .error error) :
      Execution (.prompted name library prompt inputType) (.error error, machine)
  | unanswered {name library prompt : Token} (inputType : Token) {type : ValueType} {error : Error} {console : κ}
      (allowed : promptedType machine.store machine.imports name library = .ok type)
      (asked : machine.ask prompt = (.error error, { machine with console })) :
      Execution (.prompted name library prompt inputType) (.error error, { machine with console })
  | answered {name library prompt : Token} (inputType : Token) {type : ValueType} {line : String} {console : κ}
      (allowed : promptedType machine.store machine.imports name library = .ok type)
      (asked : machine.ask prompt = (.ok line, { machine with console })) :
      Execution (.prompted name library prompt inputType)
        ({ machine with console }.update (enter machine.store name inputType type line))
  | uncalled {library argument : Token} (method : Method) {error : Error}
      (failed : callText machine.store machine.imports library argument = .error error) :
      Execution (.call library method argument) (.error error, machine)
  | called {library argument : Token} (method : Method) {text : String}
      (made : callText machine.store machine.imports library argument = .ok text) :
      Execution (.call library method argument) (machine.writeText library method text)
  | printed (value : Token) :
      Execution (.print value) (machine.writeText value .println (printText machine.store value))
  | refused (first : Token) (strict : settings.strict = true) :
      Execution (.unrecognized first) (.error (.ofToken first (.unknownStatement first.kind)), machine)
  | ignored (first : Token) (lenient : settings.strict = false) : Execution (.unrecognized first) (.ok (), machine)

theorem execute_cases (statement : Statement) :
    Execution settings machine statement (machine.execute settings statement) := by
  cases statement with
  | declaration type name separator value => exact .declared type name separator value
  | assignment name value => exact .assigned name value
  | prompted name library prompt inputType =>
    simp only [execute]
    cases allowed : promptedType machine.store machine.imports name library with
    | error error => exact .forbidden prompt inputType allowed
    | ok type =>
      obtain ⟨console, framed⟩ := machine.ask_frame prompt
      rcases asked : machine.ask prompt with ⟨error | line, after⟩
      all_goals
        rw [asked] at framed
        obtain rfl : after = { machine with console } := framed
      · exact .unanswered inputType allowed asked
      · exact .answered inputType allowed asked
  | call library method argument =>
    simp only [execute]
    cases made : callText machine.store machine.imports library argument with
    | error error => exact .uncalled method made
    | ok text => exact .called method made
  | print value => exact .printed value
  | unrecognized first =>
    simp only [execute]
    split
    next strict => exact .refused first strict
    next lenient => exact .ignored first (Bool.not_eq_true _ ▸ lenient)

theorem execute_frame (statement : Statement) :
    ∃ store console, (machine.execute settings statement).2 = { machine with store, console } := by
  have execution := execute_cases settings machine statement
  generalize machine.execute settings statement = result at execution
  cases execution with
  | declared | assigned =>
    obtain ⟨store, updated⟩ := machine.update_frame _
    exact ⟨store, machine.console, updated⟩
  | @unanswered _ _ _ _ _ _ console => exact ⟨machine.store, console, rfl⟩
  | @answered _ _ _ _ _ _ console =>
    obtain ⟨store, updated⟩ := update_frame { machine with console } _
    exact ⟨store, console, updated⟩
  | called | printed =>
    obtain ⟨console, wrote⟩ := machine.writeText_frame _ _ _
    exact ⟨machine.store, console, wrote⟩
  | forbidden | uncalled | refused | ignored => exact ⟨machine.store, machine.console, rfl⟩

theorem dispatch_nothing {tokens : List Token} (nothing : Statement.classify tokens = none) :
    machine.dispatch settings tokens = (.ok (), machine) := by
  rw [dispatch, nothing]

/-- The statement is executed on the same machine but for the log. -/
theorem dispatch_recognized {tokens : List Token} {statement : Statement}
    (recognized : Statement.classify tokens = some statement) :
    ∃ log, machine.dispatch settings tokens = execute settings { machine with log } statement := by
  obtain ⟨log, traced⟩ := machine.trace_frame settings ("Executing " ++ statement.name)
    (tokens.head?.map (·.position))
  refine ⟨log, ?_⟩
  rw [← traced, dispatch, recognized]

/-- A statement changes neither the imports nor the tokens that wait. -/
theorem dispatch_frame (tokens : List Token) :
    ∃ store console log, (machine.dispatch settings tokens).2 = { machine with store, console, log } := by
  cases recognized : Statement.classify tokens with
  | none =>
    rw [dispatch_nothing settings machine recognized]
    exact ⟨machine.store, machine.console, machine.log, rfl⟩
  | some statement =>
    obtain ⟨log, executes⟩ := dispatch_recognized settings machine recognized
    obtain ⟨store, console, executed⟩ := execute_frame settings { machine with log } statement
    rw [executes]
    exact ⟨store, console, log, executed⟩

end Frames

/-! What a token of each sort does. -/

variable [Console κ] (settings : Settings) (machine : Machine κ) (token : Token)

theorem step_endOfFile (kind : token.kind = .endOfFile) :
    machine.step settings token = (.ok .finished, machine.cleared) := by
  simp only [step, kind]
  rfl

theorem step_usingWord (kind : token.kind = .usingWord) :
    machine.step settings token = (.ok .running, machine.importing settings token) := by
  simp only [step, kind]
  rfl

theorem step_semicolon (kind : token.kind = .semicolon) :
    machine.step settings token =
      (((machine.cleared.dispatch settings machine.pending).1.map fun _ => .running),
        (machine.cleared.dispatch settings machine.pending).2) := by
  simp only [step, kind, cleared]
  split
  next succeeded =>
    rw [succeeded]
    rfl
  next failed =>
    rw [failed]
    rfl

theorem step_waits (waits : token.Waits) : machine.step settings token = (.ok .running, machine.holding token) := by
  obtain ⟨notEnd, notUsing, notSemicolon⟩ := waits
  simp only [step]
  rfl

theorem kind_cases : token.kind = .endOfFile ∨ token.kind = .usingWord ∨ token.kind = .semicolon ∨ token.Waits := by
  by_cases isEnd : token.kind = .endOfFile
  · exact .inl isEnd
  by_cases isUsing : token.kind = .usingWord
  · exact .inr (.inl isUsing)
  by_cases isSemicolon : token.kind = .semicolon
  · exact .inr (.inr (.inl isSemicolon))
  · exact .inr (.inr (.inr ⟨isEnd, isUsing, isSemicolon⟩))

theorem drive_waiting {statement : List Token} (waits : ∀ token ∈ statement, token.Waits) (later : List Stream.Item) :
    machine.drive settings (statement.map .ok ++ later) =
      { machine with pending := machine.pending ++ statement }.drive settings later := by
  induction statement generalizing machine with
  | nil => simp
  | cons token rest ih =>
    obtain ⟨tokenWaits, restWaits⟩ := List.forall_mem_cons.mp waits
    rw [List.map_cons, List.cons_append, drive, step_waits settings machine token tokenWaits]
    simpa [holding] using ih (machine.holding token) restWaits

/-- The tokens of a statement wait until it is complete. -/
theorem drive_statement (quiet : machine.pending = []) {statement : List Token}
    (waits : ∀ token ∈ statement, token.Waits) {semicolon : Token} (ends : semicolon.kind = .semicolon)
    (later : List Stream.Item) :
    machine.drive settings (statement.map .ok ++ .ok semicolon :: later) =
      match machine.dispatch settings statement with
      | (.ok (), after) => after.drive settings later
      | (.error error, after) => (.error error, after) := by
  have same : { machine with pending := machine.pending ++ statement }.cleared = machine := by
    rw [cleared, ← quiet]
  rw [drive_waiting settings machine waits, drive, step_semicolon settings _ semicolon ends, same, quiet,
    List.nil_append]
  rcases machine.dispatch settings statement with ⟨_ | _, after⟩ <;> rfl

end Run.Machine

namespace Run

inductive Call where
  | step (token : Token)
  | items (items : List Stream.Item)
  | stream (text : String)

namespace Machine

variable {κ : Type} [Console κ] (settings : Settings)

/-- The machine after a call, whether it failed or not. -/
def perform (machine : Machine κ) : Call → Machine κ
  | .step token => (machine.step settings token).2
  | .items items => (machine.run settings items).2
  | .stream text => (machine.runStream settings text).2

def performAll (machine : Machine κ) (calls : List Call) : Machine κ := calls.foldl (perform settings) machine

/-- The states of a machine that began with nothing but a console and earlier reports. -/
inductive Reachable : Machine κ → Prop where
  | fresh (console : κ) (log : List Diagnostic) : Reachable { console, log }
  | call {machine : Machine κ} (reached : Reachable machine) (call : Call) : Reachable (machine.perform settings call)

theorem Reachable.performAll {machine : Machine κ} (reached : Reachable settings machine) (calls : List Call) :
    Reachable settings (machine.performAll settings calls) := by
  induction calls generalizing machine with
  | nil => exact reached
  | cons call rest ih => exact ih (reached.call call)

section Relation

variable {settings} (relation : Machine κ → Machine κ → Prop) (refl : ∀ machine, relation machine machine)
  (trans : ∀ {before middle after}, relation before middle → relation middle after → relation before after)
  (reports : ∀ machine diagnostic, relation machine (machine.report diagnostic))
  (steps : ∀ machine token, relation machine (machine.step settings token).2)

include refl trans steps in
theorem drive_relates (machine : Machine κ) (items : List Stream.Item) :
    relation machine (machine.drive settings items).2 := by
  induction items generalizing machine with
  | nil => exact refl machine
  | cons item rest ih =>
    cases item with
    | error error => exact refl machine
    | ok token =>
      have moved := steps machine token
      simp only [drive]
      generalize machine.step settings token = ended at moved
      rcases ended with ⟨_ | _ | _, after⟩
      · exact moved
      · exact trans moved (ih after)
      · exact moved

include refl trans reports steps in
theorem run_relates (machine : Machine κ) (items : List Stream.Item) :
    relation machine (machine.run settings items).2 := by
  have driven := drive_relates relation refl trans steps machine items
  simp only [run]
  generalize machine.drive settings items = ended at driven
  rcases ended with ⟨error | _, after⟩
  · exact trans driven (reports after _)
  · exact driven

include refl trans reports steps in
theorem perform_relates (machine : Machine κ) (call : Call) : relation machine (machine.perform settings call) := by
  cases call with
  | step token => exact steps machine token
  | items items => exact run_relates relation refl trans reports steps machine items
  | stream text => exact run_relates relation refl trans reports steps machine (Stream.items text)

include refl trans reports steps in
theorem performAll_relates (machine : Machine κ) (calls : List Call) :
    relation machine (machine.performAll settings calls) := by
  induction calls generalizing machine with
  | nil => exact refl machine
  | cons call rest ih => exact trans (perform_relates relation refl trans reports steps machine call) (ih _)

end Relation

theorem Reachable.invariant {settings : Settings} (holds : Machine κ → Prop)
    (begins : ∀ console log, holds { console, log })
    (reports : ∀ machine diagnostic, holds machine → holds (machine.report diagnostic))
    (steps : ∀ machine token, holds machine → holds (machine.step settings token).2)
    {machine : Machine κ} (reached : Reachable settings machine) : holds machine := by
  induction reached with
  | fresh console log => exact begins console log
  | call _ call ih =>
    exact perform_relates (fun before after => holds before → holds after) (fun _ held => held)
      (fun first second held => second (first held)) reports steps _ call ih

end Machine

end Run

end StreamScript
