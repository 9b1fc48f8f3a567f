import StreamScript.Proofs.StoreChanges

/-! What one step does to the variables and to a console in memory. A step that fails leaves them as they were,
except that a prompt may have been answered by then. A step that succeeds sets one variable at most, adds to the
end of the output and takes at most one line of input. -/

namespace StreamScript.Run

/-- The variable that a statement gives a value to. -/
def Statement.target? : Statement → Option String
  | declaration _ name _ _ => some name.literal
  | prompted name _ _ _ => some name.literal
  | assignment name _ => some name.literal
  | call .. => none
  | print _ => none
  | unrecognized _ => none

namespace Transcript

/-- The transcript once a prompt is written and a line is read, if there is one. -/
def prompted (transcript : Transcript) (prompt : Token) : Transcript :=
  ⟨transcript.output ++ (prompt.literal ++ " "), transcript.input.tail⟩

/-- A later transcript with at most one line less to read. -/
structure Continues (before after : Transcript) : Prop where
  output : ∃ text, after.output = before.output ++ text
  input : after.input = before.input ∨ ∃ line, before.input = line :: after.input

theorem Continues.refl (transcript : Transcript) : transcript.Continues transcript :=
  ⟨⟨"", by simp⟩, .inl rfl⟩

theorem continues_write (transcript : Transcript) (text : String) :
    transcript.Continues { transcript with output := transcript.output ++ text } :=
  ⟨⟨text, rfl⟩, .inl rfl⟩

theorem continues_prompted (transcript : Transcript) (prompt : Token) :
    transcript.Continues (transcript.prompted prompt) := by
  obtain ⟨output, input⟩ := transcript
  refine ⟨⟨prompt.literal ++ " ", rfl⟩, ?_⟩
  cases input with
  | nil => exact .inl rfl
  | cons line rest => exact .inr ⟨line, rfl⟩

end Transcript

section Variables

variable {before after : Store} {imports : List String} {name : Token} {other : String}

theorem declare_other {type separator : Token} {value : List Token}
    (declared : declare before imports type name separator value = .ok after) (different : other ≠ name.literal) :
    after.get? other = before.get? other := by
  obtain ⟨named, result, _, made⟩ := declare_ok declared
  rw [Store.get?_declare? made, if_neg different]

theorem put_other {type : ValueType} {value : Value} (stored : put before name type value = .ok after)
    (different : other ≠ name.literal) : after.get? other = before.get? other := by
  obtain ⟨_, made⟩ := put_ok stored
  rw [Store.get?_assign? made, if_neg different]

theorem assign_other {value : List Token} (assigned : assign before imports name value = .ok after)
    (different : other ≠ name.literal) : after.get? other = before.get? other := by
  obtain ⟨type, result, _, stored⟩ := assign_put assigned
  exact put_other stored different

theorem enter_other {inputType : Token} {type : ValueType} {line : String}
    (entered : enter before name inputType type line = .ok after) (different : other ≠ name.literal) :
    after.get? other = before.get? other := by
  obtain ⟨value, stored⟩ := enter_put entered
  exact put_other stored different

end Variables

namespace Machine

section Definitions

variable {κ : Type}

/-- The statement that a token completes. -/
def completed? (machine : Machine κ) (token : Token) : Option Statement :=
  if token.is .semicolon then Statement.classify machine.pending else none

/-- The prompt that a statement writes. Input is asked for only if the variable is declared and the library is
imported. -/
def prompt? (machine : Machine κ) : Statement → Option Token
  | .prompted name _ prompt _ =>
    if machine.store.contains name.literal && machine.imports.contains outputName then some prompt else none
  | _ => none

theorem prompt?_prompted (machine : Machine κ) (name library prompt inputType : Token) :
    machine.prompt? (.prompted name library prompt inputType) =
      match promptedType machine.store machine.imports name library with
      | .ok _ => some prompt
      | .error _ => none := by
  cases held : machine.store.get? name.literal with
  | none => simp [prompt?, Store.contains, promptedType, declaredType, held, bind, Except.bind]
  | some found =>
    cases imported : machine.imports.contains outputName <;>
      simp only [prompt?, Store.contains, promptedType, declaredType, requireOutput, held, imported] <;> rfl

end Definitions

/-- The console that a statement leaves when it fails. -/
def leftConsole (machine : Machine Transcript) (statement : Statement) : Transcript :=
  match machine.prompt? statement with
  | some prompt => machine.console.prompted prompt
  | none => machine.console

theorem ask_eq (machine : Machine Transcript) (prompt : Token) :
    machine.ask prompt =
      (match machine.console.input with
        | line :: _ => .ok line
        | [] => .error (.ofToken prompt .inputExhausted),
      { machine with console := machine.console.prompted prompt }) := by
  obtain ⟨store, imports, pending, ⟨output, input⟩, log⟩ := machine
  cases input <;> rfl

theorem writeText_eq (machine : Machine Transcript) (token : Token) (method : Method) (text : String) :
    ∃ written, machine.writeText token method text =
      (.ok (), { machine with console := { machine.console with output := machine.console.output ++ written } }) := by
  cases method with
  | print => exact ⟨machine.fill text, rfl⟩
  | println =>
    refine ⟨machine.fill text ++ "\n", ?_⟩
    rw [← String.append_assoc]
    rfl

/-- Input was asked for, whether there was any or not. -/
theorem console_of_asked {machine : Machine Transcript} {prompt : Token} {answer : Except Error String}
    {console : Transcript} (asked : machine.ask prompt = (answer, { machine with console })) :
    console = machine.console.prompted prompt :=
  congrArg (·.2.console) (asked.symm.trans (machine.ask_eq prompt))

theorem leftConsole_of_allowed {machine : Machine Transcript} {name library : Token} {type : ValueType}
    (allowed : promptedType machine.store machine.imports name library = .ok type) (prompt inputType : Token) :
    machine.leftConsole (.prompted name library prompt inputType) = machine.console.prompted prompt := by
  simp only [leftConsole, prompt?_prompted, allowed]

/-- How the execution of a statement can end. -/
inductive Executed (machine : Machine Transcript) (statement : Statement) :
    Except Error Unit × Machine Transcript → Prop where
  | failed (error : Error) :
      Executed machine statement (.error error, { machine with console := machine.leftConsole statement })
  | succeeded {store : Store} {console : Transcript}
      (others : ∀ name, statement.target? ≠ some name → store.get? name = machine.store.get? name)
      (continues : machine.console.Continues console) :
      Executed machine statement (.ok (), { machine with store, console })

theorem Executed.refused {machine : Machine Transcript} {statement : Statement}
    (left : machine.leftConsole statement = machine.console) (error : Error) :
    Executed machine statement (.error error, machine) := by
  have failed := @failed machine statement error
  rwa [left] at failed

/-- A statement that sets a variable has done with the console when it computes the new store. -/
theorem Executed.update {machine : Machine Transcript} {statement : Statement} {name : Token} {console : Transcript}
    (target : statement.target? = some name.literal) (left : machine.leftConsole statement = console)
    (continues : machine.console.Continues console) (result : Except Error Store)
    (others : ∀ store, result = .ok store → ∀ other, other ≠ name.literal →
      store.get? other = machine.store.get? other) :
    Executed machine statement ({ machine with console }.update result) := by
  cases result with
  | error error =>
    rw [← left]
    exact .failed error
  | ok store =>
    refine .succeeded ?_ continues
    intro other different
    apply others store rfl other
    rintro rfl
    exact different target

theorem execute_executed (settings : Settings) (machine : Machine Transcript) (statement : Statement) :
    Executed machine statement (machine.execute settings statement) := by
  have execution := execute_cases settings machine statement
  generalize machine.execute settings statement = result at execution
  cases execution with
  | declared =>
    exact .update rfl rfl (.refl _) _ fun store declared other different => declare_other declared different
  | assigned => exact .update rfl rfl (.refl _) _ fun store assigned other different => assign_other assigned different
  | forbidden prompt inputType refused =>
    apply Executed.refused
    simp only [leftConsole, prompt?_prompted, refused]
  | @unanswered _ _ prompt inputType _ _ _ allowed asked =>
    rw [console_of_asked asked, ← leftConsole_of_allowed allowed prompt inputType]
    exact .failed _
  | @answered _ _ prompt inputType _ _ _ allowed asked =>
    rw [console_of_asked asked]
    exact .update rfl (leftConsole_of_allowed allowed prompt inputType) (machine.console.continues_prompted prompt) _
      fun store entered other different => enter_other entered different
  | called | printed =>
    obtain ⟨written, wrote⟩ := machine.writeText_eq _ _ _
    rw [wrote]
    exact .succeeded (fun _ _ => rfl) (machine.console.continues_write written)
  | uncalled | refused => exact .failed _
  | ignored => exact .succeeded (fun _ _ => rfl) (.refl _)

/-- The machine after a token on which it failed. -/
structure Abandoned (machine : Machine Transcript) (token : Token) (after : Machine Transcript) : Prop where
  store : after.store = machine.store
  imports : after.imports = machine.imports
  pending : after.pending = []
  console : (machine.completed? token).bind machine.prompt? = none → after.console = machine.console
  prompted : ∀ prompt, (machine.completed? token).bind machine.prompt? = some prompt →
    after.console.output = machine.console.output ++ (prompt.literal ++ " ") ∧
    after.console.input = machine.console.input.tail

/-- The machine after a token that it took in. -/
structure Advanced (machine : Machine Transcript) (token : Token) (after : Machine Transcript) : Prop where
  others : ∀ name, (machine.completed? token).bind Statement.target? ≠ some name →
    after.store.get? name = machine.store.get? name
  console : machine.console.Continues after.console

theorem Advanced.of_frame {machine after : Machine Transcript} (token : Token) (store : after.store = machine.store)
    (console : after.console = machine.console) : Advanced machine token after := by
  refine ⟨fun name _ => by rw [store], ?_⟩
  rw [console]
  exact .refl _

theorem Abandoned.of_left {machine : Machine Transcript} {token : Token} {statement : Statement}
    (completes : machine.completed? token = some statement) (log : List Diagnostic) :
    Abandoned machine token { machine.cleared with console := machine.leftConsole statement, log } := by
  refine ⟨rfl, rfl, rfl, ?_, ?_⟩
  · intro silent
    rw [completes] at silent
    have quiet : machine.prompt? statement = none := silent
    simp only [leftConsole, quiet]
  · intro prompt asks
    rw [completes] at asks
    have asked : machine.prompt? statement = some prompt := asks
    simp only [leftConsole, asked]
    exact ⟨rfl, rfl⟩

/-- The statement that a semicolon ends. -/
theorem dispatch_abandoned_or_advanced (settings : Settings) (machine : Machine Transcript) {token : Token}
    (isSemicolon : token.kind = .semicolon) :
    match machine.cleared.dispatch settings machine.pending with
    | (.error _, after) => Abandoned machine token after
    | (.ok _, after) => Advanced machine token after := by
  have completes : machine.completed? token = Statement.classify machine.pending := by
    simp [completed?, Token.is, isSemicolon]
  cases recognized : Statement.classify machine.pending with
  | none =>
    rw [dispatch_nothing settings machine.cleared recognized]
    exact .of_frame token rfl rfl
  | some statement =>
    obtain ⟨log, executes⟩ := dispatch_recognized settings machine.cleared recognized
    rw [executes]
    have executed := execute_executed settings { machine.cleared with log } statement
    generalize execute settings { machine.cleared with log } statement = ended at executed
    cases executed with
    | failed error => exact .of_left (completes.trans recognized) log
    | succeeded others continues =>
      refine ⟨?_, continues⟩
      intro name different
      rw [completes, recognized] at different
      exact others name different

/-- A token that fails changes no variable and no import, and the statement that failed is dropped. The console is
untouched too, unless the statement asked for input: then its prompt is written and a line is taken if there was
one. A token that does not fail changes the variable of its statement at most. -/
theorem step_abandoned_or_advanced (settings : Settings) (machine : Machine Transcript) (token : Token) :
    match machine.step settings token with
    | (.error _, after) => Abandoned machine token after
    | (.ok _, after) => Advanced machine token after := by
  rcases kind_cases token with isEnd | isUsing | isSemicolon | waits
  · rw [step_endOfFile settings machine token isEnd]
    exact .of_frame token rfl rfl
  · obtain ⟨log, imports, imported⟩ := machine.importing_frame settings token
    rw [step_usingWord settings machine token isUsing, imported]
    exact .of_frame token rfl rfl
  · have ended := dispatch_abandoned_or_advanced settings machine isSemicolon
    rw [step_semicolon settings machine token isSemicolon]
    generalize machine.cleared.dispatch settings machine.pending = result at ended
    rcases result with ⟨_ | _, after⟩ <;> exact ended
  · rw [step_waits settings machine token waits]
    exact .of_frame token rfl rfl

/-- The line that was read is no integer. It is gone, and the prompt stays. -/
example :
    let machine : Machine Transcript :=
      { store := ⟨[("n", ⟨.int, .integer 7⟩)]⟩, imports := [outputName], console := ⟨"", ["seven", "8"]⟩,
        pending := [⟨.identifier, "n", ⟨1, 1⟩⟩, ⟨.equal, "=", ⟨1, 3⟩⟩, ⟨.identifier, "Output", ⟨1, 5⟩⟩,
          ⟨.dot, ".", ⟨1, 11⟩⟩, ⟨.identifier, "input", ⟨1, 12⟩⟩, ⟨.leftParenthesis, "(", ⟨1, 17⟩⟩,
          ⟨.text, "N?", ⟨1, 18⟩⟩, ⟨.rightParenthesis, ")", ⟨1, 22⟩⟩, ⟨.leftParenthesis, "(", ⟨1, 23⟩⟩,
          ⟨.identifier, "INT", ⟨1, 24⟩⟩, ⟨.rightParenthesis, ")", ⟨1, 27⟩⟩] }
    (machine.step {} ⟨.semicolon, ";", ⟨1, 28⟩⟩).2.console = ⟨"N? ", ["8"]⟩ := by
  decide +kernel

end Machine

end StreamScript.Run
