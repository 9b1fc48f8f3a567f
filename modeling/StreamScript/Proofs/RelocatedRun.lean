import StreamScript.Proofs.MachineRuns
import StreamScript.Proofs.Relocation

/-! Runs of a program whose tokens stand elsewhere. A machine is moved by moving the tokens that wait in it and
what it has reported, and a moved machine takes moved tokens, or a bad line that was moved, to the moved end of the
run. Reports from before the run take no part in it, so any others can be put in their place. -/

namespace StreamScript.Run

variable (move : Position → Position)

theorem checkType_relocate (name : Token) (type : ValueType) (value : Value) :
    checkType (name.relocate move) type value = (checkType name type value).mapError (Error.relocate move) := by
  simp only [checkType, apply_ite (Except.mapError (Error.relocate move))]
  rfl

theorem declaredType_relocate (store : Store) (name : Token) :
    declaredType store (name.relocate move) = (declaredType store name).mapError (Error.relocate move) := by
  simp only [declaredType, literal_relocate]
  cases store.get? name.literal <;> rfl

theorem requireOutput_relocate (imports : List String) (library : Token) :
    requireOutput imports (library.relocate move) =
      (requireOutput imports library).mapError (Error.relocate move) := by
  simp only [requireOutput, apply_ite (Except.mapError (Error.relocate move))]
  rfl

theorem put_relocate (vars : Store) (name : Token) (type : ValueType) (value : Value) :
    put vars (name.relocate move) type value = (put vars name type value).mapError (Error.relocate move) := by
  simp only [put, checkType_relocate, mapError_bind, literal_relocate]
  congr 1
  funext _
  cases vars.assign? name.literal value <;> rfl

theorem namedType_relocate (type : Token) :
    namedType (type.relocate move) = (namedType type).mapError (Error.relocate move) := by
  simp only [namedType, literal_relocate]
  cases ValueType.ofName? type.literal <;> rfl

theorem declare_relocate (vars : Store) (imports : List String) (type name separator : Token) (value : List Token) :
    declare vars imports (type.relocate move) (name.relocate move) (separator.relocate move)
        (value.map (Token.relocate move)) =
      (declare vars imports type name separator value).mapError (Error.relocate move) := by
  simp only [declare, is_relocate, literal_relocate, evaluate_relocate, namedType_relocate, checkType_relocate,
    apply_ite (Except.mapError (Error.relocate move)), mapError_bind]
  rfl

theorem assign_relocate (vars : Store) (imports : List String) (name : Token) (value : List Token) :
    assign vars imports (name.relocate move) (value.map (Token.relocate move)) =
      (assign vars imports name value).mapError (Error.relocate move) := by
  simp only [assign, declaredType_relocate, evaluate_relocate, put_relocate, mapError_bind]

theorem inputValue_relocate (inputType : Token) (line : String) :
    inputValue (inputType.relocate move) line = (inputValue inputType line).mapError (Error.relocate move) := by
  simp only [inputValue, literal_relocate]
  split
  · cases Number.readInt32 line <;> rfl
  · rfl
  · rfl

theorem enter_relocate (vars : Store) (name inputType : Token) (type : ValueType) (line : String) :
    enter vars (name.relocate move) (inputType.relocate move) type line =
      (enter vars name inputType type line).mapError (Error.relocate move) := by
  simp only [enter, inputValue_relocate, put_relocate, mapError_bind]

theorem promptedType_relocate (vars : Store) (imports : List String) (name library : Token) :
    promptedType vars imports (name.relocate move) (library.relocate move) =
      (promptedType vars imports name library).mapError (Error.relocate move) := by
  simp only [promptedType, declaredType_relocate, requireOutput_relocate, mapError_bind]
  rfl

theorem argumentText_relocate (vars : Store) (imports : List String) (argument : Token) :
    argumentText vars imports (argument.relocate move) =
      (argumentText vars imports argument).mapError (Error.relocate move) := by
  have evaluated := evaluate_relocate move vars imports [argument]
  simp only [List.map_cons, List.map_nil] at evaluated
  simp only [argumentText, is_relocate, literal_relocate, evaluated,
    apply_ite (Except.mapError (Error.relocate move)), mapError_map]
  cases vars.display? argument.literal <;> rfl

theorem callText_relocate (vars : Store) (imports : List String) (library argument : Token) :
    callText vars imports (library.relocate move) (argument.relocate move) =
      (callText vars imports library argument).mapError (Error.relocate move) := by
  simp only [callText, requireOutput_relocate, argumentText_relocate, mapError_bind]

namespace Machine

variable {κ α : Type} (earlier : List Diagnostic)

/-- The machine with its own tokens and reports moved, and earlier reports, not its own, before them. -/
def relocate (machine : Machine κ) : Machine κ :=
  { machine with
    pending := machine.pending.map (Token.relocate move)
    log := earlier ++ machine.log.map (Diagnostic.relocate move) }

/-- The end of a run that was moved: the machine, and the error if there is one. -/
def relocateEnd (ended : Except Error α × Machine κ) : Except Error α × Machine κ :=
  (ended.1.mapError (Error.relocate move), ended.2.relocate move earlier)

@[simp] theorem store_relocate (machine : Machine κ) : (machine.relocate move earlier).store = machine.store := rfl

@[simp] theorem imports_relocate (machine : Machine κ) :
    (machine.relocate move earlier).imports = machine.imports := rfl

@[simp] theorem console_relocate (machine : Machine κ) :
    (machine.relocate move earlier).console = machine.console := rfl

theorem report_relocate (machine : Machine κ) (diagnostic : Diagnostic) :
    (machine.relocate move earlier).report (diagnostic.relocate move) =
      (machine.report diagnostic).relocate move earlier := by
  simp [report, relocate]

theorem trace_relocate (settings : Settings) (machine : Machine κ) (message : String) (place : Option Position) :
    (machine.relocate move earlier).trace settings message (place.map move) =
      (machine.trace settings message place).relocate move earlier := by
  simp only [trace]
  split
  · exact report_relocate move earlier machine ⟨.debug, message, place⟩
  · rfl

theorem importing_relocate (settings : Settings) (machine : Machine κ) (token : Token) :
    (machine.relocate move earlier).importing settings (token.relocate move) =
      (machine.importing settings token).relocate move earlier := by
  have traced := trace_relocate move earlier settings machine ("Importing library " ++ token.literal)
    (some token.position)
  change (machine.relocate move earlier).trace settings _ (some (token.relocate move).position) = _ at traced
  simp only [importing, literal_relocate, traced]
  rfl

theorem update_relocate (machine : Machine κ) (result : Except Error Store) :
    (machine.relocate move earlier).update (result.mapError (Error.relocate move)) =
      relocateEnd move earlier (machine.update result) := by
  cases result <;> rfl

theorem settle_relocate (machine : Machine κ) (token : Token) (answer : Except String α × κ) :
    (machine.relocate move earlier).settle (token.relocate move) answer =
      relocateEnd move earlier (machine.settle token answer) := by
  obtain ⟨result, console⟩ := answer
  cases result <;> rfl

variable [Console κ]

theorem writeText_relocate (machine : Machine κ) (token : Token) (method : Method) (text : String) :
    (machine.relocate move earlier).writeText (token.relocate move) method text =
      relocateEnd move earlier (machine.writeText token method text) := by
  cases method <;> exact settle_relocate move earlier machine token _

theorem ask_relocate (machine : Machine κ) (prompt : Token) :
    (machine.relocate move earlier).ask (prompt.relocate move) =
      relocateEnd move earlier (machine.ask prompt) := by
  simp only [ask, literal_relocate, console_relocate, settle_relocate]
  rcases machine.settle prompt (Console.write (prompt.literal ++ " ") machine.console) with ⟨_ | _, machine⟩
  · rfl
  · simp only [relocateEnd, mapError_ok, console_relocate, settle_relocate]
    rcases machine.settle prompt (Console.readLine machine.console) with ⟨_ | _ | _, machine⟩ <;> rfl

theorem execute_relocate (settings : Settings) (machine : Machine κ) (statement : Statement) :
    (machine.relocate move earlier).execute settings (statement.relocate move) =
      relocateEnd move earlier (machine.execute settings statement) := by
  cases statement with
  | declaration type name separator value =>
    simp only [Statement.relocate, execute, store_relocate, imports_relocate, declare_relocate, update_relocate]
  | prompted name library prompt inputType =>
    simp only [Statement.relocate, execute, store_relocate, imports_relocate, promptedType_relocate, ask_relocate]
    cases promptedType machine.store machine.imports name library with
    | error error => rfl
    | ok type =>
      simp only [mapError_ok]
      rcases machine.ask prompt with ⟨_ | line, machine⟩
      · rfl
      · simp only [relocateEnd, mapError_ok, store_relocate, enter_relocate]
        exact update_relocate move earlier machine _
  | assignment name value =>
    simp only [Statement.relocate, execute, store_relocate, imports_relocate, assign_relocate, update_relocate]
  | call library method argument =>
    simp only [Statement.relocate, execute, store_relocate, imports_relocate, callText_relocate]
    cases callText machine.store machine.imports library argument with
    | error error => rfl
    | ok text => exact writeText_relocate move earlier machine library method text
  | print value => exact writeText_relocate move earlier machine value .println (printText machine.store value)
  | unrecognized first =>
    simp only [Statement.relocate, execute]
    split <;> rfl

theorem dispatch_relocate (settings : Settings) (machine : Machine κ) (tokens : List Token) :
    (machine.relocate move earlier).dispatch settings (tokens.map (Token.relocate move)) =
      relocateEnd move earlier (machine.dispatch settings tokens) := by
  simp only [dispatch, Statement.classify_relocate, firstPosition_relocate]
  cases Statement.classify tokens with
  | none => rfl
  | some statement =>
    simp only [Option.map_some, Statement.name_relocate, trace_relocate, execute_relocate]

theorem step_relocate (settings : Settings) (machine : Machine κ) (token : Token) :
    (machine.relocate move earlier).step settings (token.relocate move) =
      relocateEnd move earlier (machine.step settings token) := by
  -- What a token does depends on its kind, which stays.
  rcases kind_cases token with isEnd | isUsing | isSemicolon | waits
  · rw [step_endOfFile settings machine token isEnd, step_endOfFile _ _ (token.relocate move) isEnd]
    rfl
  · rw [step_usingWord settings machine token isUsing, step_usingWord _ _ (token.relocate move) isUsing,
      importing_relocate]
    rfl
  · have dispatched := dispatch_relocate move earlier settings machine.cleared machine.pending
    change (machine.relocate move earlier).cleared.dispatch settings (machine.relocate move earlier).pending = _
      at dispatched
    rw [step_semicolon settings machine token isSemicolon, step_semicolon _ _ (token.relocate move) isSemicolon,
      dispatched]
    rcases machine.cleared.dispatch settings machine.pending with ⟨_ | _, after⟩ <;> rfl
  · rw [step_waits settings machine token waits, step_waits _ _ (token.relocate move) waits]
    simp [relocateEnd, holding, relocate]

variable {move} {items moved : List Stream.Item} (matched : List.Forall₂ (Stream.Moved move) items moved)

include matched

theorem drive_relocate (settings : Settings) (machine : Machine κ) :
    (machine.relocate move earlier).drive settings moved =
      relocateEnd move earlier (machine.drive settings items) := by
  induction matched generalizing machine with
  | nil => rfl
  | cons first _ ih =>
    cases first with
    | token token =>
      simp only [drive, step_relocate]
      rcases machine.step settings token with ⟨_ | progress, machine⟩
      · rfl
      · cases progress with
        | running => exact ih machine
        | finished => rfl
    | badLine there =>
      simp only [drive, Error.ofStream, ← there]
      rfl

theorem run_relocate (settings : Settings) (machine : Machine κ) :
    (machine.relocate move earlier).run settings moved = relocateEnd move earlier (machine.run settings items) := by
  simp only [run, drive_relocate earlier matched]
  rcases machine.drive settings items with ⟨error | _, machine⟩
  · have reported := report_relocate move earlier machine ⟨.fatal, error.fault.message, error.position⟩
    simp only [relocateEnd, mapError_error]
    rw [← reported]
    rfl
  · rfl

end Machine

end StreamScript.Run
