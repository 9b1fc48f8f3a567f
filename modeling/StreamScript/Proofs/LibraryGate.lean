import Mathlib.Data.List.Basic
import StreamScript.Proofs.FaultOrigins
import StreamScript.Proofs.RunHistory

/-! The console behind the import. As long as the output library is not imported, every statement that needs it is
refused: nothing is read, and only print statements write. An import is never taken back, so from then on no statement
is refused for want of it. -/

namespace StreamScript

/-- The token imports the output library. -/
def Token.importsOutput (token : Token) : Bool := token.kind = .usingWord ∧ token.literal = Run.outputName

namespace Run

section Imported

variable {imports : List String}

theorem requireOutput_of_imported (imported : imports.contains outputName = true) (library : Token) :
    requireOutput imports library = .ok () := by
  simp only [requireOutput, imported, if_true]

theorem evaluate_raises_of_imported (imported : imports.contains outputName = true) (vars : Store)
    (tokens : List Token) : Raises [.expression] (evaluate vars imports tokens) := by
  apply evaluate_failsOnly
  · intro error combining
    rw [Fault.origin_of_ofOperators combining]
    simp
  · intro token _
    apply operand_raises_of_library
    · simp
    · simp only [libraryFault, imported, if_true]
      simp

theorem requireOutput_of_absent (absent : imports.contains outputName = false) (library : Token) :
    requireOutput imports library = .error (.ofToken library (.notImported outputName)) := by
  simp only [requireOutput, absent]
  rfl

theorem callText_of_absent (absent : imports.contains outputName = false) (vars : Store) (library argument : Token) :
    callText vars imports library argument = .error (.ofToken library (.notImported outputName)) := by
  rw [callText, requireOutput_of_absent absent]
  rfl

theorem promptedType_of_absent (absent : imports.contains outputName = false) (vars : Store) (name library : Token) :
    promptedType vars imports name library = .error (.ofToken name (.undeclared name.literal)) ∨
    promptedType vars imports name library = .error (.ofToken library (.notImported outputName)) := by
  rw [promptedType, requireOutput_of_absent absent, declaredType]
  cases vars.get? name.literal with
  | none => exact .inl rfl
  | some found => exact .inr rfl

end Imported

/-- The line that is written when the token completes a print statement. -/
def Moment.printed? {κ : Type} (moment : Moment κ) : Option String :=
  match moment.machine.completed? moment.token with
  | some (.print value) => some (moment.machine.fill (printText moment.machine.store value) ++ "\n")
  | _ => none

/-- What becomes of a statement that needs the library. -/
structure Moment.Refused {κ : Type} [Console κ] (settings : Settings) (moment : Moment κ) : Prop where
  call : ∀ library method argument, moment.machine.completed? moment.token = some (.call library method argument) →
    moment.result settings = .error (.ofToken library (.notImported outputName))
  prompted : ∀ name library prompt inputType,
    moment.machine.completed? moment.token = some (.prompted name library prompt inputType) →
      moment.result settings = .error (.ofToken name (.undeclared name.literal)) ∨
      moment.result settings = .error (.ofToken library (.notImported outputName))

namespace Machine

section Steps

variable {κ : Type} [Console κ] (settings : Settings) {machine : Machine κ}

omit [Console κ] in
theorem importing_contains (token : Token) :
    (machine.importing settings token).imports.contains outputName =
      (machine.imports.contains outputName || token.literal = outputName) := by
  obtain ⟨log, traced⟩ := machine.trace_frame settings ("Importing library " ++ token.literal) (some token.position)
  rw [Bool.eq_iff_iff]
  simp only [importing, traced, Bool.or_eq_true, List.contains_iff_mem, decide_eq_true_eq, List.mem_insert_iff]
  exact or_comm.trans (or_congr_right eq_comm)

/-- The library is imported by its token alone, and stays imported. -/
theorem step_imports (machine : Machine κ) (token : Token) :
    (machine.step settings token).2.imports.contains outputName =
      (machine.imports.contains outputName || token.importsOutput) := by
  rcases kind_cases token with isEnd | isUsing | isSemicolon | waits
  · simp [step_endOfFile settings machine token isEnd, Token.importsOutput, isEnd, cleared]
  · rw [step_usingWord settings machine token isUsing, importing_contains]
    simp [Token.importsOutput, isUsing]
  · obtain ⟨store, console, log, after⟩ := dispatch_frame settings machine.cleared machine.pending
    rw [step_semicolon settings machine token isSemicolon, after]
    simp [Token.importsOutput, isSemicolon, cleared]
  · simp [step_waits settings machine token waits, Token.importsOutput, waits.2.1, holding]

theorem Feeds.imports {first last : Machine κ} {moments : List (Moment κ)}
    (feeds : Feeds settings first moments last) :
    last.imports.contains outputName =
      (first.imports.contains outputName || moments.any (·.token.importsOutput)) := by
  induction feeds with
  | done => simp
  | feed _ ih => rw [ih, step_imports, List.any_cons, Bool.or_assoc]
  | report _ ih => exact ih

theorem execute_of_imported (machine : Machine κ) (imported : machine.imports.contains outputName = true)
    (statement : Statement) :
    FailsOnly (·.fault.origin ≠ .library) (machine.execute settings statement).1 := by
  apply execute_failsOnly
  · intro error _ other
    exact other
  · intro _ library
    rw [requireOutput_of_imported imported]
    exact .ok ()
  · intro _ tokens error failed missing
    have origin := evaluate_raises_of_imported imported machine.store tokens error failed
    rw [missing] at origin
    simp at origin

theorem step_of_imported (imported : machine.imports.contains outputName = true) (token : Token) :
    FailsOnly (·.fault.origin ≠ .library) (machine.step settings token).1 := by
  cases completes : machine.completed? token with
  | none =>
    obtain ⟨progress, pending, imports, log, taken⟩ := step_incomplete settings completes
    rw [taken]
    exact .ok progress
  | some statement =>
    obtain ⟨log, executed⟩ := step_completed settings completes
    rw [executed]
    exact .map _ (execute_of_imported settings { machine.cleared with log } imported statement)

theorem refused_of_absent (absent : machine.imports.contains outputName = false) (token : Token) :
    Moment.Refused settings ⟨machine, token⟩ := by
  constructor
  · intro library method argument completes
    obtain ⟨log, executed⟩ := step_completed settings completes
    have refused := callText_of_absent absent machine.store library argument
    simp only [Moment.result, executed, execute, cleared, refused]
    rfl
  · intro name library prompt inputType completes
    obtain ⟨log, executed⟩ := step_completed settings completes
    simp only [Moment.result, executed, execute, cleared]
    rcases promptedType_of_absent absent machine.store name library with undeclared | missing
    · rw [undeclared]
      exact .inl rfl
    · rw [missing]
      exact .inr rfl

end Steps

section Written

variable (settings : Settings) {machine : Machine Transcript}

theorem execute_console_of_absent (machine : Machine Transcript)
    (absent : machine.imports.contains outputName = false) (statement : Statement) :
    (machine.execute settings statement).2.console =
      match statement with
      | .print value =>
        { machine.console with
          output := machine.console.output ++ (machine.fill (printText machine.store value) ++ "\n") }
      | _ => machine.console := by
  cases statement with
  | declaration | assignment => simp only [execute, update_console]
  | prompted name library prompt inputType =>
    simp only [execute]
    rcases promptedType_of_absent absent machine.store name library with refused | refused <;> rw [refused]
  | call library method argument => simp only [execute, callText_of_absent absent]
  | print value =>
    simp only [execute]
    rw [← String.append_assoc]
    rfl
  | unrecognized first =>
    simp only [execute]
    split <;> rfl

theorem step_console_of_absent (absent : machine.imports.contains outputName = false) (token : Token) :
    (machine.step settings token).2.console =
      { machine.console with
        output := machine.console.output ++ (Moment.printed? ⟨machine, token⟩).getD "" } := by
  cases completes : machine.completed? token with
  | none =>
    obtain ⟨progress, pending, imports, log, taken⟩ := step_incomplete settings completes
    simp [taken, Moment.printed?, completes]
  | some statement =>
    obtain ⟨log, executed⟩ := step_completed settings completes
    have written := execute_console_of_absent settings { machine.cleared with log } absent statement
    rw [executed, written]
    cases statement with
    | print value =>
      simp only [Moment.printed?, completes]
      rfl
    | _ => simp [Moment.printed?, completes, cleared]

theorem Feeds.printed {first last : Machine Transcript} {moments : List (Moment Transcript)}
    (feeds : Feeds settings first moments last) (absent : first.imports.contains outputName = false)
    (quiet : ∀ moment ∈ moments, moment.token.importsOutput = false) :
    last.console =
      ⟨first.console.output ++ String.join (moments.filterMap Moment.printed?), first.console.input⟩ := by
  induction feeds with
  | done => simp
  | @feed machine last token rest _ ih =>
    have still : (machine.step settings token).2.imports.contains outputName = false := by
      rw [step_imports, absent, quiet _ (List.mem_cons_self ..)]
      rfl
    rw [ih still fun moment member => quiet moment (List.mem_cons_of_mem _ member),
      step_console_of_absent settings absent]
    cases line : Moment.printed? ⟨machine, token⟩ <;> simp [line, String.append_assoc]
  | report _ ih => exact ih absent quiet

end Written

/-- Whatever is done with a new machine: until a token imports the library, the input is untouched, the output is what
the print statements have written, and statements that need the library are refused. Once such a token has been fed,
no later token is refused because the library is not imported. -/
theorem console_gated_by_import (settings : Settings) (console : Transcript) (log : List Diagnostic)
    (calls : List Call) :
    let start : Machine Transcript := { console, log }
    let history := start.history settings calls
    (∀ earlier moment later, history = earlier ++ moment :: later →
      (∀ past ∈ earlier, past.token.importsOutput = false) →
        moment.machine.console =
          ⟨console.output ++ String.join (earlier.filterMap Moment.printed?), console.input⟩ ∧
        moment.Refused settings) ∧
    ((∀ past ∈ history, past.token.importsOutput = false) →
      (start.performAll settings calls).console =
        ⟨console.output ++ String.join (history.filterMap Moment.printed?), console.input⟩) ∧
    ∀ earlier moment later, history = earlier ++ moment :: later → moment.token.importsOutput = true →
      ∀ next ∈ later, ∀ error, next.result settings = .error error → ∀ library, error.fault ≠ .notImported library := by
  intro start history
  have feeds : Feeds settings start history (start.performAll settings calls) := history_feeds settings start calls
  refine ⟨?_, feeds.printed settings rfl, ?_⟩
  · intro earlier moment later whole quiet
    rw [whole] at feeds
    obtain ⟨begins, _⟩ := feeds.split
    have absent : moment.machine.imports.contains outputName = false := by
      rw [begins.imports, Bool.or_eq_false_iff]
      exact ⟨rfl, List.any_eq_false.mpr fun past member => by simp [quiet past member]⟩
    exact ⟨begins.printed settings rfl quiet, refused_of_absent settings absent moment.token⟩
  · intro earlier moment later whole imports next member error failed library missing
    rw [whole] at feeds
    obtain ⟨_, continues⟩ := feeds.split
    obtain ⟨between, rest, rfl⟩ := List.append_of_mem member
    obtain ⟨reaches, _⟩ := continues.split
    have imported : next.machine.imports.contains outputName = true := by
      rw [reaches.imports, Moment.after, step_imports, imports, Bool.or_true, Bool.true_or]
    apply step_of_imported settings imported next.token error failed
    rw [missing]
    rfl

/-- A line is printed and a call is refused before the import. Afterwards the library is misused, but not missed. -/
theorem console_gated_by_import_session :
    let start : Machine Transcript := { console := ⟨"", ["x"]⟩, log := [] }
    let calls : List Call := [
      .items [.ok ⟨.printWord, "print", ⟨1, 1⟩⟩, .ok ⟨.text, "a", ⟨1, 7⟩⟩, .ok ⟨.semicolon, ";", ⟨1, 10⟩⟩,
        .ok ⟨.identifier, "Output", ⟨2, 1⟩⟩, .ok ⟨.dot, ".", ⟨2, 7⟩⟩, .ok ⟨.printWord, "print", ⟨2, 8⟩⟩,
        .ok ⟨.leftParenthesis, "(", ⟨2, 13⟩⟩, .ok ⟨.text, "b", ⟨2, 14⟩⟩, .ok ⟨.rightParenthesis, ")", ⟨2, 17⟩⟩,
        .ok ⟨.semicolon, ";", ⟨2, 18⟩⟩, .ok ⟨.usingWord, "Output", ⟨3, 1⟩⟩],
      .step ⟨.usingWord, "Output", ⟨4, 1⟩⟩,
      .items [.ok ⟨.varWord, "var", ⟨5, 1⟩⟩, .ok ⟨.identifier, "INT", ⟨5, 5⟩⟩, .ok ⟨.identifier, "n", ⟨5, 10⟩⟩,
        .ok ⟨.equal, "=", ⟨5, 12⟩⟩, .ok ⟨.identifier, "Output", ⟨5, 14⟩⟩, .ok ⟨.semicolon, ";", ⟨5, 20⟩⟩]]
    let history := start.history {} calls
    ∃ _ : 10 < history.length,
      (∀ past ∈ history.take 9, past.token.importsOutput = false) ∧
      history[9].machine.console = ⟨"a\n", ["x"]⟩ ∧
      history[9].result {} = .error ⟨.notImported "Output", some ⟨2, 1⟩⟩ ∧
      history[10].token.importsOutput = true ∧
      (∃ next ∈ history.drop 11, next.result {} = .error ⟨.libraryAsValue "Output", some ⟨5, 14⟩⟩) ∧
      ∀ next ∈ history.drop 11, ∀ error, next.result {} = .error error →
        ∀ library, error.fault ≠ .notImported library := by
  intro start calls history
  have inside : 10 < history.length := by decide +kernel
  have cut : ∀ index (bound : index < history.length),
      history = history.take index ++ history[index] :: history.drop (index + 1) := by
    intro index bound
    rw [← List.drop_eq_getElem_cons, List.take_append_drop]
  have quiet : ∀ past ∈ history.take 9, past.token.importsOutput = false := by decide +kernel
  have imports : history[10].token.importsOutput = true := rfl
  have misused : ∃ next ∈ history.drop 11, next.result {} = .error ⟨.libraryAsValue "Output", some ⟨5, 14⟩⟩ := by
    decide +kernel
  obtain ⟨closed, _, opened⟩ := console_gated_by_import {} ⟨"", ["x"]⟩ [] calls
  obtain ⟨written, refused⟩ := closed _ _ _ (cut 9 (by omega)) quiet
  refine ⟨inside, quiet, written.trans ?_, ?_, imports, misused, opened _ _ _ (cut 10 inside) imports⟩
  · decide +kernel
  · exact refused.call ⟨.identifier, "Output", ⟨2, 1⟩⟩ .print ⟨.text, "b", ⟨2, 14⟩⟩ rfl

end Machine

end Run

end StreamScript
