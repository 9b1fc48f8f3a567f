import Mathlib.Data.List.Basic
import StreamScript.Proofs.RunHistory
import StreamScript.Proofs.StoreTyping

/-! What strictness changes. A strict machine and a lenient one do the same with every token, but for the end of a
statement of unknown form: there the strict one stops, and the lenient one goes on from the same state. Going on takes
nothing back: what was written stays, what was read is gone, and what was declared keeps its type. -/

namespace StreamScript.Run

variable {κ β : Type}

namespace Console

/-- A console that was used meanwhile: more may be shown, and less may be unread. -/
structure Later (shown : κ → String) (unread : κ → List β) (before after : κ) : Prop where
  shown : ∃ text, shown after = shown before ++ text
  unread : unread after <:+ unread before

/-- What a console shows and what is unread, as its calls change it. -/
structure Recording [Console κ] (shown : κ → String) (unread : κ → List β) : Prop where
  write : ∀ text console, Later shown unread console (write text console).2
  writeLine : ∀ text console, Later shown unread console (writeLine text console).2
  readLine : ∀ console, Later shown unread console (readLine console).2

variable {shown : κ → String} {unread : κ → List β} {before middle after : κ}

theorem Later.refl (console : κ) : Later shown unread console console := ⟨⟨"", by simp⟩, List.suffix_refl _⟩

theorem Later.trans (first : Later shown unread before middle) (last : Later shown unread middle after) :
    Later shown unread before after := by
  obtain ⟨⟨text, written⟩, read⟩ := first
  obtain ⟨⟨more, writtenMore⟩, readMore⟩ := last
  exact ⟨⟨text ++ more, by rw [writtenMore, written, String.append_assoc]⟩, readMore.trans read⟩

end Console

theorem Transcript.recording : Console.Recording Transcript.output Transcript.input where
  write text _ := ⟨⟨text, rfl⟩, List.suffix_refl _⟩
  writeLine text _ := ⟨⟨text ++ "\n", String.append_assoc⟩, List.suffix_refl _⟩
  readLine
    | ⟨_, []⟩ => .refl _
    | ⟨_, line :: input⟩ => ⟨⟨"", by simp [Console.readLine, readLine]⟩, List.suffix_cons line input⟩

theorem Terminal.recording : Console.Recording Terminal.output Terminal.input where
  write text _ := ⟨⟨text, rfl⟩, List.suffix_refl _⟩
  writeLine text _ := ⟨⟨text ++ "\n", String.append_assoc⟩, List.suffix_refl _⟩
  readLine := by
    intro terminal
    simp only [Console.readLine, readLine]
    split
    · exact .refl terminal
    · exact ⟨⟨"", by simp⟩, (List.drop_suffix ..).trans (List.dropWhile_suffix _)⟩

/-- A call that fails has no effect. -/
theorem Faulty.recording [Console κ] {shown : κ → String} {unread : κ → List β}
    (recording : Console.Recording shown unread) :
    Console.Recording (fun console : Faulty κ => shown console.inner) fun console => unread console.inner := by
  have called {α : Type} (faulty : Faulty κ) (failure : Option String) {inner : κ → Except String α × κ}
      (later : Console.Later shown unread faulty.inner (inner faulty.inner).2) :
      Console.Later (fun console : Faulty κ => shown console.inner) (fun console => unread console.inner) faulty
        (faulty.call failure inner).2 := by
    cases failure with
    | some message => exact .refl faulty
    | none => exact ⟨later.shown, later.unread⟩
  refine ⟨?_, ?_, ?_⟩
  · intro text faulty
    exact called faulty faulty.write (recording.write text faulty.inner)
  · intro text faulty
    exact called faulty faulty.writeLine (recording.writeLine text faulty.inner)
  · intro faulty
    exact called faulty faulty.readLine (recording.readLine faulty.inner)

namespace Machine

theorem settle_console {α : Type} (machine : Machine κ) (token : Token) (answer : Except String α × κ) :
    (machine.settle token answer).2.console = answer.2 := by
  obtain ⟨_ | _, console⟩ := answer <;> rfl

section Use

open Console

variable [Console κ] {shown : κ → String} {unread : κ → List β} (recording : Recording shown unread)

include recording

theorem writeText_later (machine : Machine κ) (token : Token) (method : Method) (text : String) :
    Later shown unread machine.console (machine.writeText token method text).2.console := by
  cases method with
  | print =>
    rw [writeText, settle_console]
    exact recording.write _ machine.console
  | println =>
    rw [writeText, settle_console]
    exact recording.writeLine _ machine.console

theorem ask_later (machine : Machine κ) (prompt : Token) :
    Later shown unread machine.console (machine.ask prompt).2.console := by
  have wrote : Later shown unread machine.console
      (machine.settle prompt (write (prompt.literal ++ " ") machine.console)).2.console := by
    rw [settle_console]
    exact recording.write _ machine.console
  unfold ask
  generalize machine.settle prompt (write (prompt.literal ++ " ") machine.console) = written at wrote
  obtain ⟨_ | _, after⟩ := written
  · exact wrote
  · have read : Later shown unread after.console (after.settle prompt (readLine after.console)).2.console := by
      rw [settle_console]
      exact recording.readLine after.console
    simp only
    generalize after.settle prompt (readLine after.console) = answered at read
    obtain ⟨_ | _ | _, last⟩ := answered <;> exact wrote.trans read

theorem execute_later (settings : Settings) (machine : Machine κ) (statement : Statement) :
    Later shown unread machine.console (machine.execute settings statement).2.console := by
  have execution := execute_cases settings machine statement
  generalize machine.execute settings statement = result at execution
  cases execution with
  | declared | assigned =>
    rw [update_console]
    exact .refl machine.console
  | @unanswered _ _ prompt _ _ _ _ _ asked =>
    have later := ask_later recording machine prompt
    rwa [asked] at later
  | @answered _ _ prompt _ _ _ _ _ asked =>
    have later := ask_later recording machine prompt
    rw [update_console]
    rwa [asked] at later
  | called | printed => exact writeText_later recording machine _ _ _
  | forbidden | uncalled | refused | ignored => exact .refl machine.console

theorem step_later (settings : Settings) (machine : Machine κ) (token : Token) :
    Later shown unread machine.console (machine.step settings token).2.console := by
  cases completes : machine.completed? token with
  | none =>
    obtain ⟨progress, pending, imports, log, taken⟩ := step_incomplete settings completes
    rw [taken]
    exact .refl machine.console
  | some statement =>
    obtain ⟨log, stepped⟩ := step_completed settings completes
    rw [stepped]
    exact execute_later recording settings { machine.cleared with log } statement

theorem run_later (settings : Settings) (machine : Machine κ) (items : List Stream.Item) :
    Later shown unread machine.console (machine.run settings items).2.console := by
  apply run_relates fun before after : Machine κ => Later shown unread before.console after.console
  · intro start
    exact .refl start.console
  · intro before middle after first last
    exact first.trans last
  · intro start diagnostic
    exact .refl start.console
  · exact step_later recording settings

end Use

theorem run_grows [Console κ] (settings : Settings) (machine : Machine κ) (items : List Stream.Item) :
    machine.store.Grows (machine.run settings items).2.store :=
  performAll_grows settings machine [.items items]

section Parting

variable {α : Type}

/-- A strict end beside a lenient one. They are the same, or the strict one stopped at an unknown statement and the
lenient one went on from there. -/
inductive Beside (goesOn : Machine κ → Except Error α × Machine κ) :
    Except Error α × Machine κ → Except Error α × Machine κ → Prop where
  | same (ended : Except Error α × Machine κ) : Beside goesOn ended ended
  | stopped (first : Token) (point : Machine κ) :
      Beside goesOn (.error (.ofToken first (.unknownStatement first.kind)), point) (goesOn point)

variable [Console κ] (settings : Settings) (machine : Machine κ)

theorem execute_beside (statement : Statement) :
    Beside (fun point => (.ok (), point)) (machine.execute { settings with strict := true } statement)
      (machine.execute { settings with strict := false } statement) := by
  cases statement with
  | unrecognized first => exact .stopped first machine
  | _ => exact .same _

theorem dispatch_beside (tokens : List Token) :
    Beside (fun point => (.ok (), point)) (machine.dispatch { settings with strict := true } tokens)
      (machine.dispatch { settings with strict := false } tokens) := by
  unfold dispatch
  split
  · exact .same _
  · exact execute_beside settings _ _

theorem step_beside (token : Token) :
    Beside (fun point => (.ok .running, point)) (machine.step { settings with strict := true } token)
      (machine.step { settings with strict := false } token) := by
  rcases kind_cases token with isEnd | isUsing | isSemicolon | waits
  · rw [step_endOfFile _ machine token isEnd, step_endOfFile _ machine token isEnd]
    exact .same _
  · rw [step_usingWord _ machine token isUsing, step_usingWord _ machine token isUsing]
    exact .same _
  · rw [step_semicolon _ machine token isSemicolon, step_semicolon _ machine token isSemicolon]
    have dispatched := dispatch_beside settings machine.cleared machine.pending
    generalize machine.cleared.dispatch { settings with strict := true } machine.pending = strict at dispatched
    generalize machine.cleared.dispatch { settings with strict := false } machine.pending = lenient at dispatched
    cases dispatched with
    | same => exact .same _
    | stopped first point => exact .stopped first point
  · rw [step_waits _ machine token waits, step_waits _ machine token waits]
    exact .same _

theorem drive_beside (items : List Stream.Item) :
    ∃ left, Beside (fun point => point.drive { settings with strict := false } left)
      (machine.drive { settings with strict := true } items)
      (machine.drive { settings with strict := false } items) := by
  induction items generalizing machine with
  | nil => exact ⟨[], .same _⟩
  | cons item rest ih =>
    cases item with
    | error error => exact ⟨[], .same _⟩
    | ok token =>
      have stepped := step_beside settings machine token
      simp only [drive]
      generalize machine.step { settings with strict := true } token = strict at stepped
      generalize machine.step { settings with strict := false } token = lenient at stepped
      cases stepped with
      | same =>
        rcases strict with ⟨_ | _ | _, after⟩
        · exact ⟨[], .same _⟩
        · exact ih after
        · exact ⟨[], .same _⟩
      | stopped first point => exact ⟨rest, .stopped first point⟩

/-- The whole runs are the same, or the strict one reports that the statement is unknown and the lenient one is a run
from there. -/
theorem run_beside (items : List Stream.Item) :
    machine.run { settings with strict := true } items = machine.run { settings with strict := false } items ∨
    ∃ first point left report,
      machine.run { settings with strict := true } items =
        (.error (.ofToken first (.unknownStatement first.kind)), Machine.report point report) ∧
      machine.run { settings with strict := false } items = run { settings with strict := false } point left := by
  obtain ⟨left, driven⟩ := drive_beside settings machine items
  simp only [run]
  generalize machine.drive { settings with strict := true } items = strict at driven
  generalize machine.drive { settings with strict := false } items = lenient at driven
  cases driven with
  | same => exact .inl rfl
  | stopped first point => exact .inr ⟨first, point, left, _, rfl, rfl⟩

end Parting

/-- If a strict run does not end over an unknown statement, the lenient run is the same. If it does, the lenient run
went on from there: what it shows begins with what the strict one shows, it has read at least as much, and every
variable of the strict run is there with its type. -/
theorem strict_run_stops_earlier [Console κ] {shown : κ → String} {unread : κ → List β}
    (recording : Console.Recording shown unread) (settings : Settings) (machine : Machine κ)
    (items : List Stream.Item) :
    let strict := machine.run { settings with strict := true } items
    let lenient := machine.run { settings with strict := false } items
    ((∀ error, strict.1 = .error error → ∀ kind, error.fault ≠ .unknownStatement kind) → strict = lenient) ∧
    ∀ error kind, strict.1 = .error error → error.fault = .unknownStatement kind →
      (∃ text, shown lenient.2.console = shown strict.2.console ++ text) ∧
      unread lenient.2.console <:+ unread strict.2.console ∧
      ∀ name found, strict.2.store.get? name = some found →
        ∃ later, lenient.2.store.get? name = some later ∧ later.type = found.type := by
  intro strict lenient
  rcases run_beside settings machine items with same | ⟨first, point, left, report, strictEnd, lenientEnd⟩
  · refine ⟨fun _ => same, ?_⟩
    intro error kind _ _
    rw [show lenient = strict from same.symm]
    exact ⟨⟨"", by simp⟩, List.suffix_refl _, (Store.Grows.refl strict.2.store).types⟩
  · constructor
    · intro otherwise
      exact absurd rfl (otherwise _ (congrArg Prod.fst strictEnd) first.kind)
    · intro error kind _ _
      -- The report is made after the strict machine has stopped; the rest of it is the machine that goes on.
      have used : Console.Later shown unread strict.2.console lenient.2.console := by
        simp only [strict, lenient, strictEnd, lenientEnd]
        exact run_later recording { settings with strict := false } point left
      have grown : strict.2.store.Grows lenient.2.store := by
        simp only [strict, lenient, strictEnd, lenientEnd]
        exact run_grows { settings with strict := false } point left
      exact ⟨used.shown, used.unread, grown.types⟩

/-- A variable is asked for, and asked for again behind a statement of unknown form. The strict run asks once. The
lenient run asks twice, and then fails because a line cannot be written. So do both if the unknown statement is left
out. -/
theorem strict_run_stops_earlier_asking :
    let settings : Settings := {}
    let start : Machine (Faulty Transcript) :=
      { store := ⟨[("n", ⟨.int, .integer 0⟩)]⟩, imports := ["Output"],
        console := { inner := ⟨"", ["1", "2"]⟩, writeLine := some "closed" } }
    let asking : List Stream.Item :=
      [.ok ⟨.identifier, "n", ⟨1, 1⟩⟩, .ok ⟨.equal, "=", ⟨1, 3⟩⟩, .ok ⟨.identifier, "Output", ⟨1, 5⟩⟩,
      .ok ⟨.dot, ".", ⟨1, 11⟩⟩, .ok ⟨.identifier, "input", ⟨1, 12⟩⟩, .ok ⟨.leftParenthesis, "(", ⟨1, 17⟩⟩,
      .ok ⟨.text, "n?", ⟨1, 18⟩⟩, .ok ⟨.rightParenthesis, ")", ⟨1, 22⟩⟩, .ok ⟨.leftParenthesis, "(", ⟨1, 23⟩⟩,
      .ok ⟨.identifier, "INT", ⟨1, 24⟩⟩, .ok ⟨.rightParenthesis, ")", ⟨1, 27⟩⟩, .ok ⟨.semicolon, ";", ⟨1, 28⟩⟩]
    let unknown : List Stream.Item := [.ok ⟨.identifier, "n", ⟨2, 1⟩⟩, .ok ⟨.semicolon, ";", ⟨2, 2⟩⟩]
    let printing : List Stream.Item :=
      [.ok ⟨.printWord, "print", ⟨3, 1⟩⟩, .ok ⟨.identifier, "n", ⟨3, 7⟩⟩, .ok ⟨.semicolon, ";", ⟨3, 8⟩⟩]
    let strict := start.run { settings with strict := true } (asking ++ unknown ++ asking ++ printing)
    let lenient := start.run { settings with strict := false } (asking ++ unknown ++ asking ++ printing)
    strict.1 = .error ⟨.unknownStatement .identifier, some ⟨2, 1⟩⟩ ∧
    strict.2.console.inner = ⟨"n? ", ["2"]⟩ ∧ strict.2.store.get? "n" = some ⟨.int, .integer 1⟩ ∧
    lenient.1 = .error ⟨.console "closed", some ⟨3, 7⟩⟩ ∧
    (∃ text, lenient.2.console.inner.output = strict.2.console.inner.output ++ text) ∧
    lenient.2.console.inner.input <:+ strict.2.console.inner.input ∧
    (∃ later, lenient.2.store.get? "n" = some later ∧ later.type = .int) ∧
    start.run { settings with strict := true } (asking ++ asking ++ printing) =
      start.run { settings with strict := false } (asking ++ asking ++ printing) := by
  intro settings start asking unknown printing strict lenient
  have recording := Faulty.recording Transcript.recording
  have stopped : strict.1 = .error ⟨.unknownStatement .identifier, some ⟨2, 1⟩⟩ := by decide +kernel
  have held : strict.2.store.get? "n" = some ⟨.int, .integer 1⟩ := by decide +kernel
  have failed : (start.run { settings with strict := true } (asking ++ asking ++ printing)).1 =
      .error ⟨.console "closed", some ⟨3, 7⟩⟩ := by decide +kernel
  obtain ⟨_, goesOn⟩ := strict_run_stops_earlier recording settings start (asking ++ unknown ++ asking ++ printing)
  obtain ⟨shown, unread, declared⟩ := goesOn _ _ stopped rfl
  obtain ⟨same, _⟩ := strict_run_stops_earlier recording settings start (asking ++ asking ++ printing)
  -- Nothing may be unfolded here: the terms are runs, and they need not be computed again to be the same.
  refine ⟨stopped, by decide +kernel, held, by decide +kernel, ?_, ?_, ?_, ?_⟩
  · with_reducible exact shown
  · with_reducible exact unread
  · with_reducible exact declared "n" _ held
  · apply same
    intro error ended kind
    rw [failed] at ended
    cases ended
    exact Fault.noConfusion

end Machine

end StreamScript.Run
