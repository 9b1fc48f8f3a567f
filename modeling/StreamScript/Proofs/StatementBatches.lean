import StreamScript.Proofs.MachineRuns

/-! Running a program statement by statement. All the tokens that count are read first and cut at the semicolons.
Of each piece the imports are made before its statement is executed, wherever in the piece they stand. A machine
that takes one token at a time does the same. -/

namespace StreamScript.Run

/-- Why no more items are read. -/
inductive Stop where
  | exhausted
  | endOfFile
  | badLine (error : Stream.Error)
deriving Repr, DecidableEq

/-- The tokens up to the first end of file or bad line, and which of them comes. -/
def reading : List Stream.Item → List Token × Stop
  | [] => ([], .exhausted)
  | .error error :: _ => ([], .badLine error)
  | .ok token :: rest =>
    if token.is .endOfFile then ([], .endOfFile) else (token :: (reading rest).1, (reading rest).2)

/-- The tokens between the semicolons. The last piece is the one that no semicolon ends. -/
def pieces (tokens : List Token) : List (List Token) := tokens.splitOnP (·.is .semicolon)

/-- The tokens of a piece that make up its statement. -/
def statementOf (piece : List Token) : List Token := piece.filter (!·.is .usingWord)

theorem statementOf_using {token : Token} (isUsing : token.kind = .usingWord) (piece : List Token) :
    statementOf (token :: piece) = statementOf piece := by
  simp [statementOf, Token.is, isUsing]

theorem statementOf_other {token : Token} (other : token.kind ≠ .usingWord) (piece : List Token) :
    statementOf (token :: piece) = token :: statementOf piece := by
  simp [statementOf, Token.is, other]

namespace Machine

variable {κ : Type}

/-- Imports the libraries that a piece names, in order. -/
def importAll (settings : Settings) (machine : Machine κ) (piece : List Token) : Machine κ :=
  (piece.filter (·.is .usingWord)).foldl (importing settings) machine

/-- The piece that is not complete is kept for a later run, unless the program has ended. -/
def finish (settings : Settings) (machine : Machine κ) (last : List Token) : Stop → Except Error Unit × Machine κ
  | .exhausted => (.ok (), { machine.importAll settings last with pending := statementOf last })
  | .endOfFile => (.ok (), { machine.importAll settings last with pending := [] })
  | .badLine error => (.error (.ofStream error), { machine.importAll settings last with pending := statementOf last })

/-- Reports the fault that ended a run. -/
def concluded : Except Error Unit × Machine κ → Except Error Unit × Machine κ
  | (.ok (), machine) => (.ok (), machine)
  | (.error error, machine) => (.error error, machine.report ⟨.fatal, error.fault.message, error.position⟩)

def runPieces [Console κ] (settings : Settings) (stop : Stop) (machine : Machine κ) :
    List (List Token) → Except Error Unit × Machine κ
  | [] => (.ok (), machine)
  | [last] => machine.finish settings last stop
  | piece :: next :: rest =>
    match (machine.importAll settings piece).dispatch settings (statementOf piece) with
    | (.error error, machine) => (.error error, machine)
    | (.ok (), machine) => runPieces settings stop machine (next :: rest)

/-- A run in which no statement is looked at before all tokens are read. Tokens that were left by an earlier run
stand in front of the first piece. -/
def runBatch [Console κ] (settings : Settings) (machine : Machine κ) (items : List Stream.Item) :
    Except Error Unit × Machine κ :=
  concluded (machine.cleared.runPieces settings (reading items).2
    ((pieces (reading items).1).modifyHead (machine.pending ++ ·)))

section Pieces

variable {token : Token} {waiting : List Token} (waits : ∀ token ∈ waiting, token.Waits)

include waits in
private theorem filter_using_waits : waiting.filter (·.is .usingWord) = [] := by
  apply List.filter_eq_nil_iff.mpr
  intro token member
  simpa [Token.is] using (waits token member).2.1

include waits in
private theorem statementOf_waits : statementOf waiting = waiting := by
  apply List.filter_eq_self.mpr
  intro token member
  simpa [Token.is] using (waits token member).2.1

variable (settings : Settings) (machine : Machine κ)

include waits in
private theorem importAll_waits : machine.importAll settings waiting = machine := by
  rw [importAll, filter_using_waits waits, List.foldl_nil]

private theorem statementOf_append_using (later : List Token) (isUsing : token.kind = .usingWord) :
    statementOf (waiting ++ token :: later) = statementOf (waiting ++ later) := by
  simp [statementOf, Token.is, isUsing]

include waits in
private theorem importAll_using (later : List Token) (isUsing : token.kind = .usingWord) :
    machine.importAll settings (waiting ++ token :: later) =
      (machine.importing settings token).importAll settings (waiting ++ later) := by
  have named : token.is .usingWord = true := by simp [Token.is, isUsing]
  simp only [importAll, List.filter_append, filter_using_waits waits, List.nil_append, List.filter_cons, named,
    if_true, List.foldl_cons]

include waits in
private theorem finish_using (later : List Token) (stop : Stop) (isUsing : token.kind = .usingWord) :
    machine.finish settings (waiting ++ token :: later) stop =
      (machine.importing settings token).finish settings (waiting ++ later) stop := by
  cases stop <;>
    simp only [finish, importAll_using waits settings machine later isUsing, statementOf_append_using later isUsing]

end Pieces

theorem holding_waits {machine : Machine κ} {token : Token} (waits : ∀ token ∈ machine.pending, token.Waits)
    (tokenWaits : token.Waits) : ∀ held ∈ (machine.holding token).pending, held.Waits := by
  intro held member
  rcases List.mem_append.mp member with old | new
  · exact waits held old
  · rw [List.mem_singleton.mp new]
    exact tokenWaits

theorem importing_pending (settings : Settings) (machine : Machine κ) (token : Token) :
    (machine.importing settings token).pending = machine.pending := by
  obtain ⟨log, imports, imported⟩ := machine.importing_frame settings token
  rw [imported]

theorem cleared_importing (settings : Settings) (machine : Machine κ) (token : Token) :
    machine.cleared.importing settings token = (machine.importing settings token).cleared := by
  simp only [importing, cleared, trace]
  split <;> rfl

theorem pieces_ne_nil (tokens : List Token) : pieces tokens ≠ [] := List.splitOnP_ne_nil _ tokens

theorem pieces_semicolon {token : Token} (tokens : List Token) (isSemicolon : token.kind = .semicolon) :
    pieces (token :: tokens) = [] :: pieces tokens := by
  simp [pieces, List.splitOnP_cons_eq_if_modifyHead, Token.is, isSemicolon]

theorem pieces_other {token : Token} (tokens : List Token) (other : token.kind ≠ .semicolon) :
    pieces (token :: tokens) = (pieces tokens).modifyHead (token :: ·) := by
  simp [pieces, List.splitOnP_cons_eq_if_modifyHead, Token.is, other]

theorem reading_cons {token : Token} (items : List Stream.Item) (other : token.kind ≠ .endOfFile) :
    reading (.ok token :: items) = (token :: (reading items).1, (reading items).2) := by
  simp [reading, Token.is, other]

variable [Console κ]

theorem run_eq_concluded (settings : Settings) (machine : Machine κ) (items : List Stream.Item) :
    machine.run settings items = concluded (machine.drive settings items) := by
  rw [run]
  rcases machine.drive settings items with ⟨_ | _, after⟩ <;> rfl

theorem run_fst (settings : Settings) (machine : Machine κ) (items : List Stream.Item) :
    (machine.run settings items).1 = (machine.drive settings items).1 := by
  rw [run]
  rcases machine.drive settings items with ⟨_ | _, after⟩ <;> rfl

/-- An import in the first piece may be made at once. -/
private theorem runPieces_using {token : Token} {waiting : List Token} (settings : Settings) (stop : Stop)
    (machine : Machine κ) (waits : ∀ token ∈ waiting, token.Waits) (isUsing : token.kind = .usingWord)
    (parts : List (List Token)) (some : parts ≠ []) :
    machine.runPieces settings stop ((parts.modifyHead (token :: ·)).modifyHead (waiting ++ ·)) =
      (machine.importing settings token).runPieces settings stop (parts.modifyHead (waiting ++ ·)) := by
  match parts with
  | [] => contradiction
  | [last] => exact finish_using waits settings machine last stop isUsing
  | piece :: next :: rest =>
    simp only [List.modifyHead_cons, runPieces, importAll_using waits settings machine piece isUsing,
      statementOf_append_using piece isUsing]

theorem dispatch_cleared (settings : Settings) (machine : Machine κ) (tokens : List Token) :
    (machine.cleared.dispatch settings tokens).2.pending = [] := by
  obtain ⟨store, console, log, after⟩ := dispatch_frame settings machine.cleared tokens
  rw [after]
  rfl

private theorem runPieces_cons (settings : Settings) (stop : Stop) (machine : Machine κ) (piece : List Token)
    {parts : List (List Token)} (some : parts ≠ []) :
    machine.runPieces settings stop (piece :: parts) =
      match (machine.importAll settings piece).dispatch settings (statementOf piece) with
      | (.error error, machine) => (.error error, machine)
      | (.ok (), machine) => machine.runPieces settings stop parts := by
  obtain ⟨next, rest, rfl⟩ := List.exists_cons_of_ne_nil some
  rw [runPieces]

private theorem runPieces_nothing (settings : Settings) (stop : Stop) (machine : Machine κ)
    (waits : ∀ token ∈ machine.pending, token.Waits) :
    machine.cleared.runPieces settings stop ((pieces []).modifyHead (machine.pending ++ ·)) =
      match stop with
      | .exhausted => (.ok (), machine)
      | .endOfFile => (.ok (), machine.cleared)
      | .badLine error => (.error (.ofStream error), machine) := by
  have alone : (pieces []).modifyHead (machine.pending ++ ·) = [machine.pending] := by simp [pieces]
  rw [alone, runPieces]
  cases stop <;> simp only [finish, importAll_waits waits, statementOf_waits waits] <;> rfl

theorem drive_eq_runPieces (settings : Settings) (machine : Machine κ) (items : List Stream.Item)
    (waits : ∀ token ∈ machine.pending, token.Waits) :
    machine.drive settings items = machine.cleared.runPieces settings (reading items).2
      ((pieces (reading items).1).modifyHead (machine.pending ++ ·)) := by
  -- The machine varies along the run. What it holds is always the beginning of the piece that is being read.
  induction items generalizing machine with
  | nil => exact (runPieces_nothing settings .exhausted machine waits).symm
  | cons item rest ih =>
    cases item with
    | error error => exact (runPieces_nothing settings (.badLine error) machine waits).symm
    | ok token =>
      rcases kind_cases token with isEnd | isUsing | isSemicolon | tokenWaits
      · have ended : reading (.ok token :: rest) = ([], .endOfFile) := by simp [reading, Token.is, isEnd]
        rw [ended, runPieces_nothing settings .endOfFile machine waits]
        simp only [drive, step_endOfFile settings machine token isEnd]
      · rw [reading_cons rest (by simp [isUsing]), pieces_other _ (by simp [isUsing]),
          runPieces_using settings _ _ waits isUsing _ (by simp [pieces])]
        simp only [drive, step_usingWord settings machine token isUsing]
        have later := ih (machine.importing settings token) (by rwa [importing_pending])
        rwa [importing_pending, ← cleared_importing] at later
      · rw [reading_cons rest (by simp [isSemicolon]), pieces_semicolon _ isSemicolon, List.modifyHead_cons,
          List.append_nil, runPieces_cons settings _ _ _ (pieces_ne_nil _), importAll_waits waits,
          statementOf_waits waits]
        simp only [drive, step_semicolon settings machine token isSemicolon]
        have emptied := dispatch_cleared settings machine machine.pending
        generalize machine.cleared.dispatch settings machine.pending = ended at emptied
        obtain ⟨_ | _, after⟩ := ended
        · rfl
        · change after.pending = [] at emptied
          have later := ih after (by simp [emptied])
          have same : after.cleared = after := by rw [cleared, ← emptied]
          have nothing : ([] ++ · : List Token → List Token) = id := rfl
          rwa [same, emptied, nothing, List.modifyHead_id] at later
      · rw [reading_cons rest tokenWaits.1, pieces_other _ tokenWaits.2.2, List.modifyHead_modifyHead]
        simp only [drive, step_waits settings machine token tokenWaits]
        have later := ih (machine.holding token) (holding_waits waits tokenWaits)
        simpa [holding, cleared, Function.comp_def] using later

theorem step_pending_waits (settings : Settings) (machine : Machine κ) (token : Token)
    (waits : ∀ held ∈ machine.pending, held.Waits) : ∀ held ∈ (machine.step settings token).2.pending, held.Waits := by
  rcases kind_cases token with isEnd | isUsing | isSemicolon | tokenWaits
  · simp [step_endOfFile settings machine token isEnd, cleared]
  · rw [step_usingWord settings machine token isUsing]
    simpa only [importing_pending] using waits
  · simp [step_semicolon settings machine token isSemicolon, dispatch_cleared]
  · rw [step_waits settings machine token tokenWaits]
    exact holding_waits waits tokenWaits

theorem Reachable.pending_waits {settings : Settings} {machine : Machine κ} (reached : Reachable settings machine) :
    ∀ held ∈ machine.pending, held.Waits := by
  refine Reachable.invariant (fun machine : Machine κ => ∀ held ∈ machine.pending, held.Waits) ?_ ?_ ?_ reached
  · intro console log held member
    cases member
  · intro start diagnostic waits
    exact waits
  · intro start token waits
    exact step_pending_waits settings start token waits

omit [Console κ] in
theorem reading_append (items later : List Stream.Item) (stopped : (reading items).2 ≠ .exhausted) :
    reading (items ++ later) = reading items := by
  induction items with
  | nil => exact absurd rfl stopped
  | cons item rest ih =>
    cases item with
    | error error => rfl
    | ok token =>
      by_cases isEnd : token.kind = .endOfFile
      · simp [reading, Token.is, isEnd]
      · rw [reading_cons rest isEnd] at stopped ⊢
        rw [List.cons_append, reading_cons _ isEnd, ih stopped]

/-- From any state that a new machine can be brought to, a run one token at a time is a run one statement at a time.
Items behind the first end of file or bad line have no effect, and only tokens of an unfinished statement wait. -/
theorem run_eq_runBatch {settings : Settings} {machine : Machine κ} (reached : Reachable settings machine)
    (items : List Stream.Item) :
    machine.run settings items = machine.runBatch settings items ∧
    (∀ later, (reading items).2 ≠ .exhausted →
      machine.run settings (items ++ later) = machine.run settings items) ∧
    ∀ held ∈ machine.pending, held.kind ≠ .endOfFile ∧ held.kind ≠ .usingWord ∧ held.kind ≠ .semicolon := by
  have batch : ∀ items, machine.run settings items = machine.runBatch settings items := by
    intro items
    rw [run_eq_concluded, drive_eq_runPieces settings machine items reached.pending_waits, runBatch]
  refine ⟨batch items, ?_, reached.pending_waits⟩
  intro later stopped
  rw [batch, batch, runBatch, runBatch, reading_append items later stopped]

/-- A statement that was begun by single tokens is completed in a run, with an import in its middle; the next one
is cut off by the end of the file, behind which a bad line does not count. -/
theorem run_eq_runBatch_import :
    let start : Machine Transcript := { console := {}, log := [] }
    let machine := start.performAll {} [.step ⟨.identifier, "Output", ⟨1, 1⟩⟩, .step ⟨.dot, ".", ⟨1, 7⟩⟩]
    let items : List Stream.Item :=
      [.ok ⟨.printWord, "print", ⟨1, 8⟩⟩, .ok ⟨.leftParenthesis, "(", ⟨1, 13⟩⟩, .ok ⟨.usingWord, "Output", ⟨2, 1⟩⟩,
      .ok ⟨.text, "hi", ⟨3, 1⟩⟩, .ok ⟨.rightParenthesis, ")", ⟨3, 5⟩⟩, .ok ⟨.semicolon, ";", ⟨3, 6⟩⟩,
      .ok ⟨.identifier, "x", ⟨4, 1⟩⟩, .ok ⟨.endOfFile, "", ⟨5, 1⟩⟩, .error ⟨.malformedLine "?", 9⟩]
    Reachable {} machine ∧ machine.pending.length = 2 ∧ machine.run {} items = machine.runBatch {} items ∧
    (machine.run {} items).1 = .ok () ∧ (machine.run {} items).2.imports = ["Output"] ∧
    (machine.run {} items).2.pending = [] := by
  intro start machine items
  have reached : Reachable {} machine := (Reachable.fresh start.console []).performAll {} _
  exact ⟨reached, rfl, (run_eq_runBatch reached items).1, rfl, rfl, rfl⟩

end Machine

end StreamScript.Run
