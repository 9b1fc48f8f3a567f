import StreamScript.Proofs.StatementBatches

/-! The course of a run. A run passes from one machine to the next as long as its tokens are taken in, and where it
stops on an error there was a bad line or a statement that failed. Items can be run in two portions, unless the
first of them ends the program or fails. -/

namespace StreamScript

/-- An item that ends the program. -/
def Stream.endsProgram : Stream.Item → Bool
  | .ok token => token.is .endOfFile
  | .error _ => false

namespace Run.Machine

variable {κ : Type} [Console κ] (settings : Settings)

/-- A run of these items from this machine comes to that machine, with those items still to be read. -/
inductive Reaches : Machine κ → List Stream.Item → Machine κ → List Stream.Item → Prop where
  | here {machine : Machine κ} {items : List Stream.Item} : Reaches machine items machine items
  | step {machine after point : Machine κ} {token : Token} {rest left : List Stream.Item}
      (moved : machine.step settings token = (.ok .running, after)) (later : Reaches after rest point left) :
      Reaches machine (.ok token :: rest) point left

variable {settings} {machine point : Machine κ} {items left : List Stream.Item}

/-- Nothing waits in a machine that it was not given. -/
theorem step_pending_subset (settings : Settings) (machine : Machine κ) (token : Token) :
    (machine.step settings token).2.pending ⊆ machine.pending ++ [token] := by
  rcases kind_cases token with isEnd | isUsing | isSemicolon | waits
  · simp [step_endOfFile settings machine token isEnd, cleared]
  · rw [step_usingWord settings machine token isUsing, importing_pending]
    exact List.subset_append_left _ _
  · simp [step_semicolon settings machine token isSemicolon, dispatch_cleared]
  · rw [step_waits settings machine token waits]
    exact List.Subset.refl _

theorem Reaches.pending_subset (reaches : Reaches settings machine items point left) :
    ∀ held ∈ point.pending, held ∈ machine.pending ∨ .ok held ∈ items := by
  induction reaches with
  | here => exact fun held member => .inl member
  | @step machine after point token rest left moved _ ih =>
    intro held member
    rcases ih held member with waiting | given
    · have taken := step_pending_subset settings machine token
      rw [moved] at taken
      rcases List.mem_append.mp (taken waiting) with old | new
      · exact .inl old
      · rw [List.mem_singleton.mp new]
        exact .inr (List.mem_cons_self ..)
    · exact .inr (List.mem_cons_of_mem _ given)

theorem Reaches.left_subset (reaches : Reaches settings machine items point left) : left ⊆ items := by
  induction reaches with
  | here => exact List.Subset.refl _
  | step _ _ ih => exact fun item member => List.mem_cons_of_mem _ (ih member)

/-- Where tokens make up a statement that fails, the statement was recognized and its execution failed. -/
theorem dispatch_error {tokens : List Token} {error : Error}
    (failed : (machine.dispatch settings tokens).1 = .error error) :
    ∃ statement log, Statement.classify tokens = some statement ∧
      ({ machine with log }.execute settings statement).1 = .error error := by
  cases recognized : Statement.classify tokens with
  | none =>
    rw [dispatch_nothing settings machine recognized] at failed
    cases failed
  | some statement =>
    obtain ⟨log, executes⟩ := dispatch_recognized settings machine recognized
    rw [executes] at failed
    exact ⟨statement, log, rfl, failed⟩

/-- The point at which a run fails. -/
inductive FailsAt (settings : Settings) (error : Error) : Machine κ → List Stream.Item → Prop where
  | badLine {point : Machine κ} {line : Stream.Error} {left : List Stream.Item} (same : error = .ofStream line) :
      FailsAt settings error point (.error line :: left)
  | statement {point : Machine κ} {semicolon : Token} {left : List Stream.Item}
      (ends : semicolon.kind = .semicolon)
      (failed : (point.cleared.dispatch settings point.pending).1 = .error error) :
      FailsAt settings error point (.ok semicolon :: left)

theorem step_error {token : Token} {error : Error} (failed : (machine.step settings token).1 = .error error) :
    token.kind = .semicolon ∧ (machine.cleared.dispatch settings machine.pending).1 = .error error := by
  rcases kind_cases token with isEnd | isUsing | isSemicolon | waits
  · rw [step_endOfFile settings machine token isEnd] at failed
    cases failed
  · rw [step_usingWord settings machine token isUsing] at failed
    cases failed
  · refine ⟨isSemicolon, ?_⟩
    rw [step_semicolon settings machine token isSemicolon] at failed
    generalize machine.cleared.dispatch settings machine.pending = ended at failed
    rcases ended with ⟨_ | _, after⟩ <;> cases failed
    rfl
  · rw [step_waits settings machine token waits] at failed
    cases failed

theorem drive_failsAt {error : Error} (failed : (machine.drive settings items).1 = .error error) :
    ∃ point left, Reaches settings machine items point left ∧ FailsAt settings error point left := by
  induction items generalizing machine with
  | nil => cases failed
  | cons item rest ih =>
    cases item with
    | error line =>
      cases failed
      exact ⟨machine, _, .here, .badLine rfl⟩
    | ok token =>
      simp only [drive] at failed
      have stops := @step_error κ _ settings machine token error
      generalize moved : machine.step settings token = ended at failed stops
      rcases ended with ⟨fault | progress, after⟩
      · cases failed
        obtain ⟨isSemicolon, broken⟩ := stops rfl
        exact ⟨machine, _, .here, .statement isSemicolon broken⟩
      · cases progress with
        | finished => cases failed
        | running =>
          obtain ⟨point, left, reaches, fails⟩ := ih failed
          exact ⟨point, left, .step moved reaches, fails⟩

theorem step_finished_iff {token : Token} :
    (machine.step settings token).1 = .ok .finished ↔ token.kind = .endOfFile := by
  rcases kind_cases token with isEnd | isUsing | isSemicolon | waits
  · simp [step_endOfFile settings machine token isEnd, isEnd]
  · simp [step_usingWord settings machine token isUsing, isUsing]
  · rw [step_semicolon settings machine token isSemicolon]
    rcases machine.cleared.dispatch settings machine.pending with ⟨_ | _, after⟩ <;>
      simp [isSemicolon, Except.map]
  · simp [step_waits settings machine token waits, waits.1]

/-- Nothing waits after tokens that end the program, and nothing waits after a statement that failed before. -/
theorem drive_pending_eq_nil (settings : Settings) (machine : Machine κ) {tokens : List Token}
    (ends : ∃ token ∈ tokens, token.kind = .endOfFile) :
    (machine.drive settings (tokens.map .ok)).2.pending = [] := by
  induction tokens generalizing machine with
  | nil => simp at ends
  | cons token rest ih =>
    have later : token.kind ≠ .endOfFile → ∃ other ∈ rest, other.kind = .endOfFile := by
      intro goesOn
      simpa [goesOn] using ends
    simp only [List.map_cons, drive]
    rcases kind_cases token with isEnd | isUsing | isSemicolon | waits
    · rw [step_endOfFile settings machine token isEnd]
      rfl
    · rw [step_usingWord settings machine token isUsing]
      exact ih _ (later (by simp [isUsing]))
    · have emptied := dispatch_cleared settings machine machine.pending
      rw [step_semicolon settings machine token isSemicolon]
      generalize machine.cleared.dispatch settings machine.pending = ended at emptied
      rcases ended with ⟨_ | _, after⟩
      · exact emptied
      · exact ih _ (later (by simp [isSemicolon]))
    · rw [step_waits settings machine token waits]
      exact ih _ (later waits.1)

theorem run_pending (settings : Settings) (machine : Machine κ) (items : List Stream.Item) :
    (machine.run settings items).2.pending = (machine.drive settings items).2.pending := by
  rw [run]
  rcases machine.drive settings items with ⟨_ | _, after⟩ <;> rfl

/-- A second portion of items is run where the first one has left off. -/
theorem drive_append (settings : Settings) (machine : Machine κ) (items later : List Stream.Item) :
    machine.drive settings (items ++ later) =
      match machine.drive settings items with
      | (.error error, after) => (.error error, after)
      | (.ok (), after) =>
        if items.any Stream.endsProgram then (.ok (), after) else after.drive settings later := by
  induction items generalizing machine with
  | nil => rfl
  | cons item rest ih =>
    cases item with
    | error line => rfl
    | ok token =>
      have finishes := @step_finished_iff κ _ settings machine token
      rw [List.cons_append, drive, drive, List.any_cons]
      generalize machine.step settings token = ended at finishes
      rcases ended with ⟨error | progress, after⟩
      · rfl
      · cases progress with
        | finished => simp [Stream.endsProgram, Token.is, finishes.mp rfl]
        | running =>
          have goesOn : Stream.endsProgram (.ok token) = false := by simpa [Stream.endsProgram, Token.is] using finishes
          rw [goesOn, Bool.false_or]
          exact ih after

theorem run_append (settings : Settings) (machine : Machine κ) (items later : List Stream.Item) :
    machine.run settings (items ++ later) =
      match machine.run settings items with
      | (.error error, after) => (.error error, after)
      | (.ok (), after) =>
        if items.any Stream.endsProgram then (.ok (), after) else after.run settings later := by
  rw [run, run, drive_append]
  rcases machine.drive settings items with ⟨error | _, after⟩
  · rfl
  · by_cases ends : items.any Stream.endsProgram = true
    · simp only [ends, if_true]
    · simp only [ends]
      rfl

/-- What follows the items of a run that goes through is still to be read after them. -/
theorem drive_reaches (succeeded : (machine.drive settings items).1 = .ok ())
    (goesOn : items.any Stream.endsProgram = false) (left : List Stream.Item) :
    Reaches settings machine (items ++ left) (machine.drive settings items).2 left := by
  induction items generalizing machine with
  | nil => exact .here
  | cons item rest ih =>
    rw [List.any_cons, Bool.or_eq_false_iff] at goesOn
    cases item with
    | error line => cases succeeded
    | ok token =>
      have finishes := @step_finished_iff κ _ settings machine token
      simp only [drive] at succeeded ⊢
      generalize moved : machine.step settings token = ended at finishes succeeded
      rcases ended with ⟨error | progress, after⟩
      · cases succeeded
      · cases progress with
        | finished => simp [Stream.endsProgram, Token.is, finishes.mp rfl] at goesOn
        | running => exact .step moved (ih succeeded goesOn.2)

end Run.Machine

end StreamScript
