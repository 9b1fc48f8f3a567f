import StreamScript.Proofs.StepEffects

/-! The history of a machine: every token that was fed to it, with the machine that took it. A run feeds the tokens up
to the one that ends the program or fails, and nothing behind it. Between two moments of a history a machine only
receives reports. -/

namespace StreamScript.Run

variable {κ : Type}

/-- A token that is fed to a machine. -/
structure Moment (κ : Type) where
  machine : Machine κ
  token : Token

namespace Moment

variable [Console κ] (settings : Settings) (moment : Moment κ)

def result : Except Error Progress := (moment.machine.step settings moment.token).1

def after : Machine κ := (moment.machine.step settings moment.token).2

end Moment

namespace Machine

variable [Console κ] (settings : Settings)

/-- The moments of a run. -/
def moments (machine : Machine κ) : List Stream.Item → List (Moment κ)
  | [] => []
  | .error _ :: _ => []
  | .ok token :: rest =>
    ⟨machine, token⟩ ::
      match machine.step settings token with
      | (.ok .running, after) => after.moments rest
      | (_, _) => []

def callMoments (machine : Machine κ) : Call → List (Moment κ)
  | .step token => [⟨machine, token⟩]
  | .items items => machine.moments settings items
  | .stream text => machine.moments settings (Stream.items text)

/-- The moments of calls that are made one after the other, also after errors. -/
def history (machine : Machine κ) : List Call → List (Moment κ)
  | [] => []
  | call :: rest => machine.callMoments settings call ++ (machine.perform settings call).history rest

/-- These moments lead from one machine to the other, with reports in between. -/
inductive Feeds : Machine κ → List (Moment κ) → Machine κ → Prop where
  | done {machine : Machine κ} : Feeds machine [] machine
  | feed {machine last : Machine κ} {token : Token} {rest : List (Moment κ)}
      (later : Feeds (machine.step settings token).2 rest last) : Feeds machine (⟨machine, token⟩ :: rest) last
  | report {machine last : Machine κ} {diagnostic : Diagnostic} {rest : List (Moment κ)}
      (later : Feeds (machine.report diagnostic) rest last) : Feeds machine rest last

namespace Feeds

variable {settings} {first middle last : Machine κ} {earlier later : List (Moment κ)}

theorem append (begins : Feeds settings first earlier middle) (continues : Feeds settings middle later last) :
    Feeds settings first (earlier ++ later) last := by
  induction begins with
  | done => exact continues
  | feed _ ih => exact .feed (ih continues)
  | report _ ih => exact .report (ih continues)

/-- A history can be cut at any of its moments. -/
theorem split {moment : Moment κ} (feeds : Feeds settings first (earlier ++ moment :: later) last) :
    Feeds settings first earlier moment.machine ∧ Feeds settings (moment.after settings) later last := by
  generalize whole : earlier ++ moment :: later = moments at feeds
  induction feeds generalizing earlier with
  | done => simp at whole
  | feed rest ih =>
    cases earlier with
    | nil =>
      cases whole
      exact ⟨.done, rest⟩
    | cons head tail =>
      cases whole
      obtain ⟨begins, continues⟩ := ih rfl
      exact ⟨.feed begins, continues⟩
  | report _ ih =>
    obtain ⟨begins, continues⟩ := ih whole
    exact ⟨.report begins, continues⟩

end Feeds

/-- A token that completes a statement has it executed. -/
theorem step_completed {machine : Machine κ} {token : Token} {statement : Statement}
    (completes : machine.completed? token = some statement) :
    ∃ log, machine.step settings token =
      (({ machine.cleared with log }.execute settings statement).1.map fun _ => .running,
        ({ machine.cleared with log }.execute settings statement).2) := by
  unfold completed? at completes
  split at completes
  next isSemicolon =>
    obtain ⟨log, executes⟩ := dispatch_recognized settings machine.cleared completes
    refine ⟨log, ?_⟩
    rw [step_semicolon settings machine token (by simpa [Token.is] using isSemicolon), executes]
  · cases completes

/-- A token that completes none is taken in, and touches neither the variables nor the console. -/
theorem step_incomplete {machine : Machine κ} {token : Token} (incomplete : machine.completed? token = none) :
    ∃ progress pending imports log,
      machine.step settings token = (.ok progress, { machine with pending, imports, log }) := by
  rcases kind_cases token with isEnd | isUsing | isSemicolon | waits
  · exact ⟨_, _, _, _, step_endOfFile settings machine token isEnd⟩
  · obtain ⟨log, imports, imported⟩ := machine.importing_frame settings token
    refine ⟨.running, machine.pending, imports, log, ?_⟩
    rw [step_usingWord settings machine token isUsing, imported]
  · refine ⟨.running, [], machine.imports, machine.log, ?_⟩
    have unrecognized : Statement.classify machine.pending = none := by
      simpa [completed?, Token.is, isSemicolon] using incomplete
    rw [step_semicolon settings machine token isSemicolon, dispatch, unrecognized]
    rfl
  · exact ⟨_, _, _, _, step_waits settings machine token waits⟩

theorem drive_feeds (machine : Machine κ) (items : List Stream.Item) :
    Feeds settings machine (machine.moments settings items) (machine.drive settings items).2 := by
  induction items generalizing machine with
  | nil => exact .done
  | cons item rest ih =>
    cases item with
    | error error => exact .done
    | ok token =>
      simp only [moments, drive]
      apply Feeds.feed
      rcases machine.step settings token with ⟨_ | _ | _, after⟩
      · exact .done
      · exact ih after
      · exact .done

theorem run_feeds (machine : Machine κ) (items : List Stream.Item) :
    Feeds settings machine (machine.moments settings items) (machine.run settings items).2 := by
  have driven := drive_feeds settings machine items
  rw [run]
  generalize machine.drive settings items = ended at driven
  rcases ended with ⟨_ | _, after⟩
  · simpa using driven.append (.report .done)
  · exact driven

theorem history_feeds (machine : Machine κ) (calls : List Call) :
    Feeds settings machine (machine.history settings calls) (machine.performAll settings calls) := by
  induction calls generalizing machine with
  | nil => exact .done
  | cons call rest ih =>
    refine Feeds.append ?_ (ih (machine.perform settings call))
    cases call with
    | step token => exact .feed .done
    | items items => exact run_feeds settings machine items
    | stream text => exact run_feeds settings machine (Stream.items text)

end Machine

end StreamScript.Run
