import Mathlib.Data.List.Forall2
import StreamScript.Proofs.RelocatedRun
import StreamScript.Proofs.StreamRoundTrip

/-! A program runs the same from its tokens and from the stream they were written to. The two runs differ in places
only, and a place in one belongs to the same token as the place in the other. Both are moved images of one run,
that of the numbered tokens, and a run knows no places but those it was given. -/

namespace StreamScript.Run

variable {κ : Type}

/-- The end of a run of moved tokens beside the end of the run of the tokens themselves. Reports from before the
run stay where they are. -/
structure Relocated (move : Position → Position) (earlier : List Diagnostic)
    (ended moved : Except Error Unit × Machine κ) : Prop where
  result : moved.1 = ended.1.mapError (Error.relocate move)
  store : moved.2.store = ended.2.store
  imports : moved.2.imports = ended.2.imports
  console : moved.2.console = ended.2.console
  pending : moved.2.pending = ended.2.pending.map (Token.relocate move)
  log : ∃ reported, ended.2.log = earlier ++ reported ∧
    moved.2.log = earlier ++ reported.map (Diagnostic.relocate move)

/-- Two ends of runs that are the same but for places. -/
structure SameEnd (direct persisted : Except Error Unit × Machine κ) : Prop where
  store : direct.2.store = persisted.2.store
  imports : direct.2.imports = persisted.2.imports
  console : direct.2.console = persisted.2.console
  pending : direct.2.pending.map (fun token => (token.kind, token.literal)) =
    persisted.2.pending.map (fun token => (token.kind, token.literal))
  log : direct.2.log.map (fun diagnostic => (diagnostic.level, diagnostic.message)) =
    persisted.2.log.map (fun diagnostic => (diagnostic.level, diagnostic.message))
  fault : direct.1.mapError Error.fault = persisted.1.mapError Error.fault

/-- Where one token stands in the list and in the stream that was written from it. -/
def SamePlace (tokens : List Token) (direct persisted : Position) : Prop :=
  ∃ index, ∃ inside : index < tokens.length, direct = tokens[index].position ∧ persisted = ⟨index + 1, 0⟩

/-- The two runs speak of the same tokens in their errors, in their new reports and in what waits. -/
structure SameTokens (tokens : List Token) (earlier : List Diagnostic)
    (direct persisted : Except Error Unit × Machine κ) : Prop where
  error : ∀ first second, direct.1 = .error first → persisted.1 = .error second →
    Option.Rel (SamePlace tokens) first.position second.position
  log : ∃ first second, direct.2.log = earlier ++ first ∧ persisted.2.log = earlier ++ second ∧
    List.Forall₂ (fun one other => Option.Rel (SamePlace tokens) one.position other.position) first second
  pending : List.Forall₂ (fun one other => SamePlace tokens one.position other.position)
    direct.2.pending persisted.2.pending

/-- The places that two runs mention belong together, in their errors, in their new reports and in what waits. -/
structure Placed (related : Position → Position → Prop) (earlier : List Diagnostic)
    (one other : Except Error Unit × Machine κ) : Prop where
  error : ∀ first second, one.1 = .error first → other.1 = .error second →
    Option.Rel related first.position second.position
  log : ∃ first second, one.2.log = earlier ++ first ∧ other.2.log = earlier ++ second ∧
    List.Forall₂ (fun left right => Option.Rel related left.position right.position) first second
  pending : List.Forall₂ (fun left right => related left.position right.position) one.2.pending other.2.pending

/-- All places that the end of a run mentions. -/
structure Within (known : Position → Prop) (ended : Except Error Unit × Machine κ) : Prop where
  error : ∀ error, ended.1 = .error error → ∀ place ∈ error.position, known place
  log : ∀ diagnostic ∈ ended.2.log, ∀ place ∈ diagnostic.position, known place
  pending : ∀ token ∈ ended.2.pending, known token.position

namespace Machine

def silent (machine : Machine κ) : Machine κ := { machine with log := [] }

theorem silent_relocate (machine : Machine κ) (move : Position → Position) :
    machine.silent.relocate move machine.log =
      { machine with pending := machine.pending.map (Token.relocate move) } := by
  simp [silent, relocate]

private theorem token_fixed (move : Position → Position) (token : Token) :
    token.relocate move = token ↔ move token.position = token.position := by
  obtain ⟨kind, literal, position⟩ := token
  simp [Token.relocate]

private theorem diagnostic_fixed (move : Position → Position) (diagnostic : Diagnostic) :
    diagnostic.relocate move = diagnostic ↔ ∀ place ∈ diagnostic.position, move place = place := by
  obtain ⟨level, message, position⟩ := diagnostic
  cases position <;> simp [Diagnostic.relocate]

private theorem error_fixed (move : Position → Position) (error : Error) :
    error.relocate move = error ↔ ∀ place ∈ error.position, move place = place := by
  obtain ⟨fault, position⟩ := error
  cases position <;> simp [Error.relocate]

private theorem map_fixed {α : Type} (change : α → α) (items : List α) :
    items.map change = items ↔ ∀ item ∈ items, change item = item := by
  simpa using List.map_inj_left (l := items) (f := change) (g := id)

private theorem relocateEnd_fixed (move : Position → Position) (ended : Except Error Unit × Machine κ) :
    relocateEnd move [] ended = ended ↔ Within (fun place => move place = place) ended := by
  obtain ⟨result, machine⟩ := ended
  have log : [] ++ machine.log.map (Diagnostic.relocate move) = machine.log ↔
      ∀ diagnostic ∈ machine.log, ∀ place ∈ diagnostic.position, move place = place := by
    simp only [List.nil_append, map_fixed, diagnostic_fixed]
  have pending : machine.pending.map (Token.relocate move) = machine.pending ↔
      ∀ token ∈ machine.pending, move token.position = token.position := by
    simp only [map_fixed, token_fixed]
  have outcome : result.mapError (Error.relocate move) = result ↔
      ∀ error, result = .error error → ∀ place ∈ error.position, move place = place := by
    cases result with
    | error error => simpa using error_fixed move error
    | ok value => simp
  constructor
  · intro same
    have first := congrArg Prod.fst same
    have second := congrArg Prod.snd same
    exact ⟨outcome.mp first, log.mp (congrArg Machine.log second), pending.mp (congrArg Machine.pending second)⟩
  · intro within
    simp only [relocateEnd, relocate]
    rw [outcome.mpr within.error, log.mpr within.log, pending.mpr within.pending]

variable [Console κ] (settings : Settings)

/-- A run mentions no places but those of the machine and of its items. -/
theorem run_within {known : Position → Prop} {machine : Machine κ} {items : List Stream.Item}
    (begins : Within known (.ok (), machine)) (given : ∀ item ∈ items, known (Stream.place item)) :
    Within known (machine.run settings items) := by
  classical
  -- All other places are moved away. A place that the run made up would have to be moved and to stay.
  let away : Position → Position := fun place => if known place then place else ⟨place.line + 1, place.column⟩
  have fixed : (fun place => away place = place) = known := by
    funext place
    by_cases isKnown : known place
    · simp [away, isKnown]
    · obtain ⟨line, column⟩ := place
      simp [away, isKnown]
  have start : relocateEnd away [] (.ok (), machine) = (.ok (), machine) :=
    (relocateEnd_fixed away _).mpr (by rw [fixed]; exact begins)
  have same : List.Forall₂ (Stream.Moved away) items items := by
    rw [List.forall₂_same]
    intro item member
    exact .of_place ((congrFun fixed (Stream.place item)).mpr (given item member))
  have moved := run_relocate [] same settings machine
  have machineSame : machine.relocate away [] = machine := congrArg Prod.snd start
  rw [machineSame] at moved
  rw [← fixed]
  exact (relocateEnd_fixed away _).mp moved.symm

theorem run_eq_relocateEnd {move : Position → Position} {items moved : List Stream.Item}
    (matched : List.Forall₂ (Stream.Moved move) items moved) (machine : Machine κ) :
    { machine with pending := machine.pending.map (Token.relocate move) }.run settings moved =
      relocateEnd move machine.log (machine.silent.run settings items) := by
  rw [← silent_relocate, run_relocate machine.log matched]

theorem runTokens_eq_relocateEnd (move : Position → Position) (machine : Machine κ) (tokens : List Token) :
    { machine with pending := machine.pending.map (Token.relocate move) }.runTokens settings
        (tokens.map (Token.relocate move)) =
      relocateEnd move machine.log (machine.silent.runTokens settings tokens) :=
  run_eq_relocateEnd settings (Stream.moved_tokens move tokens) machine

private theorem relocate_id_token : Token.relocate id = id := rfl

private theorem relocate_id_diagnostic : Diagnostic.relocate id = id := by
  funext diagnostic
  exact (diagnostic_fixed id diagnostic).mpr fun _ _ => rfl

private theorem mapError_relocate_id (result : Except Error Unit) : result.mapError (Error.relocate id) = result := by
  cases result with
  | error error => exact congrArg Except.error ((error_fixed id error).mpr fun _ _ => rfl)
  | ok value => rfl

theorem runTokens_eq_silent (machine : Machine κ) (tokens : List Token) :
    machine.runTokens settings tokens = relocateEnd id machine.log (machine.silent.runTokens settings tokens) := by
  have moved := runTokens_eq_relocateEnd settings id machine tokens
  rwa [relocate_id_token, List.map_id, List.map_id] at moved

theorem runTokens_relocated (move : Position → Position) (machine : Machine κ) (tokens : List Token) :
    Relocated move machine.log (machine.runTokens settings tokens)
      ({ machine with pending := machine.pending.map (Token.relocate move) }.runTokens settings
        (tokens.map (Token.relocate move))) := by
  rw [runTokens_eq_relocateEnd, runTokens_eq_silent]
  generalize machine.silent.runTokens settings tokens = ended
  refine ⟨?_, rfl, rfl, rfl, ?_, ended.2.log, ?_, rfl⟩
  · simp only [relocateEnd, mapError_relocate_id]
  · simp [relocateEnd, relocate, relocate_id_token]
  · simp [relocateEnd, relocate, relocate_id_diagnostic]

/-- The place in the list of the token on that line. -/
def placeOfLine (tokens : List Token) (line : Position) : Position :=
  ((tokens[line.line - 1]?).map (·.position)).getD line

theorem numbered_relocate_of {move : Position → Position} {tokens : List Token}
    (there : ∀ index (inside : index < tokens.length), move (.ofLine (index + 1)) = tokens[index].position) :
    (Stream.numbered tokens).map (Token.relocate move) = tokens := by
  apply List.ext_getElem
  · simp [Stream.numbered]
  · intro index _ inside
    have here : move ⟨index + 1, 0⟩ = tokens[index].position := there index inside
    simp [Stream.numbered, Token.relocate, here]

theorem numbered_relocate (tokens : List Token) :
    (Stream.numbered tokens).map (Token.relocate (placeOfLine tokens)) = tokens :=
  numbered_relocate_of fun index inside => by simp [placeOfLine, Position.ofLine, inside]

theorem samePlace_placeOfLine {tokens : List Token} {index : Nat} (inside : index < tokens.length) :
    SamePlace tokens (placeOfLine tokens ⟨index + 1, 0⟩) ⟨index + 1, 0⟩ :=
  ⟨index, inside, by simp [placeOfLine, inside], rfl⟩

omit [Console κ] in
/-- Two moved images of one end differ in places only. -/
theorem sameEnd_moved (move other : Position → Position) (earlier : List Diagnostic)
    (ended : Except Error Unit × Machine κ) :
    SameEnd (relocateEnd move earlier ended) (relocateEnd other earlier ended) := by
  refine ⟨rfl, rfl, rfl, ?_, ?_, ?_⟩
  · simp [relocateEnd, relocate, Token.relocate]
  · simp [relocateEnd, relocate, Diagnostic.relocate]
  · simp only [relocateEnd]
    cases ended.1 <;> rfl

omit [Console κ] in
theorem placed_moved {known : Position → Prop} {related : Position → Position → Prop}
    {move other : Position → Position} {ended : Except Error Unit × Machine κ} (within : Within known ended)
    (belong : ∀ place, known place → related (move place) (other place)) (earlier : List Diagnostic) :
    Placed related earlier (relocateEnd move earlier ended) (relocateEnd other earlier ended) := by
  have optional : ∀ position : Option Position, (∀ place ∈ position, known place) →
      Option.Rel related (position.map move) (position.map other) := by
    intro position known
    cases position with
    | none => exact .none
    | some place => exact .some (belong place (known place rfl))
  refine ⟨?_, ⟨ended.2.log.map (Diagnostic.relocate move), ended.2.log.map (Diagnostic.relocate other),
    rfl, rfl, ?_⟩, ?_⟩
  · intro first second failed failed'
    obtain ⟨result, machine⟩ := ended
    cases result with
    | ok value => cases failed
    | error error =>
      cases failed
      cases failed'
      exact optional error.position (within.error error rfl)
  · simp only [List.forall₂_map_left_iff, List.forall₂_map_right_iff, List.forall₂_same]
    intro diagnostic member
    exact optional diagnostic.position (within.log diagnostic member)
  · simp only [relocateEnd, relocate, List.forall₂_map_left_iff, List.forall₂_map_right_iff, List.forall₂_same]
    intro token member
    exact belong token.position (within.pending token member)

omit [Console κ] in
theorem sameEnd_relocateEnd (move : Position → Position) (earlier : List Diagnostic)
    (ended : Except Error Unit × Machine κ) :
    SameEnd (relocateEnd move earlier ended) (relocateEnd id earlier ended) :=
  sameEnd_moved move id earlier ended

omit [Console κ] in
theorem sameTokens_relocateEnd {tokens : List Token} {ended : Except Error Unit × Machine κ}
    (within : Within (fun place => ∃ index < tokens.length, place = ⟨index + 1, 0⟩) ended)
    (earlier : List Diagnostic) :
    SameTokens tokens earlier (relocateEnd (placeOfLine tokens) earlier ended) (relocateEnd id earlier ended) := by
  have same : ∀ place, (∃ index < tokens.length, place = ⟨index + 1, 0⟩) →
      SamePlace tokens (placeOfLine tokens place) (id place) := by
    rintro place ⟨index, inside, rfl⟩
    exact samePlace_placeOfLine inside
  obtain ⟨error, log, pending⟩ := placed_moved within same earlier
  exact ⟨error, log, pending⟩

theorem position_of_mem_numbered {tokens : List Token} :
    ∀ token ∈ Stream.numbered tokens, ∃ index < tokens.length, token.position = ⟨index + 1, 0⟩ := by
  intro token member
  obtain ⟨index, inside, rfl⟩ := List.mem_mapIdx.mp member
  exact ⟨index, inside, rfl⟩

omit [Console κ] in
theorem within_silent {known : Position → Prop} {machine : Machine κ}
    (waiting : ∀ token ∈ machine.pending, known token.position) : Within known (.ok (), machine.silent) := by
  refine ⟨?_, ?_, waiting⟩
  · intro error impossible
    cases impossible
  · simp [silent]

theorem within_numbered {machine : Machine κ} (tokens : List Token) (quiet : machine.pending = []) :
    Within (fun place => ∃ index < tokens.length, place = ⟨index + 1, 0⟩)
      (machine.silent.runTokens settings (Stream.numbered tokens)) := by
  apply run_within
  · exact within_silent (by simp [quiet])
  · simpa [Stream.place] using @position_of_mem_numbered tokens

/-- Writing a program to a stream and running the stream is running the program. The machines end the same but for
places, and where the one run names the place of a token the other names its line. What justifies speaking of the
same tokens is that a run treats places as names: however the tokens are moved, the end of the run moves along. -/
theorem persisted_run_agrees {machine : Machine κ} (tokens : List Token) (quiet : machine.pending = []) :
    SameEnd (machine.runTokens settings tokens) (machine.runStream settings (Stream.encode tokens)) ∧
    SameTokens tokens machine.log (machine.runTokens settings tokens)
      (machine.runStream settings (Stream.encode tokens)) ∧
    ∀ (move : Position → Position) (start : Machine κ),
      Relocated move start.log (start.runTokens settings tokens)
        ({ start with pending := start.pending.map (Token.relocate move) }.runTokens settings
          (tokens.map (Token.relocate move))) := by
  have persisted : machine.runStream settings (Stream.encode tokens) =
      relocateEnd id machine.log (machine.silent.runTokens settings (Stream.numbered tokens)) := by
    rw [runStream, Stream.items_encode, ← runTokens_eq_silent]
    rfl
  have direct : machine.runTokens settings tokens =
      relocateEnd (placeOfLine tokens) machine.log (machine.silent.runTokens settings (Stream.numbered tokens)) := by
    rw [← runTokens_eq_relocateEnd, numbered_relocate, quiet, List.map_nil, ← quiet]
  refine ⟨?_, ?_, fun move start => runTokens_relocated settings move start tokens⟩
  · rw [persisted, direct]
    exact sameEnd_relocateEnd _ _ _
  · rw [persisted, direct]
    exact sameTokens_relocateEnd (within_numbered settings tokens quiet) machine.log

/-- A text with a line break and quotes is printed, and then an assignment fails: at the place of its name when the
tokens are run, and on line four when they are run from a stream. -/
theorem persisted_run_agrees_undeclared :
    let machine : Machine Transcript := { console := {} }
    let tokens : List Token :=
      [⟨.printWord, "print", ⟨1, 1⟩⟩, ⟨.text, "\"a\"\n", ⟨1, 7⟩⟩, ⟨.semicolon, ";", ⟨1, 13⟩⟩, ⟨.identifier, "x", ⟨2, 1⟩⟩,
      ⟨.equal, "=", ⟨2, 3⟩⟩, ⟨.number, "1", ⟨2, 5⟩⟩, ⟨.semicolon, ";", ⟨2, 6⟩⟩]
    machine.pending = [] ∧
    (machine.runTokens {} tokens).1 = .error ⟨.undeclared "x", some ⟨2, 1⟩⟩ ∧
    SameEnd (machine.runTokens {} tokens) (machine.runStream {} (Stream.encode tokens)) ∧
    SameTokens tokens [] (machine.runTokens {} tokens) (machine.runStream {} (Stream.encode tokens)) := by
  intro machine tokens
  have quiet : machine.pending = [] := rfl
  obtain ⟨sameEnd, sameTokens, _⟩ := persisted_run_agrees {} tokens quiet
  exact ⟨quiet, rfl, sameEnd, sameTokens⟩

end Machine

end StreamScript.Run
