import StreamScript.Proofs.FaultOrigins
import StreamScript.Proofs.RunCourse
import StreamScript.Proofs.StatementForms

/-! Faults about the data that a run is given. When it says that a line is bad, there is such a line. When it says that
a literal is no number, a token with this literal was given to it and cannot be read. No number is made up on the way:
computed values are never written and read again. -/

namespace StreamScript.Run

namespace Fault

/-- The fault says that a literal cannot be read. -/
def aboutLiteral : Fault → Bool
  | invalidIntegerLiteral _ => true
  | invalidFloatLiteral _ => true
  | _ => false

/-- The literal that the fault is about is the one of this token, and it cannot be read. -/
inductive Blames : Fault → Token → Prop where
  | integer {token : Token} (isNumber : token.kind = .number) (unread : Number.readInt32 token.literal = none) :
      Blames (.invalidIntegerLiteral token.literal) token
  | floating {token : Token} (isFloating : token.kind = .floating)
      (unread : Number.readBinary64 token.literal = none) : Blames (.invalidFloatLiteral token.literal) token

theorem origin_of_aboutLiteral {fault : Fault} (about : fault.aboutLiteral = true) : fault.origin = .expression := by
  cases fault with
  | invalidIntegerLiteral | invalidFloatLiteral => rfl
  | _ => cases about

end Fault

/-- A fault of the result about a literal is about the literal of one of these tokens. -/
def BlamesAmong {α : Type} (tokens : List Token) (result : Except Error α) : Prop :=
  ∀ error, result = .error error → error.fault.aboutLiteral = true → ∃ token ∈ tokens, error.fault.Blames token

namespace BlamesAmong

variable {α β : Type} {tokens more : List Token}

theorem ok (value : α) : BlamesAmong tokens (.ok value) := FailsOnly.ok value

theorem error {error : Error}
    (blames : error.fault.aboutLiteral = true → ∃ token ∈ tokens, error.fault.Blames token) :
    BlamesAmong tokens (.error error : Except Error α) :=
  FailsOnly.error blames

theorem other {error : Error} (other : error.fault.aboutLiteral = false) :
    BlamesAmong tokens (.error error : Except Error α) := by
  apply BlamesAmong.error
  simp [other]

theorem bind {first : Except Error α} {next : α → Except Error β} (begins : BlamesAmong tokens first)
    (continues : ∀ value, BlamesAmong tokens (next value)) : BlamesAmong tokens (first >>= next) :=
  FailsOnly.bind begins continues

theorem map {result : Except Error α} (change : α → β) (blames : BlamesAmong tokens result) :
    BlamesAmong tokens (result.map change) :=
  FailsOnly.map change blames

theorem mono {result : Except Error α} (blames : BlamesAmong tokens result) (within : tokens ⊆ more) :
    BlamesAmong more result := by
  intro fault raised about
  obtain ⟨token, member, blamed⟩ := blames fault raised about
  exact ⟨token, within member, blamed⟩

/-- Work that raises no faults of expressions does not look at literals. -/
theorem of_raises {result : Except Error α} {origins : List Origin} (raises : Raises origins result)
    (apart : .expression ∉ origins) : BlamesAmong tokens result := by
  intro fault raised about
  have within := raises fault raised
  rw [Fault.origin_of_aboutLiteral about] at within
  exact absurd within apart

end BlamesAmong

section Expressions

variable (store : Store) (imports : List String)

theorem operand_blames (token : Token) : BlamesAmong [token] (operand store imports token) := by
  unfold operand
  split
  next isNumber =>
    split
    · exact .ok _
    next unread => exact .error fun _ => ⟨token, List.mem_singleton_self token, .integer isNumber unread⟩
  next isFloating =>
    split
    · exact .ok _
    next unread => exact .error fun _ => ⟨token, List.mem_singleton_self token, .floating isFloating unread⟩
  · exact .ok _
  · exact .ok _
  · exact .ok _
  · split
    · refine .other ?_
      rw [Error.fault_ofToken, libraryFault]
      split <;> rfl
    · split
      · exact .ok _
      · exact .other rfl
  · exact .ok _

theorem evaluate_blames (tokens : List Token) : BlamesAmong tokens (evaluate store imports tokens) := by
  apply evaluate_failsOnly
  · intro error combining about
    generalize error.fault = fault at combining about
    cases fault with
    | emptyExpression | missingOperand | danglingOperands | evaluation => cases about
    | _ => cases combining
  · intro token member
    exact (operand_blames store imports token).mono (by simpa using member)

end Expressions

section Statements

variable (vars : Store) (imports : List String)

theorem declare_blames (type name separator : Token) (value : List Token) :
    BlamesAmong value (declare vars imports type name separator value) := by
  apply declare_failsOnly
  · intro error own about
    rw [Fault.origin_of_aboutLiteral about] at own
    simp at own
  · exact evaluate_blames vars imports value

theorem assign_blames (name : Token) (value : List Token) : BlamesAmong value (assign vars imports name value) := by
  apply assign_failsOnly
  · intro error own about
    rw [Fault.origin_of_aboutLiteral about] at own
    simp at own
  · exact evaluate_blames vars imports value

theorem callText_blames (library argument : Token) :
    BlamesAmong [argument] (callText vars imports library argument) := by
  apply callText_failsOnly
  · intro about
    cases about
  · exact BlamesAmong.of_raises (requireOutput_raises imports library) (by decide)
  · exact evaluate_blames vars imports [argument]

end Statements

namespace Machine

variable {κ : Type} [Console κ] (settings : Settings) (machine : Machine κ)

theorem execute_blames {tokens : List Token} {statement : Statement} (form : Statement.Form tokens statement) :
    BlamesAmong tokens (machine.execute settings statement).1 := by
  have raises := execute_raises settings machine statement
  cases form with
  | declaration =>
    simp only [execute, update_fst]
    exact .map _ ((declare_blames machine.store machine.imports _ _ _ _).mono fun token member => by simp [member])
  | assignment =>
    simp only [execute, update_fst]
    exact .map _ ((assign_blames machine.store machine.imports _ _).mono fun token member => by simp [member])
  | @call library _ _ _ argument =>
    have made := callText_blames machine.store machine.imports library argument
    simp only [execute]
    generalize callText machine.store machine.imports library argument = text at made
    rcases text with error | text
    · exact (BlamesAmong.error (made error rfl)).mono (by simp)
    · exact .of_raises (machine.writeText_raises library _ text) (by decide)
  | prompted | print | unrecognized => exact .of_raises raises (by simp [Statement.origins])

theorem dispatch_blames (tokens : List Token) : BlamesAmong tokens (machine.dispatch settings tokens).1 := by
  intro error failed
  obtain ⟨statement, log, recognized, broken⟩ := dispatch_error failed
  exact execute_blames settings _ (Statement.classify_form recognized) error broken

theorem dispatch_origin_ne_stream (tokens : List Token) {error : Error}
    (failed : (machine.dispatch settings tokens).1 = .error error) : error.fault.origin ≠ .stream := by
  obtain ⟨statement, log, _, broken⟩ := dispatch_error failed
  have within := execute_raises settings _ statement error broken
  intro same
  rw [same] at within
  cases statement <;> simp [Statement.origins] at within

variable {settings machine}

/-- A run complains about its stream only where there is a bad line. -/
theorem run_stream_fault {items : List Stream.Item} {error : Error}
    (failed : (machine.run settings items).1 = .error error) (origin : error.fault.origin = .stream) :
    ∃ line, .error line ∈ items := by
  rw [run_fst] at failed
  obtain ⟨point, left, reaches, fails⟩ := drive_failsAt failed
  cases fails with
  | badLine _ => exact ⟨_, reaches.left_subset (List.mem_cons_self ..)⟩
  | statement _ broken => exact absurd origin (dispatch_origin_ne_stream settings _ _ broken)

/-- A run blames a literal on a token that waited in the machine or that it was given. -/
theorem run_blames {items : List Stream.Item} {error : Error} (failed : (machine.run settings items).1 = .error error)
    (about : error.fault.aboutLiteral = true) :
    ∃ token, (token ∈ machine.pending ∨ .ok token ∈ items) ∧ error.fault.Blames token := by
  rw [run_fst] at failed
  obtain ⟨point, left, reaches, fails⟩ := drive_failsAt failed
  cases fails with
  | badLine same =>
    rw [same] at about
    cases about
  | statement _ broken =>
    obtain ⟨token, member, blames⟩ := dispatch_blames settings point.cleared point.pending error broken about
    exact ⟨token, reaches.pending_subset token member, blames⟩

end Machine

end StreamScript.Run
