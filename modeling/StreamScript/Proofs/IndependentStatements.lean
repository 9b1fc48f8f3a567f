import Mathlib.Data.List.Basic
import StreamScript.Proofs.StepEffects

/-! Statements that do not depend on each other. An expression reads the variables that it names and no others. A
declaration or an assignment looks at its target besides and changes nothing else, so two of them may change places when
neither of them names the target of the other. -/

namespace StreamScript

namespace Store

variable {store : Store} {name : String}

theorem exists_declare? (absent : store.get? name = none) (type : ValueType) (value : Value) :
    ∃ after, store.declare? name type value = some after := by
  simp [declare?, contains, absent]

theorem exists_assign? {found : Variable} (held : store.get? name = some found) (value : Value) :
    ∃ after, store.assign? name value = some after := by
  simp [assign?, contains, held]

end Store

namespace Run

/-- The name stands in the expression as an identifier. -/
def Names (expression : List Token) (name : String) : Prop :=
  ∃ token ∈ expression, token.kind = .identifier ∧ token.literal = name

section Reading

variable {store other : Store} {imports : List String}

theorem operand_congr {token : Token}
    (same : token.kind = .identifier → store.value? token.literal = other.value? token.literal) :
    operand store imports token = operand other imports token := by
  obtain ⟨kind, literal, position⟩ := token
  cases kind with
  | identifier => simp only [operand, same rfl]
  | _ => rfl

theorem feedAll_congr {tokens : List Token} (agree : ∀ name, Names tokens name → store.value? name = other.value? name)
    (state : Stacks) : feedAll store imports state tokens = feedAll other imports state tokens := by
  induction tokens generalizing state with
  | nil => rfl
  | cons token rest ih =>
    have here : operand store imports token = operand other imports token :=
      operand_congr fun isIdentifier => agree _ ⟨token, List.mem_cons_self .., isIdentifier, rfl⟩
    have later : ∀ name, Names rest name → store.value? name = other.value? name := by
      rintro name ⟨found, member, named⟩
      exact agree name ⟨found, List.mem_cons_of_mem token member, named⟩
    simp only [feedAll, feed, here, ih later]

/-- An expression has the same value, or the same fault, wherever the variables that it names have the same values. -/
theorem evaluate_congr {expression : List Token}
    (agree : ∀ name, Names expression name → store.value? name = other.value? name) :
    evaluate store imports expression = evaluate other imports expression := by
  rw [evaluate, evaluate, feedAll_congr agree]

end Reading

/-- A statement that stores the value of an expression. -/
inductive Storing where
  | declaration (type name separator : Token) (expression : List Token)
  | assignment (name : Token) (expression : List Token)

namespace Storing

def statement : Storing → Statement
  | declaration type name separator expression => .declaration type name separator expression
  | assignment name expression => .assignment name expression

def target : Storing → String
  | declaration _ name _ _ => name.literal
  | assignment name _ => name.literal

def expression : Storing → List Token
  | declaration _ _ _ expression => expression
  | assignment _ expression => expression

/-- The variables once the statement is executed. -/
def carryOut (vars : Store) (imports : List String) : Storing → Except Error Store
  | declaration type name separator expression => declare vars imports type name separator expression
  | assignment name expression => assign vars imports name expression

/-- What the statement makes of its target, which was held so, when the expression has this value. -/
inductive Gives : Storing → (held : Option Variable) → (result : Value) → Variable → Prop where
  | declared {type name separator : Token} {expression : List Token} {named : ValueType} {result : Value}
      (typed : type.kind = .identifier) (isNamed : name.kind = .identifier) (equals : separator.kind = .equal)
      (known : namedType type = .ok named) (fits : named.accepts result = true) :
      Gives (.declaration type name separator expression) none result ⟨named, result⟩
  | assigned {name : Token} {expression : List Token} {found : Variable} {result : Value}
      (fits : found.type.accepts result = true) :
      Gives (.assignment name expression) (some found) result { found with value := result }

/-- The store with this entry for the target, and with all other entries as they were. -/
def Leaves (vars : Store) (target : String) (entry : Variable) (after : Store) : Prop :=
  ∀ name, after.get? name = if name = target then some entry else vars.get? name

variable {storing : Storing} {vars after : Store} {imports : List String}

/-- What it takes for the statement to succeed: a value of its expression, and a target that goes with it. -/
theorem carryOut_ok (done : storing.carryOut vars imports = .ok after) :
    ∃ result entry, evaluate vars imports storing.expression = .ok result ∧
      storing.Gives (vars.get? storing.target) result entry ∧ Leaves vars storing.target entry after := by
  cases storing with
  | declaration type name separator expression =>
    simp only [carryOut, declare] at done
    split at done
    · cases done
    next identifiers =>
      split at done
      · cases done
      next absent =>
        split at done
        · cases done
        next equals =>
          obtain ⟨result, evaluated, done⟩ := bind_eq_ok done
          obtain ⟨named, known, done⟩ := bind_eq_ok done
          obtain ⟨_, checked, done⟩ := bind_eq_ok done
          have unheld : vars.get? name.literal = none := Store.get?_eq_none absent
          obtain ⟨extended, made⟩ := Store.exists_declare? unheld named result
          rw [made] at done
          cases done
          simp [Token.is] at identifiers equals
          refine ⟨result, ⟨named, result⟩, evaluated, ?_, Store.get?_declare? made⟩
          have target : vars.get? (Storing.declaration type name separator expression).target = none := unheld
          rw [target]
          exact .declared identifiers.1 identifiers.2 equals known (checkType_ok checked)
  | assignment name expression =>
    obtain ⟨type, declared, done⟩ := bind_eq_ok done
    obtain ⟨result, evaluated, stored⟩ := bind_eq_ok done
    obtain ⟨found, held, rfl⟩ := declaredType_ok declared
    obtain ⟨fits, made⟩ := put_ok stored
    have target : vars.get? (Storing.assignment name expression).target = some found := held
    refine ⟨result, { found with value := result }, evaluated, ?_, ?_⟩
    · rw [target]
      exact .assigned fits
    · intro other
      rw [Store.get?_assign? made, held]
      rfl

/-- That is all it takes. -/
theorem exists_carryOut {result : Value} {entry : Variable}
    (evaluated : evaluate vars imports storing.expression = .ok result)
    (gives : storing.Gives (vars.get? storing.target) result entry) :
    ∃ after, storing.carryOut vars imports = .ok after ∧ Leaves vars storing.target entry after := by
  generalize held : vars.get? storing.target = found at gives
  cases gives with
  | @declared type name separator expression named result typed isNamed equals known fits =>
    have absent : vars.get? name.literal = none := held
    have evaluates : evaluate vars imports expression = .ok result := evaluated
    obtain ⟨after, made⟩ := Store.exists_declare? absent named result
    refine ⟨after, ?_, Store.get?_declare? made⟩
    simp [carryOut, declare, Token.is, Store.contains, checkType, typed, isNamed, equals, absent, evaluates, known, fits,
      made, bind, Except.bind, pure, Except.pure]
  | @assigned name expression found result fits =>
    have present : vars.get? name.literal = some found := held
    have evaluates : evaluate vars imports expression = .ok result := evaluated
    obtain ⟨after, made⟩ := Store.exists_assign? present result
    refine ⟨after, ?_, ?_⟩
    · simp [carryOut, assign, declaredType, put, checkType, present, evaluates, fits, made, bind, Except.bind, pure,
        Except.pure]
    · intro other
      rw [Store.get?_assign? made, present]
      rfl

/-- Where the target and the variables that the expression names are the same, the statement does the same. -/
theorem carryOut_transfer {other : Store} (target : other.get? storing.target = vars.get? storing.target)
    (reads : ∀ name, Names storing.expression name → other.get? name = vars.get? name)
    (done : storing.carryOut vars imports = .ok after) :
    ∃ entry otherAfter, Leaves vars storing.target entry after ∧
      storing.carryOut other imports = .ok otherAfter ∧ Leaves other storing.target entry otherAfter := by
  obtain ⟨result, entry, evaluated, gives, leaves⟩ := carryOut_ok done
  have values : ∀ name, Names storing.expression name → other.value? name = vars.value? name := by
    intro name named
    rw [Store.value?, Store.value?, reads name named]
  rw [← evaluate_congr values] at evaluated
  rw [← target] at gives
  obtain ⟨otherAfter, otherDone, otherLeaves⟩ := exists_carryOut evaluated gives
  exact ⟨entry, otherAfter, leaves, otherDone, otherLeaves⟩

/-- Neither statement names the target of the other, in its expression or as its own target. -/
structure Independent (first second : Storing) : Prop where
  targets : first.target ≠ second.target
  firstUnread : ¬ Names second.expression first.target
  secondUnread : ¬ Names first.expression second.target

theorem Independent.commute {first second : Storing} (independent : Independent first second) {middle : Store}
    (firstDone : first.carryOut vars imports = .ok middle) (secondDone : second.carryOut middle imports = .ok after) :
    ∃ otherMiddle otherAfter, second.carryOut vars imports = .ok otherMiddle ∧
      first.carryOut otherMiddle imports = .ok otherAfter ∧ ∀ name, otherAfter.get? name = after.get? name := by
  obtain ⟨_, _, _, _, middleLeaves⟩ := carryOut_ok firstDone
  -- The second statement does not see what the first has done, and then the first does not see what the second has.
  have unchanged : ∀ name, name ≠ first.target → vars.get? name = middle.get? name := by
    intro name different
    rw [middleLeaves, if_neg different]
  obtain ⟨secondEntry, otherMiddle, afterLeaves, secondFirst, otherMiddleLeaves⟩ :=
    carryOut_transfer (unchanged _ independent.targets.symm)
      (fun name named => unchanged name fun same => independent.firstUnread (same ▸ named)) secondDone
  have untouched : ∀ name, name ≠ second.target → otherMiddle.get? name = vars.get? name := by
    intro name different
    rw [otherMiddleLeaves, if_neg different]
  obtain ⟨firstEntry, otherAfter, middleLeaves, firstSecond, otherAfterLeaves⟩ :=
    carryOut_transfer (untouched _ independent.targets)
      (fun name named => untouched name fun same => independent.secondUnread (same ▸ named)) firstDone
  refine ⟨otherMiddle, otherAfter, secondFirst, firstSecond, ?_⟩
  intro name
  rw [otherAfterLeaves, otherMiddleLeaves, afterLeaves, middleLeaves]
  by_cases isFirst : name = first.target
  · rw [if_pos isFirst, if_pos isFirst, if_neg (isFirst ▸ independent.targets)]
  · rw [if_neg isFirst, if_neg isFirst]

/-- The tokens of the statement, and the semicolon that completes it. -/
inductive Written (storing : Storing) : List Token → Prop where
  | intro {tokens : List Token} {semicolon : Token} (waits : ∀ token ∈ tokens, token.Waits)
      (recognized : Statement.classify tokens = some storing.statement) (ends : semicolon.kind = .semicolon) :
      Written storing (tokens ++ [semicolon])

end Storing

namespace Machine

variable {κ : Type} [Console κ] {settings : Settings} {machine : Machine κ} {storing : Storing}

theorem dispatch_storing {tokens : List Token} (recognized : Statement.classify tokens = some storing.statement) :
    ∃ log, machine.dispatch settings tokens =
      { machine with log }.update (storing.carryOut machine.store machine.imports) := by
  obtain ⟨log, executes⟩ := dispatch_recognized settings machine recognized
  refine ⟨log, ?_⟩
  rw [executes]
  cases storing <;> rfl

theorem drive_storing {tokens : List Token} (quiet : machine.pending = []) (written : storing.Written tokens)
    (later : List Token) :
    ∃ log, machine.drive settings ((tokens ++ later).map .ok) =
      match storing.carryOut machine.store machine.imports with
      | .ok store => { machine with store, log }.drive settings (later.map .ok)
      | .error error => (.error error, { machine with log }) := by
  obtain ⟨waits, recognized, ends⟩ := written
  obtain ⟨log, dispatched⟩ := @dispatch_storing _ _ settings machine _ _ recognized
  refine ⟨log, ?_⟩
  rw [List.append_assoc, List.map_append, List.singleton_append, List.map_cons,
    drive_statement settings machine quiet waits ends, dispatched]
  cases storing.carryOut machine.store machine.imports <;> rfl

section Runs

variable {first second : Storing} {firstTokens secondTokens : List Token} (quiet : machine.pending = [])
  (firstWritten : first.Written firstTokens) (secondWritten : second.Written secondTokens)

include quiet firstWritten secondWritten

theorem carryOut_of_runTokens (succeeded : (machine.runTokens settings (firstTokens ++ secondTokens)).1 = .ok ()) :
    ∃ middle after, first.carryOut machine.store machine.imports = .ok middle ∧
      second.carryOut middle machine.imports = .ok after := by
  obtain ⟨log, driven⟩ := drive_storing quiet firstWritten secondTokens
  rw [runTokens, run, driven] at succeeded
  cases firstDone : first.carryOut machine.store machine.imports with
  | error error =>
    rw [firstDone] at succeeded
    cases succeeded
  | ok middle =>
    obtain ⟨_, drivenOn⟩ := @drive_storing _ _ settings { machine with store := middle, log } _ _ quiet secondWritten []
    rw [List.append_nil] at drivenOn
    simp only [firstDone, drivenOn] at succeeded
    cases secondDone : second.carryOut middle machine.imports with
    | error error =>
      rw [secondDone] at succeeded
      cases succeeded
    | ok after => exact ⟨middle, after, rfl, secondDone⟩

theorem runTokens_of_carryOut {middle after : Store}
    (firstDone : first.carryOut machine.store machine.imports = .ok middle)
    (secondDone : second.carryOut middle machine.imports = .ok after) :
    ∃ log, machine.runTokens settings (firstTokens ++ secondTokens) =
      (.ok (), { machine with store := after, log }) := by
  obtain ⟨log, driven⟩ := @drive_storing _ _ settings _ _ _ quiet firstWritten secondTokens
  obtain ⟨logOn, drivenOn⟩ :=
    @drive_storing _ _ settings { machine with store := middle, log } _ _ quiet secondWritten []
  rw [List.append_nil] at drivenOn
  refine ⟨logOn, ?_⟩
  simp only [runTokens, run, driven, firstDone, drivenOn, secondDone]
  rfl

end Runs

/-- Two machines that differ in what they have reported, and in the order of their variables. -/
structure SameState (machine other : Machine κ) : Prop where
  store : ∀ name, machine.store.get? name = other.store.get? name
  imports : machine.imports = other.imports
  console : machine.console = other.console
  pending : machine.pending = other.pending

/-- An expression depends on the variables that it names and on no others. So where two statements store values, have
different targets and do not name the target of each other, a run in which one follows the other can be made in the
other order too, and comes to the same state. -/
theorem independent_statements_commute (settings : Settings) (machine : Machine κ) :
    (∀ store other imports expression, (∀ name, Names expression name → Store.value? store name = other.value? name) →
      evaluate store imports expression = evaluate other imports expression) ∧
    ∀ first second firstTokens secondTokens, machine.pending = [] → Storing.Independent first second →
      first.Written firstTokens → second.Written secondTokens →
      (machine.runTokens settings (firstTokens ++ secondTokens)).1 = .ok () →
      (machine.runTokens settings (secondTokens ++ firstTokens)).1 = .ok () ∧
      SameState (machine.runTokens settings (secondTokens ++ firstTokens)).2
        (machine.runTokens settings (firstTokens ++ secondTokens)).2 := by
  refine ⟨fun _ _ _ _ agree => evaluate_congr agree, ?_⟩
  intro first second firstTokens secondTokens quiet independent firstWritten secondWritten succeeded
  obtain ⟨middle, after, firstDone, secondDone⟩ := carryOut_of_runTokens quiet firstWritten secondWritten succeeded
  obtain ⟨otherMiddle, otherAfter, secondFirst, firstSecond, same⟩ := independent.commute firstDone secondDone
  obtain ⟨log, forth⟩ := runTokens_of_carryOut quiet firstWritten secondWritten firstDone secondDone
  obtain ⟨otherLog, back⟩ := runTokens_of_carryOut quiet secondWritten firstWritten secondFirst firstSecond
  rw [forth, back]
  exact ⟨rfl, same, rfl, rfl, rfl⟩

/-- `var(int) x = z;` and `y = z + 1;`, where `y` and `z` are declared. -/
theorem independent_statements_commute_shared :
    let first := Storing.declaration ⟨.identifier, "INT", ⟨1, 5⟩⟩ ⟨.identifier, "x", ⟨1, 10⟩⟩ ⟨.equal, "=", ⟨1, 12⟩⟩
      [⟨.identifier, "z", ⟨1, 14⟩⟩]
    let second := Storing.assignment ⟨.identifier, "y", ⟨2, 1⟩⟩
      [⟨.identifier, "z", ⟨2, 5⟩⟩, ⟨.plus, "+", ⟨2, 7⟩⟩, ⟨.number, "1", ⟨2, 9⟩⟩]
    let firstTokens : List Token := [⟨.varWord, "var", ⟨1, 1⟩⟩, ⟨.identifier, "INT", ⟨1, 5⟩⟩,
      ⟨.identifier, "x", ⟨1, 10⟩⟩, ⟨.equal, "=", ⟨1, 12⟩⟩, ⟨.identifier, "z", ⟨1, 14⟩⟩, ⟨.semicolon, ";", ⟨1, 15⟩⟩]
    let secondTokens : List Token := [⟨.identifier, "y", ⟨2, 1⟩⟩, ⟨.equal, "=", ⟨2, 3⟩⟩, ⟨.identifier, "z", ⟨2, 5⟩⟩,
      ⟨.plus, "+", ⟨2, 7⟩⟩, ⟨.number, "1", ⟨2, 9⟩⟩, ⟨.semicolon, ";", ⟨2, 10⟩⟩]
    let machine : Machine Transcript :=
      { store := ⟨[("y", ⟨.int, .integer 0⟩), ("z", ⟨.int, .integer 5⟩)]⟩, console := {} }
    machine.pending = [] ∧ Storing.Independent first second ∧ first.Written firstTokens ∧ second.Written secondTokens ∧
    (machine.runTokens {} (firstTokens ++ secondTokens)).1 = .ok () ∧
    (machine.runTokens {} (secondTokens ++ firstTokens)).1 = .ok () ∧
    SameState (machine.runTokens {} (secondTokens ++ firstTokens)).2
      (machine.runTokens {} (firstTokens ++ secondTokens)).2 := by
  intro first second firstTokens secondTokens machine
  have independent : Storing.Independent first second := by
    constructor <;> simp [first, second, Names, Storing.target, Storing.expression]
  have firstWritten : first.Written firstTokens :=
    @Storing.Written.intro first firstTokens.dropLast _ (by simp [firstTokens, Token.Waits]) rfl rfl
  have secondWritten : second.Written secondTokens :=
    @Storing.Written.intro second secondTokens.dropLast _ (by simp [secondTokens, Token.Waits]) rfl rfl
  have succeeded : (machine.runTokens {} (firstTokens ++ secondTokens)).1 = .ok () := by decide +kernel
  exact ⟨rfl, independent, firstWritten, secondWritten, succeeded,
    (independent_statements_commute {} machine).2 first second _ _ rfl independent firstWritten secondWritten succeeded⟩

end Machine

end Run

end StreamScript
