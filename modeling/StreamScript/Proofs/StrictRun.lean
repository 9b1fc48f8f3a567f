import StreamScript.Proofs.CheckedRun
import StreamScript.Proofs.RunCourse
import StreamScript.Proofs.StepEffects
import StreamScript.Proofs.StoreTyping

/-! Declaration before assignment. The check takes a name for declared as soon as it has met `var` before it, wherever
that stands; a run declares a name only by a statement. A run that stops at unknown statements makes up for the
difference: a declaration inside another statement or without a value stops it. What is left is an import between
a name and its equals sign, where the check sees no assignment. -/

namespace StreamScript

namespace Scope

/-- An import stands right before an equals sign. -/
def ImportBeforeEqual (tokens : List Token) : Prop :=
  ∃ before library equal after, tokens = before ++ library :: equal :: after ∧ library.kind = .usingWord ∧
    equal.kind = .equal

theorem ImportBeforeEqual.append {tokens : List Token} (found : ImportBeforeEqual tokens) (earlier : List Token) :
    ImportBeforeEqual (earlier ++ tokens) := by
  obtain ⟨before, library, equal, after, rfl, isUsing, equals⟩ := found
  exact ⟨earlier ++ before, library, equal, after, by simp, isUsing, equals⟩

theorem ImportBeforeEqual.relocate {tokens : List Token} (found : ImportBeforeEqual tokens)
    (move : Position → Position) : ImportBeforeEqual (tokens.map (Token.relocate move)) := by
  obtain ⟨before, library, equal, after, rfl, isUsing, equals⟩ := found
  exact ⟨before.map (Token.relocate move), library.relocate move, equal.relocate move,
    after.map (Token.relocate move), by simp, isUsing, equals⟩

/-- An equals sign that comes next in the statement comes next in the program too. -/
theorem equal_next {behind rest value : List Token} {equal : Token}
    (statement : Run.statementOf behind = equal :: value) (equals : equal.kind = .equal)
    (apart : ¬ ImportBeforeEqual (behind ++ rest)) : ∃ tail, behind = equal :: tail := by
  induction behind with
  | nil => cases statement
  | cons first later ih =>
    by_cases isUsing : first.kind = .usingWord
    · rw [Run.statementOf_using isUsing] at statement
      obtain ⟨tail, rfl⟩ := ih statement fun found => apart (found.append [first])
      exact absurd ⟨[], first, equal, tail ++ rest, rfl, isUsing, equals⟩ apart
    · rw [Run.statementOf_other isUsing] at statement
      obtain ⟨rfl, _⟩ := List.cons.inj statement
      exact ⟨later, rfl⟩

/-- The check has looked at the name that a statement assigns to. -/
theorem WellScoped.assigned_known {declared : List String} {piece rest value : List Token} {name equal : Token}
    (inScope : WellScoped declared (piece ++ rest)) (apart : ¬ ImportBeforeEqual (piece ++ rest))
    (statement : Run.statementOf piece = name :: equal :: value) (named : name.kind = .identifier)
    (equals : equal.kind = .equal) : name.literal ∈ declared := by
  induction piece with
  | nil => cases statement
  | cons first later ih =>
    by_cases isUsing : first.kind = .usingWord
    · rw [Run.statementOf_using isUsing] at statement
      obtain ⟨_, inScope⟩ := inScope.of_other (by simp [isUsing])
      exact ih inScope (fun found => apart (found.append [first])) statement
    · rw [Run.statementOf_other isUsing] at statement
      obtain ⟨rfl, behind⟩ := List.cons.inj statement
      obtain ⟨tail, rfl⟩ := equal_next behind equals fun found => apart (found.append [first])
      obtain ⟨known, _⟩ := inScope.of_other (by simp [named])
      exact known (by simp [assigns, Token.is, named, equals])

end Scope

namespace Run

/-- The variable that a statement gives a new value to. -/
def Statement.assigned? : Statement → Option String
  | prompted name _ _ _ => some name.literal
  | assignment name _ => some name.literal
  | declaration .. => none
  | call .. => none
  | print _ => none
  | unrecognized _ => none

section Names

variable {store : Store} {imports : List String} {token : Token}

theorem operand_ok_contains {result : Option Value} (found : operand store imports token = .ok result)
    (named : token.kind = .identifier) : store.contains token.literal = true := by
  simp only [operand, named] at found
  split at found
  · cases found
  · split at found
    next value held =>
      obtain ⟨entry, entered, _⟩ := Option.map_eq_some_iff.mp held
      simp [Store.contains, entered]
    · cases found

theorem feed_ok_contains {state after : Stacks} (fed : feed store imports state token = .ok after)
    (named : token.kind = .identifier) : store.contains token.literal = true := by
  simp only [feed, named, Operator.ofKind?] at fed
  obtain ⟨result, found, _⟩ := bind_eq_ok fed
  exact operand_ok_contains found named

theorem feedAll_ok_contains {tokens : List Token} {state after : Stacks}
    (fed : feedAll store imports state tokens = .ok after) (member : token ∈ tokens)
    (named : token.kind = .identifier) : store.contains token.literal = true := by
  induction tokens generalizing state with
  | nil => cases member
  | cons first rest ih =>
    unfold feedAll at fed
    split at fed
    next middle taken =>
      rcases List.mem_cons.mp member with rfl | later
      · exact feed_ok_contains taken named
      · exact ih fed later
    · cases fed

/-- An expression that has a value mentions declared names only. -/
theorem evaluate_ok_contains {tokens : List Token} {value : Value}
    (evaluated : evaluate store imports tokens = .ok value)
    (member : token ∈ tokens) (named : token.kind = .identifier) : store.contains token.literal = true := by
  obtain ⟨state, fed, _⟩ := bind_eq_ok evaluated
  exact feedAll_ok_contains fed member named

end Names

section Outcomes

variable {before after : Store} {imports : List String} {name : Token} {value : List Token}

theorem declare_form {type separator : Token}
    (declared : declare before imports type name separator value = .ok after) :
    type.kind = .identifier ∧ name.kind = .identifier ∧ separator.kind = .equal ∧
      ∃ result, evaluate before imports value = .ok result := by
  unfold declare at declared
  split at declared
  · cases declared
  next typed =>
    split at declared
    · cases declared
    · split at declared
      · cases declared
      next equals =>
        obtain ⟨result, evaluated, _⟩ := bind_eq_ok declared
        simp [Token.is] at typed equals
        exact ⟨typed.1, typed.2, equals, result, evaluated⟩

theorem declare_contains {type separator : Token}
    (declared : declare before imports type name separator value = .ok after) : after.contains name.literal = true := by
  obtain ⟨named, result, _, made⟩ := declare_ok declared
  simp [Store.contains, Store.get?_declare? made]

theorem assign_evaluates (assigned : assign before imports name value = .ok after) :
    ∃ result, evaluate before imports value = .ok result := by
  obtain ⟨type, _, assigned⟩ := bind_eq_ok assigned
  obtain ⟨result, evaluated, _⟩ := bind_eq_ok assigned
  exact ⟨result, evaluated⟩

end Outcomes

section Declared

variable {vars : Store} {name : Token} (known : vars.contains name.literal = true)

include known

theorem declaredType_eq_ok : ∃ type, declaredType vars name = .ok type := by
  obtain ⟨found, held⟩ := Option.isSome_iff_exists.mp known
  exact ⟨found.type, by simp only [declaredType, held]⟩

theorem put_raises_of_contains (type : ValueType) (value : Value) : Raises [.type] (put vars name type value) := by
  apply Raises.bind (checkType_raises name type value)
  intro _
  simp only [Store.assign?, known, if_true]
  exact .ok _

theorem assign_raises_of_contains (imports : List String) (value : List Token) :
    Raises [.library, .expression, .type] (assign vars imports name value) := by
  obtain ⟨type, declared⟩ := declaredType_eq_ok known
  simp only [assign, declared]
  apply Raises.bind ((evaluate_raises vars imports value).mono (by simp))
  intro result
  exact (put_raises_of_contains known type result).mono (by simp)

theorem promptedType_raises_of_contains (imports : List String) (library : Token) :
    Raises [.library] (promptedType vars imports name library) := by
  obtain ⟨type, declared⟩ := declaredType_eq_ok known
  simp only [promptedType, declared]
  apply Raises.bind (requireOutput_raises imports library)
  intro _
  exact .ok _

theorem enter_raises_of_contains (inputType : Token) (type : ValueType) (line : String) :
    Raises [.input, .type] (enter vars name inputType type line) := by
  apply Raises.bind ((inputValue_raises inputType line).mono (by simp))
  intro value
  exact (put_raises_of_contains known type value).mono (by simp)

end Declared

namespace Machine

variable {κ : Type} [Console κ] {settings : Settings} {machine : Machine κ} {tokens : List Token}
  {statement : Statement}

omit [Console κ] in
theorem update_ok {result : Except Error Store} (succeeded : (machine.update result).1 = .ok ()) :
    ∃ store, result = .ok store ∧ (machine.update result).2.store = store := by
  cases result with
  | ok store => exact ⟨store, rfl, rfl⟩
  | error error => cases succeeded

/-- A statement that assigns to a declared variable has other reasons to fail. -/
theorem execute_raises_of_contains {target : String} (assigns : statement.assigned? = some target)
    (known : machine.store.contains target = true) :
    Raises [.library, .expression, .console, .input, .type] (machine.execute settings statement).1 := by
  have execution := execute_cases settings machine statement
  generalize machine.execute settings statement = result at execution
  cases execution with
  | declared | uncalled | called | printed | refused | ignored => cases assigns
  | assigned =>
    cases assigns
    rw [update_fst]
    exact ((assign_raises_of_contains known machine.imports _).mono (by simp)).map _
  | forbidden _ _ refused =>
    cases assigns
    exact (Raises.error (promptedType_raises_of_contains known machine.imports _ _ refused)).mono (by simp)
  | unanswered _ _ asked =>
    exact (Raises.error (machine.ask_raises _ _ (congrArg Prod.fst asked))).mono (by simp)
  | answered =>
    cases assigns
    rw [update_fst]
    exact ((enter_raises_of_contains known _ _ _).mono (by simp)).map _

/-- Only an undeclared variable is found to be undeclared. -/
theorem execute_target_fault {error : Error} (failed : (machine.execute settings statement).1 = .error error)
    (origin : error.fault.origin = .target) :
    ∃ target, statement.assigned? = some target ∧ machine.store.contains target = false := by
  have raised := execute_raises settings machine statement error failed
  rw [origin] at raised
  cases assigns : statement.assigned? with
  | none => cases statement <;> simp [Statement.assigned?, Statement.origins] at assigns raised
  | some target =>
    refine ⟨target, rfl, ?_⟩
    rw [← Bool.not_eq_true]
    intro known
    have within := execute_raises_of_contains assigns known error failed
    rw [origin] at within
    exact absurd within (by decide)

/-- A row of tokens that begins with `var` lies behind all tokens that are not `var`. -/
private theorem strays_behind {head front back value : List Token} {var : Token} (isVar : var.kind = .varWord)
    (plain : ∀ token ∈ head, token.kind ≠ .varWord) (same : front ++ var :: back = head ++ value) :
    ∃ before, value = before ++ var :: back := by
  rcases List.append_eq_append_iff.mp same with ⟨more, rfl, tail⟩ | ⟨before, _, tail⟩
  · cases more with
    | nil => exact ⟨[], tail.symm⟩
    | cons first more =>
      obtain ⟨rfl, _⟩ := List.cons.inj tail
      exact absurd isVar (plain _ (by simp))
  · exact ⟨before, tail⟩

/-- Where a declaration strays in a statement, a strict execution fails: the form of the statement has no room for
it, or its new name is looked up. -/
theorem not_strays_of_execute (strict : settings.strict = true) {declared : List String}
    (recognized : Statement.classify tokens = some statement) (knows : machine.Knows declared)
    (succeeded : (machine.execute settings statement).1 = .ok ()) : ¬ Scope.Strays declared tokens := by
  rintro ⟨first, front, var, type, name, back, shape, isVar, named, fresh⟩
  have unknown : ¬ machine.store.contains name.literal = true := fun known => fresh (knows _ known)
  cases Statement.classify_form recognized with
  | @declaration _ type' name' separator value =>
    obtain ⟨after, declared, _⟩ := update_ok succeeded
    obtain ⟨typed', named', equals, result, evaluated⟩ := declare_form declared
    have plain : ∀ token ∈ [type', name', separator], token.kind ≠ .varWord := by simp [typed', named', equals]
    obtain ⟨before, rfl⟩ := strays_behind isVar plain (List.cons.inj shape).2.symm
    exact unknown (evaluate_ok_contains evaluated (by simp) named)
  | @assignment name' equal value _ equals =>
    obtain ⟨after, assigned, _⟩ := update_ok succeeded
    obtain ⟨result, evaluated⟩ := assign_evaluates assigned
    have plain : ∀ token ∈ [equal], token.kind ≠ .varWord := by simp [equals]
    obtain ⟨before, rfl⟩ := strays_behind isVar plain (List.cons.inj shape).2.symm
    exact unknown (evaluate_ok_contains evaluated (by simp) named)
  | prompted kinds =>
    have inside : var.kind ∈ (first :: (front ++ var :: type :: name :: back)).map Token.kind := by simp
    rw [← shape, kinds, isVar] at inside
    exact absurd inside (by decide)
  | @call library dot word opening argument closing method kinds called =>
    have plain : ∀ token ∈ [dot, word, opening], token.kind ≠ .varWord := by
      simp only [List.map_cons, List.map_nil, List.cons.injEq] at kinds
      rcases called with called | called <;> simp [kinds, called]
    obtain ⟨before, short⟩ := strays_behind isVar plain (List.cons.inj shape).2.symm
    have lengths := congrArg List.length short
    simp at lengths
    omega
  | print prints =>
    have lengths := congrArg List.length shape
    simp at lengths
    omega
  | unrecognized =>
    simp only [execute, strict, if_true] at succeeded
    cases succeeded

theorem execute_keeps (known : String) (contains : machine.store.contains known = true) :
    (machine.execute settings statement).2.store.contains known = true := by
  obtain ⟨found, held⟩ := Option.isSome_iff_exists.mp contains
  obtain ⟨later, heldLater, _⟩ := (execute_change settings machine statement).grows.types known found held
  simp [Store.contains, heldLater]

/-- After a strict execution all names are declared that the check has met by then. -/
theorem execute_declares (strict : settings.strict = true) {declared later : List String}
    (recognized : Statement.classify tokens = some statement) (introduced : Scope.Introduces declared later tokens)
    (knows : machine.Knows declared) (declares : ∀ name ∈ declared, machine.store.contains name = true)
    (succeeded : (machine.execute settings statement).1 = .ok ()) :
    ∀ name ∈ later, (machine.execute settings statement).2.store.contains name = true := by
  intro known member
  rcases introduced known member with old | ⟨var, type, name, separator, value, rfl, isVar, rfl⟩ | strays
  · exact execute_keeps known (declares known old)
  · cases Statement.classify_form recognized with
    | declaration =>
      obtain ⟨after, declared, stored⟩ := update_ok succeeded
      rw [execute, stored]
      exact declare_contains declared
    | assignment named => exact absurd (named.symm.trans isVar) (by decide)
    | prompted kinds =>
      rw [List.map_cons, isVar] at kinds
      cases kinds
    | call kinds =>
      rw [List.map_cons, isVar] at kinds
      cases kinds
    | unrecognized =>
      simp only [execute, strict, if_true] at succeeded
      cases succeeded
  · exact absurd strays (not_strays_of_execute strict recognized knows succeeded)

theorem dispatch_declares (strict : settings.strict = true) {declared later : List String}
    (introduced : Scope.Introduces declared later tokens) (knows : machine.Knows declared)
    (declares : ∀ name ∈ declared, machine.store.contains name = true)
    (succeeded : (machine.dispatch settings tokens).1 = .ok ()) :
    ∀ name ∈ later, (machine.dispatch settings tokens).2.store.contains name = true := by
  cases recognized : Statement.classify tokens with
  | none =>
    rw [dispatch_nothing settings machine recognized]
    obtain rfl : tokens = [] := by
      cases tokens with
      | nil => rfl
      | cons first rest => simp [Statement.classify] at recognized
    intro known member
    rcases introduced known member with old | ⟨_, _, _, _, _, impossible, _⟩ | ⟨_, _, _, _, _, _, impossible, _⟩
    · exact declares known old
    · cases impossible
    · cases impossible
  | some statement =>
    obtain ⟨log, executes⟩ := dispatch_recognized settings machine recognized
    rw [executes] at succeeded ⊢
    have same : Knows { machine with log } declared := knows
    exact execute_declares strict recognized introduced same declares succeeded

/-- A strict run that is in the middle of a statement. Every name that the check had met up to the beginning of the
statement is declared. -/
structure Provided (declared : List String) (machine : Machine κ) (read unread : List Token) : Prop
    extends Foreseen declared machine read unread where
  declares : ∀ name ∈ declared, machine.store.contains name = true
  apart : ¬ Scope.ImportBeforeEqual (read ++ unread)

namespace Provided

variable {declared : List String} {machine after : Machine κ} {token : Token} {read rest : List Token}

theorem step (strict : settings.strict = true) (provided : Provided declared machine read (token :: rest))
    (moved : machine.step settings token = (.ok .running, after)) :
    ∃ later read, Provided later after read rest := by
  have apart : ¬ Scope.ImportBeforeEqual (read ++ [token] ++ rest) := by simpa using provided.apart
  rcases kind_cases token with isEnd | isUsing | isSemicolon | waits
  · rw [step_endOfFile settings machine token isEnd] at moved
    cases moved
  · rw [step_usingWord settings machine token isUsing] at moved
    cases moved
    refine ⟨declared, read ++ [token], provided.toForeseen.importing settings isUsing, ?_, apart⟩
    obtain ⟨log, imports, imported⟩ := machine.importing_frame settings token
    rw [imported]
    exact provided.declares
  · rw [step_semicolon settings machine token isSemicolon] at moved
    obtain ⟨later, grown, inScope, announced, introduced⟩ := provided.inScope.piece isSemicolon
    rw [← provided.pending] at announced introduced
    have knows : machine.cleared.Knows declared := provided.knows
    obtain ⟨_, knowsLater⟩ := dispatch_announced settings announced grown knows
    have declares := @dispatch_declares κ _ settings machine.cleared machine.pending strict declared later introduced
      knows provided.declares
    have emptied := dispatch_cleared settings machine machine.pending
    generalize machine.cleared.dispatch settings machine.pending = ended at *
    obtain ⟨_ | _, last⟩ := ended
    · cases moved
    · cases moved
      refine ⟨later, [], ⟨inScope, emptied, knowsLater⟩, declares rfl, ?_⟩
      exact fun found => apart (found.append (read ++ [token]))
  · rw [step_waits settings machine token waits] at moved
    cases moved
    exact ⟨declared, read ++ [token], provided.toForeseen.holding waits, provided.declares, apart⟩

omit [Console κ] in
/-- The statement that is completed next assigns to a declared variable only. -/
theorem assigned_contains (provided : Provided declared machine read (token :: rest)) {statement : Statement}
    (completes : machine.completed? token = some statement) {target : String}
    (assigns : statement.assigned? = some target) : machine.store.contains target = true := by
  unfold completed? at completes
  split at completes
  · apply provided.declares
    have known (name equal : Token) (value : List Token) (same : machine.pending = name :: equal :: value)
        (named : name.kind = .identifier) (equals : equal.kind = .equal) : name.literal ∈ declared :=
      provided.inScope.assigned_known provided.apart (provided.pending.symm.trans same) named equals
    generalize pending : machine.pending = tokens at completes known
    cases Statement.classify_form completes with
    | assignment named equals =>
      cases assigns
      exact known _ _ _ rfl named equals
    | prompted kinds =>
      cases assigns
      simp only [List.map_cons, List.map_nil, List.cons.injEq] at kinds
      exact known _ _ _ rfl kinds.1 kinds.2.1
    | declaration | call | print | unrecognized => cases assigns
  · cases completes

theorem reaches (strict : settings.strict = true) {items left : List Stream.Item} {point : Machine κ}
    (reaches : Reaches settings machine items point left) {unread : List Token} (given : items = unread.map .ok)
    (provided : Provided declared machine read unread) :
    ∃ later read unread, left = unread.map .ok ∧ Provided later point read unread := by
  induction reaches generalizing declared read unread with
  | here => exact ⟨declared, read, unread, given, provided⟩
  | step moved _ ih =>
    obtain ⟨token, rest, rfl, same, remaining⟩ := List.map_eq_cons_iff.mp given.symm
    cases same
    obtain ⟨later, read, next⟩ := provided.step strict moved
    exact ih remaining.symm next

end Provided

omit [Console κ] in
theorem provided_start {tokens : List Token} (inScope : Scope.WellScoped [] tokens)
    (apart : ¬ Scope.ImportBeforeEqual tokens) (console : κ) (log : List Diagnostic) :
    Provided [] { console, log } [] tokens := by
  refine ⟨⟨inScope, rfl, ?_⟩, ?_, apart⟩
  · intro name known
    cases known
  · intro name member
    cases member

/-- No statement on the way of a strict run assigns to an undeclared variable. -/
theorem reaches_assigned_contains (strict : settings.strict = true) {tokens : List Token}
    (inScope : Scope.WellScoped [] tokens) (apart : ¬ Scope.ImportBeforeEqual tokens) {console : κ}
    {log : List Diagnostic} {point : Machine κ} {token : Token} {left : List Stream.Item}
    (reaches : Reaches settings { console, log } (tokens.map .ok) point (.ok token :: left)) {statement : Statement}
    (completes : point.completed? token = some statement) {target : String}
    (assigns : statement.assigned? = some target) : point.store.contains target = true := by
  obtain ⟨later, read, unread, same, provided⟩ := Provided.reaches strict reaches rfl
    (provided_start inScope apart console log)
  obtain ⟨next, rest, rfl, same, _⟩ := List.map_eq_cons_iff.mp same.symm
  cases same
  exact provided.assigned_contains completes assigns

/-- A run that fails over an undeclared variable has met a statement that assigns to one. -/
theorem run_target_fault {items : List Stream.Item} {error : Error}
    (failed : (machine.run settings items).1 = .error error) (origin : error.fault.origin = .target) :
    ∃ point semicolon left statement target, Reaches settings machine items point (.ok semicolon :: left) ∧
      point.completed? semicolon = some statement ∧ statement.assigned? = some target ∧
      point.store.contains target = false := by
  rw [run_fst] at failed
  obtain ⟨point, left, reaches, fails⟩ := drive_failsAt failed
  cases fails with
  | badLine same =>
    rw [same] at origin
    cases origin
  | @statement semicolon left ends broken =>
    obtain ⟨statement, log, recognized, broken⟩ := dispatch_error broken
    obtain ⟨target, assigns, unknown⟩ := execute_target_fault broken origin
    have completes : point.completed? semicolon = some statement := by
      simpa [completed?, Token.is, ends] using recognized
    exact ⟨point, semicolon, left, statement, target, reaches, completes, assigns, unknown⟩

/-- A strict run of a program that passes the check fails over an undeclared variable only if an import parts a name
from its equals sign. In every other such program, each statement that the run comes to and that assigns a value,
computed or asked for, assigns it to a declared variable. -/
theorem strict_run_assigns_declared (strict : settings.strict = true) {tokens : List Token}
    (accepted : Scope.check tokens = .ok ()) {items : List Stream.Item}
    (given : items = tokens.map .ok ∨ items = Stream.items (Stream.encode tokens)) (console : κ)
    (log : List Diagnostic) :
    (∀ error name, (run settings { console, log } items).1 = .error error → error.fault = .undeclared name →
      Scope.ImportBeforeEqual tokens) ∧
    (¬ Scope.ImportBeforeEqual tokens → ∀ point token left statement target,
      Reaches settings { console, log } items point (.ok token :: left) →
      point.completed? token = some statement → statement.assigned? = some target →
      point.store.contains target = true) := by
  have inScope := Scope.wellScoped_of_checkFrom accepted
  obtain ⟨shown, rfl, inScope, parted⟩ : ∃ shown : List Token, items = shown.map .ok ∧ Scope.WellScoped [] shown ∧
      (Scope.ImportBeforeEqual shown → Scope.ImportBeforeEqual tokens) := by
    rcases given with direct | persisted
    · exact ⟨tokens, direct, inScope, id⟩
    · rw [← numbered_relocate tokens] at inScope
      refine ⟨Stream.numbered tokens, persisted.trans (Stream.items_encode tokens), inScope.of_relocate, ?_⟩
      intro found
      have moved := found.relocate (placeOfLine tokens)
      rwa [numbered_relocate] at moved
  have never (apart : ¬ Scope.ImportBeforeEqual tokens) (point : Machine κ) (token : Token)
      (left : List Stream.Item) (statement : Statement) (target : String)
      (reaches : Reaches settings { console, log } (shown.map .ok) point (.ok token :: left))
      (completes : point.completed? token = some statement) (assigns : statement.assigned? = some target) :
      point.store.contains target = true :=
    reaches_assigned_contains strict inScope (fun found => apart (parted found)) reaches completes assigns
  refine ⟨?_, never⟩
  intro error name failed fault
  by_contra apart
  obtain ⟨point, token, left, statement, target, reaches, completes, assigns, unknown⟩ :=
    run_target_fault failed (by rw [fault]; rfl)
  have known := never apart point token left statement target reaches completes assigns
  exact absurd known (by simp [unknown])

/-- An import parts a name from its equals sign, and the name is undeclared when it is assigned to. Without the import
the name must be declared first, and then it has a value when it is assigned to. -/
theorem strict_run_assigns_declared_parted :
    let settings : Settings := { strict := true }
    let start : Machine Transcript := { console := {}, log := [] }
    let parted : List Token :=
      [⟨.identifier, "x", ⟨1, 1⟩⟩, ⟨.usingWord, "Output", ⟨1, 3⟩⟩, ⟨.equal, "=", ⟨2, 1⟩⟩, ⟨.number, "1", ⟨2, 3⟩⟩,
      ⟨.semicolon, ";", ⟨2, 4⟩⟩]
    let declared : List Token :=
      [⟨.varWord, "var", ⟨1, 1⟩⟩, ⟨.identifier, "INT", ⟨1, 5⟩⟩, ⟨.identifier, "x", ⟨1, 10⟩⟩, ⟨.equal, "=", ⟨1, 12⟩⟩,
      ⟨.number, "1", ⟨1, 14⟩⟩, ⟨.semicolon, ";", ⟨1, 15⟩⟩]
    let assigning : List Token :=
      [⟨.identifier, "x", ⟨2, 1⟩⟩, ⟨.equal, "=", ⟨2, 3⟩⟩, ⟨.number, "2", ⟨2, 5⟩⟩]
    let semicolon : Token := ⟨.semicolon, ";", ⟨2, 6⟩⟩
    settings.strict = true ∧ Scope.check parted = .ok () ∧
    (start.runTokens settings parted).1 = .error ⟨.undeclared "x", some ⟨1, 1⟩⟩ ∧ Scope.ImportBeforeEqual parted ∧
    Scope.check (declared ++ assigning ++ [semicolon]) = .ok () ∧
    ∃ point, Reaches settings start ((declared ++ assigning ++ [semicolon]).map .ok) point [.ok semicolon] ∧
      point.completed? semicolon = some (.assignment ⟨.identifier, "x", ⟨2, 1⟩⟩ [⟨.number, "2", ⟨2, 5⟩⟩]) ∧
      point.store.contains "x" = true := by
  intro settings start parted declared assigning semicolon
  have strict : settings.strict = true := rfl
  have accepted : Scope.check parted = .ok () := rfl
  have failed : (start.runTokens settings parted).1 = .error ⟨.undeclared "x", some ⟨1, 1⟩⟩ := rfl
  have passed : Scope.check (declared ++ assigning ++ [semicolon]) = .ok () := rfl
  refine ⟨strict, accepted, failed, ?_, passed, ?_⟩
  · exact (strict_run_assigns_declared strict accepted (.inl rfl) start.console []).1 _ _ failed rfl
  · have apart : ¬ Scope.ImportBeforeEqual (declared ++ assigning ++ [semicolon]) := by
      have none : ∀ token ∈ declared ++ assigning ++ [semicolon], token.kind ≠ .usingWord := by decide
      rintro ⟨before, library, equal, after, same, isUsing, _⟩
      exact none library (by simp [same]) isUsing
    have succeeded : (start.drive settings ((declared ++ assigning).map .ok)).1 = .ok () := by decide +kernel
    have reaches := drive_reaches succeeded rfl [.ok semicolon]
    have completes : (start.drive settings ((declared ++ assigning).map .ok)).2.completed? semicolon =
        some (.assignment ⟨.identifier, "x", ⟨2, 1⟩⟩ [⟨.number, "2", ⟨2, 5⟩⟩]) := by decide +kernel
    obtain ⟨_, always⟩ := strict_run_assigns_declared strict passed (.inl rfl) start.console []
    exact ⟨_, reaches, completes, always apart _ _ _ _ _ reaches completes rfl⟩

end Machine

end Run

end StreamScript
