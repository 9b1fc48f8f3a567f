import StreamScript.Proofs.MachineRuns

/-! Where the faults of a run come from. Each fault belongs to one part of the work, and each function raises
faults of few parts only. The lists compose: a statement raises what its steps raise. -/

namespace StreamScript.Run

/-- The part of the work that a fault belongs to. -/
inductive Origin where
  | declaration
  | target
  | type
  | library
  | expression
  | input
  | console
  | form
  | stream
deriving Repr, DecidableEq

@[simp] def Fault.origin : Fault → Origin
  | alreadyDeclared _ => .declaration
  | missingEqual _ => .declaration
  | malformedDeclaration => .declaration
  | undeclared _ => .target
  | unknownType _ => .type
  | typeMismatch .. => .type
  | notImported _ => .library
  | undefinedReference _ => .expression
  | libraryAsValue _ => .expression
  | invalidIntegerLiteral _ => .expression
  | invalidFloatLiteral _ => .expression
  | emptyExpression => .expression
  | missingOperand _ => .expression
  | danglingOperands _ => .expression
  | evaluation _ => .expression
  | unsupportedInputType _ => .input
  | invalidIntegerInput _ => .input
  | inputExhausted => .input
  | console _ => .console
  | unknownStatement _ => .form
  | stream _ => .stream

@[simp] theorem Error.fault_ofToken (token : Token) (fault : Fault) : (Error.ofToken token fault).fault = fault := rfl

/-- If the result is an error, it is one of these. -/
def FailsOnly {α : Type} (allowed : Error → Prop) (result : Except Error α) : Prop :=
  ∀ error, result = .error error → allowed error

namespace FailsOnly

variable {α β : Type} {allowed : Error → Prop}

theorem ok (value : α) : FailsOnly allowed (.ok value) := by
  intro error impossible
  cases impossible

theorem error {error : Error} (isAllowed : allowed error) : FailsOnly allowed (.error error : Except Error α) := by
  intro raised same
  cases same
  exact isAllowed

theorem bind {first : Except Error α} {next : α → Except Error β} (begins : FailsOnly allowed first)
    (continues : ∀ value, FailsOnly allowed (next value)) : FailsOnly allowed (first >>= next) := by
  cases first with
  | error fault => exact error (begins fault rfl)
  | ok value => exact continues value

theorem map {result : Except Error α} (change : α → β) (fails : FailsOnly allowed result) :
    FailsOnly allowed (result.map change) := by
  cases result with
  | error fault => exact error (fails fault rfl)
  | ok value => exact ok (change value)

theorem mono {more : Error → Prop} {result : Except Error α} (fails : FailsOnly allowed result)
    (within : ∀ error, allowed error → more error) : FailsOnly more result :=
  fun error raised => within error (fails error raised)

end FailsOnly

/-- Every fault of the result comes from one of these parts. -/
def Raises {α : Type} (origins : List Origin) (result : Except Error α) : Prop :=
  ∀ error, result = .error error → error.fault.origin ∈ origins

namespace Raises

variable {α β : Type} {origins more : List Origin}

theorem ok (value : α) : Raises origins (.ok value) := FailsOnly.ok value

theorem error {error : Error} (origin : error.fault.origin ∈ origins) :
    Raises origins (.error error : Except Error α) :=
  FailsOnly.error origin

theorem bind {first : Except Error α} {next : α → Except Error β} (begins : Raises origins first)
    (continues : ∀ value, Raises origins (next value)) : Raises origins (first >>= next) :=
  FailsOnly.bind begins continues

theorem map {result : Except Error α} (change : α → β) (raises : Raises origins result) :
    Raises origins (result.map change) :=
  FailsOnly.map change raises

theorem mono {result : Except Error α} (raises : Raises origins result) (within : origins ⊆ more) :
    Raises more result :=
  fun fault raised => within (raises fault raised)

theorem failsOnly {allowed : Error → Prop} {result : Except Error α} (raises : Raises origins result)
    (own : ∀ error, error.fault.origin ∈ more → allowed error) (within : origins ⊆ more) : FailsOnly allowed result :=
  fun error raised => own error (within (raises error raised))

end Raises

/-- The fault is about applying an operator to the values before it. -/
def Fault.ofApplying : Fault → Bool
  | missingOperand _ => true
  | evaluation _ => true
  | _ => false

/-- The fault is about putting values together, whatever the operands are. -/
def Fault.ofOperators : Fault → Bool
  | emptyExpression => true
  | missingOperand _ => true
  | danglingOperands _ => true
  | evaluation _ => true
  | _ => false

theorem Fault.origin_of_ofOperators {fault : Fault} (combining : fault.ofOperators = true) :
    fault.origin = .expression := by
  cases fault with
  | emptyExpression | missingOperand | danglingOperands | evaluation => rfl
  | _ => cases combining

theorem Fault.ofOperators_of_ofApplying {fault : Fault} (applying : fault.ofApplying = true) :
    fault.ofOperators = true := by
  cases fault with
  | missingOperand | evaluation => rfl
  | _ => cases applying

/-! An expression fails over one of its operands or over putting values together: over an operator on the way, or at
the end over what is left. -/

section Applying

variable {allowed : Error → Prop} (applying : ∀ error, error.fault.ofApplying = true → allowed error)

include applying

theorem applyTop_failsOnly (top : Waiting) (values : List Value) : FailsOnly allowed (applyTop top values) := by
  unfold applyTop
  split
  · split
    · exact .ok _
    · exact .error (applying _ rfl)
  · exact .error (applying _ rfl)

theorem unwind_failsOnly (precedence : Nat) (values : List Value) (waiting : List Waiting) :
    FailsOnly allowed (unwind precedence values waiting) := by
  induction waiting generalizing values with
  | nil => exact .ok _
  | cons top rest ih =>
    have applied := applyTop_failsOnly applying top values
    unfold unwind
    split
    · exact .ok _
    · split
      next after _ => exact ih after
      next error failed => exact .error (applied error failed)

variable {store : Store} {imports : List String}

theorem feed_failsOnly (state : Stacks) {token : Token} (known : FailsOnly allowed (operand store imports token)) :
    FailsOnly allowed (feed store imports state token) := by
  unfold feed
  split
  · apply FailsOnly.bind (unwind_failsOnly applying _ _ _)
    intro unwound
    exact .ok _
  · apply FailsOnly.bind known
    intro value
    cases value <;> exact .ok _

theorem feedAll_failsOnly (state : Stacks) {tokens : List Token}
    (known : ∀ token ∈ tokens, FailsOnly allowed (operand store imports token)) :
    FailsOnly allowed (feedAll store imports state tokens) := by
  induction tokens generalizing state with
  | nil => exact .ok _
  | cons token rest ih =>
    have fed := feed_failsOnly applying state (known token (List.mem_cons_self ..))
    unfold feedAll
    split
    next after _ => exact ih after fun other member => known other (List.mem_cons_of_mem _ member)
    next error failed => exact .error (fed error failed)

end Applying

section Combining

variable {allowed : Error → Prop} (combining : ∀ error, error.fault.ofOperators = true → allowed error)

include combining

theorem soleValue_failsOnly (place : Option Position) (values : List Value) :
    FailsOnly allowed (soleValue place values) := by
  unfold soleValue
  split
  · exact .ok _
  · exact .error (combining _ rfl)
  · exact .error (combining _ rfl)

theorem evaluate_failsOnly {store : Store} {imports : List String} {tokens : List Token}
    (known : ∀ token ∈ tokens, FailsOnly allowed (operand store imports token)) :
    FailsOnly allowed (evaluate store imports tokens) := by
  have applying : ∀ error : Error, error.fault.ofApplying = true → allowed error :=
    fun error applied => combining error (Fault.ofOperators_of_ofApplying applied)
  apply FailsOnly.bind (feedAll_failsOnly applying {} known)
  intro state
  apply FailsOnly.bind (unwind_failsOnly applying 0 state.values state.waiting)
  intro unwound
  exact soleValue_failsOnly combining _ unwound.values

end Combining

section Expressions

variable (store : Store) (imports : List String)

/-- What an operand can fail over, apart from the name of the library. -/
theorem operand_raises_of_library {origins : List Origin} (expression : .expression ∈ origins)
    (library : (libraryFault imports).origin ∈ origins) (token : Token) :
    Raises origins (operand store imports token) := by
  unfold operand
  split
  · split
    · exact .ok _
    · exact .error expression
  · split
    · exact .ok _
    · exact .error expression
  · exact .ok _
  · exact .ok _
  · exact .ok _
  · split
    · exact .error library
    · split
      · exact .ok _
      · exact .error expression
  · exact .ok _

theorem operand_raises (token : Token) : Raises [.library, .expression] (operand store imports token) := by
  apply operand_raises_of_library
  · simp
  · rw [libraryFault]
    split <;> simp

theorem evaluate_raises (tokens : List Token) : Raises [.library, .expression] (evaluate store imports tokens) := by
  apply evaluate_failsOnly
  · intro error combining
    rw [Fault.origin_of_ofOperators combining]
    simp
  · intro token _
    exact operand_raises store imports token

end Expressions

section Statements

variable (vars : Store) (imports : List String)

theorem checkType_raises (name : Token) (type : ValueType) (value : Value) :
    Raises [.type] (checkType name type value) := by
  unfold checkType
  split
  · exact .ok _
  · exact .error (by simp)

theorem declaredType_raises (name : Token) : Raises [.target] (declaredType vars name) := by
  unfold declaredType
  split
  · exact .ok _
  · exact .error (by simp)

theorem requireOutput_raises (library : Token) : Raises [.library] (requireOutput imports library) := by
  unfold requireOutput
  split
  · exact .ok _
  · exact .error (by simp)

theorem put_raises (name : Token) (type : ValueType) (value : Value) :
    Raises [.target, .type] (put vars name type value) := by
  apply Raises.bind ((checkType_raises name type value).mono (by simp))
  intro _
  split
  · exact .ok _
  · exact .error (by simp)

theorem namedType_raises (type : Token) : Raises [.type] (namedType type) := by
  unfold namedType
  split
  · exact .ok _
  · exact .error (by simp)

/-- A declaration of the right form for a new name can only fail over its value and its type. -/
theorem declare_raises_of_form {type name separator : Token} (value : List Token)
    (typed : type.is .identifier = true) (named : name.is .identifier = true) (equals : separator.is .equal = true)
    (fresh : vars.contains name.literal = false) :
    Raises [.library, .expression, .type] (declare vars imports type name separator value) := by
  simp only [declare, typed, named, equals, fresh]
  apply Raises.bind ((evaluate_raises vars imports value).mono (by simp))
  intro result
  apply Raises.bind ((namedType_raises type).mono (by simp))
  intro found
  apply Raises.bind ((checkType_raises name found result).mono (by simp))
  intro _
  exact .ok _

/-- A declaration or an assignment fails over its value or over its own form. -/
theorem declare_failsOnly {allowed : Error → Prop}
    (own : ∀ error, error.fault.origin ∈ [.declaration, .type] → allowed error) {value : List Token}
    (evaluates : FailsOnly allowed (evaluate vars imports value)) (type name separator : Token) :
    FailsOnly allowed (declare vars imports type name separator value) := by
  unfold declare
  split
  · exact .error (own _ (by simp))
  · split
    · exact .error (own _ (by simp))
    · split
      · exact .error (own _ (by simp))
      · apply FailsOnly.bind evaluates
        intro result
        apply FailsOnly.bind ((namedType_raises type).failsOnly own (by simp))
        intro found
        apply FailsOnly.bind ((checkType_raises name found result).failsOnly own (by simp))
        intro _
        exact .ok _

theorem assign_failsOnly {allowed : Error → Prop}
    (own : ∀ error, error.fault.origin ∈ [.target, .type] → allowed error) {value : List Token}
    (evaluates : FailsOnly allowed (evaluate vars imports value)) (name : Token) :
    FailsOnly allowed (assign vars imports name value) := by
  apply FailsOnly.bind ((declaredType_raises vars name).failsOnly own (by simp))
  intro type
  apply FailsOnly.bind evaluates
  intro result
  exact (put_raises vars name type result).failsOnly own (List.Subset.refl _)

theorem inputValue_raises (inputType : Token) (line : String) : Raises [.input] (inputValue inputType line) := by
  unfold inputValue
  split
  · split
    · exact .ok _
    · exact .error (by simp)
  · exact .ok _
  · exact .error (by simp)

theorem enter_raises (name inputType : Token) (type : ValueType) (line : String) :
    Raises [.target, .input, .type] (enter vars name inputType type line) := by
  apply Raises.bind ((inputValue_raises inputType line).mono (by simp))
  intro value
  exact (put_raises vars name type value).mono (by simp)

theorem promptedType_failsOnly {allowed : Error → Prop} {library : Token}
    (own : ∀ error, error.fault.origin ∈ [.target] → allowed error)
    (requires : FailsOnly allowed (requireOutput imports library)) (name : Token) :
    FailsOnly allowed (promptedType vars imports name library) := by
  apply FailsOnly.bind ((declaredType_raises vars name).failsOnly own (List.Subset.refl _))
  intro type
  apply FailsOnly.bind requires
  intro _
  exact .ok _

theorem callText_failsOnly {allowed : Error → Prop} {library argument : Token}
    (unknown : allowed (.ofToken argument (.undefinedReference argument.literal)))
    (requires : FailsOnly allowed (requireOutput imports library))
    (evaluates : FailsOnly allowed (evaluate vars imports [argument])) :
    FailsOnly allowed (callText vars imports library argument) := by
  apply FailsOnly.bind requires
  intro _
  unfold argumentText
  split
  · exact .ok _
  · split
    · split
      · exact .ok _
      · exact .error unknown
    · exact .map _ evaluates

end Statements

/-- The parts of the work that a statement can fail in. -/
def Statement.origins : Statement → List Origin
  | declaration .. => [.declaration, .library, .expression, .type]
  | prompted .. => [.target, .library, .console, .input, .type]
  | assignment .. => [.target, .library, .expression, .type]
  | call .. => [.library, .expression, .console]
  | print _ => [.console]
  | unrecognized _ => [.form]

namespace Machine

variable {κ : Type}

theorem update_fst (machine : Machine κ) (result : Except Error Store) :
    (machine.update result).1 = result.map fun _ => () := by
  cases result <;> rfl

theorem settle_raises {α : Type} (machine : Machine κ) (token : Token) (answer : Except String α × κ) :
    Raises [.console] (machine.settle token answer).1 := by
  rcases answer with ⟨message | value, console⟩
  · exact .error (by simp)
  · exact .ok value

variable [Console κ] (settings : Settings) (machine : Machine κ)

theorem writeText_raises (token : Token) (method : Method) (text : String) :
    Raises [.console] (machine.writeText token method text).1 := by
  cases method <;> exact settle_raises machine token _

theorem ask_raises (prompt : Token) : Raises [.console, .input] (machine.ask prompt).1 := by
  have wrote := machine.settle_raises prompt (Console.write (prompt.literal ++ " ") machine.console)
  unfold ask
  generalize machine.settle prompt (Console.write (prompt.literal ++ " ") machine.console) = written at wrote
  rcases written with ⟨error | _, after⟩
  · exact (Raises.error (wrote error rfl)).mono (by simp)
  · have read := after.settle_raises prompt (Console.readLine after.console)
    simp only
    generalize after.settle prompt (Console.readLine after.console) = answered at read
    rcases answered with ⟨error | line, last⟩
    · exact (Raises.error (read error rfl)).mono (by simp)
    · cases line with
      | none => exact .error (by simp)
      | some line => exact .ok line

/-- A statement fails over an expression, over the library or over the rest of its work. -/
theorem execute_failsOnly {allowed : Error → Prop} (statement : Statement)
    (own : ∀ error, error.fault.origin ∈ statement.origins → error.fault.origin ≠ .library → allowed error)
    (requires : .library ∈ statement.origins → ∀ library, FailsOnly allowed (requireOutput machine.imports library))
    (evaluates : .expression ∈ statement.origins →
      ∀ tokens, FailsOnly allowed (evaluate machine.store machine.imports tokens)) :
    FailsOnly allowed (machine.execute settings statement).1 := by
  have rest : ∀ {origins : List Origin}, origins ⊆ statement.origins → .library ∉ origins →
      ∀ error : Error, error.fault.origin ∈ origins → allowed error := by
    intro origins within apart error inside
    exact own error (within inside) fun missing => apart (missing ▸ inside)
  have execution := execute_cases settings machine statement
  generalize machine.execute settings statement = result at execution
  cases execution with
  | declared type name separator value =>
    rw [update_fst]
    exact .map _ (declare_failsOnly machine.store machine.imports (rest (by simp [Statement.origins]) (by simp))
      (evaluates (by simp [Statement.origins]) value) type name separator)
  | assigned name value =>
    rw [update_fst]
    exact .map _ (assign_failsOnly machine.store machine.imports (rest (by simp [Statement.origins]) (by simp))
      (evaluates (by simp [Statement.origins]) value) name)
  | @forbidden name library _ _ error refused =>
    have typed := promptedType_failsOnly machine.store machine.imports
      (rest (by simp [Statement.origins]) (by simp)) (requires (by simp [Statement.origins]) library) name
    exact .error (typed error refused)
  | @unanswered _ _ prompt _ _ error _ _ asked =>
    have unread := (machine.ask_raises prompt).failsOnly (rest (by simp [Statement.origins]) (by simp))
      (List.Subset.refl _)
    exact .error (unread error (congrArg Prod.fst asked))
  | @answered name _ _ inputType type line =>
    rw [update_fst]
    exact .map _ ((enter_raises machine.store name inputType type line).failsOnly
      (rest (by simp [Statement.origins]) (by simp)) (List.Subset.refl _))
  | @uncalled library argument _ error failed =>
    have made := callText_failsOnly machine.store machine.imports
      (own (.ofToken argument (.undefinedReference argument.literal)) (by simp [Statement.origins]) (by simp))
      (requires (by simp [Statement.origins]) library) (evaluates (by simp [Statement.origins]) [argument])
    exact .error (made error failed)
  | called | printed =>
    exact (machine.writeText_raises _ _ _).failsOnly (rest (by simp [Statement.origins]) (by simp))
      (List.Subset.refl _)
  | refused => exact .error (own _ (by simp [Statement.origins]) (by simp))
  | ignored => exact .ok ()

theorem execute_raises (statement : Statement) : Raises statement.origins (machine.execute settings statement).1 := by
  apply execute_failsOnly
  · intro error inside _
    exact inside
  · intro requires library
    exact (requireOutput_raises machine.imports library).mono (by simpa using requires)
  · intro evaluates tokens
    have requires : .library ∈ statement.origins := by cases statement <;> simp_all [Statement.origins]
    exact (evaluate_raises machine.store machine.imports tokens).mono (by simp [requires, evaluates])

end Machine

end StreamScript.Run
