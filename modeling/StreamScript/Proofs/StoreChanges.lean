import StreamScript.Proofs.MachineRuns

/-! What can happen to the variables. A store changes by one declaration or by one assignment at a time, and a
machine makes such a change only with a value that the type of the variable accepts. -/

namespace StreamScript

namespace Store

theorem get?_eq_none {store : Store} {name : String} (absent : ¬ store.contains name = true) :
    store.get? name = none := by
  simpa [contains] using absent

private theorem lookup_other {key other : String} (found : Variable) (rest : List (String × Variable))
    (different : other ≠ key) : ((key, found) :: rest).lookup other = rest.lookup other := by
  rw [List.lookup_cons, beq_false_of_ne different]

theorem lookup_setIn (name other : String) (value : Value) (entries : List (String × Variable)) :
    (setIn name value entries).lookup other =
      if other = name then (entries.lookup name).map (fun found => { found with value }) else entries.lookup other := by
  induction entries with
  | nil => simp [setIn]
  | cons entry rest ih =>
    obtain ⟨key, found⟩ := entry
    simp only [setIn]
    by_cases selected : key = name
    · subst key
      by_cases asked : other = name
      · simp [asked]
      · simp [asked, lookup_other]
    · rw [if_neg selected, lookup_other found rest (Ne.symm selected)]
      by_cases asked : other = key
      · simp [asked, selected]
      · rw [lookup_other _ _ asked, lookup_other _ _ asked, ih]

theorem get?_declare? {before after : Store} {name : String} {type : ValueType} {value : Value}
    (made : before.declare? name type value = some after) (other : String) :
    after.get? other = if other = name then some ⟨type, value⟩ else before.get? other := by
  unfold declare? at made
  split at made
  · cases made
  next absent =>
    cases made
    have unknown : before.entries.lookup name = none := get?_eq_none absent
    by_cases asked : other = name
    · simp [get?, List.lookup_append, asked, unknown]
    · simp [get?, List.lookup_append, asked, lookup_other]

theorem get?_assign? {before after : Store} {name : String} {value : Value}
    (made : before.assign? name value = some after) (other : String) :
    after.get? other =
      if other = name then (before.get? name).map (fun found => { found with value }) else before.get? other := by
  unfold assign? at made
  split at made
  · cases made
    exact lookup_setIn name other value before.entries
  · cases made

/-- One change of the variables, if any. -/
inductive Change (before : Store) : Store → Prop where
  | unchanged : Change before before
  | declared {name : String} {type : ValueType} {value : Value} {after : Store}
      (made : before.declare? name type value = some after) (fits : type.accepts value = true) : Change before after
  | assigned {name : String} {found : Variable} {value : Value} {after : Store}
      (held : before.get? name = some found) (made : before.assign? name value = some after)
      (fits : found.type.accepts value = true) : Change before after

end Store

namespace Run

theorem bind_eq_ok {ε α β : Type} {first : Except ε α} {next : α → Except ε β} {result : β}
    (succeeded : (first >>= next) = .ok result) : ∃ value, first = .ok value ∧ next value = .ok result := by
  cases first with
  | error error => cases succeeded
  | ok value => exact ⟨value, rfl, succeeded⟩

theorem checkType_ok {name : Token} {type : ValueType} {value : Value} {result : Unit}
    (checked : checkType name type value = .ok result) : type.accepts value = true := by
  unfold checkType at checked
  split at checked
  · assumption
  · cases checked

theorem declaredType_ok {store : Store} {name : Token} {type : ValueType}
    (declared : declaredType store name = .ok type) :
    ∃ found, store.get? name.literal = some found ∧ found.type = type := by
  unfold declaredType at declared
  split at declared
  next found held =>
    cases declared
    exact ⟨found, held, rfl⟩
  · cases declared

theorem put_ok {before after : Store} {name : Token} {type : ValueType} {value : Value}
    (stored : put before name type value = .ok after) :
    type.accepts value = true ∧ before.assign? name.literal value = some after := by
  obtain ⟨_, checked, stored⟩ := bind_eq_ok stored
  refine ⟨checkType_ok checked, ?_⟩
  split at stored
  next made =>
    cases stored
    exact made
  · cases stored

theorem put_change {before after : Store} {name : Token} {type : ValueType} {value : Value}
    (declared : declaredType before name = .ok type) (stored : put before name type value = .ok after) :
    before.Change after := by
  obtain ⟨found, held, rfl⟩ := declaredType_ok declared
  obtain ⟨fits, made⟩ := put_ok stored
  exact .assigned held made fits

theorem declare_ok {before after : Store} {imports : List String} {type name separator : Token}
    {value : List Token} (declared : declare before imports type name separator value = .ok after) :
    ∃ named result, named.accepts result = true ∧ before.declare? name.literal named result = some after := by
  unfold declare at declared
  split at declared
  · cases declared
  · split at declared
    · cases declared
    next absent =>
      split at declared
      · cases declared
      · obtain ⟨result, _, declared⟩ := bind_eq_ok declared
        obtain ⟨named, _, declared⟩ := bind_eq_ok declared
        obtain ⟨_, checked, declared⟩ := bind_eq_ok declared
        refine ⟨named, result, checkType_ok checked, ?_⟩
        cases made : before.declare? name.literal named result with
        | none => simp [Store.declare?, absent] at made
        | some extended =>
          rw [made] at declared
          cases declared
          rfl

theorem declare_change {before after : Store} {imports : List String} {type name separator : Token}
    {value : List Token} (declared : declare before imports type name separator value = .ok after) :
    before.Change after := by
  obtain ⟨named, result, fits, made⟩ := declare_ok declared
  exact .declared made fits

theorem promptedType_ok {store : Store} {imports : List String} {name library : Token} {type : ValueType}
    (allowed : promptedType store imports name library = .ok type) : declaredType store name = .ok type := by
  obtain ⟨declared, found, allowed⟩ := bind_eq_ok allowed
  obtain ⟨_, _, allowed⟩ := bind_eq_ok allowed
  cases allowed
  exact found

theorem assign_put {before after : Store} {imports : List String} {name : Token} {value : List Token}
    (assigned : assign before imports name value = .ok after) :
    ∃ type result, declaredType before name = .ok type ∧ put before name type result = .ok after := by
  obtain ⟨type, declared, assigned⟩ := bind_eq_ok assigned
  obtain ⟨result, _, stored⟩ := bind_eq_ok assigned
  exact ⟨type, result, declared, stored⟩

theorem enter_put {before after : Store} {name inputType : Token} {type : ValueType} {line : String}
    (entered : enter before name inputType type line = .ok after) : ∃ value, put before name type value = .ok after := by
  obtain ⟨value, _, stored⟩ := bind_eq_ok entered
  exact ⟨value, stored⟩

namespace Machine

variable {κ : Type}

/-- The variables after a statement: as before, or as a declaration left them, or with a new value in a variable that
was declared. -/
inductive Stored (machine : Machine κ) (statement : Statement) : Store → Prop where
  | unchanged : Stored machine statement machine.store
  | declared {type name separator : Token} {value : List Token} {after : Store}
      (form : statement = .declaration type name separator value)
      (made : declare machine.store machine.imports type name separator value = .ok after) :
      Stored machine statement after
  | assigned {name : Token} {type : ValueType} {value : Value} {after : Store}
      (held : declaredType machine.store name = .ok type) (made : put machine.store name type value = .ok after) :
      Stored machine statement after

theorem Stored.update (machine : Machine κ) {statement : Statement} (result : Except Error Store)
    (stores : ∀ after, result = .ok after → Stored machine statement after) (console : κ) :
    Stored machine statement ({ machine with console }.update result).2.store := by
  cases result with
  | ok after => exact stores after rfl
  | error error => exact .unchanged

variable [Console κ]

theorem execute_stored (settings : Settings) (machine : Machine κ) (statement : Statement) :
    Stored machine statement (machine.execute settings statement).2.store := by
  have execution := execute_cases settings machine statement
  generalize machine.execute settings statement = result at execution
  cases execution with
  | declared => exact .update machine _ (fun after made => .declared rfl made) machine.console
  | assigned =>
    refine .update machine _ ?_ machine.console
    intro after assigned
    obtain ⟨type, result, held, made⟩ := assign_put assigned
    exact .assigned held made
  | answered _ allowed =>
    refine .update machine _ ?_ _
    intro after entered
    obtain ⟨value, made⟩ := enter_put entered
    exact .assigned (promptedType_ok allowed) made
  | called | printed =>
    obtain ⟨console, wrote⟩ := machine.writeText_frame _ _ _
    rw [wrote]
    exact .unchanged
  | forbidden | unanswered | uncalled | refused | ignored => exact .unchanged

theorem execute_change (settings : Settings) (machine : Machine κ) (statement : Statement) :
    machine.store.Change (machine.execute settings statement).2.store := by
  have stored := execute_stored settings machine statement
  generalize (machine.execute settings statement).2.store = after at stored
  cases stored with
  | unchanged => exact .unchanged
  | declared _ made => exact declare_change made
  | assigned held made => exact put_change held made

theorem dispatch_change (settings : Settings) (machine : Machine κ) (tokens : List Token) :
    machine.store.Change (machine.dispatch settings tokens).2.store := by
  cases recognized : Statement.classify tokens with
  | none =>
    rw [dispatch_nothing settings machine recognized]
    exact .unchanged
  | some statement =>
    obtain ⟨log, executes⟩ := dispatch_recognized settings machine recognized
    rw [executes]
    exact execute_change settings { machine with log } statement

theorem step_change (settings : Settings) (machine : Machine κ) (token : Token) :
    machine.store.Change (machine.step settings token).2.store := by
  rcases kind_cases token with isEnd | isUsing | isSemicolon | waits
  · rw [step_endOfFile settings machine token isEnd]
    exact .unchanged
  · rw [step_usingWord settings machine token isUsing]
    obtain ⟨log, imports, imported⟩ := machine.importing_frame settings token
    rw [imported]
    exact .unchanged
  · rw [step_semicolon settings machine token isSemicolon]
    exact dispatch_change settings machine.cleared machine.pending
  · rw [step_waits settings machine token waits]
    exact .unchanged

end Machine

end Run

end StreamScript
