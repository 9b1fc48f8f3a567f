import StreamScript.Proofs.StoreChanges

/-! Variables keep to their types. Whatever was done with a machine, every variable holds a value that its type
accepts, and once a name is declared it stays declared with the same type. -/

namespace StreamScript

namespace Store

def WellTyped (store : Store) : Prop :=
  ∀ name found, store.get? name = some found → found.type.accepts found.value = true

/-- A later store of the same run. -/
structure Grows (before after : Store) : Prop where
  typed : before.WellTyped → after.WellTyped
  types : ∀ name found, before.get? name = some found →
    ∃ later, after.get? name = some later ∧ later.type = found.type

theorem Grows.refl (store : Store) : Grows store store :=
  ⟨fun typed => typed, fun _ found held => ⟨found, held, rfl⟩⟩

theorem Grows.trans {before middle after : Store} (first : Grows before middle) (last : Grows middle after) :
    Grows before after := by
  refine ⟨fun typed => last.typed (first.typed typed), ?_⟩
  intro name found held
  obtain ⟨between, heldBetween, sameBetween⟩ := first.types name found held
  obtain ⟨later, heldLater, sameLater⟩ := last.types name between heldBetween
  exact ⟨later, heldLater, sameLater.trans sameBetween⟩

theorem declare?_grows {before after : Store} {name : String} {type : ValueType} {value : Value}
    (made : before.declare? name type value = some after) (fits : type.accepts value = true) : Grows before after := by
  have contents := get?_declare? made
  constructor
  · intro typed other found held
    rw [contents] at held
    split at held
    · cases held
      exact fits
    · exact typed other found held
  · intro other found held
    have different : other ≠ name := by
      rintro rfl
      simp [declare?, contains, held] at made
    refine ⟨found, ?_, rfl⟩
    rw [contents, if_neg different, held]

theorem assign?_grows {before after : Store} {name : String} {declared : Variable} {value : Value}
    (found : before.get? name = some declared) (made : before.assign? name value = some after)
    (fits : declared.type.accepts value = true) : Grows before after := by
  have contents := get?_assign? made
  constructor
  · intro typed other later held
    rw [contents, found] at held
    split at held
    · cases held
      exact fits
    · exact typed other later held
  · intro other earlier held
    by_cases same : other = name
    · subst other
      rw [found] at held
      cases held
      exact ⟨{ declared with value }, by simp [contents, found], rfl⟩
    · exact ⟨earlier, by rw [contents, if_neg same, held], rfl⟩

theorem Change.grows {before after : Store} (change : before.Change after) : Grows before after := by
  cases change with
  | unchanged => exact .refl before
  | declared made fits => exact declare?_grows made fits
  | assigned found made fits => exact assign?_grows found made fits

end Store

namespace Run.Machine

variable {κ : Type} [Console κ]

theorem performAll_grows (settings : Settings) (machine : Machine κ) (calls : List Call) :
    machine.store.Grows (machine.performAll settings calls).store := by
  apply performAll_relates fun before after : Machine κ => before.store.Grows after.store
  · intro start
    exact .refl start.store
  · intro before middle after first last
    exact first.trans last
  · intro start diagnostic
    exact .refl start.store
  · intro start token
    exact (step_change settings start token).grows

theorem Reachable.wellTyped {settings : Settings} {machine : Machine κ} (reached : Reachable settings machine) :
    machine.store.WellTyped := by
  refine Reachable.invariant (fun machine : Machine κ => machine.store.WellTyped) ?_ ?_ ?_ reached
  · intro console log name found held
    cases held
  · intro start diagnostic typed
    exact typed
  · intro start token typed
    exact (step_change settings start token).grows.typed typed

/-- In every state that a new machine can be brought to, each variable holds a value of its type; and whatever is
done next, no name is lost and none changes its type. -/
theorem reachable_store_typed {settings : Settings} {machine : Machine κ} (reached : Reachable settings machine)
    (calls : List Call) :
    (∀ name found, machine.store.get? name = some found → found.type.accepts found.value = true) ∧
    ∀ name found, machine.store.get? name = some found →
      ∃ later, (machine.performAll settings calls).store.get? name = some later ∧ later.type = found.type :=
  ⟨reached.wellTyped, (performAll_grows settings machine calls).types⟩

/-- A byte is declared, then a value out of its range is refused, and the name keeps its type. -/
theorem reachable_store_typed_byte :
    let start : Machine Transcript := { console := {}, log := [] }
    let machine := start.perform {} (.items
      [.ok ⟨.varWord, "var", ⟨1, 1⟩⟩, .ok ⟨.identifier, "BYTE", ⟨1, 5⟩⟩, .ok ⟨.identifier, "b", ⟨1, 10⟩⟩,
      .ok ⟨.equal, "=", ⟨1, 12⟩⟩, .ok ⟨.number, "127", ⟨1, 14⟩⟩, .ok ⟨.semicolon, ";", ⟨1, 17⟩⟩])
    let calls : List Call := [.items [.ok ⟨.identifier, "b", ⟨2, 1⟩⟩, .ok ⟨.equal, "=", ⟨2, 3⟩⟩,
      .ok ⟨.number, "128", ⟨2, 5⟩⟩, .ok ⟨.semicolon, ";", ⟨2, 8⟩⟩], .stream "SEMICOLON"]
    Reachable {} machine ∧ machine.store.get? "b" = some ⟨.byte, .integer 127⟩ ∧
    ValueType.byte.accepts (.integer 127) = true ∧
    ∃ later, (machine.performAll {} calls).store.get? "b" = some later ∧ later.type = .byte := by
  intro start machine calls
  have reached : Reachable {} machine := .call (.fresh start.console []) _
  have held : machine.store.get? "b" = some ⟨.byte, .integer 127⟩ := by decide +kernel
  obtain ⟨typed, kept⟩ := reachable_store_typed reached calls
  exact ⟨reached, held, typed "b" _ held, kept "b" _ held⟩

end Run.Machine

end StreamScript
