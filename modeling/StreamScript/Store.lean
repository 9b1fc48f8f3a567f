import StreamScript.Value

/-! The variables of a run, in one flat scope. -/

namespace StreamScript

structure Variable where
  type : ValueType
  value : Value
deriving Repr, DecidableEq

/-- Names with their variables. A name is declared once, so the first entry for it is the only one. -/
structure Store where
  entries : List (String × Variable) := []
deriving Repr, DecidableEq

namespace Store

def empty : Store := {}

def get? (store : Store) (name : String) : Option Variable := store.entries.lookup name

def contains (store : Store) (name : String) : Bool := (store.get? name).isSome

def value? (store : Store) (name : String) : Option Value := (store.get? name).map (·.value)

def display? (store : Store) (name : String) : Option String := (store.value? name).map Value.display

/-- Nothing if the name is declared already. -/
def declare? (store : Store) (name : String) (type : ValueType) (value : Value) : Option Store :=
  if store.contains name then none else some ⟨store.entries ++ [(name, ⟨type, value⟩)]⟩

def setIn (name : String) (value : Value) : List (String × Variable) → List (String × Variable)
  | [] => []
  | (other, found) :: rest =>
    if other = name then (other, { found with value }) :: rest else (other, found) :: setIn name value rest

/-- Nothing if the name is not declared. The type stays. -/
def assign? (store : Store) (name : String) (value : Value) : Option Store :=
  if store.contains name then some ⟨setIn name value store.entries⟩ else none

end Store

end StreamScript
