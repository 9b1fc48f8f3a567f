import Mathlib.Algebra.Ring.Int.Defs
import StreamScript.Proofs.IntegerArithmetic
import StreamScript.Proofs.OperandAccounts

/-! Chains of additions. Integers are added up from the left as far as the first text, and from there on the printed
forms are put together. A value that is neither integer nor text can only stand next to a text: in front of the first
text it is one of the two operands of an addition that fails, unless it begins the chain and that text comes next. -/

namespace StreamScript

namespace Value

/-- The sum of the numbers, in 32 bits. -/
def wrappedSum (numbers : List Int32) : Int32 := .ofInt (numbers.map Int32.toInt).sum

def joined (values : List Value) : String := String.join (values.map display)

@[simp] theorem joined_nil : joined [] = "" := rfl

@[simp] theorem joined_cons (value : Value) (rest : List Value) :
    joined (value :: rest) = value.display ++ joined rest := by
  simp [joined]

theorem wrappedSum_singleton (number : Int32) : wrappedSum [number] = number := by simp [wrappedSum]

/-- To wrap a sum around early makes no difference. -/
theorem wrappedSum_cons_cons (first second : Int32) (rest : List Int32) :
    wrappedSum (first :: second :: rest) = wrappedSum ((first + second) :: rest) := by
  simp only [wrappedSum, List.map_cons, List.sum_cons, Int32.ofInt_add, Int32.ofInt_toInt, Int32.add_assoc]

theorem exists_integer {value : Value} (fits : value.isInteger = true) : ∃ number, value = .integer number := by
  cases value with
  | integer number => exact ⟨number, rfl⟩
  | text | boolean | floating | character => cases fits

theorem combine_text_left (front : String) (right : Value) :
    combine .add (.text front) right = .ok (.text (front ++ right.display)) := rfl

theorem combine_text_right (left : Value) (back : String) :
    combine .add left (.text back) = .ok (.text (left.display ++ back)) := by
  simp [combine, isText, display]

theorem combine_unfit {left right : Value} (leftText : left.isText = false) (rightText : right.isText = false)
    (unfit : left.isInteger = false ∨ right.isInteger = false) :
    combine .add left right = .error (.nonNumeric .add left.sort right.sort) := by
  rw [combine, if_neg (by simp [leftText, rightText])]
  cases left with
  | integer first =>
    cases right with
    | integer second => simp [isInteger] at unfit
    | text | boolean | floating | character => rfl
  | text | boolean | floating | character => rfl

end Value

namespace Run

open Value (wrappedSum joined)

variable {store : Store} {imports : List String}

/-- An operand that has a value. -/
structure Summand (store : Store) (imports : List String) where
  token : Token
  value : Value
  reads : operand store imports token = .ok (some value)

/-- `operand (+ operand)*` -/
abbrev Addition (store : Store) (imports : List String) := Chain [.add] (Summand store imports)

/-- The additions of a chain, each with its right operand. -/
abbrev Links (store : Store) (imports : List String) := List (Sign [.add] × Summand store imports)

namespace Addition

def tokens (addition : Addition store imports) : List Token := addition.tokensBy fun summand => [summand.token]

def valuesOf (links : Links store imports) : List Value := links.map fun link => link.2.value

def values (addition : Addition store imports) : List Value := addition.first.value :: valuesOf addition.rest

/-- Goes on from the value of what stands to the left. -/
def addFrom (left : Value) (links : Links store imports) : Except Error Value :=
  Chain.valueFrom (fun summand => .ok summand.value) left links

/-- The fault of the first addition that has an operand which is no integer, in links behind the operand `left`. -/
inductive Clashes : (left : Value) → Links store imports → Error → Prop where
  | here {left : Value} {sign : Sign [.add]} {right : Summand store imports} {rest : Links store imports}
      (unfit : left.isInteger = false ∨ right.value.isInteger = false) :
      Clashes left ((sign, right) :: rest)
        ⟨.evaluation (.nonNumeric .add left.sort right.value.sort), some sign.token.position⟩
  | later {left : Value} {sign : Sign [.add]} {right : Summand store imports} {rest : Links store imports}
      {error : Error} (leftFits : left.isInteger = true) (rightFits : right.value.isInteger = true)
      (clash : Clashes right.value rest error) : Clashes left ((sign, right) :: rest) error

section Stacks

theorem isOperand_of_summand (summand : Summand store imports) : summand.token.isOperand = true := by
  rw [← Bool.not_eq_false]
  intro other
  cases (operand_eq_none other).symm.trans summand.reads

theorem pushes_summand (level : Nat) :
    Pushes store imports level (fun summand : Summand store imports => [summand.token])
      (fun summand => .ok summand.value) := by
  intro summand values waiting rest _ _
  rw [List.singleton_append, outcome_cons, feed_other (Token.operator?_of_isOperand (isOperand_of_summand summand)),
    summand.reads]
  rfl

theorem evaluate_tokens (addition : Addition store imports) :
    evaluate store imports addition.tokens = addFrom addition.first.value addition.rest := by
  have pushed : outcome store imports {} (addition.tokens ++ []) =
      addFrom addition.first.value addition.rest >>= fun value => outcome store imports ⟨[value], []⟩ [] :=
    pushes_chain (by decide) (pushes_summand 2) addition [] [] [] (by simp [Keeps]) (by simp [Yields])
  rw [List.append_nil] at pushed
  rw [evaluate_eq_outcome, pushed]
  cases addFrom addition.first.value addition.rest <;> rfl

end Stacks

section Steps

variable {left sum : Value} {sign : Sign [.add]} {right : Summand store imports}

theorem addFrom_cons (left : Value) (sign : Sign [.add]) (right : Summand store imports) (rest : Links store imports) :
    addFrom left ((sign, right) :: rest) = sign.apply left right.value >>= fun sum => addFrom sum rest := rfl

theorem addFrom_ok (added : Value.combine .add left right.value = .ok sum) (rest : Links store imports) :
    addFrom left ((sign, right) :: rest) = addFrom sum rest := by
  have isAdd : sign.operator = .add := List.mem_singleton.mp sign.listed
  rw [addFrom_cons, Sign.apply, isAdd, added]
  rfl

theorem addFrom_error {fault : Value.Fault} (failed : Value.combine .add left right.value = .error fault)
    (rest : Links store imports) :
    addFrom left ((sign, right) :: rest) = .error ⟨.evaluation fault, some sign.token.position⟩ := by
  have isAdd : sign.operator = .add := List.mem_singleton.mp sign.listed
  rw [addFrom_cons, Sign.apply, isAdd, failed]
  rfl

/-- Behind a text everything is put together. -/
theorem addFrom_text (front : String) (links : Links store imports) :
    addFrom (.text front) links = .ok (.text (front ++ joined (valuesOf links))) := by
  induction links generalizing front with
  | nil => simp [addFrom, Chain.valueFrom, valuesOf]
  | cons link rest ih =>
    obtain ⟨sign, right⟩ := link
    rw [addFrom_ok (Value.combine_text_left front right.value), ih, String.append_assoc, ← Value.joined_cons]
    rfl

/-- Integers are added up, whatever follows them. -/
theorem addFrom_integers (first : Int32) {numbers : List Int32} {links : Links store imports}
    (integers : valuesOf links = numbers.map .integer) (more : Links store imports) :
    addFrom (.integer first) (links ++ more) = addFrom (.integer (wrappedSum (first :: numbers))) more := by
  induction links generalizing first numbers with
  | nil =>
    obtain rfl : numbers = [] := List.map_eq_nil_iff.mp integers.symm
    rw [Value.wrappedSum_singleton, List.nil_append]
  | cons link rest ih =>
    obtain ⟨sign, right⟩ := link
    obtain ⟨second, others, rfl, value, later⟩ := List.map_eq_cons_iff.mp integers.symm
    have added : Value.combine .add (.integer first) right.value = .ok (.integer (first + second)) := by
      rw [show right.value = .integer second from value.symm]
      exact Value.combine_integers .add first second
    rw [List.cons_append, addFrom_ok added, Value.wrappedSum_cons_cons]
    exact ih (first + second) later.symm

/-- The first addition with an operand that is no integer fails, if no text has been reached by then. What was added up
before is an integer, as is the operand that stands there. -/
theorem addFrom_clashes {links : Links store imports} (more : Links store imports)
    (alike : sum = left ∨ sum.isInteger = true ∧ left.isInteger = true) (some : links ≠ [])
    (textless : ∀ value ∈ left :: valuesOf links, value.isText = false)
    (unfit : ∃ value ∈ left :: valuesOf links, value.isInteger = false) :
    ∃ error, Clashes left (links ++ more) error ∧ addFrom sum (links ++ more) = .error error := by
  induction links generalizing sum left with
  | nil => exact absurd rfl some
  | cons link rest ih =>
    obtain ⟨sign, right⟩ := link
    have sorts : sum.isText = left.isText ∧ sum.isInteger = left.isInteger ∧ sum.sort = left.sort := by
      rcases alike with rfl | ⟨sumFits, leftFits⟩
      · exact ⟨rfl, rfl, rfl⟩
      · obtain ⟨_, rfl⟩ := Value.exists_integer sumFits
        obtain ⟨_, rfl⟩ := Value.exists_integer leftFits
        exact ⟨rfl, rfl, rfl⟩
    obtain ⟨leftText, laterText⟩ := List.forall_mem_cons.mp textless
    by_cases fits : left.isInteger = true ∧ right.value.isInteger = true
    · obtain ⟨first, rfl⟩ := Value.exists_integer (sorts.2.1.trans fits.1)
      obtain ⟨second, value⟩ := Value.exists_integer fits.2
      have added : Value.combine .add (.integer first) right.value = .ok (.integer (first + second)) := by
        rw [value]
        exact Value.combine_integers .add first second
      have laterUnfit : ∃ value ∈ right.value :: valuesOf rest, value.isInteger = false := by
        obtain ⟨value, member, isOther⟩ := unfit
        rcases List.mem_cons.mp member with rfl | behind
        · cases isOther.symm.trans fits.1
        · exact ⟨value, behind, isOther⟩
      have goesOn : rest ≠ [] := by
        rintro rfl
        simp [valuesOf, fits.2] at laterUnfit
      have both : Value.integer (first + second) = right.value ∨
          (Value.integer (first + second)).isInteger = true ∧ right.value.isInteger = true := .inr ⟨rfl, fits.2⟩
      obtain ⟨error, clash, failed⟩ := ih both goesOn laterText laterUnfit
      refine ⟨error, .later fits.1 fits.2 clash, ?_⟩
      rw [List.cons_append, addFrom_ok added, failed]
    · have here : left.isInteger = false ∨ right.value.isInteger = false := by
        rw [← Bool.not_eq_true, ← Bool.not_eq_true]
        exact Decidable.not_and_iff_or_not.mp fits
      have failed := Value.combine_unfit (sorts.1.trans leftText) (laterText right.value (List.mem_cons_self ..))
        (by rwa [sorts.2.1])
      rw [sorts.2.2] at failed
      exact ⟨_, .here here, addFrom_error failed (rest ++ more)⟩

/-- With the first text the sum becomes a text. -/
theorem addFrom_meets_text {text : String} (isText : right.value = .text text) (left : Value)
    (rest : Links store imports) :
    addFrom left ((sign, right) :: rest) = .ok (.text (left.display ++ joined (.text text :: valuesOf rest))) := by
  have added : Value.combine .add left right.value = .ok (.text (left.display ++ text)) := by
    rw [isText, Value.combine_text_right]
  rw [addFrom_ok added, addFrom_text, Value.joined_cons, String.append_assoc]
  rfl

end Steps

/-- The links in front of the first text, the one that has it, and those behind it. -/
theorem exists_links {links : Links store imports} {front back : List Value} {text : String}
    (values : valuesOf links = front ++ .text text :: back) :
    ∃ before sign right behind, links = before ++ (sign, right) :: behind ∧ valuesOf before = front ∧
      right.value = .text text ∧ valuesOf behind = back := by
  obtain ⟨before, others, rfl, frontValues, otherValues⟩ := List.map_eq_append_iff.mp values
  obtain ⟨⟨sign, right⟩, behind, rfl, isText, backValues⟩ := List.map_eq_cons_iff.mp otherValues
  exact ⟨before, sign, right, behind, rfl, frontValues, isText, backValues⟩

end Addition

open Addition in
/-- What a chain of additions comes to. Without a text, integers have their sum in 32 bits, and otherwise the first
addition that has an operand which is no integer fails. With a text at the first or second place everything is put
together. With the first text further behind, what stands in front of it is added up as if there were no text, and the
printed sum takes its place. -/
theorem evaluate_addition (addition : Addition store imports) (several : addition.rest ≠ []) :
    ((∀ value ∈ addition.values, value.isText = false) →
      (∀ numbers, addition.values = numbers.map .integer →
        evaluate store imports addition.tokens = .ok (.integer (wrappedSum numbers))) ∧
      ((∃ value ∈ addition.values, value.isInteger = false) →
        ∃ error, Clashes addition.first.value addition.rest error ∧
          evaluate store imports addition.tokens = .error error)) ∧
    ∀ front text back, addition.values = front ++ .text text :: back → (∀ value ∈ front, value.isText = false) →
      (front.length ≤ 1 → evaluate store imports addition.tokens = .ok (.text (joined addition.values))) ∧
      (2 ≤ front.length →
        (∀ numbers, front = numbers.map .integer →
          evaluate store imports addition.tokens =
            .ok (.text ((Value.integer (wrappedSum numbers)).display ++ joined (.text text :: back)))) ∧
        ((∃ value ∈ front, value.isInteger = false) →
          ∃ error, Clashes addition.first.value addition.rest error ∧
            evaluate store imports addition.tokens = .error error)) := by
  rw [evaluate_tokens]
  constructor
  · intro textless
    constructor
    · intro numbers integers
      obtain ⟨first, others, rfl, isFirst, later⟩ := List.map_eq_cons_iff.mp integers.symm
      have added := addFrom_integers first later.symm []
      rw [List.append_nil] at added
      rw [← isFirst, added]
      rfl
    · intro unfit
      have clashes := addFrom_clashes [] (.inl rfl) several textless unfit
      rwa [List.append_nil] at clashes
  · intro front text back values textless
    cases front with
    | nil =>
      obtain ⟨isText, later⟩ := List.cons.inj values
      refine ⟨fun _ => ?_, fun large => absurd large (by simp)⟩
      rw [Addition.values, isText, addFrom_text, Value.joined_cons]
      rfl
    | cons first others =>
      obtain ⟨isFirst, later⟩ := List.cons.inj values
      obtain ⟨before, sign, right, behind, split, frontValues, isText, backValues⟩ := exists_links later
      constructor
      · intro small
        have alone : before = [] := by
          have short := congrArg List.length frontValues
          simp only [valuesOf, List.length_map] at short
          rw [List.length_cons] at small
          exact List.eq_nil_of_length_eq_zero (by omega)
        have row : joined addition.values =
            addition.first.value.display ++ joined (.text text :: valuesOf behind) := by
          rw [Addition.values, Value.joined_cons, split, alone, ← isText]
          rfl
        rw [row, split, alone, List.nil_append, addFrom_meets_text isText]
      · intro large
        constructor
        · intro numbers integers
          obtain ⟨number, rest, rfl, sameFirst, sameRest⟩ := List.map_eq_cons_iff.mp integers.symm
          rw [split, isFirst, ← sameFirst, addFrom_integers number (frontValues.trans sameRest.symm),
            addFrom_meets_text isText, backValues]
        · intro unfit
          have some : before ≠ [] := by
            rintro rfl
            simp [← frontValues, valuesOf] at large
          rw [split, isFirst]
          rw [← frontValues] at textless unfit
          exact addFrom_clashes ((sign, right) :: behind) (.inl rfl) some textless unfit

/-- In `2147483647 + 1 + "a" + true` the sum of the two numbers wraps around before the text is reached. -/
theorem evaluate_addition_wrapping :
    let plus (column : Nat) : Sign [.add] := ⟨⟨.plus, "+", ⟨1, column⟩⟩, .add, rfl, by decide⟩
    let addition : Addition {} [] :=
      ⟨⟨⟨.number, "2147483647", ⟨1, 1⟩⟩, .integer 2147483647, rfl⟩,
        [(plus 12, ⟨⟨.number, "1", ⟨1, 14⟩⟩, .integer 1, rfl⟩),
        (plus 16, ⟨⟨.text, "a", ⟨1, 18⟩⟩, .text "a", rfl⟩),
        (plus 22, ⟨⟨.boolean, "true", ⟨1, 24⟩⟩, .boolean true, rfl⟩)]⟩
    addition.rest ≠ [] ∧ addition.values = [2147483647, 1].map .integer ++ .text "a" :: [.boolean true] ∧
    evaluate {} [] addition.tokens = .ok (.text "-2147483648atrue") := by
  intro plus addition
  have several : addition.rest ≠ [] := List.cons_ne_nil _ _
  have values : addition.values = [2147483647, 1].map .integer ++ .text "a" :: [.boolean true] := rfl
  obtain ⟨-, mixed⟩ := evaluate_addition addition several
  obtain ⟨-, further⟩ := mixed _ "a" [.boolean true] values (by simp [Value.isText])
  have result := (further (by simp)).1 [2147483647, 1] rfl
  have shown : (Value.integer (wrappedSum [2147483647, 1])).display ++ joined [.text "a", .boolean true] =
      "-2147483648atrue" := by
    decide +kernel
  exact ⟨several, values, by rw [result, shown]⟩

end Run

end StreamScript
