import StreamScript.Proofs.OperandAccounts
import StreamScript.Source.Scan

/-! The orders of operands and operators that an expression may have. Nobody looks at what stands beside an operator.
It waits until one comes that binds no tighter, or until the end, and then it needs two values, wherever they were
read. So operands may come early, as in `1 2 +`, or late, as in `+ 1 2`, as long as there are enough in time. -/

namespace StreamScript

theorem Token.isOperator_of_isOperand {token : Token} (isOperand : token.isOperand = true) :
    token.isOperator = false := by
  rw [Token.isOperator, Token.operator?_of_isOperand isOperand]
  rfl

namespace Run

def operatorsOf (tokens : List Token) : List Operator := tokens.filterMap Token.operator?

/-- How many of these operators are applied before one of the precedence is put to them: all but those that bind looser
than it and than everything behind them. -/
def applied (precedence : Nat) : List Operator → Nat
  | [] => 0
  | operator :: rest =>
    if operator.precedence < precedence ∧ ∀ later ∈ rest, operator.precedence < later.precedence then
      applied precedence rest
    else applied precedence rest + 1

/-- If the token is an operator, those that are applied before it have left a value: there are more operands in front
of it than operators that have taken one. -/
def SuppliedAt (before : List Token) (token : Token) : Prop :=
  ∀ operator, token.operator? = some operator → 0 < applied operator.precedence (operatorsOf before) →
    applied operator.precedence (operatorsOf before) < before.countP Token.isOperand

/-- Every operator is supplied where it stands, and at the end one value is left. -/
structure Supplied (tokens : List Token) : Prop where
  inTime : ∀ before token after, tokens = before ++ token :: after → SuppliedAt before token
  balance : tokens.countP Token.isOperand = tokens.countP Token.isOperator + 1

/-- Two operands with no operator between them. -/
def Adjoining (tokens : List Token) : Prop :=
  ∃ before first second after, tokens = before ++ first :: second :: after ∧
    first.isOperand = true ∧ second.isOperand = true

section Counting

theorem length_operatorsOf (tokens : List Token) : (operatorsOf tokens).length = tokens.countP Token.isOperator :=
  List.length_filterMap_eq_countP

theorem applied_zero (operators : List Operator) : applied 0 operators = operators.length := by
  induction operators with
  | nil => rfl
  | cons operator rest ih => simp [applied, ih]

/-- One more operator at the end is not applied if it is looser, and then all before it stand as it found them. -/
theorem applied_concat (precedence : Nat) (operators : List Operator) (last : Operator) :
    applied precedence (operators ++ [last]) =
      if last.precedence < precedence then applied last.precedence operators else applied precedence operators + 1 := by
  induction operators with
  | nil =>
    by_cases looser : last.precedence < precedence <;> simp [applied, looser]
  | cons operator rest ih =>
    rw [List.cons_append, applied, ih]
    by_cases looser : last.precedence < precedence
    · simp only [looser, if_true, applied]
      grind
    · simp only [looser, if_false, applied]
      grind

end Counting

section Unwinding

/-- The operators that are due when one of the precedence comes. -/
def due (precedence : Nat) (waiting : List Waiting) : List Waiting :=
  waiting.takeWhile fun top => precedence ≤ top.operator.precedence

/-- The operators that wait on. -/
def waitsOn (precedence : Nat) (waiting : List Waiting) : List Waiting :=
  waiting.dropWhile fun top => precedence ≤ top.operator.precedence

/-- An operator among these fails on two values, and the error stands at it. -/
def FailsOnValues (waiting : List Waiting) (error : Error) : Prop :=
  ∃ top ∈ waiting, ∃ left right fault, Value.combine top.operator left right = .error fault ∧
    error = ⟨.evaluation fault, some top.position⟩

theorem length_due_add_length_waitsOn (precedence : Nat) (waiting : List Waiting) :
    (due precedence waiting).length + (waitsOn precedence waiting).length = waiting.length := by
  rw [← List.length_append, due, waitsOn, List.takeWhile_append_dropWhile]

/-- What is due at one precedence is due at a lower one. -/
theorem waitsOn_waitsOn {lower precedence : Nat} (le : lower ≤ precedence) (waiting : List Waiting) :
    waitsOn lower (waitsOn precedence waiting) = waitsOn lower waiting := by
  induction waiting with
  | nil => rfl
  | cons top rest ih =>
    by_cases isDue : precedence ≤ top.operator.precedence
    · have isDueLower := Nat.le_trans le isDue
      simpa [waitsOn, List.dropWhile_cons, isDue, isDueLower] using ih
    · simp [waitsOn, List.dropWhile_cons, isDue]

/-- Each operator that is due takes one value away, so there must be one value more than operators. -/
theorem unwind_cases (precedence : Nat) (values : List Value) (waiting : List Waiting) :
    (∃ error, unwind precedence values waiting = .error error ∧ FailsOnValues waiting error) ∨
    (∃ error, unwind precedence values waiting = .error error ∧ 0 < (due precedence waiting).length ∧
      values.length ≤ (due precedence waiting).length) ∨
    ∃ left, unwind precedence values waiting = .ok ⟨left, waitsOn precedence waiting⟩ ∧
      left.length + (due precedence waiting).length = values.length ∧
      (0 < (due precedence waiting).length → 0 < left.length) := by
  induction waiting generalizing values with
  | nil => exact .inr (.inr ⟨values, rfl, rfl, by simp [due]⟩)
  | cons top rest ih =>
    by_cases looser : top.operator.precedence < precedence
    · have notDue : ¬ precedence ≤ top.operator.precedence := by omega
      refine .inr (.inr ⟨values, ?_, ?_, ?_⟩)
      · simp [unwind, looser, waitsOn, notDue]
      · simp [due, notDue]
      · simp [due, notDue]
    · have isDue : precedence ≤ top.operator.precedence := by omega
      have one : (due precedence (top :: rest)).length = (due precedence rest).length + 1 := by simp [due, isDue]
      have same : waitsOn precedence (top :: rest) = waitsOn precedence rest := by simp [waitsOn, isDue]
      rw [one, same, unwind, if_neg looser]
      rcases values with _ | ⟨right, _ | ⟨left, below⟩⟩
      · exact .inr (.inl ⟨_, rfl, by omega, by simp⟩)
      · exact .inr (.inl ⟨_, rfl, by omega, by simp⟩)
      · cases combined : Value.combine top.operator left right with
        | error fault =>
          simp only [applyTop, combined]
          exact .inl ⟨_, rfl, top, List.mem_cons_self .., left, right, fault, combined, rfl⟩
        | ok value =>
          simp only [applyTop, combined]
          rcases ih (value :: below) with ⟨error, failed, faulty, member, reason⟩ |
            ⟨error, failed, some, few⟩ | ⟨kept, unwound, count, filled⟩
          · exact .inl ⟨error, failed, faulty, List.mem_cons_of_mem top member, reason⟩
          · refine .inr (.inl ⟨error, failed, by omega, ?_⟩)
            simp only [List.length_cons] at few ⊢
            omega
          · simp only [List.length_cons] at count
            refine .inr (.inr ⟨kept, unwound, ?_, ?_⟩)
            · simp only [List.length_cons]
              omega
            · omega

end Unwinding

section Tracking

/-- The stacks after these tokens. What waits is what has not been applied, and what has been applied has left a
value. -/
structure Tracks (before : List Token) (state : Stacks) : Prop where
  waiting : ∀ precedence, (waitsOn precedence state.waiting).length + applied precedence (operatorsOf before) =
    (operatorsOf before).length
  balance : state.values.length + (operatorsOf before).length = before.countP Token.isOperand + state.waiting.length
  filled : state.waiting.length < (operatorsOf before).length → 0 < state.values.length
  signs : ∀ top ∈ state.waiting, ∃ token ∈ before,
    token.operator? = some top.operator ∧ token.position = top.position

variable {store : Store} {imports : List String} {before : List Token} {state : Stacks}

theorem Tracks.start : Tracks [] {} := by
  refine ⟨?_, rfl, by simp [operatorsOf], by simp⟩
  simp [waitsOn, operatorsOf, applied]

theorem Tracks.faultAmong {error : Error} (tracks : Tracks before state) (fails : FailsOnValues state.waiting error) :
    FaultAmong store imports before error := by
  obtain ⟨top, member, left, right, fault, failed, rfl⟩ := fails
  obtain ⟨token, inside, reads, place⟩ := tracks.signs top member
  rw [← place]
  exact .operator inside reads failed

theorem Tracks.length_waiting_le (tracks : Tracks before state) :
    state.waiting.length ≤ (operatorsOf before).length := by
  cases held : state.waiting with
  | nil => simp
  | cons top rest =>
    have counted := tracks.waiting (top.operator.precedence + 1)
    have allWait : waitsOn (top.operator.precedence + 1) (top :: rest) = top :: rest := by
      simp [waitsOn]
    rw [held, allWait] at counted
    omega

/-- The two conditions on what is due and on what is applied are one. -/
theorem Tracks.supplied_iff (tracks : Tracks before state) (precedence : Nat) :
    (0 < (due precedence state.waiting).length → (due precedence state.waiting).length < state.values.length) ↔
    (0 < applied precedence (operatorsOf before) →
      applied precedence (operatorsOf before) < before.countP Token.isOperand) := by
  have parts := length_due_add_length_waitsOn precedence state.waiting
  have counted := tracks.waiting precedence
  have balance := tracks.balance
  have filled := tracks.filled
  have read := tracks.length_waiting_le
  omega

/-- A token that is no operator leaves everything waiting that waits. -/
theorem Tracks.after_other {token : Token} {values : List Value} (tracks : Tracks before state)
    (noOperator : token.operator? = none)
    (count : values.length = state.values.length + [token].countP Token.isOperand) :
    Tracks (before ++ [token]) { state with values } := by
  have same : operatorsOf (before ++ [token]) = operatorsOf before := by
    simp [operatorsOf, noOperator]
  have balance := tracks.balance
  have filled := tracks.filled
  refine ⟨?_, ?_, ?_, ?_⟩
  · rw [same]
    exact tracks.waiting
  · rw [same, List.countP_append]
    simp only [count]
    omega
  · rw [same]
    simp only [count]
    omega
  · intro top member
    obtain ⟨found, inside, reads⟩ := tracks.signs top member
    exact ⟨found, List.mem_append_left _ inside, reads⟩

/-- The operator waits on top of those that bind looser. -/
theorem Tracks.after_operator {token : Token} {operator : Operator} {left : List Value} (tracks : Tracks before state)
    (reads : token.operator? = some operator)
    (count : left.length + (due operator.precedence state.waiting).length = state.values.length)
    (filled : 0 < (due operator.precedence state.waiting).length → 0 < left.length) :
    Tracks (before ++ [token]) ⟨left, ⟨operator, token.position⟩ :: waitsOn operator.precedence state.waiting⟩ := by
  have more : operatorsOf (before ++ [token]) = operatorsOf before ++ [operator] := by
    simp [operatorsOf, reads]
  have isOperator : token.isOperator = true := by simp [Token.isOperator, reads]
  have counted := tracks.waiting operator.precedence
  have parts := length_due_add_length_waitsOn operator.precedence state.waiting
  have balance := tracks.balance
  have before := tracks.filled
  refine ⟨?_, ?_, ?_, ?_⟩
  · intro precedence
    rw [more, applied_concat, List.length_append]
    by_cases looser : operator.precedence < precedence
    · have stays : waitsOn precedence (⟨operator, token.position⟩ :: waitsOn operator.precedence state.waiting) =
          ⟨operator, token.position⟩ :: waitsOn operator.precedence state.waiting := by
        simp [waitsOn, looser]
      rw [stays, if_pos looser, List.length_cons, List.length_singleton]
      omega
    · have goes : waitsOn precedence (⟨operator, token.position⟩ :: waitsOn operator.precedence state.waiting) =
          waitsOn precedence state.waiting := by
        rw [← waitsOn_waitsOn (Nat.le_of_not_lt looser) state.waiting]
        simp [waitsOn, Nat.le_of_not_lt looser]
      have earlier := tracks.waiting precedence
      rw [goes, if_neg looser, List.length_singleton]
      omega
  · rw [more, List.countP_append, List.countP_singleton, Token.isOperand_of_isOperator isOperator]
    simp only [List.length_append, List.length_cons, List.length_nil, Bool.false_eq_true, if_false]
    omega
  · rw [more]
    simp only [List.length_append, List.length_cons, List.length_nil]
    omega
  · intro top member
    rcases List.mem_cons.mp member with rfl | waits
    · exact ⟨token, by simp, reads, rfl⟩
    · obtain ⟨found, inside, known⟩ := tracks.signs top ((List.dropWhile_sublist _).subset waits)
      exact ⟨found, List.mem_append_left _ inside, known⟩

/-- A token is taken in, unless an operand has no value or an operator fails on its values, or operators are due that
are not supplied. -/
theorem Tracks.feed_cases (store : Store) (imports : List String) (tracks : Tracks before state) (token : Token) :
    (∃ error, feed store imports state token = .error error ∧ FaultAmong store imports (before ++ [token]) error) ∨
    (∃ error, feed store imports state token = .error error ∧ ¬ SuppliedAt before token) ∨
    ∃ after, feed store imports state token = .ok after ∧ SuppliedAt before token ∧
      Tracks (before ++ [token]) after := by
  by_cases isOperator : token.isOperator = true
  · obtain ⟨operator, reads⟩ := Option.isSome_iff_exists.mp isOperator
    have supplied : SuppliedAt before token ↔
        (0 < (due operator.precedence state.waiting).length →
          (due operator.precedence state.waiting).length < state.values.length) := by
      rw [tracks.supplied_iff]
      simp [SuppliedAt, reads]
    rw [supplied]
    rw [feed_operator reads]
    rcases unwind_cases operator.precedence state.values state.waiting with
      ⟨error, failed, fails⟩ | ⟨error, failed, some, few⟩ | ⟨left, unwound, count, filled⟩
    · refine .inl ⟨error, by rw [failed]; rfl, ?_⟩
      exact (tracks.faultAmong fails).mono (List.subset_append_left ..)
    · refine .inr (.inl ⟨error, by rw [failed]; rfl, ?_⟩)
      omega
    · refine .inr (.inr ⟨_, by rw [unwound]; rfl, by omega, tracks.after_operator reads count filled⟩)
  · have noOperator : token.operator? = none := by simpa [Token.isOperator] using isOperator
    have supplied : SuppliedAt before token := by simp [SuppliedAt, noOperator]
    by_cases isOperand : token.isOperand = true
    · rw [feed_other noOperator]
      cases read : operand store imports token with
      | error error =>
        obtain ⟨fault, rfl⟩ := operand_failsAt read
        exact .inl ⟨_, rfl, .operand (by simp) isOperand read⟩
      | ok found =>
        cases found with
        | none => exact absurd read (operand_ne_none isOperand)
        | some value => exact .inr (.inr ⟨_, rfl, supplied, tracks.after_other noOperator (by simp [isOperand])⟩)
    · have passed : token.isOperative = false := by simp [Token.isOperative, isOperand, isOperator]
      have next : Tracks (before ++ [token]) state := tracks.after_other noOperator (by simp [isOperand])
      exact .inr (.inr ⟨state, feed_inoperative passed state, supplied, next⟩)

theorem Tracks.feedAll_cases (store : Store) (imports : List String) (tracks : Tracks before state)
    (rest : List Token) :
    (∃ error, feedAll store imports state rest = .error error ∧ FaultAmong store imports (before ++ rest) error) ∨
    (∃ error middle token after, feedAll store imports state rest = .error error ∧ rest = middle ++ token :: after ∧
      ¬ SuppliedAt (before ++ middle) token) ∨
    ∃ left, feedAll store imports state rest = .ok left ∧ Tracks (before ++ rest) left ∧
      ∀ middle token after, rest = middle ++ token :: after → SuppliedAt (before ++ middle) token := by
  induction rest generalizing before state with
  | nil => exact .inr (.inr ⟨state, rfl, by simpa using tracks, by simp⟩)
  | cons token rest ih =>
    rw [feedAll_cons]
    rcases tracks.feed_cases store imports token with
      ⟨error, failed, among⟩ | ⟨error, failed, unsupplied⟩ | ⟨after, fed, supplied, next⟩
    · refine .inl ⟨error, by rw [failed]; rfl, among.mono ?_⟩
      simp
    · exact .inr (.inl ⟨error, [], token, rest, by rw [failed]; rfl, rfl, by simpa using unsupplied⟩)
    · have goesOn : (feed store imports state token >>= fun after => feedAll store imports after rest) =
          feedAll store imports after rest := by
        rw [fed]
        rfl
      have join : before ++ [token] ++ rest = before ++ token :: rest := by simp
      rw [goesOn, ← join]
      rcases ih next with among | ⟨error, middle, sign, later, failed, rfl, unsupplied⟩ | ⟨left, taken, tracked, inTime⟩
      · exact .inl among
      · exact .inr (.inl ⟨error, token :: middle, sign, later, failed, rfl, by simpa using unsupplied⟩)
      · refine .inr (.inr ⟨left, taken, tracked, ?_⟩)
        intro middle sign later split
        cases middle with
        | nil =>
          cases split
          simpa using supplied
        | cons first middle =>
          obtain ⟨rfl, behind⟩ := List.cons.inj split
          simpa using inTime middle sign later behind

end Tracking

section Adjoining

theorem Alternating.balance {tokens : List Token} (alternating : Alternating tokens) :
    tokens.countP Token.isOperand = tokens.countP Token.isOperator + 1 := by
  induction alternating with
  | single first => simp [first, Token.isOperator_of_isOperand first]
  | more first next _ ih =>
    simp [first, next, Token.isOperator_of_isOperand first, Token.isOperand_of_isOperator next, ih]

theorem countP_filter_isOperative {count : Token → Bool} {tokens : List Token}
    (operative : ∀ token, count token = true → token.isOperative = true) :
    (tokens.filter Token.isOperative).countP count = tokens.countP count := by
  rw [List.countP_filter]
  apply List.countP_congr
  intro token _
  simpa using operative token

theorem Adjoining.cons {tokens : List Token} (adjoining : Adjoining tokens) (token : Token) :
    Adjoining (token :: tokens) := by
  obtain ⟨before, first, second, after, rfl, operands⟩ := adjoining
  exact ⟨token :: before, first, second, after, rfl, operands⟩

/-- Where operands and operators do not take turns, two operands stand together or operands are lacking. -/
theorem alternating_or_adjoining {tokens : List Token} (operative : ∀ token ∈ tokens, token.isOperative = true) :
    Alternating tokens ∨ Adjoining tokens ∨ tokens.countP Token.isOperand ≤ tokens.countP Token.isOperator := by
  match tokens, operative with
  | [], _ => exact .inr (.inr (by simp))
  | first :: rest, operative =>
    have later : ∀ token ∈ rest, token.isOperative = true := fun token member =>
      operative token (List.mem_cons_of_mem _ member)
    by_cases isOperand : first.isOperand = true
    · match rest, later with
      | [], _ => exact .inl (.single isOperand)
      | second :: more, later =>
        by_cases again : second.isOperand = true
        · exact .inr (.inl ⟨[], first, second, more, rfl, isOperand, again⟩)
        · have isOperator : second.isOperator = true := by
            simpa [Token.isOperative, again] using later second (List.mem_cons_self ..)
          have behind := alternating_or_adjoining fun token member => later token (List.mem_cons_of_mem _ member)
          rcases behind with alternating | adjoining | few
          · exact .inl (.more isOperand isOperator alternating)
          · exact .inr (.inl ((adjoining.cons second).cons first))
          · right; right
            simpa [isOperand, isOperator, again, Token.isOperator_of_isOperand isOperand] using few
    · have isOperator : first.isOperator = true := by
        simpa [Token.isOperative, isOperand] using operative first (List.mem_cons_self ..)
      rcases alternating_or_adjoining later with alternating | adjoining | few
      · right; right
        simp [isOperand, isOperator, alternating.balance]
      · exact .inr (.inl (adjoining.cons first))
      · right; right
        simp only [List.countP_cons, isOperand, isOperator, if_true, Bool.false_eq_true, if_false]
        omega
termination_by tokens.length

end Adjoining

theorem soleValue_of_length_eq_one {values : List Value} (one : values.length = 1) (place : Option Position) :
    ∃ value, soleValue place values = .ok value := by
  obtain ⟨value, rfl⟩ := List.length_eq_one_iff.mp one
  exact ⟨value, rfl⟩

/-- An expression has a value, or a part of it fails, or it is not supplied. -/
theorem evaluate_outcomes (store : Store) (imports : List String) (tokens : List Token) :
    (∃ error, evaluate store imports tokens = .error error ∧ FaultAmong store imports tokens error) ∨
    (∃ error, evaluate store imports tokens = .error error ∧ ¬ Supplied tokens) ∨
    ∃ value, evaluate store imports tokens = .ok value ∧ Supplied tokens := by
  unfold evaluate
  have taking := Tracks.start.feedAll_cases store imports tokens
  simp only [List.nil_append] at taking
  rcases taking with ⟨error, failed, among⟩ | ⟨error, middle, token, after, failed, split, unsupplied⟩ |
    ⟨state, fed, tracks, inTime⟩
  · exact .inl ⟨error, by rw [failed]; rfl, among⟩
  · exact .inr (.inl ⟨error, by rw [failed]; rfl, fun supplied => unsupplied (supplied.inTime _ _ _ split)⟩)
  · -- At the end everything that waits is due, so the operands decide what is left.
    have counted := tracks.waiting 0
    have parts := length_due_add_length_waitsOn 0 state.waiting
    have balance := tracks.balance
    rw [applied_zero] at counted
    rw [length_operatorsOf] at counted balance
    simp only [fed, bind, Except.bind]
    rcases unwind_cases 0 state.values state.waiting with
      ⟨error, failed, fails⟩ | ⟨error, failed, some, few⟩ | ⟨left, unwound, count, filled⟩
    · exact .inl ⟨error, by rw [failed], tracks.faultAmong fails⟩
    · refine .inr (.inl ⟨error, by rw [failed], fun supplied => ?_⟩)
      have enough := supplied.balance
      omega
    · simp only [unwound]
      by_cases one : left.length = 1
      · obtain ⟨value, sole⟩ := soleValue_of_length_eq_one one (tokens.head?.map (·.position))
        exact .inr (.inr ⟨value, sole, inTime, by omega⟩)
      · cases sole : soleValue (tokens.head?.map (·.position)) left with
        | ok value => exact absurd (congrArg List.length (soleValue_ok sole)) one
        | error error =>
          refine .inr (.inl ⟨error, rfl, fun supplied => ?_⟩)
          have enough := supplied.balance
          omega

/-- An expression that has a value was supplied, so its operands and operators take turns unless two operands stand
together somewhere. An expression that is supplied is never refused for its order: it can only fail over an operand
that has no value or over an operator on its two values. -/
theorem evaluate_order (store : Store) (imports : List String) (tokens : List Token) :
    (∀ value, evaluate store imports tokens = .ok value →
      Supplied tokens ∧
      (Alternating (tokens.filter Token.isOperative) ∨ Adjoining (tokens.filter Token.isOperative))) ∧
    (Supplied tokens → FailsOnly (FaultAmong store imports tokens) (evaluate store imports tokens)) := by
  rcases evaluate_outcomes store imports tokens with ⟨error, failed, among⟩ | ⟨error, failed, unsupplied⟩ |
    ⟨value, evaluated, supplied⟩
  · rw [failed]
    refine ⟨?_, fun _ => .error among⟩
    intro value impossible
    cases impossible
  · rw [failed]
    refine ⟨?_, fun supplied => absurd supplied unsupplied⟩
    intro value impossible
    cases impossible
  · rw [evaluated]
    refine ⟨fun _ _ => ⟨supplied, ?_⟩, fun _ => .ok value⟩
    have operative : ∀ token ∈ tokens.filter Token.isOperative, token.isOperative = true := by simp
    rcases alternating_or_adjoining operative with alternating | adjoining | few
    · exact .inl alternating
    · exact .inr adjoining
    · have balance := supplied.balance
      rw [countP_filter_isOperative fun token isOperand => by simp [Token.isOperative, isOperand],
        countP_filter_isOperative fun token isOperator => by simp [Token.isOperative, isOperator]] at few
      omega

/-- In `1 2 + ) 3 *` the product is made first, of the last two operands. In `1 0 /` the division itself fails. -/
theorem evaluate_order_postfix :
    let sum : List Token :=
      [⟨.number, "1", ⟨1, 1⟩⟩, ⟨.number, "2", ⟨1, 3⟩⟩, ⟨.plus, "+", ⟨1, 5⟩⟩, ⟨.rightParenthesis, ")", ⟨1, 7⟩⟩,
      ⟨.number, "3", ⟨1, 9⟩⟩, ⟨.star, "*", ⟨1, 11⟩⟩]
    let quotient : List Token := [⟨.number, "1", ⟨1, 1⟩⟩, ⟨.number, "0", ⟨1, 3⟩⟩, ⟨.slash, "/", ⟨1, 5⟩⟩]
    (evaluate {} [] sum = .ok (.integer 7) ∧ Supplied sum ∧
      (Alternating (sum.filter Token.isOperative) ∨ Adjoining (sum.filter Token.isOperative))) ∧
    Supplied quotient ∧ FaultAmong {} [] quotient ⟨.evaluation .divisionByZero, some ⟨1, 5⟩⟩ := by
  intro sum quotient
  have evaluated : evaluate {} [] sum = .ok (.integer 7) := by rfl
  have failed : evaluate {} [] quotient = .error ⟨.evaluation .divisionByZero, some ⟨1, 5⟩⟩ := by rfl
  have supplied : Supplied quotient := by
    refine ⟨?_, rfl⟩
    intro before token after split operator reads some
    -- Only the division is an operator, and none is before it.
    match before with
    | [] | [_] =>
      simp only [quotient, List.nil_append, List.cons_append, List.cons.injEq] at split
      simp [← split, Token.operator?, Operator.signs] at reads
    | [_, _] =>
      simp only [quotient, List.nil_append, List.cons_append, List.cons.injEq] at split
      simp [← split, operatorsOf, Token.operator?, Operator.signs, applied] at some
    | _ :: _ :: _ :: before => simp [quotient] at split
  exact ⟨⟨evaluated, (evaluate_order {} [] sum).1 _ evaluated⟩, supplied,
    (evaluate_order {} [] quotient).2 supplied _ failed⟩

/-- In `1 2 +` the operator has no operand on its right, and the expression has a value all the same. -/
theorem evaluate_not_alternating :
    ∃ one two plus last, (Source.tokenize "1 2 +").result = .ok [one, two, plus, last] ∧ plus.isOperator = true ∧
      evaluate {} [] [one, two, plus] = .ok (.integer 3) ∧
      ¬ Alternating ([one, two, plus].filter Token.isOperative) := by
  refine ⟨⟨.number, "1", ⟨1, 1⟩⟩, ⟨.number, "2", ⟨1, 3⟩⟩, ⟨.plus, "+", ⟨1, 5⟩⟩, ⟨.endOfFile, "", ⟨1, 6⟩⟩,
    ?_, rfl, rfl, ?_⟩
  · with_unfolding_all rfl
  · intro alternating
    cases alternating with
    | more _ next _ => cases next

end Run

end StreamScript
