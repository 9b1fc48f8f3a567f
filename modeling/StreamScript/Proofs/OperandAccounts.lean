import StreamScript.Proofs.PrecedenceGrammar

/-! Expressions in any order of operands and operators. Every operator puts two values together, whichever they are, so
the operands that were read are always shared out among the values on the stack. This decides what is left at the end
and of which sort it is. -/

namespace StreamScript

def Value.isInteger : Value → Bool
  | integer _ => true
  | _ => false

theorem Token.isOperand_of_isOperator {token : Token} (isOperator : token.isOperator = true) :
    token.isOperand = false := by
  rw [← Bool.not_eq_true]
  intro isOperand
  rw [Token.isOperator, Token.operator?_of_isOperand isOperand] at isOperator
  cases isOperator

namespace Run

/-- The values of the operands among the tokens, in order. -/
def Reads (store : Store) (imports : List String) (tokens : List Token) (operands : List Value) : Prop :=
  (tokens.filter Token.isOperand).map (operand store imports) = operands.map fun value => .ok (some value)

/-- What is known of a value that was put together from these operands. -/
structure Joins (operands : List Value) (value : Value) : Prop where
  isText : value.isText = operands.any Value.isText
  sort : operands = [value] ∨ value.isText = true ∨
    value.isInteger = true ∧ ∀ operand ∈ operands, operand.isInteger = true

/-- The values on a stack, the latest on top, were put together from these operands, the latest at the end. -/
inductive Holds : List Value → List Value → Prop where
  | nil : Holds [] []
  | push {operands group values : List Value} {value : Value} (below : Holds operands values)
      (joins : Joins group value) : Holds (operands ++ group) (value :: values)

/-- The stacks after these operands and so many operators: an operator waits or has taken a value away. -/
structure Accounts (operands : List Value) (operators : Nat) (state : Stacks) : Prop where
  holds : Holds operands state.values
  balance : operands.length + state.waiting.length = state.values.length + operators

section Joining

variable {operands before after : List Value} {left right joined : Value}

theorem Joins.single (value : Value) : Joins [value] value := ⟨by simp, .inl rfl⟩

theorem Joins.integers {n : Int32} (joins : Joins operands (.integer n)) :
    ∀ operand ∈ operands, operand.isInteger = true := by
  rcases joins.sort with lone | isText | ⟨_, integers⟩
  · simp [lone, Value.isInteger]
  · cases isText
  · exact integers

theorem numeric_ok {operator : Operator} (calculated : Value.numeric operator left right = .ok joined) :
    ∃ a b c, left = .integer a ∧ right = .integer b ∧ joined = .integer c := by
  unfold Value.numeric at calculated
  split at calculated
  next a b =>
    cases result : Value.calculate operator a b with
    | error fault =>
      rw [result] at calculated
      cases calculated
    | ok c =>
      rw [result] at calculated
      cases calculated
      exact ⟨a, b, c, rfl, rfl, rfl⟩
  next => cases calculated

/-- A text beside a value makes a text of it, and two values without a text have to be integers. -/
theorem Joins.combine {operator : Operator} (first : Joins before left) (second : Joins after right)
    (combined : Value.combine operator left right = .ok joined) : Joins (before ++ after) joined := by
  unfold Value.combine at combined
  split at combined
  next joining =>
    cases combined
    refine ⟨?_, .inr (.inl rfl)⟩
    rw [List.any_append, ← first.isText, ← second.isText]
    exact (Bool.or_eq_true _ _ |>.mpr joining.2).symm
  next =>
    obtain ⟨a, b, c, rfl, rfl, rfl⟩ := numeric_ok combined
    refine ⟨?_, .inr (.inr ⟨rfl, List.forall_mem_append.mpr ⟨first.integers, second.integers⟩⟩)⟩
    rw [List.any_append, ← first.isText, ← second.isText]
    rfl

end Joining

section Feeding

variable {store : Store} {imports : List String} {operands : List Value} {operators : Nat} {state after : Stacks}

theorem applyTop_ok {top : Waiting} {values left : List Value} (applied : applyTop top values = .ok left) :
    ∃ second first rest joined, values = second :: first :: rest ∧
      Value.combine top.operator first second = .ok joined ∧ left = joined :: rest := by
  unfold applyTop at applied
  split at applied
  next second first rest =>
    split at applied
    next joined combined =>
      cases applied
      exact ⟨second, first, rest, joined, rfl, combined, rfl⟩
    next => cases applied
  next => cases applied

/-- An operator that is applied takes one value and itself off the stacks. -/
theorem Accounts.of_applyTop {top : Waiting} {waiting : List Waiting} {values left : List Value}
    (accounts : Accounts operands operators ⟨values, top :: waiting⟩) (applied : applyTop top values = .ok left) :
    Accounts operands operators ⟨left, waiting⟩ := by
  obtain ⟨holds, balance⟩ := accounts
  obtain ⟨second, first, rest, joined, rfl, combined, rfl⟩ := applyTop_ok applied
  cases holds with
  | push holds later =>
    cases holds with
    | push holds earlier =>
      rw [List.append_assoc] at balance ⊢
      refine ⟨.push holds (earlier.combine later combined), ?_⟩
      simp only [List.length_cons] at balance ⊢
      omega

theorem Accounts.of_unwind {precedence : Nat} {values : List Value} {waiting : List Waiting}
    (accounts : Accounts operands operators ⟨values, waiting⟩)
    (unwound : unwind precedence values waiting = .ok after) : Accounts operands operators after := by
  induction waiting generalizing values with
  | nil =>
    cases unwound
    exact accounts
  | cons top rest ih =>
    unfold unwind at unwound
    split at unwound
    next =>
      cases unwound
      exact accounts
    next =>
      split at unwound
      next left applied => exact ih (accounts.of_applyTop applied) unwound
      next => cases unwound

/-- At the end no operator waits. -/
theorem unwind_zero_waiting {values : List Value} {waiting : List Waiting}
    (unwound : unwind 0 values waiting = .ok after) : after.waiting = [] := by
  induction waiting generalizing values with
  | nil =>
    cases unwound
    rfl
  | cons top rest ih =>
    rw [unwind, if_neg (Nat.not_lt_zero _)] at unwound
    split at unwound
    next left _ => exact ih unwound
    next => cases unwound

theorem Accounts.of_operator (accounts : Accounts operands operators state) {token : Token}
    (isOperator : token.isOperator = true) (fed : feed store imports state token = .ok after) :
    Accounts operands (operators + 1) after := by
  obtain ⟨operator, reads⟩ := Option.isSome_iff_exists.mp isOperator
  rw [feed_operator reads] at fed
  cases unwound : unwind operator.precedence state.values state.waiting with
  | error error =>
    rw [unwound] at fed
    cases fed
  | ok middle =>
    rw [unwound] at fed
    cases fed
    obtain ⟨holds, balance⟩ := accounts.of_unwind unwound
    refine ⟨holds, ?_⟩
    simp only [List.length_cons]
    omega

theorem Accounts.of_operand (accounts : Accounts operands operators state) {token : Token}
    (isOperand : token.isOperand = true) (fed : feed store imports state token = .ok after) :
    ∃ value, operand store imports token = .ok (some value) ∧ Accounts (operands ++ [value]) operators after := by
  rw [feed_other (Token.operator?_of_isOperand isOperand)] at fed
  cases read : operand store imports token with
  | error error =>
    rw [read] at fed
    cases fed
  | ok found =>
    cases found with
    | none => exact absurd read (operand_ne_none isOperand)
    | some value =>
      rw [read] at fed
      cases fed
      refine ⟨value, rfl, .push accounts.holds (.single value), ?_⟩
      have balance := accounts.balance
      simp only [Option.toList_some, List.length_append, List.length_cons, List.length_nil]
      omega

theorem Accounts.of_feedAll {tokens : List Token} (accounts : Accounts operands operators state)
    (fed : feedAll store imports state tokens = .ok after) :
    ∃ more, Reads store imports tokens more ∧
      Accounts (operands ++ more) (operators + tokens.countP Token.isOperator) after := by
  induction tokens generalizing operands operators state with
  | nil =>
    cases fed
    exact ⟨[], rfl, by simpa using accounts⟩
  | cons token rest ih =>
    unfold feedAll at fed
    split at fed
    next middle first =>
      by_cases isOperator : token.isOperator = true
      · obtain ⟨more, reads, later⟩ := ih (accounts.of_operator isOperator first) fed
        refine ⟨more, ?_, ?_⟩
        · simpa [Reads, Token.isOperand_of_isOperator isOperator] using reads
        · rwa [List.countP_cons_of_pos isOperator, ← Nat.add_assoc, Nat.add_right_comm]
      · rw [List.countP_cons_of_neg isOperator]
        by_cases isOperand : token.isOperand = true
        · obtain ⟨value, read, pushed⟩ := accounts.of_operand isOperand first
          obtain ⟨more, reads, later⟩ := ih pushed fed
          refine ⟨value :: more, ?_, by simpa using later⟩
          simpa [Reads, isOperand, read] using reads
        · have passed : token.isOperative = false := by simp [Token.isOperative, isOperand, isOperator]
          obtain rfl : state = middle := by simpa [feed_inoperative passed] using first
          obtain ⟨more, reads, later⟩ := ih accounts fed
          exact ⟨more, by simpa [Reads, isOperand] using reads, later⟩
    next => cases fed

end Feeding

section Evaluation

/-- The fault is about the whole expression. -/
def Fault.ofWhole : Fault → Bool
  | emptyExpression => true
  | danglingOperands _ => true
  | _ => false

/-- The fault is about one operand or operator. -/
def Error.OfPart (error : Error) : Prop := error.fault.ofWhole = false

theorem Error.ofPart_of_ofApplying (error : Error) (applying : error.fault.ofApplying = true) : error.OfPart := by
  obtain ⟨fault, place⟩ := error
  cases fault with
  | missingOperand | evaluation => rfl
  | _ => cases applying

variable (store : Store) (imports : List String)

theorem operand_ofPart (token : Token) : FailsOnly Error.OfPart (operand store imports token) := by
  unfold operand
  split
  · split
    · exact .ok _
    · exact .error rfl
  · split
    · exact .ok _
    · exact .error rfl
  · exact .ok _
  · exact .ok _
  · exact .ok _
  · split
    · unfold libraryFault
      split <;> exact .error rfl
    · split
      · exact .ok _
      · exact .error rfl
  · exact .ok _

/-- An expression fails over a part of it, or all operands and operators are taken in and what is left decides. -/
theorem evaluate_cases (tokens : List Token) :
    (∃ error, evaluate store imports tokens = .error error ∧ error.OfPart) ∨
    ∃ operands values, Reads store imports tokens operands ∧ Holds operands values ∧
      operands.length = values.length + tokens.countP Token.isOperator ∧
      evaluate store imports tokens = soleValue (tokens.head?.map (·.position)) values := by
  have feeding := feedAll_failsOnly Error.ofPart_of_ofApplying {} fun token (_ : token ∈ tokens) =>
    operand_ofPart store imports token
  unfold evaluate
  cases fed : feedAll store imports {} tokens with
  | error error => exact .inl ⟨error, rfl, feeding error fed⟩
  | ok state =>
    have unwinding := unwind_failsOnly Error.ofPart_of_ofApplying 0 state.values state.waiting
    simp only [bind, Except.bind]
    cases unwound : unwind 0 state.values state.waiting with
    | error error => exact .inl ⟨error, rfl, unwinding error unwound⟩
    | ok left =>
      have start : Accounts [] 0 {} := ⟨.nil, rfl⟩
      obtain ⟨operands, reads, accounts⟩ := start.of_feedAll fed
      obtain ⟨holds, balance⟩ := accounts.of_unwind unwound
      rw [unwind_zero_waiting unwound] at balance
      exact .inr ⟨operands, left.values, reads, holds, by simpa using balance, rfl⟩

section Left

variable {place blamed : Option Position} {values : List Value}

theorem soleValue_ok {value : Value} (sole : soleValue place values = .ok value) : values = [value] := by
  unfold soleValue at sole
  split at sole
  · cases sole
    rfl
  · cases sole
  · cases sole

theorem soleValue_emptyExpression (failed : soleValue place values = .error ⟨.emptyExpression, blamed⟩) :
    values = [] := by
  unfold soleValue at failed
  split at failed
  · cases failed
  · rfl
  · cases failed

theorem soleValue_danglingOperands {count : Nat}
    (failed : soleValue place values = .error ⟨.danglingOperands count, blamed⟩) :
    values.length = count ∧ 2 ≤ count := by
  match values, failed with
  | _ :: _ :: rest, rfl => exact ⟨rfl, by simp⟩

end Left

theorem Reads.length {store : Store} {imports : List String} {tokens : List Token} {operands : List Value}
    (reads : Reads store imports tokens operands) : tokens.countP Token.isOperand = operands.length := by
  have same := congrArg List.length reads
  rwa [List.length_map, List.length_map, ← List.countP_eq_length_filter] at same

theorem Holds.eq_nil {operands : List Value} (holds : Holds operands []) : operands = [] := by
  cases holds
  rfl

theorem Holds.joins {operands : List Value} {value : Value} (holds : Holds operands [value]) :
    Joins operands value := by
  cases holds with
  | push below joins =>
    rw [below.eq_nil]
    exact joins

/-- Where there is no part, nothing is left. -/
theorem evaluate_of_partless {tokens : List Token} (operands : tokens.countP Token.isOperand = 0)
    (operators : tokens.countP Token.isOperator = 0) :
    evaluate store imports tokens = .error ⟨.emptyExpression, tokens.head?.map (·.position)⟩ := by
  have partless : tokens.filter Token.isOperative = [] := by
    rw [List.filter_eq_nil_iff]
    intro token member
    have noOperand := List.countP_eq_zero.mp operands token member
    have noOperator := List.countP_eq_zero.mp operators token member
    simp [Token.isOperative, noOperand, noOperator]
  rw [evaluate_eq_outcome, ← outcome_filter, partless]
  rfl

variable {store imports} {tokens : List Token}

theorem joins_of_evaluate {value : Value} (evaluated : evaluate store imports tokens = .ok value) :
    ∃ operands, Reads store imports tokens operands ∧ Joins operands value ∧
      operands.length = tokens.countP Token.isOperator + 1 := by
  rcases evaluate_cases store imports tokens with ⟨error, failed, _⟩ | ⟨operands, values, reads, holds, balance, left⟩
  · cases evaluated.symm.trans failed
  · obtain rfl := soleValue_ok (left.symm.trans evaluated)
    refine ⟨operands, reads, holds.joins, ?_⟩
    rw [balance, List.length_singleton, Nat.add_comm]

theorem left_of_evaluate {fault : Fault} {place : Option Position} (whole : fault.ofWhole = true)
    (failed : evaluate store imports tokens = .error ⟨fault, place⟩) :
    ∃ operands values, Reads store imports tokens operands ∧ Holds operands values ∧
      operands.length = values.length + tokens.countP Token.isOperator ∧
      soleValue (tokens.head?.map (·.position)) values = .error ⟨fault, place⟩ := by
  rcases evaluate_cases store imports tokens with ⟨error, raised, ofPart⟩ | ⟨operands, values, reads, holds, balance, left⟩
  · cases failed.symm.trans raised
    exact absurd whole (by simp [show fault.ofWhole = false from ofPart])
  · exact ⟨operands, values, reads, holds, balance, left.symm.trans failed⟩

theorem counts_of_danglingOperands {count : Nat} {place : Option Position}
    (failed : evaluate store imports tokens = .error ⟨.danglingOperands count, place⟩) :
    tokens.countP Token.isOperand = tokens.countP Token.isOperator + count ∧ 2 ≤ count := by
  obtain ⟨operands, values, reads, _, balance, left⟩ := left_of_evaluate rfl failed
  obtain ⟨same, several⟩ := soleValue_danglingOperands left
  rw [reads.length, balance, same, Nat.add_comm]
  exact ⟨rfl, several⟩

theorem counts_of_emptyExpression {place : Option Position}
    (failed : evaluate store imports tokens = .error ⟨.emptyExpression, place⟩) :
    tokens.countP Token.isOperand = 0 ∧ tokens.countP Token.isOperator = 0 := by
  obtain ⟨operands, values, reads, holds, balance, left⟩ := left_of_evaluate rfl failed
  obtain rfl := soleValue_emptyExpression left
  obtain rfl := holds.eq_nil
  exact ⟨reads.length, by simpa using balance.symm⟩

end Evaluation

/-- Whatever the order of the tokens: a value takes one operand more than there are operators, and where there is an
operator it is a text if an operand is one, and else an integer among integers. Values that are left over are the
operands without an operator, and nothing is left only where there was nothing. -/
theorem evaluate_accounts (store : Store) (imports : List String) (tokens : List Token) :
    (∀ value, evaluate store imports tokens = .ok value →
      ∃ operands, Reads store imports tokens operands ∧
        tokens.countP Token.isOperand = tokens.countP Token.isOperator + 1 ∧
        (0 < tokens.countP Token.isOperator →
          if operands.any Value.isText then value.isText = true
          else value.isInteger = true ∧ ∀ operand ∈ operands, operand.isInteger = true) ∧
        (value.isText = false → value.isInteger = false → operands = [value])) ∧
    (∀ count place, evaluate store imports tokens = .error ⟨.danglingOperands count, place⟩ →
      tokens.countP Token.isOperand = tokens.countP Token.isOperator + count ∧ 2 ≤ count) ∧
    ((∃ place, evaluate store imports tokens = .error ⟨.emptyExpression, place⟩) ↔
      tokens.countP Token.isOperand = 0 ∧ tokens.countP Token.isOperator = 0) := by
  refine ⟨?_, fun count place => counts_of_danglingOperands, ?_⟩
  · intro value evaluated
    obtain ⟨operands, reads, joins, balance⟩ := joins_of_evaluate evaluated
    refine ⟨operands, reads, reads.length.trans balance, ?_, ?_⟩
    · intro some
      have several : operands ≠ [value] := by
        rintro rfl
        exact Nat.ne_of_gt some (Nat.succ.inj balance).symm
      rw [← joins.isText]
      split
      next isText => exact isText
      next other => exact (joins.sort.resolve_left several).resolve_left other
    · intro notText notInteger
      rcases joins.sort with lone | isText | ⟨isInteger, _⟩
      · exact lone
      · cases notText.symm.trans isText
      · cases notInteger.symm.trans isInteger
  · constructor
    · rintro ⟨place, failed⟩
      exact counts_of_emptyExpression failed
    · rintro ⟨operands, operators⟩
      exact ⟨_, evaluate_of_partless store imports operands operators⟩

/-- In `1 ) "a" +` the operator comes last and still has its two operands. -/
theorem evaluate_accounts_postfix :
    let tokens : List Token :=
      [⟨.number, "1", ⟨1, 1⟩⟩, ⟨.rightParenthesis, ")", ⟨1, 3⟩⟩, ⟨.text, "a", ⟨1, 5⟩⟩, ⟨.plus, "+", ⟨1, 9⟩⟩]
    evaluate {} [] tokens = .ok (.text "1a") ∧
    ∃ operands, Reads {} [] tokens operands ∧ tokens.countP Token.isOperand = tokens.countP Token.isOperator + 1 ∧
      if operands.any Value.isText then (Value.text "1a").isText = true
      else (Value.text "1a").isInteger = true ∧ ∀ operand ∈ operands, operand.isInteger = true := by
  intro tokens
  have evaluated : evaluate {} [] tokens = .ok (.text "1a") := by rfl
  obtain ⟨operands, reads, counts, sorts, _⟩ := (evaluate_accounts {} [] tokens).1 _ evaluated
  exact ⟨evaluated, operands, reads, counts, sorts (by decide)⟩

end Run

end StreamScript
