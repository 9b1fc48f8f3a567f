import StreamScript.Proofs.FaultOrigins

/-! Expressions by their grammar. Where operands and operators take turns, an expression is a chain of terms, and
its value is computed from left to right at both levels. The stacks compute the same. An operator waits on them until
the next one is seen, but to apply it at once would make no difference: nothing is read in between. -/

namespace StreamScript

/-- The signs of an expression: `+`, `-`, `*`, `/` and `%`. -/
def Operator.signs : List (Kind × Operator) :=
  [(.plus, .add), (.minus, .subtract), (.star, .multiply), (.slash, .divide), (.percent, .remainder)]

namespace Token

def isOperand (token : Token) : Bool :=
  token.kind ∈ [.number, .floating, .text, .character, .boolean, .identifier]

/-- The operator that the token is a sign of. -/
def operator? (token : Token) : Option Operator := (Operator.signs.find? (·.1 = token.kind)).map Prod.snd

def isOperator (token : Token) : Bool := token.operator?.isSome

/-- The tokens of an expression that are not passed over. -/
def isOperative (token : Token) : Bool := token.isOperand || token.isOperator

/-- An expression is read by its signs. -/
theorem ofKind?_eq (token : Token) : Operator.ofKind? token.kind = token.operator? := by
  obtain ⟨kind, literal, position⟩ := token
  cases kind <;> rfl

theorem operator?_of_isOperand {token : Token} (isOperand : token.isOperand = true) : token.operator? = none := by
  have noSign : ∀ kind ∈ [Kind.number, .floating, .text, .character, .boolean, .identifier],
      Operator.signs.find? (·.1 = kind) = none := by decide
  rw [operator?, noSign token.kind (of_decide_eq_true isOperand)]
  rfl

end Token

namespace Run

/-- `operand (operator operand)*` -/
inductive Alternating : List Token → Prop where
  | single {operand : Token} (first : operand.isOperand = true) : Alternating [operand]
  | more {operand operator : Token} {rest : List Token} (first : operand.isOperand = true)
      (next : operator.isOperator = true) (later : Alternating rest) : Alternating (operand :: operator :: rest)

structure Operand where
  token : Token
  isOperand : token.isOperand = true

/-- A token for one of these operators. -/
structure Sign (among : List Operator) where
  token : Token
  operator : Operator
  reads : token.operator? = some operator
  listed : operator ∈ among

/-- `item (sign item)*` -/
structure Chain (among : List Operator) (α : Type) where
  first : α
  rest : List (Sign among × α)

/-- `operand ((* | / | %) operand)*` -/
abbrev Term := Chain [.multiply, .divide, .remainder] Operand

/-- `term ((+ | -) term)*` -/
abbrev Expression := Chain [.add, .subtract] Term

section Values

variable {among : List Operator} {α : Type}

theorem operand_ne_none {store : Store} {imports : List String} {token : Token} (isOperand : token.isOperand = true) :
    operand store imports token ≠ .ok none := by
  obtain ⟨kind, literal, position⟩ := token
  unfold operand
  cases kind with
  | number | floating | identifier => grind
  | text | character | boolean => simp
  | _ => cases isOperand

theorem operand_eq_none {store : Store} {imports : List String} {token : Token} (other : token.isOperand = false) :
    operand store imports token = .ok none := by
  obtain ⟨kind, literal, position⟩ := token
  cases kind <;> simp_all [Token.isOperand, operand]

/-- A fault of an operand stands at its token. -/
theorem operand_failsAt {store : Store} {imports : List String} {token : Token} {error : Error}
    (failed : operand store imports token = .error error) : ∃ fault, error = .ofToken token fault := by
  obtain ⟨kind, literal, position⟩ := token
  unfold operand at failed
  cases kind with
  | number | floating | identifier => grind
  | _ => cases failed

/-- A fault of the operator stands at its token. -/
def Sign.apply (sign : Sign among) (left right : Value) : Except Error Value :=
  (Value.combine sign.operator left right).mapError fun fault => ⟨.evaluation fault, some sign.token.position⟩

variable (store : Store) (imports : List String)

def Operand.value (read : Operand) : Except Error Value :=
  match found : operand store imports read.token with
  | .ok (some value) => .ok value
  | .ok none => absurd found (operand_ne_none read.isOperand)
  | .error error => .error error

namespace Chain

/-- The tokens behind the first item. -/
def tokensFrom (tokensOf : α → List Token) (links : List (Sign among × α)) : List Token :=
  links.flatMap fun (sign, item) => sign.token :: tokensOf item

def tokensBy (tokensOf : α → List Token) (chain : Chain among α) : List Token :=
  tokensOf chain.first ++ tokensFrom tokensOf chain.rest

/-- Goes on from the value of what stands to the left. -/
def valueFrom (valueOf : α → Except Error Value) (left : Value) : List (Sign among × α) → Except Error Value
  | [] => .ok left
  | (sign, item) :: rest => do
    let right ← valueOf item
    let joined ← sign.apply left right
    valueFrom valueOf joined rest

def valueBy (valueOf : α → Except Error Value) (chain : Chain among α) : Except Error Value := do
  let first ← valueOf chain.first
  valueFrom valueOf first chain.rest

end Chain

def Term.tokens (term : Term) : List Token := term.tokensBy fun read => [read.token]

def Expression.tokens (expression : Expression) : List Token := expression.tokensBy Term.tokens

def Term.value (term : Term) : Except Error Value := term.valueBy (Operand.value store imports)

def Expression.value (expression : Expression) : Except Error Value := expression.valueBy (Term.value store imports)

end Values

/-- Operands and operators that take turns are an expression. -/
theorem Alternating.exists_expression {tokens : List Token} (alternating : Alternating tokens) :
    ∃ expression : Expression, expression.tokens = tokens := by
  induction alternating with
  | single first => exact ⟨⟨⟨⟨_, first⟩, []⟩, []⟩, rfl⟩
  | @more operand token rest first next _ ih =>
    obtain ⟨later, rfl⟩ := ih
    obtain ⟨operator, reads⟩ := Option.isSome_iff_exists.mp next
    have level : operator ∈ [.multiply, .divide, .remainder] ∨ operator ∈ [.add, .subtract] := by
      cases operator <;> simp
    rcases level with tight | loose
    · refine ⟨⟨⟨⟨operand, first⟩, (⟨token, operator, reads, tight⟩, later.first.first) :: later.first.rest⟩,
        later.rest⟩, ?_⟩
      simp [Expression.tokens, Term.tokens, Chain.tokensBy, Chain.tokensFrom]
    · refine ⟨⟨⟨⟨operand, first⟩, []⟩, (⟨token, operator, reads, loose⟩, later.first) :: later.rest⟩, ?_⟩
      simp [Expression.tokens, Term.tokens, Chain.tokensBy, Chain.tokensFrom]

section Stacks

variable (store : Store) (imports : List String)

/-- The values that are left when all tokens are taken in and no operator waits any more. -/
def outcome (state : Stacks) (tokens : List Token) : Except Error (List Value) := do
  let fed ← feedAll store imports state tokens
  let unwound ← unwind 0 fed.values fed.waiting
  return unwound.values

def Sign.waiting {among : List Operator} (sign : Sign among) : Waiting := ⟨sign.operator, sign.token.position⟩

/-- Nothing follows, or an operator that binds no tighter than this. -/
def Yields (precedence : Nat) (rest : List Token) : Prop :=
  ∀ token ∈ rest.head?, ∃ operator, token.operator? = some operator ∧ operator.precedence ≤ precedence

/-- The operator on top of the stack, if any, binds less than this. -/
def Keeps (precedence : Nat) (waiting : List Waiting) : Prop :=
  ∀ top ∈ waiting.head?, top.operator.precedence < precedence

variable {store imports}

theorem evaluate_eq_outcome (tokens : List Token) :
    evaluate store imports tokens =
      outcome store imports {} tokens >>= soleValue (tokens.head?.map (·.position)) := by
  simp [evaluate, outcome]

/-- An operator waits on top of those that bind looser. -/
theorem feed_operator {token : Token} {operator : Operator} (reads : token.operator? = some operator) (state : Stacks) :
    feed store imports state token = (fun unwound : Stacks =>
        { unwound with waiting := ⟨operator, token.position⟩ :: unwound.waiting }) <$>
      unwind operator.precedence state.values state.waiting := by
  rw [feed, token.ofKind?_eq, reads]
  rfl

/-- Any other token leaves its value, if it has one. -/
theorem feed_other {token : Token} (noOperator : token.operator? = none) (state : Stacks) :
    feed store imports state token = (fun value : Option Value =>
        { state with values := value.toList ++ state.values }) <$> operand store imports token := by
  rw [feed, token.ofKind?_eq, noOperator]
  rcases operand store imports token with _ | _ | _ <;> rfl

theorem feed_inoperative {token : Token} (passed : token.isOperative = false) (state : Stacks) :
    feed store imports state token = .ok state := by
  rw [Token.isOperative, Bool.or_eq_false_iff] at passed
  have noOperator : token.operator? = none := by simpa [Token.isOperator] using passed.2
  rw [feed_other noOperator, operand_eq_none passed.1]
  rfl

theorem feedAll_cons (state : Stacks) (token : Token) (rest : List Token) :
    feedAll store imports state (token :: rest) =
      feed store imports state token >>= fun after => feedAll store imports after rest := by
  rw [feedAll]
  cases feed store imports state token <;> rfl

theorem feedAll_filter (state : Stacks) (tokens : List Token) :
    feedAll store imports state (tokens.filter Token.isOperative) = feedAll store imports state tokens := by
  induction tokens generalizing state with
  | nil => rfl
  | cons token rest ih =>
    by_cases operative : token.isOperative = true
    · rw [List.filter_cons_of_pos operative, feedAll_cons, feedAll_cons]
      simp only [ih]
    · rw [List.filter_cons_of_neg operative, feedAll_cons, feed_inoperative (Bool.eq_false_iff.mpr operative)]
      exact ih state

theorem outcome_filter (state : Stacks) (tokens : List Token) :
    outcome store imports state (tokens.filter Token.isOperative) = outcome store imports state tokens := by
  rw [outcome, outcome, feedAll_filter]

theorem outcome_cons (state : Stacks) (token : Token) (rest : List Token) :
    outcome store imports state (token :: rest) =
      feed store imports state token >>= fun after => outcome store imports after rest := by
  simp [outcome, feedAll_cons]

theorem outcome_nil (state : Stacks) :
    outcome store imports state [] = Stacks.values <$> unwind 0 state.values state.waiting := rfl

theorem operand_eq_value (read : Operand) :
    operand store imports read.token = some <$> read.value store imports := by
  unfold Operand.value
  split
  next found => exact found
  next found => exact absurd found (operand_ne_none read.isOperand)
  next found => exact found

theorem outcome_operand (read : Operand) (state : Stacks) (rest : List Token) :
    outcome store imports state (read.token :: rest) =
      read.value store imports >>= fun value =>
        outcome store imports { state with values := value :: state.values } rest := by
  rw [outcome_cons, feed_other (Token.operator?_of_isOperand read.isOperand)]
  simp [operand_eq_value]

variable {among : List Operator} {values : List Value} {waiting : List Waiting} {rest : List Token}

theorem unwind_of_keeps {precedence : Nat} (keeps : Keeps precedence waiting) (values : List Value) :
    unwind precedence values waiting = .ok ⟨values, waiting⟩ := by
  cases waiting with
  | nil => rfl
  | cons top below => rw [unwind, if_pos (keeps top rfl)]

theorem unwind_sign {precedence : Nat} (sign : Sign among) (binds : precedence ≤ sign.operator.precedence)
    (left right : Value) (values : List Value) (waiting : List Waiting) :
    unwind precedence (right :: left :: values) (sign.waiting :: waiting) =
      sign.apply left right >>= fun joined => unwind precedence (joined :: values) waiting := by
  rw [unwind, if_neg (by simpa [Sign.waiting] using binds), applyTop, Sign.apply]
  simp only [Sign.waiting]
  cases Value.combine sign.operator left right <;> rfl

theorem outcome_sign (sign : Sign among) (keeps : Keeps sign.operator.precedence waiting) (values : List Value)
    (rest : List Token) :
    outcome store imports ⟨values, waiting⟩ (sign.token :: rest) =
      outcome store imports ⟨values, sign.waiting :: waiting⟩ rest := by
  rw [outcome_cons, feed_operator sign.reads]
  simp only [unwind_of_keeps keeps]
  rfl

/-- An operator that waits is the next to be applied, so it can be applied before anything else is read. -/
theorem outcome_apply_early (sign : Sign among) (yields : Yields sign.operator.precedence rest) (left right : Value) :
    outcome store imports ⟨right :: left :: values, sign.waiting :: waiting⟩ rest =
      sign.apply left right >>= fun joined => outcome store imports ⟨joined :: values, waiting⟩ rest := by
  cases rest with
  | nil => simp [outcome_nil, unwind_sign sign (Nat.zero_le _)]
  | cons token later =>
    obtain ⟨operator, reads, looser⟩ := yields token rfl
    simp [outcome_cons, feed_operator reads, unwind_sign sign looser]

end Stacks

section Chains

variable (store : Store) (imports : List String) {α : Type}

/-- An item that is read on top of operators of lower levels, and in front of an operator that is not of a higher
level, leaves its value on top. -/
def Pushes (level : Nat) (tokensOf : α → List Token) (valueOf : α → Except Error Value) : Prop :=
  ∀ item values waiting rest, Keeps level waiting → Yields level rest →
    outcome store imports ⟨values, waiting⟩ (tokensOf item ++ rest) =
      valueOf item >>= fun value => outcome store imports ⟨value :: values, waiting⟩ rest

variable {store imports} {among : List Operator} {level : Nat} {tokensOf : α → List Token}
  {valueOf : α → Except Error Value}

theorem Keeps.mono {lower : Nat} {waiting : List Waiting} (keeps : Keeps lower waiting) (le : lower ≤ level) :
    Keeps level waiting :=
  fun top first => Nat.lt_of_lt_of_le (keeps top first) le

theorem Yields.mono {lower : Nat} {rest : List Token} (yields : Yields lower rest) (le : lower ≤ level) :
    Yields level rest := by
  intro token first
  obtain ⟨operator, reads, looser⟩ := yields token first
  exact ⟨operator, reads, Nat.le_trans looser le⟩

theorem pushes_operand (store : Store) (imports : List String) (level : Nat) :
    Pushes store imports level (fun read : Operand => [read.token]) (Operand.value store imports) := by
  intro read values waiting rest _ _
  exact outcome_operand read ⟨values, waiting⟩ rest

/-- Behind an item of a chain an operator of its level follows, or the chain ends. -/
theorem yields_tokensFrom (binds : ∀ operator ∈ among, operator.precedence = level) (tokensOf : α → List Token)
    (links : List (Sign among × α)) {rest : List Token} (yields : Yields level rest) :
    Yields level (Chain.tokensFrom tokensOf links ++ rest) := by
  cases links with
  | nil => exact yields
  | cons link later =>
    intro token first
    cases first
    exact ⟨link.1.operator, link.1.reads, Nat.le_of_eq (binds _ link.1.listed)⟩

theorem outcome_valueFrom (binds : ∀ operator ∈ among, operator.precedence = level)
    (pushes : Pushes store imports (level + 1) tokensOf valueOf) {values : List Value} {waiting : List Waiting}
    {rest : List Token} (keeps : Keeps level waiting) (yields : Yields level rest) (left : Value)
    (links : List (Sign among × α)) :
    outcome store imports ⟨left :: values, waiting⟩ (Chain.tokensFrom tokensOf links ++ rest) =
      Chain.valueFrom valueOf left links >>= fun value => outcome store imports ⟨value :: values, waiting⟩ rest := by
  -- Each operator waits while the item behind it is read, and is applied before the next one is seen.
  induction links generalizing left with
  | nil => rfl
  | cons link later ih =>
    obtain ⟨sign, item⟩ := link
    have precedence := binds sign.operator sign.listed
    have follows := yields_tokensFrom binds tokensOf later yields
    have under : Keeps (level + 1) (sign.waiting :: waiting) := by
      intro top first
      cases first
      simp [Sign.waiting, precedence]
    have split : Chain.tokensFrom tokensOf ((sign, item) :: later) ++ rest =
        sign.token :: (tokensOf item ++ (Chain.tokensFrom tokensOf later ++ rest)) := by
      simp [Chain.tokensFrom]
    rw [split, outcome_sign sign (by rwa [precedence]), pushes item _ _ _ under (follows.mono (Nat.le_succ level)),
      Chain.valueFrom]
    simp only [outcome_apply_early sign (precedence ▸ follows), ih, bind_assoc]

/-- A chain of items that leave their values leaves its own. -/
theorem pushes_chain (binds : ∀ operator ∈ among, operator.precedence = level)
    (pushes : Pushes store imports (level + 1) tokensOf valueOf) :
    Pushes store imports level (fun chain : Chain among α => chain.tokensBy tokensOf) (Chain.valueBy valueOf) := by
  intro chain values waiting rest keeps yields
  have follows := yields_tokensFrom binds tokensOf chain.rest yields
  simp only [Chain.tokensBy]
  rw [List.append_assoc, pushes chain.first _ _ _ (keeps.mono (Nat.le_succ level)) (follows.mono (Nat.le_succ level)),
    Chain.valueBy]
  simp only [outcome_valueFrom binds pushes keeps yields, bind_assoc]

theorem pushes_term (store : Store) (imports : List String) :
    Pushes store imports 2 Term.tokens (Term.value store imports) :=
  pushes_chain (by decide) (pushes_operand store imports 3)

theorem pushes_expression (store : Store) (imports : List String) :
    Pushes store imports 1 Expression.tokens (Expression.value store imports) :=
  pushes_chain (by decide) (pushes_term store imports)

end Chains

section Faults

/-- A fault of one of the tokens: an operand that has no value, or an operator that fails on two values. It stands at
the token. -/
inductive FaultAmong (store : Store) (imports : List String) (tokens : List Token) : Error → Prop where
  | operand {token : Token} {fault : Fault} (member : token ∈ tokens) (isOperand : token.isOperand = true)
      (fails : operand store imports token = .error (.ofToken token fault)) :
      FaultAmong store imports tokens (.ofToken token fault)
  | operator {token : Token} {operator : Operator} {left right : Value} {fault : Value.Fault}
      (member : token ∈ tokens) (reads : token.operator? = some operator)
      (fails : Value.combine operator left right = .error fault) :
      FaultAmong store imports tokens (.ofToken token (.evaluation fault))

variable {store : Store} {imports : List String} {among : List Operator} {α : Type} {tokensOf : α → List Token}
  {valueOf : α → Except Error Value}

theorem FaultAmong.mono {tokens more : List Token} {error : Error} (found : FaultAmong store imports tokens error)
    (within : tokens ⊆ more) : FaultAmong store imports more error := by
  cases found with
  | operand member isOperand fails => exact .operand (within member) isOperand fails
  | operator member reads fails => exact .operator (within member) reads fails

theorem Operand.value_failsOnly (read : Operand) :
    FailsOnly (FaultAmong store imports [read.token]) (read.value store imports) := by
  intro error failed
  have raised : operand store imports read.token = .error error := by
    rw [operand_eq_value, failed]
    rfl
  obtain ⟨fault, rfl⟩ := operand_failsAt raised
  exact .operand (List.mem_singleton_self _) read.isOperand raised

theorem Sign.apply_failsOnly (sign : Sign among) (left right : Value) :
    FailsOnly (FaultAmong store imports [sign.token]) (sign.apply left right) := by
  rw [Sign.apply]
  cases failed : Value.combine sign.operator left right with
  | ok value => exact .ok value
  | error fault => exact .error (.operator (List.mem_singleton_self _) sign.reads failed)

theorem Chain.valueFrom_failsOnly
    (items : ∀ item, FailsOnly (FaultAmong store imports (tokensOf item)) (valueOf item)) (left : Value)
    (links : List (Sign among × α)) :
    FailsOnly (FaultAmong store imports (tokensFrom tokensOf links)) (valueFrom valueOf left links) := by
  induction links generalizing left with
  | nil => exact .ok left
  | cons link later ih =>
    obtain ⟨sign, item⟩ := link
    have split : tokensFrom tokensOf ((sign, item) :: later) =
        sign.token :: (tokensOf item ++ tokensFrom tokensOf later) := by
      simp [tokensFrom]
    rw [split, valueFrom]
    refine .bind ((items item).mono fun _ found => found.mono (by simp)) fun right => ?_
    refine .bind ((sign.apply_failsOnly left right).mono fun _ found => found.mono (by simp)) fun joined => ?_
    exact (ih joined).mono fun _ found => found.mono (by simp)

theorem Chain.valueBy_failsOnly
    (items : ∀ item, FailsOnly (FaultAmong store imports (tokensOf item)) (valueOf item)) (chain : Chain among α) :
    FailsOnly (FaultAmong store imports (chain.tokensBy tokensOf)) (chain.valueBy valueOf) := by
  refine .bind ((items chain.first).mono fun _ found => found.mono (by simp [tokensBy])) fun first => ?_
  exact (valueFrom_failsOnly items first chain.rest).mono fun _ found => found.mono (by simp [tokensBy])

theorem Expression.value_failsOnly (expression : Expression) :
    FailsOnly (FaultAmong store imports expression.tokens) (expression.value store imports) :=
  Chain.valueBy_failsOnly (Chain.valueBy_failsOnly Operand.value_failsOnly) expression

end Faults

/-- An expression whose operands and operators take turns, whatever else stands between them, can be read by the
grammar, and it evaluates to what its terms and operands give from left to right: the value, or the first fault, which
stands at the operand or at the operator that it belongs to. -/
theorem evaluate_follows_grammar {tokens : List Token}
    (alternating : Alternating (tokens.filter Token.isOperative)) :
    (∃ expression : Expression, expression.tokens = tokens.filter Token.isOperative) ∧
    ∀ expression : Expression, expression.tokens = tokens.filter Token.isOperative → ∀ store imports,
      evaluate store imports tokens = expression.value store imports ∧
      FailsOnly (FaultAmong store imports expression.tokens) (expression.value store imports) := by
  refine ⟨alternating.exists_expression, ?_⟩
  intro expression same store imports
  refine ⟨?_, expression.value_failsOnly⟩
  have pushed := pushes_expression store imports expression [] [] [] (by simp [Keeps]) (by simp [Yields])
  rw [List.append_nil, same, outcome_filter] at pushed
  rw [evaluate_eq_outcome, pushed]
  cases expression.value store imports <;> rfl

/-- In `1 / 0 (+ y` the division fails, before the name without a value is read. -/
theorem evaluate_follows_grammar_division :
    let tokens : List Token :=
      [⟨.number, "1", ⟨1, 1⟩⟩, ⟨.slash, "/", ⟨1, 3⟩⟩, ⟨.number, "0", ⟨1, 5⟩⟩, ⟨.leftParenthesis, "(", ⟨1, 7⟩⟩,
      ⟨.plus, "+", ⟨1, 8⟩⟩, ⟨.identifier, "y", ⟨1, 10⟩⟩]
    Alternating (tokens.filter Token.isOperative) ∧
    evaluate {} [] tokens = .error ⟨.evaluation .divisionByZero, some ⟨1, 3⟩⟩ ∧
    ∃ expression : Expression, expression.tokens = tokens.filter Token.isOperative ∧
      expression.value {} [] = .error ⟨.evaluation .divisionByZero, some ⟨1, 3⟩⟩ := by
  intro tokens
  have alternating : Alternating (tokens.filter Token.isOperative) := .more rfl rfl (.more rfl rfl (.single rfl))
  have failed : evaluate {} [] tokens = .error ⟨.evaluation .divisionByZero, some ⟨1, 3⟩⟩ := by rfl
  obtain ⟨⟨expression, parsed⟩, agrees⟩ := evaluate_follows_grammar alternating
  exact ⟨alternating, failed, expression, parsed, (agrees expression parsed {} []).1.symm.trans failed⟩

end Run

end StreamScript
