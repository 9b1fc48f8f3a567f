import Mathlib.Data.List.Forall2
import StreamScript.Diagnostic
import StreamScript.Run.Statement

/-! Moving the tokens of a program to other places. No expression and no statement looks at where its tokens
stand, so the same value comes out, or the same fault of the same token at its new place. The new places need
not be distinct: any function on places will do. -/

namespace StreamScript

def Token.relocate (move : Position → Position) (token : Token) : Token :=
  { token with position := move token.position }

namespace Stream

/-- Where an item stands. -/
def place : Item → Position
  | .ok token => token.position
  | .error error => .ofLine error.line

/-- The second item is the first one where it was moved to. A bad line can only go to another line. -/
inductive Moved (move : Position → Position) : Item → Item → Prop where
  | token (token : Token) : Moved move (.ok token) (.ok (token.relocate move))
  | badLine {fault : Fault} {line other : Nat} (there : move (.ofLine line) = .ofLine other) :
      Moved move (.error ⟨fault, line⟩) (.error ⟨fault, other⟩)

theorem Moved.of_place {move : Position → Position} {item : Item} (stays : move (place item) = place item) :
    Moved move item item := by
  cases item with
  | ok token =>
    have here : move token.position = token.position := stays
    have same : token.relocate move = token := by rw [Token.relocate, here]
    have moved := @Moved.token move token
    rwa [same] at moved
  | error error => exact .badLine stays

theorem moved_tokens (move : Position → Position) (tokens : List Token) :
    List.Forall₂ (Moved move) (tokens.map .ok) ((tokens.map (Token.relocate move)).map .ok) := by
  induction tokens with
  | nil => exact .nil
  | cons token _ ih => exact .cons (.token token) ih

end Stream

def Diagnostic.relocate (move : Position → Position) (diagnostic : Diagnostic) : Diagnostic :=
  { diagnostic with position := diagnostic.position.map move }

namespace Run

def Error.relocate (move : Position → Position) (error : Error) : Error :=
  { error with position := error.position.map move }

def Waiting.relocate (move : Position → Position) (waiting : Waiting) : Waiting :=
  { waiting with position := move waiting.position }

def Stacks.relocate (move : Position → Position) (state : Stacks) : Stacks :=
  { state with waiting := state.waiting.map (Waiting.relocate move) }

def Statement.relocate (move : Position → Position) : Statement → Statement
  | declaration type name separator value =>
    declaration (type.relocate move) (name.relocate move) (separator.relocate move) (value.map (Token.relocate move))
  | prompted name library prompt inputType =>
    prompted (name.relocate move) (library.relocate move) (prompt.relocate move) (inputType.relocate move)
  | assignment name value => assignment (name.relocate move) (value.map (Token.relocate move))
  | call library method argument => call (library.relocate move) method (argument.relocate move)
  | print value => print (value.relocate move)
  | unrecognized first => unrecognized (first.relocate move)

variable (move : Position → Position)

@[simp] theorem mapError_error {ε α : Type} (error : ε) (change : ε → ε) :
    (Except.error error : Except ε α).mapError change = .error (change error) := rfl

@[simp] theorem mapError_ok {ε α : Type} (value : α) (change : ε → ε) :
    (Except.ok value : Except ε α).mapError change = .ok value := rfl

theorem mapError_bind {ε α β : Type} (first : Except ε α) (next : α → Except ε β) (change : ε → ε) :
    (first >>= next).mapError change = first.mapError change >>= fun value => (next value).mapError change := by
  cases first <;> rfl

theorem mapError_map {ε α β : Type} (first : Except ε α) (next : α → β) (change : ε → ε) :
    (first.map next).mapError change = (first.mapError change).map next := by
  cases first <;> rfl

@[simp] theorem kind_relocate (token : Token) : (token.relocate move).kind = token.kind := rfl

@[simp] theorem literal_relocate (token : Token) : (token.relocate move).literal = token.literal := rfl

@[simp] theorem is_relocate (token : Token) (kind : Kind) : (token.relocate move).is kind = token.is kind := rfl

@[simp] theorem isNamed_relocate (token : Token) (name : String) :
    (token.relocate move).isNamed name = token.isNamed name := rfl

theorem operand_relocate (store : Store) (imports : List String) (token : Token) :
    operand store imports (token.relocate move) = (operand store imports token).mapError (Error.relocate move) := by
  obtain ⟨kind, literal, position⟩ := token
  cases kind with
  | number =>
    simp only [operand, Token.relocate]
    cases Number.readInt32 literal <;> rfl
  | floating =>
    simp only [operand, Token.relocate]
    cases Number.readBinary64 literal <;> rfl
  | identifier =>
    simp only [operand, Token.relocate]
    by_cases library : literal = outputName
    · simp only [library, if_true]
      rfl
    · simp only [library, if_false]
      cases store.value? literal <;> rfl
  | _ => rfl

theorem applyTop_relocate (top : Waiting) (values : List Value) :
    applyTop (top.relocate move) values = (applyTop top values).mapError (Error.relocate move) := by
  match values with
  | [] => rfl
  | [_] => rfl
  | right :: left :: rest =>
    simp only [applyTop, Waiting.relocate]
    cases Value.combine top.operator left right <;> rfl

theorem unwind_relocate (precedence : Nat) (values : List Value) (waiting : List Waiting) :
    unwind precedence values (waiting.map (Waiting.relocate move)) =
      ((unwind precedence values waiting).mapError (Error.relocate move)).map (Stacks.relocate move) := by
  induction waiting generalizing values with
  | nil => rfl
  | cons top rest ih =>
    have applied := applyTop_relocate move top values
    simp only [List.map_cons, unwind, applied]
    change (if top.operator.precedence < precedence then _ else _) = _
    split
    · rfl
    · cases applyTop top values with
      | ok values => exact ih values
      | error error => rfl

theorem feed_relocate (store : Store) (imports : List String) (state : Stacks) (token : Token) :
    feed store imports (state.relocate move) (token.relocate move) =
      ((feed store imports state token).mapError (Error.relocate move)).map (Stacks.relocate move) := by
  have unwound := unwind_relocate move
  have value := operand_relocate move store imports token
  simp only [feed, kind_relocate]
  cases Operator.ofKind? token.kind with
  | some operator =>
    simp only [Stacks.relocate, unwound]
    cases unwind operator.precedence state.values state.waiting <;> rfl
  | none =>
    simp only [value]
    cases operand store imports token with
    | error error => rfl
    | ok found => cases found <;> rfl

theorem feedAll_relocate (store : Store) (imports : List String) (state : Stacks) (tokens : List Token) :
    feedAll store imports (state.relocate move) (tokens.map (Token.relocate move)) =
      ((feedAll store imports state tokens).mapError (Error.relocate move)).map (Stacks.relocate move) := by
  induction tokens generalizing state with
  | nil => rfl
  | cons token rest ih =>
    simp only [List.map_cons, feedAll, feed_relocate]
    cases feed store imports state token with
    | error error => rfl
    | ok state => exact ih state

theorem soleValue_relocate (place : Option Position) (values : List Value) :
    soleValue (place.map move) values = (soleValue place values).mapError (Error.relocate move) := by
  match values with
  | [] => rfl
  | [_] => rfl
  | _ :: _ :: _ => rfl

theorem firstPosition_relocate (tokens : List Token) :
    (tokens.map (Token.relocate move)).head?.map (·.position) = (tokens.head?.map (·.position)).map move := by
  cases tokens <;> rfl

theorem evaluate_relocate (store : Store) (imports : List String) (tokens : List Token) :
    evaluate store imports (tokens.map (Token.relocate move)) =
      (evaluate store imports tokens).mapError (Error.relocate move) := by
  have fed := feedAll_relocate move store imports {} tokens
  change feedAll store imports {} (tokens.map (Token.relocate move)) = _ at fed
  simp only [evaluate, firstPosition_relocate, soleValue_relocate, fed]
  cases feedAll store imports {} tokens with
  | error error => rfl
  | ok state =>
    change (unwind 0 state.values (state.waiting.map (Waiting.relocate move)) >>= _) =
      (unwind 0 state.values state.waiting >>= _).mapError _
    rw [unwind_relocate]
    cases unwind 0 state.values state.waiting <;> rfl

namespace Statement

theorem declaration?_relocate (tokens : List Token) :
    declaration? (tokens.map (Token.relocate move)) = (declaration? tokens).map (Statement.relocate move) := by
  match tokens with
  | [] | [_] | [_, _] | [_, _, _] => rfl
  | var :: type :: name :: separator :: value =>
    simp only [List.map_cons, declaration?, is_relocate, List.isEmpty_map]
    rw [apply_ite (Option.map (Statement.relocate move))]
    rfl

theorem prompted?_relocate (tokens : List Token) :
    prompted? (tokens.map (Token.relocate move)) = (prompted? tokens).map (Statement.relocate move) := by
  match tokens with
  | [name, equal, library, dot, input, opening, prompt, closing, typeOpening, inputType, typeClosing] =>
    simp only [List.map_cons, List.map_nil, prompted?, is_relocate, isNamed_relocate]
    rw [apply_ite (Option.map (Statement.relocate move))]
    rfl
  | [] | [_] | [_, _] | [_, _, _] | [_, _, _, _] | [_, _, _, _, _] | [_, _, _, _, _, _] | [_, _, _, _, _, _, _]
  | [_, _, _, _, _, _, _, _] | [_, _, _, _, _, _, _, _, _] | [_, _, _, _, _, _, _, _, _, _]
  | _ :: _ :: _ :: _ :: _ :: _ :: _ :: _ :: _ :: _ :: _ :: _ :: _ => rfl

theorem assignment?_relocate (tokens : List Token) :
    assignment? (tokens.map (Token.relocate move)) = (assignment? tokens).map (Statement.relocate move) := by
  match tokens with
  | [] | [_] => rfl
  | name :: equal :: value =>
    simp only [List.map_cons, assignment?, is_relocate, List.isEmpty_map]
    rw [apply_ite (Option.map (Statement.relocate move))]
    rfl

theorem call?_relocate (tokens : List Token) :
    call? (tokens.map (Token.relocate move)) = (call? tokens).map (Statement.relocate move) := by
  match tokens with
  | [library, dot, method, opening, argument, closing] =>
    simp only [List.map_cons, List.map_nil, call?, is_relocate, isNamed_relocate, literal_relocate]
    rw [apply_ite (Option.map (Statement.relocate move)), Option.map_map]
    rfl
  | [] | [_] | [_, _] | [_, _, _] | [_, _, _, _] | [_, _, _, _, _] | _ :: _ :: _ :: _ :: _ :: _ :: _ :: _ => rfl

theorem print?_relocate (tokens : List Token) :
    print? (tokens.map (Token.relocate move)) = (print? tokens).map (Statement.relocate move) := by
  match tokens with
  | [word, value] =>
    simp only [List.map_cons, List.map_nil, print?, is_relocate]
    rw [apply_ite (Option.map (Statement.relocate move))]
    rfl
  | [] | [_] | _ :: _ :: _ :: _ => rfl

/-- The form of a statement and its parts do not depend on places. -/
theorem classify_relocate (tokens : List Token) :
    classify (tokens.map (Token.relocate move)) = (classify tokens).map (Statement.relocate move) := by
  have first : (tokens.map (Token.relocate move)).head?.map unrecognized =
      (tokens.head?.map unrecognized).map (Statement.relocate move) := by
    cases tokens <;> rfl
  simp only [classify, declaration?_relocate, prompted?_relocate, assignment?_relocate, call?_relocate,
    print?_relocate, first, Option.map_or]

theorem name_relocate (statement : Statement) : (statement.relocate move).name = statement.name := by
  cases statement <;> rfl

end Statement

end Run

end StreamScript
