import StreamScript.Command.Plan

/-! What the check of declarations decides. Of every place in a program it can be said by itself whether the token
there is out of order, and how: from what stands behind it and from the declarations before it. The check goes over
the tokens once, from declaration to declaration, and stops at the first token that is. -/

namespace StreamScript.Scope

/-- At the index stands a whole declaration of the name: a type, the name, an equals sign and something more. -/
def DeclaresAt (tokens : List Token) (index : Nat) (name : Token) : Prop :=
  ∃ var type equal value, tokens.drop index = var :: type :: name :: equal :: value ∧ var.kind = .varWord ∧
    type.kind = .identifier ∧ name.kind = .identifier ∧ equal.kind = .equal ∧ value ≠ []

/-- At the index stands this name with an equals sign behind it. -/
def AssignsAt (tokens : List Token) (index : Nat) (name : Token) : Prop :=
  ∃ equal value, tokens.drop index = name :: equal :: value ∧ name.kind = .identifier ∧ equal.kind = .equal

/-- A declaration before the index has the name. -/
def KnownAt (tokens : List Token) (index : Nat) (name : String) : Prop :=
  ∃ earlier < index, ∃ declared, DeclaresAt tokens earlier declared ∧ declared.literal = name

/-- Every declaration is whole, no name is declared twice, and a name that is assigned outside of its declaration has
been declared. -/
structure InOrder (tokens : List Token) : Prop where
  whole : ∀ index var rest, tokens.drop index = var :: rest → var.kind = .varWord → ∃ name, DeclaresAt tokens index name
  once : ∀ first second name other, DeclaresAt tokens first name → DeclaresAt tokens second other →
    name.literal = other.literal → first = second
  before : ∀ index name, AssignsAt tokens index name →
    (∃ start, start + 2 = index ∧ DeclaresAt tokens start name) ∨ KnownAt tokens index name.literal

/-- The token at the index is out of order. -/
inductive OffendsAt (tokens : List Token) (index : Nat) : Error → Prop where
  | incomplete {var : Token} {rest : List Token} (here : tokens.drop index = var :: rest) (isVar : var.kind = .varWord)
      (short : rest.length < 4) : OffendsAt tokens index ⟨.incompleteDeclaration, var.position⟩
  | invalid {var type name equal : Token} {value : List Token}
      (here : tokens.drop index = var :: type :: name :: equal :: value) (isVar : var.kind = .varWord)
      (filled : value ≠ []) (misshapen : ¬ DeclaresAt tokens index name) :
      OffendsAt tokens index ⟨.invalidDeclaration, name.position⟩
  | repeated {name : Token} (declares : DeclaresAt tokens index name) (known : KnownAt tokens index name.literal) :
      OffendsAt tokens index ⟨.alreadyDeclared name.literal, name.position⟩
  | undeclared {name : Token} (assigns : AssignsAt tokens index name)
      (apart : ∀ start, start + 2 = index → ¬ DeclaresAt tokens start name)
      (unknown : ¬ KnownAt tokens index name.literal) :
      OffendsAt tokens index ⟨.undeclared name.literal, name.position⟩

def FirstOffence (tokens : List Token) (index : Nat) (error : Error) : Prop :=
  OffendsAt tokens index error ∧ ∀ earlier < index, ∀ other, ¬ OffendsAt tokens earlier other

/-- The name of the declaration that begins with `var`, if it is a new one. -/
def declaredName (declared : List String) (var : Token) : List Token → Except Error String
  | type :: name :: equal :: _ :: _ =>
    if !(type.is .identifier && name.is .identifier && equal.is .equal) then
      .error ⟨.invalidDeclaration, name.position⟩
    else if declared.contains name.literal then .error ⟨.alreadyDeclared name.literal, name.position⟩
    else .ok name.literal
  | _ => .error ⟨.incompleteDeclaration, var.position⟩

/-- The check by indices. A token outside of the list is no token, and then there is no answer. -/
def scanAt (tokens : List Token) (declared : List String) (index : Nat) : Option (Except Error Unit) :=
  if index < tokens.length then
    match tokens[index]? with
    | none => none
    | some token =>
      if token.is .varWord then
        if index + 1 ≤ tokens.length then
          match declaredName declared token (tokens.drop (index + 1)) with
          | .error error => some (.error error)
          | .ok name => scanAt tokens (name :: declared) (index + 4)
        else none
      else if token.is .identifier && (tokens[index + 1]?).any (·.is .equal) && !declared.contains token.literal then
        some (.error ⟨.undeclared token.literal, token.position⟩)
      else scanAt tokens declared (index + 1)
  else some (.ok ())
termination_by tokens.length - index

section Steps

variable {declared : List String} {token : Token} {rest : List Token}

theorem checkFrom_of_var (isVar : token.kind = .varWord) :
    checkFrom declared (token :: rest) =
      declaredName declared token rest >>= fun name => checkFrom (name :: declared) (rest.drop 3) := by
  match rest with
  | [] | [_] | [_, _] | [_, _, _] =>
    simp only [checkFrom, declaredName, Token.is, isVar, decide_true, if_true]
    rfl
  | type :: name :: equal :: first :: value =>
    rw [checkFrom, if_pos (by simp [Token.is, isVar]), if_neg (by simp), declaredName]
    split
    next => rfl
    next => split <;> rfl

theorem checkFrom_of_other (notVar : token.kind ≠ .varWord) :
    checkFrom declared (token :: rest) =
      if assigns token rest && !declared.contains token.literal then .error ⟨.undeclared token.literal, token.position⟩
      else checkFrom declared rest := by
  rw [checkFrom.eq_def]
  simp [Token.is, notVar]

end Steps

section Places

variable {tokens rest : List Token} {index : Nat} {token name : Token} {error : Error}

theorem drop_behind (front : List Token) (here : tokens.drop index = front ++ rest) :
    tokens.drop (index + front.length) = rest := by
  rw [← List.drop_drop, here, List.drop_left]

theorem exists_of_index_lt (inside : index < tokens.length) : ∃ token rest, tokens.drop index = token :: rest :=
  List.exists_cons_of_ne_nil (by simpa using inside)

theorem DeclaresAt.isVar (declares : DeclaresAt tokens index name) (here : tokens.drop index = token :: rest) :
    token.kind = .varWord := by
  obtain ⟨var, type, equal, value, place, isVar, _⟩ := declares
  cases here.symm.trans place
  exact isVar

theorem DeclaresAt.unique {other : Token} (declares : DeclaresAt tokens index name)
    (again : DeclaresAt tokens index other) : name = other := by
  obtain ⟨_, _, _, _, place, _⟩ := declares
  obtain ⟨_, _, _, _, same, _⟩ := again
  cases place.symm.trans same
  rfl

theorem DeclaresAt.length_le (declares : DeclaresAt tokens index name) (here : tokens.drop index = token :: rest) :
    4 ≤ rest.length := by
  obtain ⟨_, _, _, value, place, _, _, _, _, filled⟩ := declares
  cases here.symm.trans place
  have more := List.length_pos_iff.mpr filled
  simp only [List.length_cons]
  omega

theorem AssignsAt.assigns (assigning : AssignsAt tokens index name) (here : tokens.drop index = token :: rest) :
    token = name ∧ assigns token rest = true := by
  obtain ⟨equal, value, place, named, equals⟩ := assigning
  cases here.symm.trans place
  exact ⟨rfl, by simp [Scope.assigns, Token.is, named, equals]⟩

theorem assignsAt_of_assigns (here : tokens.drop index = token :: rest) (assigning : assigns token rest = true) :
    AssignsAt tokens index token := by
  cases rest with
  | nil => simp [assigns] at assigning
  | cons equal value =>
    simp only [assigns, Token.is, List.head?_cons, Option.map_some, Option.getD_some, Bool.and_eq_true,
      decide_eq_true_eq] at assigning
    exact ⟨equal, value, here, assigning⟩

/-- Only the beginning of a declaration and a name that is assigned can be out of order. -/
theorem OffendsAt.cases_token (offends : OffendsAt tokens index error) :
    ∃ token rest, tokens.drop index = token :: rest ∧ (token.kind = .varWord ∨ assigns token rest = true) := by
  cases offends with
  | incomplete here isVar => exact ⟨_, _, here, .inl isVar⟩
  | invalid here isVar => exact ⟨_, _, here, .inl isVar⟩
  | repeated declares =>
    obtain ⟨_, _, _, _, here, isVar, _⟩ := declares
    exact ⟨_, _, here, .inl isVar⟩
  | undeclared assigning =>
    have found := assigning
    obtain ⟨_, _, here, _⟩ := found
    exact ⟨_, _, here, .inr (assigning.assigns here).2⟩

theorem OffendsAt.index_lt (offends : OffendsAt tokens index error) : index < tokens.length := by
  obtain ⟨token, rest, here, _⟩ := offends.cases_token
  have standing : tokens.drop index ≠ [] := by simp [here]
  simpa using standing

theorem not_offendsAt (here : tokens.drop index = token :: rest) (notVar : token.kind ≠ .varWord)
    (unassigned : assigns token rest = false) (error : Error) : ¬ OffendsAt tokens index error := by
  intro offends
  obtain ⟨_, _, place, reason⟩ := offends.cases_token
  cases here.symm.trans place
  simp [notVar, unassigned] at reason

/-- The tokens of a declaration behind its beginning are in order. -/
theorem DeclaresAt.inside (declares : DeclaresAt tokens index name) {place : Nat} (after : index < place)
    (before : place < index + 4) :
    (∀ other, ¬ DeclaresAt tokens place other) ∧ ∀ error, ¬ OffendsAt tokens place error := by
  have whole := declares
  obtain ⟨var, type, equal, value, here, isVar, typed, named, equals, filled⟩ := whole
  have atType : tokens.drop (index + 1) = type :: name :: equal :: value := drop_behind [var] here
  have atName : tokens.drop (index + 2) = name :: equal :: value := drop_behind [var, type] here
  have atEqual : tokens.drop (index + 3) = equal :: value := drop_behind [var, type, name] here
  have places : place = index + 1 ∨ place = index + 2 ∨ place = index + 3 := by omega
  rcases places with rfl | rfl | rfl
  · refine ⟨fun other again => ?_, not_offendsAt atType (by simp [typed]) ?_⟩
    · simpa [typed] using again.isVar atType
    · simp [assigns, Token.is, named]
  · refine ⟨fun other again => ?_, fun error offends => ?_⟩
    · simpa [named] using again.isVar atName
    · cases offends with
      | incomplete place found | invalid place found =>
        cases atName.symm.trans place
        cases named.symm.trans found
      | repeated again => simpa [named] using again.isVar atName
      | undeclared assigning apart _ =>
        obtain ⟨rfl, _⟩ := assigning.assigns atName
        exact apart index rfl declares
  · refine ⟨fun other again => ?_, not_offendsAt atEqual (by simp [equals]) ?_⟩
    · simpa [equals] using again.isVar atEqual
    · simp [assigns, Token.is, equals]

end Places

theorem declaresAt_of_clean {tokens rest : List Token} {index : Nat} {var : Token}
    (here : tokens.drop index = var :: rest) (isVar : var.kind = .varWord)
    (clean : ∀ error, ¬ OffendsAt tokens index error) : ∃ name, DeclaresAt tokens index name := by
  match rest, here with
  | type :: name :: equal :: first :: value, here =>
    refine ⟨name, Classical.byContradiction fun misshapen => ?_⟩
    exact clean _ (.invalid here isVar (List.cons_ne_nil first value) misshapen)
  | [], here | [_], here | [_, _], here | [_, _, _], here =>
    exact absurd (.incomplete here isVar (by simp)) (clean _)

/-- Without an offence all is in order, and the other way round. -/
theorem inOrder_iff {tokens : List Token} : InOrder tokens ↔ ∀ index error, ¬ OffendsAt tokens index error := by
  constructor
  · intro inOrder index error offends
    cases offends with
    | incomplete here isVar short =>
      obtain ⟨name, declares⟩ := inOrder.whole index _ _ here isVar
      exact absurd (declares.length_le here) (by omega)
    | invalid here isVar _ misshapen =>
      obtain ⟨name, declares⟩ := inOrder.whole index _ _ here isVar
      have same := declares
      obtain ⟨_, _, _, _, place, _⟩ := same
      cases here.symm.trans place
      exact misshapen declares
    | repeated declares known =>
      obtain ⟨earlier, before, declared, first, same⟩ := known
      exact absurd (inOrder.once _ _ _ _ first declares same) (Nat.ne_of_lt before)
    | undeclared assigns apart unknown =>
      rcases inOrder.before index _ assigns with ⟨start, own, declares⟩ | known
      · exact apart start own declares
      · exact unknown known
  · intro clean
    refine ⟨?_, ?_, ?_⟩
    · intro index var rest here isVar
      exact declaresAt_of_clean here isVar (clean index)
    · intro first second name other declares again same
      rcases Nat.lt_trichotomy first second with before | equal | after
      · exact absurd (.repeated again ⟨first, before, name, declares, same⟩) (clean second _)
      · exact equal
      · exact absurd (.repeated declares ⟨second, after, other, again, same.symm⟩) (clean first _)
    · intro index name assigns
      refine Classical.byContradiction fun neither => ?_
      rw [not_or] at neither
      refine clean index _ (.undeclared assigns ?_ neither.2)
      intro start own declares
      exact neither.1 ⟨start, own, declares⟩

/-- The check is at the index. It has met these names, and stands at a token or behind a whole declaration. -/
structure Scanned (tokens : List Token) (index : Nat) (declared : List String) : Prop where
  clean : ∀ earlier < index, ∀ error, ¬ OffendsAt tokens earlier error
  names : ∀ name, name ∈ declared ↔ KnownAt tokens index name
  passed : ∀ start name, start < index → DeclaresAt tokens start name → start + 4 ≤ index

namespace Scanned

variable {tokens : List Token} {index : Nat} {declared : List String}

theorem start (tokens : List Token) : Scanned tokens 0 [] := by
  refine ⟨by simp, ?_, by simp⟩
  simp [KnownAt]

/-- The check may go on behind the index if nothing begins before the place where it goes on. -/
theorem advance {next : Nat} {names : List String} (scanned : Scanned tokens index declared) (later : index < next)
    (clean : ∀ error, ¬ OffendsAt tokens index error)
    (between : ∀ place, index < place → place < next →
      (∀ other, ¬ DeclaresAt tokens place other) ∧ ∀ error, ¬ OffendsAt tokens place error)
    (ends : ∀ name, DeclaresAt tokens index name → index + 4 ≤ next)
    (adds : ∀ known, known ∈ names ↔
      known ∈ declared ∨ ∃ name, DeclaresAt tokens index name ∧ name.literal = known) :
    Scanned tokens next names := by
  have sides : ∀ place < next, place < index ∨ place = index ∨ index < place := by omega
  refine ⟨?_, ?_, ?_⟩
  · intro place before
    rcases sides place before with before | rfl | after
    · exact scanned.clean place before
    · exact clean
    · exact (between place after before).2
  · intro known
    rw [adds, scanned.names]
    constructor
    · rintro (⟨earlier, before, found⟩ | ⟨name, declares, same⟩)
      · exact ⟨earlier, Nat.lt_trans before later, found⟩
      · exact ⟨index, later, name, declares, same⟩
    · rintro ⟨place, before, name, declares, same⟩
      rcases sides place before with before | rfl | after
      · exact .inl ⟨place, before, name, declares, same⟩
      · exact .inr ⟨name, declares, same⟩
      · exact absurd declares ((between place after before).1 name)
  · intro start name before declares
    rcases sides start before with before | rfl | after
    · exact Nat.le_of_lt (Nat.lt_of_le_of_lt (scanned.passed start name before declares) later)
    · exact ends name declares
    · exact absurd declares ((between start after before).1 name)

theorem token {token : Token} {rest : List Token} (scanned : Scanned tokens index declared)
    (here : tokens.drop index = token :: rest) (notVar : token.kind ≠ .varWord)
    (clean : ∀ error, ¬ OffendsAt tokens index error) : Scanned tokens (index + 1) declared := by
  have undeclaring : ∀ name, ¬ DeclaresAt tokens index name := fun name declares => notVar (declares.isVar here)
  apply scanned.advance (Nat.lt_succ_self index) clean
  · intro place after before
    omega
  · intro name declares
    exact absurd declares (undeclaring name)
  · simp [undeclaring]

theorem declaration {name : Token} (scanned : Scanned tokens index declared) (declares : DeclaresAt tokens index name)
    (clean : ∀ error, ¬ OffendsAt tokens index error) : Scanned tokens (index + 4) (name.literal :: declared) := by
  apply scanned.advance (by omega) clean
  · exact fun place after before => declares.inside after before
  · exact fun _ _ => Nat.le_refl _
  · intro known
    rw [List.mem_cons, or_comm]
    refine or_congr_right ⟨?_, ?_⟩
    · rintro rfl
      exact ⟨name, declares, rfl⟩
    · rintro ⟨other, again, rfl⟩
      rw [again.unique declares]

/-- Where a token is out of order the check ends with its error. -/
theorem checkFrom_of_offendsAt {error : Error} (scanned : Scanned tokens index declared)
    (offends : OffendsAt tokens index error) : checkFrom declared (tokens.drop index) = .error error := by
  cases offends with
  | @incomplete var rest here isVar short =>
    rw [here, checkFrom_of_var isVar]
    match rest, short with
    | [], _ | [_], _ | [_, _], _ | [_, _, _], _ => rfl
  | @invalid var type name equal value here isVar filled misshapen =>
    obtain ⟨first, value, rfl⟩ := List.exists_cons_of_ne_nil filled
    have shape : (type.is .identifier && name.is .identifier && equal.is .equal) = false := by
      rw [← Bool.not_eq_true]
      intro formed
      simp only [Token.is, Bool.and_eq_true, decide_eq_true_eq] at formed
      exact misshapen ⟨var, type, equal, _, here, isVar, formed.1.1, formed.1.2, formed.2, filled⟩
    rw [here, checkFrom_of_var isVar, declaredName, shape]
    rfl
  | @repeated name declares known =>
    obtain ⟨var, type, equal, value, here, isVar, typed, named, equals, filled⟩ := declares
    obtain ⟨first, value, rfl⟩ := List.exists_cons_of_ne_nil filled
    have met := (scanned.names _).mpr known
    rw [here, checkFrom_of_var isVar]
    simp [declaredName, Token.is, typed, named, equals, met, bind, Except.bind]
  | @undeclared name assigning apart unknown =>
    have unmet : name.literal ∉ declared := fun met => unknown ((scanned.names _).mp met)
    have found := assigning
    obtain ⟨equal, value, here, named, _⟩ := found
    have assigned := (assigning.assigns here).2
    rw [here, checkFrom_of_other (by simp [named])]
    simp [assigned, unmet]

/-- The check ends here, or it goes on behind a token or a declaration. -/
theorem step (scanned : Scanned tokens index declared) (inside : index < tokens.length) :
    (∃ error, OffendsAt tokens index error) ∨
    ∃ next names, index < next ∧ Scanned tokens next names ∧
      checkFrom declared (tokens.drop index) = checkFrom names (tokens.drop next) := by
  by_cases offence : ∃ error, OffendsAt tokens index error
  · exact .inl offence
  · right
    have clean : ∀ error, ¬ OffendsAt tokens index error := fun error offends => offence ⟨error, offends⟩
    obtain ⟨token, rest, here⟩ := exists_of_index_lt inside
    by_cases isVar : token.kind = .varWord
    · obtain ⟨name, declares⟩ := declaresAt_of_clean here isVar clean
      refine ⟨index + 4, _, by omega, scanned.declaration declares clean, ?_⟩
      have fresh : name.literal ∉ declared := by
        intro met
        exact clean _ (.repeated declares ((scanned.names _).mp met))
      obtain ⟨var, type, equal, value, place, _, typed, named, equals, filled⟩ := declares
      obtain ⟨first, value, rfl⟩ := List.exists_cons_of_ne_nil filled
      have behind : tokens.drop (index + 4) = first :: value := drop_behind [var, type, name, equal] place
      cases here.symm.trans place
      rw [behind, here, checkFrom_of_var isVar]
      simp [declaredName, Token.is, typed, named, equals, fresh, bind, Except.bind]
    · refine ⟨index + 1, declared, by omega, scanned.token here isVar clean, ?_⟩
      have behind : tokens.drop (index + 1) = rest := drop_behind [token] here
      have allowed : (assigns token rest && !declared.contains token.literal) = false := by
        rw [← Bool.not_eq_true]
        intro refused
        simp only [Bool.and_eq_true, Bool.not_eq_true', List.contains_eq_mem, decide_eq_false_iff_not] at refused
        refine clean _ (.undeclared (assignsAt_of_assigns here refused.1) ?_ ?_)
        · intro start own declares
          have := scanned.passed start token (by omega) declares
          omega
        · exact fun known => refused.2 ((scanned.names _).mpr known)
      rw [behind, here, checkFrom_of_other isVar, allowed]
      rfl

/-- The check gets to the end or to a token that is out of order. -/
theorem reaches {index : Nat} {declared : List String} (scanned : Scanned tokens index declared) :
    ∃ place names, Scanned tokens place names ∧
      checkFrom declared (tokens.drop index) = checkFrom names (tokens.drop place) ∧
      (tokens.length ≤ place ∨ ∃ error, OffendsAt tokens place error) := by
  by_cases inside : index < tokens.length
  · rcases scanned.step inside with offence | ⟨next, names, later, scannedNext, same⟩
    · exact ⟨index, declared, scanned, rfl, .inr offence⟩
    · obtain ⟨place, others, scannedPlace, goesOn, ends⟩ := scannedNext.reaches
      exact ⟨place, others, scannedPlace, same.trans goesOn, ends⟩
  · exact ⟨index, declared, scanned, rfl, .inl (Nat.le_of_not_lt inside)⟩
termination_by tokens.length - index

end Scanned

/-- The check ends well where nothing is out of order, and otherwise with the first offence. -/
theorem check_cases (tokens : List Token) :
    (check tokens = .ok () ∧ ∀ index error, ¬ OffendsAt tokens index error) ∨
    ∃ place, (∀ earlier < place, ∀ error, ¬ OffendsAt tokens earlier error) ∧
      (∃ error, OffendsAt tokens place error) ∧
      ∀ error, OffendsAt tokens place error → check tokens = .error error := by
  obtain ⟨place, names, scanned, same, ends⟩ := (Scanned.start tokens).reaches
  rw [List.drop_zero] at same
  rcases ends with finished | offence
  · left
    refine ⟨?_, ?_⟩
    · rw [check, same, List.drop_eq_nil_of_le finished]
      rfl
    · intro index error offends
      exact scanned.clean index (Nat.lt_of_lt_of_le offends.index_lt finished) error offends
  · exact .inr ⟨place, scanned.clean, offence, fun error offends => same.trans (scanned.checkFrom_of_offendsAt offends)⟩

theorem check_eq_ok_iff {tokens : List Token} : check tokens = .ok () ↔ InOrder tokens := by
  rw [inOrder_iff]
  rcases check_cases tokens with ⟨accepted, clean⟩ | ⟨place, _, ⟨error, offends⟩, fails⟩
  · exact ⟨fun _ => clean, fun _ => accepted⟩
  · constructor
    · intro accepted
      cases accepted.symm.trans (fails error offends)
    · intro clean
      exact absurd offends (clean place error)

theorem check_eq_error_iff {tokens : List Token} {error : Error} :
    check tokens = .error error ↔ ∃ index, FirstOffence tokens index error := by
  rcases check_cases tokens with ⟨accepted, clean⟩ | ⟨place, before, ⟨found, offends⟩, fails⟩
  · constructor
    · intro failed
      cases accepted.symm.trans failed
    · rintro ⟨index, offends, _⟩
      exact absurd offends (clean index error)
  · constructor
    · intro failed
      cases failed.symm.trans (fails found offends)
      exact ⟨place, offends, before⟩
    · rintro ⟨index, first, none⟩
      have same : index = place := by
        rcases Nat.lt_trichotomy index place with earlier | same | later
        · exact absurd first (before index earlier error)
        · exact same
        · exact absurd offends (none place later found)
      exact fails error (same ▸ first)

/-- Every token that the check looks at is there. -/
theorem scanAt_eq (tokens : List Token) (declared : List String) (index : Nat) :
    scanAt tokens declared index = some (checkFrom declared (tokens.drop index)) := by
  unfold scanAt
  split
  next inside =>
    obtain ⟨token, rest, here⟩ := exists_of_index_lt inside
    have behind : tokens.drop (index + 1) = rest := drop_behind [token] here
    have found : tokens[index]? = some token := by rw [← List.head?_drop, here, List.head?_cons]
    have next : tokens[index + 1]? = rest.head? := by rw [← List.head?_drop, behind]
    simp only [here, found, behind, next]
    by_cases isVar : token.kind = .varWord
    · rw [checkFrom_of_var isVar, if_pos (by simp [Token.is, isVar]), if_pos (Nat.succ_le_of_lt inside)]
      have later (name : String) := scanAt_eq tokens (name :: declared) (index + 4)
      have jump : tokens.drop (index + 4) = rest.drop 3 := by rw [← behind, List.drop_drop]
      cases declaredName declared token rest with
      | error error => rfl
      | ok name => exact (later name).trans (by rw [jump]; rfl)
    · have same : (token.is .identifier && rest.head?.any (·.is .equal)) = assigns token rest := by
        cases rest <;> rfl
      rw [checkFrom_of_other isVar, if_neg (by simp [Token.is, isVar]), same]
      split
      next => rfl
      next => rw [scanAt_eq tokens declared (index + 1), behind]
  next outside =>
    rw [List.drop_eq_nil_of_le (Nat.le_of_not_lt outside)]
    rfl
termination_by tokens.length - index

/-- The check accepts exactly the programs whose declarations are in order. Any other program is refused with the error
of the first token that is out of order. Either way there is one message about it, and no token is looked for where
there is none. -/
theorem check_decides (tokens : List Token) :
    (check tokens = .ok () ↔ InOrder tokens) ∧
    (∀ error, check tokens = .error error ↔ ∃ index, FirstOffence tokens index error) ∧
    (∀ next folder input, ((Command.Plan.checking tokens next).perform folder input).notices =
      match check tokens with
      | .ok () => .diagnostic ⟨.info, "Semantic analysis completed successfully", none⟩ ::
          (next.perform folder input).notices
      | .error error => [.diagnostic ⟨.fatal, error.fault.message, some error.position⟩]) ∧
    scanAt tokens [] 0 = some (check tokens) := by
  refine ⟨check_eq_ok_iff, fun error => check_eq_error_iff, ?_, ?_⟩
  · intro next folder input
    rw [Command.Plan.checking]
    cases check tokens <;> rfl
  · rw [scanAt_eq, List.drop_zero, check]

end StreamScript.Scope
