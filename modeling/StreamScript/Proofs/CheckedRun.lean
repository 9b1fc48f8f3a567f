import StreamScript.Proofs.FaultOrigins
import StreamScript.Proofs.PersistedRun
import StreamScript.Proofs.StatementBatches
import StreamScript.Proofs.StatementForms
import StreamScript.Proofs.StoreChanges
import StreamScript.Scope

/-! What the check of declarations is worth to a run. The check looks at neighbouring tokens of the whole program; a
run looks at one statement at a time and does not see the imports in it. Still, every declaration that a run
executes is one that was checked, and its name is new to the run. -/

namespace StreamScript

namespace Scope

/-- Tokens whose declarations are in order, behind the declarations of these names. A declaration is passed as a
whole, every other token by itself. -/
inductive WellScoped : List String → List Token → Prop where
  | nil {declared : List String} : WellScoped declared []
  | declaration {declared : List String} {var type name equal : Token} {value : List Token}
      (isVar : var.kind = .varWord) (typed : type.kind = .identifier) (named : name.kind = .identifier)
      (equals : equal.kind = .equal) (filled : value ≠ []) (fresh : name.literal ∉ declared)
      (later : WellScoped (name.literal :: declared) value) :
      WellScoped declared (var :: type :: name :: equal :: value)
  | other {declared : List String} {token : Token} {rest : List Token} (notVar : token.kind ≠ .varWord)
      (known : assigns token rest = true → token.literal ∈ declared) (later : WellScoped declared rest) :
      WellScoped declared (token :: rest)

theorem wellScoped_of_checkFrom {declared : List String} {tokens : List Token}
    (accepted : checkFrom declared tokens = .ok ()) : WellScoped declared tokens := by
  fun_induction checkFrom declared tokens with
  | case1 => exact .nil
  | case2 | case3 | case4 | case6 | case7 => cases accepted
  | case5 declared var isVar type name equal value filled formed fresh ih =>
    simp [Token.is] at isVar formed filled fresh
    exact .declaration isVar formed.1.1 formed.1.2 formed.2 filled fresh (ih accepted)
  | case8 declared token rest notVar allowed ih =>
    refine .other (by simpa [Token.is] using notVar) ?_ (ih accepted)
    intro assigning
    simpa [assigning] using allowed

/-- A statement that begins like a declaration is one, of a name that is declared by it and not before it. -/
def Announces (declared later : List String) (statement : List Token) : Prop :=
  ∀ var type name separator value, statement = var :: type :: name :: separator :: value → var.kind = .varWord →
    type.kind = .identifier ∧ name.kind = .identifier ∧ separator.kind = .equal ∧
    name.literal ∉ declared ∧ name.literal ∈ later

/-- The beginning of a declaration stands inside the statement, behind its first token, and its name is new. -/
def Strays (declared : List String) (statement : List Token) : Prop :=
  ∃ first front var type name back, statement = first :: (front ++ var :: type :: name :: back) ∧
    var.kind = .varWord ∧ name.kind = .identifier ∧ name.literal ∉ declared

theorem Strays.cons {declared fewer : List String} {statement : List Token} (strays : Strays declared statement)
    (within : fewer ⊆ declared) (token : Token) : Strays fewer (token :: statement) := by
  obtain ⟨first, front, var, type, name, back, rfl, isVar, named, fresh⟩ := strays
  exact ⟨token, first :: front, var, type, name, back, rfl, isVar, named, fun known => fresh (within known)⟩

/-- A name that comes with the statement is the one that the statement declares, unless a declaration strays in it. -/
def Introduces (declared later : List String) (statement : List Token) : Prop :=
  ∀ known ∈ later, known ∈ declared ∨
    (∃ var type name separator value, statement = var :: type :: name :: separator :: value ∧ var.kind = .varWord ∧
      known = name.literal) ∨
    Strays declared statement

/-- What comes with the end of a statement strays in all of it. -/
theorem Introduces.behind {declared fewer later : List String} {statement : List Token}
    (announced : Announces declared later statement) (introduced : Introduces declared later statement)
    (within : fewer ⊆ declared) (token : Token) {known : String} (member : known ∈ later) :
    known ∈ declared ∨ Strays fewer (token :: statement) := by
  rcases introduced known member with old | ⟨var, type, name, separator, value, rfl, isVar, rfl⟩ | strays
  · exact .inl old
  · obtain ⟨_, named, _, fresh, _⟩ := announced var type name separator value rfl isVar
    exact .inr ⟨token, [], var, type, name, separator :: value, rfl, isVar, named, fun old => fresh (within old)⟩
  · exact .inr (strays.cons within token)

theorem split_at_semicolon {piece rest tail : List Token} {semicolon token : Token}
    (ends : semicolon.kind = .semicolon) (other : token.kind ≠ .semicolon)
    (same : piece ++ semicolon :: rest = token :: tail) :
    ∃ shorter, piece = token :: shorter ∧ shorter ++ semicolon :: rest = tail := by
  cases piece with
  | nil =>
    obtain ⟨rfl, _⟩ := List.cons.inj same
    exact absurd ends other
  | cons first shorter =>
    obtain ⟨rfl, tail⟩ := List.cons.inj same
    exact ⟨shorter, rfl, tail⟩

/-- The check of the tokens up to a semicolon is a check of the statement that they make up. -/
theorem WellScoped.piece {declared : List String} {piece rest : List Token} {semicolon : Token}
    (ends : semicolon.kind = .semicolon) (inScope : WellScoped declared (piece ++ semicolon :: rest)) :
    ∃ later, declared ⊆ later ∧ WellScoped later rest ∧ Announces declared later (Run.statementOf piece) ∧
      Introduces declared later (Run.statementOf piece) := by
  generalize all : piece ++ semicolon :: rest = tokens at inScope
  induction inScope generalizing piece with
  | nil => simp at all
  | @declaration declared var type name equal value isVar typed named equals filled fresh _ ih =>
    -- None of the first four tokens is the semicolon or an import, so they open the statement too.
    obtain ⟨_, rfl, afterVar⟩ := split_at_semicolon ends (by simp [isVar]) all
    obtain ⟨_, rfl, afterType⟩ := split_at_semicolon ends (by simp [typed]) afterVar
    obtain ⟨_, rfl, afterName⟩ := split_at_semicolon ends (by simp [named]) afterType
    obtain ⟨_, rfl, afterEqual⟩ := split_at_semicolon ends (by simp [equals]) afterName
    obtain ⟨later, grown, inScope, announced, introduced⟩ := ih afterEqual
    rw [Run.statementOf_other (by simp [isVar]), Run.statementOf_other (by simp [typed]),
      Run.statementOf_other (by simp [named]), Run.statementOf_other (by simp [equals])]
    refine ⟨later, fun known member => grown (List.mem_cons_of_mem _ member), inScope, ?_, ?_⟩
    · intro var' type' name' separator' value' statement _
      cases statement
      exact ⟨typed, named, equals, fresh, grown (List.mem_cons_self ..)⟩
    · intro known member
      have within : declared ⊆ name.literal :: declared := List.subset_cons_self ..
      rcases introduced.behind announced within equal member with old | strays
      · rcases List.mem_cons.mp old with same | old
        · exact .inr (.inl ⟨var, type, name, equal, _, rfl, isVar, same⟩)
        · exact .inl old
      · have here : declared ⊆ declared := List.Subset.refl _
        exact .inr (.inr (((strays.cons here name).cons here type).cons here var))
  | @other declared token tail notVar known inScope ih =>
    cases piece with
    | nil =>
      obtain ⟨rfl, rfl⟩ := List.cons.inj all
      refine ⟨declared, fun _ member => member, inScope, ?_, fun _ old => .inl old⟩
      intro var type name separator value statement
      cases statement
    | cons first piece =>
      obtain ⟨rfl, afterFirst⟩ := List.cons.inj all
      obtain ⟨later, grown, inScope, announced, introduced⟩ := ih afterFirst
      by_cases isUsing : first.kind = .usingWord
      · rw [Run.statementOf_using isUsing]
        exact ⟨later, grown, inScope, announced, introduced⟩
      · rw [Run.statementOf_other isUsing]
        refine ⟨later, grown, inScope, ?_, ?_⟩
        · intro var type name separator value statement isVar
          exact absurd ((List.cons.inj statement).1 ▸ isVar) notVar
        · intro known member
          rcases introduced.behind announced (List.Subset.refl _) first member with old | strays
          · exact .inl old
          · exact .inr (.inr strays)

theorem WellScoped.of_other {declared : List String} {token : Token} {rest : List Token}
    (inScope : WellScoped declared (token :: rest)) (notVar : token.kind ≠ .varWord) :
    (assigns token rest = true → token.literal ∈ declared) ∧ WellScoped declared rest := by
  cases inScope with
  | declaration isVar => exact absurd isVar notVar
  | other _ known later => exact ⟨known, later⟩

theorem assigns_relocate (move : Position → Position) (token : Token) (rest : List Token) :
    assigns (token.relocate move) (rest.map (Token.relocate move)) = assigns token rest := by
  cases rest <;> rfl

/-- Where the tokens stand does not matter. -/
theorem WellScoped.of_relocate {move : Position → Position} {declared : List String} {tokens : List Token}
    (inScope : WellScoped declared (tokens.map (Token.relocate move))) : WellScoped declared tokens := by
  generalize moved : tokens.map (Token.relocate move) = others at inScope
  induction inScope generalizing tokens with
  | nil =>
    rw [List.map_eq_nil_iff.mp moved]
    exact .nil
  | declaration isVar typed named equals filled fresh _ ih =>
    obtain ⟨var, _, rfl, rfl, afterVar⟩ := List.map_eq_cons_iff.mp moved
    obtain ⟨type, _, rfl, rfl, afterType⟩ := List.map_eq_cons_iff.mp afterVar
    obtain ⟨name, _, rfl, rfl, afterName⟩ := List.map_eq_cons_iff.mp afterType
    obtain ⟨equal, value, rfl, rfl, rfl⟩ := List.map_eq_cons_iff.mp afterName
    exact .declaration isVar typed named equals (by simpa using filled) fresh (ih rfl)
  | other notVar known _ ih =>
    obtain ⟨token, rest, rfl, rfl, rfl⟩ := List.map_eq_cons_iff.mp moved
    rw [assigns_relocate] at known
    exact .other notVar known (ih rfl)

end Scope

namespace Run

theorem Statement.classify_eq_declaration {tokens value : List Token} {type name separator : Token}
    (recognized : classify tokens = some (.declaration type name separator value)) :
    ∃ var, tokens = var :: type :: name :: separator :: value ∧ var.kind = .varWord := by
  cases classify_form recognized with
  | declaration isVar _ => exact ⟨_, rfl, isVar⟩

theorem put_contains {before after : Store} {name : Token} {type : ValueType} {value : Value}
    (stored : put before name type value = .ok after) (other : String) :
    after.contains other = before.contains other := by
  obtain ⟨_, made⟩ := put_ok stored
  rw [Store.contains, Store.get?_assign? made]
  split
  next same =>
    rw [same, Option.isSome_map]
    rfl
  · rfl

namespace Machine

variable {κ : Type} [Console κ] (settings : Settings)

/-- Only a declaration brings in a name, and only its own. -/
theorem execute_contains (machine : Machine κ) (statement : Statement) {known : String}
    (contains : (machine.execute settings statement).2.store.contains known = true) :
    machine.store.contains known = true ∨
      ∃ type name separator value, statement = .declaration type name separator value ∧ known = name.literal := by
  have stored := execute_stored settings machine statement
  generalize (machine.execute settings statement).2.store = after at stored contains
  cases stored with
  | unchanged => exact .inl contains
  | @declared type name separator value _ form made =>
    obtain ⟨named, result, _, made⟩ := declare_ok made
    by_cases same : known = name.literal
    · exact .inr ⟨type, name, separator, value, form, same⟩
    · rw [Store.contains, Store.get?_declare? made, if_neg same] at contains
      exact .inl contains
  | assigned _ made => exact .inl (by rwa [put_contains made] at contains)

/-- The names that a machine knows were declared before what it executes now. -/
def Knows (machine : Machine κ) (declared : List String) : Prop :=
  ∀ name, machine.store.contains name = true → name ∈ declared

section Announced

variable {machine : Machine κ} {declared later : List String} {tokens : List Token}

theorem execute_announced {statement : Statement} (recognized : Statement.classify tokens = some statement)
    (announced : Scope.Announces declared later tokens) (knows : machine.Knows declared) {error : Error}
    (failed : (machine.execute settings statement).1 = .error error) : error.fault.origin ≠ .declaration := by
  intro origin
  cases statement with
  | declaration type name separator value =>
    obtain ⟨var, rfl, isVar⟩ := Statement.classify_eq_declaration recognized
    obtain ⟨typed, named, equals, fresh, _⟩ := announced var type name separator value rfl isVar
    have unknown : machine.store.contains name.literal = false := by
      rw [← Bool.not_eq_true]
      exact fun known => fresh (knows _ known)
    have raises := declare_raises_of_form machine.store machine.imports value (decide_eq_true typed)
      (decide_eq_true named) (decide_eq_true equals) unknown
    rw [execute, update_fst] at failed
    have within := raises.map _ error failed
    rw [origin] at within
    exact absurd within (by decide)
  | prompted | assignment | call | print | unrecognized =>
    have within := execute_raises settings machine _ error failed
    rw [origin] at within
    exact absurd within (by simp [Statement.origins])

theorem execute_knows {statement : Statement} (recognized : Statement.classify tokens = some statement)
    (announced : Scope.Announces declared later tokens) (grown : declared ⊆ later) (knows : machine.Knows declared) :
    (machine.execute settings statement).2.Knows later := by
  intro known contains
  rcases execute_contains settings machine statement contains with old | ⟨type, name, separator, value, rfl, rfl⟩
  · exact grown (knows known old)
  · obtain ⟨var, rfl, isVar⟩ := Statement.classify_eq_declaration recognized
    exact (announced var type name separator value rfl isVar).2.2.2.2

theorem dispatch_announced (announced : Scope.Announces declared later tokens) (grown : declared ⊆ later)
    (knows : machine.Knows declared) :
    (∀ error, (machine.dispatch settings tokens).1 = .error error → error.fault.origin ≠ .declaration) ∧
      (machine.dispatch settings tokens).2.Knows later := by
  cases recognized : Statement.classify tokens with
  | none =>
    rw [dispatch_nothing settings machine recognized]
    refine ⟨?_, fun name known => grown (knows name known)⟩
    intro error impossible
    cases impossible
  | some statement =>
    obtain ⟨log, executes⟩ := dispatch_recognized settings machine recognized
    rw [executes]
    have same : Knows { machine with log } declared := knows
    exact ⟨fun error failed => execute_announced settings recognized announced same failed,
      execute_knows settings recognized announced grown same⟩

end Announced

/-- A run that is in the middle of a statement: some of its tokens are read, and the names declared up to its
beginning are those that the check had met by then. -/
structure Foreseen (declared : List String) (machine : Machine κ) (read unread : List Token) : Prop where
  inScope : Scope.WellScoped declared (read ++ unread)
  pending : machine.pending = statementOf read
  knows : machine.Knows declared

namespace Foreseen

variable {declared : List String} {machine : Machine κ} {token : Token} {read rest : List Token}

omit [Console κ] in
theorem importing (foreseen : Foreseen declared machine read (token :: rest)) (isUsing : token.kind = .usingWord) :
    Foreseen declared (machine.importing settings token) (read ++ [token]) rest := by
  obtain ⟨log, imports, imported⟩ := machine.importing_frame settings token
  rw [imported]
  refine ⟨by simpa using foreseen.inScope, ?_, foreseen.knows⟩
  simp [statementOf, foreseen.pending, Token.is, isUsing]

omit [Console κ] in
theorem holding (foreseen : Foreseen declared machine read (token :: rest)) (waits : token.Waits) :
    Foreseen declared (machine.holding token) (read ++ [token]) rest := by
  refine ⟨by simpa using foreseen.inScope, ?_, foreseen.knows⟩
  simp [Machine.holding, statementOf, foreseen.pending, Token.is, waits.2.1]

theorem dispatch (foreseen : Foreseen declared machine read (token :: rest)) (isSemicolon : token.kind = .semicolon) :
    (∀ error, (machine.cleared.dispatch settings machine.pending).1 = .error error →
      error.fault.origin ≠ .declaration) ∧
    ∃ later, Foreseen later (machine.cleared.dispatch settings machine.pending).2 [] rest := by
  obtain ⟨later, grown, inScope, announced, _⟩ := foreseen.inScope.piece isSemicolon
  rw [← foreseen.pending] at announced
  have knows : machine.cleared.Knows declared := foreseen.knows
  obtain ⟨faults, knowsLater⟩ := dispatch_announced settings announced grown knows
  exact ⟨faults, later, inScope, dispatch_cleared settings machine machine.pending, knowsLater⟩

end Foreseen

theorem drive_foreseen {declared : List String} {machine : Machine κ} {read unread : List Token}
    (foreseen : Foreseen declared machine read unread) {error : Error}
    (failed : (machine.drive settings (unread.map .ok)).1 = .error error) : error.fault.origin ≠ .declaration := by
  induction unread generalizing declared machine read with
  | nil => cases failed
  | cons token rest ih =>
    rw [List.map_cons] at failed
    rcases kind_cases token with isEnd | isUsing | isSemicolon | waits
    · simp only [drive, step_endOfFile settings machine token isEnd] at failed
      cases failed
    · simp only [drive, step_usingWord settings machine token isUsing] at failed
      exact ih (foreseen.importing settings isUsing) failed
    · obtain ⟨faults, later, next⟩ := foreseen.dispatch settings isSemicolon
      simp only [drive, step_semicolon settings machine token isSemicolon] at failed
      generalize machine.cleared.dispatch settings machine.pending = ended at faults next failed
      rcases ended with ⟨fault | _, after⟩
      · cases failed
        exact faults _ rfl
      · exact ih next failed
    · simp only [drive, step_waits settings machine token waits] at failed
      exact ih (foreseen.holding waits) failed

/-- A run of tokens whose declarations are in order, from the very beginning. -/
theorem runTokens_wellScoped {tokens : List Token} (inScope : Scope.WellScoped [] tokens) (console : κ)
    (log : List Diagnostic) {error : Error}
    (failed : (runTokens settings { console, log } tokens).1 = .error error) : error.fault.origin ≠ .declaration := by
  rw [runTokens, run_fst] at failed
  have foreseen : Foreseen [] { console, log } [] tokens := by
    refine ⟨inScope, rfl, ?_⟩
    intro name known
    cases known
  exact drive_foreseen settings foreseen failed

/-- A program that passes the check does not fail over the form of a declaration or over a name that is declared
twice, whether its tokens are run or the stream they were written to. -/
theorem checked_run_declares_once {tokens : List Token} (accepted : Scope.check tokens = .ok ()) (console : κ)
    (log : List Diagnostic) {error : Error}
    (failed : (runTokens settings { console, log } tokens).1 = .error error ∨
      (runStream settings { console, log } (Stream.encode tokens)).1 = .error error) :
    (∀ name, error.fault ≠ .alreadyDeclared name) ∧ error.fault ≠ .malformedDeclaration ∧
      ∀ name, error.fault ≠ .missingEqual name := by
  have inScope := Scope.wellScoped_of_checkFrom accepted
  have origin : error.fault.origin ≠ .declaration := by
    rcases failed with direct | persisted
    · exact runTokens_wellScoped settings inScope console log direct
    · rw [← numbered_relocate tokens] at inScope
      rw [runStream, Stream.items_encode] at persisted
      exact runTokens_wellScoped settings inScope.of_relocate console log persisted
  refine ⟨?_, ?_, ?_⟩
  · intro name same
    exact origin (by rw [same]; rfl)
  · intro same
    exact origin (by rw [same]; rfl)
  · intro name same
    exact origin (by rw [same]; rfl)

/-- A declaration with an import in its middle passes the check. When it is run it fails, but over its value. -/
theorem checked_run_declares_once_value :
    let tokens : List Token :=
      [⟨.varWord, "var", ⟨1, 1⟩⟩, ⟨.identifier, "INT", ⟨1, 5⟩⟩, ⟨.identifier, "x", ⟨1, 10⟩⟩, ⟨.equal, "=", ⟨1, 12⟩⟩,
      ⟨.usingWord, "Output", ⟨2, 1⟩⟩, ⟨.identifier, "y", ⟨3, 1⟩⟩, ⟨.semicolon, ";", ⟨3, 2⟩⟩]
    let error : Error := ⟨.undefinedReference "y", some ⟨3, 1⟩⟩
    Scope.check tokens = .ok () ∧ (runTokens {} { console := ({} : Transcript) } tokens).1 = .error error ∧
    (∀ name, error.fault ≠ .alreadyDeclared name) ∧ error.fault ≠ .malformedDeclaration ∧
      ∀ name, error.fault ≠ .missingEqual name := by
  intro tokens error
  have accepted : Scope.check tokens = .ok () := rfl
  have failed : (runTokens {} { console := ({} : Transcript) } tokens).1 = .error error := rfl
  exact ⟨accepted, failed, checked_run_declares_once {} accepted ({} : Transcript) [] (.inl failed)⟩

end Machine

end Run

end StreamScript
