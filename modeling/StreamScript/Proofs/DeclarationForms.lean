import StreamScript.Proofs.CheckedRun
import StreamScript.Source.Scan

/-! When a declaration that passes the check is a declaration to a run. The check asks for something behind the equals
sign and takes anything for it, the semicolon included. A run asks for a value, and does not know the statement
when it has none. Otherwise the two agree. -/

namespace StreamScript

namespace Run

theorem pieces_cons {tokens piece : List Token} {more : List (List Token)} (cut : pieces tokens = piece :: more)
    (some : more ≠ []) :
    ∃ semicolon rest, tokens = piece ++ semicolon :: rest ∧ semicolon.kind = .semicolon ∧ pieces rest = more := by
  induction tokens generalizing piece with
  | nil =>
    obtain ⟨_, rfl⟩ := List.cons.inj cut
    exact absurd rfl some
  | cons token tail ih =>
    by_cases isSemicolon : token.kind = .semicolon
    · rw [Machine.pieces_semicolon tail isSemicolon] at cut
      obtain ⟨rfl, rest⟩ := List.cons.inj cut
      exact ⟨token, tail, rfl, isSemicolon, rest⟩
    · rw [Machine.pieces_other tail isSemicolon] at cut
      obtain ⟨first, later, found⟩ := List.exists_cons_of_ne_nil (Machine.pieces_ne_nil tail)
      rw [found, List.modifyHead_cons] at cut
      obtain ⟨rfl, rfl⟩ := List.cons.inj cut
      obtain ⟨semicolon, rest, rfl, ends, same⟩ := ih found
      exact ⟨semicolon, rest, rfl, ends, same⟩

end Run

namespace Scope

/-- A statement of a program is checked where it stands, behind the declarations before it. -/
theorem WellScoped.at_piece {declared : List String} {tokens piece : List Token} (inScope : WellScoped declared tokens)
    (complete : piece ∈ (Run.pieces tokens).dropLast) :
    ∃ earlier semicolon rest, semicolon.kind = .semicolon ∧ WellScoped earlier (piece ++ semicolon :: rest) := by
  generalize cut : Run.pieces tokens = all at complete
  induction all generalizing declared tokens with
  | nil => cases complete
  | cons first more ih =>
    by_cases last : more = []
    · simp [last] at complete
    · rw [List.dropLast_cons_of_ne_nil last] at complete
      obtain ⟨semicolon, rest, rfl, ends, others⟩ := Run.pieces_cons cut last
      rcases List.mem_cons.mp complete with rfl | later
      · exact ⟨declared, semicolon, rest, ends, inScope⟩
      · obtain ⟨_, _, inScope, _⟩ := inScope.piece ends
        exact ih inScope others later

theorem WellScoped.of_var {declared : List String} {var : Token} {rest : List Token}
    (inScope : WellScoped declared (var :: rest)) (isVar : var.kind = .varWord) :
    ∃ type name equal value, rest = type :: name :: equal :: value ∧ type.kind = .identifier ∧
      name.kind = .identifier ∧ equal.kind = .equal := by
  cases inScope with
  | declaration _ typed named equals => exact ⟨_, _, _, _, rfl, typed, named, equals⟩
  | other notVar => exact absurd isVar notVar

/-- A checked statement that begins with `var` goes on with a type, a name and an equals sign. -/
theorem WellScoped.statement_form {declared : List String} {piece rest tail : List Token} {semicolon var : Token}
    (ends : semicolon.kind = .semicolon) (inScope : WellScoped declared (piece ++ semicolon :: rest))
    (begins : Run.statementOf piece = var :: tail) (isVar : var.kind = .varWord) :
    ∃ type name equal value, tail = type :: name :: equal :: value ∧ type.kind = .identifier ∧
      name.kind = .identifier ∧ equal.kind = .equal := by
  induction piece with
  | nil => cases begins
  | cons first later ih =>
    by_cases isUsing : first.kind = .usingWord
    · rw [Run.statementOf_using isUsing] at begins
      exact ih (inScope.of_other (by simp [isUsing])).2 begins
    · rw [Run.statementOf_other isUsing] at begins
      obtain ⟨rfl, rfl⟩ := List.cons.inj begins
      obtain ⟨type, name, equal, value, same, typed, named, equals⟩ := inScope.of_var isVar
      obtain ⟨_, rfl, afterType⟩ := split_at_semicolon ends (by simp [typed]) same
      obtain ⟨_, rfl, afterName⟩ := split_at_semicolon ends (by simp [named]) afterType
      obtain ⟨behind, rfl, _⟩ := split_at_semicolon ends (by simp [equals]) afterName
      rw [Run.statementOf_other (by simp [typed]), Run.statementOf_other (by simp [named]),
        Run.statementOf_other (by simp [equals])]
      exact ⟨type, name, equal, Run.statementOf behind, rfl, typed, named, equals⟩

end Scope

namespace Run.Statement

theorem classify_declaration {var type name separator : Token} {value : List Token} (isVar : var.kind = .varWord)
    (filled : value ≠ []) :
    classify (var :: type :: name :: separator :: value) = some (.declaration type name separator value) := by
  simp [classify, declaration?, Token.is, isVar, filled]

/-- Without a value there is no declaration, and nothing else begins like one. -/
theorem classify_valueless {var type name separator : Token} (isVar : var.kind = .varWord) :
    classify [var, type, name, separator] = some (.unrecognized var) := by
  simp [classify, declaration?, prompted?, assignment?, call?, print?, Token.is, isVar]

/-- In a program that passes the check, a complete statement that begins with `var` has the type, the name and the
equals sign of a declaration. It is recognized as one exactly if there is a value as well. -/
theorem checked_declaration_recognized {tokens : List Token} (accepted : Scope.check tokens = .ok ())
    {piece : List Token} (complete : piece ∈ (pieces tokens).dropLast) {var : Token} {rest : List Token}
    (begins : statementOf piece = var :: rest) (isVar : var.kind = .varWord) :
    ∃ type name equal value, rest = type :: name :: equal :: value ∧ type.kind = .identifier ∧
      name.kind = .identifier ∧ equal.kind = .equal ∧
      classify (statementOf piece) =
        if value = [] then some (.unrecognized var) else some (.declaration type name equal value) := by
  obtain ⟨earlier, semicolon, after, ends, inScope⟩ := (Scope.wellScoped_of_checkFrom accepted).at_piece complete
  obtain ⟨type, name, equal, value, rfl, typed, named, equals⟩ := inScope.statement_form ends begins isVar
  refine ⟨type, name, equal, value, rfl, typed, named, equals, ?_⟩
  rw [begins]
  split
  next empty =>
    rw [empty]
    exact classify_valueless isVar
  next filled => exact classify_declaration isVar filled

/-- An import may stand in front of a declaration and inside its value. -/
theorem checked_declaration_recognized_import :
    let var : Token := ⟨.varWord, "var", ⟨1, 14⟩⟩
    let type : Token := ⟨.identifier, "INT", ⟨1, 18⟩⟩
    let name : Token := ⟨.identifier, "x", ⟨1, 23⟩⟩
    let equal : Token := ⟨.equal, "=", ⟨1, 25⟩⟩
    let value : Token := ⟨.number, "1", ⟨2, 1⟩⟩
    let library : Token := ⟨.usingWord, "Output", ⟨1, 1⟩⟩
    let piece := [library, var, type, name, equal, library, value]
    let tokens := piece ++ [⟨.semicolon, ";", ⟨2, 2⟩⟩, ⟨.endOfFile, "", ⟨2, 3⟩⟩]
    Scope.check tokens = .ok () ∧ piece ∈ (pieces tokens).dropLast ∧
    statementOf piece = [var, type, name, equal, value] ∧ var.kind = .varWord ∧
    classify (statementOf piece) = some (.declaration type name equal [value]) := by
  intro var type name equal value library piece tokens
  have accepted : Scope.check tokens = .ok () := rfl
  have complete : piece ∈ (pieces tokens).dropLast := by decide
  have begins : statementOf piece = [var, type, name, equal, value] := rfl
  obtain ⟨_, _, _, _, same, _, _, _, recognized⟩ := checked_declaration_recognized accepted complete begins rfl
  cases same
  exact ⟨accepted, complete, begins, rfl, recognized⟩

/-- The semicolon passes for a value in the check, and the declaration is unknown to a run. -/
theorem checked_declaration_unrecognized :
    ∃ tokens piece var rest, (Source.tokenize "var(int) x = ;").result = .ok tokens ∧ Scope.check tokens = .ok () ∧
      piece ∈ (pieces tokens).dropLast ∧ statementOf piece = var :: rest ∧ var.kind = .varWord ∧
      classify (statementOf piece) = some (.unrecognized var) := by
  let tokens : List Token :=
    [⟨.varWord, "var", ⟨1, 1⟩⟩, ⟨.identifier, "INT", ⟨1, 5⟩⟩, ⟨.identifier, "x", ⟨1, 10⟩⟩, ⟨.equal, "=", ⟨1, 12⟩⟩,
    ⟨.semicolon, ";", ⟨1, 14⟩⟩, ⟨.endOfFile, "", ⟨1, 15⟩⟩]
  have lexed : (Source.tokenize "var(int) x = ;").result = .ok tokens := by decide +kernel
  exact ⟨tokens, tokens.take 4, _, _, lexed, rfl, by decide, rfl, rfl, rfl⟩

end Run.Statement

end StreamScript
