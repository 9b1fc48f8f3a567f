import StreamScript.Run.Statement

/-! What a statement looks like once its form is known. Each form fixes the kinds of the tokens around its parts, and
the parts are tokens of the statement itself. -/

namespace StreamScript.Run.Statement

/-- The tokens that a statement was recognized in. -/
inductive Form : List Token → Statement → Prop where
  | declaration {var type name separator : Token} {value : List Token} (isVar : var.kind = .varWord)
      (filled : value ≠ []) :
      Form (var :: type :: name :: separator :: value) (.declaration type name separator value)
  | prompted {name equal library dot input opening prompt closing typeOpening inputType typeClosing : Token}
      (kinds : [name, equal, library, dot, input, opening, prompt, closing, typeOpening, inputType, typeClosing].map
        Token.kind = [.identifier, .equal, .identifier, .dot, .identifier, .leftParenthesis, .text, .rightParenthesis,
          .leftParenthesis, .identifier, .rightParenthesis]) :
      Form [name, equal, library, dot, input, opening, prompt, closing, typeOpening, inputType, typeClosing]
        (.prompted name library prompt inputType)
  | assignment {name equal : Token} {value : List Token} (named : name.kind = .identifier)
      (equals : equal.kind = .equal) (filled : value ≠ []) : Form (name :: equal :: value) (.assignment name value)
  | call {library dot word opening argument closing : Token} {method : Method}
      (kinds : [library, dot, opening, closing].map Token.kind =
        [.identifier, .dot, .leftParenthesis, .rightParenthesis])
      (called : word.kind = .identifier ∨ word.kind = .printWord) :
      Form [library, dot, word, opening, argument, closing] (.call library method argument)
  | print {word value : Token} (prints : word.kind = .printWord) : Form [word, value] (.print value)
  | unrecognized {first : Token} {rest : List Token} : Form (first :: rest) (.unrecognized first)

variable {tokens : List Token} {statement : Statement}

theorem declaration?_form (found : declaration? tokens = some statement) : Form tokens statement := by
  unfold declaration? at found
  split at found
  · split at found
    next formed =>
      cases found
      simp only [Token.is, Bool.and_eq_true, decide_eq_true_eq, Bool.not_eq_true', List.isEmpty_eq_false_iff] at formed
      exact .declaration formed.1 formed.2
    · cases found
  · cases found

theorem prompted?_form (found : prompted? tokens = some statement) : Form tokens statement := by
  unfold prompted? at found
  split at found
  · split at found
    next formed =>
      cases found
      apply Form.prompted
      simp only [Token.is, Token.isNamed, Bool.and_eq_true, decide_eq_true_eq] at formed
      simp [formed]
    · cases found
  · cases found

theorem assignment?_form (found : assignment? tokens = some statement) : Form tokens statement := by
  unfold assignment? at found
  split at found
  · split at found
    next formed =>
      cases found
      simp only [Token.is, Bool.and_eq_true, decide_eq_true_eq, Bool.not_eq_true', List.isEmpty_eq_false_iff] at formed
      exact .assignment formed.1.1 formed.1.2 formed.2
    · cases found
  · cases found

theorem call?_form (found : call? tokens = some statement) : Form tokens statement := by
  unfold call? at found
  split at found
  · split at found
    next formed =>
      obtain ⟨method, _, rfl⟩ := Option.map_eq_some_iff.mp found
      simp only [Token.is, Token.isNamed, Bool.and_eq_true, Bool.or_eq_true, decide_eq_true_eq] at formed
      exact .call (by simp [formed]) formed.1.1.2
    · cases found
  · cases found

theorem print?_form (found : print? tokens = some statement) : Form tokens statement := by
  unfold print? at found
  split at found
  · split at found
    next formed =>
      cases found
      exact .print (by simpa [Token.is] using formed)
    · cases found
  · cases found

theorem classify_form (recognized : classify tokens = some statement) : Form tokens statement := by
  simp only [classify, Option.or_eq_some_iff] at recognized
  rcases recognized with declares | ⟨_, prompts | ⟨_, assigns | ⟨_, calls | ⟨_, prints | ⟨_, other⟩⟩⟩⟩⟩
  · exact declaration?_form declares
  · exact prompted?_form prompts
  · exact assignment?_form assigns
  · exact call?_form calls
  · exact print?_form prints
  · cases tokens with
    | nil => cases other
    | cons first rest =>
      cases other
      exact .unrecognized

end StreamScript.Run.Statement
