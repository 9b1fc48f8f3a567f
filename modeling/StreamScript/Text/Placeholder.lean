import StreamScript.Text.Basic

/-! Placeholders in a text. An opening brace with a closing brace after it starts a placeholder, which reaches
to the first such brace. The name inside is asked for when the placeholder is reached, and a value put in is not
read again. -/

namespace StreamScript.Text

/-- The name asked for, without the white space around it. -/
def placeholderName (inside : List Char) : String := String.ofList (trim inside)

/-- What a placeholder becomes. A name that has no value stays between its braces. -/
def substitute (name : String) : Option String → List Char
  | some value => value.toList
  | none => '\x7b' :: (name.toList ++ ['\x7d'])

/-- Fills the placeholders from left to right. To ask for a name may have an effect, such as noting it. -/
def expand {m : Type → Type} [Monad m] (lookup : String → m (Option String)) : List Char → m (List Char)
  | [] => pure []
  | c :: rest =>
    if c = '\x7b' ∧ '\x7d' ∈ rest then do
      let name := placeholderName (rest.takeWhile (· ≠ '\x7d'))
      let value ← lookup name
      let later ← expand lookup ((rest.dropWhile (· ≠ '\x7d')).drop 1)
      return substitute name value ++ later
    else do
      let later ← expand lookup rest
      return c :: later
termination_by text => text.length
decreasing_by
  · have shorter := (List.dropWhile_suffix (l := rest) (· ≠ '\x7d')).length_le
    simp only [List.length_drop, List.length_cons]
    omega
  · simp

def interpolate (lookup : String → Option String) (text : String) : String :=
  String.ofList (Id.run (expand (fun name => pure (lookup name)) text.toList))

/-- Asks, and notes the name behind those that were asked for before. -/
def noting (lookup : String → Option String) (name : String) : StateM (List String) (Option String) := do
  modify (· ++ [name])
  return lookup name

/-- The names that are asked for when none of them has a value. -/
def askedNames (text : String) : List String := (Id.run ((expand (noting fun _ => none) text.toList).run [])).2

end StreamScript.Text
