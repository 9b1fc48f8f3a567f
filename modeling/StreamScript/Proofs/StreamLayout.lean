import StreamScript.Proofs.TextLines
import StreamScript.Token.Stream

/-! The layout of a stream. Its lines may be padded with white space, blank lines may stand between them, and a line
may end with a carriage return and a newline. What the stream yields stays the same, only the numbers of the lines
change. -/

namespace StreamScript

namespace Text

/-- White space that stays on its line. -/
def Padding (text : List Char) : Prop := ∀ c ∈ text, isBlank c = true ∧ c ≠ '\n'

instance (text : List Char) : Decidable (Padding text) := List.decidableBAll _ text

/-- What a line may end with. -/
def lineEnds : List (List Char) := [['\n'], ['\r', '\n']]

/-- The lines of a text, without their ends. Behind the last end there is one line more, which may be empty. -/
inductive Lined : List Char → List (List Char) → Prop where
  | last {line : List Char} (unbroken : '\n' ∉ line) : Lined line [line]
  | ended {line ending rest : List Char} {lines : List (List Char)} (unbroken : '\n' ∉ line)
      (ends : ending ∈ lineEnds) (later : Lined rest lines) : Lined (line ++ ending ++ rest) (line :: lines)

/-- The lines from number `line` on, laid out anew from number `number` on. Each is padded or left as it is, blank lines
are put in anywhere, and the line with number `n` becomes the one with number `place n`. -/
inductive Relaid (place : Nat → Nat) : (line number : Nat) → List (List Char) → List (List Char) → Prop where
  | nil {line number : Nat} : Relaid place line number [] []
  | padded {line number : Nat} {left text right : List Char} {old new : List (List Char)} (there : place line = number)
      (before : Padding left) (behind : Padding right) (later : Relaid place (line + 1) (number + 1) old new) :
      Relaid place line number (text :: old) ((left ++ text ++ right) :: new)
  | inserted {line number : Nat} {blank : List Char} {old new : List (List Char)} (padding : Padding blank)
      (later : Relaid place line (number + 1) old new) : Relaid place line number old (blank :: new)

section Trimming

theorem trimLeft_append_left {left : List Char} (blank : ∀ c ∈ left, isBlank c = true) (text : List Char) :
    trimLeft (left ++ text) = trimLeft text := List.dropWhile_append_of_pos blank

theorem trimLeft_eq_nil {text : List Char} (blank : ∀ c ∈ text, isBlank c = true) : trimLeft text = [] := by
  have cut := trimLeft_append_left blank []
  rwa [List.append_nil] at cut

theorem trimRight_append_right {right : List Char} (blank : ∀ c ∈ right, isBlank c = true) (text : List Char) :
    trimRight (text ++ right) = trimRight text := by
  have reversed : ∀ c ∈ right.reverse, isBlank c = true := fun c member => blank c (List.mem_reverse.mp member)
  rw [trimRight, List.reverse_append, trimLeft_append_left reversed, trimRight]

/-- White space around a text is cut off, and no more of the text than without it. -/
theorem trim_padded {left right : List Char} (before : ∀ c ∈ left, isBlank c = true)
    (behind : ∀ c ∈ right, isBlank c = true) (text : List Char) : trim (left ++ text ++ right) = trim text := by
  rw [trim, List.append_assoc, trimLeft_append_left before, trim]
  -- What is left of the text in front of the padding decides where the cutting stops.
  rw [trimLeft, List.dropWhile_append]
  split
  next nothing =>
    have gone : trimLeft text = [] := List.isEmpty_iff.mp nothing
    rw [gone]
    exact congrArg trimRight (trimLeft_eq_nil behind)
  next => exact trimRight_append_right behind _

theorem trim_eq_nil {text : List Char} (blank : ∀ c ∈ text, isBlank c = true) : trim text = [] := by
  rw [trim, trimLeft_eq_nil blank]
  rfl

end Trimming

theorem lines_of_unbroken {line : List Char} (unbroken : '\n' ∉ line) : lines line = [line] := by
  induction line with
  | nil => rfl
  | cons c rest ih =>
    have ordinary : c ≠ '\n' := fun same => unbroken (by simp [same])
    exact lines_cons ordinary (ih fun later => unbroken (List.mem_cons_of_mem c later))

theorem Lined.cons {c : Char} {text line : List Char} {more : List (List Char)} (ordinary : c ≠ '\n')
    (lined : Lined text (line :: more)) : Lined (c :: text) ((c :: line) :: more) := by
  have longer : '\n' ∉ line → '\n' ∉ c :: line := by
    intro unbroken member
    rcases List.mem_cons.mp member with same | later
    · exact ordinary same.symm
    · exact unbroken later
  cases lined with
  | last unbroken => exact .last (longer unbroken)
  | ended unbroken ends later => exact .ended (longer unbroken) ends later

/-- Every text has lines: those between its newlines. -/
theorem lined_lines (text : List Char) : Lined text (lines text) := by
  induction text with
  | nil => exact .last (by simp)
  | cons c rest ih =>
    by_cases newline : c = '\n'
    · subst newline
      rw [lines_newline]
      exact @Lined.ended [] ['\n'] rest _ (by simp) (List.mem_cons_self ..) ih
    · obtain ⟨line, more, split⟩ := List.exists_cons_of_ne_nil (lines_ne_nil rest)
      rw [lines_cons newline split]
      rw [split] at ih
      exact ih.cons newline

end Text

namespace Stream

/-- What a line with this number yields, unless it is blank. -/
def lineItem? (line : List Char) (number : Nat) : Option Item :=
  if Text.trim line = [] then none else some (decodeLine (String.ofList (Text.trim line)) number)

/-- The item of a line that has another number. -/
def renumber (place : Nat → Nat) : Item → Item
  | .ok token => .ok { token with position := .ofLine (place token.position.line) }
  | .error error => .error { error with line := place error.line }

theorem itemsFrom_cons (number : Nat) (line : List Char) (rest : List (List Char)) :
    itemsFrom number (line :: rest) = (lineItem? line number).toList ++ itemsFrom (number + 1) rest := by
  rw [itemsFrom, lineItem?]
  split <;> rfl

theorem itemsFrom_eq_filterMap (number : Nat) (lines : List (List Char)) :
    itemsFrom number lines = (lines.zipIdx number).filterMap fun (line, number) => lineItem? line number := by
  induction lines generalizing number with
  | nil => rfl
  | cons line rest ih =>
    simp only [itemsFrom_cons, ih, List.zipIdx_cons, List.filterMap_cons]
    cases lineItem? line number with
    | none => rfl
    | some item => rfl

theorem lineItem?_padded {left right : List Char} (before : ∀ c ∈ left, Text.isBlank c = true)
    (behind : ∀ c ∈ right, Text.isBlank c = true) (line : List Char) (number : Nat) :
    lineItem? (left ++ line ++ right) number = lineItem? line number := by
  rw [lineItem?, lineItem?, Text.trim_padded before behind]

theorem lineItem?_blank {line : List Char} (blank : ∀ c ∈ line, Text.isBlank c = true) (number : Nat) :
    lineItem? line number = none := if_pos (Text.trim_eq_nil blank)

theorem decodeLine_renumber (place : Nat → Nat) (text : String) (line : Nat) :
    decodeLine text (place line) = renumber place (decodeLine text line) := by
  unfold decodeLine
  split
  · rfl
  · split
    · rfl
    · split <;> rfl

theorem lineItem?_renumber (place : Nat → Nat) (line : List Char) (number : Nat) :
    lineItem? line (place number) = (lineItem? line number).map (renumber place) := by
  unfold lineItem?
  split
  · rfl
  · exact congrArg some (decodeLine_renumber place _ number)

/-- A stream yields what its lines yield, however they end. -/
theorem itemsFrom_of_lined {text : List Char} {lines : List (List Char)} (lined : Text.Lined text lines)
    (number : Nat) : itemsFrom number (Text.lines text) = itemsFrom number lines := by
  induction lined generalizing number with
  | last unbroken => rw [Text.lines_of_unbroken unbroken]
  | @ended line ending rest lines unbroken ends later ih =>
    rcases List.mem_cons.mp ends with rfl | returns
    · rw [List.append_assoc, List.singleton_append, Text.lines_append rest unbroken, itemsFrom_cons, itemsFrom_cons, ih]
    · -- The carriage return is read as a part of the line, and cut off with the other white space.
      obtain rfl := List.mem_singleton.mp returns
      have kept : '\n' ∉ line ++ ['\r'] := by simpa using unbroken
      have split : line ++ ['\r', '\n'] ++ rest = (line ++ ['\r']) ++ '\n' :: rest := by simp
      have cut : lineItem? ([] ++ line ++ ['\r']) number = lineItem? line number :=
        lineItem?_padded (by simp) (List.forall_mem_singleton.mpr (by decide)) line number
      rw [List.nil_append] at cut
      rw [split, Text.lines_append rest kept, itemsFrom_cons, itemsFrom_cons, ih, cut]

/-- The same lines in another layout yield the same items, at the new numbers of their lines. -/
theorem itemsFrom_of_relaid {place : Nat → Nat} {line number : Nat} {old new : List (List Char)}
    (relaid : Text.Relaid place line number old new) :
    itemsFrom number new = (itemsFrom line old).map (renumber place) := by
  induction relaid with
  | nil => rfl
  | @padded line number left text right old new there before behind later ih =>
    subst there
    have same := fun number =>
      lineItem?_padded (fun c member => (before c member).1) (fun c member => (behind c member).1) text number
    rw [itemsFrom_cons, itemsFrom_cons, same, lineItem?_renumber, ih, List.map_append]
    cases lineItem? text line <;> rfl
  | @inserted line number blank old new padding later ih =>
    rw [itemsFrom_cons, lineItem?_blank fun c member => (padding c member).1]
    exact ih

/-- Every stream has lines, and it yields what those of them that are not blank hold between the white space at their
ends, numbered from one. Any stream with the same lines in another layout yields the same items, each with the number
that its line has there. -/
theorem items_layout (stream : String) :
    (∃ lines, Text.Lined stream.toList lines) ∧
    ∀ lines, Text.Lined stream.toList lines →
      items stream = ((lines.zipIdx 1).filterMap fun (line, number) => lineItem? line number) ∧
      ∀ place laid newLines, Text.Lined (String.toList laid) newLines → Text.Relaid place 1 1 lines newLines →
        items laid = (items stream).map (renumber place) := by
  refine ⟨⟨_, Text.lined_lines stream.toList⟩, ?_⟩
  intro lines lined
  have yields : items stream = itemsFrom 1 lines := itemsFrom_of_lined lined 1
  refine ⟨by rw [yields, itemsFrom_eq_filterMap], ?_⟩
  intro place laid newLines linedAnew relaid
  have yieldsAnew : items laid = itemsFrom 1 newLines := itemsFrom_of_lined linedAnew 1
  rw [yieldsAnew, yields, itemsFrom_of_relaid relaid]

/-- A blank line in front, a tab and a wide space around the first line, one more blank line further down, and other
line ends. The first line becomes the second, and the last one, which is malformed, the fourth. -/
theorem items_layout_padded :
    let place := fun line => if line = 1 then 2 else 4
    let lines := ["EOF('')".toList, "EOF".toList]
    let newLines := [[], "\tEOF('')\u3000".toList, " ".toList, "EOF".toList]
    Text.Lined "EOF('')\nEOF".toList lines ∧ Text.Lined "\n\tEOF('')\u3000\r\n \r\nEOF".toList newLines ∧
    Text.Relaid place 1 1 lines newLines ∧
    items "\n\tEOF('')\u3000\r\n \r\nEOF" = (items "EOF('')\nEOF").map (renumber place) ∧
    (items "EOF('')\nEOF").map (renumber place) =
      [.ok ⟨.endOfFile, "", ⟨2, 0⟩⟩, .error ⟨.malformedLine "EOF", 4⟩] := by
  intro place lines newLines
  have lined : Text.Lined "EOF('')\nEOF".toList lines :=
    @Text.Lined.ended "EOF('')".toList ['\n'] _ _ (by decide) (by decide) (.last (by decide))
  have linedAnew : Text.Lined "\n\tEOF('')\u3000\r\n \r\nEOF".toList newLines :=
    @Text.Lined.ended [] ['\n'] _ _ (by decide) (by decide)
      (@Text.Lined.ended "\tEOF('')\u3000".toList ['\r', '\n'] _ _ (by decide) (by decide)
        (@Text.Lined.ended [' '] ['\r', '\n'] _ _ (by decide) (by decide) (.last (by decide))))
  have relaid : Text.Relaid place 1 1 lines newLines :=
    .inserted (by decide)
      (@Text.Relaid.padded place 1 2 ['\t'] _ ['\u3000'] _ _ rfl (by decide) (by decide)
        (.inserted (by decide) (@Text.Relaid.padded place 2 4 [] _ [] _ _ rfl (by decide) (by decide) .nil)))
  exact ⟨lined, linedAnew, relaid, ((items_layout _).2 lines lined).2 place _ newLines linedAnew relaid, rfl⟩

end Stream

end StreamScript
