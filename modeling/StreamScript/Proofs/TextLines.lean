import StreamScript.Text.Basic

/-! How a text falls into lines, and which lines keep all their characters when white space is cut off. -/

namespace StreamScript.Text

theorem lines_ne_nil (text : List Char) : lines text ≠ [] := by
  cases text with
  | nil => simp [lines]
  | cons c rest =>
    simp only [lines, List.foldr_cons]
    fun_cases addToLines c (rest.foldr addToLines [[]]) <;> simp

theorem lines_newline (rest : List Char) : lines ('\n' :: rest) = [] :: lines rest := by
  have some := lines_ne_nil rest
  simp only [lines, List.foldr_cons] at *
  cases found : rest.foldr addToLines [[]] with
  | nil => exact absurd found some
  | cons line more => simp [addToLines]

theorem lines_cons {c : Char} {rest line : List Char} {more : List (List Char)} (ordinary : c ≠ '\n')
    (split : lines rest = line :: more) : lines (c :: rest) = (c :: line) :: more := by
  simp only [lines, List.foldr_cons] at *
  rw [split]
  simp [addToLines, ordinary]

theorem lines_append {line : List Char} (rest : List Char) (unbroken : '\n' ∉ line) :
    lines (line ++ '\n' :: rest) = line :: lines rest := by
  induction line with
  | nil => exact lines_newline rest
  | cons c line ih =>
    have ordinary : c ≠ '\n' := fun same => unbroken (by simp [same])
    exact lines_cons ordinary (ih fun later => unbroken (List.mem_cons_of_mem c later))

theorem trimLeft_eq_self {text : List Char} (first : ∀ c ∈ text.head?, isBlank c = false) : trimLeft text = text := by
  cases text with
  | nil => rfl
  | cons c rest => simp [trimLeft, first c rfl]

theorem trim_eq_self {text : List Char} (first : ∀ c ∈ text.head?, isBlank c = false)
    (last : ∀ c ∈ text.getLast?, isBlank c = false) : trim text = text := by
  have backward : trimLeft text.reverse = text.reverse := by
    apply trimLeft_eq_self
    simpa only [List.head?_reverse] using last
  rw [trim, trimLeft_eq_self first, trimRight, backward, List.reverse_reverse]

end StreamScript.Text
