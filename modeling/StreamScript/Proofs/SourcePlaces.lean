import Mathlib.Data.List.Induction
import StreamScript.Position

/-! Places in a source, told by the text in front of them: its newlines give the line, what it has behind the last of
them gives the column, and its size gives the offset. A mark that moves through a source keeps these numbers. -/

namespace StreamScript

namespace Text

/-- The number of characters behind the last newline. -/
def sinceNewline (text : List Char) : Nat := (text.reverse.takeWhile (· ≠ '\n')).length

def byteSize (text : List Char) : Nat := (String.ofList text).utf8ByteSize

@[simp] theorem byteSize_nil : byteSize [] = 0 := by simp [byteSize]

theorem byteSize_append (front text : List Char) : byteSize (front ++ text) = byteSize front + byteSize text := by
  simp [byteSize]

theorem byteSize_singleton (c : Char) : byteSize [c] = c.utf8Size := by simp [byteSize]

theorem byteSize_cons (c : Char) (text : List Char) : byteSize (c :: text) = c.utf8Size + byteSize text := by
  rw [← List.singleton_append, byteSize_append, byteSize_singleton]

theorem byteSize_cons_pos (c : Char) (text : List Char) : 0 < byteSize (c :: text) := by
  have pos := c.utf8Size_pos
  rw [byteSize_cons]
  omega

theorem length_le_byteSize (text : List Char) : text.length ≤ byteSize text := by
  induction text with
  | nil => simp
  | cons c rest ih =>
    have pos := c.utf8Size_pos
    rw [byteSize_cons, List.length_cons]
    omega

theorem byteSize_eq_length_iff (text : List Char) : byteSize text = text.length ↔ ∀ c ∈ text, c.utf8Size = 1 := by
  induction text with
  | nil => simp
  | cons c rest ih =>
    have pos := c.utf8Size_pos
    have fewer := length_le_byteSize rest
    rw [byteSize_cons, List.length_cons, List.forall_mem_cons, ← ih]
    omega

@[simp] theorem sinceNewline_nil : sinceNewline [] = 0 := rfl

theorem sinceNewline_append_newline (text : List Char) : sinceNewline (text ++ ['\n']) = 0 := by
  simp [sinceNewline]

theorem sinceNewline_append_other {c : Char} (other : c ≠ '\n') (text : List Char) :
    sinceNewline (text ++ [c]) = sinceNewline text + 1 := by
  simp [sinceNewline, other]

theorem sinceNewline_le_length (text : List Char) : sinceNewline text ≤ text.length := by
  have taken := (List.takeWhile_prefix (l := text.reverse) (· ≠ '\n')).length_le
  rwa [List.length_reverse] at taken

/-- A text that has a newline hides the line that stands in front of it. -/
theorem sinceNewline_append (front text : List Char) :
    sinceNewline (front ++ text) = if '\n' ∈ text then sinceNewline text else sinceNewline front + text.length := by
  induction text using List.reverseRecOn with
  | nil => simp
  | append_singleton text c ih =>
    rw [← List.append_assoc]
    by_cases newline : c = '\n'
    · subst newline
      rw [sinceNewline_append_newline, sinceNewline_append_newline, if_pos (by simp)]
    · have same : '\n' ∈ text ++ [c] ↔ '\n' ∈ text := by simp [Ne.symm newline]
      rw [sinceNewline_append_other newline, sinceNewline_append_other newline, ih]
      simp only [same, List.length_append, List.length_singleton]
      split <;> omega

end Text

namespace Position

instance : LT Position := ⟨fun first second =>
  first.line < second.line ∨ first.line = second.line ∧ first.column < second.column⟩

theorem lt_def {first second : Position} :
    first < second ↔ first.line < second.line ∨ first.line = second.line ∧ first.column < second.column := Iff.rfl

theorem ne_of_gt {first second : Position} (earlier : first < second) : second ≠ first := by
  rintro rfl
  rw [lt_def] at earlier
  omega

theorem lt_trans {first second third : Position} (earlier : first < second) (later : second < third) :
    first < third := by
  rw [lt_def] at *
  omega

/-- The place right behind a text. -/
def behind (text : List Char) : Position := ⟨1 + text.count '\n', 1 + Text.sinceNewline text⟩

/-- The place that a place of a text gets when this text is put in front: only the first line moves to the right. -/
def shift (front : List Char) (position : Position) : Position :=
  ⟨position.line + front.count '\n',
    if position.line = 1 then position.column + Text.sinceNewline front else position.column⟩

theorem behind_append (front text : List Char) : behind (front ++ text) = (behind text).shift front := by
  have newlines : 1 + text.count '\n' = 1 ↔ '\n' ∉ text := by
    rw [Nat.add_eq_left, List.count_eq_zero]
  simp only [behind, shift, List.count_append, Text.sinceNewline_append, newlines, mk.injEq]
  refine ⟨by omega, ?_⟩
  by_cases present : '\n' ∈ text
  · simp [present]
  · have column : Text.sinceNewline text = text.length := by simpa [present] using Text.sinceNewline_append [] text
    simp only [present, not_false_eq_true, if_true, if_false, column]
    omega

theorem behind_lt_behind_append (text : List Char) (c : Char) (more : List Char) :
    behind text < behind (text ++ c :: more) := by
  rw [lt_def]
  simp only [behind, List.count_append, Text.sinceNewline_append]
  by_cases present : '\n' ∈ c :: more
  · have newlines := List.count_pos_iff.mpr present
    left
    omega
  · right
    rw [List.count_eq_zero.mpr present, if_neg present, List.length_cons]
    omega

/-- A character behind a text is on no later line and in no later column than there are characters up to it. -/
theorem behind_le_length (text : List Char) :
    (behind text).line ≤ text.length + 1 ∧ (behind text).column ≤ text.length + 1 := by
  have newlines : text.count '\n' ≤ text.length := List.count_le_length
  have column := Text.sinceNewline_le_length text
  simp only [behind]
  omega

end Position

namespace Source.Mark

theorem past_start (text : List Char) : start.past text = ⟨.behind text, Text.byteSize text⟩ := by
  induction text using List.reverseRecOn with
  | nil => simp [start, Position.behind]
  | append_singleton text c ih =>
    rw [past_append, ih, past_cons, past_nil, after, Text.byteSize_append, Text.byteSize_singleton]
    by_cases newline : c = '\n'
    · subst newline
      simp [Position.behind, Text.sinceNewline_append_newline, Nat.add_assoc]
    · simp [Position.behind, newline, Text.sinceNewline_append_other newline, Nat.add_assoc]

end Source.Mark

end StreamScript
