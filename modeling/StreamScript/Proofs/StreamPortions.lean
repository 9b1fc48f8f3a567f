import StreamScript.Proofs.Relocation
import StreamScript.Proofs.TextLines
import StreamScript.Token.Stream

/-! Streams that are put together. When the first of two texts ends with a line, the lines of both are those of the
first and then those of the second, and what the second yields stands lower by the lines of the first. -/

namespace StreamScript

/-- The place so many lines further down. -/
def Position.lower (count : Nat) (position : Position) : Position := { position with line := position.line + count }

/-- The text is empty or its last line is complete. -/
def Text.EndsLine (text : List Char) : Prop := text = [] ∨ text.getLast? = some '\n'

theorem Text.lines_append_of_endsLine {text : List Char} (ends : EndsLine text) (more : List Char) :
    ∃ rows, rows.length = text.count '\n' ∧ lines text = rows ++ [[]] ∧ lines (text ++ more) = rows ++ lines more := by
  induction text with
  | nil => exact ⟨[], rfl, rfl, rfl⟩
  | cons c rest ih =>
    have last : (c :: rest).getLast? = some '\n' := ends.resolve_left (List.cons_ne_nil c rest)
    have restEnds : EndsLine rest := by
      cases rest with
      | nil => exact .inl rfl
      | cons => exact .inr (by simpa using last)
    obtain ⟨rows, length, split, joined⟩ := ih restEnds
    by_cases newline : c = '\n'
    · subst newline
      refine ⟨[] :: rows, by simp [length], ?_, ?_⟩
      · rw [lines_newline, split, List.cons_append]
      · rw [List.cons_append, lines_newline, joined, List.cons_append]
    · -- The line that this character belongs to ends in the rest.
      have ended : '\n' ∈ rest := (List.mem_cons.mp (List.mem_of_getLast? last)).resolve_left (Ne.symm newline)
      cases rows with
      | nil => exact absurd length (Nat.ne_of_lt (List.count_pos_iff.mpr ended))
      | cons row rows =>
        refine ⟨(c :: row) :: rows, by simpa [newline] using length, ?_, ?_⟩
        · exact lines_cons newline split
        · exact lines_cons newline joined

namespace Stream

/-- The item so many lines further down. -/
def lower (count : Nat) : Item → Item
  | .ok token => .ok (token.relocate (.lower count))
  | .error error => .error { error with line := error.line + count }

theorem place_lower (count : Nat) (item : Item) : place (lower count item) = (place item).lower count := by
  cases item <;> rfl

theorem decodeLine_lower (text : String) (line count : Nat) :
    decodeLine text (line + count) = lower count (decodeLine text line) := by
  unfold decodeLine
  split
  · rfl
  · split
    · rfl
    · split <;> rfl

theorem itemsFrom_append (line : Nat) (rows more : List (List Char)) :
    itemsFrom line (rows ++ more) = itemsFrom line rows ++ itemsFrom (line + rows.length) more := by
  induction rows generalizing line with
  | nil => rfl
  | cons row rows ih =>
    rw [List.cons_append, itemsFrom, itemsFrom, ih, List.length_cons, Nat.add_right_comm, Nat.add_assoc]
    split
    · rfl
    · rfl

theorem itemsFrom_lower (line count : Nat) (rows : List (List Char)) :
    itemsFrom (line + count) rows = (itemsFrom line rows).map (lower count) := by
  induction rows generalizing line with
  | nil => rfl
  | cons row rows ih =>
    rw [itemsFrom, itemsFrom, Nat.add_right_comm, ih, decodeLine_lower]
    split
    · rfl
    · rfl

theorem items_append {first : String} (ends : Text.EndsLine first.toList) (second : String) :
    items (first ++ second) = items first ++ (items second).map (lower (first.toList.count '\n')) := by
  obtain ⟨rows, length, split, joined⟩ := Text.lines_append_of_endsLine ends second.toList
  have complete : itemsFrom 1 (rows ++ [[]]) = itemsFrom 1 rows := by
    rw [itemsFrom_append]
    exact List.append_nil _
  rw [items, items, items, String.toList_append, split, joined, complete, itemsFrom_append, itemsFrom_lower, length]

end Stream

end StreamScript
