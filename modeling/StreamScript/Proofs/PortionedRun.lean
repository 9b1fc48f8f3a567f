import StreamScript.Proofs.PersistedRun
import StreamScript.Proofs.RunCourse
import StreamScript.Proofs.StreamPortions

/-! Running a stream in portions. Between two of them a machine keeps the tokens of an unfinished statement, with the
places that they had, so the second portion cannot be moved as a whole. Instead its run as it is and its run further
down are both moved images of one run, in which every token and every bad line has a tag of its own. -/

namespace StreamScript

namespace Stream

/-- The item on a line of its own, which is its tag. -/
def tag (number : Nat) : Item → Item
  | .ok token => .ok { token with position := .ofLine number }
  | .error error => .error { error with line := number }

/-- Tagged items, behind so many others. -/
def tagged (others : Nat) (items : List Item) : List Item :=
  items.mapIdx fun index item => tag (others + index + 1) item

theorem place_tag (number : Nat) (item : Item) : place (tag number item) = .ofLine number := by
  cases item <;> rfl

theorem tag_lower (number count : Nat) (item : Item) : tag number (lower count item) = tag number item := by
  cases item <;> rfl

/-- What has a tag can stand anywhere. -/
theorem tagged_lower (others count : Nat) (items : List Item) :
    tagged others (items.map (lower count)) = tagged others items := by
  apply List.ext_getElem
  · simp [tagged]
  · simp [tagged, tag_lower]

theorem place_mem_tagged {others : Nat} {items : List Item} {item : Item} (member : item ∈ tagged others items) :
    ∃ index < items.length, place item = .ofLine (others + index + 1) := by
  obtain ⟨index, inside, rfl⟩ := List.mem_mapIdx.mp member
  exact ⟨index, inside, place_tag _ _⟩

/-- To move a tag to the place of its item is to move the item there. -/
theorem moved_tag {move : Position → Position} {number : Nat} {item : Item}
    (there : move (.ofLine number) = place item) : Moved move (tag number item) item := by
  cases item with
  | ok token =>
    obtain ⟨kind, literal, position⟩ := token
    cases there
    exact .token ⟨kind, literal, .ofLine number⟩
  | error error => exact .badLine there

end Stream

namespace Run

variable {κ : Type}

namespace Machine

/-- Where that stands which has the tag: a token that waits, or an item behind all of these. -/
def placeOfTag (held : List Token) (items : List Stream.Item) (tag : Position) : Position :=
  (((held.map .ok ++ items)[tag.line - 1]?).map Stream.place).getD tag

variable {held : List Token} {items : List Stream.Item} {index : Nat}

theorem placeOfTag_held (inside : index < held.length) :
    placeOfTag held items (.ofLine (index + 1)) = held[index].position := by
  simp [placeOfTag, Position.ofLine, List.getElem?_append_left, inside, Stream.place]

theorem placeOfTag_item (inside : index < items.length) :
    placeOfTag held items (.ofLine (held.length + index + 1)) = Stream.place items[index] := by
  simp [placeOfTag, Position.ofLine, inside]

variable [Console κ] (settings : Settings)

/-- A run of tagged items by a machine in which tagged tokens wait, without earlier reports. -/
def runTagged (machine : Machine κ) (items : List Stream.Item) : Except Error Unit × Machine κ :=
  { machine with pending := Stream.numbered machine.pending }.silent.run settings
    (Stream.tagged machine.pending.length items)

/-- Every run is that of the tagged items, when each tag is moved to its place. -/
theorem run_eq_runTagged (machine : Machine κ) (items : List Stream.Item) :
    machine.run settings items =
      relocateEnd (placeOfTag machine.pending items) machine.log (machine.runTagged settings items) := by
  have matched : List.Forall₂ (Stream.Moved (placeOfTag machine.pending items))
      (Stream.tagged machine.pending.length items) items := by
    rw [List.forall₂_iff_get]
    refine ⟨by simp [Stream.tagged], ?_⟩
    intro index _ inside
    simp only [List.get_eq_getElem, Stream.tagged, List.getElem_mapIdx]
    exact Stream.moved_tag (placeOfTag_item inside)
  have waiting : (Stream.numbered machine.pending).map (Token.relocate (placeOfTag machine.pending items)) =
      machine.pending := numbered_relocate_of fun _ inside => placeOfTag_held inside
  have moved := run_eq_relocateEnd settings matched { machine with pending := Stream.numbered machine.pending }
  simp only [waiting] at moved
  exact moved

theorem runTagged_lower (machine : Machine κ) (items : List Stream.Item) (count : Nat) :
    machine.runTagged settings (items.map (Stream.lower count)) = machine.runTagged settings items := by
  rw [runTagged, Stream.tagged_lower, runTagged]

/-- The tags of a machine in which so many tokens wait and of so many items. -/
def IsTag (count : Nat) (place : Position) : Prop := ∃ index < count, place = .ofLine (index + 1)

theorem runTagged_within (machine : Machine κ) (items : List Stream.Item) :
    Within (IsTag (machine.pending.length + items.length)) (machine.runTagged settings items) := by
  apply run_within
  · apply within_silent
    intro token member
    obtain ⟨index, inside, place⟩ := position_of_mem_numbered token member
    exact ⟨index, by omega, place⟩
  · intro item member
    obtain ⟨index, inside, place⟩ := Stream.place_mem_tagged member
    exact ⟨machine.pending.length + index, by omega, place⟩

end Machine

/-- Where one token or bad line stands when these items are run as they are, and when they come so many lines further
down. Tokens that waited before stay where they were. -/
def Lowered (held : List Token) (items : List Stream.Item) (count : Nat) (one other : Position) : Prop :=
  (∃ token ∈ held, one = token.position ∧ other = token.position) ∨
  ∃ item ∈ items, one = Stream.place item ∧ other = (Stream.place item).lower count

namespace Machine

theorem lowered_placeOfTag {held : List Token} {items : List Stream.Item} {tag : Position} (count : Nat)
    (known : IsTag (held.length + items.length) tag) :
    Lowered held items count (placeOfTag held items tag) (placeOfTag held (items.map (Stream.lower count)) tag) := by
  obtain ⟨index, inside, rfl⟩ := known
  by_cases waits : index < held.length
  · refine .inl ⟨held[index], List.getElem_mem waits, ?_, ?_⟩
    · exact placeOfTag_held waits
    · exact placeOfTag_held waits
  · obtain ⟨behind, rfl⟩ := Nat.exists_eq_add_of_le (Nat.le_of_not_lt waits)
    have given : behind < items.length := by omega
    refine .inr ⟨items[behind], List.getElem_mem given, placeOfTag_item given, ?_⟩
    rw [placeOfTag_item (by simpa using given), List.getElem_map, Stream.place_lower]

variable [Console κ] (settings : Settings)

/-- A stream can be run in portions. When the first one fails or ends the program, the second does not matter, whatever
is in it. Otherwise running the second where the first has left off is running both at once, but for the lines of the
second: in the whole they are lower by the lines of the first. Which token or bad line a place belongs to is told by
its tag in the one run that both are made of. -/
theorem portioned_run_agrees (machine : Machine κ) {first : String} (ends : Text.EndsLine first.toList)
    (second : String) :
    let begun := machine.runStream settings first
    let continued := begun.2.runStream settings second
    let whole := machine.runStream settings (first ++ second)
    let held := begun.2.pending
    let items := Stream.items second
    let count := first.toList.count '\n'
    let tagged := begun.2.runTagged settings items
    (∀ error, begun.1 = .error error → whole = begun) ∧
    ((Stream.items first).any Stream.endsProgram = true → whole = begun) ∧
    (begun.1 = .ok () → (Stream.items first).any Stream.endsProgram = false →
      SameEnd continued whole ∧ Placed (Lowered held items count) begun.2.log continued whole ∧
      Within (IsTag (held.length + items.length)) tagged ∧
      continued = relocateEnd (placeOfTag held items) begun.2.log tagged ∧
      whole = relocateEnd (placeOfTag held (items.map (Stream.lower count))) begun.2.log tagged) := by
  simp only [runStream, Stream.items_append ends, run_append]
  generalize machine.run settings (Stream.items first) = begun
  rcases begun with ⟨error | _, after⟩
  · refine ⟨fun _ _ => rfl, fun _ => rfl, ?_⟩
    intro succeeded
    cases succeeded
  · refine ⟨?_, ?_, ?_⟩
    · intro error failed
      cases failed
    · intro ended
      rw [ended]
      rfl
    · intro _ goesOn
      rw [goesOn]
      have continued := run_eq_runTagged settings after (Stream.items second)
      have whole := run_eq_runTagged settings after ((Stream.items second).map (Stream.lower (first.toList.count '\n')))
      have within := runTagged_within settings after (Stream.items second)
      rw [runTagged_lower] at whole
      refine ⟨?_, ?_, within, continued, whole⟩
      · simp only [continued, whole]
        exact sameEnd_moved _ _ _ _
      · simp only [continued, whole]
        exact placed_moved within (fun _ known => lowered_placeOfTag _ known) _

/-- The cut is inside a statement, which the second portion completes. A bad line on the third line of this portion is
on the fourth line of the whole. The token that waited and the first item of the portion were both on line one, and
their tags tell them apart. -/
theorem portioned_run_agrees_badLine :
    let machine : Machine Transcript := { console := {} }
    let first := "PRINT('print')\n"
    let second := "STRING('a')\nSEMICOLON(';')\n?\n"
    let begun := machine.runStream {} first
    let continued := begun.2.runStream {} second
    let whole := machine.runStream {} (first ++ second)
    let held := begun.2.pending
    let items := Stream.items second
    let tagged := begun.2.runTagged {} items
    Text.EndsLine first.toList ∧ begun.1 = .ok () ∧ held.length = 1 ∧
    continued.1 = .error ⟨.stream (.malformedLine "?"), some ⟨3, 0⟩⟩ ∧
    whole.1 = .error ⟨.stream (.malformedLine "?"), some ⟨4, 0⟩⟩ ∧ whole.2.console.output = "a\n" ∧
    SameEnd continued whole ∧ Placed (Lowered held items 1) begun.2.log continued whole ∧
    placeOfTag held items ⟨1, 0⟩ = ⟨1, 0⟩ ∧ placeOfTag held items ⟨2, 0⟩ = ⟨1, 0⟩ ∧
    placeOfTag held (items.map (Stream.lower 1)) ⟨2, 0⟩ = ⟨2, 0⟩ ∧
    continued = relocateEnd (placeOfTag held items) begun.2.log tagged ∧
    whole = relocateEnd (placeOfTag held (items.map (Stream.lower 1))) begun.2.log tagged := by
  intro machine first second begun continued whole held items tagged
  have ends : Text.EndsLine first.toList := .inr (by decide)
  have succeeded : begun.1 = .ok () := by decide +kernel
  have goesOn : (Stream.items first).any Stream.endsProgram = false := by decide +kernel
  have lines : first.toList.count '\n' = 1 := by decide
  obtain ⟨_, _, agrees⟩ := portioned_run_agrees {} machine ends second
  obtain ⟨same, placed, _, asGiven, further⟩ := agrees succeeded goesOn
  rw [lines] at placed further
  exact ⟨ends, succeeded, by decide +kernel, by decide +kernel, by decide +kernel, by decide +kernel, same, placed,
    by decide +kernel, by decide +kernel, by decide +kernel, asGiven, further⟩

end Machine

end Run

end StreamScript
