import StreamScript.Proofs.TextLines
import StreamScript.Text.Placeholder

/-! The segments of a text with placeholders. The text alone decides where they are, in one way only, and filling
goes through them once: it asks for the name of each placeholder in turn and joins what the segments become. -/

namespace StreamScript.Text

/-- Plain characters in a row make up a literal run. -/
inductive Segment where
  | plain (c : Char)
  | placeholder (inside : List Char)
deriving Repr, DecidableEq

namespace Segment

/-- The part of the text that the segment was read from. -/
def raw : Segment → List Char
  | plain c => [c]
  | placeholder inside => '\x7b' :: (inside ++ ['\x7d'])

def asked? : Segment → Option String
  | plain _ => none
  | placeholder inside => some (placeholderName inside)

def fill (lookup : String → Option String) : Segment → List Char
  | plain c => [c]
  | placeholder inside => substitute (placeholderName inside) (lookup (placeholderName inside))

/-- Filling where asking has an effect. -/
def fillAsking {m : Type → Type} [Monad m] (lookup : String → m (Option String)) : Segment → m (List Char)
  | plain c => pure [c]
  | placeholder inside => do
    let value ← lookup (placeholderName inside)
    return substitute (placeholderName inside) value

/-- The segment without the white space inside its braces. -/
def trimmed : Segment → Segment
  | plain c => plain c
  | placeholder inside => placeholder (trim inside)

end Segment

/-- An opening brace is plain only if no closing brace follows it, and a placeholder ends at the first one. -/
inductive Segmented : List Segment → Prop where
  | nil : Segmented []
  | plain {c : Char} {rest : List Segment} (unmatched : c = '\x7b' → '\x7d' ∉ rest.flatMap Segment.raw)
      (later : Segmented rest) : Segmented (.plain c :: rest)
  | placeholder {inside : List Char} {rest : List Segment} (unclosed : '\x7d' ∉ inside) (later : Segmented rest) :
      Segmented (.placeholder inside :: rest)

def segments : List Char → List Segment
  | [] => []
  | c :: rest =>
    if c = '\x7b' ∧ '\x7d' ∈ rest then
      .placeholder (rest.takeWhile (· ≠ '\x7d')) :: segments ((rest.dropWhile (· ≠ '\x7d')).drop 1)
    else .plain c :: segments rest
termination_by text => text.length
decreasing_by
  · have shorter := (List.dropWhile_suffix (l := rest) (· ≠ '\x7d')).length_le
    simp only [List.length_drop, List.length_cons]
    omega
  · simp

/-- The text up to the first closing brace, that brace, and the rest. -/
theorem takeWhile_append_closing {text : List Char} (closed : '\x7d' ∈ text) :
    text.takeWhile (· ≠ '\x7d') ++ '\x7d' :: (text.dropWhile (· ≠ '\x7d')).drop 1 = text := by
  induction text with
  | nil => cases closed
  | cons c rest ih =>
    by_cases same : c = '\x7d'
    · simp [same]
    · have later : '\x7d' ∈ rest := (List.mem_cons.mp closed).resolve_left (Ne.symm same)
      simpa [same] using ih later

theorem flatMap_raw_segments (text : List Char) : (segments text).flatMap Segment.raw = text := by
  fun_induction segments text with
  | case1 => rfl
  | case2 c rest matched ih =>
    obtain ⟨rfl, closed⟩ := matched
    rw [List.flatMap_cons, ih, Segment.raw, List.cons_append, List.append_assoc, List.singleton_append,
      takeWhile_append_closing closed]
  | case3 c rest unmatched ih => rw [List.flatMap_cons, ih, Segment.raw, List.singleton_append]

theorem segmented_segments (text : List Char) : Segmented (segments text) := by
  fun_induction segments text with
  | case1 => exact .nil
  | case2 c rest matched ih =>
    refine .placeholder ?_ ih
    intro member
    simpa using List.all_eq_true.mp List.all_takeWhile _ member
  | case3 c rest unmatched ih =>
    refine .plain ?_ ih
    rw [flatMap_raw_segments]
    exact fun opening closed => unmatched ⟨opening, closed⟩

/-- Reading finds the segments of a text that is made of them. -/
theorem Segmented.segments_flatMap_raw {found : List Segment} (segmented : Segmented found) :
    segments (found.flatMap Segment.raw) = found := by
  induction segmented with
  | nil => simp [segments]
  | @plain c rest unmatched later ih =>
    have stays : ¬ (c = '\x7b' ∧ '\x7d' ∈ rest.flatMap Segment.raw) := fun matched => unmatched matched.1 matched.2
    rw [List.flatMap_cons, Segment.raw, List.singleton_append, segments, if_neg stays, ih]
  | @placeholder inside rest unclosed later ih =>
    have inner : ∀ c ∈ inside, decide (c ≠ '\x7d') = true := by
      intro c member
      simpa using fun same : c = '\x7d' => unclosed (same ▸ member)
    rw [List.flatMap_cons, Segment.raw, List.cons_append, List.append_assoc, List.singleton_append, segments,
      if_pos (by simp), List.takeWhile_append_of_pos inner, List.dropWhile_append_of_pos inner]
    simpa using ih

section Filling

/-- Filling a text asks for nothing but what its segments ask for, in their order. -/
theorem expand_eq_mapM {m : Type → Type} [Monad m] [LawfulMonad m] (lookup : String → m (Option String))
    (text : List Char) : expand lookup text = List.flatten <$> (segments text).mapM (Segment.fillAsking lookup) := by
  fun_induction segments text with
  | case1 => simp [expand]
  | case2 c rest matched ih =>
    rw [expand, if_pos matched, ih]
    simp [Segment.fillAsking]
  | case3 c rest unmatched ih =>
    rw [expand, if_neg unmatched, ih]
    simp [Segment.fillAsking]

variable (lookup : String → Option String)

theorem fillAsking_noting (segment : Segment) (earlier : List String) :
    Id.run ((segment.fillAsking (noting lookup)).run earlier) =
      (segment.fill lookup, earlier ++ segment.asked?.toList) := by
  cases segment with
  | plain c => simp [Segment.fillAsking, Segment.fill, Segment.asked?]
  | placeholder inside => simp [Segment.fillAsking, Segment.fill, Segment.asked?, noting]

theorem mapM_fillAsking_noting (found : List Segment) (earlier : List String) :
    Id.run ((found.mapM (Segment.fillAsking (noting lookup))).run earlier) =
      (found.map (Segment.fill lookup), earlier ++ found.filterMap Segment.asked?) := by
  induction found generalizing earlier with
  | nil => simp
  | cons segment rest ih =>
    simp only [List.mapM_cons, bind_pure_comp, StateT.run_bind, StateT.run_map, Id.run_bind, Id.run_map,
      fillAsking_noting, ih, List.map_cons, List.append_assoc]
    cases segment <;> rfl

theorem run_expand_noting (text : List Char) :
    Id.run ((expand (noting lookup) text).run []) =
      ((segments text).flatMap (Segment.fill lookup), (segments text).filterMap Segment.asked?) := by
  simp [expand_eq_mapM, mapM_fillAsking_noting, List.flatMap_def]

theorem interpolate_eq (text : String) :
    interpolate lookup text = String.ofList ((segments text.toList).flatMap (Segment.fill lookup)) := by
  have filled : (fun segment => Id.run (Segment.fillAsking (fun name => pure (lookup name)) segment)) =
      Segment.fill lookup := by
    funext segment
    cases segment <;> rfl
  rw [interpolate, expand_eq_mapM, Id.run_map, List.idRun_mapM, filled, List.flatMap_def]

end Filling

theorem askedNames_eq (text : String) : askedNames text = (segments text.toList).filterMap Segment.asked? := by
  rw [askedNames, run_expand_noting]

/-- The last opening brace, if there is one, has a closing brace behind it. -/
def ClosesLast (text : List Char) : Prop := '\x7b' ∈ text → '\x7d' ∈ text.reverse.takeWhile (· ≠ '\x7b')

instance (text : List Char) : Decidable (ClosesLast text) :=
  inferInstanceAs (Decidable ('\x7b' ∈ text → '\x7d' ∈ text.reverse.takeWhile (· ≠ '\x7b')))

/-- Then every opening brace has one. -/
theorem ClosesLast.closing_mem {before after : List Char} (closes : ClosesLast (before ++ '\x7b' :: after)) :
    '\x7d' ∈ after := by
  have found := closes (by simp)
  rw [List.reverse_append, List.reverse_cons, List.append_assoc, List.singleton_append, List.takeWhile_append] at found
  split at found
  · simpa using found
  · exact List.mem_reverse.mp (List.takeWhile_subset _ found)

theorem Segmented.append {found later : List Segment} (segmented : Segmented found) (next : Segmented later)
    (closes : ∀ before after, found.flatMap Segment.raw = before ++ '\x7b' :: after → '\x7d' ∈ after) :
    Segmented (found ++ later) := by
  induction segmented with
  | nil => exact next
  | @plain c rest unmatched _ ih =>
    refine .plain ?_ (ih fun before after split => closes (c :: before) after ?_)
    · rintro rfl
      exact absurd (closes [] _ rfl) (unmatched rfl)
    · rw [List.flatMap_cons, split]
      rfl
  | @placeholder inside rest unclosed _ ih =>
    refine .placeholder unclosed (ih fun before after split => ?_)
    apply closes ((Segment.placeholder inside).raw ++ before)
    rw [List.flatMap_cons, split, List.append_assoc]

/-- Where nothing is left open, the text behind has its segments for itself. -/
theorem segments_append {text : List Char} (closes : ClosesLast text) (later : List Char) :
    segments (text ++ later) = segments text ++ segments later := by
  have joined : Segmented (segments text ++ segments later) := by
    apply (segmented_segments text).append (segmented_segments later)
    intro before after split
    rw [flatMap_raw_segments] at split
    subst split
    exact closes.closing_mem
  have raw : (segments text ++ segments later).flatMap Segment.raw = text ++ later := by
    rw [List.flatMap_append, flatMap_raw_segments, flatMap_raw_segments]
  rw [← raw, joined.segments_flatMap_raw]

theorem interpolate_append (lookup : String → Option String) {text : String} (closes : ClosesLast text.toList)
    (later : String) : interpolate lookup (text ++ later) = interpolate lookup text ++ interpolate lookup later := by
  rw [interpolate_eq, interpolate_eq, interpolate_eq, String.toList_append, segments_append closes, List.flatMap_append,
    String.ofList_append]

/-- A text without an opening brace has no placeholders. -/
theorem segments_of_unopened {text : List Char} (unopened : '\x7b' ∉ text) : segments text = text.map .plain := by
  induction text with
  | nil => simp [segments]
  | cons c rest ih =>
    rw [List.mem_cons, not_or] at unopened
    rw [segments, if_neg fun matched => unopened.1 matched.1.symm, ih unopened.2, List.map_cons]

theorem interpolate_eq_self (lookup : String → Option String) {text : String} (unopened : '\x7b' ∉ text.toList) :
    interpolate lookup text = text := by
  rw [interpolate_eq, segments_of_unopened unopened, List.flatMap_map]
  simp [Segment.fill]

theorem mem_of_mem_trim {c : Char} {text : List Char} (member : c ∈ trim text) : c ∈ text := by
  rw [trim, trimRight, trimLeft, trimLeft, List.mem_reverse] at member
  have kept := List.mem_reverse.mp ((List.dropWhile_suffix _).subset member)
  exact (List.dropWhile_suffix _).subset kept

theorem mem_raw_of_mem_trimmed {c : Char} {segment : Segment} (member : c ∈ segment.trimmed.raw) :
    c ∈ segment.raw := by
  cases segment with
  | plain _ => exact member
  | placeholder inside =>
    simp only [Segment.trimmed, Segment.raw, List.mem_cons, List.mem_append] at member ⊢
    exact member.imp_right (Or.imp_left mem_of_mem_trim)

theorem Segmented.trimmed {found : List Segment} (segmented : Segmented found) :
    Segmented (found.map Segment.trimmed) := by
  induction segmented with
  | nil => exact .nil
  | @plain c rest unmatched _ ih =>
    refine .plain (fun opening member => unmatched opening ?_) ih
    obtain ⟨_, present, inside⟩ := List.mem_flatMap.mp member
    obtain ⟨segment, original, rfl⟩ := List.mem_map.mp present
    exact List.mem_flatMap.mpr ⟨segment, original, mem_raw_of_mem_trimmed inside⟩
  | placeholder unclosed _ ih => exact .placeholder (fun member => unclosed (mem_of_mem_trim member)) ih

theorem fill_unresolved {lookup : String → Option String} {segment : Segment}
    (unresolved : ∀ name ∈ segment.asked?, lookup name = none) : segment.fill lookup = segment.trimmed.raw := by
  cases segment with
  | plain c => rfl
  | placeholder inside =>
    rw [Segment.fill, unresolved _ rfl, substitute, placeholderName, String.toList_ofList]
    rfl

/-- If no name has a value, each placeholder loses the white space inside its braces. So the text is kept exactly if
there is none. -/
theorem interpolate_unresolved {lookup : String → Option String} {text : String}
    (unresolved : ∀ name ∈ askedNames text, lookup name = none) :
    interpolate lookup text = String.ofList (((segments text.toList).map Segment.trimmed).flatMap Segment.raw) ∧
    (interpolate lookup text = text ↔
      ∀ inside, .placeholder inside ∈ segments text.toList → trim inside = inside) := by
  have filled : interpolate lookup text =
      String.ofList (((segments text.toList).map Segment.trimmed).flatMap Segment.raw) := by
    rw [interpolate_eq, List.flatMap_def, List.flatMap_def, List.map_map]
    congr 2
    apply List.map_congr_left
    intro segment member
    apply fill_unresolved
    intro name asked
    apply unresolved
    rw [askedNames_eq]
    exact List.mem_filterMap.mpr ⟨segment, member, asked⟩
  refine ⟨filled, ?_⟩
  rw [filled, ← String.toList_inj, String.toList_ofList]
  constructor
  · intro same inside member
    -- The trimmed segments read the same text, so they are the segments that were found.
    have unchanged := (segmented_segments text.toList).trimmed.segments_flatMap_raw
    rw [same] at unchanged
    have fixed := List.map_inj_left.mp (unchanged.symm.trans (List.map_id _).symm) _ member
    simpa [Segment.trimmed] using fixed
  · intro bare
    have fixed : ∀ segment ∈ segments text.toList, segment.trimmed = id segment := by
      intro segment member
      cases segment with
      | plain c => rfl
      | placeholder inside => rw [Segment.trimmed, bare inside member, id]
    rw [List.map_congr_left fixed, List.map_id, flatMap_raw_segments]

/-- `{b}{ c` is kept: its one placeholder is `{b}`. -/
theorem interpolate_unresolved_kept :
    let lookup := fun name => if name = "c" then some "5" else none
    (∀ name ∈ askedNames "\x7bb\x7d\x7b c", lookup name = none) ∧
    interpolate lookup "\x7bb\x7d\x7b c" = "\x7bb\x7d\x7b c" := by
  intro lookup
  have unresolved : ∀ name ∈ askedNames "\x7bb\x7d\x7b c", lookup name = none := by decide +kernel
  have found : segments "\x7bb\x7d\x7b c".toList = [.placeholder ['b'], .plain '\x7b', .plain ' ', .plain 'c'] := by
    decide +kernel
  refine ⟨unresolved, (interpolate_unresolved unresolved).2.mpr ?_⟩
  intro inside member
  rw [found] at member
  obtain rfl : inside = ['b'] := by simpa using member
  decide

/-- `{ x }` becomes `{x}`. -/
theorem interpolate_unresolved_spaced :
    let lookup : String → Option String := fun _ => none
    (∀ name ∈ askedNames "\x7b x \x7d", lookup name = none) ∧ interpolate lookup "\x7b x \x7d" ≠ "\x7b x \x7d" := by
  intro lookup
  exact ⟨fun _ _ => rfl, by decide +kernel⟩

end StreamScript.Text
