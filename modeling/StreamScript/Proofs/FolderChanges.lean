import StreamScript.Command.Folder

/-! What a folder is like after a file was written. The file has its new content, every other file has its own, and
every folder is still one; so a path that led to the file before still does. -/

namespace StreamScript.Command

theorem decodeText_toUTF8 (text : String) : decodeText text.toUTF8 = .ok text := by
  have decoded : String.fromUTF8? text.toUTF8 = some text := by
    unfold String.fromUTF8?
    rw [String.toUTF8_eq_toByteArray, dif_pos text.isValidUTF8]
    rfl
  rw [decodeText, decoded]

namespace Folder

variable {folder : Folder} {location : Location}

private theorem lookup_replaced (files : List (Location × ByteArray)) (location other : Location)
    (content : ByteArray) :
    (files.map fun (file, old) => (file, if file = location then content else old)).lookup other =
      (files.lookup other).map fun old => if other = location then content else old := by
  induction files with
  | nil => rfl
  | cons entry rest ih =>
    rw [List.map_cons, List.lookup_cons, List.lookup_cons]
    by_cases here : other = entry.1
    · simp [here]
    · simpa [beq_false_of_ne here] using ih

theorem file?_set (folder : Folder) (location other : Location) (content : ByteArray) :
    (folder.set location content).file? other = if other = location then some content else folder.file? other := by
  unfold set
  split
  next known =>
    simp only [file?] at known ⊢
    rw [lookup_replaced]
    split
    next same =>
      rw [← same, Option.isSome_iff_exists] at known
      obtain ⟨old, found⟩ := known
      rw [found]
      rfl
    next => simp
  next unknown =>
    simp only [file?, Option.not_isSome_iff_eq_none] at unknown ⊢
    rw [List.lookup_append]
    split
    next same => simp [same, unknown]
    next different => simp [List.lookup_cons, beq_false_of_ne different]

theorem hasFolder_set {other : Location} (stands : folder.hasFolder other = true) (location : Location)
    (content : ByteArray) : (folder.set location content).hasFolder other = true := by
  unfold set
  split
  · simpa [hasFolder, Function.comp_def] using stands
  · rw [hasFolder, List.any_append, ← Bool.or_assoc]
    exact Bool.or_eq_true_iff.mpr (.inl stands)

theorem place_set_self (folder : Folder) (location : Location) (content : ByteArray) :
    (folder.set location content).place location = .file content := by
  simp [place, file?_set]

theorem place_set_folder {other : Location} (stands : folder.place other = .folder) (different : other ≠ location)
    (content : ByteArray) : (folder.set location content).place other = .folder := by
  unfold place at stands ⊢
  rw [file?_set, if_neg different]
  split at stands
  · cases stands
  · cases stands
  next noFile noDevice =>
    split at stands
    next known => simp [hasFolder_set known location content]
    next => cases stands

theorem follow_set {base target : Location} {segments : List String} (content : ByteArray)
    (noFolder : folder.place location ≠ .folder) (followed : folder.follow base segments = .ok target) :
    (folder.set location content).follow base segments = .ok target := by
  induction segments generalizing base with
  | nil => exact followed
  | cons segment rest ih =>
    simp only [follow] at followed
    split at followed
    · cases followed
    · cases followed
    · cases followed
    next stands =>
      have different : base ≠ location := by
        rintro rfl
        exact noFolder stands
      split at followed
      · cases followed
      next short =>
        simp only [follow, place_set_folder stands different, if_neg short]
        exact ih followed

theorem resolve_set {path : String} {target : Location} (content : ByteArray)
    (noFolder : folder.place location ≠ .folder) (resolved : folder.resolve path = .ok target) :
    (folder.set location content).resolve path = .ok target := by
  unfold resolve at resolved ⊢
  split
  next long =>
    rw [if_pos long] at resolved
    cases resolved
  next short =>
    rw [if_neg short] at resolved
    exact follow_set content noFolder resolved

theorem writable_file {path : String} (writable : folder.writable path = .ok (.file location)) :
    folder.resolve path = .ok location ∧ Path.endsInSlash path = false ∧ folder.place location ≠ .folder := by
  unfold Folder.writable at writable
  generalize folder.resolve path = resolved at writable
  cases resolved with
  | error failure => cases writable
  | ok target =>
    cases ended : Path.endsInSlash path with
    | true =>
      rw [ended] at writable
      cases writable
    | false =>
      rw [ended] at writable
      cases found : folder.place target with
      | folder | device =>
        simp only [found, bind, Except.bind] at writable
        cases writable
      | file | absent =>
        simp only [found, bind, Except.bind] at writable
        cases writable
        exact ⟨rfl, rfl, by simp [found]⟩

/-- What was written to a file is read from it. -/
theorem readable_set {path : String} (writable : folder.writable path = .ok (.file location)) (content : ByteArray) :
    (folder.set location content).readable path = .ok (.file content) := by
  obtain ⟨resolved, unended, noFolder⟩ := writable_file writable
  rw [readable, resolve_set content noFolder resolved]
  simp only [bind, Except.bind, place_set_self, unended]
  rfl

end Folder

end StreamScript.Command
