import Mathlib.Data.List.Basic
import StreamScript.Proofs.CommandEndings

/-! The commands agree about a source: compiling, checking and listing refuse the same sources. A file is written only
when the source is accepted, and then it holds what the listing shows. -/

namespace StreamScript.Command.Plan

variable {folder : Folder} {input : List UInt8} {path source : String}

theorem code_compile_eq_iff (readable : folder.text input path = .ok source) (output : String) (checked : Bool) :
    ((compile path output checked).perform folder input).code = 65 ↔ accepted? source checked = none := by
  obtain ⟨left, ended⟩ := ending_compile_of_text readable output checked
  have code : ((compile path output checked).perform folder input).code = _ := congrArg Prod.fst ended
  rw [code]
  cases accepted? source checked with
  | none => simp
  | some tokens =>
    rcases ending_writeStream_cases folder left output tokens with ⟨_, _, written⟩ | kept | failed
    · simp [written]
    · simp [kept]
    · simp [failed]

/-- A compilation touches no file but the one that its output path leads to, and none if the tokens are not
accepted. -/
theorem folder_compile (readable : folder.text input path = .ok source) (output : String) (checked : Bool) :
    let compiled := (compile path output checked).perform folder input
    (accepted? source checked = none → compiled.folder = folder) ∧
    ∀ other, folder.writable output ≠ .ok (.file other) → compiled.folder.file? other = folder.file? other := by
  intro compiled
  obtain ⟨left, ended⟩ := ending_compile_of_text readable output checked
  have files : compiled.folder = _ := congrArg Prod.snd ended
  rw [files]
  cases accepted? source checked with
  | none => exact ⟨fun _ => rfl, fun _ _ => rfl⟩
  | some tokens =>
    constructor
    · intro impossible
      cases impossible
    · intro other elsewhere
      rcases ending_writeStream_cases folder left output tokens with ⟨location, writable, written⟩ | kept | failed
      · have different : other ≠ location := by
          rintro rfl
          exact elsewhere writable
        simp only [written, Folder.file?_set, if_neg different]
      · simp only [kept]
      · simp only [failed]

/-- For a source that can be read, and whatever the output path leads to: compiling fails over the source exactly if
listing its tokens does, which is if it has a lexical fault, and compiling with the check fails over it exactly if
checking does. If there is no fault, and a file can be written, the file holds the stream of the tokens, which is
what the listing prints. No other file is touched, and none at all if compiling fails over the source. -/
theorem commands_agree (readable : folder.text input path = .ok source) (output : String) :
    let compiled := fun checked => (compile path output checked).perform folder input
    let listed := fun format => (tokenize path format).perform folder input
    (∀ format, (compiled false).code = 65 ↔ (listed format).code = 65) ∧
    ((compiled false).code = 65 ↔ ∃ error, (Source.tokenize source).result = .error error) ∧
    (∀ tokens, (Source.tokenize source).result = .ok tokens →
      ∀ location, folder.writable output = .ok (.file location) →
        (compiled false).code = 0 ∧
        (compiled false).folder.file? location = some (Stream.encode tokens).toUTF8 ∧
        (listed .stream).output = Stream.encode tokens) ∧
    ((compiled true).code = 65 ↔ ((check path).perform folder input).code = 65) ∧
    ∀ checked,
      ((compiled checked).code = 65 → (compiled checked).folder = folder) ∧
      ∀ other, folder.writable output ≠ .ok (.file other) →
        (compiled checked).folder.file? other = folder.file? other := by
  intro compiled listed
  refine ⟨?_, ?_, ?_, ?_, ?_⟩
  · intro format
    have ended : (listed format).code = _ := congrArg Prod.fst (ending_tokenize readable format)
    rw [code_compile_eq_iff readable, ended]
    cases accepted? source false <;> simp
  · rw [code_compile_eq_iff readable, accepted?_false_eq_none_iff]
  · intro tokens lexed location writable
    obtain ⟨left, ended⟩ := ending_compile_of_text readable output false
    rw [accepted?_of_lexed lexed] at ended
    have written : (compiled false).ending = _ := ended.trans (ending_writeStream left writable tokens)
    obtain ⟨code, files⟩ := Prod.mk.inj written
    refine ⟨code, ?_, output_tokenize readable lexed⟩
    rw [files, Folder.file?_set, if_pos rfl]
  · have ended : ((check path).perform folder input).code = _ := congrArg Prod.fst (ending_check readable)
    rw [code_compile_eq_iff readable, ended]
    cases accepted? source true <;> simp
  · intro checked
    obtain ⟨unwritten, elsewhere⟩ := folder_compile readable output checked
    exact ⟨fun failed => unwritten ((code_compile_eq_iff readable output checked).mp failed), elsewhere⟩

/-- A source with a quote that is not closed is refused. One that lexes but does not pass the check is compiled over
an older file, and is refused when it is to be checked. -/
theorem commands_agree_unchecked :
    let tokens : List Token :=
      [⟨.identifier, "x", ⟨1, 1⟩⟩, ⟨.equal, "=", ⟨1, 2⟩⟩, ⟨.number, "1", ⟨1, 3⟩⟩, ⟨.semicolon, ";", ⟨1, 4⟩⟩,
      ⟨.endOfFile, "", ⟨1, 5⟩⟩]
    let folder := Folder.ofFiles [("a", "'".toUTF8), ("b", "x=1;".toUTF8), ("c", "old".toUTF8)]
    let refused := (compile "a" "c" false).perform folder []
    let compiled := (compile "b" "c" false).perform folder []
    folder.text [] "a" = .ok "'" ∧ (∃ error, (Source.tokenize "'").result = .error error) ∧
    refused.code = 65 ∧ ((tokenize "a" .basic).perform folder []).code = 65 ∧ refused.folder = folder ∧
    folder.text [] "b" = .ok "x=1;" ∧ (Source.tokenize "x=1;").result = .ok tokens ∧
    folder.writable "c" = .ok (.file (.inside ["c"])) ∧ compiled.code = 0 ∧
    compiled.folder.file? (.inside ["c"]) = some (Stream.encode tokens).toUTF8 ∧
    ((tokenize "b" .stream).perform folder []).output = Stream.encode tokens ∧
    compiled.folder.file? (.inside ["a"]) = folder.file? (.inside ["a"]) ∧
    ((check "b").perform folder []).code = 65 ∧ ((compile "b" "c" true).perform folder []).code = 65 := by
  have found (first second third : ByteArray) :
      (Folder.ofFiles [("a", first), ("b", second), ("c", third)]).readable "a" = .ok (.file first) ∧
      (Folder.ofFiles [("a", first), ("b", second), ("c", third)]).readable "b" = .ok (.file second) ∧
      (Folder.ofFiles [("a", first), ("b", second), ("c", third)]).writable "c" = .ok (.file (.inside ["c"])) :=
    ⟨rfl, rfl, rfl⟩
  intro tokens folder refused compiled
  obtain ⟨first, second, writable⟩ := found "'".toUTF8 "x=1;".toUTF8 "old".toUTF8
  have unclosed : folder.text [] "a" = .ok "'" := Folder.text_of_file first []
  have readable : folder.text [] "b" = .ok "x=1;" := Folder.text_of_file second []
  have fault : ∃ error, (Source.tokenize "'").result = .error error :=
    ⟨⟨.emptyCharacter, ⟨1, 1⟩, 0, 1⟩, by decide +kernel⟩
  have lexed : (Source.tokenize "x=1;").result = .ok tokens := by decide +kernel
  have unaccepted : accepted? "x=1;" true = none := by
    rw [accepted?, lexed]
    rfl
  have checked : ((check "b").perform folder []).code = 65 := by
    have ended : ((check "b").perform folder []).code = _ := congrArg Prod.fst (ending_check readable)
    rw [ended, unaccepted]
  obtain ⟨listed, faulty, _, _, files⟩ := commands_agree unclosed "c"
  obtain ⟨_, _, written, agrees, others⟩ := commands_agree readable "c"
  obtain ⟨succeeded, content, shown⟩ := written tokens lexed _ writable
  have failed := faulty.mpr fault
  have elsewhere : folder.writable "c" ≠ .ok (.file (.inside ["a"])) := by
    rw [writable]
    simp
  exact ⟨unclosed, fault, failed, (listed .basic).mp failed, (files false).1 failed, readable, lexed, writable,
    succeeded, content, shown, (others false).2 _ elsewhere, checked, agrees.mpr checked⟩

end StreamScript.Command.Plan
