import Mathlib.Data.List.Basic
import StreamScript.Proofs.CommandEndings
import StreamScript.Proofs.DataFaults
import StreamScript.Proofs.LexedLiterals
import StreamScript.Proofs.StreamRoundTrip

/-! Running what was compiled. The stream of a source that lexes has no bad lines and no literals that could not be
read, integers beyond the range apart, and it ends its program. So a compiled file may fail when it is run, but never
because of what is in the file. -/

namespace StreamScript

theorem Stream.mem_numbered {tokens : List Token} {token : Token} (member : token ∈ numbered tokens) :
    ∃ original ∈ tokens, token.form = original.form := by
  obtain ⟨index, inside, rfl⟩ := List.mem_mapIdx.mp member
  exact ⟨tokens[index], List.getElem_mem inside, rfl⟩

theorem Stream.numbered_ends {tokens : List Token} (ends : ∃ token ∈ tokens, token.kind = .endOfFile) :
    ∃ token ∈ numbered tokens, token.kind = .endOfFile := by
  obtain ⟨token, member, isEnd⟩ := ends
  obtain ⟨index, inside, rfl⟩ := List.mem_iff_getElem.mp member
  exact ⟨_, List.mem_mapIdx.mpr ⟨index, inside, rfl⟩, isEnd⟩

namespace Run.Machine

section Lexed

variable {source : String} {tokens : List Token} (lexed : (Source.tokenize source).result = .ok tokens)

include lexed in
theorem admits_of_item {token : Token} (member : .ok token ∈ Stream.items (Stream.encode tokens)) :
    token.kind.Admits token.literal.toList := by
  rw [Stream.items_encode] at member
  obtain ⟨given, inside, same⟩ := List.mem_map.mp member
  cases same
  obtain ⟨original, known, form⟩ := Stream.mem_numbered inside
  obtain ⟨sameKind, sameLiteral⟩ := Prod.mk.inj form
  rw [sameKind, sameLiteral]
  exact Source.admits_of_tokenize lexed original known

variable {κ : Type} [Console κ] {settings : Settings} {machine : Machine κ}

include lexed in
theorem encoded_run_pending : (machine.runStream settings (Stream.encode tokens)).2.pending = [] := by
  rw [runStream, run_pending, Stream.items_encode]
  exact drive_pending_eq_nil settings machine (Stream.numbered_ends (Source.endOfFile_of_tokenize lexed))

theorem encoded_run_origin {tokens : List Token} {error : Error}
    (failed : (machine.runStream settings (Stream.encode tokens)).1 = .error error) :
    error.fault.origin ≠ .stream := by
  intro origin
  obtain ⟨line, member⟩ := run_stream_fault failed origin
  rw [Stream.items_encode] at member
  simp at member

include lexed in
theorem encoded_run_literal (quiet : machine.pending = []) {error : Error}
    (failed : (machine.runStream settings (Stream.encode tokens)).1 = .error error)
    (about : error.fault.aboutLiteral = true) :
    ∃ literal, error.fault = .invalidIntegerLiteral literal ∧ Kind.number.Admits literal.toList ∧
      2147483647 < Number.digitsValue literal.toList := by
  obtain ⟨token, known, blames⟩ := run_blames failed about
  have given : .ok token ∈ Stream.items (Stream.encode tokens) := by simpa [quiet] using known
  have admits := admits_of_item lexed given
  generalize error.fault = fault at blames
  cases blames with
  | integer isNumber unread =>
    rw [isNumber] at admits
    exact ⟨token.literal, rfl, admits, (Number.readInt32_eq_none_iff admits).mp unread⟩
  | floating isFloating unread =>
    rw [isFloating] at admits
    exact absurd unread (Number.readBinary64_ne_none admits)

end Lexed

end Run.Machine

namespace Command

namespace Plan

variable {folder : Folder} (input : List UInt8)

/-- A compilation leaves the stream of a source that lexes, or everything as it was. -/
theorem ending_compile (path : String) {output : String} (check : Bool) {location : Location}
    (writable : folder.writable output = .ok (.file location)) :
    let ending := ((compile path output check).perform folder input).ending
    (∃ source tokens, (Source.tokenize source).result = .ok tokens ∧
      ending = (0, folder.set location (Stream.encode tokens).toUTF8)) ∨
    ending = (1, folder) ∨ ending = (65, folder) := by
  intro ending
  obtain ⟨left, ended⟩ := ending_compile_eq folder input path output check
  cases read : folder.text input path with
  | error failure =>
    rw [read] at ended
    exact .inr (.inl ended)
  | ok source =>
    simp only [read] at ended
    cases accepted : accepted? source check with
    | none =>
      rw [accepted] at ended
      exact .inr (.inr ended)
    | some tokens =>
      rw [accepted] at ended
      exact .inl ⟨source, tokens, lexed_of_accepted accepted, ended.trans (ending_writeStream left writable tokens)⟩

theorem ending_compile_of_lexed {path output source : String} {tokens : List Token} {location : Location}
    (readable : folder.readable path = .ok (.file source.toUTF8))
    (lexed : (Source.tokenize source).result = .ok tokens)
    (writable : folder.writable output = .ok (.file location)) :
    ((compile path output false).perform folder input).ending =
      (0, folder.set location (Stream.encode tokens).toUTF8) := by
  obtain ⟨left, ended⟩ := ending_compile_eq folder input path output false
  simp only [Folder.text_of_file readable, accepted?_of_lexed lexed] at ended
  exact ended.trans (ending_writeStream left writable tokens)

theorem ending_run (settings : Run.Settings) (stream : String) (next : Except Run.Error Unit → Plan) :
    let machine : Run.Machine Run.Terminal := { console := { input } }
    let ended := machine.runStream settings stream
    ((run settings stream next).perform folder input).ending =
      ((next ended.1).perform folder ended.2.console.input).ending := by
  simp only [perform]
  rfl

/-- A stream that was written from tokens is run to its end, or to a fault of the program. -/
theorem ending_runFile {path : String} {tokens : List Token}
    (readable : folder.readable path = .ok (.file (Stream.encode tokens).toUTF8)) (settings : Run.Settings) :
    let ending := ((runFile path settings).perform folder input).ending
    ending = (0, folder) ∨ ending = (70, folder) := by
  let machine : Run.Machine Run.Terminal := { console := { input } }
  have origin := @Run.Machine.encoded_run_origin _ _ settings machine tokens
  rw [runFile, ending_warnOnExtension, readSource, perform, readable]
  simp only [decodeText_toUTF8, ending_run]
  generalize machine.runStream settings (Stream.encode tokens) = ended at origin
  rcases ended with ⟨⟨fault, place⟩ | _, after⟩
  · cases fault with
    | stream fault => exact absurd rfl (origin rfl)
    | _ => exact .inr rfl
  · exact .inl rfl

/-- Wherever the file that a compilation has written is found again, it runs to its end or to a fault of the program. -/
theorem code_runFile_of_compile {path output : String} {check : Bool} {location : Location}
    (writable : folder.writable output = .ok (.file location))
    (succeeded : ((compile path output check).perform folder input).code = 0) {later : Folder} {target : String}
    (found : later.readable target = ((compile path output check).perform folder input).folder.readable output)
    (typed : List UInt8) (settings : Run.Settings) :
    let code := ((runFile target settings).perform later typed).code
    code = 0 ∨ code = 70 := by
  rcases ending_compile input path check writable with ⟨_, tokens, _, written⟩ | failed | failed
  · obtain ⟨_, left⟩ := Prod.mk.inj written
    rw [left, Folder.readable_set writable] at found
    exact (ending_runFile typed found settings).imp (congrArg Prod.fst) (congrArg Prod.fst)
  · exact absurd (succeeded.symm.trans (congrArg Prod.fst failed)) (by simp)
  · exact absurd (succeeded.symm.trans (congrArg Prod.fst failed)) (by simp)

/-- Running the stream of a source that lexes does not fail over its lines or over a floating literal, and over an
integer literal only when this is a row of digits beyond the range. Characters are read as characters, and nothing is
left to wait. So running a file that a compilation has written ends well or in a fault of the program, never in a
fault of the data. -/
theorem compiled_run_accepts_data {source : String} {tokens : List Token}
    (lexed : (Source.tokenize source).result = .ok tokens) {κ : Type} [Run.Console κ] (settings : Run.Settings)
    {machine : Run.Machine κ} (quiet : machine.pending = []) :
    let ended := machine.runStream settings (Stream.encode tokens)
    (∀ error, ended.1 = .error error →
      (∀ fault, error.fault ≠ .stream fault) ∧ (∀ literal, error.fault ≠ .invalidFloatLiteral literal) ∧
      ∀ literal, error.fault = .invalidIntegerLiteral literal →
        literal.toList ≠ [] ∧ (∀ c ∈ literal.toList, Text.isDigit c = true) ∧
          2147483647 < Number.digitsValue literal.toList) ∧
    ended.2.pending = [] ∧
    (∀ token, .ok token ∈ Stream.items (Stream.encode tokens) → token.kind = .character →
      ∃ c, ∀ store imports, Run.operand store imports token = .ok (some (.character c))) ∧
    ∀ (folder : Folder) input path output check location, folder.writable output = .ok (.file location) →
      let compiled := (compile path output check).perform folder input
      compiled.code = 0 → ∀ (later : Folder) target, later.readable target = compiled.folder.readable output →
        ∀ typed options,
          let code := ((runFile target options).perform later typed).code
          code = 0 ∨ code = 70 := by
  intro ended
  refine ⟨?_, Run.Machine.encoded_run_pending lexed, ?_, ?_⟩
  · intro error failed
    have literal := Run.Machine.encoded_run_literal lexed quiet failed
    have origin := Run.Machine.encoded_run_origin failed
    obtain ⟨fault, place⟩ := error
    refine ⟨?_, ?_, ?_⟩
    · rintro bad rfl
      exact origin rfl
    · rintro text rfl
      obtain ⟨_, same, _⟩ := literal rfl
      cases same
    · rintro text rfl
      obtain ⟨_, same, ⟨nonempty, digits⟩, large⟩ := literal rfl
      cases same
      exact ⟨nonempty, digits, large⟩
  · intro token member kind
    exact Run.operand_character kind (Run.Machine.admits_of_item lexed member)
  · intro folder input path output check location writable compiled succeeded later target found typed options
    exact code_runFile_of_compile input writable succeeded found typed options

/-- An integer beyond the range is compiled, and the run fails over it with nothing left to wait. -/
theorem compiled_run_accepts_data_overflow :
    let source := "var(int) n=2147483648;'x'"
    let tokens : List Token :=
      [⟨.varWord, "var", ⟨1, 1⟩⟩, ⟨.identifier, "INT", ⟨1, 5⟩⟩, ⟨.identifier, "n", ⟨1, 10⟩⟩, ⟨.equal, "=", ⟨1, 11⟩⟩,
      ⟨.number, "2147483648", ⟨1, 12⟩⟩, ⟨.semicolon, ";", ⟨1, 22⟩⟩, ⟨.character, "x", ⟨1, 23⟩⟩,
      ⟨.endOfFile, "", ⟨1, 26⟩⟩]
    let machine : Run.Machine Run.Transcript := { console := {} }
    let folder := Folder.ofFiles [("a", source.toUTF8)]
    let compiled := (compile "a" "b" false).perform folder []
    let code := ((runFile "b" {}).perform compiled.folder []).code
    (Source.tokenize source).result = .ok tokens ∧ machine.pending = [] ∧
    (machine.runStream {} (Stream.encode tokens)).1 = .error ⟨.invalidIntegerLiteral "2147483648", some ⟨5, 0⟩⟩ ∧
    2147483647 < Number.digitsValue "2147483648".toList ∧
    (machine.runStream {} (Stream.encode tokens)).2.pending = [] ∧
    (∃ c, ∀ store imports, Run.operand store imports ⟨.character, "x", ⟨7, 0⟩⟩ = .ok (some (.character c))) ∧
    folder.writable "b" = .ok (.file (.inside ["b"])) ∧ compiled.code = 0 ∧ (code = 0 ∨ code = 70) := by
  have readable : ∀ content, (Folder.ofFiles [("a", content)]).readable "a" = .ok (.file content) := by
    intro content
    rfl
  have writable : ∀ content, (Folder.ofFiles [("a", content)]).writable "b" = .ok (.file (.inside ["b"])) := by
    intro content
    rfl
  intro source tokens machine folder compiled code
  have lexed : (Source.tokenize source).result = .ok tokens := by decide +kernel
  have quiet : machine.pending = [] := rfl
  have items : Stream.items (Stream.encode tokens) = (Stream.numbered tokens).map .ok := Stream.items_encode tokens
  have failed : (machine.runStream {} (Stream.encode tokens)).1 =
      .error ⟨.invalidIntegerLiteral "2147483648", some ⟨5, 0⟩⟩ := by
    rw [Run.Machine.runStream, items]
    rfl
  have given : .ok ⟨.character, "x", ⟨7, 0⟩⟩ ∈ Stream.items (Stream.encode tokens) := by
    rw [items]
    exact List.mem_of_getElem? (i := 6) rfl
  have ending : compiled.ending = (0, _) := ending_compile_of_lexed [] (readable _) lexed (writable _)
  have succeeded : compiled.code = 0 := congrArg Prod.fst ending
  obtain ⟨faults, pending, characters, commands⟩ := compiled_run_accepts_data lexed {} quiet
  obtain ⟨_, _, integer⟩ := faults _ failed
  exact ⟨lexed, quiet, failed, (integer _ rfl).2.2, pending, characters _ given rfl, writable _, succeeded,
    commands folder [] "a" "b" false _ (writable _) succeeded compiled.folder "b" rfl [] {}⟩

end Plan

end Command

end StreamScript
