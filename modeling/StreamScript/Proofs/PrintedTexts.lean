import StreamScript.Proofs.MachineRuns
import StreamScript.Proofs.PlaceholderSegments
import StreamScript.Proofs.PrintedTokens
import StreamScript.Proofs.StreamRoundTrip

/-! Texts on their way to the console. A program that prints texts has them escaped in its source, is lexed, written to
a stream, read back and run. What it prints are the texts, up to their placeholders. -/

namespace StreamScript

namespace Source

open Text (isBlank)

/-- `Output.println("text");` with the text escaped. -/
def printCall (text : String) : String := String.join ["Output.println(\"", Text.escape text, "\");"]

/-- A program that prints the texts, with white space in front of every call. -/
def printProgram (gap : String) (texts : List String) : String :=
  String.join ("using Output;" :: texts.map fun text => gap ++ printCall text)

/-- The tokens of a call up to its semicolon. -/
def callForms (text : String) : List (Kind × String) :=
  [(.identifier, "Output"), (.dot, "."), (.identifier, "println"), (.leftParenthesis, "("), (.text, text),
  (.rightParenthesis, ")")]

def callsForms (texts : List String) : List (Kind × String) :=
  texts.flatMap fun text => callForms text ++ [(.semicolon, ";")]

/-- Pieces that make up the source, say these forms and are not warned about. -/
structure Spells (pieces : List Lexeme) (source : List Char) (forms : List (Kind × String)) : Prop where
  fitting : Segmentation [] pieces
  raw : pieces.flatMap Lexeme.raw = source
  forms : pieces.flatMap Lexeme.forms = forms
  quiet : pieces.flatMap Lexeme.notices = []

theorem Spells.tokenize {pieces : List Lexeme} {source : String} {forms : List (Kind × String)}
    (spells : Spells pieces source.toList forms) :
    ∃ tokens, (tokenize source).result = .ok tokens ∧ tokens.map Token.form = forms ++ [(.endOfFile, "")] ∧
      (tokenize source).warnings = [] := by
  obtain ⟨tokens, lexed, said, noted⟩ := tokenize_of_segmentation spells.fitting spells.raw
  rw [spells.forms] at said
  rw [spells.quiet, List.map_nil] at noted
  exact ⟨tokens, lexed, said, List.map_eq_nil_iff.mp noted⟩

theorem Spells.blanks {gap : List Char} (blank : ∀ c ∈ gap, isBlank c = true) {pieces : List Lexeme}
    {source : List Char} {forms : List (Kind × String)} (later : Spells pieces source forms) :
    Spells (gap.map .blank ++ pieces) (gap ++ source) forms := by
  induction gap with
  | nil => exact later
  | cons c gap ih =>
    have behind := ih fun other member => blank other (List.mem_cons_of_mem c member)
    refine ⟨.cons (blank c (List.mem_cons_self ..)) trivial behind.fitting, ?_, behind.forms, behind.quiet⟩
    rw [List.map_cons, List.cons_append, List.flatMap_cons, behind.raw]
    rfl

theorem Spells.call (text : String) {pieces : List Lexeme} {source : List Char} {forms : List (Kind × String)}
    (later : Spells pieces source forms) :
    ∃ front, Spells (front ++ pieces) ((printCall text).toList ++ source)
      (callForms text ++ (.semicolon, ";") :: forms) := by
  obtain ⟨body, formed, raw, quiet⟩ := exists_body text.toList
  have outputFree : "Output" ∉ reservedWords := by decide
  have printlnFree : "println" ∉ reservedWords := by decide
  obtain ⟨outputKind, output⟩ := wordKind_of_not_reserved outputFree
  obtain ⟨printlnKind, println⟩ := wordKind_of_not_reserved printlnFree
  have dot : (.dot, '.') ∈ symbols := by decide
  have opening : (.leftParenthesis, '(') ∈ symbols := by decide
  have closing : (.rightParenthesis, ')') ∈ symbols := by decide
  have semicolon : (.semicolon, ';') ∈ symbols := by decide
  refine ⟨[.word "Output".toList, .symbol .dot '.', .word "println".toList, .symbol .leftParenthesis '(', .text body,
    .symbol .rightParenthesis ')', .symbol .semicolon ';'], ?_, ?_, ?_, ?_⟩
  · exact .cons ⟨by decide +kernel, output⟩ (stops_cons (by decide +kernel) _) <| .cons dot trivial <|
      .cons ⟨by decide +kernel, println⟩ (stops_cons (by decide +kernel) _) <| .cons opening trivial <|
      .cons formed trivial <| .cons closing trivial <| .cons semicolon trivial later.fitting
  · rw [List.flatMap_append, later.raw]
    simp [Lexeme.raw, printCall, Text.escape, raw]
  · rw [List.flatMap_append, later.forms]
    simp [Lexeme.forms, callForms, outputKind, printlnKind, Text.unescape, raw, Text.unescapeChars_escapeChars]
  · rw [List.flatMap_append, later.quiet]
    simp [Lexeme.notices, quiet]

theorem exists_spells_calls {gap : String} (blank : ∀ c ∈ gap.toList, isBlank c = true) (texts : List String) :
    ∃ pieces, Spells pieces (String.join (texts.map fun text => gap ++ printCall text)).toList (callsForms texts) := by
  induction texts with
  | nil => exact ⟨[], .nil, rfl, rfl, rfl⟩
  | cons text rest ih =>
    obtain ⟨pieces, later⟩ := ih
    obtain ⟨front, called⟩ := later.call text
    have spelled := called.blanks blank
    exact ⟨_, by simpa [callsForms] using spelled⟩

theorem exists_spells_program {gap : String} (blank : ∀ c ∈ gap.toList, isBlank c = true) (texts : List String) :
    ∃ pieces, Spells pieces (printProgram gap texts).toList
      ((.usingWord, "Output") :: (.semicolon, ";") :: callsForms texts) := by
  obtain ⟨pieces, later⟩ := exists_spells_calls blank texts
  have space : ∀ c ∈ [' '], isBlank c = true := List.forall_mem_singleton.mpr (by decide)
  have semicolon : (.semicolon, ';') ∈ symbols := by decide
  refine ⟨.library [' '] "Output".toList :: .symbol .semicolon ';' :: pieces, ?_, ?_, ?_, later.quiet⟩
  · exact .cons ⟨space, .inr ⟨List.cons_ne_nil _ _, by decide +kernel⟩⟩ (stops_cons (by decide +kernel) _) <|
      .cons semicolon trivial later.fitting
  · rw [List.flatMap_cons, List.flatMap_cons, later.raw]
    simp [Lexeme.raw, usingText, printProgram]
  · rw [List.flatMap_cons, List.flatMap_cons, later.forms]
    rfl

end Source

/-- A stream keeps what its tokens say. -/
theorem Stream.form_numbered (tokens : List Token) : (numbered tokens).map Token.form = tokens.map Token.form := by
  apply List.ext_getElem
  · simp [numbered]
  · intro index _ _
    simp [numbered, Token.form]

namespace Run.Machine

open Source (callForms callsForms)

theorem waits_of_callForms {text : String} {statement : List Token}
    (said : statement.map Token.form = callForms text) : ∀ token ∈ statement, token.Waits := by
  intro token member
  have form : token.form ∈ callForms text := said ▸ List.mem_map_of_mem member
  simp only [callForms, List.mem_cons, List.not_mem_nil, or_false, Token.form, Prod.mk.injEq] at form
  rcases form with ⟨kind, _⟩ | ⟨kind, _⟩ | ⟨kind, _⟩ | ⟨kind, _⟩ | ⟨kind, _⟩ | ⟨kind, _⟩ <;>
    simp [Token.Waits, kind]

/-- A statement with the tokens of a call is that call. -/
theorem classify_call {text : String} {statement : List Token} (said : statement.map Token.form = callForms text) :
    ∃ library argument, Statement.classify statement = some (.call library .println argument) ∧
      argument.kind = .text ∧ argument.literal = text := by
  obtain ⟨library, _, rfl, libraryForm, said⟩ := List.map_eq_cons_iff.mp said
  obtain ⟨dot, _, rfl, dotForm, said⟩ := List.map_eq_cons_iff.mp said
  obtain ⟨word, _, rfl, wordForm, said⟩ := List.map_eq_cons_iff.mp said
  obtain ⟨opening, _, rfl, openingForm, said⟩ := List.map_eq_cons_iff.mp said
  obtain ⟨argument, _, rfl, argumentForm, said⟩ := List.map_eq_cons_iff.mp said
  obtain ⟨closing, _, rfl, closingForm, said⟩ := List.map_eq_cons_iff.mp said
  obtain rfl := List.map_eq_nil_iff.mp said
  rw [Token.form, Prod.mk.injEq] at libraryForm dotForm wordForm openingForm argumentForm closingForm
  refine ⟨library, argument, ?_, argumentForm⟩
  simp [Statement.classify, Statement.declaration?, Statement.prompted?, Statement.assignment?, Statement.call?,
    Method.ofName?, outputName, Token.is, Token.isNamed, libraryForm, dotForm, wordForm, openingForm, closingForm]

/-- The machine once a text is printed on a line of its own. -/
def printed (machine : Machine Transcript) (text : String) : Machine Transcript :=
  { machine with console := { machine.console with output := machine.console.output ++ machine.fill text ++ "\n" } }

section Calls

variable {settings : Settings} (untraced : settings.trace = false)

include untraced

theorem dispatch_call {machine : Machine Transcript} (imported : machine.imports.contains outputName = true)
    {text : String} {statement : List Token} (said : statement.map Token.form = callForms text) :
    machine.dispatch settings statement = (.ok (), machine.printed text) := by
  obtain ⟨library, argument, recognized, isText, rfl⟩ := classify_call said
  have given : callText machine.store machine.imports library argument = .ok argument.literal := by
    rw [callText, requireOutput, if_pos imported, argumentText, Token.is, isText]
    rfl
  simp only [dispatch, recognized, trace, untraced]
  rw [if_neg Bool.false_ne_true, execute, given]
  rfl

/-- Calls print their texts one after the other and change nothing else. -/
theorem drive_calls (machine : Machine Transcript) (imported : machine.imports.contains outputName = true)
    (quiet : machine.pending = []) (texts : List String) {tokens : List Token}
    (said : tokens.map Token.form = callsForms texts ++ [(.endOfFile, "")]) :
    machine.drive settings (tokens.map .ok) = (.ok (), texts.foldl printed machine) := by
  induction texts generalizing machine tokens with
  | nil =>
    obtain ⟨last, _, rfl, form, said⟩ := List.map_eq_cons_iff.mp said
    obtain rfl := List.map_eq_nil_iff.mp said
    rw [List.map_singleton, drive, step_endOfFile settings machine last (congrArg Prod.fst form), cleared, ← quiet]
    rfl
  | cons text rest ih =>
    have split : callsForms (text :: rest) ++ [(.endOfFile, "")] =
        callForms text ++ (.semicolon, ";") :: (callsForms rest ++ [(.endOfFile, "")]) := by
      simp [callsForms]
    rw [split] at said
    obtain ⟨statement, _, rfl, called, said⟩ := List.map_eq_append_iff.mp said
    obtain ⟨semicolon, later, rfl, form, said⟩ := List.map_eq_cons_iff.mp said
    rw [List.map_append, List.map_cons, drive_statement settings machine quiet (waits_of_callForms called)
      (congrArg Prod.fst form), dispatch_call untraced imported called]
    exact ih (machine.printed text) imported quiet said

/-- The first statement imports the library, and its semicolon completes no statement. -/
theorem drive_program (machine : Machine Transcript) (quiet : machine.pending = []) (texts : List String)
    {tokens : List Token}
    (said : tokens.map Token.form =
      (.usingWord, outputName) :: (.semicolon, ";") :: callsForms texts ++ [(.endOfFile, "")]) :
    machine.drive settings (tokens.map .ok) =
      (.ok (), texts.foldl printed { machine with imports := machine.imports.insert outputName }) := by
  obtain ⟨word, _, rfl, wordForm, said⟩ := List.map_eq_cons_iff.mp said
  obtain ⟨semicolon, later, rfl, semicolonForm, said⟩ := List.map_eq_cons_iff.mp said
  rw [Token.form, Prod.mk.injEq] at wordForm
  have ready : machine.importing settings word =
      { machine with imports := machine.imports.insert outputName } := by
    rw [importing, trace, untraced, if_neg Bool.false_ne_true, wordForm.2]
  have waiting : (machine.importing settings word).pending = [] := by
    rw [ready, quiet]
  have imported : (machine.importing settings word).imports.contains outputName = true := by
    simp [ready]
  rw [← ready, List.map_cons, List.map_cons, drive, step_usingWord settings machine word wordForm.1]
  have completed := drive_statement settings _ waiting (List.forall_mem_nil _) (congrArg Prod.fst semicolonForm)
    (later.map .ok)
  exact completed.trans (drive_calls untraced _ imported waiting texts said)

end Calls

theorem foldl_printed (machine : Machine Transcript) (texts : List String) :
    texts.foldl printed machine =
      { machine with
        console :=
          ⟨machine.console.output ++ String.join (texts.map fun text => machine.fill text ++ "\n"),
          machine.console.input⟩ } := by
  induction texts generalizing machine with
  | nil => simp
  | cons text rest ih =>
    rw [List.foldl_cons, ih]
    simp [printed, fill, String.append_assoc]

/-- Any texts can be printed. The program that prints them lexes without a warning, and run from its stream it writes
each text on a line, with the names in braces filled in by no values: it declares nothing and reports nothing. A text
without an opening brace is written as it is. -/
theorem printed_texts_survive {gap : String} (blank : ∀ c ∈ gap.toList, Text.isBlank c = true) (texts : List String)
    {settings : Settings} (untraced : settings.trace = false) (input : List String) :
    ∃ tokens, (Source.tokenize (Source.printProgram gap texts)).result = .ok tokens ∧
      (Source.tokenize (Source.printProgram gap texts)).warnings = [] ∧
      let machine : Machine Transcript := { console := { input } }
      let ended := machine.runStream settings (Stream.encode tokens)
      ended.1 = .ok () ∧ ended.2.store = {} ∧ ended.2.log = [] ∧ ended.2.console.input = input ∧
      ended.2.console.output = String.join (texts.map fun text => Text.interpolate (fun _ => none) text ++ "\n") ∧
      ((∀ text ∈ texts, '\x7b' ∉ text.toList) → ended.2.console.output = String.join (texts.map (· ++ "\n"))) := by
  obtain ⟨pieces, spells⟩ := Source.exists_spells_program blank texts
  obtain ⟨tokens, lexed, said, unwarned⟩ := spells.tokenize
  refine ⟨tokens, lexed, unwarned, ?_⟩
  intro machine ended
  have streamed : (Stream.numbered tokens).map Token.form = _ := (Stream.form_numbered tokens).trans said
  have ran : ended = (.ok (), texts.foldl printed { machine with imports := [outputName] }) := by
    rw [show ended = machine.run settings (Stream.items (Stream.encode tokens)) from rfl, Stream.items_encode, run,
      drive_program untraced machine rfl texts streamed]
    rfl
  rw [foldl_printed] at ran
  -- Nothing is declared, so a lookup in the store finds nothing.
  have lines : ended.2.console.output =
      String.join (texts.map fun text => Text.interpolate (fun _ => none) text ++ "\n") := by
    rw [ran]
    exact String.empty_append
  refine ⟨?_, ?_, ?_, ?_, lines, fun unopened => lines.trans (congrArg String.join ?_)⟩
  · rw [ran]
  · rw [ran]
  · rw [ran]
  · rw [ran]
  · refine List.map_congr_left fun text member => ?_
    rw [Text.interpolate_eq_self _ (unopened text member)]

/-- A quotation mark, a backslash and a newline come out as they went in. -/
theorem printed_texts_survive_quoted :
    ∃ tokens, (Source.tokenize (Source.printProgram "\n" ["\"say\"", "c:\\n\n"])).result = .ok tokens ∧
      (({ console := {} } : Machine Transcript).runStream { strict := true } (Stream.encode tokens)).2.console.output =
        "\"say\"\nc:\\n\n\n" := by
  have blank : ∀ c ∈ "\n".toList, Text.isBlank c = true := by
    intro c member
    obtain rfl : c = '\n' := by simpa using member
    decide
  have untraced : ({ strict := true } : Settings).trace = false := rfl
  have unopened : ∀ text ∈ ["\"say\"", "c:\\n\n"], '\x7b' ∉ text.toList := by decide
  obtain ⟨tokens, lexed, _, _, _, _, _, _, printed⟩ :=
    printed_texts_survive blank ["\"say\"", "c:\\n\n"] untraced []
  exact ⟨tokens, lexed, printed unopened⟩

end Run.Machine

end StreamScript
