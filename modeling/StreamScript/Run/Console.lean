/-! What a running program talks to. A call may fail with a message, and answers with the console after it. -/

namespace StreamScript.Run

class Console (κ : Type) where
  /-- Writes without ending the line. -/
  write : String → κ → Except String Unit × κ
  writeLine : String → κ → Except String Unit × κ
  /-- The next line without its end, or nothing once there are none left. -/
  readLine : κ → Except String (Option String) × κ

/-- A console in memory, with the lines to come. -/
structure Transcript where
  output : String := ""
  input : List String := []
deriving Repr, DecidableEq

namespace Transcript

def readLine : Transcript → Except String (Option String) × Transcript
  | ⟨output, []⟩ => (.ok none, ⟨output, []⟩)
  | ⟨output, line :: input⟩ => (.ok (some line), ⟨output, input⟩)

instance : Console Transcript where
  write text transcript := (.ok (), { transcript with output := transcript.output ++ text })
  writeLine text transcript := (.ok (), { transcript with output := transcript.output ++ text ++ "\n" })
  readLine := readLine

end Transcript

/-- A console some of whose calls always fail, with a fixed message and without any effect. -/
structure Faulty (κ : Type) where
  inner : κ
  write : Option String := none
  writeLine : Option String := none
  readLine : Option String := none

namespace Faulty

/-- The call on the inner console, unless it fails. -/
def call {κ α : Type} (faulty : Faulty κ) (failure : Option String) (inner : κ → Except String α × κ) :
    Except String α × Faulty κ :=
  match failure with
  | some message => (.error message, faulty)
  | none =>
    let (answer, console) := inner faulty.inner
    (answer, { faulty with inner := console })

instance {κ : Type} [Console κ] : Console (Faulty κ) where
  write text faulty := faulty.call faulty.write (Console.write text)
  writeLine text faulty := faulty.call faulty.writeLine (Console.writeLine text)
  readLine faulty := faulty.call faulty.readLine Console.readLine

end Faulty

/-- A console whose input is a row of bytes. -/
structure Terminal where
  output : String := ""
  input : List UInt8 := []
deriving Repr, DecidableEq

namespace Terminal

def newline : UInt8 := 10

/-- The text without any line ends at its end. -/
def dropLineEnds (text : List Char) : List Char :=
  (text.reverse.dropWhile fun c => c = '\n' || c = '\r').reverse

/-- The bytes up to the first newline must be a text in UTF-8. -/
def readLine (terminal : Terminal) : Except String (Option String) × Terminal :=
  if terminal.input.isEmpty then (.ok none, terminal)
  else
    let line := terminal.input.takeWhile (· ≠ newline)
    let rest := (terminal.input.dropWhile (· ≠ newline)).drop 1
    let answer :=
      match String.fromUTF8? ⟨line.toArray⟩ with
      | some text => .ok (some (String.ofList (dropLineEnds text.toList)))
      | none => .error "stream did not contain valid UTF-8"
    (answer, { terminal with input := rest })

instance : Console Terminal where
  write text terminal := (.ok (), { terminal with output := terminal.output ++ text })
  writeLine text terminal := (.ok (), { terminal with output := terminal.output ++ text ++ "\n" })
  readLine := readLine

end Terminal

end StreamScript.Run
