import Std.Time
import StreamScript.Command.Plan

/-! The program on a real system: the effects of a plan on files and standard streams. -/

namespace StreamScript.Command

def failureOf : IO.Error → Failure
  | .noFileOrDirectory .. => .missing
  | .inappropriateType _ 20 _ => .notFolder
  | .inappropriateType .. => .isFolder
  | .invalidArgument _ 36 _ => .nameTooLong
  | .resourceExhausted _ 28 _ => .noSpace
  | error => .other (toString error)

def readFile (path : String) : IO (Except Failure String) := do
  try
    let handle ← IO.FS.Handle.mk path .read
    return decodeText (← handle.readBinToEnd)
  catch error => return .error (failureOf error)

def fillFile (handle : IO.FS.Handle) (text : String) : IO (Except (FileAction × Failure) Unit) := do
  try
    handle.putStr text
    handle.flush
    return .ok ()
  catch error => return .error (.write, failureOf error)

/-- A file is created and then written. -/
def writeFile (path text : String) : IO (Except (FileAction × Failure) Unit) := do
  try fillFile (← IO.FS.Handle.mk path .write) text
  catch error => return .error (.create, failureOf error)

def printNotice (colored : Bool) (notice : Notice) : IO Unit := do
  let now ← Std.Time.Timestamp.now
  let clock := Clock.ofSeconds now.toSecondsSinceUnixEpoch.val.toNat
  IO.eprintln (notice.text clock.text colored)

/-- The bytes of one line, its end included. -/
def readLineBytes (input : IO.FS.Stream) : IO (List UInt8) := do
  let mut bytes : Array UInt8 := #[]
  let mut reading := true
  while reading do
    let chunk ← input.read 1
    match chunk.data[0]? with
    | none => reading := false
    | some byte =>
      bytes := bytes.push byte
      reading := byte != Run.Terminal.newline
  return bytes.toList

/-- Shows what a step has written and reported, and forgets it. -/
def flushMachine (colored : Bool) (machine : Run.Machine Run.Terminal) (shown : Nat) :
    IO (Run.Machine Run.Terminal) := do
  let output ← IO.getStdout
  output.putStr (String.ofList (machine.console.output.toList.drop shown))
  output.flush
  for diagnostic in machine.log do
    printNotice colored (.diagnostic diagnostic)
  return { machine with log := [], console.output := "" }

/-- Takes in one token. A step that lacks a line of input is taken again with that line, behind its prompt. -/
def stepTerminal (colored : Bool) (settings : Run.Settings) (machine : Run.Machine Run.Terminal) (token : Token) :
    IO (Except Run.Error Run.Progress × Run.Machine Run.Terminal) := do
  let (result, stepped) := machine.step settings token
  match result with
  | .error ⟨.inputExhausted, _⟩ =>
    let output ← IO.getStdout
    output.putStr stepped.console.output
    output.flush
    let line ← readLineBytes (← IO.getStdin)
    let (result, again) := { machine with console.input := line }.step settings token
    return (result, ← flushMachine colored again stepped.console.output.length)
  | result => return (result, ← flushMachine colored stepped 0)

def driveTerminal (colored : Bool) (settings : Run.Settings) (machine : Run.Machine Run.Terminal) :
    List Stream.Item → IO (Except Run.Error Unit)
  | [] => return .ok ()
  | .error error :: _ => return .error (.ofStream error)
  | .ok token :: rest => do
    match ← stepTerminal colored settings machine token with
    | (.error error, _) => return .error error
    | (.ok .finished, _) => return .ok ()
    | (.ok .running, machine) => driveTerminal colored settings machine rest

def runTerminal (colored : Bool) (settings : Run.Settings) (stream : String) : IO (Except Run.Error Unit) := do
  let machine : Run.Machine Run.Terminal := { console := {} }
  let result ← driveTerminal colored settings machine (Stream.items stream)
  if let .error error := result then
    printNotice colored (.diagnostic ⟨.fatal, error.fault.message, error.position⟩)
  return result

def Plan.carryOut (colored : Bool) : Plan → IO UInt32
  | stop code => return code.toUInt32
  | say text next => do
    IO.print text
    next.carryOut colored
  | notify notice next => do
    printNotice colored notice
    next.carryOut colored
  | read path next => do (next (← readFile path)).carryOut colored
  | write path text next => do (next (← writeFile path text)).carryOut colored
  | run settings stream next => do (next (← runTerminal colored settings stream)).carryOut colored

end StreamScript.Command

open StreamScript.Command in
def main (arguments : List String) : IO UInt32 := do
  let request := Request.ofArguments arguments
  (Plan.ofRequest request).carryOut request.colored
