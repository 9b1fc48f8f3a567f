import StreamScript.Command.Folder
import StreamScript.Command.Request
import StreamScript.Scope
import StreamScript.Text.Basic

/-! What a command does, step by step. A plan names its effects on files, on the two output channels and on a running
program, and goes on with their answers; here the effects are those on a folder with all input at hand. -/

namespace StreamScript.Command

/-- A message on the second channel: stamped with the time, or a line as it is. -/
inductive Notice where
  | diagnostic (diagnostic : Diagnostic)
  | line (text : String)
deriving Repr, DecidableEq

def Notice.text (stamp : String) (colored : Bool) : Notice → String
  | diagnostic message => message.text stamp colored
  | line text => text

inductive FileAction where
  | read
  | create
  | write
deriving Repr, DecidableEq

def FileAction.name : FileAction → String
  | read => "read"
  | create => "create"
  | write => "write"

/-- Steps of a command. A file is created before it is written, and each of the two may fail. -/
inductive Plan where
  | stop (code : Nat)
  | say (text : String) (next : Plan)
  | notify (notice : Notice) (next : Plan)
  | read (path : String) (next : Except Failure String → Plan)
  | write (path text : String) (next : Except (FileAction × Failure) Unit → Plan)
  | run (settings : Run.Settings) (stream : String) (next : Except Run.Error Unit → Plan)

namespace Plan

def success : Plan := stop 0

/-- The input has a fault. -/
def dataFailure : Plan := stop 65

/-- The program failed while it ran. -/
def runFailure : Plan := stop 70

def notifyAll (notices : List Notice) (next : Plan) : Plan := notices.foldr notify next

def reportAll (diagnostics : List Diagnostic) (next : Plan) : Plan :=
  notifyAll (diagnostics.map .diagnostic) next

def report (level : Level) (message : String) (next : Plan) : Plan :=
  notify (.diagnostic ⟨level, message, none⟩) next

def sayLines (lines : List String) (next : Plan) : Plan := say (String.join (lines.map (· ++ "\n"))) next

/-- A file that could not be used ends the command. -/
def fileFailure (action : FileAction) (path : String) (failure : Failure) : Plan :=
  notifyAll
    [.line "Error:", .line ("   0: Failed to " ++ action.name ++ " " ++ path), .line ("   1: " ++ failure.message)]
    (stop 1)

def readSource (path : String) (next : String → Plan) : Plan :=
  read path fun
    | .ok source => next source
    | .error failure => fileFailure .read path failure

/-- A file of another kind is used all the same. -/
def warnOnExtension (path expected : String) (next : Plan) : Plan :=
  if Path.extension? path = some expected then next
  else report .warning ("Expected a ." ++ expected ++ " file, got " ++ path) next

def sourceExtension : String := "cy"

def streamExtension : String := "cyc"

/-- The tokens of a source; a fault in it ends the command. -/
def lexing (source : String) (next : List Token → Plan) : Plan :=
  let lexing := Source.tokenize source
  reportAll lexing.warnings <|
    match lexing.result with
    | .ok tokens => next tokens
    | .error error => reportAll [⟨.fatal, error.fault.message, some error.position⟩] dataFailure

def checking (tokens : List Token) (next : Plan) : Plan :=
  let result := Scope.check tokens
  reportAll [Scope.diagnostic result] <|
    match result with
    | .ok () => next
    | .error _ => dataFailure

def writeStream (output : String) (tokens : List Token) : Plan :=
  write output (Stream.encode tokens) fun
    | .error (action, failure) => fileFailure action output failure
    | .ok () =>
      report .info ("Wrote token stream file: " ++ output) <| report .info "Compilation complete." success

def compile (path output : String) (check : Bool) : Plan :=
  warnOnExtension path sourceExtension <| readSource path fun source => lexing source fun tokens =>
    if check then checking tokens (writeStream output tokens) else writeStream output tokens

def runFile (path : String) (settings : Run.Settings) : Plan :=
  warnOnExtension path streamExtension <| readSource path fun stream => run settings stream fun
    | .ok () => success
    | .error ⟨.stream _, _⟩ => dataFailure
    | .error _ => runFailure

def tokenize (path : String) (format : Source.Format) : Plan :=
  readSource path fun source =>
    let listing := Source.list format source
    sayLines listing.lines <| reportAll listing.warnings <|
      match listing.failure with
      | none => success
      | some error =>
        let lines := Source.errorLines source path format error ++ ["CapyCode: tokenizing " ++ path ++ " failed"]
        notifyAll (lines.map .line) dataFailure

def check (path : String) : Plan :=
  readSource path fun source => lexing source fun tokens => checking tokens success

def ofTask : Task → Plan
  | .compile path output checked =>
    compile path (output.getD (Path.withExtension path streamExtension)) checked
  | .run path settings => runFile path settings
  | .tokenize path format => tokenize path format
  | .check path => check path

def usageLines : List String :=
  ["Compiler and interpreter for CapyCode",
   "",
   "Usage: capycode [OPTIONS] [COMMAND]",
   "",
   "Commands:",
   "  compile, -c  Compile a source file into a token stream file",
   "  run, -r      Execute a token stream file",
   "  tokenize     Print the tokens of a source file",
   "  check        Lex a source file and run the semantic checker",
   "  help         Print this message or the help of the given subcommand(s)",
   "",
   "Options:",
   "      --no-color  Print diagnostics without colour",
   "  -h, --help      Print help",
   "  -V, --version   Print version"]

/-- A request that cannot be met is answered with the usage, and is no failure. -/
def ofRequest : Request → Plan
  | .usage => sayLines usageLines success
  | .version => sayLines ["capycode 1.0.0"] success
  | .misuse misuse => notify (.line ("CapyCode: " ++ misuse.message)) <| sayLines usageLines success
  | .task _ task => ofTask task

end Plan

structure Outcome where
  output : String
  notices : List Notice
  code : Nat
  folder : Folder

namespace Outcome

def afterOutput (outcome : Outcome) (text : String) : Outcome := { outcome with output := text ++ outcome.output }

def afterNotices (outcome : Outcome) (notices : List Notice) : Outcome :=
  { outcome with notices := notices ++ outcome.notices }

end Outcome

/-- The lines of a text that ends in a newline. -/
def Notice.ofText (text : String) : List Notice :=
  (Text.lines text.toList).dropLast.map fun characters => .line (String.ofList characters)

namespace Plan

/-- Carries a plan out on a folder, with this input for a program that runs. -/
def perform (folder : Folder) (input : List UInt8) : Plan → Outcome
  | stop code => ⟨"", [], code, folder⟩
  | say text next => (next.perform folder input).afterOutput text
  | notify notice next => (next.perform folder input).afterNotices [notice]
  | read path next =>
    match folder.readable path with
    | .error failure => (next (.error failure)).perform folder input
    | .ok (.file content) => (next (decodeText content)).perform folder input
    | .ok (.device .input) => (next (decodeText ⟨input.toArray⟩)).perform folder []
    | .ok (.device _) => (next (.ok "")).perform folder input
  | write path text next =>
    match folder.writable path with
    | .error failure => (next (.error (.create, failure))).perform folder input
    | .ok (.file location) => (next (.ok ())).perform (folder.set location text.toUTF8) input
    | .ok (.device .full) => (next (.error (.write, .noSpace))).perform folder input
    | .ok (.device .output) => ((next (.ok ())).perform folder input).afterOutput text
    | .ok (.device .notices) => ((next (.ok ())).perform folder input).afterNotices (Notice.ofText text)
    | .ok (.device _) => (next (.ok ())).perform folder input
  | run settings stream next =>
    let machine : Run.Machine Run.Terminal := { console := { input } }
    let (result, stopped) := machine.runStream settings stream
    (((next result).perform folder stopped.console.input).afterNotices (stopped.log.map .diagnostic)).afterOutput
      stopped.console.output

end Plan

def Request.colored : Request → Bool
  | .task colored _ => colored
  | _ => true

end StreamScript.Command
