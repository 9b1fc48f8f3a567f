import StreamScript.Diagnostic
import StreamScript.Run.Console
import StreamScript.Run.Statement
import StreamScript.Text.Placeholder

/-! Running a token stream. Tokens wait until a semicolon completes a statement, which is then executed; a library
is imported as soon as its name is read. The first fault ends a run, and what was written before it stays. -/

namespace StreamScript.Run

structure Settings where
  /-- Stop at a statement of unknown form, instead of passing it over. -/
  strict : Bool := false
  /-- Report every import and every statement. -/
  trace : Bool := false
deriving Repr, DecidableEq

structure Machine (κ : Type) where
  store : Store := {}
  imports : List String := []
  /-- The tokens of the statement that is not complete yet. -/
  pending : List Token := []
  console : κ
  log : List Diagnostic := []

inductive Progress where
  | running
  | finished
deriving Repr, DecidableEq

def checkType (name : Token) (type : ValueType) (value : Value) : Except Error Unit :=
  if type.accepts value then .ok () else .error (.ofToken name (.typeMismatch name.literal type value.sort))

def declaredType (store : Store) (name : Token) : Except Error ValueType :=
  match store.get? name.literal with
  | some found => .ok found.type
  | none => .error (.ofToken name (.undeclared name.literal))

def requireOutput (imports : List String) (library : Token) : Except Error Unit :=
  if imports.contains outputName then .ok () else .error (.ofToken library (.notImported outputName))

/-- The store with a value of the right type in a declared variable. -/
def put (vars : Store) (name : Token) (type : ValueType) (value : Value) : Except Error Store := do
  checkType name type value
  match vars.assign? name.literal value with
  | some vars => return vars
  | none => throw (.ofToken name (.undeclared name.literal))

def namedType (type : Token) : Except Error ValueType :=
  match ValueType.ofName? type.literal with
  | some named => .ok named
  | none => .error (.ofToken type (.unknownType type.literal))

/-- The store after a declaration. The value is computed before the type is looked up. -/
def declare (vars : Store) (imports : List String) (type name separator : Token) (value : List Token) :
    Except Error Store :=
  if !(type.is .identifier && name.is .identifier) then .error (.ofToken name .malformedDeclaration)
  else if vars.contains name.literal then .error (.ofToken name (.alreadyDeclared name.literal))
  else if !separator.is .equal then .error (.ofToken separator (.missingEqual name.literal))
  else do
    let value ← evaluate vars imports value
    let named ← namedType type
    checkType name named value
    return (vars.declare? name.literal named value).getD vars

def assign (vars : Store) (imports : List String) (name : Token) (value : List Token) : Except Error Store := do
  let type ← declaredType vars name
  let value ← evaluate vars imports value
  put vars name type value

/-- The value of a line of input, by the name of the type asked for. -/
def inputValue (inputType : Token) (line : String) : Except Error Value :=
  match Text.asciiUpper inputType.literal with
  | "INT" =>
    match Number.readInt32 line with
    | some n => .ok (.integer n)
    | none => .error (.ofToken inputType (.invalidIntegerInput line))
  | "STRING" => .ok (.text line)
  | _ => .error (.ofToken inputType (.unsupportedInputType inputType.literal))

def enter (vars : Store) (name inputType : Token) (type : ValueType) (line : String) : Except Error Store := do
  let value ← inputValue inputType line
  put vars name type value

/-- The type of the variable that input goes to, if it may be asked for. -/
def promptedType (vars : Store) (imports : List String) (name library : Token) : Except Error ValueType := do
  let type ← declaredType vars name
  requireOutput imports library
  return type

/-- The text to write for a call of the library, before its placeholders are filled. -/
def argumentText (vars : Store) (imports : List String) (argument : Token) : Except Error String :=
  if argument.is .text then .ok argument.literal
  else if argument.is .identifier && argument.literal != outputName then
    match vars.display? argument.literal with
    | some text => .ok text
    | none => .error (.ofToken argument (.undefinedReference argument.literal))
  else (evaluate vars imports [argument]).map Value.display

def callText (vars : Store) (imports : List String) (library argument : Token) : Except Error String := do
  requireOutput imports library
  argumentText vars imports argument

/-- A variable of that name if there is one, whatever the kind of the token. -/
def printText (vars : Store) (value : Token) : String := (vars.display? value.literal).getD value.literal

namespace Machine

variable {κ : Type}

def report (machine : Machine κ) (diagnostic : Diagnostic) : Machine κ :=
  { machine with log := machine.log ++ [diagnostic] }

def trace (settings : Settings) (machine : Machine κ) (message : String) (position : Option Position) : Machine κ :=
  if settings.trace then machine.report ⟨.debug, message, position⟩ else machine

/-- Takes over the new store, or leaves the machine as it is. -/
def update (machine : Machine κ) : Except Error Store → Except Error Unit × Machine κ
  | .ok store => (.ok (), { machine with store })
  | .error error => (.error error, machine)

/-- Takes over the console after a call, whose failure is a fault of the token. -/
def settle {α : Type} (machine : Machine κ) (token : Token) : Except String α × κ → Except Error α × Machine κ
  | (.ok answer, console) => (.ok answer, { machine with console })
  | (.error message, console) => (.error (.ofToken token (.console message)), { machine with console })

def fill (machine : Machine κ) (text : String) : String := Text.interpolate machine.store.display? text

variable [Console κ]

def writeText (machine : Machine κ) (token : Token) (method : Method) (text : String) :
    Except Error Unit × Machine κ :=
  match method with
  | .print => machine.settle token (Console.write (machine.fill text) machine.console)
  | .println => machine.settle token (Console.writeLine (machine.fill text) machine.console)

/-- Asks for a line; that there is none is a fault of the prompt. -/
def ask (machine : Machine κ) (prompt : Token) : Except Error String × Machine κ :=
  match machine.settle prompt (Console.write (prompt.literal ++ " ") machine.console) with
  | (.error error, machine) => (.error error, machine)
  | (.ok (), machine) =>
    match machine.settle prompt (Console.readLine machine.console) with
    | (.error error, machine) => (.error error, machine)
    | (.ok none, machine) => (.error (.ofToken prompt .inputExhausted), machine)
    | (.ok (some line), machine) => (.ok line, machine)

def execute (settings : Settings) (machine : Machine κ) : Statement → Except Error Unit × Machine κ
  | .declaration type name separator value =>
    machine.update (declare machine.store machine.imports type name separator value)
  | .prompted name library prompt inputType =>
    match promptedType machine.store machine.imports name library with
    | .error error => (.error error, machine)
    | .ok type =>
      match machine.ask prompt with
      | (.error error, machine) => (.error error, machine)
      | (.ok line, machine) => machine.update (enter machine.store name inputType type line)
  | .assignment name value => machine.update (assign machine.store machine.imports name value)
  | .call library method argument =>
    match callText machine.store machine.imports library argument with
    | .error error => (.error error, machine)
    | .ok text => machine.writeText library method text
  | .print value => machine.writeText value .println (printText machine.store value)
  | .unrecognized first =>
    if settings.strict then (.error (.ofToken first (.unknownStatement first.kind)), machine) else (.ok (), machine)

/-- Executes the statement that the tokens make up; no tokens make up none. -/
def dispatch (settings : Settings) (machine : Machine κ) (tokens : List Token) : Except Error Unit × Machine κ :=
  match Statement.classify tokens with
  | none => (.ok (), machine)
  | some statement =>
    let traced := machine.trace settings ("Executing " ++ statement.name) (tokens.head?.map (·.position))
    traced.execute settings statement

def step (settings : Settings) (machine : Machine κ) (token : Token) : Except Error Progress × Machine κ :=
  match token.kind with
  | .endOfFile => (.ok .finished, { machine with pending := [] })
  | .usingWord =>
    let traced := machine.trace settings ("Importing library " ++ token.literal) (some token.position)
    (.ok .running, { traced with imports := traced.imports.insert token.literal })
  | .semicolon =>
    match { machine with pending := [] }.dispatch settings machine.pending with
    | (.ok (), machine) => (.ok .running, machine)
    | (.error error, machine) => (.error error, machine)
  | _ => (.ok .running, { machine with pending := machine.pending ++ [token] })

/-- Takes in what a stream yields, up to its end, a fault or a token that ends the program. -/
def drive (settings : Settings) (machine : Machine κ) : List Stream.Item → Except Error Unit × Machine κ
  | [] => (.ok (), machine)
  | .error error :: _ => (.error (.ofStream error), machine)
  | .ok token :: rest =>
    match machine.step settings token with
    | (.error error, machine) => (.error error, machine)
    | (.ok .finished, machine) => (.ok (), machine)
    | (.ok .running, machine) => machine.drive settings rest

/-- Drives the machine, and reports the fault that ended it. -/
def run (settings : Settings) (machine : Machine κ) (items : List Stream.Item) : Except Error Unit × Machine κ :=
  match machine.drive settings items with
  | (.ok (), machine) => (.ok (), machine)
  | (.error error, machine) => (.error error, machine.report ⟨.fatal, error.fault.message, error.position⟩)

def runStream (settings : Settings) (machine : Machine κ) (stream : String) : Except Error Unit × Machine κ :=
  machine.run settings (Stream.items stream)

def runTokens (settings : Settings) (machine : Machine κ) (tokens : List Token) : Except Error Unit × Machine κ :=
  machine.run settings (tokens.map .ok)

end Machine

end StreamScript.Run
