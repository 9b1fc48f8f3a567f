import StreamScript.Run.Machine
import StreamScript.Source.Listing

/-! What is asked for on the command line. Arguments are read from left to right and the first mistake counts, but a
value is looked at only when the argument after it has been recognised. -/

namespace StreamScript.Command

inductive Misuse where
  | unexpectedArgument
  | unknownCommand
  | missingArgument
  | invalidValue
  | unexpectedValue
  | repeatedArgument
deriving Repr, DecidableEq

def Misuse.message : Misuse → String
  | unexpectedArgument => "unexpected argument found"
  | unknownCommand => "unrecognized subcommand"
  | missingArgument => "one or more required arguments were not provided"
  | invalidValue => "one of the values isn't valid for an argument"
  | unexpectedValue => "unexpected value for an argument found"
  | repeatedArgument => "an argument cannot be used with one or more of the other specified arguments"

inductive Task where
  | compile (path : String) (output : Option String) (check : Bool)
  | run (path : String) (settings : Run.Settings)
  | tokenize (path : String) (format : Source.Format)
  | check (path : String)
deriving Repr, DecidableEq

inductive Request where
  | usage
  | version
  | misuse (misuse : Misuse)
  | task (colored : Bool) (task : Task)
deriving Repr, DecidableEq

inductive Argument where
  | separator
  | long (name : String) (value : Option String)
  | short (letters : List Char)
  | plain
deriving Repr, DecidableEq

/-- The text before the first equals sign, and the text after it. -/
def splitEqual (text : List Char) : String × Option String :=
  (String.ofList (text.takeWhile (· ≠ '=')),
    match text.dropWhile (· ≠ '=') with
    | [] => none
    | _ :: value => some (String.ofList value))

/-- A lone dash is an ordinary word. -/
def Argument.ofText (text : String) : Argument :=
  match text.toList with
  | ['-', '-'] => separator
  | '-' :: '-' :: rest => long (splitEqual rest).1 (splitEqual rest).2
  | '-' :: c :: rest => short (c :: rest)
  | _ => plain

inductive Verb where
  | compile
  | run
  | tokenize
  | check
deriving Repr, DecidableEq

namespace Verb

def ofName? : String → Option Verb
  | "compile" => some compile
  | "run" => some run
  | "tokenize" => some tokenize
  | "check" => some check
  | _ => none

def ofLetter? : Char → Option Verb
  | 'c' => some compile
  | 'r' => some run
  | _ => none

/-- The options without a value that a command takes, beside those for help. -/
def flags : Verb → List String
  | compile => ["no-color", "check"]
  | run => ["no-color", "strict", "trace"]
  | tokenize => ["no-color"]
  | check => ["no-color"]

end Verb

/-- Something on the command line that has a value. -/
inductive Slot where
  | path
  | output
  | format
deriving Repr, DecidableEq

def Verb.slot? : Verb → String → Option Slot
  | compile, "output" => some .output
  | tokenize, "format" => some .format
  | _, _ => none

def Verb.slotOfLetter? : Verb → Char → Option Slot
  | compile, 'o' => some .output
  | _, _ => none

/-- A format has a name and a path is not empty. -/
def Slot.admits : Slot → String → Bool
  | format, value => (Source.Format.ofName? value).isSome
  | _, value => value != ""

inductive Stop where
  | usage
  | misuse (misuse : Misuse)
deriving Repr, DecidableEq

/-- The arguments of a command so far. The latest slot waits for its value, or for the value to be looked at. -/
structure Given where
  flags : List String := []
  values : List (Slot × String) := []
  waiting : Option (Slot × Option String) := none
  placed : Bool := false

namespace Given

def fill (given : Given) (slot : Slot) (value : String) : Except Stop Given :=
  if given.values.any (·.1 = slot) then .error (.misuse .repeatedArgument)
  else if !slot.admits value then .error (.misuse .invalidValue)
  else .ok { given with values := given.values ++ [(slot, value)] }

/-- Looks at the value of the slot that waits. -/
def resolve (given : Given) : Except Stop Given :=
  match given.waiting with
  | none => .ok given
  | some (_, none) => .error (.misuse .invalidValue)
  | some (slot, some value) => { given with waiting := none }.fill slot value

def addFlag (given : Given) (name : String) : Except Stop Given := do
  let given ← given.resolve
  if name = "help" then throw .usage
  if given.flags.contains name then throw (.misuse .repeatedArgument)
  return { given with flags := given.flags ++ [name] }

/-- Starts a slot, or fills it if its value is attached. -/
def addSlot (given : Given) (slot : Slot) : Option String → Except Stop Given
  | none => do return { (← given.resolve) with waiting := some (slot, none) }
  | some value => do (← given.resolve).fill slot value

/-- A word is the value that is waited for, or the path. -/
def addWord (given : Given) (trailing : Bool) (word : String) : Except Stop Given := do
  match given.waiting, trailing with
  | some (slot, none), false => return { given with waiting := some (slot, some word) }
  | _, _ =>
    if given.placed then throw (.misuse .unexpectedArgument)
    return { (← given.resolve) with waiting := some (.path, some word), placed := true }

def addLong (given : Given) (verb : Verb) (name : String) (value : Option String) : Except Stop Given :=
  if name = "help" ∨ verb.flags.contains name then
    if value.isSome then .error (.misuse .unexpectedValue) else given.addFlag name
  else
    match verb.slot? name with
    | some slot => given.addSlot slot value
    | none => .error (.misuse .unexpectedArgument)

/-- Letters after a dash. The rest of them is the value of a letter that takes one, with or without an equals sign. -/
def addLetters (given : Given) (verb : Verb) : List Char → Except Stop Given
  | [] => .ok given
  | letter :: rest =>
    if letter = 'h' then given.addFlag "help"
    else
      match verb.slotOfLetter? letter with
      | none => .error (.misuse .unexpectedArgument)
      | some slot =>
        match rest with
        | [] => given.addSlot slot none
        | '=' :: value => given.addSlot slot (some (String.ofList value))
        | value => given.addSlot slot (some (String.ofList value))

/-- Behind a separator every argument is a word. -/
def addAll (given : Given) (verb : Verb) (trailing : Bool) : List String → Except Stop Given
  | [] => given.resolve
  | argument :: rest => do
    if trailing then (← given.addWord true argument).addAll verb true rest
    else
      match Argument.ofText argument with
      | .separator => given.addAll verb true rest
      | .long name value => (← given.addLong verb name value).addAll verb false rest
      | .short letters => (← given.addLetters verb letters).addAll verb false rest
      | .plain => (← given.addWord false argument).addAll verb false rest

def value? (given : Given) (slot : Slot) : Option String := given.values.lookup slot

def has (given : Given) (name : String) : Bool := given.flags.contains name

def task? (given : Given) (verb : Verb) : Option Task :=
  (given.value? .path).map fun path =>
    match verb with
    | .compile => .compile path (given.value? .output) (given.has "check")
    | .run => .run path { strict := given.has "strict", trace := given.has "trace" }
    | .tokenize => .tokenize path (((given.value? .format).bind Source.Format.ofName?).getD .basic)
    | .check => .check path

end Given

namespace Request

def ofStop : Stop → Request
  | .usage => usage
  | .misuse found => misuse found

/-- The request of a command; letters that stood behind its own come before its arguments. -/
def ofVerb (colored : Bool) (verb : Verb) (letters : List Char) (arguments : List String) : Request :=
  match ({} : Given).addLetters verb letters with
  | .error stop => ofStop stop
  | .ok given =>
    match given.addAll verb false arguments with
    | .error stop => ofStop stop
    | .ok given =>
      match given.task? verb with
      | some asked => task (colored && !given.has "no-color") asked
      | none => misuse .missingArgument

/-- The command that help is asked for must exist, and has none of its own. -/
def ofHelp : List String → Request
  | [] => usage
  | [name] => if name = "help" ∨ (Verb.ofName? name).isSome then usage else misuse .unknownCommand
  | _ => misuse .unknownCommand

def isCommandName (name : String) : Bool := name = "help" || (Verb.ofName? name).isSome

/-- No command can follow a separator. -/
def afterSeparator : List String → Request
  | [] => usage
  | name :: _ => if isCommandName name then misuse .unexpectedArgument else misuse .unknownCommand

def ofArgumentsFrom (colored : Bool) : List String → Request
  | [] => usage
  | argument :: rest =>
    match Argument.ofText argument with
    | .separator => afterSeparator rest
    | .long name value =>
      if name = "no-color" ∨ name = "help" ∨ name = "version" then
        if value.isSome then misuse .unexpectedValue
        else if name = "help" then usage
        else if name = "version" then version
        else if colored then ofArgumentsFrom false rest
        else misuse .repeatedArgument
      else misuse .unexpectedArgument
    | .short [] => misuse .unexpectedArgument
    | .short (letter :: letters) =>
      if letter = 'h' then usage
      else if letter = 'V' then version
      else
        match Verb.ofLetter? letter with
        | some verb => ofVerb colored verb letters rest
        | none => misuse .unexpectedArgument
    | .plain =>
      if argument = "help" then ofHelp rest
      else
        match Verb.ofName? argument with
        | some verb => ofVerb colored verb [] rest
        | none => misuse .unknownCommand

def ofArguments (arguments : List String) : Request := ofArgumentsFrom true arguments

end Request

end StreamScript.Command
