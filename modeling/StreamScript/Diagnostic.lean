import StreamScript.Position

/-! Messages about a program, apart from what the program itself writes. A message with a level is stamped with
the time of day and names its place when it has one. -/

namespace StreamScript

inductive Level where
  | debug
  | info
  | warning
  | fatal
deriving Repr, DecidableEq

namespace Level

def name : Level → String
  | debug => "debug"
  | info => "info"
  | warning => "warning"
  | fatal => "fatal"

/-- Terminal codes around the tag of a level. -/
def paint : Level → String → String
  | debug, tag => "\x1b[36m" ++ tag ++ "\x1b[39m"
  | info, tag => "\x1b[32m" ++ tag ++ "\x1b[39m"
  | warning, tag => "\x1b[33m" ++ tag ++ "\x1b[39m"
  | fatal, tag => "\x1b[1m\x1b[31m" ++ tag ++ "\x1b[39m\x1b[0m"

def tag (colored : Bool) (level : Level) : String :=
  let plain := "[" ++ level.name ++ "]"
  if colored then level.paint plain else plain

end Level

/-- Time of day, in universal time. -/
structure Clock where
  hours : Nat
  minutes : Nat
  seconds : Nat
deriving Repr, DecidableEq

namespace Clock

def ofSeconds (sinceEpoch : Nat) : Clock :=
  let ofDay := sinceEpoch % 86400
  ⟨ofDay / 3600, ofDay % 3600 / 60, ofDay % 60⟩

def twoDigits (n : Nat) : String := if n < 10 then "0" ++ toString n else toString n

def text (clock : Clock) : String :=
  twoDigits clock.hours ++ ":" ++ twoDigits clock.minutes ++ ":" ++ twoDigits clock.seconds

end Clock

structure Diagnostic where
  level : Level
  message : String
  position : Option Position
deriving Repr, DecidableEq

namespace Diagnostic

def atLevel (level : Level) (diagnostics : List Diagnostic) : List Diagnostic :=
  diagnostics.filter (·.level = level)

/-- A place on line zero is no place. -/
def line (stamp tag message : String) (position : Option Position) : String :=
  let place :=
    match position with
    | some position => if 0 < position.line then " at " ++ position.text else ""
    | none => ""
  "[" ++ stamp ++ "]" ++ tag ++ " (" ++ message ++ place ++ ")"

def text (stamp : String) (colored : Bool) (diagnostic : Diagnostic) : String :=
  line stamp (diagnostic.level.tag colored) diagnostic.message diagnostic.position

end Diagnostic

end StreamScript
