import StreamScript.Command.Path

/-! Where paths lead. The working folder stands in a system that has a root, some folders and some devices. -/

namespace StreamScript.Command

/-- Names from the working folder on, or from the root of the system. -/
inductive Location where
  | inside (names : List String)
  | outside (names : List String)
deriving Repr, DecidableEq

/-- Devices that have a place among the files. -/
inductive Device where
  /-- Always empty, and takes everything. -/
  | null
  /-- Has no room for anything. -/
  | full
  /-- The three channels of a command. -/
  | input
  | output
  | notices
deriving Repr, DecidableEq

namespace Location

def child (name : String) : Location → Location
  | inside names => inside (names ++ [name])
  | outside names => outside (names ++ [name])

/-- Above the working folder is the root, which is its own parent. -/
def parent : Location → Location
  | inside [] => outside []
  | inside (name :: names) => inside (name :: names).dropLast
  | outside names => outside names.dropLast

def step (location : Location) (segment : String) : Location :=
  if segment = "." then location
  else if segment = ".." then location.parent
  else location.child segment

/-- Whether the first location lies anywhere below the second. -/
def isBelow : Location → Location → Bool
  | inside names, inside folder => folder.isPrefixOf names && folder != names
  | outside names, outside folder => folder.isPrefixOf names && folder != names
  | _, _ => false

def systemFolders : List String :=
  ["bin", "boot", "dev", "etc", "home", "lib", "media", "mnt", "opt", "proc", "root", "run", "sbin", "srv", "sys",
   "tmp", "usr", "var"]

/-- Folders that are there whether or not they lead to a file. -/
def isStandingFolder : Location → Bool
  | inside names => names.isEmpty
  | outside [] => true
  | outside [name] => systemFolders.contains name
  | outside _ => false

def device? : Location → Option Device
  | outside ["dev", "null"] => some .null
  | outside ["dev", "full"] => some .full
  | outside ["dev", "stdin"] => some .input
  | outside ["dev", "stdout"] => some .output
  | outside ["dev", "stderr"] => some .notices
  | _ => none

end Location

end StreamScript.Command
