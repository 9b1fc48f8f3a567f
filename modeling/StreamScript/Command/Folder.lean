import StreamScript.Command.Location

/-! The files that a command finds and leaves: those of its working folder, and what it can reach around it. A path is
walked segment by segment, and each segment but the last must lead to a folder. -/

namespace StreamScript.Command

inductive Failure where
  | missing
  | notFolder
  | isFolder
  | noSpace
  | nameTooLong
  | notText
  | other (cause : String)
deriving Repr, DecidableEq

def Failure.message : Failure → String
  | missing => "No such file or directory (os error 2)"
  | notFolder => "Not a directory (os error 20)"
  | isFolder => "Is a directory (os error 21)"
  | noSpace => "No space left on device (os error 28)"
  | nameTooLong => "File name too long (os error 36)"
  | notText => "stream did not contain valid UTF-8"
  | other cause => cause

def decodeText (bytes : ByteArray) : Except Failure String :=
  match String.fromUTF8? bytes with
  | some text => .ok text
  | none => .error .notText

structure Folder where
  files : List (Location × ByteArray) := []

namespace Folder

/-- A working folder with files at paths in it. -/
def ofFiles (files : List (String × ByteArray)) : Folder :=
  ⟨files.map fun (path, content) => ((Path.segments path).foldl Location.step (.inside []), content)⟩

def file? (folder : Folder) (location : Location) : Option ByteArray := folder.files.lookup location

def hasFolder (folder : Folder) (location : Location) : Bool :=
  location.isStandingFolder || folder.files.any fun (file, _) => file.isBelow location

inductive Place where
  | file (content : ByteArray)
  | device (device : Device)
  | folder
  | absent

def place (folder : Folder) (location : Location) : Place :=
  match folder.file? location, location.device? with
  | some content, _ => .file content
  | none, some device => .device device
  | none, none => if folder.hasFolder location then .folder else .absent

def nameLimit : Nat := 255

def pathLimit : Nat := 4095

def follow (folder : Folder) (base : Location) : List String → Except Failure Location
  | [] => .ok base
  | segment :: rest =>
    match folder.place base with
    | .absent => .error .missing
    | .file _ => .error .notFolder
    | .device _ => .error .notFolder
    | .folder =>
      if nameLimit < segment.utf8ByteSize then .error .nameTooLong else folder.follow (base.step segment) rest

def resolve (folder : Folder) (path : String) : Except Failure Location :=
  if pathLimit < path.utf8ByteSize then .error .nameTooLong
  else folder.follow (if Path.isAbsolute path then .outside [] else .inside []) (Path.segments path)

inductive Readable where
  | file (content : ByteArray)
  | device (device : Device)

/-- What can be read at a path. A slash at its end asks for a folder. -/
def readable (folder : Folder) (path : String) : Except Failure Readable := do
  let target ← folder.resolve path
  match folder.place target with
  | .absent => throw .missing
  | .folder => throw .isFolder
  | .device device => if Path.endsInSlash path then throw .notFolder else return .device device
  | .file content => if Path.endsInSlash path then throw .notFolder else return .file content

inductive Writable where
  | file (location : Location)
  | device (device : Device)

/-- What can be written to at a path; a file is created where there is none. No file is created at a path that ends in
a slash. -/
def writable (folder : Folder) (path : String) : Except Failure Writable := do
  let target ← folder.resolve path
  if Path.endsInSlash path then throw .isFolder
  match folder.place target with
  | .folder => throw .isFolder
  | .device device => return .device device
  | .file _ => return .file target
  | .absent => return .file target

def set (folder : Folder) (location : Location) (content : ByteArray) : Folder :=
  if (folder.file? location).isSome then
    ⟨folder.files.map fun (file, old) => (file, if file = location then content else old)⟩
  else ⟨folder.files ++ [(location, content)]⟩

/-- The files in the working folder that are new or have another content than before, with their paths. -/
def changesSince (folder before : Folder) : List (String × ByteArray) :=
  folder.files.filterMap fun (location, content) =>
    match location with
    | .outside _ => none
    | .inside names =>
      if (before.file? location).map (·.toList) = some content.toList then none
      else some (String.intercalate "/" names, content)

end Folder

end StreamScript.Command
