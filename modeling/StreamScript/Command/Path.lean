/-! File names in paths. Slashes part the segments of a path; a slash or a dot segment at the end does not count, and
neither a dot nor two dots name a file. -/

namespace StreamScript.Command

namespace Path

/-- A reversed path without slashes and dot segments at its end. -/
def dropTail : List Char → List Char
  | '/' :: rest => dropTail rest
  | '.' :: '/' :: rest => dropTail rest
  | path => path

/-- The path up to and with the last slash before its file name, and the file name if it has one. -/
def split (path : String) : List Char × Option (List Char) :=
  let reversed := dropTail path.toList.reverse
  let name := (reversed.takeWhile (· ≠ '/')).reverse
  let folder := (reversed.dropWhile (· ≠ '/')).reverse
  (folder, if name = [] ∨ name = ['.'] ∨ name = ['.', '.'] then none else some name)

/-- A file name before and after its last dot. A dot in front is part of the name. -/
def splitName (name : List Char) : List Char × Option (List Char) :=
  let reversed := name.reverse
  match reversed.dropWhile (· ≠ '.') with
  | '.' :: stem => if stem = [] then (name, none) else (stem.reverse, some (reversed.takeWhile (· ≠ '.')).reverse)
  | _ => (name, none)

def extension? (path : String) : Option String :=
  (split path).2.bind fun name => (splitName name).2.map String.ofList

/-- The path with the extension of its file name set; one without a file name stays. -/
def setExtension (path extension : String) : String :=
  match split path with
  | (_, none) => path
  | (folder, some name) => String.ofList (folder ++ (splitName name).1 ++ '.' :: extension.toList)

def dropEnd (path : String) (count : Nat) : String := String.ofList (path.toList.take (path.length - count))

/-- The path with another extension in place of its own, which is cut off first, all but its dot. Two dots that are
left over name no file, and stay. -/
def withExtension (path extension : String) : String :=
  match extension? path with
  | some old => setExtension (dropEnd path old.length) extension
  | none => setExtension path extension

/-- The segments in order, dots included. -/
def segments (path : String) : List String := ((path.toList.splitOn '/').filter (· ≠ [])).map String.ofList

def isAbsolute (path : String) : Bool := path.toList.head? = some '/'

def endsInSlash (path : String) : Bool := path.toList.getLast? = some '/'

end Path

end StreamScript.Command
