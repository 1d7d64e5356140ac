/-
  Dashboard.Files
  ───────────────
  Files and directories, as far as commands see them.

  A path is read into names: empty names and `.` are passed over and `..`
  drops the name before it.  Directories are those that are given and those
  that files lie in.

  Main results:
    get?_put — after a write the file has the octets that were written
-/
import Dashboard.Keyed
import Dashboard.Text.Utf8

namespace Dashboard

open Text

/-! ## §1. Paths. -/

namespace FilePath

/-- The pieces between slashes. -/
def pieces (cs : List Char) : List (List Char) :=
  cs.foldr (fun c acc =>
    match acc with
    | piece :: rest => if c = '/' then [] :: piece :: rest else (c :: piece) :: rest
    | [] => [[c]]) [[]]

/-- Follow one piece from the names so far, innermost first. -/
def follow (names : List (List Char)) (piece : List Char) : List (List Char) :=
  if piece = [] ∨ piece = ['.'] then names
  else if piece = ['.', '.'] then names.drop 1
  else piece :: names

/-- The names that a path consists of. -/
def names (path : String) : List String :=
  (((pieces path.toList).foldl follow []).reverse).map String.ofList

/-- Whether a path starts at the root. -/
def isAbsolute (path : String) : Bool := path.toList.head? == some '/'

/-- Names with slashes between them, after the root's slash. -/
def ofNames (absolute : Bool) (names : List String) : String :=
  (if absolute then "/" else "") ++ String.intercalate "/" names

/-- The one spelling of a path. -/
def normal (path : String) : String := ofNames (isAbsolute path) (names path)

/-- The directory that a path lies in, in its one spelling. -/
def parent (path : String) : String := ofNames (isAbsolute path) (names path).dropLast

/-- Whether a path can only be a directory's: it ends in a slash. -/
def endsInSlash (path : String) : Bool := path.toList.getLast? == some '/'

/-- The path of a name in a directory; the empty path is the current one. -/
def join (directory name : String) : String :=
  if directory.isEmpty || endsInSlash directory then directory ++ name
  else directory ++ "/" ++ name

end FilePath

/-! ## §2. What lies where. -/

/-- The octets of files, and directories that may be empty, by path in its one
spelling. -/
structure Files where
  contents : Keyed (List UInt8)
  directories : List String
  deriving DecidableEq, Repr

/-- What a path leads to. -/
inductive FileEntry where
  | absent
  | directory
  | file (octets : List UInt8)
  deriving DecidableEq, Repr

namespace Files

open FilePath

/-- Whether a path in its one spelling is that of a directory. -/
def isDirectory (f : Files) (key : String) : Bool :=
  key == "" || key == "/" || f.directories.contains key
    || f.contents.any fun p => (key ++ "/").toList.isPrefixOf p.1.toList

/-- What a path leads to. -/
def look (f : Files) (path : String) : FileEntry :=
  if f.isDirectory (normal path) then .directory
  else if endsInSlash path then .absent
  else
    match f.contents.get? (normal path) with
    | some octets => .file octets
    | none => .absent

/-- Whether a path leads anywhere. -/
def exists? (f : Files) (path : String) : Bool := f.look path != .absent

/-- Whether directories can be made down to a path: no name on it is a file's. -/
def isOpen (f : Files) (path : String) : Bool :=
  (List.range ((names path).length + 1)).all fun n =>
    !f.contents.contains (ofNames (isAbsolute path) ((names path).take n))

/-- Put octets into a file, whatever its directory. -/
def put (f : Files) (path : String) (octets : List UInt8) : Files :=
  { f with contents := f.contents.insert (normal path) octets }

/-- Drop a file, if there is one. -/
def drop (f : Files) (path : String) : Files :=
  { f with contents := f.contents.erase (normal path) }

theorem get?_put (f : Files) (path : String) (octets : List UInt8) :
    (f.put path octets).contents.get? (normal path) = some octets := by
  simp [put, Keyed.get?_insert]

/-! ## §3. Reading and writing. -/

/-- Why a file could not be read or written, in the words of the system. -/
abbrev FileFailure := String

def isADirectory : FileFailure := "Is a directory (os error 21)"
def notADirectory : FileFailure := "Not a directory (os error 20)"
def noSuchFile : FileFailure := "No such file or directory (os error 2)"
def fileExists : FileFailure := "File exists (os error 17)"
def notText : FileFailure := "stream did not contain valid UTF-8"

/-- The text of a file. -/
def read (f : Files) (path : String) : Except FileFailure String :=
  match f.look path with
  | .absent => .error noSuchFile
  | .directory => .error isADirectory
  | .file octets =>
    match Utf8.decode? octets with
    | some cs => .ok (String.ofList cs)
    | none => .error notText

/-- Write a text to a file in a directory that is there. -/
def write (f : Files) (path text : String) : Except FileFailure Files :=
  if f.isDirectory (normal path) then .error isADirectory
  else if endsInSlash path then .error notADirectory
  else if f.isDirectory (parent path) then .ok (f.put path (Utf8.encode text.toList))
  else if f.isOpen (parent path) then .error noSuchFile
  else .error notADirectory

/-- Make a directory and those that it lies in. -/
def makeDirectory (f : Files) (path : String) : Except FileFailure Files :=
  if f.isOpen path then .ok { f with directories := normal path :: f.directories }
  else .error fileExists

end Files
end Dashboard
