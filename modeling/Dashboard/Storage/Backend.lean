/-
  Dashboard.Storage.Backend
  ─────────────────────────
  Where texts are kept under keys: in memory, or in one file.

  The file holds a JSON object of texts, laid out on several lines and with
  its keys in order.  A missing or blank file holds nothing.  A file that is
  no such object cannot be read, but it is replaced by the next write; a file
  that is no UTF-8 text can be neither read nor written.

  A backend is a medium whose calls may fail: what the failure schedule says
  comes before what the medium would do, and a call that fails changes
  nothing.
-/
import Dashboard.Json.Printer
import Dashboard.Json.Reader
import Dashboard.Text.Blank
import Dashboard.Text.Utf8

namespace Dashboard

open Json Text

/-! ## §1. Errors. -/

/-- Why a call failed. -/
inductive StorageError where
  | io (reason : String)
  | serialization (reason : String)
  | corruption (reason : String)
  | unavailable (reason : String)
  deriving DecidableEq, Repr

/-- The wording of a failure. -/
def StorageError.message : StorageError → String
  | .io reason => s!"I/O error: {reason}"
  | .serialization reason => s!"serialization error: {reason}"
  | .corruption reason => s!"storage corruption: {reason}"
  | .unavailable reason => s!"storage unavailable: {reason}"

/-! ## §2. The file of a map. -/

namespace StorageFile

/-- The texts of an object; none if it holds anything else. -/
def textMembers? : Members → Option (List (String × String))
  | [] => some []
  | (k, .text s) :: rest => (textMembers? rest).map ((k, s) :: ·)
  | _ :: _ => none

/-- The entries that a text writes. -/
def entries? (text : String) : Option (Keyed String) :=
  match readWritten text with
  | some (.object m) => (textMembers? m).map Keyed.ofList
  | _ => none

/-- The text of entries. -/
def textOf (entries : Keyed String) : String :=
  (Value.object (entries.map fun (k, s) => (k, .text s))).pretty

/-- The entries of a file at a path, given its octets. -/
def readMap (path : String) : Option (List UInt8) → Except StorageError (Keyed String)
  | none => .ok []
  | some octets =>
    match Utf8.decode? octets with
    | none => .error (.io "stream did not contain valid UTF-8")
    | some cs =>
      let text := String.ofList cs
      if isBlankText text then .ok []
      else
        match entries? text with
        | some entries => .ok entries
        | none => .error (.corruption s!"{path} is not a key/value map: not an object of texts")

/-- The octets of a file of entries. -/
def writeMap (entries : Keyed String) : List UInt8 := Utf8.encode (textOf entries).toList

/-- The entries to change before a write: a file that is no map counts as empty. -/
def mapToChange (path : String) (octets : Option (List UInt8)) :
    Except StorageError (Keyed String) :=
  match readMap path octets with
  | .error (.corruption _) => .ok []
  | r => r

end StorageFile

/-! ## §3. Media. -/

/-- Where entries are kept; the octets of a file, if there is one. -/
inductive Medium where
  | memory (entries : Keyed String)
  | file (path : String) (octets : Option (List UInt8))
  deriving DecidableEq, Repr

namespace Medium

/-- The name of a kind of medium. -/
def name : Medium → String
  | .memory _ => "MemoryStorage"
  | .file _ _ => "FileStorage"

/-- Whether the medium can be written to: a file needs a place in a directory. -/
def isAvailable : Medium → Bool
  | .memory _ => true
  | .file path _ => path.toList.any (· ≠ '/')

/-- The text under a key. -/
def get (m : Medium) (key : String) : Except StorageError (Option String) :=
  match m with
  | .memory entries => .ok (entries.get? key)
  | .file path octets => (StorageFile.readMap path octets).map (Keyed.get? key)

/-- Put a text under a key. -/
def set (m : Medium) (key text : String) : Except StorageError Medium :=
  match m with
  | .memory entries => .ok (.memory (entries.insert key text))
  | .file path octets =>
    (StorageFile.mapToChange path octets).map fun entries =>
      .file path (some (StorageFile.writeMap (entries.insert key text)))

/-- Drop a key; a file that does not exist stays so. -/
def remove (m : Medium) (key : String) : Except StorageError Medium :=
  match m with
  | .memory entries => .ok (.memory (entries.erase key))
  | .file path none => .ok (.file path none)
  | .file path octets =>
    (StorageFile.mapToChange path octets).map fun entries =>
      .file path (some (StorageFile.writeMap (entries.erase key)))

end Medium

/-! ## §4. Calls that fail. -/

/-- A kind of call. -/
inductive StorageCall where
  | get
  | set
  | remove
  deriving DecidableEq, Repr

/-- Which calls fail, and how. -/
abbrev StorageFaults := StorageCall → String → Option StorageError

/-- No call fails. -/
def StorageFaults.none : StorageFaults := fun _ _ => .none

/-- A medium and the calls that fail. -/
structure Backend where
  medium : Medium
  faults : StorageFaults

namespace Backend

/-- An empty memory. -/
def inMemory : Backend := ⟨.memory [], .none⟩

/-- The text under a key. -/
def get (b : Backend) (key : String) : Except StorageError (Option String) :=
  match b.faults .get key with
  | some e => .error e
  | none => b.medium.get key

/-- The backend after a write, or unchanged beside the failure. -/
def settle (b : Backend) : Except StorageError Medium → Except StorageError Unit × Backend
  | .ok medium => (.ok (), { b with medium })
  | .error e => (.error e, b)

/-- Put a text under a key. -/
def set (b : Backend) (key text : String) : Except StorageError Unit × Backend :=
  match b.faults .set key with
  | some e => (.error e, b)
  | none => b.settle (b.medium.set key text)

/-- Drop a key. -/
def remove (b : Backend) (key : String) : Except StorageError Unit × Backend :=
  match b.faults .remove key with
  | some e => (.error e, b)
  | none => b.settle (b.medium.remove key)

end Backend
end Dashboard
