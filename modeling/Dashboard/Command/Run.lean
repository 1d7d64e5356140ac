/-
  Dashboard.Command.Run
  ─────────────────────
  Running a command on files.

  The storage file is read before a command and written after it, also when
  the command fails.  A storage path that is a directory, or lies in a file,
  makes the calls fail that would touch it.  A write goes to an interim file
  beside the storage file, which then takes its place: a directory there makes
  writes fail, and a file there is lost.
-/
import Dashboard.Command.Arguments
import Dashboard.Command.Stored

namespace Dashboard.Command

open Json Time

/-! ## §1. The desk. -/

/-- What commands change: the files, and the status summary that is shared. -/
structure Desk where
  files : Files
  summary : TtlCell StatusSummary

/-- What a run is given: the time, an id that is in no document, the user's own
storage file, and the answers to requests where they are known. -/
structure Occasion where
  now : Instant
  newId : String
  home : String
  answers : Option Script

/-- A report or a failure, and the desk afterwards. -/
abbrev RunResult := Except CommandError (List String) × Desk

/-! ## §2. Files. -/

/-- The text of a file that must be there. -/
def readText (f : Files) (path : String) : Except CommandError String :=
  if f.exists? path then (f.read path).mapError .io else throw (.missingPath path)

/-- The configuration of a run. -/
def loadConfig (f : Files) (i : Invocation) : Except CommandError Config := do
  let c ← match i.config with
    | none => pure Config.standard
    | some path =>
      if f.exists? path then
        match f.read path with
        | .ok text => (Config.load path text).mapError .config
        | .error reason => throw (.config (.io path reason))
      else throw (.missingPath path)
  match i.state with
  | none => pure c
  | some path => pure { c with storage := { c.storage with kind := .file, path := some path } }

/-- Where a storage file is written before it takes its place. -/
def interimPath (path : String) : String := path ++ ".tmp"

/-- The calls that fail on a storage file at a path. -/
def faultsAt (f : Files) (path : String) : StorageFaults := fun call _ =>
  let blocked := f.look (interimPath path) == .directory
  match f.look path with
  | .directory => some (.io Files.isADirectory)
  | .file _ => if call ≠ .get ∧ blocked then some (.io Files.isADirectory) else none
  | .absent =>
    -- without a file there is nothing to read, and nothing to remove
    if call ≠ .set then none
    else if FilePath.endsInSlash path ∨ !f.isOpen path then some (.io Files.notADirectory)
    else if blocked then some (.io Files.isADirectory)
    else none

/-- The octets of a file. -/
def octetsAt? (f : Files) (path : String) : Option (List UInt8) :=
  match f.look path with
  | .file octets => some octets
  | _ => none

/-- The backend of a configuration. -/
def backendOf (f : Files) (c : Config) (home : String) : Backend :=
  match c.medium home with
  | .file path _ => ⟨.file path (octetsAt? f path), faultsAt f path⟩
  | medium => ⟨medium, .none⟩

/-- The files after a session on a backend.  Opening it writes the preferences,
so a storage file that can be written has been. -/
def writeBack (f : Files) (b : Backend) : Files :=
  match b.medium with
  | .file path (some octets) =>
    if (b.faults .set "").isNone && (Text.Utf8.decode? octets).isSome then
      (f.put path octets).drop (interimPath path)
    else f
  | _ => f

/-! ## §3. Commands. -/

/-- Run a command on the stored document. -/
def onStored (d : Desk) (c : Config) (o : Occasion) (run : Backend → Outcome) : RunResult :=
  let (r, b) := run (backendOf d.files c o.home)
  (r, { d with files := writeBack d.files b })

/-- A result that leaves the desk as it is. -/
def keeping (d : Desk) (r : Except CommandError (List String)) : RunResult := (r, d)

/-- Check a file against the schema. -/
def validateFile (f : Files) (c : Config) (now : Instant) (path : String) (strict : Bool) :
    Except CommandError (List String) := do
  let text ← readText f path
  let options := (Registry.builtin.validationOptions (if strict then .strict else .safe)).withGrid
    c.grid
  let validated ← (parseAndValidate options now text).mapError .validation
  pure (validationReport validated)

/-- Bring the text of a file to the current schema version. -/
def migrateFile (f : Files) (now : Instant) (path : String) : Except CommandError Migration := do
  let text ← readText f path
  match readNormal text with
  | none => throw .json
  | some document => (migrate now document).mapError .migration

/-- Write a text, or fail with what the system says. -/
def writeText (d : Desk) (path text : String) (lines : List String) : RunResult :=
  match d.files.write path text with
  | .ok files => (.ok lines, { d with files })
  | .error reason => (.error (.io reason), d)

/-- Bring a file to the current schema version, and print or write it. -/
def runMigrate (d : Desk) (now : Instant) (file : String) (out : Option String) : RunResult :=
  match migrateFile d.files now file, out with
  | .error e, _ => (.error e, d)
  | .ok m, none => (.ok [m.document.pretty], d)
  | .ok m, some path => writeText d path (m.document.pretty ++ "\n") [migrationLine path m]

/-- Print the document, or write it into a directory. -/
def runExport (d : Desk) (c : Config) (o : Occasion) (directory : Option String) : RunResult :=
  let (r, b) := exportFile c o.now (backendOf d.files c o.home)
  let d := { d with files := writeBack d.files b }
  match r, directory with
  | .error e, _ => (.error e, d)
  | .ok file, none => (.ok [file.text], d)
  | .ok file, some directory =>
    match d.files.makeDirectory directory with
    | .error reason => (.error (.io reason), d)
    | .ok files =>
      let path := FilePath.join directory file.name
      writeText { d with files } path file.text [s!"wrote {path}"]

/-- List the widgets that can be added. -/
def listWidgets (category search : Option String) : Except CommandError (List String) := do
  let category ← match category with
    | none => pure none
    | some raw =>
      match WidgetCategory.ofName? raw with
      | some c => pure (some c)
      | none => throw (.invalidArgument s!"unknown widget category '{raw}'")
  match Registry.builtin.catalog category search with
  | [] => pure ["no widgets match"]
  | found => pure (found.map widgetLine)

/-- Poll the panels of a page once.  Without answers the base URL must at least
be one. -/
def runStatus (d : Desk) (c : Config) (o : Occasion) (page baseUrl : Option String) : RunResult :=
  let base := baseUrl.getD c.upstream.baseUrl
  match o.answers, Upstream.ofBase base with
  | none, .error e => keeping d (.error (.fetch e))
  | _, _ =>
    let (r, summary, b) := status c o.now o.answers d.summary page base (backendOf d.files c o.home)
    (r, ⟨writeBack d.files b, summary⟩)

/-- Run a request under a configuration. -/
def runRequest (d : Desk) (c : Config) (o : Occasion) : Request → RunResult
  | .validate file strict => keeping d (validateFile d.files c o.now file strict)
  | .migrate file out => runMigrate d o.now file out
  | .listTemplates => keeping d (.ok (Template.all.map templateLine))
  | .init template force => onStored d c o (init c o.now template force)
  | .importFile file =>
    match readText d.files file with
    | .error e => (.error e, d)
    | .ok text => onStored d c o (importText c o.now text)
  | .exportDocument directory => runExport d c o directory
  | .showPage page width => onStored d c o (showPage c o.now page width)
  | .add widget page keepDraft => onStored d c o (add c o.now o.newId widget page keepDraft)
  | .widgets category search => keeping d (listWidgets category search)
  | .status page baseUrl => runStatus d c o page baseUrl

/-- Run a command. -/
def run (d : Desk) (o : Occasion) (i : Invocation) : RunResult :=
  match loadConfig d.files i with
  | .error e => (.error e, d)
  | .ok c => runRequest d c o i.request

/-! ## §4. The program. -/

/-- The user's own storage file: below the directory for program states, which
is below the home directory where it is not given. -/
def homeFile (stateHome home : Option String) : String :=
  let directory := (stateHome.or (home.map fun h => FilePath.join h ".local/state")).getD "."
  FilePath.join directory "dashkit/workspace.json"

/-- The files that a request names, to read or to write. -/
def Request.paths : Request → List String
  | .validate file _ | .importFile file => [file]
  | .migrate file out => file :: out.toList
  | .exportDocument directory => directory.toList
  | _ => []

/-- The files that a run may look at, its configuration's storage aside. -/
def Invocation.paths (i : Invocation) : List String :=
  i.config.toList ++ i.state.toList ++ i.request.paths

/-- The id of a panel from sixteen random octets, marked as random the way
identifiers of that size are. -/
def panelIdOf (octets : List UInt8) : String :=
  let marked := octets.mapIdx fun i o =>
    if i = 6 then o % 16 + 64 else if i = 8 then o % 64 + 128 else o
  "panel-" ++ String.ofList (marked.flatMap fun o => [o / 16, o % 16].map fun d =>
    Nat.digitChar d.toNat)

/-- The text of a report. -/
def reportText (lines : List String) : String := String.join (lines.map fun line => line ++ "\n")

end Dashboard.Command
