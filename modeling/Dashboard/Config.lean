/-
  Dashboard.Config
  ────────────────
  The settings of a dashboard and the files that hold them.

  A file is JSON or TOML.  It gives sections of fields by name; a section, and
  the whole file, may also be a list of its fields in order.  What is missing
  has its usual value and unknown names are passed over, but a known name is
  given once and with a value of its kind.

  `Config.problems` lists what makes a decoded configuration unusable.

  Main results:
    problems_standard — the usual values have no problem
-/
import Dashboard.History
import Dashboard.Host
import Dashboard.Session
import Dashboard.Storage.Store
import Dashboard.Text.Quoted
import Dashboard.Toml.Reader
import Dashboard.Url.Resolution

namespace Dashboard

open Grid Json Text

/-! ## §1. The settings. -/

/-- Where workspaces are kept. -/
inductive StorageKind where
  | memory
  | file
  deriving DecidableEq, Repr

/-- The name of a kind. -/
def StorageKind.name : StorageKind → String
  | .memory => "memory"
  | .file => "file"

/-- The kind of a name. -/
def StorageKind.ofName? (name : String) : Option StorageKind :=
  [.memory, .file].find? fun k => k.name == name

/-- How workspaces are kept. -/
structure StorageSettings where
  kind : StorageKind
  /-- The file; without it the user's own. -/
  path : Option String
  keys : StorageKeys
  deriving DecidableEq, Repr

/-- The user's own file and the usual keys. -/
def StorageSettings.standard : StorageSettings := ⟨.file, none, .standard⟩

/-- How often panels are polled; times in milliseconds. -/
structure PollingSettings where
  interval : Nat
  timeout : Nat
  policy : QualityPolicy
  deriving DecidableEq, Repr

/-- The times of a usual host. -/
def PollingSettings.standard : PollingSettings :=
  ⟨HostSettings.standard.interval, HostSettings.standard.timeout, .standard⟩

/-- The server that panels are polled from. -/
structure UpstreamSettings where
  baseUrl : String
  adminToken : Option String
  deriving DecidableEq, Repr

/-- A server on this machine. -/
def UpstreamSettings.standard : UpstreamSettings := ⟨"http://localhost:8000", none⟩

/-- All settings. -/
structure Config where
  historyLimit : Nat
  storage : StorageSettings
  grid : Spec
  polling : PollingSettings
  upstream : UpstreamSettings
  deriving DecidableEq, Repr

namespace Config

/-- The usual value of every setting. -/
def standard : Config := ⟨standardHistoryLimit, .standard, .standard, .standard, .standard⟩

/-- The settings of a session. -/
def sessionSettings (c : Config) : SessionSettings := ⟨c.historyLimit, c.grid⟩

/-- The settings of a host with workers. -/
def hostSettings (c : Config) : HostSettings :=
  ⟨c.polling.interval, c.polling.timeout, c.polling.policy, true⟩

/-- An empty medium of the configured kind; `home` is the user's own file. -/
def medium (c : Config) (home : String) : Medium :=
  match c.storage.kind with
  | .memory => .memory []
  | .file => .file (c.storage.path.getD home) none

end Config

/-! ## §2. Problems. -/

/-- Why a configuration cannot be used. -/
inductive ConfigProblem where
  | zero (field : String)
  | blankKey (field : String)
  /-- The draft and the committed document have one key. -/
  | sharedKey (key : String)
  | badUrl (e : Url.UrlError) (text : String)
  deriving DecidableEq, Repr

/-- The wording of a problem. -/
def ConfigProblem.message : ConfigProblem → String
  | .zero field => s!"{field} must be > 0"
  | .blankKey field => s!"{field} must not be empty"
  | .sharedKey key =>
    s!"storage.draft_key and storage.committed_key must differ, both are {quoted key}"
  | .badUrl e text => s!"upstream.base_url is not a valid URL ({e.message}): {quoted text}"

/-- A field that must not be zero. -/
def positive (field : String) (n : Nat) : List ConfigProblem :=
  if n = 0 then [.zero field] else []

/-- A key that must not be blank. -/
def present (field key : String) : List ConfigProblem :=
  if isBlankText key then [.blankKey field] else []

/-- Keys that must differ. -/
def distinctKeys (k : StorageKeys) : List ConfigProblem :=
  if k.draft = k.committed then [.sharedKey k.draft] else []

/-- A text that must be a URL. -/
def validUrl (text : String) : List ConfigProblem :=
  match Url.parse text with
  | .ok _ => []
  | .error e => [.badUrl e text]

/-- Everything that makes a configuration unusable. -/
def Config.problems (c : Config) : List ConfigProblem :=
  positive "grid.columns" c.grid.columns.toNat
    ++ positive "grid.row_height" c.grid.rowHeight.toNat
    ++ positive "polling.interval_ms" c.polling.interval
    ++ positive "polling.timeout_ms" c.polling.timeout
    ++ positive "polling.down_after_failures" c.polling.policy.downAfterFailures
    ++ present "storage.draft_key" c.storage.keys.draft
    ++ present "storage.committed_key" c.storage.keys.committed
    ++ present "storage.preferences_key" c.storage.keys.preferences
    ++ distinctKeys c.storage.keys
    ++ validUrl c.upstream.baseUrl

/-! ## §3. Decoding. -/

/-- The notation of a configuration file. -/
inductive ConfigFormat where
  | json
  | toml
  deriving DecidableEq, Repr

/-- The fields of a section with their values: a list gives them in order, an
object by name, none of them twice. -/
def sectionFields? (names : List String) : Value → Option Members
  | .object m =>
    if names.all fun name => m.countP (fun p => p.1 == name) ≤ 1 then some m else none
  | .list items => if items.length ≤ names.length then some (names.zip items) else none
  | _ => none

/-- The value of a field, or its usual value. -/
def setting {α : Type} (m : Members) (name : String) (standard : α) (decode : Value → Option α) :
    Option α :=
  match Keyed.get? name m with
  | some v => decode v
  | none => some standard

/-- A text that may be null. -/
def textOrNull? : Value → Option (Option String)
  | .null => some none
  | v => v.text?.map some

/-- A natural number below two to the power 32. -/
def smallNat? (v : Value) : Option Nat := v.word32?.map UInt32.toNat

namespace ConfigFormat

/-- What a name without a value is given in this notation. -/
def isVoid : ConfigFormat → Value → Bool
  | .json, .null => true
  | .toml, .object [] => true
  | .toml, .list [] => true
  | _, _ => false

/-- A kind of storage: its name, or its name as the only key, without a value. -/
def storageKind? (f : ConfigFormat) : Value → Option StorageKind
  | .text name => StorageKind.ofName? name
  | .object [(name, v)] => if f.isVoid v then StorageKind.ofName? name else none
  | _ => none

def storage? (f : ConfigFormat) (v : Value) : Option StorageSettings := do
  let usual := StorageSettings.standard
  let m ← sectionFields? ["backend", "path", "draft_key", "committed_key", "preferences_key"] v
  let kind ← setting m "backend" usual.kind f.storageKind?
  let path ← setting m "path" usual.path textOrNull?
  let draft ← setting m "draft_key" usual.keys.draft Value.text?
  let committed ← setting m "committed_key" usual.keys.committed Value.text?
  let preferences ← setting m "preferences_key" usual.keys.preferences Value.text?
  pure ⟨kind, path, ⟨draft, committed, preferences⟩⟩

end ConfigFormat

def historyLimit? (v : Value) : Option Nat := do
  let m ← sectionFields? ["max_steps"] v
  setting m "max_steps" standardHistoryLimit Value.nat?

def gridSettings? (v : Value) : Option Spec := do
  let usual := Spec.standard
  let m ← sectionFields? ["columns", "row_height", "gap"] v
  let columns ← setting m "columns" usual.columns Value.word32?
  let rowHeight ← setting m "row_height" usual.rowHeight Value.word32?
  let gap ← setting m "gap" usual.gap Value.word32?
  pure ⟨columns, rowHeight, gap⟩

def pollingSettings? (v : Value) : Option PollingSettings := do
  let usual := PollingSettings.standard
  let m ← sectionFields? ["interval_ms", "timeout_ms", "down_after_failures", "stale_after_ms"] v
  let interval ← setting m "interval_ms" usual.interval Value.nat?
  let timeout ← setting m "timeout_ms" usual.timeout Value.nat?
  let down ← setting m "down_after_failures" usual.policy.downAfterFailures smallNat?
  let stale ← setting m "stale_after_ms" usual.policy.staleAfterMs Value.nat?
  pure ⟨interval, timeout, ⟨down, stale⟩⟩

def upstreamSettings? (v : Value) : Option UpstreamSettings := do
  let usual := UpstreamSettings.standard
  let m ← sectionFields? ["base_url", "admin_token"] v
  let baseUrl ← setting m "base_url" usual.baseUrl Value.text?
  let adminToken ← setting m "admin_token" usual.adminToken textOrNull?
  pure ⟨baseUrl, adminToken⟩

/-- The configuration that data of a file gives. -/
def Config.ofValue? (f : ConfigFormat) (v : Value) : Option Config := do
  let usual := Config.standard
  let m ← sectionFields? ["history", "storage", "grid", "polling", "upstream"] v
  let historyLimit ← setting m "history" usual.historyLimit historyLimit?
  let storage ← setting m "storage" usual.storage f.storage?
  let grid ← setting m "grid" usual.grid gridSettings?
  let polling ← setting m "polling" usual.polling pollingSettings?
  let upstream ← setting m "upstream" usual.upstream upstreamSettings?
  pure ⟨historyLimit, storage, grid, polling, upstream⟩

/-! ## §4. Files. -/

/-- Why a configuration was not loaded. -/
inductive ConfigError where
  | io (path reason : String)
  /-- The text is no configuration in its notation. -/
  | unreadable (format : ConfigFormat)
  | invalid (problems : List ConfigProblem)
  deriving DecidableEq, Repr

/-- The wording of an error. -/
def ConfigError.message : ConfigError → String
  | .io path reason => s!"I/O error reading {path}: {reason}"
  | .unreadable .toml => "TOML parse error: the text is no TOML configuration"
  | .unreadable .json => "JSON parse error: the text is no JSON configuration"
  | .invalid problems =>
    "validation errors: " ++ String.intercalate "; " (problems.map ConfigProblem.message)

namespace ConfigFormat

/-- The data of a text. -/
def read : ConfigFormat → String → Option Value
  | .json => readWritten
  | .toml => Toml.read

/-- The last name of a path. -/
def fileName (path : List Char) : List Char :=
  ((path.reverse.dropWhile (· == '/')).takeWhile (· ≠ '/')).reverse

/-- What follows the last point of a file name, if something stands before it. -/
def suffix? (name : List Char) : Option (List Char) :=
  match name.reverse.span (· ≠ '.') with
  | (ending, _ :: _ :: _) => some ending.reverse
  | _ => none

/-- A file whose name ends in `.json`, in any case, is JSON; all others are
TOML. -/
def ofPath (path : String) : ConfigFormat :=
  match suffix? (fileName path.toList) with
  | some ending => if ending.map Char.toLower = "json".toList then .json else .toml
  | none => .toml

end ConfigFormat

namespace Config

/-- The configuration that a text gives. -/
def ofText (f : ConfigFormat) (text : String) : Except ConfigError Config :=
  match (f.read text).bind (ofValue? f) with
  | some c => .ok c
  | none => .error (.unreadable f)

/-- The configuration of a file, which has no problems. -/
def load (path text : String) : Except ConfigError Config := do
  let c ← ofText (.ofPath path) text
  if c.problems.isEmpty then pure c else throw (.invalid c.problems)

/-- The usual values have no problem. -/
theorem problems_standard : standard.problems = [] := by
  decide +kernel

end Config
end Dashboard
