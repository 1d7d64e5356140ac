/-
  Dashboard.Document.Migration
  ────────────────────────────
  Bringing a stored document up to the current schema version.

  The version stands under `schemaVersion`; older documents spell the key
  `schema_version`.  An absent or null version is version 0.  Each step brings
  a document from one version to the next; a document newer than this library
  is refused.  A migrated document is stamped as changed now.
-/
import Dashboard.Document.Encoding

namespace Dashboard

open Json Time

/-! ## §1. Results. -/

/-- Why a document cannot be migrated. -/
inductive MigrationError where
  /-- It is not an object. -/
  | notAnObject
  /-- Its version is not a natural number. -/
  | invalidVersion (found : Value)
  /-- Its version is newer than this library's. -/
  | unsupportedVersion (found : Nat)
  deriving Repr

/-- A migrated document, the two versions and what is to be reported. -/
structure Migration where
  document : Value
  migrated : Bool
  fromVersion : Nat
  toVersion : Nat
  warnings : List String
  deriving Repr

/-- The wording for a document newer than this library. -/
def unsupportedVersionMessage (found : Nat) : String :=
  s!"unsupported workspace schema version {found} (this build supports up to {schemaVersion})"

/-- The wording of a migration error. -/
def MigrationError.message : MigrationError → String
  | .notAnObject => "workspace payload must be a JSON object"
  | .invalidVersion found =>
    s!"schemaVersion must be a non-negative integer, got {found.compact}"
  | .unsupportedVersion found => unsupportedVersionMessage found

/-- The report of a migration from a version. -/
def migratedWarning (fromVersion : Nat) : String :=
  s!"Migrated workspace schema {fromVersion} -> {schemaVersion}"

/-! ## §2. Versions. -/

/-- The key of the version. -/
def versionKey : String := "schemaVersion"

/-- The key of the version in older documents. -/
def legacyVersionKey : String := "schema_version"

/-- The stored version; 0 where there is none. -/
def storedVersion (doc : Members) : Except MigrationError Nat :=
  match (doc.get? versionKey).or (doc.get? legacyVersionKey) with
  | none | some .null => .ok 0
  | some v =>
    match v.nat? with
    | some n => .ok n
    | none => .error (.invalidVersion v)

/-- Whether a document is older than this library.  What cannot be migrated is
not. -/
def needsMigration (v : Value) : Bool :=
  match v.members?.map storedVersion with
  | some (.ok n) => n < schemaVersion.toNat
  | _ => false

/-! ## §3. Steps. -/

/-- From version 0 to version 1: the older spelling of the version goes. -/
def stepToOne (doc : Members) : Members := doc.erase legacyVersionKey

/-- The step from each version to the next. -/
def steps : List (Members → Members) := [stepToOne]

/-- A current document: an older spelling of the version gives way to the
current one. -/
def respellVersion (doc : Members) : Members :=
  match doc.get? legacyVersionKey with
  | none => doc
  | some v =>
    let doc := doc.erase legacyVersionKey
    -- a version under the current key stands above the older one
    if doc.contains versionKey then doc else doc.insert versionKey v

/-- Run the steps from a version on, and stamp version and time. -/
def upgrade (now : Instant) (version : Nat) (doc : Members) : Members :=
  (((steps.drop version).foldl (fun doc step => step doc) doc).insert versionKey
    (wordValue schemaVersion)).insert "updatedAt" (.text now.stamp)

/-- Bring a document to the current version. -/
def migrate (now : Instant) (v : Value) : Except MigrationError Migration :=
  match v with
  | .object doc => do
    let version ← storedVersion doc
    if schemaVersion.toNat < version then .error (.unsupportedVersion version)
    else if version = schemaVersion.toNat then
      .ok ⟨.object (respellVersion doc), false, version, version, []⟩
    else
      .ok ⟨.object (upgrade now version doc), true, version, schemaVersion.toNat,
        [migratedWarning version]⟩
  | _ => .error .notAnObject

/-- Bring a typed document to the current version. -/
def Workspace.migrate (now : Instant) (w : Workspace) : Except MigrationError Migration :=
  let version := w.schemaVersion
  if Dashboard.schemaVersion < version then .error (.unsupportedVersion version.toNat)
  else if version < Dashboard.schemaVersion then
    let w := ({ w with schemaVersion := Dashboard.schemaVersion }).touch now
    .ok ⟨w.asValue, true, version.toNat, Dashboard.schemaVersion.toNat,
      [migratedWarning version.toNat]⟩
  else .ok ⟨w.asValue, false, version.toNat, Dashboard.schemaVersion.toNat, []⟩

end Dashboard
