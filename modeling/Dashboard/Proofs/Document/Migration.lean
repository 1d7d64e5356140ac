/-
  Dashboard.Proofs.Document.Migration
  ───────────────────────────────────
  **WHAT MIGRATION LEAVES ALONE.**

  With one version to come from, there are three cases for a document: newer
  than this library, current, or of version 0.  Each has an equation here, and
  the members of the migrated document are known by their look-up.  A typed
  document of the current version passes through unchanged.

  Main results:
    migrate_of_newer, migrate_of_current, migrate_of_older
    get?_respellVersion, get?_upgrade
    migrateAndValidate_asValue — a current document is read back
-/
import Dashboard.Proofs.Document.Export
import Dashboard.Proofs.Keyed

namespace Dashboard

open Grid Json Time

/-! ## §1. The three cases. -/

section Cases

variable {m : Members} {n : Nat} (now : Instant)

/-- A document whose version cannot be read is refused for that. -/
theorem migrate_of_error {e : MigrationError} (h : storedVersion m = .error e) :
    migrate now (.object m) = .error e := by
  rw [migrate, h]
  rfl

/-- A newer document is refused with its version. -/
theorem migrate_of_newer (h : storedVersion m = .ok n) (hn : schemaVersion.toNat < n) :
    migrate now (.object m) = .error (.unsupportedVersion n) := by
  rw [migrate, h]
  exact if_pos hn

/-- A current document only has its version respelled. -/
theorem migrate_of_current (h : storedVersion m = .ok schemaVersion.toNat) :
    migrate now (.object m) = .ok ⟨.object (respellVersion m), false, schemaVersion.toNat,
      schemaVersion.toNat, []⟩ := by
  rw [migrate, h]
  rfl

/-- A document of version 0 is upgraded, which is reported. -/
theorem migrate_of_older (h : storedVersion m = .ok 0) :
    migrate now (.object m) = .ok ⟨.object (upgrade now 0 m), true, 0, schemaVersion.toNat,
      [migratedWarning 0]⟩ := by
  rw [migrate, h]
  rfl

end Cases

/-- Zero is the only version before the current one. -/
theorem eq_zero_of_not_current {n : Nat} (hle : ¬ schemaVersion.toNat < n)
    (hne : n ≠ schemaVersion.toNat) : n = 0 := by
  have hone : schemaVersion.toNat = 1 := rfl
  omega

/-! ## §2. Members after a migration. -/

/-- Respelling the version of a document leaves all its other members. -/
theorem get?_respellVersion {k : String} (hk : k ≠ versionKey) (hk' : k ≠ legacyVersionKey)
    (m : Members) : Keyed.get? k (respellVersion m) = Keyed.get? k m := by
  unfold respellVersion
  split
  next => rfl
  next v hv =>
    dsimp only
    split
    -- the old key goes, and where the new one is missing it takes the value
    · exact Keyed.get?_erase_of_ne hk' m
    · rw [Keyed.get?_insert, if_neg (Ne.symm hk)]
      exact Keyed.get?_erase_of_ne hk' m

/-- A migration from version 0 stamps the version and the date of change. -/
theorem get?_upgrade (now : Instant) (m : Members) (k : String) :
    Keyed.get? k (upgrade now 0 m) =
      if "updatedAt" = k then some (.text now.stamp)
      else if versionKey = k then some (wordValue schemaVersion)
      else Keyed.get? k (m.erase legacyVersionKey) := by
  show Keyed.get? k (((m.erase legacyVersionKey).insert versionKey (wordValue schemaVersion)).insert
    "updatedAt" (.text now.stamp)) = _
  rw [Keyed.get?_insert, Keyed.get?_insert]

/-! ## §3. Migration, then validation. -/

/-- What migration reports stands before what validation reports. -/
theorem migrateAndValidate_of_ok {o : ValidationOptions} {now : Instant} {v : Value}
    {m : Migration} (h : migrate now v = .ok m) :
    migrateAndValidate o now v =
      (validate o now m.document).map fun r => { r with warnings := m.warnings ++ r.warnings } := by
  unfold migrateAndValidate
  rw [h]
  show (validate o now m.document >>= fun r => pure { r with warnings := m.warnings ++ r.warnings })
    = _
  cases validate o now m.document <;> rfl

/-- A document that is not migrated is not validated. -/
theorem migrateAndValidate_of_error {o : ValidationOptions} {now : Instant} {v : Value}
    {e : MigrationError} (h : migrate now v = .error e) :
    migrateAndValidate o now v = .error (.ofMigration e) := by
  unfold migrateAndValidate
  rw [h]
  rfl

/-- A current document is not migrated. -/
theorem Workspace.migrate_asValue (now : Instant) {w : Workspace}
    (h : w.schemaVersion = Dashboard.schemaVersion) :
    Dashboard.migrate now w.asValue = .ok ⟨w.asValue, false, Dashboard.schemaVersion.toNat,
      Dashboard.schemaVersion.toNat, []⟩ := by
  have hversion : Keyed.get? versionKey (Keyed.ofList w.fields)
      = some (wordValue w.schemaVersion) := w.get?_fields versionKey
  have hlegacy : Keyed.get? legacyVersionKey (Keyed.ofList w.fields) = none :=
    w.get?_fields legacyVersionKey
  have hstored : storedVersion (Keyed.ofList w.fields) = .ok Dashboard.schemaVersion.toNat := by
    rw [storedVersion, hversion, h]
    rfl
  -- a typed document never has the version under its old key
  have hspelled : respellVersion (Keyed.ofList w.fields) = Keyed.ofList w.fields := by
    rw [respellVersion, hlegacy]
  show Dashboard.migrate now (.object (Keyed.ofList w.fields)) = _
  rw [migrate_of_current now hstored, hspelled]
  rfl

/-- **A current, well-formed document is read back**, whatever the clock reads. -/
theorem migrateAndValidate_asValue (o : ValidationOptions) (now : Instant) {w : Workspace}
    (hv : w.schemaVersion = schemaVersion) (h : w.ValidFor o) :
    migrateAndValidate o now w.asValue = .ok ⟨w, []⟩ := by
  rw [migrateAndValidate_of_ok (w.migrate_asValue now hv), validate_asValue o now h]
  rfl

end Dashboard
