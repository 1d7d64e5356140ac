/-
  Dashboard.Proofs.Document.Newer
  ───────────────────────────────
  **NEWER DOCUMENTS, AND WHEN THEY ARE OVERLOOKED.**

  The current key is looked at first, and whatever stands there counts, a null
  among it; the older key only counts where the current one is missing.  So a
  newer version under the older key is overlooked as soon as anything else
  stands under the current key: a null or a supported version there makes the
  document pass for one of that version, and it is rewritten as current.

  Main results:
    migrate_unsupported_iff  — when a migration refuses a version as newer
    newer_refused_iff        — when a newer document is refused, and when it
                               is rewritten
    null_hides_newer_version — a document that is rewritten
-/
import Dashboard.Proofs.Document.Refusal
import Dashboard.Proofs.Document.Versions
import Dashboard.Proofs.Json.Reading

namespace Dashboard

open Json Time

/-! ## §1. Refused by the migration. -/

theorem migrate_unsupported_iff (now : Instant) {m : Members} {n : Nat} :
    migrate now (.object m) = .error (.unsupportedVersion n) ↔
      RecordsVersion m n ∧ schemaVersion.toNat < n := by
  constructor
  · intro h
    cases hversion : storedVersion m with
    | error e =>
        rw [migrate_of_error now hversion] at h
        cases h
        -- a version that was not read at all is no newer one
        unfold storedVersion at hversion
        split at hversion
        · cases hversion
        · cases hversion
        · split at hversion <;> cases hversion
    | ok k =>
        by_cases hnew : schemaVersion.toNat < k
        · rw [migrate_of_newer now hversion hnew] at h
          cases h
          exact ⟨storedVersion_eq_ok_iff.mp hversion, hnew⟩
        · obtain ⟨r, hr⟩ := (migrate_isOk_iff now (.object m)).mpr
            ⟨m, k, rfl, storedVersion_eq_ok_iff.mp hversion, not_lt.mp hnew⟩
          rw [hr] at h
          cases h
  · rintro ⟨hrecords, hnew⟩
    exact migrate_of_newer now (storedVersion_eq_ok_iff.mpr hrecords) hnew

theorem Json.Value.meansVersion_iff {v : Value} {n : Nat} (hn : n ≠ 0) :
    v.MeansVersion n ↔ v = .ofNat n :=
  ⟨fun h => h.resolve_left fun hnull => hn hnull.2, Or.inr⟩

/-- A newer version that stands under either key counts, unless something else
stands under the current one. -/
theorem recordsVersion_iff_of_newer {m : Members} {n : Nat} (newer : schemaVersion.toNat < n)
    (recorded : m.get? versionKey = some (.ofNat n) ∨ m.get? legacyVersionKey = some (.ofNat n)) :
    RecordsVersion m n ↔ ∀ v, m.get? versionKey = some v → v = .ofNat n := by
  have hn : n ≠ 0 := Nat.ne_of_gt (Nat.lt_of_le_of_lt (Nat.zero_le _) newer)
  constructor
  · intro h v hv
    cases h with
    | current hc hmeans =>
        rw [hc] at hv
        cases hv
        exact (Value.meansVersion_iff hn).mp hmeans
    | legacy hc hl hmeans => rw [hc] at hv; cases hv
    | absent hc hl hzero => exact absurd hzero hn
  · intro h
    cases hc : m.get? versionKey with
    | some v => exact .current hc (Or.inr (h v hc))
    | none =>
        rw [hc] at recorded
        exact .legacy hc (recorded.resolve_left nofun) (Or.inr rfl)

/-! ## §2. Refused on reading. -/

theorem sorted_of_readNormal {text : String} {m : Members}
    (h : readNormal text = some (.object m)) : Keyed.Sorted m := by
  obtain ⟨v, -, hv⟩ := Option.map_eq_some_iff.mp h
  cases v with
  | object written =>
      rw [Value.normalize] at hv
      cases hv
      exact Keyed.sorted_ofList _
  | _ => cases hv

/-- A text is refused as newer exactly if the migration of its data is. -/
theorem parse_unsupported_iff (o : ValidationOptions) (now : Instant) {text : String}
    {m : Members} {n : Nat} (h : readNormal text = some (.object m)) :
    parseAndValidate o now text = .error (.unsupportedVersion n) ↔
      migrate now (.object m) = .error (.unsupportedVersion n) := by
  rw [parseAndValidate, h]
  show migrateAndValidate o now (.object m) = _ ↔ _
  cases hr : migrate now (.object m) with
  | error e =>
      rw [migrateAndValidate_of_error hr]
      cases e <;> simp [ValidationError.ofMigration]
  | ok r =>
      rw [migrateAndValidate_of_ok hr]
      refine iff_of_false (fun hrefused => ?_) nofun
      -- what a migration gives has the current version, which is supported
      have hcurrent := (migrate_settles (sorted_of_readNormal h) hr).1.version
      cases hv : validate o now r.document with
      | ok checked => rw [hv] at hrefused; cases hrefused
      | error e =>
          rw [hv] at hrefused
          cases hrefused
          obtain ⟨hfound, hnew⟩ := (validate_unsupported_iff o now r.document).mp hv
          rw [hcurrent] at hfound
          cases hfound
          exact absurd hnew (by decide)

/-! ## §3. Overlooked versions. -/

/-- **When a newer document is refused, and when it is rewritten.**  Let a
document record a newer version under either key.  The migration, and reading
in either mode, refuse it as newer exactly if nothing but that version stands
under the current key.  It is rewritten as a current document exactly if a
null or a supported version stands there. -/
theorem newer_refused_iff (o : ValidationOptions) (now : Instant) {m : Members} {n : Nat}
    (newer : schemaVersion.toNat < n)
    (recorded : m.get? versionKey = some (.ofNat n) ∨ m.get? legacyVersionKey = some (.ofNat n)) :
    (migrate now (.object m) = .error (.unsupportedVersion n) ↔
      ∀ v, m.get? versionKey = some v → v = .ofNat n) ∧
    (∀ text, readNormal text = some (.object m) →
      (parseAndValidate o now text = .error (.unsupportedVersion n) ↔
        ∀ v, m.get? versionKey = some v → v = .ofNat n)) ∧
    ((∃ r, migrate now (.object m) = .ok r) ↔
      m.get? versionKey = some .null ∨
        ∃ k ≤ schemaVersion.toNat, m.get? versionKey = some (.ofNat k)) := by
  have hmigrate : migrate now (.object m) = .error (.unsupportedVersion n) ↔
      ∀ v, m.get? versionKey = some v → v = .ofNat n := by
    rw [migrate_unsupported_iff, and_iff_left newer]
    exact recordsVersion_iff_of_newer newer recorded
  refine ⟨hmigrate, fun text htext => (parse_unsupported_iff o now htext).trans hmigrate, ?_⟩
  rw [migrate_isOk_iff]
  constructor
  · rintro ⟨d, k, hd, hrecords, hle⟩
    cases hd
    cases hrecords with
    | current hc hmeans =>
        rcases hmeans with ⟨rfl, -⟩ | rfl
        · exact Or.inl hc
        · exact Or.inr ⟨k, hle, hc⟩
    | legacy hc hl hmeans =>
        -- then the newer version is the one that counts
        have hall : ∀ v, m.get? versionKey = some v → v = .ofNat n := by
          intro v hv
          rw [hc] at hv
          cases hv
        obtain ⟨r, hr⟩ := (migrate_isOk_iff now (.object m)).mpr
          ⟨m, k, rfl, .legacy hc hl hmeans, hle⟩
        rw [hmigrate.mpr hall] at hr
        cases hr
    | absent hc hl hzero =>
        rw [hc, hl] at recorded
        rcases recorded with h | h <;> cases h
  · rintro (hnull | ⟨k, hle, hk⟩)
    · exact ⟨m, 0, rfl, .current hnull (Or.inl ⟨rfl, rfl⟩), Nat.zero_le _⟩
    · exact ⟨m, k, rfl, .current hk (Or.inr rfl), hle⟩

/-- A newer version under the older key is refused where the current key is
missing, in both modes, and overlooked where a null stands there. -/
theorem newer_refused_unless_null :
    let refused : Members := [("name", .text "Desk"), ("schema_version", .ofNat 7)]
    let overlooked : Members := [("schemaVersion", .null), ("schema_version", .ofNat 7)]
    (∀ mode, parseAndValidate (.ofMode mode) ⟨0⟩ (Value.object refused).compact
      = .error (.unsupportedVersion 7)) ∧
    ∃ r, migrate ⟨0⟩ (.object overlooked) = .ok r := by
  intro refused overlooked
  constructor
  · intro mode
    have hread : readNormal (Value.object refused).compact = some (.object refused) :=
      readNormal_compact (by decide) (by decide)
    exact ((newer_refused_iff (.ofMode mode) ⟨0⟩ (m := refused) (n := 7) (by decide)
      (Or.inr rfl)).2.1 _ hread).mpr nofun
  · exact (newer_refused_iff (.ofMode .safe) ⟨0⟩ (m := overlooked) (n := 7) (by decide)
      (Or.inr rfl)).2.2.mpr (Or.inl rfl)

/-- A null under the current key hides a newer version under the older one:
the document is not refused. -/
theorem null_hides_newer_version :
    ¬ ∀ (now : Instant) (m : Members) (n : Nat), schemaVersion.toNat < n →
      m.get? legacyVersionKey = some (.ofNat n) →
      m.get? versionKey = none ∨ m.get? versionKey = some .null →
        migrate now (.object m) = .error (.unsupportedVersion n) := by
  intro h
  have hrefused := h ⟨0⟩ [("schemaVersion", .null), ("schema_version", .ofNat 7)] 7 (by decide)
    rfl (Or.inr rfl)
  have hmigrated : (migrate ⟨0⟩ (.object [("schemaVersion", .null),
      ("schema_version", .ofNat 7)])).toBool = true := by decide
  rw [hrefused] at hmigrated
  cases hmigrated

end Dashboard
