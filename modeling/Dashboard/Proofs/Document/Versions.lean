/-
  Dashboard.Proofs.Document.Versions
  ──────────────────────────────────
  **MIGRATION HAS ONE NORMAL FORM.**

  Whatever the two version keys held, a migrated document has the current
  version under the current key and none under the older one.  A document of
  that form is settled: another migration finds nothing to do.  On the way
  there, only the date of change is touched, and only where a step ran.  A
  typed document is migrated as its data is.

  Main results:
    storedVersion_eq_ok_iff — which version a document records
    migrate_cases           — everything that a successful migration can do
    migrate_of_settled      — a settled document stays as it is
    migration_settles       — the four statements together
-/
import Dashboard.Proofs.Document.Migration

namespace Dashboard

open Grid Json Time

/-! ## §1. The recorded version. -/

/-- A natural number stands for itself and null for version 0. -/
def Json.Value.MeansVersion (v : Value) (n : Nat) : Prop := v = .null ∧ n = 0 ∨ v = .ofNat n

/-- The version that the members of a document record: what stands under the
current key if anything does, else what stands under the older key, else 0. -/
inductive RecordsVersion (m : Members) (n : Nat) : Prop
  | current {v : Value} (h : m.get? versionKey = some v) (hv : v.MeansVersion n)
  | legacy {v : Value} (h : m.get? versionKey = none) (hl : m.get? legacyVersionKey = some v)
      (hv : v.MeansVersion n)
  | absent (h : m.get? versionKey = none) (hl : m.get? legacyVersionKey = none) (hn : n = 0)

theorem nat?_eq_some_iff {v : Value} {n : Nat} : v.nat? = some n ↔ v = .ofNat n := by
  constructor
  · intro h
    cases v with
    | number x =>
        cases x with
        | integer i =>
            simp only [Value.nat?] at h
            split at h
            next hi =>
              injection h with h
              rw [← h, Value.ofNat, Int.toNat_of_nonneg hi]
            next => cases h
        | double x => cases h
    | _ => cases h
  · rintro rfl
    exact nat?_ofNat n

/-- What is found under the keys is the version that it stands for. -/
theorem storedVersion_of_found {m : Members} {v : Value} {n : Nat}
    (h : (m.get? versionKey).or (m.get? legacyVersionKey) = some v) :
    storedVersion m = .ok n ↔ v.MeansVersion n := by
  unfold storedVersion
  rw [h]
  cases v with
  | null => simp [Value.MeansVersion, Value.ofNat, eq_comm]
  | number x =>
      have hnat := @nat?_eq_some_iff (.number x) n
      rw [Value.MeansVersion, ← hnat]
      dsimp only
      cases (Value.number x).nat? <;> simp
  | _ => simp [Value.MeansVersion, Value.nat?, Value.ofNat]

theorem storedVersion_eq_ok_iff {m : Members} {n : Nat} :
    storedVersion m = .ok n ↔ RecordsVersion m n := by
  constructor
  · intro h
    cases hc : m.get? versionKey with
    | some v => exact .current hc ((storedVersion_of_found (by rw [hc]; rfl)).mp h)
    | none =>
        cases hl : m.get? legacyVersionKey with
        | some v => exact .legacy hc hl ((storedVersion_of_found (by rw [hc, hl]; rfl)).mp h)
        | none =>
            rw [storedVersion, hc, hl] at h
            cases h
            exact .absent hc hl rfl
  · intro h
    cases h with
    | current hc hv => exact (storedVersion_of_found (by rw [hc]; rfl)).mpr hv
    | legacy hc hl hv => exact (storedVersion_of_found (by rw [hc, hl]; rfl)).mpr hv
    | absent hc hl hn => rw [storedVersion, hc, hl, hn]; rfl

/-! ## §2. What a migration can do. -/

/-- A migration that succeeds either finds the current version or comes from
version 0. -/
theorem migrate_cases {now : Instant} {v : Value} {r : Migration} (h : migrate now v = .ok r) :
    ∃ m, v = .object m ∧
      (storedVersion m = .ok schemaVersion.toNat ∧ r = ⟨.object (respellVersion m), false,
        schemaVersion.toNat, schemaVersion.toNat, []⟩ ∨
      storedVersion m = .ok 0 ∧ r = ⟨.object (upgrade now 0 m), true, 0, schemaVersion.toNat,
        [migratedWarning 0]⟩) := by
  cases v with
  | object m =>
      refine ⟨m, rfl, ?_⟩
      cases hversion : storedVersion m with
      | error e => rw [migrate_of_error now hversion] at h; cases h
      | ok n =>
          by_cases hnew : schemaVersion.toNat < n
          · rw [migrate_of_newer now hversion hnew] at h
            cases h
          by_cases hcurrent : n = schemaVersion.toNat
          · subst hcurrent
            rw [migrate_of_current now hversion] at h
            cases h
            exact Or.inl ⟨rfl, rfl⟩
          · obtain rfl := eq_zero_of_not_current hnew hcurrent
            rw [migrate_of_older now hversion] at h
            cases h
            exact Or.inr ⟨rfl, rfl⟩
  | _ => cases h

/-- A migration succeeds exactly on objects of a supported version. -/
theorem migrate_isOk_iff (now : Instant) (v : Value) :
    (∃ r, migrate now v = .ok r) ↔
      ∃ m n, v = .object m ∧ RecordsVersion m n ∧ n ≤ schemaVersion.toNat := by
  constructor
  · rintro ⟨r, h⟩
    obtain ⟨m, rfl, ⟨hversion, -⟩ | ⟨hversion, -⟩⟩ := migrate_cases h
    · exact ⟨m, _, rfl, storedVersion_eq_ok_iff.mp hversion, le_refl _⟩
    · exact ⟨m, 0, rfl, storedVersion_eq_ok_iff.mp hversion, Nat.zero_le _⟩
  · rintro ⟨m, n, rfl, hrecords, hle⟩
    have hversion := storedVersion_eq_ok_iff.mpr hrecords
    by_cases hcurrent : n = schemaVersion.toNat
    · subst hcurrent
      exact ⟨_, migrate_of_current now hversion⟩
    · obtain rfl := eq_zero_of_not_current (not_lt.mpr hle) hcurrent
      exact ⟨_, migrate_of_older now hversion⟩

/-- Only the stored version matters. -/
theorem needsMigration_object (m : Members) :
    needsMigration (.object m)
      = ((storedVersion m).toOption.map fun n => decide (n < schemaVersion.toNat)).getD false := by
  unfold needsMigration
  rw [show (Value.object m).members?.map storedVersion = some (storedVersion m) from rfl]
  cases storedVersion m <;> rfl

/-- A document needs a migration exactly if one runs a step. -/
theorem needsMigration_iff (now : Instant) (v : Value) :
    needsMigration v = true ↔ ∃ r, migrate now v = .ok r ∧ r.migrated = true := by
  constructor
  · intro h
    cases v with
    | object m =>
        cases hversion : storedVersion m with
        | error e => rw [needsMigration_object, hversion] at h; cases h
        | ok n =>
            rw [needsMigration_object, hversion] at h
            obtain rfl : n = 0 := Nat.lt_one_iff.mp (of_decide_eq_true h)
            exact ⟨_, migrate_of_older now hversion, rfl⟩
    | _ => cases h
  · rintro ⟨r, h, hmigrated⟩
    obtain ⟨m, rfl, ⟨-, rfl⟩ | ⟨hversion, -⟩⟩ := migrate_cases h
    · cases hmigrated
    · rw [needsMigration_object, hversion]
      rfl

/-! ## §3. Settled documents. -/

/-- The current version stands under the current key, and nothing under the
older one. -/
structure Settled (m : Members) : Prop where
  current : m.get? versionKey = some (wordValue schemaVersion)
  legacy : m.get? legacyVersionKey = none

/-- **A settled document stays as it is.** -/
theorem migrate_of_settled (now : Instant) {m : Members} (h : Settled m) :
    migrate now (.object m) = .ok ⟨.object m, false, schemaVersion.toNat,
      schemaVersion.toNat, []⟩ := by
  have hversion : storedVersion m = .ok schemaVersion.toNat :=
    storedVersion_eq_ok_iff.mpr (.current h.current (Or.inr rfl))
  have hspelled : respellVersion m = m := by rw [respellVersion, h.legacy]
  rw [migrate_of_current now hversion, hspelled]

theorem settled_respellVersion {m : Members} (sorted : Keyed.Sorted m)
    (h : storedVersion m = .ok schemaVersion.toNat) : Settled (respellVersion m) := by
  have current_of : ∀ {v : Value}, v.MeansVersion schemaVersion.toNat →
      v = wordValue schemaVersion := by
    rintro v (⟨-, hzero⟩ | hv)
    · exact absurd hzero (by decide)
    · exact hv
  have herased := Keyed.get?_erase_self sorted legacyVersionKey
  have hothers : Keyed.get? versionKey (m.erase legacyVersionKey) = m.get? versionKey :=
    Keyed.get?_erase_of_ne (by decide) m
  unfold respellVersion
  cases storedVersion_eq_ok_iff.mp h with
  | @current v hc hv =>
      -- the older key is dropped, whatever it holds
      have hcurrent := hc.trans (congrArg some (current_of hv))
      split
      next hl => exact ⟨hcurrent, hl⟩
      next hl =>
        have hkept : Keyed.contains versionKey (m.erase legacyVersionKey) = true := by
          rw [Keyed.contains, hothers, hc]
          rfl
        dsimp only
        rw [if_pos hkept]
        exact ⟨hothers.trans hcurrent, herased⟩
  | @legacy v hc hl hv =>
      -- the older key hands its version on
      have hmissing : ¬ Keyed.contains versionKey (m.erase legacyVersionKey) = true := by
        rw [Keyed.contains, hothers, hc]
        exact Bool.false_ne_true
      rw [hl]
      dsimp only
      rw [if_neg hmissing, current_of hv]
      refine ⟨?_, ?_⟩
      · rw [Keyed.get?_insert, if_pos rfl]
      · rw [Keyed.get?_insert, if_neg (by decide), herased]
  | absent hc hl hn => exact absurd hn (by decide)

theorem settled_upgrade (now : Instant) {m : Members} (sorted : Keyed.Sorted m) :
    Settled (upgrade now 0 m) := by
  constructor
  · rw [get?_upgrade, if_neg (by decide), if_pos rfl]
  · rw [get?_upgrade, if_neg (by decide), if_neg (by decide)]
    exact Keyed.get?_erase_self sorted legacyVersionKey

/-- What a successful migration makes of a document. -/
structure Migration.Settles (v : Value) (r : Migration) : Prop where
  version : r.document.get? versionKey = some (wordValue schemaVersion)
  legacy : r.document.get? legacyVersionKey = none
  ascends : r.fromVersion ≤ r.toVersion
  others : ∀ k, k ≠ versionKey → k ≠ legacyVersionKey → k ≠ "updatedAt" →
    r.document.get? k = v.get? k
  date : r.migrated = false → r.document.get? "updatedAt" = v.get? "updatedAt"

theorem migrate_settles {now : Instant} {m : Members} {r : Migration}
    (sorted : Keyed.Sorted m) (h : migrate now (.object m) = .ok r) :
    r.Settles (.object m) ∧ ∃ d, r.document = .object d ∧ Settled d := by
  obtain ⟨m', hm, ⟨hversion, rfl⟩ | ⟨hversion, rfl⟩⟩ := migrate_cases h
  · cases hm
    have hsettled := settled_respellVersion sorted hversion
    refine ⟨⟨hsettled.current, hsettled.legacy, le_refl _, ?_, ?_⟩, _, rfl, hsettled⟩
    · intro k hk hk' _
      exact get?_respellVersion hk hk' m
    · intro _
      exact get?_respellVersion (by decide) (by decide) m
  · cases hm
    have hsettled := settled_upgrade now sorted
    refine ⟨⟨hsettled.current, hsettled.legacy, Nat.zero_le _, ?_, nofun⟩, _, rfl, hsettled⟩
    intro k hk hk' hdate
    show Keyed.get? k (upgrade now 0 m) = _
    rw [get?_upgrade, if_neg (Ne.symm hdate), if_neg (Ne.symm hk)]
    exact Keyed.get?_erase_of_ne hk' m

/-! ## §4. Typed documents. -/

/-- A migration that ran a step, as at another clock reading. -/
def Migration.restamped (t : Instant) (r : Migration) : Migration :=
  { r with document :=
      match r.migrated, r.document with
      | true, .object m => .object (Keyed.insert "updatedAt" (.text t.stamp) m)
      | _, v => v }

theorem storedVersion_fields (w : Workspace) :
    storedVersion (Keyed.ofList w.fields) = .ok w.schemaVersion.toNat :=
  storedVersion_eq_ok_iff.mpr (.current (w.get?_fields versionKey) (Or.inr rfl))

/-- Another value under a key does not matter to the other keys. -/
theorem get?_replaced {l k : String} (h : l ≠ k) (before after : Members) (v w : Value) :
    Keyed.get? k (before ++ (l, v) :: after) = Keyed.get? k (before ++ (l, w) :: after) := by
  induction before with
  | nil => rw [List.nil_append, List.nil_append, Keyed.get?, Keyed.get?, if_neg h, if_neg h]
  | cons p rest ih =>
      obtain ⟨j, u⟩ := p
      rw [List.cons_append, List.cons_append, Keyed.get?, Keyed.get?, ih]

theorem sorted_upgrade (now : Instant) {m : Members} (h : Keyed.Sorted m) :
    Keyed.Sorted (upgrade now 0 m) :=
  ((h.erase legacyVersionKey).insert versionKey (wordValue schemaVersion)).insert "updatedAt"
    (.text now.stamp)

/-- Stamping a typed document and stamping its data is the same. -/
theorem fields_upgrade (t now : Instant) (w : Workspace) :
    Keyed.ofList (({ w with schemaVersion := Dashboard.schemaVersion } : Workspace).touch t).fields
      = (upgrade now 0 (Keyed.ofList w.fields)).insert "updatedAt" (.text t.stamp) := by
  have hsorted := Keyed.sorted_ofList w.fields
  refine Keyed.ext_of_sorted (Keyed.sorted_ofList _) ((sorted_upgrade now hsorted).insert _ _)
    fun k => ?_
  rw [Workspace.get?_fields, Keyed.get?_insert, get?_upgrade, Keyed.get?_erase hsorted,
    Workspace.get?_fields]
  by_cases hdate : "updatedAt" = k
  · rw [if_pos hdate, ← hdate]
    rfl
  rw [if_neg hdate, if_neg hdate]
  by_cases hversion : versionKey = k
  · rw [if_pos hversion, ← hversion]
    rfl
  rw [if_neg hversion]
  by_cases hlegacy : legacyVersionKey = k
  · rw [if_pos hlegacy, ← hlegacy]
    rfl
  -- every other key has the same field in both tables
  rw [if_neg hlegacy]
  calc Keyed.get? k (({ w with schemaVersion := Dashboard.schemaVersion } : Workspace).touch
          t).fields
      = Keyed.get? k (w.fields.take 6 ++ [(versionKey, wordValue Dashboard.schemaVersion)]) :=
        get?_replaced hdate (w.fields.take 5) _ (.text t.stamp) (.text w.updatedAt)
    _ = Keyed.get? k w.fields := get?_replaced hversion (w.fields.take 6) [] _ _

/-- **A typed document is migrated as its data is**, whatever the two clock
readings. -/
theorem Workspace.migrate_eq (t now : Instant) (w : Workspace) :
    w.migrate t = (Dashboard.migrate now w.asValue).map (Migration.restamped t) := by
  have hversion := storedVersion_fields w
  show _ = (Dashboard.migrate now (.object (Keyed.ofList w.fields))).map _
  unfold Workspace.migrate
  dsimp only
  by_cases hnew : Dashboard.schemaVersion < w.schemaVersion
  · rw [if_pos hnew, migrate_of_newer now hversion (UInt32.lt_iff_toNat_lt.mp hnew)]
    rfl
  rw [if_neg hnew]
  by_cases hold : w.schemaVersion < Dashboard.schemaVersion
  · have hzero : w.schemaVersion.toNat = 0 :=
      Nat.lt_one_iff.mp (UInt32.lt_iff_toNat_lt.mp hold)
    rw [hzero] at hversion
    rw [if_pos hold, migrate_of_older now hversion, hzero]
    show _ = Except.ok (⟨.object ((upgrade now 0 (Keyed.ofList w.fields)).insert "updatedAt"
      (.text t.stamp)), _, _, _, _⟩ : Migration)
    rw [← fields_upgrade]
    rfl
  · have hcurrent : w.schemaVersion = Dashboard.schemaVersion :=
      UInt32.le_antisymm (UInt32.not_lt.mp hnew) (UInt32.not_lt.mp hold)
    have hdata : Dashboard.migrate now (.object (Keyed.ofList w.fields)) = _ :=
      w.migrate_asValue now hcurrent
    rw [if_neg hold, hdata, hcurrent]
    rfl

/-! ## §5. All entry points. -/

/-- **Migration settles every document that it accepts, and its entry points
agree.**  It accepts the objects of a supported version; gives the current
version under the current key alone, touching nothing else but the date of
change where a step ran; finds nothing left to do in the result; runs a step
exactly where one is said to be needed; and treats a typed document as it does
its data, up to the stamp of the clock. -/
theorem migration_settles (now : Instant) (v : Value)
    (sorted : ∀ m, v = .object m → Keyed.Sorted m) :
    ((∃ r, migrate now v = .ok r) ↔
      ∃ m n, v = .object m ∧ RecordsVersion m n ∧ n ≤ schemaVersion.toNat) ∧
    (∀ r, migrate now v = .ok r → r.Settles v ∧
      ∀ later, migrate later r.document = .ok ⟨r.document, false, schemaVersion.toNat,
        schemaVersion.toNat, []⟩) ∧
    (needsMigration v = true ↔ ∃ r, migrate now v = .ok r ∧ r.migrated = true) ∧
    (∀ (w : Workspace) (t : Instant),
      w.migrate t = (migrate now w.asValue).map (Migration.restamped t)) := by
  refine ⟨migrate_isOk_iff now v, ?_, needsMigration_iff now v, fun w t => w.migrate_eq t now⟩
  intro r h
  obtain ⟨m, rfl, -⟩ := migrate_cases h
  obtain ⟨hsettles, d, hd, hsettled⟩ := migrate_settles (sorted m rfl) h
  refine ⟨hsettles, fun later => ?_⟩
  rw [hd]
  exact migrate_of_settled later hsettled

/-- The data of a document that spells its version the older way. -/
def respelledDesk : Value :=
  .object [("name", .text "Desk"), ("schema_version", .ofNat 0), ("updatedAt", .text "0")]

theorem respelledDesk_settles :
    ∃ r, migrate ⟨0⟩ respelledDesk = .ok r ∧ r.migrated = true ∧ r.Settles respelledDesk ∧
      migrate ⟨7⟩ r.document = .ok ⟨r.document, false, 1, 1, []⟩ ∧
      needsMigration respelledDesk = true := by
  have sorted : ∀ m, respelledDesk = .object m → Keyed.Sorted m := by
    intro m hm
    cases hm
    decide
  obtain ⟨-, hresult, hneeds, -⟩ := migration_settles ⟨0⟩ respelledDesk sorted
  have hneeded : needsMigration respelledDesk = true := by decide
  obtain ⟨r, hr, hmigrated⟩ := hneeds.mp hneeded
  exact ⟨r, hr, hmigrated, (hresult r hr).1, (hresult r hr).2 ⟨7⟩, hneeded⟩

end Dashboard
