/-
  Dashboard.Proofs.Session.Separation
  ───────────────────────────────────
  **WHAT IS STORED UNDER OTHER KEYS STAYS AS IT IS.**

  `Confined` says under which keys a call may change what is stored.  It holds
  of every call of a store, whichever calls of the backend fail and whatever
  the backend holds, a file that cannot be read included, and it adds up along
  a sequence of calls.  What one call leaves of the slots of the others is then
  a question about the keys alone.

  The problems of a configuration answer only a part of it: they speak of the
  draft and the committed document, and the stored filters may take the slot
  of either.

  Main results:
    confined_commit, confined_openAt — what the calls may change
    slots_separated_iff — when an accepted configuration keeps its slots apart
    shared_slot_loses_workspace — a workspace that is written over by filters
-/
import Dashboard.Config
import Dashboard.Proofs.Session.Kept

namespace Dashboard

open Time

/-! ## §1. What a call may change. -/

namespace Store

/-- A store that went on from another one, and stored nothing but under these
keys. -/
structure Confined (under : List String) (s s' : Store) : Prop where
  keys : s'.keys = s.keys
  faults : s'.backend.faults = s.backend.faults
  texts : ∀ key ∉ under, s'.backend.medium.text? key = s.backend.medium.text? key

variable {s s' s'' : Store} {under more : List String}

theorem Confined.refl (under : List String) (s : Store) : Confined under s s :=
  ⟨rfl, rfl, fun _ _ => rfl⟩

theorem Confined.trans (h : Confined under s s') (h' : Confined more s' s'') :
    Confined (under ++ more) s s'' := by
  refine ⟨h'.keys.trans h.keys, h'.faults.trans h.faults, ?_⟩
  intro key hkey
  rw [List.mem_append, not_or] at hkey
  rw [h'.texts key hkey.2, h.texts key hkey.1]

theorem confined_write (s : Store) (key text : String) :
    Confined [key] s (s.write key text).2 := by
  refine ⟨rfl, Backend.set_faults s.backend key text, ?_⟩
  intro k hk
  exact Backend.text?_set_of_ne fun heq => hk (List.mem_singleton.mpr heq)

theorem confined_clearDraft (s : Store) : Confined [s.keys.draft] s s.clearDraft.2 := by
  refine ⟨rfl, Backend.remove_faults s.backend s.keys.draft, ?_⟩
  intro k hk
  exact Backend.text?_remove_of_ne fun heq => hk (List.mem_singleton.mpr heq)

/-- **A commit** changes the committed slot and the draft's. -/
theorem confined_commit (s : Store) (now : Instant) (w : Workspace) :
    Confined [s.keys.committed, s.keys.draft] s (s.commit now w).2 := by
  have hwrite := confined_write s s.keys.committed (committedForm now w).compactText
  unfold commit
  dsimp only
  split
  next e s' hfailed =>
    rw [hfailed] at hwrite
    exact hwrite.trans (.refl [s.keys.draft] s')
  next s' hdone =>
    rw [hdone] at hwrite
    have hclear := confined_clearDraft s'
    rw [hwrite.keys] at hclear
    exact hwrite.trans hclear

/-- **A load** changes the draft's slot at most. -/
theorem confined_load (s : Store) (now : Instant) :
    Confined [s.keys.draft] s (s.load now).2 := by
  rcases load_store s now with hsame | hcleared
  · rw [hsame]
    exact .refl _ s
  · rw [hcleared]
    exact confined_clearDraft s

/-- **An opening** changes the slots of the draft and of the filters. -/
theorem confined_openAt (s : Store) (registry : Registry) (settings : SessionSettings)
    (route : Route) (now : Instant) :
    Confined [s.keys.draft, s.keys.preferences] s
      (Session.openAt s registry settings route now).store := by
  have hload := confined_load
    { s with options := sessionOptions registry settings } now
  cases hr : load { s with options := sessionOptions registry settings } now with
  | mk r loaded =>
      rw [hr] at hload
      have hsave := confined_write loaded loaded.keys.preferences
        (loaded.loadPreferences.mergedWith route.filters).toStored
      have hkeys : loaded.keys = s.keys := hload.keys
      have hunder : [s.keys.draft, s.keys.preferences]
          = [s.keys.draft] ++ [loaded.keys.preferences] := by
        rw [hkeys]
        rfl
      rw [Session.openAt_of_load hr, hunder]
      have hboth := hload.trans hsave
      -- the options of the session are not part of what is stored
      exact ⟨hboth.keys, hboth.faults, hboth.texts⟩

/-- A document stays readable where its slot is spared. -/
theorem readSlot_of_confined (h : Confined under s s') (hoptions : s'.options = s.options)
    {key : String} (hkey : key ∉ under) {now : Instant} {w : Workspace}
    (hw : (s.readSlot now key).workspace = some w) :
    (s'.readSlot now key).workspace = some w := by
  unfold readSlot at hw
  split at hw
  next => cases hw
  next => cases hw
  next text hget =>
    -- the same text is found under the key, and is read by the same options
    obtain ⟨hfaults, htext⟩ := Backend.get_eq_text.mp hget
    have hget' : s'.backend.get key = .ok (some text) :=
      Backend.get_eq_text.mpr ⟨h.faults ▸ hfaults, (h.texts key hkey).trans htext⟩
    unfold readSlot
    rw [hget']
    dsimp only
    unfold readText at hw ⊢
    rw [hoptions]
    exact hw

end Store

/-! ## §2. Slots that are kept. -/

/-- What it means that three slots are kept apart: opening a session leaves
the committed text as it is; writing the filters changes only their slot and
makes no document unreadable, saving a draft changes only the draft's slot, and
a commit leaves the filters alone.  The slots are named by what they are for,
so two of them with one key count as two. -/
structure StorageKeys.Separated (keys : StorageKeys) : Prop where
  opening : ∀ s : Store, s.keys = keys → ∀ registry settings route now,
    (Session.openAt s registry settings route now).store.backend.medium.text? keys.committed
      = s.backend.medium.text? keys.committed
  preferences : ∀ s : Store, s.keys = keys → ∀ f key,
    key ∈ [keys.draft, keys.committed] ∨ key ≠ keys.preferences →
      (s.savePreferences f).2.backend.medium.text? key = s.backend.medium.text? key
  readable : ∀ s : Store, s.keys = keys → ∀ f, ∀ key ∈ [keys.draft, keys.committed], ∀ now w,
    (s.readSlot now key).workspace = some w →
      ((s.savePreferences f).2.readSlot now key).workspace = some w
  draft : ∀ s : Store, s.keys = keys → ∀ w key,
    key ∈ [keys.committed, keys.preferences] ∨ key ≠ keys.draft →
      (s.saveDraft w).2.backend.medium.text? key = s.backend.medium.text? key
  commit : ∀ s : Store, s.keys = keys → ∀ now w key,
    key = keys.preferences ∨ key ∉ [keys.committed, keys.draft] →
      (s.commit now w).2.backend.medium.text? key = s.backend.medium.text? key

/-- Slots are kept apart if their keys differ. -/
theorem StorageKeys.Apart.separated {keys : StorageKeys} (apart : keys.Apart) :
    keys.Separated := by
  obtain ⟨hdraft, hdraft', hcommitted⟩ := apart
  have hdocuments : ∀ key ∈ [keys.draft, keys.committed], key ∉ [keys.preferences] := by
    simp [hdraft', hcommitted]
  have hothers : ∀ key ∈ [keys.committed, keys.preferences], key ∉ [keys.draft] := by
    simp [hdraft.symm, hdraft'.symm]
  refine ⟨?_, ?_, ?_, ?_, ?_⟩
  · rintro s rfl registry settings route now
    refine (Store.confined_openAt s registry settings route now).texts _ ?_
    simp [hdraft.symm, hcommitted]
  · rintro s rfl f key hkey
    refine (Store.confined_write s s.keys.preferences f.toStored).texts key ?_
    rcases hkey with hslot | hother
    · exact hdocuments key hslot
    · exact fun hmem => hother (List.mem_singleton.mp hmem)
  · rintro s rfl f key hkey now w hw
    exact Store.readSlot_of_confined (Store.confined_write s s.keys.preferences f.toStored) rfl
      (hdocuments key hkey) hw
  · rintro s rfl w key hkey
    refine (Store.confined_write s s.keys.draft w.compactText).texts key ?_
    rcases hkey with hslot | hother
    · exact hothers key hslot
    · exact fun hmem => hother (List.mem_singleton.mp hmem)
  · rintro s rfl now w key hkey
    refine (Store.confined_commit s now w).texts key ?_
    rcases hkey with rfl | hother
    · simp [hdraft'.symm, hcommitted.symm]
    · exact hother

/-- Filters that are written to an empty memory are found under their key. -/
theorem StorageKeys.Separated.preferences_ne {keys : StorageKeys} (h : keys.Separated) :
    ∀ key ∈ [keys.draft, keys.committed], keys.preferences ≠ key := by
  rintro key hkey rfl
  have hsame := h.preferences ⟨.inMemory, keys, .ofMode .safe⟩ rfl .none _ (Or.inl hkey)
  have hdone : (Backend.inMemory.set keys.preferences Filters.none.toStored).1 = .ok () := rfl
  have hwritten : (Store.savePreferences ⟨.inMemory, keys, .ofMode .safe⟩
      .none).2.backend.medium.text? keys.preferences = some Filters.none.toStored :=
    Backend.text?_set hdone
  rw [hwritten] at hsame
  cases hsame

/-! ## §3. Accepted configurations. -/

theorem Config.draft_ne_committed {c : Config} (accepted : c.problems = []) :
    c.storage.keys.draft ≠ c.storage.keys.committed := by
  intro heq
  have hshared : ConfigProblem.sharedKey c.storage.keys.draft ∈ c.problems := by
    simp [Config.problems, distinctKeys, heq]
  rw [accepted] at hshared
  cases hshared

/-- **When an accepted configuration keeps its slots apart.**  Nothing that is
checked keeps the key of the filters from being the key of a document, and
then the document is written over. -/
theorem Config.slots_separated_iff {c : Config} (accepted : c.problems = []) :
    c.storage.keys.Separated ↔ c.storage.keys.preferences ≠ c.storage.keys.draft ∧
      c.storage.keys.preferences ≠ c.storage.keys.committed := by
  constructor
  · intro h
    exact ⟨h.preferences_ne _ (by simp), h.preferences_ne _ (by simp)⟩
  · rintro ⟨hdraft, hcommitted⟩
    have apart : c.storage.keys.Apart :=
      ⟨c.draft_ne_committed accepted, hdraft.symm, hcommitted.symm⟩
    exact apart.separated

/-- The usual configuration keeps its slots apart. -/
theorem Config.standard_slots_separated : Config.standard.storage.keys.Separated :=
  (Config.slots_separated_iff Config.problems_standard).mpr ⟨by decide, by decide⟩

/-- A configuration whose filters go to the committed document's slot. -/
def Config.sharing : Config :=
  { Config.standard with storage := { StorageSettings.standard with keys :=
      { StorageKeys.standard with preferences := StorageKeys.standard.committed } } }

/-- A desk with one page. -/
def plainDesk : Workspace :=
  ⟨"desk", "Desk", [.fresh "a" "A"], "a", "2024-01-01T00:00:00.000Z", "2024-01-01T00:00:00.000Z",
    schemaVersion⟩

/-- A session of that configuration on a store that holds the desk. -/
def Config.sharingSession : Session :=
  .openAt ⟨⟨.memory [(StorageKeys.standard.committed, plainDesk.compactText)], .none⟩,
    Config.sharing.storage.keys, .ofMode .safe⟩ .builtin .standard .empty ⟨0⟩

/-- **The missing check loses workspaces.**  The configuration is accepted; the
first session that is opened finds the document, and the next one finds none. -/
theorem Config.shared_slot_loses_workspace :
    Config.sharing.problems = [] ∧ Config.sharingSession.committed.isSome = true ∧
      (Session.openAt Config.sharingSession.store .builtin .standard .empty
        ⟨0⟩).committed.isSome = false := by
  decide +kernel

end Dashboard
