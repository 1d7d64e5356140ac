/-
  Dashboard.Proofs.Session.Preferences
  ────────────────────────────────────
  **WHAT A SESSION SHOWS OF ITS FILTERS, AND WHAT ITS STORE KEEPS.**

  The stored record writes an absent value as an empty text, and reading it
  back trims the texts: what was written comes back in its normal form.  A
  record is no document, so not even a draft's slot that shares the key gives
  it away when documents are loaded (`Store.Stores`).

  A run sets filters and opens the session anew, while any writes fail.  The
  store gives back the filters of the last call that was accepted.  The session
  itself does not: a call that is refused has already changed what is shown.

  Main results:
    ofStored_toStored     — a record is read back in normal form
    opened_of_stores      — an opening without a route keeps what is stored
    opened_again          — what a second opening changes
    stores_run            — what a run leaves of the stored filters
    filters_agree_iff     — **what is shown and stored after any run**
    refused_filters_shown — a refused call that shows
-/
import Dashboard.Proofs.Route
import Dashboard.Proofs.Session.Refusals
import Dashboard.Proofs.Session.Separation
import Dashboard.Proofs.Storage.Leftover

namespace Dashboard

open Json Text Time

/-! ## §1. The stored record. -/

namespace Filters

/-- Filters whose texts are trimmed. -/
structure Normal (f : Filters) : Prop where
  venue : ∀ s ∈ f.venue, Trimmed s
  bot : ∀ s ∈ f.bot, Trimmed s
  symbol : ∀ s ∈ f.symbol, Trimmed s

/-- The filters with their texts trimmed. -/
def normalized (f : Filters) : Filters :=
  ⟨normalizeValue f.venue, normalizeValue f.bot, normalizeValue f.symbol, f.timeRange⟩

variable {f g : Filters}

theorem Normal.normalized_eq (h : f.Normal) : f.normalized = f := by
  unfold normalized
  rw [normalizeValue_of_trimmed h.venue, normalizeValue_of_trimmed h.bot,
    normalizeValue_of_trimmed h.symbol]

theorem normalized_eq_self_iff : f.normalized = f ↔ f.Normal := by
  refine ⟨fun h => ?_, Normal.normalized_eq⟩
  -- a value that normalizing gives is trimmed
  have htrimmed : ∀ {x : Option String}, normalizeValue x = x → ∀ s ∈ x, Trimmed s :=
    fun hx s hs => trimmed_of_normalizeValue (hx.trans hs)
  exact ⟨htrimmed (congrArg venue h), htrimmed (congrArg bot h), htrimmed (congrArg symbol h)⟩

theorem normal_none : none.Normal := ⟨nofun, nofun, nofun⟩

theorem normal_ofRaw (venue bot symbol timeRange : Option String) :
    (ofRaw venue bot symbol timeRange).Normal where
  venue := fun _ h => trimmed_of_normalizeValue h
  bot := fun _ h => trimmed_of_normalizeValue h
  symbol := fun _ h => trimmed_of_normalizeValue h

theorem normal_ofStored (text : String) : (ofStored text).Normal := by
  unfold ofStored
  split
  next v _ => exact normal_ofRaw _ _ _ _
  next => exact normal_none

theorem Normal.mergedWith (hf : f.Normal) (hg : g.Normal) : (f.mergedWith g).Normal := by
  have hor : ∀ {x y : Option String}, (∀ s ∈ x, Trimmed s) → (∀ s ∈ y, Trimmed s) →
      ∀ s ∈ y.or x, Trimmed s := by
    intro x y hx hy s hs
    rcases Option.or_eq_some_iff.mp hs with hs | ⟨-, hs⟩
    · exact hy s hs
    · exact hx s hs
  exact ⟨hor hf.venue hg.venue, hor hf.bot hg.bot, hor hf.symbol hg.symbol⟩

/-- What is put above normal filters is all that can be amiss. -/
theorem Normal.mergedWith_iff (hf : f.Normal) : (f.mergedWith g).Normal ↔ g.Normal := by
  refine ⟨fun h => ?_, hf.mergedWith⟩
  have habove : ∀ {x y : Option String}, (∀ s ∈ y.or x, Trimmed s) → ∀ s ∈ y, Trimmed s :=
    fun hx s hs => hx s (Option.or_eq_some_iff.mpr (.inl hs))
  exact ⟨habove h.venue, habove h.bot, habove h.symbol⟩

/-- A value stands above the value it was put above before. -/
theorem normalizeValue_or {x : Option String} (hx : ∀ s ∈ x, Trimmed s) (y : Option String) :
    y.or (normalizeValue (y.or x)) = y.or x := by
  cases y with
  | none => exact normalizeValue_of_trimmed hx
  | some s => rfl

/-- Merging once more changes nothing. -/
theorem Normal.mergedWith_again (h : f.Normal) (g : Filters) :
    (f.mergedWith g).normalized.mergedWith g = f.mergedWith g := by
  have hrange : g.timeRange.or (g.timeRange.or f.timeRange) = g.timeRange.or f.timeRange := by
    cases g.timeRange <;> rfl
  unfold Filters.mergedWith normalized
  dsimp only
  rw [normalizeValue_or h.venue, normalizeValue_or h.bot, normalizeValue_or h.symbol, hrange]

theorem readNormal_toStored (f : Filters) : readNormal f.toStored = some f.toRecord := by
  have hdepth : f.toRecord.depth ≤ nestingLimit := Nat.le_of_ble_eq_true rfl
  have hkeys : ["bot", "symbol", "timeRange", "venue"].Pairwise (· < ·) := by decide
  have hsorted : Keyed.Sorted [("bot", Value.text (f.bot.getD "")),
      ("symbol", .text (f.symbol.getD "")),
      ("timeRange", .text ((f.timeRange.map TimeRange.token).getD "")),
      ("venue", .text (f.venue.getD ""))] := List.pairwise_map.mp hkeys
  have hnormal : f.toRecord.isNormal = true :=
    Bool.and_eq_true_iff.mpr ⟨decide_eq_true hsorted, rfl⟩
  rw [toStored, readNormal_compact rfl hdepth, Value.normalize_of_normal _ hnormal]

/-- An absent value is stored as an empty text, which is read as absent. -/
theorem normalizeValue_getD (x : Option String) : normalizeValue (some (x.getD "")) =
    normalizeValue x := by
  cases x <;> rfl

/-- **A record is read back in normal form.** -/
theorem ofStored_toStored (f : Filters) : ofStored f.toStored = f.normalized := by
  have hrange : (some ((f.timeRange.map TimeRange.token).getD "")).bind TimeRange.ofToken? =
      f.timeRange := by
    cases f.timeRange with
    | none => rfl
    | some range => exact range.ofToken?_token
  rw [ofStored, readNormal_toStored]
  show ofRaw (some (f.venue.getD "")) (some (f.bot.getD "")) (some (f.symbol.getD ""))
    (some ((f.timeRange.map TimeRange.token).getD "")) = f.normalized
  unfold ofRaw normalized
  rw [normalizeValue_getD, normalizeValue_getD, normalizeValue_getD, hrange]

/-- A record is no document: it has no id. -/
theorem parse_toStored (o : ValidationOptions) (now : Instant) (f : Filters) :
    parseAndValidate o now f.toStored =
      .error (.schema (.blankText "id") (Path.root.key "id")) := by
  rw [parseAndValidate, readNormal_toStored]
  rfl

end Filters

/-! ## §2. The store. -/

/-- Calls that fail, none of which is a read. -/
structure WriteFaults where
  schedule : StorageFaults
  readable : ∀ key, schedule .get key = none

/-- No call fails. -/
def WriteFaults.none : WriteFaults := ⟨.none, fun _ => rfl⟩

namespace Store

variable {s : Store} {f : Filters}

/-- The filters in the text under the key of the filters. -/
def stored (s : Store) : Filters :=
  match s.backend.medium.text? s.keys.preferences with
  | some text => .ofStored text
  | none => .none

theorem loadPreferences_of_readable (h : s.backend.faults .get s.keys.preferences = none) :
    s.loadPreferences = s.stored := by
  unfold loadPreferences stored Medium.text? Backend.get
  rw [h]
  dsimp only
  cases s.backend.medium.get s.keys.preferences with
  | ok text => cases text <;> rfl
  | error e => rfl

/-- The text under the key of the filters is their record. -/
def Records (s : Store) (f : Filters) : Prop :=
  s.backend.medium.text? s.keys.preferences = some f.toStored

theorem Records.stored_eq (h : s.Records f) : s.stored = f.normalized := by
  rw [stored, (h : _ = some f.toStored)]
  exact f.ofStored_toStored

theorem records_of_save (h : (s.savePreferences f).1 = .ok ()) :
    (s.savePreferences f).2.Records f := Backend.text?_set h

/-- A write that fails leaves everything as it was. -/
theorem savePreferences_of_error {e : StorageError} (h : (s.savePreferences f).1 = .error e) :
    (s.savePreferences f).2 = s := by
  have hbackend : (s.savePreferences f).2.backend = s.backend := Backend.set_error h
  show ({ s with backend := (s.savePreferences f).2.backend } : Store) = s
  rw [hbackend]

/-- A slot with a record in it gives no document. -/
theorem readSlot_of_record {key : String}
    (h : s.backend.medium.text? key = some f.toStored) (now : Instant) :
    (s.readSlot now key).workspace = none := by
  by_contra hfound
  obtain ⟨text, hget, hread⟩ := text_of_readSlot hfound
  cases h.symm.trans (Backend.get_eq_text.mp hget).2
  rw [hread, f.parse_toStored] at hfound
  exact hfound rfl

theorem load_of_no_draft {now : Instant} (h : (s.loadDraft now).workspace = none) :
    (s.load now).2 = s := by
  unfold load reconcile
  rw [h]
  cases (s.loadCommitted now).workspace <;> rfl

/-- Loading documents leaves the text under the key of the filters alone: it is
not the draft's key, or there is a record under it. -/
def Spared (s : Store) : Prop := s.keys.draft ≠ s.keys.preferences ∨ ∃ f, s.Records f

theorem Spared.text?_load (h : s.Spared) (now : Instant) :
    (s.load now).2.backend.medium.text? s.keys.preferences
      = s.backend.medium.text? s.keys.preferences := by
  by_cases hkeys : s.keys.draft = s.keys.preferences
  · obtain ⟨f, hrecord⟩ := h.resolve_left (not_not.mpr hkeys)
    have hdraft : s.backend.medium.text? s.keys.draft = some f.toStored := hkeys ▸ hrecord
    rw [load_of_no_draft (readSlot_of_record hdraft now)]
  · refine (confined_load s now).texts _ fun hmem => ?_
    exact hkeys (List.mem_singleton.mp hmem).symm

theorem Records.load (h : s.Records f) (now : Instant) : (s.load now).2.Records f := by
  rw [Records, (confined_load s now).keys, Spared.text?_load (Or.inr ⟨f, h⟩)]
  exact h

/-- Filters that are stored, and that loading documents leaves alone. -/
structure Stores (s : Store) (f : Filters) : Prop where
  normal : f.Normal
  stored : s.stored = f
  spared : s.Spared

theorem Stores.during (h : s.Stores f) (faults : WriteFaults) :
    (s.during faults.schedule).Stores f := ⟨h.normal, h.stored, h.spared⟩

theorem stores_of_records (normal : f.Normal) (h : s.Records f) : s.Stores f :=
  ⟨normal, h.stored_eq.trans normal.normalized_eq, Or.inr ⟨f, h⟩⟩

theorem normal_stored (s : Store) : s.stored.Normal := by
  unfold stored
  split
  next text _ => exact Filters.normal_ofStored text
  next => exact Filters.normal_none

theorem Stores.load (h : s.Stores f) (now : Instant) : (s.load now).2.Stores f := by
  have hkeys := (confined_load s now).keys
  refine ⟨h.normal, ?_, h.spared.imp (fun hne => hkeys ▸ hne) ?_⟩
  · rw [← h.stored, Store.stored, Store.stored, hkeys, h.spared.text?_load]
  · rintro ⟨g, hrecord⟩
    exact ⟨g, hrecord.load now⟩

/-- Writing the filters that are stored anyway changes nothing, whether or not
the write succeeds. -/
theorem Stores.save (h : s.Stores f) : (s.savePreferences f).2.Stores f := by
  cases hsave : (s.savePreferences f).1 with
  | ok u => exact stores_of_records h.normal (records_of_save hsave)
  | error e =>
      rw [savePreferences_of_error hsave]
      exact h

theorem Records.save (h : s.Records f) : (s.savePreferences f).2.Records f := by
  cases hsave : (s.savePreferences f).1 with
  | ok u => exact records_of_save hsave
  | error e =>
      rw [savePreferences_of_error hsave]
      exact h

end Store

/-! ## §3. Opening. -/

namespace Session

variable {store : Store} {registry : Registry} {settings : SessionSettings} {route : Route}
  {now : Instant} {f : Filters} {s : Session}

/-- A store with its documents loaded, before an opening writes the filters. -/
def loadedStore (store : Store) (registry : Registry) (settings : SessionSettings)
    (now : Instant) : Store :=
  (({ store with options := sessionOptions registry settings } : Store).load now).2

/-- How an opening writes its filters. -/
def openingWrite (store : Store) (registry : Registry) (settings : SessionSettings)
    (route : Route) (now : Instant) : Except StorageError Unit × Store :=
  let loaded := loadedStore store registry settings now
  loaded.savePreferences (loaded.loadPreferences.mergedWith route.filters)

theorem openAt_filters (store : Store) (registry : Registry) (settings : SessionSettings)
    (route : Route) (now : Instant) : (openAt store registry settings route now).filters =
      (loadedStore store registry settings now).loadPreferences.mergedWith route.filters := rfl

theorem loadPreferences_loadedStore
    (readable : store.backend.faults .get store.keys.preferences = none) :
    (loadedStore store registry settings now).loadPreferences
      = (loadedStore store registry settings now).stored := by
  have hload := Store.confined_load
    ({ store with options := sessionOptions registry settings } : Store) now
  refine Store.loadPreferences_of_readable ?_
  rw [loadedStore, hload.faults, hload.keys]
  exact readable

theorem stores_loadedStore (h : store.Stores f) :
    (loadedStore store registry settings now).Stores f := by
  have hoptions : ({ store with options := sessionOptions registry settings } : Store).Stores f :=
    ⟨h.normal, h.stored, h.spared⟩
  exact hoptions.load now

theorem records_loadedStore (h : store.Records f) :
    (loadedStore store registry settings now).Records f := by
  have hoptions : ({ store with options := sessionOptions registry settings } : Store).Records f :=
    h
  exact hoptions.load now

/-- **An opening without a route** gives the stored filters and keeps them,
whether or not its write succeeds. -/
theorem opened_of_stores (h : store.Stores f)
    (readable : store.backend.faults .get store.keys.preferences = none) :
    (openAt store registry settings .empty now).filters = f ∧
      (openAt store registry settings .empty now).store.Stores f := by
  have hloaded : (loadedStore store registry settings now).Stores f := stores_loadedStore h
  have hfilters : (loadedStore store registry settings now).loadPreferences = f :=
    (loadPreferences_loadedStore readable).trans hloaded.stored
  refine ⟨hfilters, ?_⟩
  show ((loadedStore store registry settings now).savePreferences
    (loadedStore store registry settings now).loadPreferences).2.Stores f
  rw [hfilters]
  exact hloaded.save

/-- An opening merges the route's filters into those on record. -/
theorem filters_of_records (h : store.Records f)
    (readable : store.backend.faults .get store.keys.preferences = none) :
    (openAt store registry settings route now).filters = f.normalized.mergedWith route.filters := by
  rw [openAt_filters, loadPreferences_loadedStore readable, (records_loadedStore h).stored_eq]

/-- An opening that shows the filters on record keeps them there. -/
theorem records_of_records (h : store.Records f)
    (hsame : (openAt store registry settings route now).filters = f) :
    (openAt store registry settings route now).store.Records f := by
  rw [openAt_filters] at hsame
  show ((loadedStore store registry settings now).savePreferences
    ((loadedStore store registry settings now).loadPreferences.mergedWith
      route.filters)).2.Records f
  rw [hsame]
  exact (records_loadedStore h).save

/-- **After an opening that writes its filters**, an opening at any route merges
that route's filters into the normal form of what was written.  At the same
route nothing changes, and without one nothing does exactly if the texts of the
first route are trimmed. -/
theorem opened_again (readable : store.backend.faults .get store.keys.preferences = none)
    (hwrite : (openingWrite store registry settings route now).1 = .ok ()) (again : Route)
    (faults : WriteFaults) (later : Instant) :
    let opened := openAt store registry settings route now
    let after := openAt (opened.store.during faults.schedule) registry settings again later
    after.filters = opened.filters.normalized.mergedWith again.filters ∧
      (after.filters = opened.filters → after.store.Records opened.filters) ∧
      (again = route → after.filters = opened.filters) ∧
      (again = .empty → (after.filters = opened.filters ↔ route.filters.Normal)) := by
  intro opened after
  have hrecords : (opened.store.during faults.schedule).Records opened.filters :=
    Store.records_of_save hwrite
  have hstored : (loadedStore store registry settings now).stored.Normal := Store.normal_stored _
  have hopened : opened.filters
      = (loadedStore store registry settings now).stored.mergedWith route.filters := by
    rw [openAt_filters, loadPreferences_loadedStore readable]
  have hafter : after.filters = opened.filters.normalized.mergedWith again.filters :=
    filters_of_records hrecords (faults.readable _)
  refine ⟨hafter, records_of_records hrecords, ?_, ?_⟩
  · rintro rfl
    rw [hafter, hopened]
    exact hstored.mergedWith_again _
  · rintro rfl
    have hnormalized : after.filters = opened.filters.normalized := hafter
    rw [hnormalized, Filters.normalized_eq_self_iff, hopened]
    exact hstored.mergedWith_iff

/-! ## §4. Runs. -/

/-- What is done in a run: the filters are set, or the session is opened anew
without a route. -/
inductive FilterCall where
  | set (filters : Filters) (normal : filters.Normal)
  | reopen (now : Instant)

/-- A step of a run, and the writes that fail meanwhile. -/
structure FilterStep where
  call : FilterCall
  faults : WriteFaults

/-- The session opened anew without a route. -/
def reopened (s : Session) (faults : WriteFaults) (now : Instant) : Session :=
  openAt (s.store.during faults.schedule) s.registry s.settings .empty now

/-- A step with its answer. -/
def take (s : Session) (x : FilterStep) : SessionResult Unit :=
  match x.call with
  | .set filters _ => (s.during x.faults.schedule).setFilters filters
  | .reopen now => (.ok (), s.reopened x.faults now)

/-- The session after a run. -/
def run (s : Session) (steps : List FilterStep) : Session :=
  steps.foldl (fun s x => (s.take x).2) s

/-- The filters that a step has set, if it was accepted. -/
def accepted? (s : Session) (x : FilterStep) : Option Filters :=
  match x.call with
  | .set filters _ => (s.take x).1.toOption.map fun _ => filters
  | .reopen _ => none

theorem accepted?_set (s : Session) (f : Filters) (normal : f.Normal) (faults : WriteFaults) :
    s.accepted? ⟨.set f normal, faults⟩ =
      ((s.during faults.schedule).setFilters f).1.toOption.map fun _ => f := rfl

/-- The filters that were set last, of those that were accepted. -/
def lastAccepted? (s : Session) : List FilterStep → Option Filters
  | [] => none
  | x :: rest => (lastAccepted? (s.take x).2 rest).or (s.accepted? x)

/-- Setting filters is their write, and showing them. -/
theorem setFilters_eq (s : Session) (f : Filters) : s.setFilters f =
    ((s.store.savePreferences f).1.mapError .storage,
      { s with filters := f, store := (s.store.savePreferences f).2 }) := rfl

theorem setFilters_ok (h : (s.setFilters f).1 = .ok ()) :
    (s.store.savePreferences f).1 = .ok () := by
  rw [setFilters_eq] at h
  cases hsave : (s.store.savePreferences f).1 with
  | ok u => rfl
  | error e =>
      rw [hsave] at h
      cases h

/-- **One step**: what is stored are the filters that it set, if it was
accepted, or those that were stored before. -/
theorem stores_take {x : FilterStep} {before : Option Filters}
    (h : ∀ f ∈ before, s.store.Stores f) :
    ∀ f ∈ (s.accepted? x).or before, (s.take x).2.store.Stores f := by
  obtain ⟨call, faults⟩ := x
  intro f hf
  cases call with
  | set g normal =>
      cases hanswer : ((s.during faults.schedule).setFilters g).1 with
      | ok u =>
          have haccepted : s.accepted? ⟨.set g normal, faults⟩ = some g := by
            rw [accepted?_set, hanswer]
            rfl
          rw [haccepted] at hf
          cases hf
          exact Store.stores_of_records normal (Store.records_of_save (setFilters_ok hanswer))
      | error e =>
          have hrefused : s.accepted? ⟨.set g normal, faults⟩ = none := by
            rw [accepted?_set, hanswer]
            rfl
          rw [hrefused] at hf
          show ((s.during faults.schedule).setFilters g).2.store.Stores f
          rw [setFilters_of_error hanswer]
          exact (h f hf).during faults
  | reopen now => exact (opened_of_stores ((h f hf).during faults) (faults.readable _)).2

/-- **A run**: what is stored are the filters that were accepted last. -/
theorem stores_run (steps : List FilterStep) (start : Option Filters)
    (h : ∀ f ∈ start, s.store.Stores f) :
    ∀ f ∈ (s.lastAccepted? steps).or start, (s.run steps).store.Stores f := by
  induction steps generalizing s start with
  | nil => exact h
  | cons x rest ih =>
      rw [lastAccepted?, Option.or_assoc]
      exact ih _ (stores_take h)

/-- A session on stored filters shows them when it is opened anew. -/
theorem filters_reopened (h : s.store.Stores f) (faults : WriteFaults) (now : Instant) :
    (s.reopened faults now).filters = f :=
  (opened_of_stores (h.during faults) (faults.readable _)).1

/-! ## §5. What is shown and what is stored. -/

/-- **Filters and what is stored of them.**  After any run of calls that set
filters and of openings without a route, whichever writes fail:

* a session opened anew shows the filters that were accepted last; where none
  were, and the draft has a key of its own, those that were stored at first;
* a call that is accepted shows its filters and stores them; one that is refused
  leaves what is stored, and leaves what is shown exactly if its filters were
  shown before.

And an opening at a route that writes its filters stores the merge of the two,
field by field.  An opening after it at any route merges that route's filters
into the normal form of these, and where it shows the same it stores the same:
at the same route always, and without a route exactly if the texts of the first
route are trimmed. -/
theorem filters_agree_iff (s : Session) (steps : List FilterStep) :
    (∀ f ∈ s.lastAccepted? steps, ∀ faults now, ((s.run steps).reopened faults now).filters = f) ∧
    (s.store.keys.draft ≠ s.store.keys.preferences → s.lastAccepted? steps = none →
      ∀ faults now, ((s.run steps).reopened faults now).filters = s.store.stored) ∧
    (∀ (f : Filters) (normal : f.Normal) (faults : WriteFaults),
      let last := s.run steps
      let r := last.take ⟨.set f normal, faults⟩
      (r.1 = .ok () → r.2.filters = f ∧ ∀ faults now, (r.2.reopened faults now).filters = f) ∧
      ∀ e, r.1 = .error e →
        (∀ faults now, (r.2.reopened faults now).filters = (last.reopened faults now).filters) ∧
        (r.2.filters = last.filters ↔ f = last.filters)) ∧
    ∀ (store : Store) (registry : Registry) (settings : SessionSettings) (route : Route)
      (now : Instant), store.backend.faults .get store.keys.preferences = none →
      (openingWrite store registry settings route now).1 = .ok () →
      let opened := openAt store registry settings route now
      (store.keys.draft ≠ store.keys.preferences →
        opened.filters = store.stored.mergedWith route.filters) ∧
      opened.store.Records opened.filters ∧
      ∀ (again : Route) (faults : WriteFaults) (later : Instant),
        let after := openAt (opened.store.during faults.schedule) registry settings again later
        after.filters = opened.filters.normalized.mergedWith again.filters ∧
        (after.filters = opened.filters → after.store.Records opened.filters) ∧
        (again = route → after.filters = opened.filters) ∧
        (again = .empty → (after.filters = opened.filters ↔ route.filters.Normal)) := by
  refine ⟨?accepted, ?first, ?call, ?opening⟩
  case accepted =>
    intro f hf
    have hrun := stores_run (s := s) steps none nofun
    rw [Option.or_none] at hrun
    exact filters_reopened (hrun f hf)
  case first =>
    intro hkeys hnone
    have hstart : s.store.Stores s.store.stored := ⟨s.store.normal_stored, rfl, Or.inl hkeys⟩
    have hrun := stores_run steps (some s.store.stored)
      fun f hf => Option.some.inj hf ▸ hstart
    rw [hnone] at hrun
    exact filters_reopened (hrun _ rfl)
  case call =>
    intro f normal faults last r
    constructor
    · intro hok
      have hrecords := Store.records_of_save (setFilters_ok (s := last.during faults.schedule) hok)
      exact ⟨rfl, filters_reopened (Store.stores_of_records normal hrecords)⟩
    · intro e herror
      have hafter : r.2 = { last.during faults.schedule with filters := f } :=
        setFilters_of_error herror
      rw [hafter]
      -- the store is the one from before the call, so it is opened to the same session
      exact ⟨fun _ _ => rfl, Iff.rfl⟩
  case opening =>
    intro store registry settings route now readable hwrite opened
    refine ⟨fun hkeys => ?_, ?_, fun again faults later => ?_⟩
    · have hstored : store.Stores store.stored := ⟨store.normal_stored, rfl, Or.inl hkeys⟩
      have hloaded : (loadedStore store registry settings now).Stores store.stored :=
        stores_loadedStore hstored
      rw [openAt_filters, loadPreferences_loadedStore readable, hloaded.stored]
    · exact Store.records_of_save hwrite
    · exact opened_again readable hwrite again faults later

/-- Filters for a venue. -/
def krakenFilters : Filters := ⟨some "kraken", none, none, none⟩

theorem krakenFilters_normal : krakenFilters.Normal := by
  refine ⟨?_, nofun, nofun⟩
  rintro s ⟨⟩
  exact trimmed_iff.mpr (by decide)

/-- Each write fails. -/
def fullDisk : WriteFaults :=
  ⟨fun call _ => if call = .get then none else some (.unavailable "quota exceeded"), fun _ => rfl⟩

/-- A session on an empty memory has no filters, and opening it anew gives none. -/
theorem stores_onMemory : (onMemory .builtin .standard .standard).store.Stores .none := by
  have hempty : Store.Stores ⟨.inMemory, .standard, .ofMode .safe⟩ .none :=
    ⟨Filters.normal_none, rfl, Or.inl (by decide)⟩
  exact (opened_of_stores hempty rfl).2

/-- Filters that were accepted are given back after a refused call and an opening
that could write nothing; a route stands above them. -/
theorem krakenFilters_kept :
    ((((onMemory .builtin .standard .standard).run
      [⟨.set krakenFilters krakenFilters_normal, .none⟩, ⟨.set .none Filters.normal_none, fullDisk⟩,
        ⟨.reopen ⟨5⟩, fullDisk⟩]).reopened .none ⟨7⟩).filters = krakenFilters) ∧
    (openAt ((openAt (onMemory .builtin .standard .standard).store .builtin .standard
        ⟨none, false, krakenFilters⟩ ⟨5⟩).store.during fullDisk.schedule) .builtin .standard .empty
        ⟨7⟩).filters = krakenFilters := by
  constructor
  · exact (filters_agree_iff (onMemory .builtin .standard .standard) _).1 krakenFilters
      rfl .none ⟨7⟩
  · obtain ⟨-, -, -, hopening⟩ := filters_agree_iff (onMemory .builtin .standard .standard) []
    obtain ⟨hmerged, -, hagain⟩ := hopening (onMemory .builtin .standard .standard).store .builtin
      .standard ⟨none, false, krakenFilters⟩ ⟨5⟩ rfl rfl
    obtain ⟨-, -, -, hempty⟩ := hagain .empty fullDisk ⟨7⟩
    rw [(hempty rfl).mpr krakenFilters_normal, hmerged (by decide), stores_onMemory.stored]
    rfl

/-- **A refused call still shows its filters**, and no opening gives them back. -/
theorem refused_filters_shown :
    let s := onMemory .builtin .standard .standard
    let r := s.take ⟨.set krakenFilters krakenFilters_normal, fullDisk⟩
    (∃ e, r.1 = .error e) ∧ s.filters = .none ∧ r.2.filters = krakenFilters ∧
      ∀ faults now, (r.2.reopened faults now).filters = .none := by
  intro s r
  have hafter : r.2.store = s.store.during fullDisk.schedule := rfl
  refine ⟨⟨_, rfl⟩, rfl, rfl, filters_reopened ?_⟩
  rw [hafter]
  exact stores_onMemory.during fullDisk

end Session

end Dashboard
