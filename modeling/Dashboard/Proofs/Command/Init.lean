/-
  Dashboard.Proofs.Command.Init
  ─────────────────────────────
  **WHEN STARTING FROM A TEMPLATE IS REFUSED.**

  Without force the command looks at the session that it has opened: it refuses
  where that session has a document.  So what counts is not whether a slot holds
  a text, but whether the text is read as a document.  A text that is no JSON,
  no valid document or one of a newer version counts as no document, and the
  template takes its place.

  The opening itself drops a draft that says what the committed document says,
  or is older (`Overtaken`), also where the command is refused afterwards.  That
  apart, a command that fails leaves both slots as they were.

  Main results:
    readSlot_eq_some_iff  — the slots that give a document
    openSession_shows_iff — the sessions that have one
    init_refuses_iff      — **when the command refuses, and what it keeps**
    newer_document_lost   — a document that is replaced without force
-/
import Dashboard.Proofs.Command.Add
import Dashboard.Proofs.Session.Refusals
import Dashboard.Proofs.Session.Separation

namespace Dashboard

open Time

/-! ## §1. Slots that give a document. -/

/-- The slot under a key holds a text that is read as the document. -/
def Backend.Loads (b : Backend) (o : ValidationOptions) (now : Instant) (key : String)
    (w : Workspace) : Prop :=
  ∃ text warnings, b.get key = .ok (some text) ∧ parseAndValidate o now text = .ok ⟨w, warnings⟩

/-- What strict mode reads, a slot gives. -/
theorem Backend.Keeps.loads {b : Backend} {o : ValidationOptions} {now : Instant} {key : String}
    {w : Workspace} (h : b.Keeps o now key w) (safe : o.mode = .safe) : b.Loads o now key w := by
  obtain ⟨text, warnings, hget, hparse⟩ := h
  have hsafe : o.inMode .safe = o := by rw [← safe]; rfl
  exact ⟨text, warnings, hget, hsafe ▸ parse_safe_of_strict hparse⟩

theorem Backend.Loads.unique {b : Backend} {o : ValidationOptions} {now : Instant} {key : String}
    {w w' : Workspace} (h : b.Loads o now key w) (h' : b.Loads o now key w') : w = w' := by
  obtain ⟨text, warnings, hget, hparse⟩ := h
  obtain ⟨text', warnings', hget', hparse'⟩ := h'
  cases hget.symm.trans hget'
  cases hparse.symm.trans hparse'
  rfl

namespace Store

variable {s : Store} {now : Instant}

/-- **A slot gives the document** that its text is read as, and no other. -/
theorem readSlot_eq_some_iff {key : String} {w : Workspace} :
    (s.readSlot now key).workspace = some w ↔ s.backend.Loads s.options now key w := by
  constructor
  · intro hread
    obtain ⟨text, hget, htext⟩ := text_of_readSlot (by rw [hread]; exact nofun)
    rw [htext] at hread
    cases hparse : parseAndValidate s.options now text with
    | error e =>
        rw [hparse] at hread
        cases hread
    | ok v =>
        rw [hparse] at hread
        cases hread
        exact ⟨text, v.warnings, hget, hparse⟩
  · rintro ⟨text, warnings, hget, hparse⟩
    rw [readSlot, hget]
    simp only [not_blank_of_parse hparse, Bool.false_eq_true, if_false]
    rw [readText_workspace, hparse]
    rfl

end Store

/-- A commit that succeeds has written the committed form of the document. -/
theorem Store.text?_of_commit {s s' : Store} {now : Instant} {w w' : Workspace}
    (apart : s.keys.draft ≠ s.keys.committed) (h : s.commit now w = (.ok w', s')) :
    s'.backend.medium.text? s.keys.committed = some (committedForm now w).compactText := by
  unfold commit at h
  dsimp only at h
  split at h
  next => cases h
  next written hwrite =>
    cases h
    have hset : (s.backend.set s.keys.committed (committedForm now w).compactText).1 = .ok () :=
      congrArg Prod.fst hwrite
    have hstore : ({ s with backend := (s.backend.set s.keys.committed
        (committedForm now w).compactText).2 } : Store) = written := congrArg Prod.snd hwrite
    subst hstore
    -- dropping the draft leaves the committed slot alone
    show (Backend.remove _ s.keys.draft).2.medium.text? s.keys.committed = _
    rw [Backend.text?_remove_of_ne apart.symm]
    exact Backend.text?_set hset

namespace Command

variable {c : Config} {now : Instant} {b : Backend}

/-- The store that a session is opened on. -/
def storeOf (c : Config) (b : Backend) : Store := ⟨b, c.storage.keys, optionsOf c⟩

/-- One of the two slots gives a document. -/
def Occupied (c : Config) (now : Instant) (b : Backend) : Prop :=
  ∃ key ∈ [c.storage.keys.committed, c.storage.keys.draft], ∃ w, b.Loads (optionsOf c) now key w

/-- Both slots give a document, and the draft says what the committed one says
or is older. -/
def Overtaken (c : Config) (now : Instant) (b : Backend) : Prop :=
  ∃ base draft, b.Loads (optionsOf c) now c.storage.keys.committed base ∧
    b.Loads (optionsOf c) now c.storage.keys.draft draft ∧ Store.drops draft base = true

theorem loadCommitted_eq_some_iff {w : Workspace} :
    ((storeOf c b).loadCommitted now).workspace = some w ↔
      b.Loads (optionsOf c) now c.storage.keys.committed w :=
  Store.readSlot_eq_some_iff (s := storeOf c b)

theorem loadDraft_eq_some_iff {w : Workspace} :
    ((storeOf c b).loadDraft now).workspace = some w ↔
      b.Loads (optionsOf c) now c.storage.keys.draft w :=
  Store.readSlot_eq_some_iff (s := storeOf c b)

theorem occupied_iff : Occupied c now b ↔ ((storeOf c b).loadCommitted now).workspace ≠ none ∨
    ((storeOf c b).loadDraft now).workspace ≠ none := by
  rw [Option.ne_none_iff_exists', Option.ne_none_iff_exists']
  simp only [loadCommitted_eq_some_iff, loadDraft_eq_some_iff, Occupied, List.exists_mem_cons_iff,
    List.not_mem_nil, false_and, exists_false, or_false]

/-! ## §2. Opening. -/

/-- What loading the documents leaves of a backend. -/
def loaded (c : Config) (now : Instant) (b : Backend) : Backend :=
  ((storeOf c b).load now).2.backend

/-- **Loading drops a draft** that has been overtaken, and changes nothing else. -/
theorem loaded_cases (c : Config) (now : Instant) (b : Backend) :
    Overtaken c now b ∧ loaded c now b = (b.remove c.storage.keys.draft).2 ∨
      ¬Overtaken c now b ∧ loaded c now b = b := by
  have hstore : loaded c now b
      = (Reconciled.outcome ((storeOf c b).load now)).2.2.backend := rfl
  rw [Store.outcome_load] at hstore
  by_cases h : Overtaken c now b
  · refine Or.inl ⟨h, ?_⟩
    obtain ⟨base, draft, hbase, hdraft, hdrops⟩ := h
    rw [hstore, loadCommitted_eq_some_iff.mpr hbase, loadDraft_eq_some_iff.mpr hdraft]
    dsimp only
    rw [if_pos hdrops]
    rfl
  · refine Or.inr ⟨h, ?_⟩
    rw [hstore]
    cases hdraft : ((storeOf c b).loadDraft now).workspace with
    | none => cases ((storeOf c b).loadCommitted now).workspace <;> rfl
    | some draft =>
        cases hbase : ((storeOf c b).loadCommitted now).workspace with
        | none => rfl
        | some base =>
            dsimp only
            rw [if_neg]
            · rfl
            · intro hdrops
              exact h ⟨base, draft, loadCommitted_eq_some_iff.mp hbase,
                loadDraft_eq_some_iff.mp hdraft, hdrops⟩

/-- **The session has a document** exactly if one of the slots gives one. -/
theorem openSession_shows_iff :
    ((openSession c now b).committed.isSome || (openSession c now b).draft.isSome) = true ↔
      Occupied c now b := by
  have hcommitted : (openSession c now b).committed
      = ((storeOf c b).loadCommitted now).workspace := Store.reconcile_committed _ _ _
  have hdraft : (openSession c now b).draft
      = (Reconciled.outcome ((storeOf c b).load now)).2.1 := rfl
  rw [hcommitted, hdraft, Store.outcome_load, occupied_iff, Bool.or_eq_true]
  cases ((storeOf c b).loadCommitted now).workspace with
  | none => cases ((storeOf c b).loadDraft now).workspace <;> simp
  | some base => simp

/-- After loading, only the filters are written. -/
theorem keepsSlots_openSession (apart : c.storage.keys.Apart) (now : Instant) (b : Backend) :
    KeepsSlots c.storage.keys (loaded c now b) (openSession c now b).store.backend := by
  have hkeys : ((storeOf c b).load now).2.keys = c.storage.keys :=
    (Store.confined_load (storeOf c b) now).keys
  obtain ⟨text, hwrite⟩ : ∃ text, (openSession c now b).store.backend
      = ((loaded c now b).set ((storeOf c b).load now).2.keys.preferences text).2 := ⟨_, rfl⟩
  rw [hwrite, hkeys]
  exact ⟨Backend.text?_set_of_ne apart.committed_preferences,
    Backend.text?_set_of_ne apart.draft_preferences⟩

/-! ## §3. The command. -/

/-- Why the command is refused. -/
def alreadyThere : CommandError :=
  .invalidArgument "a workspace already exists; pass --force to replace it"

variable {template : String}

theorem init_of_occupied (h : Occupied c now b) (template : String) :
    init c now template false b = (.error alreadyThere, (openSession c now b).store.backend) := by
  unfold init
  dsimp only
  rw [openSession_shows_iff.mpr h]
  rfl

theorem Overtaken.occupied (h : Overtaken c now b) : Occupied c now b := by
  obtain ⟨base, -, hbase, -⟩ := h
  exact ⟨_, List.mem_cons_self, base, hbase⟩

/-- An overtaken draft is dropped where the command is refused. -/
theorem init_of_overtaken (apart : c.storage.keys.Apart) (h : Overtaken c now b)
    (template : String) :
    (init c now template false b).1 = .error alreadyThere ∧
      (init c now template false b).2.medium.text? c.storage.keys.draft
        = (b.remove c.storage.keys.draft).2.medium.text? c.storage.keys.draft := by
  have hkept := (keepsSlots_openSession apart now b).draft
  obtain ⟨-, hdropped⟩ | ⟨hnot, -⟩ := loaded_cases c now b
  · rw [init_of_occupied h.occupied template]
    exact ⟨rfl, by rw [← hdropped]; exact hkept⟩
  · exact absurd h hnot

/-- **Where no slot gives a document** the command does not ask for force. -/
theorem init_of_free (h : ¬Occupied c now b) (template : String) :
    init c now template false b = init c now template true b := by
  unfold init
  dsimp only
  rw [Bool.eq_false_iff.mpr (mt openSession_shows_iff.mp h)]
  rfl

/-- With force the command starts from the template, and fails as that does. -/
theorem init_forced_cases (c : Config) (now : Instant) (template : String) (b : Backend) :
    (∃ e, init c now template true b
      = (.error (.session e), (openSession c now b).store.backend)) ∨
    ∃ lines s, init c now template true b = (.ok lines, s.store.backend) ∧
      (openSession c now b).pickTemplate now template = (.ok (), s) := by
  have hinit : init c now template true b
      = andThen ((openSession c now b).pickTemplate now template) fun _ s =>
          let name := (s.workspace?.map (·.name)).getD ""
          report [s!"initialized '{name}' from template {template}"] s := by
    unfold init
    dsimp only
    rw [Bool.not_true, Bool.and_false, if_neg Bool.false_ne_true]
  rw [hinit]
  cases hpick : (openSession c now b).pickTemplate now template with
  | mk answer s =>
      cases answer with
      | ok u => exact Or.inr ⟨_, s, rfl, rfl⟩
      | error e =>
          have hsame := (Session.careful_pickTemplate template e
            (congrArg Prod.fst hpick)).unchanged
          rw [hpick] at hsame
          exact Or.inl ⟨e, by rw [← hsame]; rfl⟩

/-- A template takes the committed slot. -/
theorem text?_of_pickTemplate {s s' : Session} (apart : s.store.keys.Apart)
    (h : s.pickTemplate now template = (.ok (), s')) :
    ∃ t v, Template.find? template = some t ∧ t.instantiate s.store.options now = .ok v ∧
      s'.store.backend.medium.text? s.store.keys.committed
        = some (Store.committedForm now v.workspace).compactText := by
  unfold Session.pickTemplate at h
  split at h
  next => cases h
  next t ht =>
    split at h
    next => cases h
    next v hv =>
      refine ⟨t, v, ht, hv, ?_⟩
      unfold Session.install at h
      split at h
      next => cases h
      next w store hcommit =>
        cases h
        exact Store.text?_of_commit apart.draft_committed hcommit

/-- The session works with the keys and the options of the configuration. -/
theorem openSession_store (c : Config) (now : Instant) (b : Backend) :
    (openSession c now b).store.keys = c.storage.keys ∧
      (openSession c now b).store.options = optionsOf c := by
  rcases Store.load_store (storeOf c b) now with hload | hload
  all_goals
    have hstore : (openSession c now b).store = (((storeOf c b).load now).2.savePreferences
        (((storeOf c b).load now).2.loadPreferences.mergedWith .none)).2 := rfl
    rw [hstore, hload]
    exact ⟨rfl, rfl⟩

/-- Where the command succeeds, no slot gave a document. -/
theorem init_of_done (apart : c.storage.keys.Apart) {lines : List String}
    (h : (init c now template false b).1 = .ok lines) :
    ¬Occupied c now b ∧ ∃ t v, Template.find? template = some t ∧
      t.instantiate (optionsOf c) now = .ok v ∧
      (init c now template false b).2.medium.text? c.storage.keys.committed
        = some (Store.committedForm now v.workspace).compactText := by
  have hfree : ¬Occupied c now b := by
    intro hoccupied
    rw [init_of_occupied hoccupied template] at h
    cases h
  rw [init_of_free hfree template] at h ⊢
  rcases init_forced_cases c now template b with ⟨e, hfailed⟩ | ⟨lines, s, hdone, hpick⟩
  · rw [hfailed] at h
    cases h
  · rw [hdone]
    obtain ⟨hkeys, hoptions⟩ := openSession_store c now b
    have htaken := text?_of_pickTemplate (hkeys ▸ apart) hpick
    rw [hkeys, hoptions] at htaken
    exact ⟨hfree, htaken⟩

/-- **When starting from a template is refused, and what it keeps.**  Let the
slots have different keys.  Whatever they hold, and whichever calls fail:

* without force the command says that there is a workspace exactly if one of the
  slots holds a text that is read as a document;
* where it fails, for this reason or another one, both slots hold what opening
  the session left in them;
* where it succeeds, neither slot gave a document, and the committed slot holds
  the template's;
* opening the session drops a draft that has been overtaken, and leaves both
  slots alone otherwise. -/
theorem init_refuses_iff (apart : c.storage.keys.Apart) (now : Instant) (template : String)
    (b : Backend) :
    ((init c now template false b).1 = .error alreadyThere ↔ Occupied c now b) ∧
    (∀ e, (init c now template false b).1 = .error e →
      KeepsSlots c.storage.keys (loaded c now b) (init c now template false b).2) ∧
    (∀ lines, (init c now template false b).1 = .ok lines →
      ¬Occupied c now b ∧ ∃ t v, Template.find? template = some t ∧
        t.instantiate (optionsOf c) now = .ok v ∧
        (init c now template false b).2.medium.text? c.storage.keys.committed
          = some (Store.committedForm now v.workspace).compactText) ∧
    (Overtaken c now b ∧ loaded c now b = (b.remove c.storage.keys.draft).2 ∨
      ¬Overtaken c now b ∧ loaded c now b = b) := by
  have hkept := keepsSlots_openSession apart now b
  by_cases h : Occupied c now b
  · have hrefused := init_of_occupied h template
    rw [hrefused]
    exact ⟨iff_of_true rfl h, fun _ _ => hkept, nofun, loaded_cases c now b⟩
  · have hanswer := init_of_free h template
    rcases init_forced_cases c now template b with ⟨e, hfailed⟩ | ⟨lines, s, hdone, -⟩
    · rw [hanswer, hfailed]
      exact ⟨iff_of_false nofun h, fun _ _ => hkept, nofun, loaded_cases c now b⟩
    · refine ⟨iff_of_false ?_ h, ?_, fun _ => init_of_done apart, loaded_cases c now b⟩
      · rw [hanswer, hdone]
        exact nofun
      · rw [hanswer, hdone]
        exact nofun

/-- A committed document and a newer draft: the command is refused, and both are
kept. -/
theorem bothDesks_kept :
    (init .standard ⟨0⟩ "incident" false bothDesks).1 = .error alreadyThere ∧
      KeepsSlots Config.standard.storage.keys bothDesks
        (init .standard ⟨0⟩ "incident" false bothDesks).2 := by
  obtain ⟨hrefused, hkept, -, hloaded⟩ := init_refuses_iff apart_standard ⟨0⟩ "incident" bothDesks
  have hcommitted := openDraft_bothDesks.committed.loads rfl
  have hdrafted := openDraft_bothDesks.drafted.loads rfl
  have hanswer := hrefused.mpr ⟨_, List.mem_cons_self, _, hcommitted⟩
  refine ⟨hanswer, ?_⟩
  rcases hloaded with ⟨⟨base, draft, hbase, hdraft, hdrops⟩, -⟩ | ⟨-, hsame⟩
  · -- the draft has another content, and is newer
    obtain rfl := hbase.unique hcommitted
    obtain rfl := hdraft.unique hdrafted
    exact absurd hdrops (by decide)
  · rw [hsame] at hkept
    exact hkept _ hanswer

/-- A document of a newer version, as far as it is looked at. -/
def newerDocument : Json.Value := .object [(versionKey, .ofNat 7)]

/-- No document is written as that one. -/
theorem compactText_ne_newer (w : Workspace) : w.compactText ≠ newerDocument.compact := by
  intro h
  have hthird := congrArg (fun cs : List Char => cs[2]?) (String.ofList_inj.mp h)
  -- one text begins with the key of the id, the other one with that of the version
  exact absurd (Option.some.inj (hthird : some 'i' = some 's')) (by decide)

/-- The newer document in the committed slot. -/
def newerOnly : Backend :=
  ⟨.memory [(StorageKeys.standard.committed, newerDocument.compact)], .none⟩

/-- The draft of one page in the committed slot, and the document of two pages,
which is older, in the draft's. -/
def overtakenDesks : Backend :=
  ⟨.memory [(StorageKeys.standard.committed, onePageDesk.compactText),
    (StorageKeys.standard.draft, twoPageDesk.compactText)], .none⟩

theorem overtaken_overtakenDesks : Overtaken .standard ⟨0⟩ overtakenDesks := by
  have hbase : overtakenDesks.Keeps (optionsOf .standard) ⟨0⟩ StorageKeys.standard.committed
      onePageDesk := Backend.keeps_of_written rfl (Workspace.strictlyValid_iff.mpr (by decide)) rfl
    (Workspace.lossless_of_plain (by decide)) _
  have hdraft : overtakenDesks.Keeps (optionsOf .standard) ⟨0⟩ StorageKeys.standard.draft
      twoPageDesk := Backend.keeps_of_written rfl (Workspace.strictlyValid_iff.mpr (by decide)) rfl
    (Workspace.lossless_of_plain (by decide)) _
  exact ⟨_, _, hbase.loads rfl, hdraft.loads rfl, rfl⟩

/-- **A document that is not read is lost**, and an overtaken draft is lost even
where the command is refused. -/
theorem newer_document_lost :
    (Json.readNormal newerDocument.compact = some newerDocument ∧
      newerOnly.medium.text? Config.standard.storage.keys.committed = some newerDocument.compact ∧
      (init .standard ⟨0⟩ "incident" false newerOnly).1.toBool = true ∧
      (init .standard ⟨0⟩ "incident" false newerOnly).2.medium.text?
        Config.standard.storage.keys.committed ≠ some newerDocument.compact) ∧
    overtakenDesks.medium.text? Config.standard.storage.keys.draft
        = some twoPageDesk.compactText ∧
      (init .standard ⟨0⟩ "incident" false overtakenDesks).1 = .error alreadyThere ∧
      (init .standard ⟨0⟩ "incident" false overtakenDesks).2.medium.text?
        Config.standard.storage.keys.draft = none := by
  have hdone : (init .standard ⟨0⟩ "incident" false newerOnly).1.toBool = true := by decide +kernel
  refine ⟨⟨?read, rfl, hdone, ?replaced⟩, rfl, ?refused⟩
  case read =>
    rw [Json.readNormal_compact rfl (by decide)]
    rfl
  case replaced =>
    cases hanswer : (init .standard ⟨0⟩ "incident" false newerOnly).1 with
    | error e => rw [hanswer] at hdone; cases hdone
    | ok lines =>
        obtain ⟨-, -, v, -, -, htext⟩ := init_of_done apart_standard hanswer
        rw [htext]
        exact fun h => compactText_ne_newer _ (Option.some.inj h)
  case refused =>
    obtain ⟨hrefused, hdropped⟩ :=
      init_of_overtaken apart_standard overtaken_overtakenDesks "incident"
    exact ⟨hrefused, hdropped.trans rfl⟩

end Command
end Dashboard
