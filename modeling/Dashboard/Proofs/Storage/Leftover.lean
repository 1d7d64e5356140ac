/-
  Dashboard.Proofs.Storage.Leftover
  ─────────────────────────────────
  **A DRAFT THAT A COMMIT COULD NOT DROP.**

  A commit writes the committed slot first and drops the draft afterwards.
  Where the draft cannot be dropped, the commit has been done all the same, and
  the next load has both documents in front of it: the draft is stale, but
  nothing says so except its content and its date.

  The draft loses to the committed document exactly if it says the same or if
  its date is strictly before the millisecond of the commit.  A draft of that
  very millisecond wins, and so does any draft where the commit has no
  timestamp that can be compared, or where the committed slot does not give
  its document back.

  Main results:
    commit_of_fault        — what a commit does that cannot drop the draft
    committed_outlives_iff — when the next load finds the committed document
    leftover_can_win       — that no condition of it can be left out
-/
import Dashboard.Proofs.Document.RoundTrip
import Dashboard.Proofs.Storage.Load
import Dashboard.Proofs.Time.Stamp

namespace Dashboard

open Json Time

/-! ## §1. A commit that cannot drop the draft. -/

/-- A removal that is set to fail leaves everything as it was. -/
theorem Backend.remove_of_fault {b : Backend} {key : String} {e : StorageError}
    (h : b.faults .remove key = some e) : b.remove key = (.error e, b) := by
  rw [remove, h]

namespace Store

/-- The store while the calls of its backend fail in this way. -/
def during (s : Store) (faults : StorageFaults) : Store :=
  { s with backend := { s.backend with faults } }

/-- **What a commit does that cannot drop the draft**: it writes the committed
slot, and nothing else. -/
theorem commit_of_fault {s s' : Store} {t : Instant} {w c : Workspace} {e : StorageError}
    (fails : s.backend.faults .remove s.keys.draft = some e) (h : s.commit t w = (.ok c, s')) :
    c = committedForm t w ∧ (s.backend.set s.keys.committed c.compactText).1 = .ok () ∧
      s' = { s with backend := (s.backend.set s.keys.committed c.compactText).2 } := by
  unfold commit write at h
  dsimp only at h
  cases hset : (s.backend.set s.keys.committed (committedForm t w).compactText).1 with
  | error e =>
      rw [hset] at h
      cases h
  | ok u =>
      rw [hset] at h
      -- the schedule of faults is still the one from before the write
      have hkeep : (s.backend.set s.keys.committed (committedForm t w).compactText).2.faults .remove
          s.keys.draft = some e := by
        rw [Backend.set_faults, fails]
      simp only [clearDraft, Backend.remove_of_fault hkeep, Prod.mk.injEq, Except.ok.injEq] at h
      obtain ⟨rfl, rfl⟩ := h
      exact ⟨rfl, hset, rfl⟩

/-- The draft's slot is left as it was. -/
theorem draft_of_fault {s s' : Store} {t : Instant} {w c : Workspace} {e : StorageError}
    (fails : s.backend.faults .remove s.keys.draft = some e) (h : s.commit t w = (.ok c, s'))
    (apart : s.keys.draft ≠ s.keys.committed) :
    s'.backend.medium.text? s.keys.draft = s.backend.medium.text? s.keys.draft := by
  obtain ⟨-, -, rfl⟩ := commit_of_fault fails h
  exact Backend.text?_set_of_ne apart

/-- A commit at `t` of a strictly valid document `w`, which wrote `c` and could
not drop the draft; the draft's slot is left with a text whose document is of
the current version and dated `m`. -/
structure Torn (s : Store) (t : Instant) (w c : Workspace) (s' : Store) (text : String)
    (m : Moment) : Prop where
  valid : w.StrictlyValid s.options
  fails : ∃ e, s.backend.faults .remove s.keys.draft = some e
  done : s.commit t w = (.ok c, s')
  leftover : s'.backend.medium.text? s.keys.draft = some text
  dated : ∃ v date, readNormal text = some v ∧ changeDate? v = some date ∧
    Rfc3339.moment? date = some m

namespace Torn

variable {s s' : Store} {t : Instant} {w c : Workspace} {text : String} {m : Moment}

theorem keys_eq (h : s.Torn t w c s' text m) : s'.keys = s.keys ∧ s'.options = s.options := by
  obtain ⟨e, fails⟩ := h.fails
  obtain ⟨-, -, rfl⟩ := commit_of_fault fails h.done
  exact ⟨rfl, rfl⟩

theorem committed_eq (h : s.Torn t w c s' text m) : c = committedForm t w := by
  obtain ⟨e, fails⟩ := h.fails
  exact (commit_of_fault fails h.done).1

/-- The committed slot holds the document. -/
theorem committed_text (h : s.Torn t w c s' text m) :
    s'.backend.medium.text? s.keys.committed = some c.compactText := by
  obtain ⟨e, fails⟩ := h.fails
  obtain ⟨-, hset, rfl⟩ := commit_of_fault fails h.done
  exact Backend.text?_set hset

end Torn

/-! ## §2. The next load. -/

/-- The date of a document is the one that its text stores. -/
theorem updatedAt_of_readSlot {s : Store} {key text date : String} {v : Value} {now : Instant}
    {d : Workspace} (hread : (s.readSlot now key).workspace = some d)
    (htext : s.backend.medium.text? key = some text) (hdata : readNormal text = some v)
    (hdate : changeDate? v = some date) : d.updatedAt = date := by
  have hfound : (s.readSlot now key).workspace ≠ none := by
    rw [hread]
    exact nofun
  obtain ⟨text', hget, -⟩ := text_of_readSlot hfound
  cases htext.symm.trans (Backend.get_eq_text.mp hget).2
  rcases s.gives_cases key with ⟨-, hnone⟩ | ⟨v', doc, hdata', hgives⟩
  · exact absurd (hnone now) hfound
  · rw [Store.data?, hgives.read, hget] at hdata'
    cases hdata.symm.trans hdata'
    cases hread.symm.trans (hgives.read now)
    rw [hgives.updatedAt, hdate]
    rfl

/-- A slot whose text cannot be read gives no document. -/
theorem readSlot_of_unread {s : Store} {key text : String}
    (hget : s.backend.get key = .ok (some text)) (unread : readNormal text = none) (now : Instant) :
    (s.readSlot now key).workspace = none := by
  by_contra hfound
  obtain ⟨text', hget', hread⟩ := text_of_readSlot hfound
  cases hget.symm.trans hget'
  have hparse : parseAndValidate s.options now text = .error .corrupted := by
    rw [parseAndValidate, unread]
  rw [hread, hparse] at hfound
  exact hfound rfl

variable {s s' : Store} {t : Instant} {w c : Workspace} {text : String} {m : Moment}

/-- The committed slot gives the document back, whatever else fails. -/
theorem Torn.loadCommitted (h : s.Torn t w c s' text m) (lossless : c.Lossless)
    {faults : StorageFaults} (readable : faults .get s.keys.committed = none) (now : Instant) :
    ((s'.during faults).loadCommitted now).workspace = some c := by
  obtain ⟨hkeys, hoptions⟩ := h.keys_eq
  have hget : (s'.during faults).backend.get s.keys.committed = .ok (some c.compactText) :=
    Backend.get_eq_text.mpr ⟨readable, h.committed_text⟩
  have hstorable : c.Storable (s'.during faults).options := by
    rw [h.committed_eq]
    show Workspace.Storable s'.options _
    rw [hoptions]
    exact (Workspace.strictlyValid_iff.mp h.valid).committedForm t
  show ((s'.during faults).readSlot now s'.keys.committed).workspace = some c
  rw [hkeys, readSlot_of_written hget hstorable lossless]

/-- The choice of the next load, by content and date. -/
theorem Torn.outcome (torn : s.Torn t w c s' text m) (lossless : c.Lossless)
    {faults : StorageFaults} (readable : faults .get s.keys.committed = none) {now : Instant}
    {d : Workspace} (left : ((s'.during faults).loadDraft now).workspace = some d) :
    Reconciled.outcome ((s'.during faults).load now) =
      if d.sameContent c = true ∨ t.IsCommon ∧ m.before t.moment = true then
        (.committed, some c, (s'.during faults).clearDraft.2)
      else (.draft, some d, s'.during faults) := by
  obtain ⟨hkeys, -⟩ := torn.keys_eq
  obtain ⟨v, date, hdata, hdate, hmoment⟩ := torn.dated
  have hread : ((s'.during faults).readSlot now s.keys.draft).workspace = some d := by
    rw [← hkeys]
    exact left
  have hleft : d.updatedAt = date := updatedAt_of_readSlot hread torn.leftover hdata hdate
  have hstamp : c.updatedAt = t.stamp := by
    rw [torn.committed_eq]
    rfl
  have hdrops : drops d c = true ↔
      d.sameContent c = true ∨ t.IsCommon ∧ m.before t.moment = true := by
    rw [drops, Bool.or_eq_true, hleft, hstamp, Rfc3339.isBefore, hmoment, t.moment?_stamp]
    by_cases hcommon : t.IsCommon
    · simp [hcommon]
    · simp [hcommon]
  rw [outcome_load, left, torn.loadCommitted lossless readable now]
  simp only [hdrops]

/-- The outcome of a load, part by part. -/
theorem parts_of_outcome {r : Reconciled × Store} {source : WorkspaceSource}
    {workspace : Option Workspace} {store : Store}
    (h : Reconciled.outcome r = (source, workspace, store)) :
    r.1.source = source ∧ r.1.workspace = workspace :=
  ⟨congrArg Prod.fst h, congrArg (fun o => o.2.1) h⟩

/-! ## §3. A memory that drops nothing. -/

/-- A memory that holds a draft and lets nothing be dropped. -/
def hampered (left : Workspace) : Store :=
  .ofBackend ⟨.memory [(StorageKeys.standard.draft, left.compactText)],
    fun call _ => if call = .remove then some (.unavailable "quota exceeded") else none⟩

theorem torn_hampered {w left : Workspace} {m : Moment} {date : String}
    (valid : w.StrictlyValid (.ofMode .safe)) (lossless : left.Lossless)
    (hdate : changeDate? left.asValue = some date) (hmoment : Rfc3339.moment? date = some m)
    (t : Instant) : (hampered left).Torn t w (committedForm t w) ((hampered left).commit t w).2
      left.compactText m where
  valid := valid
  fails := ⟨_, rfl⟩
  done := rfl
  leftover := by
    have apart : StorageKeys.standard.draft ≠ StorageKeys.standard.committed := by decide
    rw [draft_of_fault (e := .unavailable "quota exceeded") (w := w) rfl rfl apart]
    show Keyed.get? StorageKeys.standard.draft [(StorageKeys.standard.draft, left.compactText)] = _
    exact if_pos rfl
  dated := ⟨_, date, lossless, hdate, hmoment⟩

/-- The draft is read back from the slot that it was left in. -/
theorem loadDraft_hampered {w left : Workspace} {m : Moment} {t : Instant} {s' : Store}
    {c : Workspace} (torn : (hampered left).Torn t w c s' left.compactText m)
    (storable : left.Storable (.ofMode .safe)) (lossless : left.Lossless) {faults : StorageFaults}
    (readable : faults .get StorageKeys.standard.draft = none) (now : Instant) :
    ((s'.during faults).loadDraft now).workspace = some left := by
  obtain ⟨hkeys, hoptions⟩ := torn.keys_eq
  have hget : (s'.during faults).backend.get StorageKeys.standard.draft
      = .ok (some left.compactText) := Backend.get_eq_text.mpr ⟨readable, torn.leftover⟩
  have hstorable : left.Storable (s'.during faults).options := by
    show left.Storable s'.options
    rw [hoptions]
    exact storable
  show ((s'.during faults).readSlot now s'.keys.draft).workspace = some left
  rw [hkeys, show (hampered left).keys.draft = StorageKeys.standard.draft from rfl,
    readSlot_of_written hget hstorable lossless]

theorem storable_newerDesk : newerDesk.Storable (.ofMode .safe) := ⟨by decide, rfl⟩

theorem lossless_newerDesk : newerDesk.Lossless := Workspace.lossless_of_plain (by decide)

theorem strictlyValid_olderDesk : olderDesk.StrictlyValid (.ofMode .safe) :=
  Workspace.strictlyValid_iff.mpr (by decide)

/-- The content of a document does not change with the time of its commit. -/
theorem lossless_olderDesk (t : Instant) : (committedForm t olderDesk).Lossless :=
  Workspace.lossless_of_plain (show olderDesk.isPlain = true by decide)

/-- The newer draft was left beside a commit. -/
theorem torn_newerDesk {w : Workspace} (valid : w.StrictlyValid (.ofMode .safe)) (t : Instant) :
    (hampered newerDesk).Torn t w (committedForm t w) ((hampered newerDesk).commit t w).2
      newerDesk.compactText ⟨1719792000, 0⟩ :=
  torn_hampered valid lossless_newerDesk
    (by decide +kernel : changeDate? newerDesk.asValue = some "2024-07-01T00:00:00.000Z")
    (by decide) t

/-- A document whose data is too deep for its text to be read back. -/
def deepDesk : Workspace :=
  { olderDesk with pages := [(Page.fresh "a" "A").withPanels
      [{ Panel.fresh ⟨0⟩ "p" "quick-nav" ⟨0, 0, 3, 2⟩ with
        dataSpec := [("deep", Nat.repeat (fun v => .list [v]) 121 .null)] }]] }

theorem strictlyValid_deepDesk : deepDesk.StrictlyValid (.ofMode .safe) :=
  Workspace.strictlyValid_iff.mpr (by decide +kernel)

theorem readNormal_deepDesk :
    readNormal (committedForm ⟨1719792000001⟩ deepDesk).compactText = none := by
  have hwhole : ((committedForm ⟨1719792000001⟩ deepDesk).encode .inFieldOrder).isWhole = true := by
    decide +kernel
  have htokens : ofTokens?
      ((committedForm ⟨1719792000001⟩ deepDesk).encode .inFieldOrder).tokens = none := by
    decide +kernel
  show (readWritten (String.ofList _)).map Value.normalize = none
  rw [(spells_render _ hwhole).ofTokens?, htokens]
  rfl

/-! ## §4. Which of the two is found. -/

/-- **When a commit outlives a draft that it could not drop.**  The next load
finds the committed document exactly if the draft says the same, or is dated
strictly before the millisecond of the commit, which has to be in a year of
four digits. -/
theorem committed_outlives_iff (torn : s.Torn t w c s' text m) (lossless : c.Lossless)
    {faults : StorageFaults} (readable : faults .get s.keys.committed = none) {now : Instant}
    {d : Workspace} (left : ((s'.during faults).loadDraft now).workspace = some d) :
    (((s'.during faults).load now).1.source = .committed ∧
      ((s'.during faults).load now).1.workspace = some c) ↔
        d.sameContent c = true ∨ t.IsCommon ∧ m.before t.moment = true := by
  have houtcome := torn.outcome lossless readable left
  by_cases hdrop : d.sameContent c = true ∨ t.IsCommon ∧ m.before t.moment = true
  · rw [if_pos hdrop] at houtcome
    exact iff_of_true (parts_of_outcome houtcome) hdrop
  · rw [if_neg hdrop] at houtcome
    refine iff_of_false ?_ hdrop
    rintro ⟨hcommitted, -⟩
    rw [(parts_of_outcome houtcome).1] at hcommitted
    cases hcommitted

/-- Dated a millisecond before the commit, the draft loses. -/
theorem newerDesk_outlived :
    ((((hampered newerDesk).commit ⟨1719792000001⟩ olderDesk).2.during .none).load
        ⟨1719878400000⟩).1.source = .committed ∧
      ((((hampered newerDesk).commit ⟨1719792000001⟩ olderDesk).2.during .none).load
        ⟨1719878400000⟩).1.workspace = some (committedForm ⟨1719792000001⟩ olderDesk) := by
  have htorn := torn_newerDesk strictlyValid_olderDesk ⟨1719792000001⟩
  have hleft : ((((hampered newerDesk).commit ⟨1719792000001⟩ olderDesk).2.during .none).loadDraft
      ⟨1719878400000⟩).workspace = some newerDesk :=
    loadDraft_hampered htorn storable_newerDesk lossless_newerDesk rfl _
  have hbefore : (⟨1719792000001⟩ : Instant).IsCommon ∧
      Moment.before ⟨1719792000, 0⟩ (⟨1719792000001⟩ : Instant).moment = true := by decide
  exact (committed_outlives_iff htorn (lossless_olderDesk _) rfl hleft).mpr (Or.inr hbefore)

/-- A commit of `w` at `t` could not drop a draft dated `m`, and each next load
with these calls failing finds the draft. -/
def DraftWins (t : Instant) (w c : Workspace) (m : Moment) (faults : StorageFaults) : Prop :=
  ∃ (s s' : Store) (text : String), s.Torn t w c s' text m ∧
    ∀ now, ((s'.during faults).load now).1.source = .draft

/-- The newer draft wins where it is not dated before the commit. -/
theorem draftWins_of_not_before {t : Instant}
    (late : ¬ (t.IsCommon ∧ Moment.before ⟨1719792000, 0⟩ t.moment = true)) :
    DraftWins t olderDesk (committedForm t olderDesk) ⟨1719792000, 0⟩ .none := by
  have htorn := torn_newerDesk strictlyValid_olderDesk t
  refine ⟨_, _, _, htorn, fun now => ?_⟩
  have hleft : ((((hampered newerDesk).commit t olderDesk).2.during .none).loadDraft now).workspace
      = some newerDesk := loadDraft_hampered htorn storable_newerDesk lossless_newerDesk rfl now
  have houtcome := htorn.outcome (lossless_olderDesk t) rfl hleft
  have hother : newerDesk.sameContent (committedForm t olderDesk) = false := rfl
  rw [hother, if_neg fun h => h.elim nofun late] at houtcome
  exact (parts_of_outcome houtcome).1

/-- The newer draft wins where the committed slot gives no document. -/
theorem draftWins_of_unread {t : Instant} {w : Workspace} (valid : w.StrictlyValid (.ofMode .safe))
    {faults : StorageFaults} (readable : faults .get StorageKeys.standard.draft = none)
    (unread : ∀ now, ((((hampered newerDesk).commit t w).2.during faults).loadCommitted now).workspace
      = none) : DraftWins t w (committedForm t w) ⟨1719792000, 0⟩ faults := by
  have htorn := torn_newerDesk valid t
  refine ⟨_, _, _, htorn, fun now => ?_⟩
  have houtcome := outcome_load (((hampered newerDesk).commit t w).2.during faults) now
  rw [unread, loadDraft_hampered htorn storable_newerDesk lossless_newerDesk readable now]
    at houtcome
  exact (parts_of_outcome houtcome).1

/-- **A draft that is not later than the commit can win.**  One case for each
condition: dated the very millisecond of the commit, a commit after the year
9999, a document whose text cannot be read back, a committed slot that cannot
be read. -/
theorem leftover_can_win :
    (∃ t w c m, DraftWins t w c m .none ∧ t.moment.before m = false ∧ t.IsCommon ∧ c.Lossless) ∧
    (∃ t w c m, DraftWins t w c m .none ∧ m.before t.moment = true ∧ c.Lossless) ∧
    (∃ t w c m, DraftWins t w c m .none ∧ m.before t.moment = true ∧ t.IsCommon) ∧
    ∃ t w c m faults, DraftWins t w c m faults ∧ m.before t.moment = true ∧ t.IsCommon ∧
      c.Lossless := by
  refine ⟨?tied, ?late, ?deep, ?unreadable⟩
  case tied =>
    exact ⟨⟨1719792000000⟩, olderDesk, _, _, draftWins_of_not_before (by decide), by decide,
      by decide, lossless_olderDesk _⟩
  case late =>
    exact ⟨farFuture false, olderDesk, _, _, draftWins_of_not_before (by decide), by decide,
      lossless_olderDesk _⟩
  case deep =>
    refine ⟨⟨1719792000001⟩, deepDesk, _, _, draftWins_of_unread strictlyValid_deepDesk rfl ?_,
      by decide, by decide⟩
    have htorn := torn_newerDesk strictlyValid_deepDesk ⟨1719792000001⟩
    exact readSlot_of_unread (Backend.get_eq_text.mpr ⟨rfl, htorn.committed_text⟩)
      readNormal_deepDesk
  case unreadable =>
    refine ⟨⟨1719792000001⟩, olderDesk, _, _, fun _ key => if key = StorageKeys.standard.committed
      then some (.unavailable "quota exceeded") else none, draftWins_of_unread
      strictlyValid_olderDesk (by decide) ?_, by decide, by decide, lossless_olderDesk _⟩
    intro now
    show (readSlot _ now StorageKeys.standard.committed).workspace = none
    rw [readSlot, Backend.get]
    rfl

end Store
end Dashboard
