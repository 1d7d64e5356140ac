/-
  Dashboard.Proofs.Storage.Load
  ─────────────────────────────
  **WHEN LOADING DEPENDS ON THE CLOCK.**

  A load compares the draft with the committed document after both were read,
  with the clock's time wherever no date is stored or a migration put its own.
  So the choice between the two, and the content of the chosen one, may change
  while nothing in the slots does.  The conditions of `Settled`, on the data
  in the slots, say exactly when they do not.

  Main results:
    outcome_load            — the choice between the two slots
    settled_of_stored       — with all dates stored the clock plays no part
    load_clock_free_iff     — two loads have one outcome exactly if settled
    newer_draft_discarded   — a newer draft that is dropped for its clock date
-/
import Dashboard.Proofs.Document.Clock
import Dashboard.Proofs.Storage.Slots

namespace Dashboard

open Json Time

/-! ## §1. The choice. -/

/-- What a load leaves behind: where the working copy came from, the working
copy, and the store. -/
def Reconciled.outcome (r : Reconciled × Store) : WorkspaceSource × Option Workspace × Store :=
  (r.1.source, r.1.workspace, r.2)

/-- Two loads with one outcome, where the content of the working copy counts. -/
structure Reconciled.Alike (a b : Reconciled × Store) : Prop where
  source : a.1.source = b.1.source
  workspace : Option.Rel (fun v w => v.sameContent w = true) a.1.workspace b.1.workspace
  store : a.2 = b.2

namespace Store

/-- The draft loses against the committed document: the same content, or older. -/
def drops (draft committed : Workspace) : Bool :=
  draft.sameContent committed || Rfc3339.isBefore draft.updatedAt committed.updatedAt

theorem outcome_load (s : Store) (t : Instant) :
    Reconciled.outcome (s.load t) =
      match (s.loadDraft t).workspace, (s.loadCommitted t).workspace with
      | none, none => (.empty, none, s)
      | none, some c => (.committed, some c, s)
      | some d, none => (.draft, some d, s)
      | some d, some c =>
        if drops d c then (.committed, some c, s.clearDraft.2) else (.draft, some d, s) := by
  unfold load reconcile Reconciled.outcome drops
  cases (s.loadDraft t).workspace with
  | none => cases (s.loadCommitted t).workspace <;> rfl
  | some d =>
      cases (s.loadCommitted t).workspace with
      | none => rfl
      | some c =>
          dsimp only
          cases d.sameContent c with
          | true => rfl
          | false => cases Rfc3339.isBefore d.updatedAt c.updatedAt <;> rfl

theorem alike_of_outcome {a b : Reconciled × Store}
    (source : (Reconciled.outcome a).1 = (Reconciled.outcome b).1)
    (workspace : Option.Rel (fun v w => v.sameContent w = true) (Reconciled.outcome a).2.1
      (Reconciled.outcome b).2.1)
    (store : (Reconciled.outcome a).2.2 = (Reconciled.outcome b).2.2) :
    Reconciled.Alike a b := ⟨source, workspace, store⟩

/-! ## §2. The data of a slot. -/

/-- The data of the document that a slot gives.  Whether it gives one does not
depend on the clock. -/
def data? (s : Store) (key : String) : Option Value :=
  if (s.readSlot ⟨0⟩ key).workspace.isSome then
    match s.backend.get key with
    | .ok (some text) => readNormal text
    | _ => none
  else none

/-- A slot gives a document of the data `v` at each clock reading. -/
structure Gives (s : Store) (key : String) (v : Value) (doc : Instant → Workspace) : Prop where
  read : ∀ t, (s.readSlot t key).workspace = some (doc t)
  twins : ∀ t₁ t₂, Workspace.Twin t₁ t₂ (Validation.Dated v) (changeDate? v) (doc t₁) (doc t₂)

theorem readText_workspace (s : Store) (t : Instant) (key text : String) :
    (s.readText t key text).workspace =
      (parseAndValidate s.options t text).toOption.map (·.workspace) := by
  unfold readText
  split
  next v h => rw [h]; rfl
  next h => rw [h]; rfl
  next e h => rw [h]; rfl

/-- Both readings of a text fail, or both give documents of its data. -/
theorem parse_cases (o : ValidationOptions) (t₁ t₂ : Instant) (text : String) :
    ((parseAndValidate o t₁ text).toOption = none ∧ (parseAndValidate o t₂ text).toOption = none) ∨
      ∃ r₁ r₂ v, (parseAndValidate o t₁ text).toOption = some r₁ ∧
        (parseAndValidate o t₂ text).toOption = some r₂ ∧ readNormal text = some v ∧
        Workspace.Twin t₁ t₂ (Validation.Dated v) (changeDate? v) r₁.workspace r₂.workspace := by
  have h := alike_parse o t₁ t₂ text
  generalize parseAndValidate o t₁ text = first at h ⊢
  generalize parseAndValidate o t₂ text = second at h ⊢
  cases first with
  | error e =>
      cases second with
      | error e' => exact Or.inl ⟨rfl, rfl⟩
      | ok r₂ => exact h.elim
  | ok r₁ =>
      cases second with
      | error e' => exact h.elim
      | ok r₂ =>
          obtain ⟨⟨v, hv, htwin⟩, -⟩ := h
          exact Or.inr ⟨r₁, r₂, v, rfl, rfl, hv, htwin⟩

/-- A text that gives a document at one time gives one at all times. -/
theorem twins_of_parse {o : ValidationOptions} {t₀ : Instant} {text : String}
    (h : (parseAndValidate o t₀ text).toOption ≠ none) :
    ∃ (v : Value) (doc : Instant → Workspace), readNormal text = some v ∧
      (∀ t, (parseAndValidate o t text).toOption.map (·.workspace) = some (doc t)) ∧
      ∀ t₁ t₂, Workspace.Twin t₁ t₂ (Validation.Dated v) (changeDate? v) (doc t₁) (doc t₂) := by
  have hboth : ∀ t₁ t₂, ∃ r₁ r₂ v, (parseAndValidate o t₁ text).toOption = some r₁ ∧
      (parseAndValidate o t₂ text).toOption = some r₂ ∧ readNormal text = some v ∧
      Workspace.Twin t₁ t₂ (Validation.Dated v) (changeDate? v) r₁.workspace r₂.workspace := by
    intro t₁ t₂
    -- the reading at `t₀` rules out that the one at `t₁` fails, and that the one at `t₂`
    rcases parse_cases o t₁ t₀ text with ⟨-, hfails⟩ | ⟨r, _, _, hr, -, -, -⟩
    · exact absurd hfails h
    · rcases parse_cases o t₁ t₂ text with ⟨hfails, -⟩ | hboth
      · rw [hfails] at hr
        cases hr
      · exact hboth
  have hdocs : ∀ t, ∃ r, (parseAndValidate o t text).toOption = some r := by
    intro t
    obtain ⟨r, -, -, hr, -⟩ := hboth t t
    exact ⟨r, hr⟩
  choose doc hdoc using hdocs
  obtain ⟨-, -, v, -, -, hv, -⟩ := hboth t₀ t₀
  refine ⟨v, fun t => (doc t).workspace, hv, fun t => by rw [hdoc]; rfl, ?_⟩
  intro t₁ t₂
  obtain ⟨r₁, r₂, v', hr₁, hr₂, hv', htwin⟩ := hboth t₁ t₂
  cases hv.symm.trans hv'
  cases (hdoc t₁).symm.trans hr₁
  cases (hdoc t₂).symm.trans hr₂
  exact htwin

/-- A slot that gives a document holds a text, and is read as that text is. -/
theorem text_of_readSlot {s : Store} {key : String} {t₀ : Instant}
    (h : (s.readSlot t₀ key).workspace ≠ none) :
    ∃ text, s.backend.get key = .ok (some text) ∧ ∀ t, (s.readSlot t key).workspace =
      (parseAndValidate s.options t text).toOption.map (·.workspace) := by
  cases hget : s.backend.get key with
  | error e => exact absurd (by rw [readSlot, hget]) h
  | ok stored =>
      cases stored with
      | none => exact absurd (by rw [readSlot, hget]; rfl) h
      | some text =>
          by_cases hblank : Text.isBlankText text = true
          · -- a blank text counts as no text
            exact absurd (by rw [readSlot, hget]; simp [hblank, LoadedWorkspace.empty]) h
          · refine ⟨text, rfl, ?_⟩
            intro t
            rw [readSlot, hget, ← readText_workspace s t key text]
            simp [hblank]

/-- A slot gives no document at any time, or one at all times. -/
theorem gives_cases (s : Store) (key : String) :
    (s.data? key = none ∧ ∀ t, (s.readSlot t key).workspace = none) ∨
      ∃ v doc, s.data? key = some v ∧ s.Gives key v doc := by
  by_cases hnone : ∀ t, (s.readSlot t key).workspace = none
  · refine Or.inl ⟨?_, hnone⟩
    rw [data?, hnone]
    rfl
  · obtain ⟨t₀, ht₀⟩ := not_forall.mp hnone
    obtain ⟨text, hget, hread⟩ := text_of_readSlot ht₀
    have hparse : (parseAndValidate s.options t₀ text).toOption ≠ none := by
      intro hfails
      exact ht₀ (by rw [hread, hfails]; rfl)
    obtain ⟨v, doc, hv, hdoc, htwins⟩ := twins_of_parse hparse
    refine Or.inr ⟨v, doc, ?_, fun t => (hread t).trans (hdoc t), htwins⟩
    rw [data?, (hread ⟨0⟩).trans (hdoc ⟨0⟩), hget]
    exact hv

namespace Gives

variable {s : Store} {key : String} {v : Value} {doc : Instant → Workspace}

theorem updatedAt (h : s.Gives key v doc) (t : Instant) :
    (doc t).updatedAt = (changeDate? v).getD t.stamp := (h.twins t t).left

/-- With all timestamps stored, the content is one at all times. -/
theorem pages_eq (h : s.Gives key v doc) (hdated : Validation.Dated v) (t₁ t₂ : Instant) :
    (doc t₁).pages = (doc t₂).pages := (h.twins t₁ t₂).pages.same (Or.inr hdated)

theorem sameContent (h : s.Gives key v doc) (hdated : Validation.Dated v) (t₁ t₂ : Instant) :
    (doc t₁).sameContent (doc t₂) = true :=
  Workspace.sameContent_of_eq (h.twins t₁ t₂).id (h.twins t₁ t₂).name (h.pages_eq hdated t₁ t₂)
    (h.twins t₁ t₂).defaultPageId (h.twins t₁ t₂).schemaVersion

/-- One timestamp from the clock shows in the content. -/
theorem dated (h : s.Gives key v doc) {t₁ t₂ : Instant} (hstamp : t₁.stamp ≠ t₂.stamp)
    (hdates : (doc t₁).pages.map Page.dates = (doc t₂).pages.map Page.dates) :
    Validation.Dated v := by
  by_contra hdated
  exact (h.twins t₁ t₂).pages.differ (fun hfixed => hfixed.elim hstamp hdated) hdates

end Gives

/-! ## §3. The condition. -/

/-- At a clock reading, the draft and the committed document have one content. -/
def SameAt (s : Store) (t : Instant) : Prop :=
  ∃ d ∈ (s.loadDraft t).workspace, ∃ c ∈ (s.loadCommitted t).workspace, d.sameContent c = true

/-- The draft is kept at all times: its content is its own and never that of
the committed document, which is never newer. -/
def AlwaysKept (s : Store) (draft committed : Value) : Prop :=
  Validation.Dated draft ∧ ∀ t : Instant, ¬ s.SameAt t ∧
    Rfc3339.isBefore ((changeDate? draft).getD t.stamp) ((changeDate? committed).getD t.stamp) = false

/-- The draft is dropped at all times: it has the committed content, or both
dates are stored and its own is the older one. -/
def AlwaysDropped (s : Store) (draft committed : Value) : Prop :=
  Validation.Dated committed ∧ ((Validation.Dated draft ∧ ∀ t, s.SameAt t) ∨
    ∃ a ∈ changeDate? draft, ∃ b ∈ changeDate? committed, Rfc3339.isBefore a b = true)

/-- What is stored settles what a load gives: a single document has all its
timestamps, and of two the same one is chosen at all times. -/
def Settled (s : Store) : Prop :=
  match s.data? s.keys.draft, s.data? s.keys.committed with
  | none, none => True
  | some v, none | none, some v => Validation.Dated v
  | some d, some c => s.AlwaysKept d c ∨ s.AlwaysDropped d c

/-! ## §4. After the year 9999. -/

/-- Two clock readings whose stamps are no RFC 3339 timestamps. -/
def farFuture : Bool → Instant
  | false => ⟨253402300800000⟩
  | true => ⟨253402300800001⟩

theorem farFuture_stamp_ne : (farFuture false).stamp ≠ (farFuture true).stamp := by decide

theorem moment?_farFuture (b : Bool) : Rfc3339.moment? (farFuture b).stamp = none := by
  cases b <;> decide

/-- A date that is older in the far future is no clock date, and neither is the other. -/
theorem stored_of_isBefore_farFuture {d c : Option String} {b : Bool}
    (h : Rfc3339.isBefore (d.getD (farFuture b).stamp) (c.getD (farFuture b).stamp) = true) :
    ∃ x ∈ d, ∃ y ∈ c, Rfc3339.isBefore x y = true := by
  cases d with
  | none => simp [Rfc3339.isBefore, moment?_farFuture] at h
  | some x =>
      cases c with
      | none =>
          simp only [Option.getD_some, Option.getD_none, Rfc3339.isBefore, moment?_farFuture] at h
          split at h
          next hnone => cases hnone
          next => cases h
      | some y => exact ⟨x, rfl, y, rfl, h⟩

/-! ## §5. Two documents. -/

section Two

variable {s : Store} {d c : Value} {draft committed : Instant → Workspace}
  (hd : s.Gives s.keys.draft d draft) (hc : s.Gives s.keys.committed c committed)

include hd hc

theorem outcome_of_two (t : Instant) :
    Reconciled.outcome (s.load t) =
      if drops (draft t) (committed t) then (.committed, some (committed t), s.clearDraft.2)
      else (.draft, some (draft t), s) := by
  have hdraft : (s.loadDraft t).workspace = some (draft t) := hd.read t
  have hcommitted : (s.loadCommitted t).workspace = some (committed t) := hc.read t
  rw [outcome_load, hdraft, hcommitted]

theorem sameAt_iff (t : Instant) :
    s.SameAt t ↔ (draft t).sameContent (committed t) = true := by
  have hdraft : (s.loadDraft t).workspace = some (draft t) := hd.read t
  have hcommitted : (s.loadCommitted t).workspace = some (committed t) := hc.read t
  rw [SameAt, hdraft, hcommitted]
  simp

theorem drops_iff (t : Instant) :
    drops (draft t) (committed t) = true ↔
      s.SameAt t ∨ Rfc3339.isBefore ((changeDate? d).getD t.stamp)
        ((changeDate? c).getD t.stamp) = true := by
  rw [drops, Bool.or_eq_true, sameAt_iff hd hc, hd.updatedAt, hc.updatedAt]

/-- With all timestamps stored, the two contents are the same at all times or never. -/
theorem sameAt_of_dated (hdd : Validation.Dated d) (hcd : Validation.Dated c) {t : Instant}
    (h : s.SameAt t) (t' : Instant) : s.SameAt t' := by
  rw [sameAt_iff hd hc] at h ⊢
  have hdt := hd.twins t t'
  have hct := hc.twins t t'
  rw [Workspace.sameContent] at h ⊢
  rwa [← hdt.id, ← hdt.name, ← hd.pages_eq hdd t t', ← hdt.defaultPageId, ← hdt.schemaVersion,
    ← hct.id, ← hct.name, ← hc.pages_eq hcd t t', ← hct.defaultPageId, ← hct.schemaVersion]

theorem alike_of_settled (h : s.AlwaysKept d c ∨ s.AlwaysDropped d c) (t₁ t₂ : Instant) :
    Reconciled.Alike (s.load t₁) (s.load t₂) := by
  rcases h with ⟨hdated, hkept⟩ | ⟨hdated, hdropped⟩
  · -- both loads give the draft, which the clock leaves alone
    have hkeep : ∀ t, drops (draft t) (committed t) = false := by
      intro t
      rw [← Bool.not_eq_true, drops_iff hd hc]
      rintro (hsame | hold)
      · exact (hkept t).1 hsame
      · rw [(hkept t).2] at hold
        cases hold
    have houtcome : ∀ t, Reconciled.outcome (s.load t) = (.draft, some (draft t), s) := by
      intro t
      rw [outcome_of_two hd hc, hkeep]
      rfl
    apply alike_of_outcome <;> rw [houtcome, houtcome]
    exact Option.Rel.some (hd.sameContent hdated t₁ t₂)
  · -- both loads give the committed document
    have hdrop : ∀ t, drops (draft t) (committed t) = true := by
      intro t
      rw [drops_iff hd hc]
      rcases hdropped with ⟨-, hsame⟩ | ⟨x, hx, y, hy, hold⟩
      · exact Or.inl (hsame t)
      · rw [hx, hy]
        exact Or.inr hold
    have houtcome : ∀ t, Reconciled.outcome (s.load t)
        = (.committed, some (committed t), s.clearDraft.2) := by
      intro t
      rw [outcome_of_two hd hc, hdrop]
      rfl
    apply alike_of_outcome <;> rw [houtcome, houtcome]
    exact Option.Rel.some (hc.sameContent hdated t₁ t₂)

/-- All loads keep the draft, or all of them drop it. -/
theorem drops_const (h : ∀ t₁ t₂, Reconciled.Alike (s.load t₁) (s.load t₂)) (t₁ t₂ : Instant) :
    drops (draft t₁) (committed t₁) = drops (draft t₂) (committed t₂) := by
  have hsource : (Reconciled.outcome (s.load t₁)).1 = (Reconciled.outcome (s.load t₂)).1 :=
    (h t₁ t₂).source
  rw [outcome_of_two hd hc, outcome_of_two hd hc] at hsource
  cases h₁ : drops (draft t₁) (committed t₁) <;>
    cases h₂ : drops (draft t₂) (committed t₂) <;> simp [h₁, h₂] at hsource <;> rfl

/-- The content that two loads in the far future have in common. -/
theorem content_of_alike (h : ∀ t₁ t₂, Reconciled.Alike (s.load t₁) (s.load t₂)) :
    if drops (draft (farFuture false)) (committed (farFuture false))
    then (committed (farFuture false)).sameContent (committed (farFuture true)) = true
    else (draft (farFuture false)).sameContent (draft (farFuture true)) = true := by
  have hcontent : Option.Rel (fun v w => v.sameContent w = true)
      (Reconciled.outcome (s.load (farFuture false))).2.1
      (Reconciled.outcome (s.load (farFuture true))).2.1 := (h _ _).workspace
  rw [outcome_of_two hd hc, outcome_of_two hd hc,
    drops_const hd hc h (farFuture true) (farFuture false)] at hcontent
  split
  next hdrop =>
    rw [if_pos hdrop, if_pos hdrop] at hcontent
    simpa using hcontent
  next hdrop =>
    rw [if_neg hdrop, if_neg hdrop] at hcontent
    simpa using hcontent

theorem alwaysDropped_of_alike (h : ∀ t₁ t₂, Reconciled.Alike (s.load t₁) (s.load t₂))
    (hdrop : drops (draft (farFuture false)) (committed (farFuture false)) = true) :
    s.AlwaysDropped d c := by
  have hsame := content_of_alike hd hc h
  rw [if_pos hdrop] at hsame
  have hdates := Workspace.dates_of_sameContent hsame
  have hcd := hc.dated farFuture_stamp_ne hdates
  refine ⟨hcd, ?_⟩
  -- at both times the draft is dropped, and the clock is no reason then
  have hreason : ∀ b, s.SameAt (farFuture b) ∨
      ∃ x ∈ changeDate? d, ∃ y ∈ changeDate? c, Rfc3339.isBefore x y = true := by
    intro b
    have hb : drops (draft (farFuture b)) (committed (farFuture b)) = true := by
      rw [drops_const hd hc h (farFuture b) (farFuture false), hdrop]
    exact ((drops_iff hd hc (farFuture b)).mp hb).imp_right stored_of_isBefore_farFuture
  rcases hreason false with hf | hold
  · rcases hreason true with ht | hold
    · -- the draft has the content of a document that the clock leaves alone
      have hdd : Validation.Dated d := by
        refine hd.dated farFuture_stamp_ne ?_
        rw [Workspace.dates_of_sameContent ((sameAt_iff hd hc _).mp hf), hdates,
          Workspace.dates_of_sameContent ((sameAt_iff hd hc _).mp ht)]
      exact Or.inl ⟨hdd, sameAt_of_dated hd hc hdd hcd hf⟩
    · exact Or.inr hold
  · exact Or.inr hold

theorem alwaysKept_of_alike (h : ∀ t₁ t₂, Reconciled.Alike (s.load t₁) (s.load t₂))
    (hkeep : ¬ drops (draft (farFuture false)) (committed (farFuture false)) = true) :
    s.AlwaysKept d c := by
  have hsame := content_of_alike hd hc h
  rw [if_neg hkeep] at hsame
  refine ⟨hd.dated farFuture_stamp_ne (Workspace.dates_of_sameContent hsame), ?_⟩
  intro t
  rw [← drops_const hd hc h t, drops_iff hd hc, not_or, Bool.not_eq_true] at hkeep
  exact hkeep

theorem settled_of_alike (h : ∀ t₁ t₂, Reconciled.Alike (s.load t₁) (s.load t₂)) :
    s.AlwaysKept d c ∨ s.AlwaysDropped d c := by
  by_cases hdrop : drops (draft (farFuture false)) (committed (farFuture false)) = true
  · exact Or.inr (alwaysDropped_of_alike hd hc h hdrop)
  · exact Or.inl (alwaysKept_of_alike hd hc h hdrop)

end Two

/-! ## §6. One document, or none. -/

/-- With one of the slots empty, a load gives the document of the other. -/
theorem outcome_of_one {s : Store} {v : Value} {doc : Instant → Workspace}
    (h : (∀ t, (s.loadDraft t).workspace = none) ∧ s.Gives s.keys.committed v doc ∨
      (∀ t, (s.loadCommitted t).workspace = none) ∧ s.Gives s.keys.draft v doc) :
    ∃ source, ∀ t, Reconciled.outcome (s.load t) = (source, some (doc t), s) := by
  rcases h with ⟨hnone, hgives⟩ | ⟨hnone, hgives⟩
  · refine ⟨.committed, fun t => ?_⟩
    have hread : (s.loadCommitted t).workspace = some (doc t) := hgives.read t
    rw [outcome_load, hnone, hread]
  · refine ⟨.draft, fun t => ?_⟩
    have hread : (s.loadDraft t).workspace = some (doc t) := hgives.read t
    rw [outcome_load, hnone, hread]

theorem alike_iff_of_one {s : Store} {key : String} {v : Value} {doc : Instant → Workspace}
    {source : WorkspaceSource} (h : s.Gives key v doc)
    (houtcome : ∀ t, Reconciled.outcome (s.load t) = (source, some (doc t), s)) :
    (∀ t₁ t₂, Reconciled.Alike (s.load t₁) (s.load t₂)) ↔ Validation.Dated v := by
  constructor
  · intro hall
    have hcontent : Option.Rel (fun v w => v.sameContent w = true)
        (Reconciled.outcome (s.load (farFuture false))).2.1
        (Reconciled.outcome (s.load (farFuture true))).2.1 := (hall _ _).workspace
    rw [houtcome, houtcome] at hcontent
    have hsame : (doc (farFuture false)).sameContent (doc (farFuture true)) = true := by
      simpa using hcontent
    exact h.dated farFuture_stamp_ne (Workspace.dates_of_sameContent hsame)
  · intro hdated t₁ t₂
    apply alike_of_outcome <;> rw [houtcome, houtcome]
    exact Option.Rel.some (h.sameContent hdated t₁ t₂)

/-! ## §7. The whole store. -/

/-- Nothing is left to the clock where both documents are current and all
their timestamps are stored. -/
theorem settled_of_stored {s : Store} (stored : ∀ key ∈ [s.keys.draft, s.keys.committed],
    ∀ v ∈ s.data? key, Validation.Dated v ∧ ∃ date, changeDate? v = some date) : s.Settled := by
  have hdata := stored s.keys.draft (by simp)
  have hdata' := stored s.keys.committed (by simp)
  rcases s.gives_cases s.keys.draft with ⟨hdraft, -⟩ | ⟨d, draft, hdraft, hd⟩
  · rcases s.gives_cases s.keys.committed with ⟨hcommitted, -⟩ | ⟨c, committed, hcommitted, -⟩
    · rw [Settled, hdraft, hcommitted]
      trivial
    · rw [Settled, hdraft, hcommitted]
      exact (hdata' c hcommitted).1
  · rcases s.gives_cases s.keys.committed with ⟨hcommitted, -⟩ | ⟨c, committed, hcommitted, hc⟩
    · rw [Settled, hdraft, hcommitted]
      exact (hdata d hdraft).1
    · rw [Settled, hdraft, hcommitted]
      obtain ⟨hdd, x, hx⟩ := hdata d hdraft
      obtain ⟨hcd, y, hy⟩ := hdata' c hcommitted
      -- the same content drops the draft, and so does an older date
      by_cases hsame : s.SameAt ⟨0⟩
      · exact Or.inr ⟨hcd, Or.inl ⟨hdd, sameAt_of_dated hd hc hdd hcd hsame⟩⟩
      cases hold : Rfc3339.isBefore x y with
      | true => exact Or.inr ⟨hcd, Or.inr ⟨x, hx, y, hy, hold⟩⟩
      | false =>
          refine Or.inl ⟨hdd, fun t => ⟨fun h => ?_, by rw [hx, hy]; exact hold⟩⟩
          exact hsame (sameAt_of_dated hd hc hdd hcd h ⟨0⟩)

/-- **When loading depends on the clock.**  Whatever the slots hold, all loads
of it have one outcome exactly if what is stored settles it. -/
theorem load_clock_free_iff (s : Store) :
    (∀ t₁ t₂, Reconciled.Alike (s.load t₁) (s.load t₂)) ↔ s.Settled := by
  rcases s.gives_cases s.keys.draft with ⟨hdraft, hd⟩ | ⟨d, draft, hdraft, hd⟩
  · rcases s.gives_cases s.keys.committed with ⟨hcommitted, hc⟩ | ⟨c, committed, hcommitted, hc⟩
    · rw [Settled, hdraft, hcommitted]
      have houtcome : ∀ t, Reconciled.outcome (s.load t) = (.empty, none, s) := by
        intro t
        have hd' : (s.loadDraft t).workspace = none := hd t
        have hc' : (s.loadCommitted t).workspace = none := hc t
        rw [outcome_load, hd', hc']
      refine iff_of_true (fun t₁ t₂ => ?_) trivial
      apply alike_of_outcome <;> rw [houtcome, houtcome]
      exact Option.Rel.none
    · rw [Settled, hdraft, hcommitted]
      obtain ⟨source, houtcome⟩ := outcome_of_one (Or.inl ⟨hd, hc⟩)
      exact alike_iff_of_one hc houtcome
  · rcases s.gives_cases s.keys.committed with ⟨hcommitted, hc⟩ | ⟨c, committed, hcommitted, hc⟩
    · rw [Settled, hdraft, hcommitted]
      obtain ⟨source, houtcome⟩ := outcome_of_one (Or.inr ⟨hc, hd⟩)
      exact alike_iff_of_one hd houtcome
    · rw [Settled, hdraft, hcommitted]
      exact ⟨settled_of_alike hd hc, alike_of_settled hd hc⟩

/-- A document of version 0. -/
def olderDesk : Workspace :=
  ⟨"desk", "Desk", [.fresh "a" "A"], "a", "2024-01-01T00:00:00.000Z", "2024-01-01T00:00:00.000Z", 0⟩

/-- A draft of it, changed half a year later. -/
def newerDesk : Workspace :=
  { olderDesk with name := "New desk", updatedAt := "2024-07-01T00:00:00.000Z", schemaVersion }

/-- A store that holds the one as the committed document and the other as the draft. -/
def olderCommitted : Store :=
  .ofBackend ⟨.memory [(StorageKeys.standard.committed, olderDesk.compactText),
    (StorageKeys.standard.draft, newerDesk.compactText)], .none⟩

/-- A draft saved after the committed document was written is discarded once
the clock has passed its date: the committed document is of an older version,
and its migration dates it by the clock. -/
theorem newer_draft_discarded :
    (olderCommitted.load ⟨1719792000000⟩).1.source = .draft ∧
      (olderCommitted.load ⟨1719792000001⟩).1.source = .committed := by
  have holds : olderCommitted.backend.Holds [(StorageKeys.standard.committed,
      olderDesk.compactText), (StorageKeys.standard.draft, newerDesk.compactText)] := by
    refine ⟨fun _ _ => rfl, rfl, List.pairwise_pair.mpr ?_⟩
    show StorageKeys.standard.committed < StorageKeys.standard.draft
    decide +kernel
  have holder : olderDesk.Lossless := Workspace.lossless_of_plain (by decide)
  have hnewer : newerDesk.Lossless := Workspace.lossless_of_plain (by decide)
  -- both texts are read back, so only migration and validation are left to run
  have hload : ∀ t, (olderCommitted.load t).1 = (olderCommitted.reconcile
      (olderCommitted.readSlot t StorageKeys.standard.committed)
      (olderCommitted.readSlot t StorageKeys.standard.draft)).1 := fun _ => rfl
  rw [hload, hload, readSlot_of_lossless holds rfl holder, readSlot_of_lossless holds rfl hnewer,
    readSlot_of_lossless holds rfl holder, readSlot_of_lossless holds rfl hnewer]
  decide +kernel

end Store
end Dashboard
