/-
  Dashboard.Storage.Store
  ───────────────────────
  The slots of a workspace: the draft, the committed document and the stored
  filters.

  Every read of a document goes through migration and validation, and never
  fails: what is wrong becomes an issue.  The working copy is the draft unless
  its content is the committed one or it is older than the committed document;
  a draft that loses is dropped from its slot.

  Main results:
    reconcile_committed — the committed document is never lost by the choice
-/
import Dashboard.Document.Encoding
import Dashboard.Document.Validation
import Dashboard.Filters
import Dashboard.Storage.Backend
import Dashboard.Time.Rfc3339

namespace Dashboard

open Text Time

/-! ## §1. Types. -/

/-- The keys of the slots. -/
structure StorageKeys where
  draft : String
  committed : String
  preferences : String
  deriving DecidableEq, Repr

/-- The usual keys. -/
def StorageKeys.standard : StorageKeys :=
  ⟨"dashkit.workspace.v1", "dashkit.workspace.committed.v1", "dashkit.prefs.v1"⟩

/-- What is wrong with a slot. -/
inductive SlotProblem where
  | unreadable (e : StorageError)
  /-- Its text is no JSON. -/
  | corrupted
  | invalid (e : ValidationError)
  /-- Its document was migrated or repaired. -/
  | repaired (warning : String)
  /-- Its draft is older than the committed document. -/
  | staleDraft
  deriving Repr

/-- A problem and the key of its slot. -/
structure SlotIssue where
  key : String
  problem : SlotProblem
  deriving Repr

/-- The wording of an issue. -/
def SlotIssue.message (i : SlotIssue) : String :=
  match i.problem with
  | .unreadable e => s!"Storage read failed for {i.key}: {e.message}"
  | .corrupted => s!"Corrupted JSON in {i.key}; reset to defaults."
  | .invalid e => s!"Validation failed for {i.key}: {e.message}"
  | .repaired warning => warning
  | .staleDraft => s!"Discarded stale draft in {i.key}; the committed workspace is newer."

/-- What a slot holds. -/
structure LoadedWorkspace where
  workspace : Option Workspace
  issues : List SlotIssue
  deriving Repr

/-- Nothing, and nothing wrong. -/
def LoadedWorkspace.empty : LoadedWorkspace := ⟨none, []⟩

/-- Where a working copy came from. -/
inductive WorkspaceSource where
  | draft
  | committed
  | empty
  deriving DecidableEq, Repr

/-- The working copy, the committed document and what was wrong. -/
structure Reconciled where
  workspace : Option Workspace
  committed : Option Workspace
  source : WorkspaceSource
  issues : List SlotIssue
  deriving Repr

/-- A backend, the keys of the slots, and how documents are validated. -/
structure Store where
  backend : Backend
  keys : StorageKeys
  options : ValidationOptions

namespace Store

/-! ## §2. Documents. -/

/-- A store with the usual keys, which repairs what it reads. -/
def ofBackend (backend : Backend) : Store := ⟨backend, .standard, .ofMode .safe⟩

/-- The document that a text writes. -/
def readText (s : Store) (now : Instant) (key text : String) : LoadedWorkspace :=
  match parseAndValidate s.options now text with
  | .ok v => ⟨some v.workspace, v.warnings.map fun w => ⟨key, .repaired w⟩⟩
  | .error .corrupted => ⟨none, [⟨key, .corrupted⟩]⟩
  | .error e => ⟨none, [⟨key, .invalid e⟩]⟩

/-- The document of a slot. -/
def readSlot (s : Store) (now : Instant) (key : String) : LoadedWorkspace :=
  match s.backend.get key with
  | .error e => ⟨none, [⟨key, .unreadable e⟩]⟩
  | .ok none => .empty
  | .ok (some text) => if isBlankText text then .empty else s.readText now key text

def loadDraft (s : Store) (now : Instant) : LoadedWorkspace := s.readSlot now s.keys.draft

def loadCommitted (s : Store) (now : Instant) : LoadedWorkspace :=
  s.readSlot now s.keys.committed

/-- Write a text to a slot. -/
def write (s : Store) (key text : String) : Except StorageError Unit × Store :=
  let (r, backend) := s.backend.set key text
  (r, { s with backend })

/-- Write the draft. -/
def saveDraft (s : Store) (w : Workspace) : Except StorageError Unit × Store :=
  s.write s.keys.draft w.compactText

/-- Drop the draft. -/
def clearDraft (s : Store) : Except StorageError Unit × Store :=
  let (r, backend) := s.backend.remove s.keys.draft
  (r, { s with backend })

/-- The committed form of a document: of the current version, changed now. -/
def committedForm (now : Instant) (w : Workspace) : Workspace :=
  ({ w with schemaVersion }).touch now

/-- Write a document to the committed slot and, once that is done, drop the
draft; that the draft could not be dropped does not count. -/
def commit (s : Store) (now : Instant) (w : Workspace) :
    Except StorageError Workspace × Store :=
  let committed := committedForm now w
  match s.write s.keys.committed committed.compactText with
  | (.error e, s) => (.error e, s)
  | (.ok _, s) => (.ok committed, s.clearDraft.2)

/-! ## §3. Filters. -/

/-- Write the filters. -/
def savePreferences (s : Store) (f : Filters) : Except StorageError Unit × Store :=
  s.write s.keys.preferences f.toStored

/-- The stored filters; none where they cannot be read. -/
def loadPreferences (s : Store) : Filters :=
  match s.backend.get s.keys.preferences with
  | .ok (some text) => .ofStored text
  | _ => .none

/-! ## §4. The working copy. -/

/-- Choose the working copy between a committed document and a draft. -/
def reconcile (s : Store) (committed draft : LoadedWorkspace) : Reconciled × Store :=
  let issues := committed.issues ++ draft.issues
  match draft.workspace, committed.workspace with
  | none, some base => (⟨some base, some base, .committed, issues⟩, s)
  | none, none => (⟨none, none, .empty, issues⟩, s)
  | some d, none => (⟨some d, none, .draft, issues⟩, s)
  | some d, some base =>
    -- a draft of the same content says nothing new
    if d.sameContent base then
      (⟨some base, some base, .committed, issues⟩, s.clearDraft.2)
    -- and an older one has been overtaken
    else if Rfc3339.isBefore d.updatedAt base.updatedAt then
      (⟨some base, some base, .committed, issues ++ [⟨s.keys.draft, .staleDraft⟩]⟩,
        s.clearDraft.2)
    else (⟨some d, some base, .draft, issues⟩, s)

/-- Read both slots and choose the working copy. -/
def load (s : Store) (now : Instant) : Reconciled × Store :=
  s.reconcile (s.loadCommitted now) (s.loadDraft now)

theorem reconcile_committed (s : Store) (committed draft : LoadedWorkspace) :
    (s.reconcile committed draft).1.committed = committed.workspace := by
  unfold reconcile
  repeat' split
  all_goals simp_all

end Store
end Dashboard
