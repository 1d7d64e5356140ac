/-
  Dashboard.Proofs.Storage.Writers
  ────────────────────────────────
  **WHICH UPDATES OF ONE FILE ARE KEPT.**

  A write reads the map of a file and then puts a new map in its place.  Each
  storage value has a lock of its own, which its call holds from the one step
  to the other; values for the same file know nothing of each other.  The
  steps of any number of values come in any order, and what took effect is
  written down (`Writers.landed`).

  An update is kept while the text under its key is the one it gave.  A call
  undoes updates exactly if changes landed since it read the map and they
  leave another key with something else than it read (`Timely`).  These are
  always changes of other values: the lock keeps out those of its own.

  Main results:
    Stands.timely_iff — what one step does to the updates before it
    updates_kept_iff  — the runs in which no update is lost
    two_writers_lose  — one in which an update is lost
-/
import Dashboard.Proofs.Storage.Calls
import Mathlib.Logic.Function.Basic

namespace Dashboard

/-! ## §1. Changes. -/

/-- What a call does to a map. -/
inductive Change where
  | put (key text : String)
  | drop (key : String)
  deriving DecidableEq, Repr

namespace Change

def key : Change → String
  | put key _ => key
  | drop key => key

/-- What the key has afterwards. -/
def text? : Change → Option String
  | put _ text => some text
  | drop _ => none

def apply : Change → Keyed String → Keyed String
  | put key text => Keyed.insert key text
  | drop key => Keyed.erase key

theorem sorted_apply {e : Keyed String} (sorted : e.Sorted) (c : Change) : (c.apply e).Sorted := by
  cases c with
  | put key text => exact sorted.insert key text
  | drop key => exact sorted.erase key

theorem get?_apply {e : Keyed String} (sorted : e.Sorted) (c : Change) (k : String) :
    (c.apply e).get? k = if c.key = k then c.text? else e.get? k := by
  cases c with
  | put key text => exact Keyed.get?_insert key k text e
  | drop key => exact Keyed.get?_erase sorted key k

/-- What a key has after changes in order, given what it had before them. -/
def shown (k : String) (first : Option String) (changes : List Change) : Option String :=
  changes.foldl (fun found c => if c.key = k then c.text? else found) first

theorem shown_append (k : String) (first : Option String) (a b : List Change) :
    shown k first (a ++ b) = shown k (shown k first a) b := List.foldl_append

theorem shown_concat (k : String) (first : Option String) (a : List Change) (c : Change) :
    shown k first (a ++ [c]) = if c.key = k then c.text? else shown k first a :=
  shown_append k first a [c]

/-- Changes of other keys do not show. -/
theorem shown_of_ne {k : String} (first : Option String) {changes : List Change}
    (h : ∀ c ∈ changes, c.key ≠ k) : shown k first changes = first := by
  induction changes generalizing first with
  | nil => rfl
  | cons c rest ih =>
      obtain ⟨hc, hrest⟩ := List.forall_mem_cons.mp h
      show shown k (if c.key = k then c.text? else first) rest = first
      rw [if_neg hc, ih first hrest]

end Change

/-! ## §2. Steps. -/

/-- A call that has read the map and holds the lock of its value. -/
structure Pending where
  change : Change
  entries : Keyed String
  /-- The number of changes that had landed when the map was read. -/
  seen : Nat
  deriving Repr

/-- A file, the calls under way on its storage values, which are known by
numbers, and the changes that took effect with the values they came through. -/
structure Writers where
  path : String
  octets : Option (List UInt8)
  pending : Nat → Option Pending
  landed : List (Nat × Change)

/-- An indivisible step of a call on a storage value. -/
inductive WriterStep where
  /-- The lock is taken and the map is read. -/
  | read (writer : Nat) (change : Change)
  /-- The new map takes the place of the file, and the lock is given back. -/
  | rename (writer : Nat)
  deriving DecidableEq, Repr

/-- The storage value of a step. -/
def WriterStep.writer : WriterStep → Nat
  | read writer _ => writer
  | rename writer => writer

namespace Writers

/-- A file with no call under way. -/
def start (path : String) (octets : Option (List UInt8)) : Writers :=
  ⟨path, octets, fun _ => none, []⟩

/-- The file as a medium. -/
def medium (s : Writers) : Medium := .file s.path s.octets

/-- A call has read the map. -/
def reading (s : Writers) (w : Nat) (c : Change) (e : Keyed String) : Writers :=
  { s with pending := Function.update s.pending w (some ⟨c, e, s.landed.length⟩) }

/-- A call has put its map in place. -/
def renamed (s : Writers) (w : Nat) (p : Pending) : Writers :=
  { s with
    octets := some (StorageFile.writeMap (p.change.apply p.entries))
    pending := Function.update s.pending w none
    landed := s.landed ++ [(w, p.change)] }

/-- A call is over without a change: a removal where there is no file. -/
def isIdle (s : Writers) : Change → Bool
  | .put _ _ => false
  | .drop _ => s.octets.isNone

/-- The state after a step; none where the step has to wait, or is none of any
call under way. -/
def step? (s : Writers) : WriterStep → Option Writers
  | .read w c =>
    if s.isIdle c then some s
    else if (s.pending w).isSome then none
    else
      match StorageFile.mapToChange s.path s.octets with
      | .ok e => some (s.reading w c e)
      -- a call that cannot read fails and gives the lock back
      | .error _ => some s
  | .rename w => (s.pending w).map (s.renamed w)

/-- What holds at every step of a run. -/
def Along (P : Writers → WriterStep → Prop) : Writers → List WriterStep → Prop
  | _, [] => True
  | s, x :: rest => P s x ∧ ∀ t ∈ s.step? x, Along P t rest

/-- The state after all steps of a run. -/
def run? (s : Writers) (steps : List WriterStep) : Option Writers := steps.foldlM step? s

/-! ### What a step can do. -/

theorem mem_step?_read {s t : Writers} {w : Nat} {c : Change} (h : t ∈ s.step? (.read w c)) :
    t = s ∨ s.pending w = none ∧
      ∃ e, StorageFile.mapToChange s.path s.octets = .ok e ∧ t = s.reading w c e := by
  unfold step? at h
  dsimp only at h
  split at h
  next => exact Or.inl (Option.some.inj h).symm
  next =>
    split at h
    next => cases h
    next hfree =>
      cases hmap : StorageFile.mapToChange s.path s.octets with
      | error error =>
          rw [hmap] at h
          exact Or.inl (Option.some.inj h).symm
      | ok e =>
          rw [hmap] at h
          refine Or.inr ⟨?_, e, rfl, (Option.some.inj h).symm⟩
          simpa using hfree

theorem mem_step?_rename {s t : Writers} {w : Nat} :
    t ∈ s.step? (.rename w) ↔ ∃ p, s.pending w = some p ∧ t = s.renamed w p := by
  show (s.pending w).map (s.renamed w) = some t ↔ _
  rw [Option.map_eq_some_iff]
  simp only [eq_comm]

/-- After a map was read, the call of that value is under way, and the others
are as they were. -/
theorem pending_reading {s : Writers} {w w' : Nat} {c : Change} {e : Keyed String} {p : Pending}
    (h : (s.reading w c e).pending w' = some p) :
    w' = w ∧ p = ⟨c, e, s.landed.length⟩ ∨ s.pending w' = some p := by
  have hupdate : Function.update s.pending w (some ⟨c, e, s.landed.length⟩) w' = some p := h
  by_cases hw : w' = w
  · subst hw
    rw [Function.update_self] at hupdate
    exact Or.inl ⟨rfl, (Option.some.inj hupdate).symm⟩
  · rw [Function.update_of_ne hw] at hupdate
    exact Or.inr hupdate

/-- After a map was put in place, that value has no call under way. -/
theorem pending_renamed {s : Writers} {w w' : Nat} {p p' : Pending}
    (h : (s.renamed w p).pending w' = some p') : w' ≠ w ∧ s.pending w' = some p' := by
  have hupdate : Function.update s.pending w none w' = some p' := h
  by_cases hw : w' = w
  · rw [hw, Function.update_self] at hupdate
    cases hupdate
  · rw [Function.update_of_ne hw] at hupdate
    exact ⟨hw, hupdate⟩

theorem landed_renamed (s : Writers) (w : Nat) (p : Pending) :
    (s.renamed w p).landed = s.landed ++ [(w, p.change)] := rfl

/-- **A call that nothing comes between** does what a call on the medium does. -/
theorem run?_alone {s : Writers} {w : Nat} {c : Change} {m : Medium} (free : s.pending w = none)
    (busy : s.isIdle c = false)
    (h : (match c with
      | .put key text => s.medium.set key text
      | .drop key => s.medium.remove key) = .ok m) :
    ∃ t, s.run? [.read w c, .rename w] = some t ∧ t.medium = m ∧ t.pending = s.pending ∧
      t.landed = s.landed ++ [(w, c)] := by
  have hchange : (StorageFile.mapToChange s.path s.octets).map (fun e =>
      Medium.file s.path (some (StorageFile.writeMap (c.apply e)))) = .ok m := by
    rw [← h]
    cases c with
    | put key text => rfl
    | drop key =>
        rw [medium]
        cases hoctets : s.octets with
        | none => simp [isIdle, hoctets] at busy
        | some octets => rfl
  cases hmap : StorageFile.mapToChange s.path s.octets with
  | error error =>
      rw [hmap] at hchange
      cases hchange
  | ok e =>
      rw [hmap] at hchange
      cases hchange
      let p : Pending := ⟨c, e, s.landed.length⟩
      have hread : s.step? (.read w c) = some (s.reading w c e) := by
        rw [step?, busy, free, hmap]
        rfl
      have hrename : (s.reading w c e).step? (.rename w)
          = some ((s.reading w c e).renamed w p) := by
        have hp : (s.reading w c e).pending w = some p := Function.update_self ..
        rw [step?, hp]
        rfl
      refine ⟨(s.reading w c e).renamed w p, ?_, rfl, ?_, rfl⟩
      · rw [run?, List.foldlM_cons, hread]
        show (s.reading w c e).run? [.rename w] = _
        rw [run?, List.foldlM_cons, hrename]
        rfl
      · show Function.update (Function.update s.pending w _) w none = s.pending
        rw [Function.update_idem, ← free, Function.update_eq_self]

/-! ## §3. Updates that are kept. -/

/-- Every key has what the last change of it gave, or what it had at the start. -/
def Keeps (s₀ s : Writers) : Prop :=
  ∀ k, s.medium.text? k = Change.shown k (s₀.medium.text? k) (s.landed.map (·.2))

/-- The changes that landed since a call read the map. -/
def missed (s : Writers) (p : Pending) : List (Nat × Change) := s.landed.drop p.seen

/-- What a call missed leaves every key but its own with what the call read. -/
def Unspoilt (s : Writers) (p : Pending) : Prop :=
  ∀ k, k ≠ p.change.key →
    Change.shown k (p.entries.get? k) ((s.missed p).map (·.2)) = p.entries.get? k

/-- A call that puts its map in place undoes nothing. -/
def Timely (s : Writers) : WriterStep → Prop
  | .read _ _ => True
  | .rename w => ∀ p ∈ s.pending w, s.Unspoilt p

variable {s₀ s t : Writers} {w : Nat} {p : Pending}

/-- **A completed write is read back** until the next change of its key lands. -/
theorem Keeps.get_of_put (h : s₀.Keeps s) (before : List (Nat × Change))
    {after : List (Nat × Change)} {k text : String}
    (hlanded : s.landed = before ++ (w, .put k text) :: after)
    (hafter : ∀ x ∈ after, x.2.key ≠ k) : s.medium.get k = .ok (some text) := by
  have htext : s.medium.text? k = some text := by
    rw [h k, hlanded, List.map_append, List.map_cons, Change.shown_append]
    show Change.shown k (if k = k then some text else _) _ = _
    rw [if_pos rfl, Change.shown_of_ne]
    intro c hc
    obtain ⟨x, hx, rfl⟩ := List.mem_map.mp hc
    exact hafter x hx
  unfold Medium.text? at htext
  split at htext
  next found hget => rw [hget, htext]
  next => cases htext

/-! ## §4. One step. -/

/-- The updates up to now are kept, and every call under way has read what they
were at that time. -/
structure Stands (s₀ s : Writers) : Prop where
  keeps : s₀.Keeps s
  read : ∀ w p, s.pending w = some p →
    p.seen ≤ s.landed.length ∧ p.entries.Sorted ∧
      ∀ k, p.entries.get? k
        = Change.shown k (s₀.medium.text? k) ((s.landed.take p.seen).map (·.2))

theorem Stands.start (path : String) (octets : Option (List UInt8)) :
    (Writers.start path octets).Stands (Writers.start path octets) := ⟨fun _ => rfl, nofun⟩

theorem text?_renamed (sorted : p.entries.Sorted) (k : String) :
    (s.renamed w p).medium.text? k
      = if p.change.key = k then p.change.text? else p.entries.get? k := by
  have hholds : (s.renamed w p).medium.Holds (p.change.apply p.entries) :=
    StorageFile.readMap_writeMap s.path (Change.sorted_apply sorted p.change)
  rw [hholds.text? k, Change.get?_apply sorted]

/-- What a call reads is what the keys have. -/
theorem text?_of_mapToChange {e : Keyed String}
    (h : StorageFile.mapToChange s.path s.octets = .ok e) (k : String) :
    s.medium.text? k = e.get? k := by
  rcases StorageFile.mapToChange_eq_ok h with hread | ⟨rfl, error, hread⟩
  · exact Medium.Holds.text? (m := s.medium) hread k
  · rw [medium, Medium.text?, Medium.get, hread]
    rfl

/-- A step at which a map is read. -/
theorem Stands.reads (h : s₀.Stands s) {c : Change} (ht : t ∈ s.step? (.read w c)) :
    s₀.Stands t := by
  rcases mem_step?_read ht with rfl | ⟨-, e, hmap, rfl⟩
  · exact h
  · refine ⟨h.keeps, ?_⟩
    intro w' p hp
    rcases pending_reading hp with ⟨-, rfl⟩ | hp
    · refine ⟨Nat.le_refl _, StorageFile.sorted_of_mapToChange hmap, ?_⟩
      intro k
      show e.get? k = Change.shown k _ ((s.landed.take s.landed.length).map (·.2))
      rw [List.take_length, ← h.keeps k, text?_of_mapToChange hmap]
    · exact h.read w' p hp

/-- **What one write does to the updates before it**: it keeps them exactly if
what its call missed leaves all other keys with what it read. -/
theorem Stands.rename (h : s₀.Stands s) (hp : s.pending w = some p) :
    s₀.Keeps (s.renamed w p) ↔ s.Unspoilt p := by
  obtain ⟨-, sorted, hentries⟩ := h.read w p hp
  have hsplit : ∀ k, Change.shown k (s₀.medium.text? k) (s.landed.map (·.2))
      = Change.shown k (p.entries.get? k) ((s.missed p).map (·.2)) := by
    intro k
    rw [hentries, ← Change.shown_append, ← List.map_append, missed, List.take_append_drop]
  refine forall_congr' fun k => ?_
  rw [landed_renamed, text?_renamed sorted, List.map_append, List.map_cons, List.map_nil,
    Change.shown_concat, hsplit]
  by_cases hk : p.change.key = k
  · -- its own key has what the call gives it
    rw [if_pos hk, if_pos hk]
    exact iff_of_true rfl fun hne => absurd hk.symm hne
  · rw [if_neg hk, if_neg hk]
    exact ⟨fun heq _ => heq.symm, fun heq => (heq (Ne.symm hk)).symm⟩

theorem Stands.renamed (h : s₀.Stands s) (hkeeps : s₀.Keeps (s.renamed w p)) :
    s₀.Stands (s.renamed w p) := by
  refine ⟨hkeeps, ?_⟩
  intro w' p' hp'
  obtain ⟨hseen, sorted, hentries⟩ := h.read w' p' (pending_renamed hp').2
  refine ⟨?_, sorted, ?_⟩
  · rw [landed_renamed, List.length_append]
    exact Nat.le_add_right_of_le hseen
  · intro k
    rw [landed_renamed, List.take_append_of_le_length hseen, hentries]

/-- **One step** keeps the updates before it exactly if it undoes nothing. -/
theorem Stands.timely_iff (h : s₀.Stands s) (x : WriterStep) :
    (∀ t ∈ s.step? x, s₀.Keeps t) ↔ s.Timely x := by
  cases x with
  | read w c => exact iff_of_true (fun t ht => (h.reads ht).keeps) trivial
  | rename w =>
      constructor
      · intro hkeeps p hp
        exact (h.rename hp).mp (hkeeps _ (mem_step?_rename.mpr ⟨p, hp, rfl⟩))
      · intro htimely t ht
        obtain ⟨p, hp, rfl⟩ := mem_step?_rename.mp ht
        exact (h.rename hp).mpr (htimely p hp)

theorem Stands.step (h : s₀.Stands s) {x : WriterStep} (ht : t ∈ s.step? x)
    (hkeeps : s₀.Keeps t) : s₀.Stands t := by
  cases x with
  | read w c => exact h.reads ht
  | rename w =>
      obtain ⟨p, -, rfl⟩ := mem_step?_rename.mp ht
      exact h.renamed hkeeps

/-! ## §5. Runs. -/

/-- No update is lost at any step exactly if every write undoes nothing. -/
theorem Stands.along_iff (h : s₀.Stands s) (steps : List WriterStep) :
    s.Along (fun s x => ∀ t ∈ s.step? x, s₀.Keeps t) steps ↔ s.Along Timely steps := by
  induction steps generalizing s with
  | nil => exact Iff.rfl
  | cons x rest ih =>
      constructor
      · rintro ⟨hkeeps, hrest⟩
        refine ⟨(h.timely_iff x).mp hkeeps, fun t ht => ?_⟩
        exact (ih (h.step ht (hkeeps t ht))).mp (hrest t ht)
      · rintro ⟨htimely, hrest⟩
        have hkeeps := (h.timely_iff x).mpr htimely
        exact ⟨hkeeps, fun t ht => (ih (h.step ht (hkeeps t ht))).mpr (hrest t ht)⟩

theorem Along.mono {P Q : Writers → WriterStep → Prop} {steps : List WriterStep}
    (h : s.Along P steps) (hPQ : ∀ s, ∀ x ∈ steps, P s x → Q s x) : s.Along Q steps := by
  induction steps generalizing s with
  | nil => trivial
  | cons x rest ih =>
      refine ⟨hPQ s x List.mem_cons_self h.1, fun t ht => ih (h.2 t ht) ?_⟩
      exact fun s y hy => hPQ s y (List.mem_cons_of_mem _ hy)

/-- What holds at the start and after every step holds at the end. -/
theorem Along.final {I : Writers → Prop} {steps : List WriterStep} (hstart : I s)
    (h : s.Along (fun s x => ∀ t ∈ s.step? x, I t) steps) (hrun : s.run? steps = some t) : I t := by
  induction steps generalizing s with
  | nil =>
      cases hrun
      exact hstart
  | cons x rest ih =>
      rw [run?, List.foldlM_cons] at hrun
      obtain ⟨u, hu, hrest⟩ := Option.bind_eq_some_iff.mp hrun
      exact ih (h.1 u hu) (h.2 u hu) hrest

/-- What the locks see to: the changes that a call has missed came through
other values than its own.  All changes came through values that take part. -/
structure Locked (takesPart : Nat → Prop) (s : Writers) : Prop where
  elsewhere : ∀ w p, s.pending w = some p → ∀ x ∈ s.missed p, x.1 ≠ w
  landed : ∀ x ∈ s.landed, takesPart x.1

namespace Locked

variable {takesPart : Nat → Prop}

theorem start (takesPart : Nat → Prop) (path : String) (octets : Option (List UInt8)) :
    (Writers.start path octets).Locked takesPart := ⟨nofun, nofun⟩

theorem step (h : s.Locked takesPart) {x : WriterStep} (hx : takesPart x.writer)
    (ht : t ∈ s.step? x) : t.Locked takesPart := by
  cases x with
  | read w c =>
      rcases mem_step?_read ht with rfl | ⟨-, e, -, rfl⟩
      · exact h
      · refine ⟨?_, h.landed⟩
        intro w' p hp
        rcases pending_reading hp with ⟨-, rfl⟩ | hp
        · -- a call that has just read has missed nothing
          show ∀ x ∈ s.landed.drop s.landed.length, x.1 ≠ w'
          rw [List.drop_length]
          exact nofun
        · exact h.elsewhere w' p hp
  | rename w =>
      obtain ⟨p, hp, rfl⟩ := mem_step?_rename.mp ht
      refine ⟨?_, ?_⟩
      · intro w' p' hp' x hmissed
        obtain ⟨hw, hp'⟩ := pending_renamed hp'
        rw [missed, landed_renamed, List.drop_append] at hmissed
        rcases List.mem_append.mp hmissed with hmissed | hmissed
        · exact h.elsewhere w' p' hp' x hmissed
        · -- the value that writes has no other call under way
          rw [List.mem_singleton.mp (List.mem_of_mem_drop hmissed)]
          exact Ne.symm hw
      · intro x hlanded
        rcases List.mem_append.mp hlanded with hlanded | hlanded
        · exact h.landed x hlanded
        · rw [List.mem_singleton.mp hlanded]
          exact hx

theorem along (h : s.Locked takesPart) {steps : List WriterStep}
    (hsteps : ∀ x ∈ steps, takesPart x.writer) : s.Along (fun s _ => s.Locked takesPart) steps := by
  induction steps generalizing s with
  | nil => trivial
  | cons x rest ih =>
      obtain ⟨hx, hrest⟩ := List.forall_mem_cons.mp hsteps
      exact ⟨h, fun t ht => ih (h.step hx ht) hrest⟩

/-- With a single value no call misses anything. -/
theorem timely (h : s.Locked (· = w)) {x : WriterStep} (hx : x.writer = w) : s.Timely x := by
  cases x with
  | read w' c => trivial
  | rename w' =>
      cases (hx : w' = w)
      intro p hp
      have hnone : s.missed p = [] := by
        refine List.eq_nil_iff_forall_not_mem.mpr fun x hmissed => ?_
        exact h.elsewhere w' p hp x hmissed (h.landed x (List.mem_of_mem_drop hmissed))
      intro k _
      rw [hnone]
      rfl

end Locked

/-- **Which updates are kept.**  In any run of any number of storage values for
one file, every key has what the last change of it gave, at every step, exactly
if no call that puts its map in place has missed a change that leaves another
key with something else than it read.  Such changes came through other values:
with a single value, whose lock every call takes, no update is ever lost. -/
theorem updates_kept_iff (path : String) (octets : Option (List UInt8)) (steps : List WriterStep) :
    ((start path octets).Along (fun s x => ∀ t ∈ s.step? x, (start path octets).Keeps t) steps ↔
      (start path octets).Along Timely steps) ∧
    (start path octets).Along
      (fun s _ => ∀ w p, s.pending w = some p → ∀ x ∈ s.missed p, x.1 ≠ w) steps ∧
    ∀ w, (∀ x ∈ steps, x.writer = w) →
      (start path octets).Along (fun s x => ∀ t ∈ s.step? x, (start path octets).Keeps t) steps := by
  have hlocked : ∀ takesPart, (∀ x ∈ steps, takesPart x.writer) →
      (start path octets).Along (fun s _ => s.Locked takesPart) steps :=
    fun takesPart hsteps => (Locked.start takesPart path octets).along hsteps
  have hiff := (Stands.start path octets).along_iff steps
  refine ⟨hiff, ?_, ?_⟩
  · exact (hlocked (fun _ => True) fun _ _ => trivial).mono fun _ _ _ h => h.elsewhere
  · intro w hsteps
    exact hiff.mpr ((hlocked (· = w) hsteps).mono fun _ x hx h => h.timely (hsteps x hx))

/-- One value that is used for two keys. -/
theorem one_value_keeps :
    let steps : List WriterStep :=
      [.read 7 (.put "a" "1"), .rename 7, .read 7 (.put "b" "2"), .rename 7]
    (∀ x ∈ steps, x.writer = 7) ∧
    ∃ s, (start "s.json" none).run? steps = some s ∧
      s.medium.get "a" = .ok (some "1") ∧ s.medium.get "b" = .ok (some "2") := by
  intro steps
  have hsteps : ∀ x ∈ steps, x.writer = 7 := by decide
  have hempty : (Medium.file "s.json" none).Holds [] := rfl
  obtain ⟨m, hset, hholds⟩ := hempty.set List.Pairwise.nil "a" "1"
  obtain ⟨t, hrun, rfl, hpending, hlanded⟩ :=
    run?_alone (s := start "s.json" none) (w := 7) (c := .put "a" "1") rfl rfl hset
  obtain ⟨m', hset', -⟩ := hholds.set (by decide) "b" "2"
  obtain ⟨s, hrun', -, -, hlanded'⟩ :=
    run?_alone (w := 7) (c := .put "b" "2") (congrFun hpending 7) rfl hset'
  have hwhole : (start "s.json" none).run? steps = some s := by
    show (start "s.json" none).run?
      ([.read 7 (.put "a" "1"), .rename 7] ++ [.read 7 (.put "b" "2"), .rename 7]) = some s
    rw [run?, List.foldlM_append]
    exact Option.bind_eq_some_iff.mpr ⟨t, hrun, hrun'⟩
  -- both changes landed, and the updates are kept
  have hkeeps : (start "s.json" none).Keeps s :=
    ((updates_kept_iff "s.json" none steps).2.2 7 hsteps).final (Stands.start _ _).keeps hwhole
  rw [hlanded] at hlanded'
  refine ⟨hsteps, s, hwhole, ?_, ?_⟩
  · exact hkeeps.get_of_put [] hlanded' (by decide)
  · exact hkeeps.get_of_put _ hlanded' nofun

/-- Two values that both read before either of them writes: the second write
undoes the first one, although it is of another key. -/
theorem two_writers_lose :
    ∃ s, (start "s.json" none).run?
        [.read 0 (.put "a" "1"), .read 1 (.put "b" "2"), .rename 0, .rename 1] = some s ∧
      s.landed = [(0, .put "a" "1"), (1, .put "b" "2")] ∧ s.pending 0 = none ∧ s.pending 1 = none ∧
      s.medium.get "a" = .ok none ∧ s.medium.get "b" = .ok (some "2") ∧
      ¬(start "s.json" none).Keeps s := by
  refine ⟨_, rfl, rfl, rfl, rfl, ?_⟩
  have hholds : (Medium.file "s.json" (some (StorageFile.writeMap [("b", "2")]))).Holds
      [("b", "2")] := StorageFile.readMap_writeMap "s.json" (by decide)
  have hlost := hholds.get "a"
  refine ⟨hlost, hholds.get "b", fun hkeeps => ?_⟩
  have hfound : Except.ok none = Except.ok (some "1") :=
    hlost.symm.trans (hkeeps.get_of_put [] rfl (by decide))
  cases hfound

end Writers
end Dashboard
