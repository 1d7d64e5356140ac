/-
  Dashboard.Proofs.Poll.Mounting
  ──────────────────────────────
  **WHAT MOUNTING ONE PANEL LEAVES ALONE.**

  Mounting or unmounting a panel concerns that panel (`Rearranges`): all others
  stay mounted as they are, their workers go on undisturbed, and the host has
  no other parts that change.  A worker that the panel had is told to stop, and
  works for nobody (`Dismisses`), unless the panel goes on as it was mounted
  before (`Unchanged`).

  Main results:
    mountFresh_spec      — what mounting afresh does, part by part
    Rearranges.trans     — steps one after the other
    Rearranges.place     — one step of a list, between those before and after it
    rearranges_mount     — the step of one panel
    dismisses_mountFresh — what becomes of the worker it had
-/
import Mathlib.Data.List.Nodup
import Dashboard.Proofs.Poll.Turns

namespace Dashboard

/-! ## §1. Workers of a pool. -/

/-- A worker told to stop keeps its id. -/
theorem PollWorker.stop_id (w : PollWorker) : w.stop.id = w.id := by
  unfold stop abort
  split <;> rfl

/-- A worker that has been told to stop at a time. -/
def PooledWorker.dismissed (s : PooledWorker) (clock : Nat) : PooledWorker :=
  ⟨s.worker.stop, clock⟩

namespace Pool

/-- The workers of an id. -/
def staff (p : Pool) (k : Nat) : List PooledWorker := p.workers.filter (·.worker.id == k)

/-- Stop a worker, if there is one to stop. -/
def release (p : Pool) : Option Nat → Pool
  | some k => p.stop k
  | none => p

/-- Start a worker, if there is something to do. -/
def hire (p : Pool) : Option PollTask → Except SpawnFailure (Option Nat) × Pool
  | some task => ((p.spawn task).1.map some, (p.spawn task).2)
  | none => (.ok none, p)

variable (p : Pool)

/-- The worker that is told to stop is dismissed at the time of the pool. -/
theorem staff_stop_self (k : Nat) : (p.stop k).staff k = (p.staff k).map (·.dismissed p.clock) := by
  show (p.workers.map _).filter _ = (p.workers.filter _).map _
  induction p.workers with
  | nil => rfl
  | cons s rest ih =>
    rw [List.map_cons]
    by_cases hs : s.worker.id = k
    · have hstopped : s.worker.stop.id = k := (PollWorker.stop_id s.worker).trans hs
      rw [if_pos hs, List.filter_cons_of_pos (by simpa using hstopped),
        List.filter_cons_of_pos (by simpa using hs), ih]
      rfl
    · rw [if_neg hs, List.filter_cons_of_neg (by simpa using hs),
        List.filter_cons_of_neg (by simpa using hs), ih]

/-- The other workers go on. -/
theorem staff_stop_of_ne {j k : Nat} (hj : j ≠ k) : (p.stop j).staff k = p.staff k := by
  show (p.workers.map _).filter _ = p.workers.filter _
  induction p.workers with
  | nil => rfl
  | cons s rest ih =>
    rw [List.map_cons]
    by_cases hs : s.worker.id = j
    · have hstopped : s.worker.stop.id = j := (PollWorker.stop_id s.worker).trans hs
      rw [if_pos hs, List.filter_cons_of_neg (by simpa [hstopped] using hj),
        List.filter_cons_of_neg (by simpa [hs] using hj), ih]
    · rw [if_neg hs, List.filter_cons, List.filter_cons, ih]

/-- A panel without this worker cannot release it. -/
theorem staff_release_of_ne {worker : Option Nat} {k : Nat} (hk : worker ≠ some k) :
    (p.release worker).staff k = p.staff k := by
  cases worker with
  | none => rfl
  | some j => exact p.staff_stop_of_ne fun hj => hk (congrArg some hj)

/-- A release concerns the workers alone. -/
theorem release_eq (worker : Option Nat) : ∃ workers, p.release worker = { p with workers } := by
  cases worker <;> exact ⟨_, rfl⟩

/-- A worker that starts is the last, under a new id; one that does not start
leaves the workers as they are. -/
theorem spawn_cases (task : PollTask) :
    (∃ e, p.failure? (p.lastId + 1) task = some e ∧
      p.spawn task = (.error e, { p with lastId := p.lastId + 1 })) ∨
    (p.failure? (p.lastId + 1) task = none ∧
      p.spawn task = (.ok (p.lastId + 1), { p with
        workers := p.workers ++ [⟨.fresh (p.lastId + 1) task, p.clock⟩]
        lastId := p.lastId + 1 })) := by
  unfold spawn
  cases hfails : p.failure? (p.lastId + 1) task with
  | some e => exact .inl ⟨e, rfl, by simp only [hfails]⟩
  | none => exact .inr ⟨rfl, by simp only [hfails]⟩

theorem hire_some (task : PollTask) :
    p.hire (some task) = ((p.spawn task).1.map some, (p.spawn task).2) :=
  rfl

/-- Hiring concerns the workers and the last id. -/
theorem hire_eq (task : Option PollTask) :
    ∃ workers lastId, (p.hire task).2 = { p with workers, lastId } := by
  cases task with
  | none => exact ⟨_, _, rfl⟩
  | some task =>
    rw [hire_some]
    rcases p.spawn_cases task with ⟨e, -, hspawn⟩ | ⟨-, hspawn⟩
    · rw [hspawn]
      exact ⟨_, _, rfl⟩
    · rw [hspawn]
      exact ⟨_, _, rfl⟩

/-- Workers that are there stay as they are when one is started. -/
theorem staff_hire_of_le {k : Nat} (hk : k ≤ p.lastId) (task : Option PollTask) :
    (p.hire task).2.staff k = p.staff k := by
  cases task with
  | none => rfl
  | some task =>
    rw [hire_some]
    rcases p.spawn_cases task with ⟨e, -, hspawn⟩ | ⟨-, hspawn⟩
    · rw [hspawn]
      rfl
    · have hother : p.lastId + 1 ≠ k := by omega
      rw [hspawn]
      show (p.workers ++ [_]).filter _ = p.workers.filter _
      rw [List.filter_append, List.filter_cons_of_neg (by simpa [PollWorker.fresh] using hother)]
      simp

/-- Where nothing failed, a worker has started exactly if there is a task, under
a new id. -/
theorem hire_cases {task : Option PollTask} {worker : Option Nat}
    (hok : (p.hire task).1 = .ok worker) :
    (task = none ∧ worker = none) ∨
    ∃ t, task = some t ∧ worker = some (p.lastId + 1) ∧
      (p.hire task).2.lastId = p.lastId + 1 ∧
      ⟨.fresh (p.lastId + 1) t, p.clock⟩ ∈ (p.hire task).2.staff (p.lastId + 1) := by
  cases task with
  | none => exact .inl ⟨rfl, (Except.ok.inj hok).symm⟩
  | some t =>
    rw [hire_some] at hok ⊢
    rcases p.spawn_cases t with ⟨e, -, hspawn⟩ | ⟨-, hspawn⟩
    · rw [hspawn] at hok
      exact nomatch hok
    · rw [hspawn] at hok ⊢
      refine .inr ⟨t, rfl, (Except.ok.inj hok).symm, rfl, ?_⟩
      exact List.mem_filter.mpr ⟨List.mem_append_right _ List.mem_cons_self, beq_self_eq_true _⟩

end Pool

namespace Host

variable {h h' h'' : Host} {p : Panel} {id : String} {k : Nat}

/-! ## §2. What a panel needs. -/

/-- What the worker of a panel would do, where it needs one. -/
def task? (h : Host) (p : Panel) : Option PollTask :=
  if h.settings.background then
    (h.endpointOf p).map fun endpoint => ⟨p.id, endpoint, h.intervalOf p, h.settings.timeout⟩
  else none

/-- A panel just mounted. -/
def started (h : Host) (p : Panel) (now : Int) (worker : Option Nat) : MountedPanel :=
  ⟨p, h.endpointOf p, h.intervalOf p, .fresh now, .fresh, .unknown, now, worker⟩

/-- A panel is mounted already, with the same widget, endpoint and interval. -/
structure Unchanged (h : Host) (p : Panel) (m : MountedPanel) : Prop where
  mounted : h.mounted? p.id = some m
  widget : m.panel.widgetId = p.widgetId
  endpoint : m.endpoint = h.endpointOf p
  interval : m.interval = h.intervalOf p

/-- The panel that goes on is the unchanged one. -/
theorem filter_continues_eq_some {m : MountedPanel} :
    (h.mounted? p.id).filter (fun m => h.continues m p) = some m ↔ h.Unchanged p m := by
  rw [Option.filter_eq_some_iff, continues]
  simp only [Bool.and_eq_true, beq_iff_eq]
  exact ⟨fun ⟨hm, ⟨hwidget, hendpoint⟩, hinterval⟩ => ⟨hm, hwidget, hendpoint, hinterval⟩,
    fun u => ⟨u.mounted, ⟨u.widget, u.endpoint⟩, u.interval⟩⟩

/-- Mounting an unchanged panel only takes its new document. -/
theorem Unchanged.mount {m : MountedPanel} (u : h.Unchanged p m) (now : Int) :
    h.mount p now =
      (.ok (), { h with mounted := h.mounted.insert p.id { m with panel := p } }) := by
  unfold Host.mount
  rw [filter_continues_eq_some.mpr u]

/-- Any other panel is mounted afresh. -/
theorem mount_of_changed (hchanged : ∀ m, ¬ h.Unchanged p m) (now : Int) :
    h.mount p now = h.mountFresh p now := by
  have hnone : (h.mounted? p.id).filter (fun m => h.continues m p) = none :=
    Option.eq_none_iff_forall_ne_some.mpr fun m hm => hchanged m (filter_continues_eq_some.mp hm)
  unfold mount
  rw [hnone]

theorem worker?_eq_of_mounted {m : MountedPanel} (hm : h.mounted? id = some m) :
    h.worker? id = m.worker := by
  rw [worker?, h.polling?_of_mounted hm]
  rfl

/-- The panel goes, and its worker is released. -/
theorem unmount_spec (h : Host) (id : String) : (h.unmount id).2 =
    { h with mounted := h.mounted.erase id, pool := h.pool.release (h.worker? id) } := by
  unfold unmount
  cases hm : h.mounted? id with
  | none =>
    have hworker : h.worker? id = none := by rw [worker?, h.polling?_of_not_mounted hm]; rfl
    rw [hworker, Keyed.erase_of_get?_eq_none hm]
    rfl
  | some m =>
    rw [worker?_eq_of_mounted hm]
    cases hworker : m.worker <;> simp only [hworker] <;> rfl

/-- A worker is hired for the panel's task, if it has one. -/
theorem spawnWorker_spec (h : Host) (p : Panel) : h.spawnWorker p = h.pool.hire (h.task? p) := by
  unfold spawnWorker task?
  cases h.endpointOf p <;> cases h.settings.background <;> rfl

/-- The old panel and its worker go first; then a worker may be hired, and only
then is the panel mounted. -/
theorem mountFresh_spec (h : Host) (p : Panel) (now : Int) :
    h.mountFresh p now =
      match (h.pool.release (h.worker? p.id)).hire (h.task? p) with
      | (.error e, pool) => (.error ⟨p.id, e⟩, { h with pool, mounted := h.mounted.erase p.id })
      | (.ok worker, pool) =>
        (.ok (), { h with
          pool
          mounted := (h.mounted.erase p.id).insert p.id (h.started p now worker) }) := by
  unfold mountFresh
  rw [unmount_spec]
  dsimp only
  rw [spawnWorker_spec]
  rfl

/-- The pool is the same whether the worker starts or not. -/
theorem pool_mountFresh (h : Host) (p : Panel) (now : Int) :
    (h.mountFresh p now).2.pool = ((h.pool.release (h.worker? p.id)).hire (h.task? p)).2 := by
  rw [mountFresh_spec]
  generalize Pool.hire _ _ = hired
  obtain ⟨_ | _, pool⟩ := hired <;> rfl

/-! ## §3. Steps that concern some panels. -/

/-- What mounting and unmounting the panels of some ids does to a host: the
other panels are as they were, and so are all workers that are none of theirs,
and the host has no other parts. -/
structure Rearranges (h : Host) (ids : List String) (h' : Host) : Prop where
  later : h.Later h'
  rest : ∃ mounted workers lastId,
    h' = { h with mounted, pool := { h.pool with workers, lastId } }
  others : ∀ id, id ∉ ids → h'.mounted? id = h.mounted? id
  staff : ∀ k, k ≤ h.pool.lastId → (∀ id ∈ ids, h.worker? id ≠ some k) →
    h'.pool.staff k = h.pool.staff k

namespace Rearranges

variable {ids ids' : List String}

/-- Doing nothing concerns no panel. -/
theorem refl (hs : h.Staffed) : h.Rearranges [] h where
  later := hs.later
  rest := ⟨_, _, _, rfl⟩
  others := fun _ _ => rfl
  staff := fun _ _ _ => rfl

/-- The other panels keep their workers. -/
theorem worker? (r : h.Rearranges ids h') (hid : id ∉ ids) : h'.worker? id = h.worker? id := by
  rw [Host.worker?, Host.worker?, polling?, polling?, r.others id hid]

/-- No time passes. -/
theorem clock (r : h.Rearranges ids h') : h'.pool.clock = h.pool.clock := by
  obtain ⟨_, _, _, rfl⟩ := r.rest
  rfl

/-- What a panel is polled from, and how often, are not up to what is mounted. -/
theorem started (r : h.Rearranges ids h') (p : Panel) : h'.started p = h.started p := by
  obtain ⟨_, _, _, rfl⟩ := r.rest
  rfl

/-- What a panel has to poll depends on settings that stay. -/
theorem task? (r : h.Rearranges ids h') (p : Panel) : h'.task? p = h.task? p := by
  obtain ⟨_, _, _, rfl⟩ := r.rest
  rfl

/-- Whether another panel is unchanged stays so. -/
theorem unchanged_iff (r : h.Rearranges ids h') (hid : p.id ∉ ids) {m : MountedPanel} :
    h'.Unchanged p m ↔ h.Unchanged p m := by
  have hmounted := r.others p.id hid
  obtain ⟨mounted, workers, lastId, rfl⟩ := r.rest
  exact ⟨fun u => ⟨hmounted.symm.trans u.mounted, u.widget, u.endpoint, u.interval⟩,
    fun u => ⟨hmounted.trans u.mounted, u.widget, u.endpoint, u.interval⟩⟩

/-- A worker that was there is the worker of no other panel afterwards. -/
theorem worker?_of_le (r : h.Rearranges ids h') (hk : k ≤ h.pool.lastId)
    (hworker : h'.worker? id = some k) : h.worker? id = some k := by
  rcases r.later.workers id k hworker with hold | hnew
  · exact hold
  · omega

/-- Two steps concern the panels of both. -/
theorem trans (first : h.Rearranges ids h') (second : h'.Rearranges ids' h'') :
    h.Rearranges (ids ++ ids') h'' where
  later := first.later.trans second.later
  rest := by
    obtain ⟨_, _, _, rfl⟩ := first.rest
    obtain ⟨_, _, _, rfl⟩ := second.rest
    exact ⟨_, _, _, rfl⟩
  others := by
    intro id hid
    obtain ⟨hid, hid'⟩ := not_or.mp (List.mem_append.not.mp hid)
    exact (second.others id hid').trans (first.others id hid)
  staff := by
    intro k hk hforeign
    have hfirst := first.staff k hk fun id hid => hforeign id (List.mem_append_left _ hid)
    have hle := Nat.le_trans hk first.later.lastId
    refine (second.staff k hle fun id hid hworker => ?_).trans hfirst
    exact hforeign id (List.mem_append_right _ hid) (first.worker?_of_le hk hworker)

/-- What holds of one step holds of a list of them. -/
theorem foldl {α : Type} (f : Host → α → Host) (key : α → String)
    (hf : ∀ (h : Host) (a : α), h.Staffed → h.Rearranges [key a] (f h a)) (hs : h.Staffed)
    (l : List α) : h.Rearranges (l.map key) (l.foldl f h) := by
  induction l generalizing h with
  | nil => exact .refl hs
  | cons a rest ih =>
    have hnext := hf h a hs
    exact hnext.trans (ih hnext.later.staffed)

/-- One step of a list, between those before it and those after it. -/
theorem place {α : Type} (f : Host → α → Host) (key : α → String)
    (hf : ∀ (h : Host) (a : α), h.Staffed → h.Rearranges [key a] (f h a)) (hs : h.Staffed)
    {l : List α} (distinct : (l.map key).Nodup) {a : α} (ha : a ∈ l) :
    ∃ before after h₁, h.Rearranges before h₁ ∧ (f h₁ a).Rearranges after (l.foldl f h) ∧
      key a ∉ before ∧ key a ∉ after := by
  obtain ⟨l₁, l₂, rfl⟩ := List.append_of_mem ha
  rw [List.map_append, List.map_cons] at distinct
  have hfirst := foldl f key hf hs l₁
  have hstep := hf (l₁.foldl f h) a hfirst.later.staffed
  have hlast := foldl f key hf hstep.later.staffed l₂
  obtain ⟨hoccurs, -⟩ := List.nodup_cons.mp (List.nodup_middle.mp distinct)
  obtain ⟨hbefore, hafter⟩ := not_or.mp (List.mem_append.not.mp hoccurs)
  refine ⟨l₁.map key, l₂.map key, l₁.foldl f h, hfirst, ?_, hbefore, hafter⟩
  rw [List.foldl_append, List.foldl_cons]
  exact hlast

end Rearranges

/-! ## §4. The step of one panel. -/

theorem rearranges_unmount (hs : h.Staffed) (id : String) : h.Rearranges [id] (h.unmount id).2 where
  later := hs.later_unmount id
  rest := by
    rw [unmount_spec]
    obtain ⟨workers, hpool⟩ := h.pool.release_eq (h.worker? id)
    exact ⟨_, workers, h.pool.lastId, by rw [hpool]⟩
  others := by
    intro key hkey
    rw [unmount_spec]
    exact Keyed.get?_erase_of_ne (List.mem_singleton.not.mp hkey) h.mounted
  staff := by
    intro k _ hforeign
    rw [unmount_spec]
    exact h.pool.staff_release_of_ne (hforeign id List.mem_cons_self)

theorem rearranges_mountFresh (p : Panel) (now : Int)
    (later : h.Later (h.mountFresh p now).2) : h.Rearranges [p.id] (h.mountFresh p now).2 where
  later := later
  rest := by
    obtain ⟨workers, hreleased⟩ := h.pool.release_eq (h.worker? p.id)
    obtain ⟨workers', lastId, hhired⟩ := (h.pool.release (h.worker? p.id)).hire_eq (h.task? p)
    refine ⟨(h.mountFresh p now).2.mounted, workers', lastId, ?_⟩
    rw [mountFresh_spec]
    rw [hreleased] at hhired ⊢
    generalize Pool.hire _ _ = hired at hhired ⊢
    obtain ⟨_ | _, pool⟩ := hired <;> obtain rfl : pool = _ := hhired <;> rfl
  others := by
    intro id hid
    have hne : id ≠ p.id := List.mem_singleton.not.mp hid
    have herased : Keyed.get? id (h.mounted.erase p.id) = Keyed.get? id h.mounted :=
      Keyed.get?_erase_of_ne hne h.mounted
    rw [mountFresh_spec]
    generalize Pool.hire _ _ = hired
    obtain ⟨_ | worker, pool⟩ := hired
    · exact herased
    · exact ((Keyed.get?_insert p.id id _ _).trans (if_neg (Ne.symm hne))).trans herased
  staff := by
    intro k hk hforeign
    obtain ⟨workers, hreleased⟩ := h.pool.release_eq (h.worker? p.id)
    rw [pool_mountFresh]
    refine (Pool.staff_hire_of_le _ ?_ _).trans
      (h.pool.staff_release_of_ne (hforeign p.id List.mem_cons_self))
    rw [hreleased]
    exact hk

/-- In place or afresh, mounting concerns one panel. -/
theorem rearranges_mount (hs : h.Staffed) (p : Panel) (now : Int) :
    h.Rearranges [p.id] (h.mount p now).2 := by
  have later := hs.later_mount p now
  by_cases hunchanged : ∃ m, h.Unchanged p m
  · obtain ⟨m, u⟩ := hunchanged
    rw [u.mount] at later ⊢
    refine ⟨later, ⟨_, _, _, rfl⟩, fun id hid => ?_, fun _ _ _ => rfl⟩
    exact (Keyed.get?_insert p.id id _ h.mounted).trans
      (if_neg (Ne.symm (List.mem_singleton.not.mp hid)))
  · rw [mount_of_changed (not_exists.mp hunchanged)] at later ⊢
    exact rearranges_mountFresh p now later

/-- A worker has been told to stop, and works for nobody. -/
structure Dismisses (h : Host) (k : Nat) (h' : Host) : Prop where
  stopped : h'.pool.staff k = (h.pool.staff k).map (·.dismissed h.pool.clock)
  idle : ∀ id, h'.worker? id ≠ some k

/-- Steps before and after do not concern the worker. -/
theorem Dismisses.within {ids ids' : List String} {h₁ h₂ : Host} (d : h₁.Dismisses k h₂)
    (before : h.Rearranges ids h₁) (after : h₂.Rearranges ids' h') (hk : k ≤ h.pool.lastId)
    (hk' : k ≤ h₂.pool.lastId) (hforeign : ∀ id ∈ ids, h.worker? id ≠ some k) :
    h.Dismisses k h' where
  stopped := by
    have hafter := after.staff k hk' fun id _ => d.idle id
    rw [hafter, d.stopped, before.staff k hk hforeign, before.clock]
  idle := by
    intro id hworker
    exact d.idle id (after.worker?_of_le hk' hworker)

/-- A panel that goes dismisses its worker. -/
theorem dismisses_unmount (hs : h.Staffed) (hk : h.worker? id = some k) :
    h.Dismisses k (h.unmount id).2 where
  stopped := by
    rw [unmount_spec, hk]
    exact h.pool.staff_stop_self k
  idle := by
    have hleft := rearranges_unmount hs id
    intro id' hworker
    obtain rfl : id' = id :=
      hs.exclusive id' id k (hleft.worker?_of_le (hs.hired_le hk) hworker) hk
    have hgone := (h.replaces_unmount hs.sound.sorted id').at_key
    rw [worker?, hgone] at hworker
    cases hworker

/-- A panel mounted afresh dismisses its old worker. -/
theorem dismisses_mountFresh (hs : h.Staffed) (hk : h.worker? p.id = some k) (now : Int)
    (later : h.Later (h.mountFresh p now).2) : h.Dismisses k (h.mountFresh p now).2 where
  stopped := by
    rw [pool_mountFresh, hk]
    exact ((h.pool.stop k).staff_hire_of_le (hs.hired_le hk) _).trans (h.pool.staff_stop_self k)
  idle := by
    intro id hworker
    have hle := hs.hired_le hk
    have hstep := rearranges_mountFresh p now later
    obtain rfl : id = p.id := hs.exclusive id p.id k (hstep.worker?_of_le hle hworker) hk
    obtain ⟨x, hstarts, r⟩ := h.replaces_mountFresh hs.sound.sorted p now
    obtain ⟨polling, hpolling, hsame⟩ := worker?_eq_some_iff.mp hworker
    have hnew := ((hstarts polling (r.at_key.symm.trans hpolling)).hired k hsame).2.1
    omega

end Host
end Dashboard
