/-
  Dashboard.Proofs.Poll.Sync
  ──────────────────────────
  **MOUNTING EXACTLY SOME PANELS.**

  A host is given the panels of a page as they are now.  It drops those it has
  too many, and mounts the others one by one.  With distinct ids the step of a
  panel finds the panel as it was before, and what the step leaves is there at
  the end.

  Main results:
    syncs_at            — the step of a panel among all others
    sync_mounts_exactly — what is mounted then, what is kept of it, who still works
-/
import Mathlib.Data.List.Nodup
import Mathlib.Data.List.Perm.Basic
import Dashboard.Proofs.Poll.Mounting

namespace Dashboard

namespace Host

/-! ## §1. The step of a panel among all others. -/

variable {h h' : Host} {p : Panel} {id : String} {k : Nat} {panels : List Panel}

/-- Surplus are the mounted panels that were not given. -/
theorem mem_surplus_iff : id ∈ h.surplus panels ↔ id ∈ h.mountedIds ∧ ∀ p ∈ panels, p.id ≠ id := by
  simp [surplus, List.mem_filter]

/-- Unmounting one panel after another concerns these panels only. -/
theorem rearranges_unmounts (hs : h.Staffed) (ids : List String) :
    h.Rearranges ids (ids.foldl (fun h id => (h.unmount id).2) h) := by
  have hall := Rearranges.foldl (fun h id => (h.unmount id).2) (fun id => id)
    (fun h id hs => rearranges_unmount hs id) hs ids
  rwa [List.map_id'] at hall

/-- Where all panels are mounted, the first one is, and then the others. -/
theorem mountAll_cons_of_ok {now : Int}
    (hok : (h.mountAll now (p :: panels)).1 = .ok ()) :
    (h.mount p now).1 = .ok () ∧
      h.mountAll now (p :: panels) = (h.mount p now).2.mountAll now panels := by
  rw [mountAll] at hok ⊢
  generalize h.mount p now = mounted at hok ⊢
  obtain ⟨_ | _, h₁⟩ := mounted
  · cases hok
  · exact ⟨rfl, rfl⟩

/-- Mounting one panel after another concerns these panels only. -/
theorem rearranges_mounts (hs : h.Staffed) {now : Int} (hok : (h.mountAll now panels).1 = .ok ()) :
    h.Rearranges (panels.map (·.id)) (h.mountAll now panels).2 := by
  rw [mountAll_eq_foldl, attempted_of_ok hok]
  exact Rearranges.foldl (fun h p => (h.mount p now).2) Panel.id
    (fun _ p hs => rearranges_mount hs p now) hs panels

/-- The step of a panel among all that are mounted. -/
theorem mounts_at (hs : h.Staffed) (distinct : (panels.map (·.id)).Nodup) (hp : p ∈ panels)
    {now : Int} (hok : (h.mountAll now panels).1 = .ok ()) :
    ∃ before after h₁, h.Rearranges before h₁ ∧ (h₁.mount p now).1 = .ok () ∧
      (h₁.mount p now).2.Rearranges after (h.mountAll now panels).2 ∧
      p.id ∉ before ∧ p.id ∉ after := by
  induction panels generalizing h with
  | nil => exact nomatch hp
  | cons q rest ih =>
    obtain ⟨hfirst, hrest⟩ := mountAll_cons_of_ok hok
    rw [hrest] at hok ⊢
    obtain ⟨hfresh, hdistinct⟩ := List.nodup_cons.mp distinct
    have hstep := rearranges_mount hs q now
    rcases List.mem_cons.mp hp with rfl | hp
    · exact ⟨[], rest.map (·.id), h, .refl hs, hfirst, rearranges_mounts hstep.later.staffed hok,
        List.not_mem_nil, hfresh⟩
    · obtain ⟨before, after, h₁, hbefore, hmounts, hafter, hnotBefore, hnotAfter⟩ :=
        ih hstep.later.staffed hdistinct hp hok
      have hother : p.id ≠ q.id := fun heq =>
        hfresh (List.mem_map.mpr ⟨p, hp, heq⟩)
      exact ⟨_, after, h₁, hstep.trans hbefore, hmounts, hafter, by simp [hother, hnotBefore],
        hnotAfter⟩

/-- All steps taken together. -/
theorem rearranges_sync (hs : h.Staffed) {now : Int} (hok : (h.sync panels now).1 = .ok ()) :
    h.Rearranges (h.surplus panels ++ panels.map (·.id)) (h.sync panels now).2 := by
  have hdropped := rearranges_unmounts hs (h.surplus panels)
  exact hdropped.trans (rearranges_mounts hdropped.later.staffed hok)

/-- The step of a listed panel, which finds the panel as it was. -/
theorem syncs_at (hs : h.Staffed) (distinct : (panels.map (·.id)).Nodup) (hp : p ∈ panels)
    {now : Int} (hok : (h.sync panels now).1 = .ok ()) :
    ∃ before after h₁, h.Rearranges before h₁ ∧ (h₁.mount p now).1 = .ok () ∧
      (h₁.mount p now).2.Rearranges after (h.sync panels now).2 ∧
      p.id ∉ before ∧ p.id ∉ after := by
  have hdropped := rearranges_unmounts hs (h.surplus panels)
  obtain ⟨before, after, h₁, hbefore, hmounts, hafter, hnotBefore, hnotAfter⟩ :=
    mounts_at hdropped.later.staffed distinct hp hok
  refine ⟨_, after, h₁, hdropped.trans hbefore, hmounts, hafter, ?_, hnotAfter⟩
  rw [List.mem_append, not_or]
  exact ⟨fun hsurplus => (mem_surplus_iff.mp hsurplus).2 p hp rfl, hnotBefore⟩

/-- The step of a panel that is not listed. -/
theorem drops_at (hs : h.Staffed) (hid : id ∈ h.surplus panels) {now : Int}
    (hok : (h.sync panels now).1 = .ok ()) :
    ∃ before after h₁, h.Rearranges before h₁ ∧
      (h₁.unmount id).2.Rearranges after (h.sync panels now).2 ∧
      id ∉ before ∧ id ∉ after := by
  have hnodup : ((h.surplus panels).map fun id => id).Nodup := by
    rw [List.map_id']
    exact hs.sound.sorted.nodup.filter _
  obtain ⟨before, after, h₁, hbefore, hafter, hnotBefore, hnotAfter⟩ :=
    Rearranges.place (fun h id => (h.unmount id).2) (fun id => id)
      (fun h id hs => rearranges_unmount hs id) hs hnodup hid
  have hmounted := rearranges_mounts hafter.later.staffed hok
  refine ⟨before, _, h₁, hbefore, hafter.trans hmounted, hnotBefore, ?_⟩
  rw [List.mem_append, not_or]
  refine ⟨hnotAfter, fun hlisted => ?_⟩
  obtain ⟨p, hp, hpid⟩ := List.mem_map.mp hlisted
  exact (mem_surplus_iff.mp hid).2 p hp hpid

/-- A panel has been mounted afresh, with a new worker where it needs one. -/
def Begins (h : Host) (p : Panel) (now : Int) (h' : Host) : Prop :=
  ∃ worker, h'.mounted? p.id = some (h.started p now worker) ∧
    ((h.task? p = none ∧ worker = none) ∨
      ∃ task k, h.task? p = some task ∧ worker = some k ∧ h.pool.lastId < k ∧
        ⟨.fresh k task, h.pool.clock⟩ ∈ h'.pool.staff k)

/-- What is mounted after some panels were mounted exactly. -/
structure Synced (h : Host) (panels : List Panel) (now : Int) (h' : Host) : Prop where
  /-- The panels that are listed, and no others. -/
  mountedIds : h'.mountedIds.Perm (panels.map (·.id))
  /-- Unchanged panels have their document replaced, and go on polling. -/
  kept : ∀ p ∈ panels, ∀ m, h.Unchanged p m →
    h'.mounted? p.id = some { m with panel := p } ∧
      ∀ k, m.worker = some k → h'.pool.staff k = h.pool.staff k
  /-- All others start from nothing. -/
  begun : ∀ p ∈ panels, (∀ m, ¬ h.Unchanged p m) → h.Begins p now h'
  /-- The workers of panels that are not kept have been told to stop. -/
  dismissed : ∀ id k, h.worker? id = some k →
    (∀ p ∈ panels, p.id = id → ∀ m, ¬ h.Unchanged p m) → h.Dismisses k h'
  /-- Events, capabilities, filters and the queue are as they were. -/
  rest : ∃ mounted workers lastId,
    h' = { h with mounted, pool := { h.pool with workers, lastId } }

section

variable (hs : h.Staffed) (distinct : (panels.map (·.id)).Nodup) {now : Int}
  (hok : (h.sync panels now).1 = .ok ())

include hs distinct hok

/-- An unchanged panel gets its new document and keeps its worker. -/
theorem sync_kept (hp : p ∈ panels) {m : MountedPanel} (u : h.Unchanged p m) :
    (h.sync panels now).2.mounted? p.id = some { m with panel := p } ∧
      ∀ k, m.worker = some k → (h.sync panels now).2.pool.staff k = h.pool.staff k := by
  obtain ⟨before, after, h₁, hbefore, -, hafter, hnotBefore, hnotAfter⟩ :=
    syncs_at hs distinct hp hok
  have hstep := hbefore.trans (rearranges_mount hbefore.later.staffed p now)
  rw [((hbefore.unchanged_iff hnotBefore).mpr u).mount] at hafter hstep
  refine ⟨(hafter.others p.id hnotAfter).trans ?_, fun k hk => ?_⟩
  · exact (Keyed.get?_insert p.id p.id _ h₁.mounted).trans (if_pos rfl)
  · -- the worker is this panel's, hence of none of the panels before and after
    have hworker : h.worker? p.id = some k := (worker?_eq_of_mounted u.mounted).trans hk
    have hle := hs.hired_le hworker
    have hfirst := hbefore.staff k hle fun id hid hother =>
      hnotBefore (hs.exclusive id p.id k hother hworker ▸ hid)
    have hle' := Nat.le_trans hle hstep.later.lastId
    refine (hafter.staff k hle' fun id hid hother => ?_).trans hfirst
    have hsame := hs.exclusive id p.id k (hstep.worker?_of_le hle hother) hworker
    exact hnotAfter (hsame ▸ hid)

/-- Any other panel that is given starts from nothing. -/
theorem sync_begun (hp : p ∈ panels) (hchanged : ∀ m, ¬ h.Unchanged p m) :
    h.Begins p now (h.sync panels now).2 := by
  obtain ⟨before, after, h₁, hbefore, hmounts, hafter, hnotBefore, hnotAfter⟩ :=
    syncs_at hs distinct hp hok
  have hchanged₁ : ∀ m, ¬ h₁.Unchanged p m := fun m u =>
    hchanged m ((hbefore.unchanged_iff hnotBefore).mp u)
  have hstep := rearranges_mount hbefore.later.staffed p now
  rw [mount_of_changed hchanged₁] at hmounts hafter hstep
  obtain ⟨workers, hreleased⟩ := h₁.pool.release_eq (h₁.worker? p.id)
  have hspec := h₁.mountFresh_spec p now
  have hpool := h₁.pool_mountFresh p now
  rw [hreleased, hbefore.task? p] at hspec hpool
  rw [hbefore.started p] at hspec
  -- all that matters of the pool is its clock and the last id
  have hlastId : ({ h₁.pool with workers } : Pool).lastId = h₁.pool.lastId := rfl
  have hclock : ({ h₁.pool with workers } : Pool).clock = h.pool.clock := hbefore.clock
  generalize ({ h₁.pool with workers } : Pool) = pool at hspec hpool hlastId hclock
  obtain ⟨worker, hhired⟩ : ∃ worker, (pool.hire (h.task? p)).1 = .ok worker := by
    generalize pool.hire (h.task? p) = hired at hspec
    obtain ⟨_ | worker, _⟩ := hired
    · rw [hspec] at hmounts
      exact nomatch hmounts
    · exact ⟨worker, rfl⟩
  have hmounted : (h₁.mountFresh p now).2.mounted? p.id = some (h.started p now worker) := by
    generalize pool.hire (h.task? p) = hired at hspec hhired
    obtain ⟨_, _⟩ := hired
    obtain rfl : _ = Except.ok worker := hhired
    rw [hspec]
    exact (Keyed.get?_insert p.id p.id _ _).trans (if_pos rfl)
  refine ⟨_, (hafter.others p.id hnotAfter).trans hmounted, ?_⟩
  rcases pool.hire_cases hhired with ⟨hnone, hidle⟩ | ⟨task, htask, rfl, hlast, hstarted⟩
  · exact .inl ⟨hnone, hidle⟩
  · have hle := hbefore.later.lastId
    refine .inr ⟨task, pool.lastId + 1, htask, rfl, by omega, ?_⟩
    -- the new worker is there, and none of the panels that come after have it
    have hthere : (h₁.mountFresh p now).2.worker? p.id = some (pool.lastId + 1) :=
      worker?_eq_of_mounted hmounted
    have hstays := hafter.staff (pool.lastId + 1) (hstep.later.staffed.hired_le hthere)
      fun id hid hother => hnotAfter (hstep.later.staffed.exclusive id p.id _ hother hthere ▸ hid)
    rw [hstays, ← hclock, hpool]
    exact hstarted

/-- The worker of a panel that is not kept is told to stop. -/
theorem sync_dismissed (hk : h.worker? id = some k)
    (hgone : ∀ p ∈ panels, p.id = id → ∀ m, ¬ h.Unchanged p m) :
    h.Dismisses k (h.sync panels now).2 := by
  have hle := hs.hired_le hk
  by_cases hlisted : ∃ p ∈ panels, p.id = id
  · -- mounted afresh, which begins with the end of what was there
    obtain ⟨p, hp, rfl⟩ := hlisted
    obtain ⟨before, after, h₁, hbefore, -, hafter, hnotBefore, -⟩ := syncs_at hs distinct hp hok
    have hchanged : ∀ m, ¬ h₁.Unchanged p m := fun m u =>
      hgone p hp rfl m ((hbefore.unchanged_iff hnotBefore).mp u)
    have hstep := rearranges_mount hbefore.later.staffed p now
    rw [mount_of_changed hchanged] at hafter hstep
    have hworker : h₁.worker? p.id = some k := (hbefore.worker? hnotBefore).trans hk
    have hstopped := dismisses_mountFresh hbefore.later.staffed hworker now hstep.later
    refine hstopped.within hbefore hafter hle ?_ fun id hid hother => ?_
    · exact Nat.le_trans (hbefore.later.staffed.hired_le hworker) hstep.later.lastId
    · exact hnotBefore (hs.exclusive id p.id k hother hk ▸ hid)
  · have hsurplus : id ∈ h.surplus panels := by
      refine mem_surplus_iff.mpr ⟨?_, fun p hp hpid => hlisted ⟨p, hp, hpid⟩⟩
      by_contra habsent
      have hnone : h.worker? id = none := by
        rw [worker?, h.polling?_of_not_mounted (Keyed.get?_eq_none_iff.mpr habsent)]
        rfl
      cases hnone.symm.trans hk
    obtain ⟨before, after, h₁, hbefore, hafter, hnotBefore, -⟩ := drops_at hs hsurplus hok
    have hworker : h₁.worker? id = some k := (hbefore.worker? hnotBefore).trans hk
    have hstopped := dismisses_unmount hbefore.later.staffed hworker
    refine hstopped.within hbefore hafter hle ?_ fun id' hid' hother => ?_
    · have hstep := rearranges_unmount hbefore.later.staffed id
      exact Nat.le_trans (hbefore.later.staffed.hired_le hworker) hstep.later.lastId
    · exact hnotBefore (hs.exclusive id' id k hother hk ▸ hid')

omit distinct in
/-- A panel that is not given is not mounted. -/
theorem sync_absent (hid : ∀ p ∈ panels, p.id ≠ id) :
    (h.sync panels now).2.mounted? id = none := by
  by_cases hmounted : id ∈ h.mountedIds
  · obtain ⟨before, after, h₁, hbefore, hafter, -, hnotAfter⟩ :=
      drops_at hs (mem_surplus_iff.mpr ⟨hmounted, hid⟩) hok
    rw [hafter.others id hnotAfter]
    exact Option.map_eq_none_iff.mp
      (h₁.replaces_unmount hbefore.later.staffed.sound.sorted id).at_key
  · have hlisted : id ∉ h.surplus panels ++ panels.map (·.id) := by
      rw [List.mem_append, not_or, mem_surplus_iff]
      exact ⟨fun hsurplus => hmounted hsurplus.1, by simpa using hid⟩
    rw [(rearranges_sync hs hok).others id hlisted]
    exact Keyed.get?_eq_none_iff.mpr hmounted

/-- The parts together. -/
theorem sync_synced : h.Synced panels now (h.sync panels now).2 where
  mountedIds := by
    have hsorted := (rearranges_sync hs hok).later.staffed.sound.sorted
    refine (List.perm_ext_iff_of_nodup hsorted.nodup distinct).mpr fun id => ⟨?_, ?_⟩
    · intro hmounted
      by_contra hlisted
      refine Keyed.get?_eq_none_iff.mp (sync_absent hs hok fun p hp hpid => ?_) hmounted
      exact hlisted (List.mem_map.mpr ⟨p, hp, hpid⟩)
    · intro hlisted
      obtain ⟨p, hp, rfl⟩ := List.mem_map.mp hlisted
      by_contra habsent
      have hnone := Keyed.get?_eq_none_iff.mpr habsent
      by_cases hunchanged : ∃ m, h.Unchanged p m
      · obtain ⟨m, u⟩ := hunchanged
        exact nomatch (sync_kept hs distinct hok hp u).1.symm.trans hnone
      · obtain ⟨worker, hbegun, -⟩ := sync_begun hs distinct hok hp (not_exists.mp hunchanged)
        exact nomatch hbegun.symm.trans hnone
  kept := fun _ hp _ u => sync_kept hs distinct hok hp u
  begun := fun _ hp hchanged => sync_begun hs distinct hok hp hchanged
  dismissed := fun _ _ hk hgone => sync_dismissed hs distinct hok hk hgone
  rest := (rearranges_sync hs hok).rest

end

/-! ## §2. A second time. -/

/-- Every panel of the list is mounted as it is, and there are no others. -/
structure Settled (h : Host) (panels : List Panel) : Prop where
  sorted : h.mounted.Sorted
  listed : ∀ id ∈ h.mountedIds, ∃ p ∈ panels, p.id = id
  mounted : ∀ p ∈ panels, ∃ m, h.Unchanged p m ∧ m.panel = p

/-- Panels whose mounting changes nothing, one after another, change nothing. -/
theorem mountAll_of_settled {now : Int} (hmount : ∀ p ∈ panels, h.mount p now = (.ok (), h)) :
    h.mountAll now panels = (.ok (), h) := by
  induction panels with
  | nil => rfl
  | cons p rest ih =>
    rw [mountAll, hmount p List.mem_cons_self]
    exact ih fun q hq => hmount q (List.mem_cons_of_mem p hq)

/-- On a host with exactly these panels there is nothing to do. -/
theorem Settled.sync (settled : h.Settled panels) (now : Int) :
    h.sync panels now = (.ok (), h) := by
  have hsurplus : h.surplus panels = [] := by
    refine List.eq_nil_iff_forall_not_mem.mpr fun id hid => ?_
    obtain ⟨hmounted, hforeign⟩ := mem_surplus_iff.mp hid
    obtain ⟨p, hp, hpid⟩ := settled.listed id hmounted
    exact hforeign p hp hpid
  have hmount : ∀ p ∈ panels, h.mount p now = (.ok (), h) := by
    intro p hp
    obtain ⟨m, u, hm⟩ := settled.mounted p hp
    have hsame : ({ m with panel := p } : MountedPanel) = m := by rw [← hm]
    rw [u.mount, hsame, Keyed.insert_of_get?_eq_some settled.sorted u.mounted]
  unfold Host.sync unmountOthers
  rw [hsurplus, List.foldl_nil]
  exact mountAll_of_settled hmount

/-- After the panels were given, they are there as given. -/
theorem Synced.settled {now : Int} (synced : h.Synced panels now h') (sorted : h'.mounted.Sorted) :
    h'.Settled panels where
  sorted := sorted
  listed := fun id hid => by simpa using synced.mountedIds.mem_iff.mp hid
  mounted := by
    intro p hp
    obtain ⟨mounted, workers, lastId, hrest⟩ := synced.rest
    have hendpoint : h'.endpointOf p = h.endpointOf p := by rw [hrest]; rfl
    have hinterval : h'.intervalOf p = h.intervalOf p := by rw [hrest]; rfl
    by_cases hunchanged : ∃ m, h.Unchanged p m
    · obtain ⟨m, u⟩ := hunchanged
      exact ⟨_, ⟨(synced.kept p hp m u).1, rfl, u.endpoint.trans hendpoint.symm,
        u.interval.trans hinterval.symm⟩, rfl⟩
    · obtain ⟨worker, hbegun, -⟩ := synced.begun p hp (not_exists.mp hunchanged)
      exact ⟨_, ⟨hbegun, rfl, hendpoint.symm, hinterval.symm⟩, rfl⟩

/-! ## §3. Failures. -/

/-- The panel of an error needs a worker, and the worker would not start. -/
def Refuses (h : Host) (p : Panel) (e : HostError) : Prop :=
  e.panel = p.id ∧ ∃ task k, h.task? p = some task ∧ h.pool.failure? k task = some e.failure

variable {e : HostError} {now : Int}

/-- A panel whose worker does not start is not mounted. -/
theorem mount_fails (hs : h.Staffed) (hfails : (h.mount p now).1 = .error e) :
    h.Refuses p e ∧ (h.mount p now).2.mounted? p.id = none := by
  have hchanged : ∀ m, ¬ h.Unchanged p m := by
    intro m u
    rw [u.mount] at hfails
    exact nomatch hfails
  rw [mount_of_changed hchanged] at hfails ⊢
  have hbegins := beginsAnew_mountFresh hs.sound.sorted p now
  have hspec := h.mountFresh_spec p now
  obtain ⟨workers, hreleased⟩ := h.pool.release_eq (h.worker? p.id)
  have hrefusals (k : Nat) (task : PollTask) :
      (h.pool.release (h.worker? p.id)).failure? k task = h.pool.failure? k task := by
    rw [hreleased]
    rfl
  generalize h.pool.release (h.worker? p.id) = pool at hspec hrefusals
  cases htask : h.task? p with
  | none =>
    rw [hspec, htask] at hfails
    exact nomatch hfails
  | some task =>
    rw [htask, Pool.hire_some] at hspec
    rcases pool.spawn_cases task with ⟨failure, hfailure, hspawn⟩ | ⟨-, hspawn⟩
    · rw [hspawn] at hspec
      rw [hspec] at hfails hbegins ⊢
      obtain rfl : _ = e := Except.error.inj hfails
      exact ⟨⟨rfl, task, _, htask, (hrefusals _ task).symm.trans hfailure⟩, hbegins.2⟩
    · rw [hspec, hspawn] at hfails
      exact nomatch hfails

/-- Which workers start is not changed by work on panels. -/
theorem Rearranges.refuses_iff {ids : List String} (r : h.Rearranges ids h') :
    h'.Refuses p e ↔ h.Refuses p e := by
  have htask := r.task? p
  obtain ⟨mounted, workers, lastId, rfl⟩ := r.rest
  unfold Refuses
  rw [htask]
  exact Iff.rfl

/-- By induction on the panels: the first that fails was refused by the host as
it stood at first. -/
theorem mountAll_fails (hs : h.Staffed) (hfails : (h.mountAll now panels).1 = .error e) :
    ∃ p ∈ panels, h.Refuses p e ∧ (h.mountAll now panels).2.mounted? p.id = none := by
  induction panels generalizing h with
  | nil => exact nomatch hfails
  | cons p rest ih =>
    have hstep := rearranges_mount hs p now
    have hrefuses : (h.mount p now).1 = .error e →
        h.Refuses p e ∧ (h.mount p now).2.mounted? p.id = none := mount_fails hs
    rw [mountAll] at hfails ⊢
    generalize h.mount p now = mounted at hfails hstep hrefuses ⊢
    obtain ⟨_ | _, h₁⟩ := mounted
    · exact ⟨p, List.mem_cons_self, hrefuses hfails⟩
    · obtain ⟨q, hq, hrefused, habsent⟩ := ih hstep.later.staffed hfails
      exact ⟨q, List.mem_cons_of_mem p hq, hstep.refuses_iff.mp hrefused, habsent⟩

/-- Unmounting cannot fail, so it is a panel that could not be mounted. -/
theorem sync_fails (hs : h.Staffed) (hfails : (h.sync panels now).1 = .error e) :
    ∃ p ∈ panels, h.Refuses p e ∧ (h.sync panels now).2.mounted? p.id = none := by
  have hdropped := rearranges_unmounts hs (h.surplus panels)
  obtain ⟨p, hp, hrefused, habsent⟩ := mountAll_fails hdropped.later.staffed hfails
  exact ⟨p, hp, hdropped.refuses_iff.mp hrefused, habsent⟩

end Host

/-! ## §4. Reachable hosts. -/

/-- Workers at work hire nobody. -/
theorem Pool.work_eq (p : Pool) (ts : Int) (n : Nat) :
    ∃ workers queue script clock, Pool.work ts n p = { p with workers, queue, script, clock } := by
  induction n generalizing p with
  | zero => exact ⟨_, _, _, _, rfl⟩
  | succ n ih =>
    unfold Pool.work
    split
    next => exact ⟨_, _, _, _, rfl⟩
    next =>
      split
      next => exact ⟨_, _, _, _, rfl⟩
      next s _ =>
        obtain ⟨workers, queue, script, clock, hwork⟩ := ih (p.step ts s)
        exact ⟨workers, queue, script, clock, by rw [hwork]; rfl⟩

namespace Host

variable {h : Host} {panels : List Panel}

/-- What can become of a host: operations are done to it, a message is heard on
its own, as when a poll is waited for, and workers go on in their own time.  They
hire nobody. -/
inductive Reachable : Host → Prop
  | fresh (registry : Registry) (settings : HostSettings) (script : Script)
      (refusals : Refusals) : Reachable (fresh registry settings script refusals)
  | operate {h : Host} (op : HostOp) : Reachable h → Reachable (h.operate op)
  | hear {h : Host} (message : PollMessage) : Reachable h → Reachable (h.applyMessage message).2
  | elapse {h : Host} (workers : List PooledWorker) (queue : List PollMessage) (script : Script)
      (clock : Nat) :
      Reachable h → Reachable { h with pool := { h.pool with workers, queue, script, clock } }

namespace Reachable

/-- By induction on the steps that lead to the host. -/
theorem staffed (reached : h.Reachable) : h.Staffed := by
  have alike {h h' : Host} (hs : h.Staffed) (hmounted : h'.mounted = h.mounted)
      (hlast : h.pool.lastId = h'.pool.lastId) : h'.Staffed :=
    (hs.later_kept (.of_mounted_eq hmounted (Nat.le_of_eq hlast) "")).staffed
  induction reached with
  | fresh registry settings script refusals => exact staffed_fresh registry settings script refusals
  | operate op _ ih =>
    cases op with
    | call c => exact (ih.later_perform c).staffed
    | know capabilities => exact alike ih rfl rfl
    | filter filters => exact alike ih rfl rfl
    | drain => exact alike ih rfl rfl
  | hear message _ ih => exact (ih.later_hear message).staffed
  | elapse workers queue script clock _ ih => exact alike ih rfl rfl

theorem performs (reached : h.Reachable) (calls : List HostCall) : (h.performs calls).Reachable :=
  List.foldlRecOn calls _ reached fun _ reached c _ => reached.operate (.call c)

/-- Waiting for a poll to be over. -/
theorem settle (reached : h.Reachable) (id : String) (n : Nat) (ts : Int) :
    (h.settle id n ts).2.Reachable := by
  unfold Host.settle
  generalize 2 * (n + 2) * (h.pool.workers.length + 1) = limit
  generalize 0 = counted
  induction limit generalizing h counted with
  | zero => exact reached
  | succ limit ih =>
    unfold settleWithin
    split
    next => exact reached
    next =>
      unfold Pool.receive
      obtain ⟨workers, queue, script, clock, hwork⟩ := h.pool.work_eq ts
        (h.pool.workers.foldl (fun n s => n + Pool.rank s.worker) 0)
      rw [hwork]
      dsimp only
      cases queue with
      | nil => exact reached.elapse workers [] script clock
      | cons message rest => exact ih ((reached.elapse workers rest script clock).hear message) _

/-- Learning the capabilities from the status summary that all hosts share. -/
theorem refreshCapabilities (reached : h.Reachable) (shared : TtlCell StatusSummary) (now : Int) :
    (h.refreshCapabilities shared now).2.2.Reachable := by
  have hasked (script : Script) (capabilities : Capabilities) :
      ({ h with pool := { h.pool with script }, capabilities } : Host).Reachable :=
    (reached.elapse h.pool.workers h.pool.queue script h.pool.clock).operate (.know capabilities)
  unfold Host.refreshCapabilities
  generalize (shared.getOrLoad now (loadSummary h.settings.timeout)).run h.pool.script = loaded
  obtain ⟨⟨_ | summary, _⟩, script⟩ := loaded
  · exact hasked script h.capabilities
  · exact hasked script (.ofSummary summary)

end Reachable

/-- **Panels are mounted exactly.**  Take any host that can be reached and give
it panels with distinct ids.  If this succeeds, exactly these are mounted
afterwards.  Those that were mounted with the same widget, endpoint and interval
have the new document and are otherwise as they were, with their worker
undisturbed; the others start from nothing, with a new worker where one is
needed.  Workers of panels that are not kept have been told to stop.  Events,
capabilities, filters and the queue stay, and giving the same panels again, at
any time, changes nothing at all.

It fails only when a worker that is needed does not start, and then that panel
is not mounted. -/
theorem sync_mounts_exactly (reached : h.Reachable) (distinct : (panels.map (·.id)).Nodup)
    (now : Int) :
    let answer := (h.sync panels now).1
    let h' := (h.sync panels now).2
    (answer = .ok () → h.Synced panels now h' ∧ ∀ later, h'.sync panels later = (.ok (), h')) ∧
      ∀ e, answer = .error e → ∃ p ∈ panels, h.Refuses p e ∧ h'.mounted? p.id = none := by
  intro answer h'
  have hs := reached.staffed
  refine ⟨fun hok => ?_, fun e hfails => sync_fails hs hfails⟩
  have hsynced := sync_synced hs distinct hok
  have hsorted := (rearranges_sync hs hok).later.staffed.sound.sorted
  exact ⟨hsynced, fun later => (hsynced.settled hsorted).sync later⟩

/-- Two panels are mounted, and one of them is polled; then the page has that
one, pinned, and a new one. -/
theorem sync_keeps_polled :
    let old : Panel := { botsPanel with id := "a" }
    let pinned : Panel := { botsPanel with pinned := true }
    let new : Panel := { navPanel with id := "n" }
    let h := (fresh .builtin .standard botsScript .none).performs
      [.mount botsPanel 0, .mount old 1, .poll 5]
    let h' := (h.sync [pinned, new] 9).2
    h'.mountedIds = ["b", "n"] ∧
      (∃ m, h.Unchanged pinned m ∧ m.query.completed = 1 ∧ m.worker = some 1 ∧
        h'.mounted? "b" = some { m with panel := pinned } ∧ h'.pool.staff 1 = h.pool.staff 1) ∧
      h.Begins new 9 h' ∧ h.Dismisses 2 h' ∧ h'.sync [pinned, new] 70 = (.ok (), h') := by
  intro old pinned new h h'
  have hreached : h.Reachable := (Reachable.fresh .builtin .standard botsScript .none).performs _
  have hdistinct : ([pinned, new].map (·.id)).Nodup := by decide
  have hok : (h.sync [pinned, new] 9).1 = .ok () := by decide +kernel
  obtain ⟨hsynced, hagain⟩ := (sync_mounts_exactly hreached hdistinct 9).1 hok
  have hpolled : (h.mounted? "b").map (fun m =>
      (m.panel.widgetId, m.endpoint, m.interval, m.query.completed, m.worker)) =
      some (pinned.widgetId, h.endpointOf pinned, h.intervalOf pinned, 1, some 1) := by
    decide +kernel
  obtain ⟨m, hm, hsame⟩ := Option.map_eq_some_iff.mp hpolled
  simp only [Prod.mk.injEq] at hsame
  obtain ⟨hwidget, hendpoint, hinterval, hcompleted, hworker⟩ := hsame
  have u : h.Unchanged pinned m := ⟨hm, hwidget, hendpoint, hinterval⟩
  obtain ⟨hkept, hstaff⟩ := hsynced.kept pinned (by simp) m u
  have hgoesOn : ∃ m, h.Unchanged pinned m ∧ m.query.completed = 1 ∧ m.worker = some 1 ∧
      h'.mounted? "b" = some { m with panel := pinned } ∧ h'.pool.staff 1 = h.pool.staff 1 :=
    ⟨m, u, hcompleted, hworker, hkept, hstaff 1 hworker⟩
  refine ⟨by decide +kernel, hgoesOn, ?_, ?_, hagain 70⟩
  · refine hsynced.begun new (by simp) fun m u => ?_
    have habsent : (h.mounted? new.id).isSome = false := by decide +kernel
    rw [u.mounted] at habsent
    exact nomatch habsent
  · have hlisted : ∀ p ∈ [pinned, new], p.id ≠ "a" := by decide
    exact hsynced.dismissed "a" 2 (by decide +kernel) fun p hp hpid => absurd hpid (hlisted p hp)

end Host
end Dashboard
