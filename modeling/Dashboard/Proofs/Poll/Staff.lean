/-
  Dashboard.Proofs.Poll.Staff
  ───────────────────────────
  **WHO WORKS FOR WHOM.**

  All workers that a host ever had report into one queue, and a worker that was
  stopped may have left messages in it.  A message is stale when its worker has
  been hired already and is not, or no longer, the worker of the panel that the
  message names.  A panel that changes its worker gets one that no panel had
  before (`Later`), so what is stale stays stale, whatever is mounted
  afterwards.

  Main results:
    later_perform       — what a call does to the workers of the panels
    Later.stale         — what is stale stays stale
    run_hear_filter     — stale messages can be left out
-/
import Dashboard.Proofs.Poll.Polling

namespace Dashboard

/-! ## §1. Calls. -/

/-- What is done to a host, or what reaches its queue. -/
inductive HostCall where
  | mount (p : Panel) (now : Int)
  | unmount (id : String)
  | sync (panels : List Panel) (now : Int)
  | refresh (id : String)
  | poll (now : Int)
  | render (id : String) (now : Int)
  /-- A message of a worker is queued. -/
  | deliver (message : PollMessage)
  /-- All queued messages are applied. -/
  | pump

namespace Host

/-- A host with another queue. -/
def withQueue (h : Host) (queue : List PollMessage) : Host :=
  { h with pool := { h.pool with queue } }

/-- A host after a call. -/
def perform (h : Host) : HostCall → Host
  | .mount p now => (h.mount p now).2
  | .unmount id => (h.unmount id).2
  | .sync panels now => (h.sync panels now).2
  | .refresh id => (h.refreshNow id).2
  | .poll now => (h.pollOnce now).2
  | .render id now => (h.render id now).2
  | .deliver message => h.withQueue (h.pool.queue ++ [message])
  | .pump => h.pump.2

/-- A host after some calls. -/
def performs (h : Host) (calls : List HostCall) : Host := calls.foldl perform h

/-! ## §2. Who works for whom. -/

/-- Each worker works for one panel. -/
structure Staffed (h : Host) : Prop where
  sound : h.Sound
  exclusive : ∀ id id' k, h.worker? id = some k → h.worker? id' = some k → id = id'

/-- A host later on: a panel keeps its worker, loses it, or gets one that no panel had. -/
structure Later (h h' : Host) : Prop where
  staffed : h'.Staffed
  lastId : h.pool.lastId ≤ h'.pool.lastId
  workers : ∀ id k, h'.worker? id = some k → h.worker? id = some k ∨ h.pool.lastId < k

/-- The worker of a panel is part of its polls. -/
theorem worker?_eq_some_iff {h : Host} {id : String} {k : Nat} :
    h.worker? id = some k ↔ ∃ polling, h.polling? id = some polling ∧ polling.worker = some k :=
  Option.bind_eq_some_iff

/-- At first there is no panel, and no worker. -/
theorem staffed_fresh (registry : Registry) (settings : HostSettings) (script : Script)
    (refusals : Refusals) : (fresh registry settings script refusals).Staffed :=
  ⟨sound_fresh registry settings script refusals, fun _ _ _ hk => nomatch hk⟩

variable {h h' h'' : Host} {key : String} {x : Option Polling}

/-- The worker of a panel was hired some time. -/
theorem Staffed.hired_le (hs : h.Staffed) {id : String} {k : Nat} (hk : h.worker? id = some k) :
    k ≤ h.pool.lastId := by
  obtain ⟨polling, hpolling, hworker⟩ := worker?_eq_some_iff.mp hk
  exact (hs.sound.hired id polling k hpolling hworker).2

/-- A host is no earlier than itself. -/
theorem Staffed.later (hs : h.Staffed) : h.Later h :=
  ⟨hs, Nat.le_refl _, fun _ _ hk => .inl hk⟩

/-- Later than a later host is later. -/
theorem Later.trans (first : h.Later h') (second : h'.Later h'') : h.Later h'' where
  staffed := second.staffed
  lastId := Nat.le_trans first.lastId second.lastId
  workers := by
    intro id k hk
    rcases second.workers id k hk with hk | hnew
    · exact first.workers id k hk
    · exact .inr (Nat.lt_of_le_of_lt first.lastId hnew)

/-- One panel's polls are replaced, under its own worker or a new one. -/
theorem Staffed.later_replaces (hs : h.Staffed) (r : h.Replaces key x h')
    (hx : ∀ polling k, x = some polling → polling.worker = some k →
      (polling.endpoint.isSome ∧ k ≤ h'.pool.lastId) ∧
        (h.worker? key = some k ∨ h.pool.lastId < k)) : h.Later h' := by
  have hkey : ∀ k, h'.worker? key = some k → h.worker? key = some k ∨ h.pool.lastId < k := by
    intro k hk
    obtain ⟨polling, hpolling, hworker⟩ := worker?_eq_some_iff.mp hk
    exact (hx polling k (r.at_key.symm.trans hpolling) hworker).2
  have hother : ∀ id, key ≠ id → h'.worker? id = h.worker? id := by
    intro id hid
    rw [worker?, r.polls, if_neg hid, worker?]
  have hworkers : ∀ id k, h'.worker? id = some k → h.worker? id = some k ∨ h.pool.lastId < k := by
    intro id k hk
    by_cases hid : key = id
    · subst hid
      exact hkey k hk
    · rw [hother id hid] at hk
      exact .inl hk
  refine ⟨⟨hs.sound.replaces r fun polling k hp hk => (hx polling k hp hk).1, ?_⟩, r.lastId,
    hworkers⟩
  intro id id' k hk hk'
  by_cases hid : key = id <;> by_cases hid' : key = id'
  · exact hid.symm.trans hid'
  · -- the other panel had the worker before, so it is not new
    rw [hother id' hid'] at hk'
    rcases hworkers id k hk with hk | hnew
    · exact hs.exclusive id id' k hk hk'
    · have := hs.hired_le hk'
      omega
  · rw [hother id hid] at hk
    rcases hworkers id' k hk' with hk' | hnew
    · exact hs.exclusive id id' k hk hk'
    · have := hs.hired_le hk
      omega
  · rw [hother id hid] at hk
    rw [hother id' hid'] at hk'
    exact hs.exclusive id id' k hk hk'

/-- Worker and endpoint are as they were. -/
theorem Staffed.later_map (hs : h.Staffed) {f : Polling → Polling}
    (r : h.Replaces key ((h.polling? key).map f) h')
    (hf : ∀ p, (f p).worker = p.worker ∧ (f p).endpoint = p.endpoint) : h.Later h' := by
  refine hs.later_replaces r ?_
  intro polling k hp hk
  obtain ⟨p, hold, rfl⟩ := Option.map_eq_some_iff.mp hp
  rw [(hf p).1] at hk
  rw [(hf p).2]
  obtain ⟨hendpoint, hle⟩ := hs.sound.hired key p k hold hk
  exact ⟨⟨hendpoint, Nat.le_trans hle r.lastId⟩, .inl (worker?_eq_some_iff.mpr ⟨p, hold, hk⟩)⟩

/-- A step that leaves the polls of a panel leaves its worker. -/
theorem Staffed.later_kept (hs : h.Staffed) (r : h.Replaces key (h.polling? key) h') :
    h.Later h' := by
  have hid : h.Replaces key ((h.polling? key).map fun p => p) h' := by simpa using r
  exact hs.later_map hid fun _ => ⟨rfl, rfl⟩

/-- What holds of one step holds of a list of them. -/
theorem Staffed.later_foldl {α : Type} {f : Host → α → Host}
    (hf : ∀ (h : Host) (a : α), h.Staffed → h.Later (f h a)) (hs : h.Staffed) (l : List α) :
    h.Later (l.foldl f h) := by
  induction l generalizing h with
  | nil => exact hs.later
  | cons a rest ih =>
    have hnext := hf h a hs
    exact hnext.trans (ih hnext.staffed)

theorem Staffed.later_hear (hs : h.Staffed) (message : PollMessage) :
    h.Later (h.after (.hear message)) :=
  hs.later_map (h.replaces_applyMessage message) (Sound.hear_same · message)

theorem Staffed.later_pollPanel (hs : h.Staffed) (now : Int) (id : String) :
    h.Later (h.pollPanel now id) := by
  obtain ⟨outcome, r⟩ := h.replaces_pollPanel now id
  exact hs.later_map r fun p => Sound.polled_same p outcome now

theorem Staffed.later_unmount (hs : h.Staffed) (id : String) : h.Later (h.unmount id).2 :=
  hs.later_replaces (h.replaces_unmount hs.sound.sorted id) fun _ _ hnone => nomatch hnone

/-- A mounted panel keeps its worker or gets one hired just now. -/
theorem Staffed.later_mount (hs : h.Staffed) (p : Panel) (now : Int) :
    h.Later (h.mount p now).2 := by
  rcases h.replaces_mount hs.sound.sorted p now with r | ⟨x, hstarts, r⟩
  · exact hs.later_kept r
  · refine hs.later_replaces r ?_
    intro polling k hp hk
    obtain ⟨hendpoint, hnew, hle⟩ := (hstarts polling hp).hired k hk
    exact ⟨⟨hendpoint, hle⟩, .inr hnew⟩

theorem Staffed.later_unmountOthers (hs : h.Staffed) (panels : List Panel) :
    h.Later (h.unmountOthers panels) :=
  hs.later_foldl (f := fun h id => (h.unmount id).2) (fun _ id hs => hs.later_unmount id) _

/-- Unmounting and mounting, one panel after another. -/
theorem Staffed.later_sync (hs : h.Staffed) (panels : List Panel) (now : Int) :
    h.Later (h.sync panels now).2 := by
  have hunmounted := hs.later_unmountOthers panels
  unfold sync
  rw [mountAll_eq_foldl]
  exact hunmounted.trans (hunmounted.staffed.later_foldl (f := fun h p => (h.mount p now).2)
    (fun _ p hs => hs.later_mount p now) _)

/-- Messages may come and go. -/
theorem Staffed.later_queue (hs : h.Staffed) (queue : List PollMessage) :
    h.Later (h.withQueue queue) := by
  have r : h.Replaces "" (h.polling? "") (h.withQueue queue) := by
    refine .of_mounted_eq ?_ ?_ ""
    · rfl
    · exact Nat.le_refl _
  exact hs.later_kept r

theorem Staffed.later_perform (hs : h.Staffed) (c : HostCall) : h.Later (h.perform c) := by
  cases c with
  | mount p now => exact hs.later_mount p now
  | unmount id => exact hs.later_unmount id
  | sync panels now => exact hs.later_sync panels now
  | refresh id => exact hs.later_kept (h.replaces_refreshNow id id)
  | poll now =>
    exact hs.later_foldl (f := fun h id => h.pollPanel now id)
      (fun h id hs => hs.later_pollPanel now id) h.polledIds
  | render id now => exact hs.later_kept (h.replaces_render id now)
  | deliver message => exact hs.later_queue _
  | pump =>
    have hemptied := hs.later_queue []
    have hheard := hemptied.staffed.later_foldl (f := fun h m => h.after (.hear m))
      (fun h m hs => hs.later_hear m) h.pool.queue
    show h.Later h.pump.2
    rw [pump_eq_run, run, List.foldl_map]
    exact hemptied.trans hheard

theorem Staffed.later_performs (hs : h.Staffed) (calls : List HostCall) :
    h.Later (h.performs calls) :=
  hs.later_foldl (fun _ c hs => hs.later_perform c) calls

/-! ## §3. Stale messages. -/

/-- A message of a worker that has been hired already and is not the worker of
the panel that the message names. -/
def stale (h : Host) (message : PollMessage) : Bool :=
  decide (message.worker ≤ h.pool.lastId) && h.worker? message.panel != some message.worker

/-- A message is stale if its worker was hired and does not work for the panel. -/
theorem stale_eq_true_iff {message : PollMessage} :
    h.stale message = true ↔
      message.worker ≤ h.pool.lastId ∧ h.worker? message.panel ≠ some message.worker := by
  simp [stale]

/-- What is stale stays stale. -/
theorem Later.stale (later : h.Later h') {message : PollMessage} (hm : h.stale message = true) :
    h'.stale message = true := by
  obtain ⟨hle, hforeign⟩ := stale_eq_true_iff.mp hm
  refine stale_eq_true_iff.mpr ⟨Nat.le_trans hle later.lastId, fun hk => ?_⟩
  rcases later.workers _ _ hk with hk | hnew
  · exact hforeign hk
  · omega

/-- A message of another worker than the panel's, or for a panel that is not
mounted, is passed over. -/
theorem applyMessage_of_foreign {message : PollMessage}
    (hforeign : h.worker? message.panel ≠ some message.worker) :
    h.applyMessage message = (false, h) := by
  have hnone : (h.mounted? message.panel).filter (fun m => m.worker == some message.worker) =
      none := by
    rw [Option.filter_eq_none_iff]
    intro m hm
    rw [beq_iff_eq]
    intro hk
    exact hforeign (worker?_eq_some_iff.mpr ⟨m.polling, h.polling?_of_mounted hm, hk⟩)
  unfold applyMessage
  rw [hnone]

/-- Stale messages can be left out of a list. -/
theorem Staffed.run_hear_filter (hs : h.Staffed) {old : PollMessage → Bool}
    (hold : ∀ message, old message = true → h.stale message = true)
    (messages : List PollMessage) :
    h.run (messages.map .hear) = h.run ((messages.filter fun m => !old m).map .hear) := by
  induction messages generalizing h with
  | nil => rfl
  | cons message rest ih =>
    cases hmessage : old message with
    | true =>
      have hpassed : h.after (.hear message) = h := by
        have hforeign := (stale_eq_true_iff.mp (hold message hmessage)).2
        show (h.applyMessage message).2 = h
        rw [applyMessage_of_foreign hforeign]
      rw [List.filter_cons_of_neg (by simp [hmessage]), ← ih hs hold, List.map_cons]
      show (h.after (.hear message)).run _ = _
      rw [hpassed]
    | false =>
      -- the message may be heard, and the others are stale in the host that has heard it
      have hnext := hs.later_hear message
      rw [List.filter_cons_of_pos (by simp [hmessage]), List.map_cons, List.map_cons]
      exact ih hnext.staffed fun m hm => hnext.stale (hold m hm)

/-! ## §4. Panels under their own ids. -/

/-- Each panel is mounted under its own id. -/
def Filed (h : Host) : Prop := ∀ p ∈ h.mounted, p.2.panel.id = p.1

/-- At first there is no panel to be filed. -/
theorem filed_fresh (registry : Registry) (settings : HostSettings) (script : Script)
    (refusals : Refusals) : (fresh registry settings script refusals).Filed :=
  fun _ hp => nomatch hp

namespace Filed

theorem id_eq (hf : h.Filed) {id : String} {m : MountedPanel} (hm : h.mounted? id = some m) :
    m.panel.id = id :=
  hf _ (Keyed.mem_of_get? hm)

/-- Only the mounted panels matter. -/
theorem of_mounted_eq (hf : h.Filed) (hmounted : h'.mounted = h.mounted) : h'.Filed := by
  intro p hp
  exact hf p (hmounted ▸ hp)

/-- A panel filed under its own id. -/
theorem of_mounted_insert (hf : h.Filed) {id : String} {m : MountedPanel} (hm : m.panel.id = id)
    (hmounted : h'.mounted = h.mounted.insert id m) : h'.Filed := by
  intro p hp
  rw [hmounted] at hp
  rcases Keyed.mem_insert hp with rfl | hp
  · exact hm
  · exact hf p hp

theorem unmount (hf : h.Filed) (id : String) : (h.unmount id).2.Filed := by
  unfold Host.unmount
  split
  next => exact hf
  next => exact fun p hp => hf p ((Keyed.erase_sublist id h.mounted).subset hp)

/-- In place or afresh, a panel is filed under its own id. -/
theorem mount (hf : h.Filed) (p : Panel) (now : Int) : (h.mount p now).2.Filed := by
  unfold Host.mount
  split
  next m _ => exact hf.of_mounted_insert (m := { m with panel := p }) rfl rfl
  next =>
    unfold mountFresh
    have hunmounted := hf.unmount p.id
    generalize (h.unmount p.id).2 = h₁ at hunmounted
    dsimp only
    split
    next => exact hunmounted.of_mounted_eq rfl
    next worker _ _ =>
      exact hunmounted.of_mounted_insert
        (m := ⟨p, h₁.endpointOf p, h₁.intervalOf p, .fresh now, .fresh, .unknown, now, worker⟩)
        rfl rfl

theorem sync (hf : h.Filed) (panels : List Panel) (now : Int) : (h.sync panels now).2.Filed := by
  have hunmounted : (h.unmountOthers panels).Filed :=
    List.foldlRecOn (h.surplus panels) _ hf fun _ hf id _ => hf.unmount id
  unfold Host.sync
  rw [mountAll_eq_foldl]
  exact List.foldlRecOn _ _ hunmounted fun _ hf p _ => hf.mount p now

/-- A quality is recorded with its panel. -/
theorem recordQuality (hf : h.Filed) {id : String} {m : MountedPanel} (hm : m.panel.id = id)
    (q : Quality) : (h.recordQuality id m q).Filed :=
  hf.of_mounted_insert (m := { m with quality := q, reporter := (m.reporter.report q).2 }) hm rfl

theorem updateQuality (hf : h.Filed) (id : String) : (h.updateQuality id).Filed := by
  unfold Host.updateQuality
  split
  next => exact hf
  next m hm => exact hf.recordQuality (hf.id_eq hm) _

theorem learn (hf : h.Filed) (endpoint : Option String) (outcome : Outcome) :
    (h.learn endpoint outcome).Filed := by
  unfold Host.learn
  split
  next =>
    split
    next => exact hf.of_mounted_eq rfl
    next => exact hf
  next => exact hf

/-- A message changes a panel where it stands. -/
theorem hear (hf : h.Filed) (message : PollMessage) : (h.applyMessage message).2.Filed := by
  unfold applyMessage
  split
  next => exact hf
  next m hm =>
    have hid := hf.id_eq (Option.filter_eq_some_iff.mp hm).1
    have hset (q : Query Json.Value) :
        ({ h with mounted := h.mounted.insert message.panel { m with query := q } } : Host).Filed :=
      hf.of_mounted_insert (m := { m with query := q }) hid rfl
    split
    next => exact hset _
    next =>
      split
      next => exact hf
      next => exact ((hset _).learn _ _).updateQuality _

theorem pollPanel (hf : h.Filed) (now : Int) (id : String) : (h.pollPanel now id).Filed := by
  unfold Host.pollPanel
  split
  next => exact hf
  next m hm =>
    split
    next => exact hf
    next endpoint _ =>
      have hid := hf.id_eq hm
      let outcome := (h.pool.script.fetch endpoint h.settings.timeout false).1
      refine Filed.updateQuality (Filed.learn ?_ _ _) id
      exact hf.of_mounted_insert (m := { m with query := m.query.polled outcome now }) hid (by rfl)

theorem render (hf : h.Filed) (id : String) (now : Int) : (h.render id now).2.Filed := by
  cases hm : h.mounted? id with
  | none =>
    unfold Host.render
    rw [hm]
    exact hf
  | some m =>
    obtain ⟨workers, hdrawn⟩ := h.render_eq hm now
    rw [hdrawn]
    unfold takeReport
    split
    next q _ => exact Filed.recordQuality (hf.of_mounted_eq rfl) (hf.id_eq hm) q
    next => exact hf.of_mounted_eq rfl

theorem perform (hf : h.Filed) (c : HostCall) : (h.perform c).Filed := by
  cases c with
  | mount p now => exact hf.mount p now
  | unmount id => exact hf.unmount id
  | sync panels now => exact hf.sync panels now
  | refresh id =>
    obtain ⟨workers, hrefreshed⟩ := h.refreshNow_eq id
    exact hf.of_mounted_eq (by rw [Host.perform, hrefreshed])
  | poll now => exact List.foldlRecOn h.polledIds _ hf fun _ hf id _ => hf.pollPanel now id
  | render id now => exact hf.render id now
  | deliver message => exact hf.of_mounted_eq rfl
  | pump =>
    show h.pump.2.Filed
    rw [pump_eq_run, run, List.foldl_map]
    exact List.foldlRecOn h.pool.queue _ (hf.of_mounted_eq rfl) fun _ hf m _ => hf.hear m

theorem performs (hf : h.Filed) (calls : List HostCall) : (h.performs calls).Filed :=
  List.foldlRecOn calls _ hf fun _ hf c _ => hf.perform c

end Filed

end Host
end Dashboard
