/-
  Dashboard.Proofs.Poll.Retired
  ─────────────────────────────
  **RETIRED WORKERS CANNOT TOUCH A HOST.**

  A run of a host goes as it would without the stale messages, those that wait
  in the queue and those still to come (`forget`).  What a panel's own worker
  reports concerns that panel (`Confined`).

  Main results:
    forget_performs  — stale messages change nothing in any run
    retired_harmless — which parts of a host a message can change
-/
import Dashboard.Proofs.Poll.Numbers
import Dashboard.Proofs.Poll.Staff

namespace Dashboard.Host

/-! ## §1. What does not look at the queue. -/

/-- The queue passes through as it is. -/
def IgnoresQueue (f : Host → Host) : Prop :=
  ∀ h queue, f (h.withQueue queue) = (f h).withQueue queue

/-- The answer is up to no queue, and the queue passes through as it is. -/
def AnswersAlike {α : Type} (f : Host → α × Host) : Prop :=
  ∀ h queue, f (h.withQueue queue) = ((f h).1, (f h).2.withQueue queue)

/-- Without its answer. -/
theorem AnswersAlike.ignoresQueue {α : Type} {f : Host → α × Host} (hf : AnswersAlike f) :
    IgnoresQueue fun h => (f h).2 :=
  fun h queue => congrArg Prod.snd (hf h queue)

namespace IgnoresQueue

/-- One operation after another. -/
theorem comp {f g : Host → Host} (hg : IgnoresQueue g) (hf : IgnoresQueue f) :
    IgnoresQueue fun h => g (f h) :=
  fun h queue => (congrArg g (hf h queue)).trans (hg (f h) queue)

/-- An operation on each item of a list. -/
theorem foldl {α : Type} {f : Host → α → Host} (hf : ∀ a, IgnoresQueue fun h => f h a)
    (l : List α) : IgnoresQueue fun h => l.foldl f h := by
  induction l with
  | nil => exact fun _ _ => rfl
  | cons a rest ih => exact comp ih (hf a)

/-- Such a function leaves the queue. -/
theorem queue_eq {f : Host → Host} (hf : IgnoresQueue f) (h : Host) :
    (f h).pool.queue = h.pool.queue :=
  congrArg (fun h => h.pool.queue) (hf h h.pool.queue)

theorem unmount (id : String) : IgnoresQueue fun h => (h.unmount id).2 := by
  intro h queue
  have hsame : (h.withQueue queue).mounted? id = h.mounted? id := rfl
  dsimp only
  unfold Host.unmount
  rw [hsame]
  cases h.mounted? id with
  | none => rfl
  | some m =>
    cases hworker : m.worker with
    | none =>
      simp only [hworker]
      rfl
    | some k =>
      simp only [hworker]
      rfl

/-- A worker is started whatever the queue holds. -/
theorem spawn (p : Pool) (queue : List PollMessage) (task : PollTask) :
    ({ p with queue } : Pool).spawn task = ((p.spawn task).1, { (p.spawn task).2 with queue }) := by
  have hfailure : ∀ id, ({ p with queue } : Pool).failure? id task = p.failure? id task :=
    fun _ => rfl
  unfold Pool.spawn
  simp only [hfailure]
  cases p.failure? (p.lastId + 1) task <;> rfl

theorem spawnWorker (h : Host) (p : Panel) (queue : List PollMessage) :
    (h.withQueue queue).spawnWorker p =
      ((h.spawnWorker p).1, { (h.spawnWorker p).2 with queue }) := by
  have hendpoint : (h.withQueue queue).endpointOf p = h.endpointOf p := rfl
  have hinterval : (h.withQueue queue).intervalOf p = h.intervalOf p := rfl
  have hsettings : (h.withQueue queue).settings = h.settings := rfl
  unfold Host.spawnWorker
  rw [hendpoint, hinterval, hsettings]
  cases h.endpointOf p with
  | none => rfl
  | some endpoint =>
    cases h.settings.background with
    | false => rfl
    | true =>
      have hspawned := spawn h.pool queue ⟨p.id, endpoint, h.intervalOf p, h.settings.timeout⟩
      dsimp only
      unfold withQueue
      rw [hspawned]

/-- Whether its worker starts does not depend on the queue. -/
theorem mountFresh (p : Panel) (now : Int) : AnswersAlike fun h => h.mountFresh p now := by
  intro h queue
  have hunmounted := unmount p.id h queue
  unfold Host.mountFresh
  dsimp only at hunmounted ⊢
  rw [hunmounted]
  generalize (h.unmount p.id).2 = h₁
  rw [spawnWorker]
  obtain ⟨_ | _, pool⟩ := h₁.spawnWorker p <;> rfl

theorem mount (p : Panel) (now : Int) : AnswersAlike fun h => h.mount p now := by
  intro h queue
  have hfresh := mountFresh p now h queue
  dsimp only at hfresh ⊢
  have hfound : ((h.withQueue queue).mounted? p.id).filter
      (fun m => (h.withQueue queue).continues m p) =
        (h.mounted? p.id).filter fun m => h.continues m p := rfl
  unfold Host.mount
  rw [hfresh, hfound]
  cases (h.mounted? p.id).filter fun m => h.continues m p <;> rfl

/-- By induction on the panels; the first failure is the same on both sides. -/
theorem mountAll (now : Int) (panels : List Panel) :
    AnswersAlike fun h => h.mountAll now panels := by
  induction panels with
  | nil => exact fun _ _ => rfl
  | cons p rest ih =>
    intro h queue
    have hmounted := mount p now h queue
    dsimp only at hmounted ⊢
    unfold Host.mountAll
    rw [hmounted]
    obtain ⟨_ | _, h₁⟩ := h.mount p now
    · rfl
    · exact ih h₁ queue

theorem refreshNow (id : String) : IgnoresQueue fun h => (h.refreshNow id).2 := by
  intro h queue
  have hworker : ((h.withQueue queue).mounted? id).bind (·.worker) =
      (h.mounted? id).bind (·.worker) := rfl
  dsimp only
  unfold Host.refreshNow
  rw [hworker]
  cases (h.mounted? id).bind (·.worker) <;> rfl

/-- A report of a drawing goes to its panel. -/
theorem takeReport (id : String) (m : MountedPanel) (reported : Option Quality) :
    IgnoresQueue fun h => h.takeReport id m reported := by
  intro h queue
  cases reported <;> rfl

theorem render (id : String) (now : Int) : IgnoresQueue fun h => (h.render id now).2 := by
  intro h queue
  have hsame : (h.withQueue queue).mounted? id = h.mounted? id := rfl
  dsimp only
  unfold Host.render
  rw [hsame]
  cases h.mounted? id with
  | none => rfl
  | some m =>
    -- what the panel is drawn from is not up to the queue
    have hdrawing : (h.withQueue queue).drawing m now = h.drawing m now := rfl
    dsimp only
    rw [hdrawing]
    split
    next => exact comp (takeReport id m _) (refreshNow id) h queue
    next => exact takeReport id m _ h queue

/-- Capabilities are learnt from an outcome. -/
theorem learn (endpoint : Option String) (outcome : Outcome) :
    IgnoresQueue fun h => h.learn endpoint outcome := by
  intro h queue
  dsimp only
  unfold Host.learn
  split
  next => split <;> rfl
  next => rfl

theorem updateQuality (id : String) : IgnoresQueue fun h => h.updateQuality id := by
  intro h queue
  have hsame : (h.withQueue queue).mounted? id = h.mounted? id := rfl
  dsimp only
  unfold Host.updateQuality
  rw [hsame]
  cases h.mounted? id <;> rfl

theorem pollPanel (now : Int) (id : String) : IgnoresQueue fun h => h.pollPanel now id := by
  intro h queue
  have hsame : (h.withQueue queue).mounted? id = h.mounted? id := rfl
  dsimp only
  unfold Host.pollPanel
  rw [hsame]
  cases h.mounted? id with
  | none => rfl
  | some m =>
    cases hendpoint : m.endpoint with
    | none => simp only [hendpoint]
    | some endpoint =>
      simp only [hendpoint]
      refine Eq.trans ?_ (comp (updateQuality id) (learn (some endpoint) _) _ queue)
      rfl

/-- A message that is heard is not one of those still queued. -/
theorem hear (message : PollMessage) : IgnoresQueue fun h => h.after (.hear message) := by
  intro h queue
  show ((h.withQueue queue).applyMessage message).2 = (h.applyMessage message).2.withQueue queue
  have hsame : (h.withQueue queue).mounted? message.panel = h.mounted? message.panel := rfl
  unfold Host.applyMessage
  rw [hsame]
  cases (h.mounted? message.panel).filter fun m => m.worker == some message.worker with
  | none => rfl
  | some m =>
    cases hreport : message.report with
    | issued =>
      simp only
      rfl
    | completed outcome ts =>
      simp only
      split
      next => rfl
      next =>
        refine Eq.trans ?_ (comp (updateQuality message.panel) (learn m.endpoint outcome) _ queue)
        rfl

/-- Only what the queue is for looks at it. -/
theorem perform (c : HostCall) (hdeliver : ∀ message, c ≠ .deliver message) (hpump : c ≠ .pump) :
    IgnoresQueue fun h => h.perform c := by
  cases c with
  | mount p now => exact (mount p now).ignoresQueue
  | unmount id => exact unmount id
  | sync panels now =>
    intro h queue
    have hunmount := foldl (f := fun h id => (h.unmount id).2) unmount (h.surplus panels)
    exact comp (mountAll now panels).ignoresQueue hunmount h queue
  | refresh id => exact refreshNow id
  | poll now =>
    intro h queue
    exact foldl (f := fun h id => h.pollPanel now id) (pollPanel now) h.polledIds h queue
  | render id now => exact render id now
  | deliver message => exact absurd rfl (hdeliver message)
  | pump => exact absurd rfl hpump

end IgnoresQueue

/-! ## §2. Runs without stale messages. -/

/-- A host whose queue has lost some messages. -/
def forget (h : Host) (old : PollMessage → Bool) : Host :=
  h.withQueue (h.pool.queue.filter fun m => !old m)

/-- Whether a call brings one of some messages. -/
def brings (old : PollMessage → Bool) : HostCall → Bool
  | .deliver message => old message
  | _ => false

variable {h : Host} {old : PollMessage → Bool}

/-- Nothing queued, nothing to forget. -/
theorem forget_of_queue_nil (hempty : h.pool.queue = []) : h.forget old = h := by
  unfold forget
  rw [hempty, List.filter_nil, ← hempty]
  rfl

/-- Applying the messages leaves none. -/
theorem queue_pump (h : Host) : h.pump.2.pool.queue = [] := by
  rw [pump_eq_run, run, List.foldl_map]
  exact (IgnoresQueue.foldl IgnoresQueue.hear h.pool.queue).queue_eq (h.withQueue [])

/-- Stale messages change nothing when they are applied, so they may be
forgotten before. -/
theorem Staffed.forget_pump (hs : h.Staffed)
    (hold : ∀ message, old message = true → h.stale message = true) :
    h.pump.2.forget old = (h.forget old).pump.2 := by
  have hemptied := hs.later_queue []
  have hfiltered := hemptied.staffed.run_hear_filter (fun m hm => hemptied.stale (hold m hm))
    h.pool.queue
  rw [forget_of_queue_nil h.queue_pump, pump_eq_run, pump_eq_run]
  exact hfiltered

/-- A call that brings none of the messages goes as it would without them. -/
theorem Staffed.forget_perform (hs : h.Staffed)
    (hold : ∀ message, old message = true → h.stale message = true) {c : HostCall}
    (hc : brings old c = false) : (h.perform c).forget old = (h.forget old).perform c := by
  -- deliveries and pumps look at the queue, all other calls pass it through
  by_cases hdeliver : ∃ message, c = .deliver message
  · obtain ⟨message, rfl⟩ := hdeliver
    have hkept : [message].filter (fun m => !old m) = [message] :=
      List.filter_cons_of_pos (by simpa [brings] using hc)
    show h.withQueue ((h.pool.queue ++ [message]).filter _) = h.withQueue _
    rw [List.filter_append, hkept]
    rfl
  · by_cases hpump : c = .pump
    · subst hpump
      exact hs.forget_pump hold
    · have hignores := IgnoresQueue.perform c (fun message hm => hdeliver ⟨message, hm⟩) hpump
      show (h.perform c).withQueue ((h.perform c).pool.queue.filter _) = _
      rw [hignores.queue_eq h]
      exact (hignores h _).symm

/-- A message that is forgotten might as well not have come. -/
theorem forget_deliver {message : PollMessage} (hmessage : old message = true) :
    (h.perform (.deliver message)).forget old = h.forget old := by
  have hdropped : [message].filter (fun m => !old m) = [] :=
    List.filter_cons_of_neg (by simp [hmessage])
  show h.withQueue ((h.pool.queue ++ [message]).filter _) = h.withQueue _
  rw [List.filter_append, hdropped, List.append_nil]

/-- **Stale messages change nothing in any run**: without them, whether they
are queued already or still to come, it ends in the same host. -/
theorem Staffed.forget_performs (hs : h.Staffed)
    (hold : ∀ message, old message = true → h.stale message = true) (calls : List HostCall) :
    (h.performs calls).forget old =
      (h.forget old).performs (calls.filter fun c => !brings old c) := by
  induction calls generalizing h with
  | nil => rfl
  | cons c rest ih =>
    have hnext := hs.later_perform c
    -- stale messages are still stale after the call, so the rest of the run can do without them
    have hrest := ih hnext.staffed fun m hm => hnext.stale (hold m hm)
    refine hrest.trans ?_
    cases hc : brings old c with
    | true =>
      -- only a delivery brings a message
      obtain ⟨message, rfl⟩ : ∃ message, c = .deliver message := by
        cases c <;> first | exact ⟨_, rfl⟩ | exact nomatch hc
      rw [List.filter_cons_of_neg (by simp [hc]), forget_deliver hc]
    | false =>
      rw [List.filter_cons_of_pos (by simp [hc]), hs.forget_perform hold hc]
      rfl

/-! ## §3. Messages of the current worker. -/

/-- What a message of the worker of the panel `m` may change: what the panel
has heard, its quality and the events of that, and the capabilities, where the
panel polls the status summary and the message answers its last request. -/
structure Confined (h : Host) (m : MountedPanel) (message : PollMessage) (h' : Host) : Prop where
  rest : ∃ mounted events capabilities, h' = { h with mounted, events, capabilities }
  others : ∀ id, id ≠ message.panel → h'.mounted? id = h.mounted? id
  panel : ∃ reporter quality, h'.mounted? message.panel =
    some { m with query := m.query.hear message.request message.report, reporter, quality }
  events : ∃ news, h'.events = h.events ++ news ∧ ∀ e ∈ news, e.panel = message.panel
  capabilities : h'.capabilities = h.capabilities ∨
    ∃ payload ts, message.report = .completed (.ok payload) ts ∧
      m.endpoint = some statusEndpoint ∧ m.query.accepts message.request = true ∧
      h'.capabilities = .ofPayload payload

variable {m : MountedPanel} {id : String}

/-- Only a status summary changes the capabilities. -/
theorem learn_eq (h : Host) (endpoint : Option String) (outcome : Outcome) :
    ∃ capabilities, h.learn endpoint outcome = { h with capabilities } ∧
      (capabilities = h.capabilities ∨ ∃ payload, outcome = .ok payload ∧
        endpoint = some statusEndpoint ∧ capabilities = .ofPayload payload) := by
  unfold learn
  split
  next e payload =>
    split
    next he => exact ⟨_, rfl, .inr ⟨payload, rfl, congrArg some he, rfl⟩⟩
    next => exact ⟨_, rfl, .inl rfl⟩
  next => exact ⟨_, rfl, .inl rfl⟩

/-- A panel that has its answer is given the quality that is derived from it. -/
theorem answered_eq (h : Host) (id : String) (m : MountedPanel) (query : Query Json.Value)
    (outcome : Outcome) :
    ∃ capabilities, h.answered id m query outcome =
        ({ h with mounted := h.mounted.insert id { m with query }, capabilities } :
          Host).recordQuality id { m with query } (h.derivedQuality { m with query }) ∧
      (capabilities = h.capabilities ∨ ∃ payload, outcome = .ok payload ∧
        m.endpoint = some statusEndpoint ∧ capabilities = .ofPayload payload) := by
  obtain ⟨capabilities, hlearned, hcapabilities⟩ :=
    ({ h with mounted := h.mounted.insert id { m with query } } : Host).learn_eq m.endpoint outcome
  have htold : Keyed.get? id (h.mounted.insert id { m with query }) = some { m with query } :=
    (Keyed.get?_insert id id _ h.mounted).trans (if_pos rfl)
  refine ⟨capabilities, ?_, hcapabilities⟩
  unfold answered
  rw [hlearned]
  unfold updateQuality mounted?
  dsimp only
  rw [htold]
  rfl

/-- Only the panel that has its answer is another one. -/
theorem mounted?_answered_ne (h : Host) {id key : String} (hkey : key ≠ id) (m : MountedPanel)
    (query : Query Json.Value) (outcome : Outcome) :
    (h.answered id m query outcome).mounted? key = h.mounted? key := by
  obtain ⟨capabilities, hanswered, -⟩ := h.answered_eq id m query outcome
  rw [hanswered]
  -- the panel is put back twice, with its query and with its quality
  have hother : ∀ (v : MountedPanel) (l : Keyed MountedPanel),
      Keyed.get? key (l.insert id v) = Keyed.get? key l :=
    fun v l => (Keyed.get?_insert id key v l).trans (if_neg (Ne.symm hkey))
  exact (hother _ _).trans (hother _ _)

/-- A message that leaves the query leaves the host. -/
theorem confined_of_heard (hm : h.mounted? id = some m) {k n : Nat} {report : PollReport}
    (hheard : m.query.hear n report = m.query) : h.Confined m ⟨k, id, n, report⟩ h where
  rest := ⟨_, _, _, rfl⟩
  others := fun _ _ => rfl
  panel := ⟨m.reporter, m.quality, by rw [hheard]; exact hm⟩
  events := ⟨[], (List.append_nil _).symm, fun _ he => nomatch he⟩
  capabilities := .inl rfl

/-- A message that a request was begun changes the query alone. -/
theorem confined_issued (h : Host) (m : MountedPanel) (k : Nat) (id : String) (n : Nat) :
    h.Confined m ⟨k, id, n, .issued⟩
      { h with mounted := h.mounted.insert id { m with query := m.query.markIssued n } } where
  rest := ⟨_, _, _, rfl⟩
  others := fun key hkey => (Keyed.get?_insert id key _ _).trans (if_neg (Ne.symm hkey))
  panel := ⟨m.reporter, m.quality, (Keyed.get?_insert id id _ _).trans (if_pos rfl)⟩
  events := ⟨[], (List.append_nil _).symm, fun _ he => nomatch he⟩
  capabilities := .inl rfl

/-- An applied outcome changes query, quality, events, and perhaps the
capabilities. -/
theorem confined_answered (h : Host) (hid : m.panel.id = id) (k : Nat) {n : Nat}
    (ha : m.query.accepts n = true) (outcome : Outcome) (ts : Int) :
    h.Confined m ⟨k, id, n, .completed outcome ts⟩
      (h.answered id m (m.query.complete n outcome ts).2 outcome) := by
  have hothers := fun key (hkey : key ≠ id) =>
    h.mounted?_answered_ne hkey m (m.query.complete n outcome ts).2 outcome
  obtain ⟨capabilities, hanswered, hcapabilities⟩ :=
    h.answered_eq id m (m.query.complete n outcome ts).2 outcome
  rw [hanswered] at hothers ⊢
  generalize h.derivedQuality _ = q at hothers ⊢
  refine ⟨⟨_, _, _, rfl⟩, hothers, ?_, ?_, ?_⟩
  · exact ⟨_, q, (Keyed.get?_insert id id _ _).trans (if_pos rfl)⟩
  · by_cases hnews : (m.reporter.report q).1
    · refine ⟨[⟨m.panel.id, q⟩], if_pos hnews, ?_⟩
      intro e he
      rw [List.mem_singleton.mp he]
      exact hid
    · exact ⟨[], (if_neg hnews).trans (List.append_nil _).symm, fun _ he => nomatch he⟩
  · rcases hcapabilities with hsame | ⟨payload, rfl, hendpoint, hknown⟩
    · exact .inl hsame
    · exact .inr ⟨payload, ts, rfl, hendpoint, ha, hknown⟩

/-- What a panel's worker reports concerns that panel. -/
theorem confined_applyMessage (hf : h.Filed) {message : PollMessage}
    (hm : h.mounted? message.panel = some m) (hk : m.worker = some message.worker) :
    h.Confined m message (h.applyMessage message).2 := by
  obtain ⟨k, id, n, report⟩ := message
  cases report with
  | issued =>
    have hcurrent : (h.mounted? id).filter (fun m => m.worker == some k) = some m := by
      rw [Option.filter_eq_some_iff]
      exact ⟨hm, beq_iff_eq.mpr hk⟩
    unfold applyMessage
    rw [hcurrent]
    exact h.confined_issued m k id n
  | completed outcome ts =>
    rw [h.applyMessage_completed hm hk]
    split
    next ha => exact h.confined_answered (hf.id_eq hm) k ha outcome ts
    next ha =>
      refine confined_of_heard hm ?_
      show (m.query.complete n outcome ts).2 = m.query
      unfold Query.complete
      rw [if_neg ha]

/-! ## §4. Panels mounted anew. -/

/-- A message for a panel of a worker that has been hired already. -/
def earlier (h : Host) (id : String) (message : PollMessage) : Bool :=
  message.panel == id && decide (message.worker ≤ h.pool.lastId)

/-- A panel is mounted, and no poll has told it anything. -/
def ShowsNothing (h : Host) (p : Panel) (now : Int) : Prop :=
  ∃ m, h.mounted? p.id = some m ∧ m.panel = p ∧ m.query = .fresh now ∧ m.reporter = .fresh ∧
    m.quality = .unknown

/-- Nothing goes on, so the panel is mounted afresh. -/
theorem mount_of_not_continues {p : Panel}
    (hanew : (h.mounted? p.id).any (h.continues · p) = false) (now : Int) :
    h.mount p now = h.mountFresh p now := by
  have hnone : (h.mounted? p.id).filter (fun m => h.continues m p) = none := by
    rw [Option.filter_eq_none_iff]
    intro m hm
    rw [hm] at hanew
    exact Bool.eq_false_iff.mp hanew
  unfold mount
  rw [hnone]

/-- A panel begins anew, or its worker did not start and it is not mounted. -/
def BeginsAnew (p : Panel) (now : Int) : Except HostError Unit × Host → Prop
  | (.ok (), h) => h.ShowsNothing p now
  | (.error e, h) => e.panel = p.id ∧ h.mounted? p.id = none

/-- A panel mounted afresh has a fresh query, or is not mounted. -/
theorem beginsAnew_mountFresh (hs : h.mounted.Sorted) (p : Panel) (now : Int) :
    BeginsAnew p now (h.mountFresh p now) := by
  have hgone := (h.replaces_unmount hs p.id).at_key
  unfold mountFresh
  generalize (h.unmount p.id).2 = h₁ at hgone
  dsimp only
  obtain ⟨_ | worker, pool⟩ := h₁.spawnWorker p
  · exact ⟨rfl, Option.map_eq_none_iff.mp hgone⟩
  · exact ⟨_, (Keyed.get?_insert p.id p.id _ _).trans (if_pos rfl), rfl, rfl, rfl, rfl⟩

/-- A panel that is mounted afresh gets a worker of its own or none, so what an
earlier worker says of it is stale. -/
theorem Staffed.stale_mountFresh (hs : h.Staffed) (p : Panel) (now : Int) {message : PollMessage}
    (hm : h.earlier p.id message = true) : (h.mountFresh p now).2.stale message = true := by
  obtain ⟨hpanel, hle⟩ : message.panel = p.id ∧ message.worker ≤ h.pool.lastId := by
    simpa [earlier] using hm
  obtain ⟨x, hstarts, r⟩ := h.replaces_mountFresh hs.sound.sorted p now
  refine stale_eq_true_iff.mpr ⟨Nat.le_trans hle r.lastId, ?_⟩
  intro hk
  rw [hpanel] at hk
  obtain ⟨polling, hpolling, hworker⟩ := worker?_eq_some_iff.mp hk
  have hnew := ((hstarts polling (r.at_key.symm.trans hpolling)).hired _ hworker).2.1
  omega

/-- **Retired workers cannot touch a host.**  After any calls:

* A message of another worker than the panel's, or for a panel that is not
  mounted, changes nothing at all; one of the panel's worker, which is no other
  panel's, changes only what belongs to that panel, and the capabilities where
  it is the answer to a poll of the status summary.
* Whatever is called later, messages that are stale now make no difference.
* A panel that is unmounted is gone.  When it is mounted, and does not just go
  on as it was mounted before, it shows nothing yet, or is not there if its
  worker does not start, and no message of a worker hired before makes a
  difference to it. -/
theorem retired_harmless (registry : Registry) (settings : HostSettings) (script : Script)
    (refusals : Refusals) (calls : List HostCall) :
    let h := (fresh registry settings script refusals).performs calls
    (∀ message,
      (h.worker? message.panel ≠ some message.worker → h.applyMessage message = (false, h)) ∧
      (h.worker? message.panel = some message.worker →
        (∀ id, h.worker? id = some message.worker → id = message.panel) ∧
        ∃ m, h.mounted? message.panel = some m ∧
          h.Confined m message (h.applyMessage message).2)) ∧
    (∀ later, (h.performs later).forget h.stale =
      (h.forget h.stale).performs (later.filter fun c => !brings h.stale c)) ∧
    (∀ id, (h.unmount id).2.mounted? id = none) ∧
    (∀ p now, (h.mounted? p.id).any (h.continues · p) = false →
      BeginsAnew p now (h.mount p now) ∧
      ∀ later, ((h.mount p now).2.performs later).forget (h.earlier p.id) =
        ((h.mount p now).2.forget (h.earlier p.id)).performs
          (later.filter fun c => !brings (h.earlier p.id) c)) := by
  intro h
  have hs : h.Staffed :=
    ((staffed_fresh registry settings script refusals).later_performs calls).staffed
  have hf : h.Filed := (filed_fresh registry settings script refusals).performs calls
  refine ⟨fun message => ⟨applyMessage_of_foreign, fun hk => ⟨?_, ?_⟩⟩, ?_, ?_, ?_⟩
  · intro id hid
    exact hs.exclusive id message.panel _ hid hk
  · obtain ⟨polling, hpolling, hworker⟩ := worker?_eq_some_iff.mp hk
    obtain ⟨m, hm, rfl⟩ := Option.map_eq_some_iff.mp hpolling
    exact ⟨m, hm, confined_applyMessage hf hm hworker⟩
  · intro later
    exact hs.forget_performs (fun _ hm => hm) later
  · intro id
    exact Option.map_eq_none_iff.mp (h.replaces_unmount hs.sound.sorted id).at_key
  · intro p now hanew
    have hmounted := hs.later_mount p now
    rw [mount_of_not_continues hanew] at hmounted ⊢
    refine ⟨beginsAnew_mountFresh hs.sound.sorted p now, ?_⟩
    intro later
    exact hmounted.staffed.forget_performs (fun _ hm => hs.stale_mountFresh p now hm) later

/-- The first worker of a panel leaves a message behind, and the panel is
mounted a second time. -/
def leftoverCalls : List HostCall :=
  [.mount botsPanel 0, .deliver ⟨1, "b", 1, .issued⟩, .unmount "b", .mount botsPanel 5]

/-- The panel once more, under another widget. -/
def navPanel : Panel := { botsPanel with widgetId := "quick-nav" }

/-- The first worker's message waits in the queue, only the second worker is
heard, and after a third mount neither is. -/
theorem leftovers_harmless :
    let h := (fresh .builtin .standard botsScript .none).performs leftoverCalls
    let answer (k : Nat) : PollMessage := ⟨k, "b", 1, .completed (.ok .null) 6⟩
    h.pool.queue.map (h.stale ·) = [true] ∧
      h.applyMessage (answer 1) = (false, h) ∧
      (∃ m, h.mounted? "b" = some m ∧ h.Confined m (answer 2) (h.applyMessage (answer 2)).2) ∧
      (h.performs [.deliver (answer 1), .deliver (answer 2), .pump]).forget h.stale =
        (h.forget h.stale).performs [.deliver (answer 2), .pump] ∧
      (h.mount navPanel 7).2.ShowsNothing navPanel 7 ∧
      ((h.mount navPanel 7).2.performs [.deliver (answer 2), .pump]).forget (h.earlier "b") =
        ((h.mount navPanel 7).2.forget (h.earlier "b")).performs [.pump] := by
  intro h answer
  obtain ⟨hmessages, hlater, -, hanew⟩ :=
    retired_harmless .builtin .standard botsScript .none leftoverCalls
  obtain ⟨hnothing, hafter⟩ := hanew navPanel 7 (by decide +kernel)
  have hbrought : [HostCall.deliver (answer 1), .deliver (answer 2), .pump].filter
      (fun c => !brings h.stale c) = [.deliver (answer 2), .pump] := by rfl
  refine ⟨by decide +kernel, (hmessages (answer 1)).1 (by decide +kernel),
    ((hmessages (answer 2)).2 (by decide +kernel)).2, ?_, hnothing, ?_⟩
  · exact (hlater _).trans (congrArg _ hbrought)
  · exact hafter [.deliver (answer 2), .pump]

end Dashboard.Host
