/-
  Dashboard.Proofs.Poll.Polling
  ─────────────────────────────
  **THE POLLS OF A PANEL.**

  Of a mounted panel only its worker, its endpoint and its query matter to its
  polls.  What an operation of a host does to them is one lemma for each
  operation: it replaces the polls of one panel and leaves all others
  (`Replaces`).  Whatever is proved of a host's polls looks at these lemmas
  only.

  Main results:
    replaces_applyMessage, replaces_mount, … — what an operation does
    pump_eq_run — applying the queued messages is a run
    Sound.run   — worker ids are given once, and to panels with an endpoint
-/
import Dashboard.Host
import Dashboard.Proofs.Keyed

namespace Dashboard

open Json

/-! ## §1. The polls of a panel. -/

/-- What the polls of a mounted panel depend on. -/
structure Polling where
  worker : Option Nat
  endpoint : Option String
  query : Query Value

/-- The polls of a mounted panel. -/
def MountedPanel.polling (m : MountedPanel) : Polling := ⟨m.worker, m.endpoint, m.query⟩

/-- A query that hears of a request. -/
def Query.hear (q : Query Value) (n : Nat) : PollReport → Query Value
  | .issued => q.markIssued n
  | .completed outcome ts => (q.complete n outcome ts).2

/-- A panel hears its current worker only. -/
def Polling.hear (p : Polling) (message : PollMessage) : Polling :=
  if p.worker = some message.worker then
    { p with query := p.query.hear message.request message.report }
  else p

/-- A query that is polled by its host. -/
def Query.polled (q : Query Value) (outcome : Outcome) (now : Int) : Query Value :=
  (q.begin.2.complete q.begin.1 outcome now).2

/-- A host polls the panels that have an endpoint. -/
def Polling.polled (p : Polling) (outcome : Outcome) (now : Int) : Polling :=
  if p.endpoint.isSome then { p with query := p.query.polled outcome now } else p

namespace Host

/-- The polls of the panel of an id. -/
def polling? (h : Host) (id : String) : Option Polling := (h.mounted? id).map (·.polling)

/-- The worker of the panel of an id. -/
def worker? (h : Host) (id : String) : Option Nat := (h.polling? id).bind (·.worker)

/-! ## §2. What an operation does to them. -/

/-- The polls of one panel are replaced; all others are as before. -/
structure Replaces (h : Host) (key : String) (x : Option Polling) (h' : Host) : Prop where
  sorted : h.mounted.Sorted → h'.mounted.Sorted
  lastId : h.pool.lastId ≤ h'.pool.lastId
  polls : ∀ id, h'.polling? id = if key = id then x else h.polling? id

namespace Replaces

variable {h h' h'' : Host} {key : String} {x y : Option Polling}

/-- The mounted panels alone decide it. -/
theorem of_mounted_eq (hmounted : h'.mounted = h.mounted)
    (hpool : h.pool.lastId ≤ h'.pool.lastId) (key : String) :
    h.Replaces key (h.polling? key) h' := by
  refine ⟨fun hs => hmounted ▸ hs, hpool, ?_⟩
  intro id
  rw [polling?, mounted?, hmounted]
  split
  next hkey => rw [hkey]; rfl
  next => rfl

/-- A panel mounted in its place. -/
theorem of_mounted_insert (m : MountedPanel) (hmounted : h'.mounted = h.mounted.insert key m)
    (hpool : h.pool.lastId ≤ h'.pool.lastId) : h.Replaces key (some m.polling) h' := by
  refine ⟨fun hs => hmounted ▸ hs.insert key m, hpool, ?_⟩
  intro id
  rw [polling?, mounted?, hmounted]
  show (Keyed.get? id (h.mounted.insert key m)).map _ = _
  rw [Keyed.get?_insert]
  split <;> rfl

/-- A host in place of itself. -/
theorem refl (h : Host) (key : String) : h.Replaces key (h.polling? key) h :=
  .of_mounted_eq rfl (Nat.le_refl _) key

/-- Of two replacements the later one stays. -/
theorem trans (first : h.Replaces key x h') (second : h'.Replaces key y h'') :
    h.Replaces key y h'' := by
  refine ⟨second.sorted ∘ first.sorted, Nat.le_trans first.lastId second.lastId, ?_⟩
  intro id
  rw [second.polls]
  split
  next => rfl
  next hkey => rw [first.polls, if_neg hkey]

/-- The polls of the panel that was replaced. -/
theorem at_key (r : h.Replaces key x h') : h'.polling? key = x := by
  rw [r.polls, if_pos rfl]

/-- What comes after a replacement and keeps its polls can be left out. -/
theorem andKept (first : h.Replaces key x h') (second : h'.Replaces key (h'.polling? key) h'') :
    h.Replaces key x h'' := by
  rw [first.at_key] at second
  exact first.trans second

end Replaces

variable (h : Host)

theorem polling?_of_mounted {id : String} {m : MountedPanel} (hm : h.mounted? id = some m) :
    h.polling? id = some m.polling := by
  rw [polling?, hm, Option.map_some]

theorem polling?_of_not_mounted {id : String} (hm : h.mounted? id = none) :
    h.polling? id = none := by
  rw [polling?, hm, Option.map_none]

/-- A quality is no part of the polls. -/
theorem replaces_updateQuality (key : String) :
    h.Replaces key (h.polling? key) (h.updateQuality key) := by
  unfold updateQuality
  split
  next => exact .refl h key
  next m hm =>
    rw [h.polling?_of_mounted hm]
    -- quality and reporter are no part of the polls
    let q := h.derivedQuality m
    exact .of_mounted_insert { m with quality := q, reporter := (m.reporter.report q).2 } rfl
      (Nat.le_refl _)

theorem replaces_learn (key : String) (endpoint : Option String) (outcome : Outcome) :
    h.Replaces key (h.polling? key) (h.learn endpoint outcome) := by
  unfold learn
  split
  next =>
    split
    next =>
      refine .of_mounted_eq ?_ ?_ key
      · rfl
      · exact Nat.le_refl _
    next => exact .refl h key
  next => exact .refl h key

/-- What a host does with an answer, once the panel's query has it. -/
theorem Replaces.answered {h h' : Host} {key : String} {x : Option Polling}
    (r : h.Replaces key x h') (endpoint : Option String) (outcome : Outcome) :
    h.Replaces key x ((h'.learn endpoint outcome).updateQuality key) :=
  (r.andKept (h'.replaces_learn key endpoint outcome)).andKept (replaces_updateQuality _ key)

/-- A message concerns the panel that it names. -/
theorem replaces_applyMessage (message : PollMessage) :
    h.Replaces message.panel ((h.polling? message.panel).map (·.hear message))
      (h.applyMessage message).2 := by
  obtain ⟨k, key, n, report⟩ := message
  have hkept := Replaces.refl h key
  unfold applyMessage
  dsimp only
  cases hm : h.mounted? key with
  | none =>
    rw [h.polling?_of_not_mounted hm] at hkept ⊢
    exact hkept
  | some m =>
    rw [h.polling?_of_mounted hm] at hkept ⊢
    rw [Option.map_some]
    by_cases hk : m.worker = some k
    · have hcurrent : (some m).filter (fun m => m.worker == some k) = some m := by simp [hk]
      have hhear : m.polling.hear ⟨k, key, n, report⟩ =
          ⟨m.worker, m.endpoint, m.query.hear n report⟩ := if_pos hk
      rw [hcurrent, hhear]
      cases report with
      | issued =>
        exact .of_mounted_insert { m with query := m.query.markIssued n } rfl (Nat.le_refl _)
      | completed outcome ts =>
        show h.Replaces key (some ⟨m.worker, m.endpoint, (m.query.complete n outcome ts).2⟩) _
        dsimp only
        split
        next q hq =>
          have hsame := m.query.complete_superseded n outcome ts (by rw [hq])
          rw [hsame]
          exact hkept
        next q hq =>
          have hset : h.Replaces key (some ⟨m.worker, m.endpoint, q⟩)
              { h with mounted := h.mounted.insert key { m with query := q } } :=
            .of_mounted_insert { m with query := q } rfl (Nat.le_refl _)
          rw [hq]
          exact hset.answered m.endpoint outcome
    · have hretired : (some m).filter (fun m => m.worker == some k) = none := by simp [hk]
      have hdeaf : m.polling.hear ⟨k, key, n, report⟩ = m.polling := if_neg hk
      rw [hretired, hdeaf]
      exact hkept

/-- A poll by the host itself has some outcome. -/
theorem replaces_pollPanel (now : Int) (key : String) :
    ∃ outcome, h.Replaces key ((h.polling? key).map (·.polled outcome now))
      (h.pollPanel now key) := by
  have hkept := Replaces.refl h key
  unfold pollPanel
  cases hm : h.mounted? key with
  | none =>
    rw [h.polling?_of_not_mounted hm] at hkept ⊢
    exact ⟨.error .cancelled, hkept⟩
  | some m =>
    rw [h.polling?_of_mounted hm] at hkept ⊢
    cases hendpoint : m.endpoint with
    | none =>
      have hunpolled : ∀ outcome, m.polling.polled outcome now = m.polling := by
        intro outcome
        exact if_neg (by simp [MountedPanel.polling, hendpoint])
      refine ⟨.error .cancelled, ?_⟩
      rw [Option.map_some, hunpolled]
      simp only [hendpoint]
      exact hkept
    | some endpoint =>
      refine ⟨(h.pool.script.fetch endpoint h.settings.timeout false).1, ?_⟩
      have hpolled : ∀ outcome, m.polling.polled outcome now =
          ⟨m.worker, m.endpoint, m.query.polled outcome now⟩ := by
        intro outcome
        exact if_pos (by simp [MountedPanel.polling, hendpoint])
      rw [Option.map_some, hpolled]
      simp only [hendpoint]
      refine Replaces.answered ?_ _ _
      let query := m.query.polled (h.pool.script.fetch endpoint h.settings.timeout false).1 now
      have hquery : (⟨m.worker, m.endpoint, query⟩ : Polling) =
          ({ m with query := query } : MountedPanel).polling := rfl
      rw [← hendpoint, hquery]
      exact .of_mounted_insert { m with query := query } (by rfl) (Nat.le_refl _)

/-- An unmounted panel has no polls. -/
theorem replaces_unmount (hs : h.mounted.Sorted) (key : String) :
    h.Replaces key none (h.unmount key).2 := by
  unfold unmount
  cases hm : h.mounted? key with
  | none =>
    rw [← h.polling?_of_not_mounted hm]
    exact .refl h key
  | some m =>
    refine ⟨fun hs => hs.erase key, ?_, ?_⟩
    · -- stopping a worker gives out no id
      dsimp only
      split <;> exact Nat.le_refl _
    · intro id
      show (Keyed.get? id (h.mounted.erase key)).map _ = _
      rw [Keyed.get?_erase hs]
      split <;> rfl

/-- A panel whose polls start under a worker that no panel had before, or without one. -/
structure Starts (h : Host) (p : Polling) (h' : Host) : Prop where
  query : ∃ now, p.query = .fresh now
  hired : ∀ k, p.worker = some k → p.endpoint.isSome ∧ h.pool.lastId < k ∧ k ≤ h'.pool.lastId

/-- A panel gets a worker with a new id, or none; or its worker does not start,
and the id is used up all the same. -/
theorem spawnWorker_cases (p : Panel) :
    (∃ worker pool, h.spawnWorker p = (.ok worker, pool) ∧ h.pool.lastId ≤ pool.lastId ∧
      ∀ k, worker = some k →
        (h.endpointOf p).isSome ∧ h.pool.lastId < k ∧ k ≤ pool.lastId) ∨
    ∃ e pool, h.spawnWorker p = (.error e, pool) ∧ h.pool.lastId ≤ pool.lastId := by
  unfold spawnWorker Pool.spawn
  cases h.endpointOf p with
  | none => exact .inl ⟨none, h.pool, rfl, Nat.le_refl _, nofun⟩
  | some endpoint =>
    cases h.settings.background with
    | false => exact .inl ⟨none, h.pool, rfl, Nat.le_refl _, nofun⟩
    | true =>
      dsimp only
      split
      next => exact .inr ⟨_, _, rfl, Nat.le_succ _⟩
      next =>
        refine .inl ⟨_, _, rfl, Nat.le_succ _, ?_⟩
        rintro k ⟨⟩
        exact ⟨rfl, Nat.lt_succ_self _, Nat.le_refl _⟩

/-- A panel that is mounted afresh has new polls, or none if its worker does not
start. -/
theorem replaces_mountFresh (hs : h.mounted.Sorted) (p : Panel) (now : Int) :
    ∃ x, (∀ polling, x = some polling → h.Starts polling (h.mountFresh p now).2) ∧
      h.Replaces p.id x (h.mountFresh p now).2 := by
  have hunmounted := h.replaces_unmount hs p.id
  unfold mountFresh
  generalize (h.unmount p.id).2 = h₁ at hunmounted
  have hlast := hunmounted.lastId
  rcases h₁.spawnWorker_cases p with ⟨worker, pool, hspawn, hle, hnew⟩ | ⟨e, pool, hspawn, hle⟩
  · dsimp only
    rw [hspawn]
    refine ⟨some ⟨worker, h₁.endpointOf p, .fresh now⟩, ?_, ?_⟩
    · rintro _ ⟨⟩
      refine ⟨⟨now, rfl⟩, fun k hk => ?_⟩
      obtain ⟨hendpoint, hlt, hk⟩ := hnew k hk
      exact ⟨hendpoint, by omega, hk⟩
    · refine hunmounted.trans ?_
      exact .of_mounted_insert
        ⟨p, h₁.endpointOf p, h₁.intervalOf p, .fresh now, .fresh, .unknown, now, worker⟩ rfl hle
  · dsimp only
    rw [hspawn]
    refine ⟨none, nofun, ?_⟩
    refine hunmounted.andKept (.of_mounted_eq ?_ ?_ p.id)
    · rfl
    · exact hle

/-- A panel that is mounted again goes on with its polls, or starts afresh, or
is gone. -/
theorem replaces_mount (hs : h.mounted.Sorted) (p : Panel) (now : Int) :
    h.Replaces p.id (h.polling? p.id) (h.mount p now).2 ∨
      ∃ x, (∀ polling, x = some polling → h.Starts polling (h.mount p now).2) ∧
        h.Replaces p.id x (h.mount p now).2 := by
  unfold mount
  split
  next m hm =>
    left
    have hmounted : h.mounted? p.id = some m := (Option.filter_eq_some_iff.mp hm).1
    rw [h.polling?_of_mounted hmounted]
    exact .of_mounted_insert { m with panel := p } rfl (Nat.le_refl _)
  next =>
    right
    exact h.replaces_mountFresh hs p now

/-- The panels that are mounted one after another: all of them, or those up to
the first that fails. -/
def attempted (now : Int) : List Panel → Host → List Panel
  | [], _ => []
  | p :: rest, h =>
    p :: match h.mount p now with
      | (.ok (), h) => attempted now rest h
      | (.error _, _) => []

/-- Mounting up to the first failure is mounting all that are attempted. -/
theorem mountAll_eq_foldl (h : Host) (panels : List Panel) (now : Int) :
    (h.mountAll now panels).2 =
      (attempted now panels h).foldl (fun h p => (h.mount p now).2) h := by
  induction panels generalizing h with
  | nil => rfl
  | cons p rest ih =>
    rw [mountAll, attempted, List.foldl_cons]
    generalize h.mount p now = mounted
    obtain ⟨_ | _, h₁⟩ := mounted
    · rfl
    · exact ih h₁

/-- Without a failure all are attempted. -/
theorem attempted_of_ok {panels : List Panel} {now : Int} {h : Host}
    (hok : (h.mountAll now panels).1 = .ok ()) : attempted now panels h = panels := by
  induction panels generalizing h with
  | nil => rfl
  | cons p rest ih =>
    rw [mountAll] at hok
    rw [attempted]
    generalize h.mount p now = mounted at hok
    obtain ⟨_ | _, h₁⟩ := mounted
    · exact nomatch hok
    · exact congrArg (p :: ·) (ih hok)

/-- Asking for a poll concerns the worker alone. -/
theorem refreshNow_eq (id : String) :
    ∃ workers, (h.refreshNow id).2 = { h with pool := { h.pool with workers } } := by
  unfold refreshNow
  split
  next => exact ⟨_, rfl⟩
  next => exact ⟨_, rfl⟩

/-- A request to poll at once goes to the worker. -/
theorem replaces_refreshNow (id key : String) :
    h.Replaces key (h.polling? key) (h.refreshNow id).2 := by
  obtain ⟨workers, hrefreshed⟩ := h.refreshNow_eq id
  rw [hrefreshed]
  refine .of_mounted_eq ?_ ?_ key
  · rfl
  · exact Nat.le_refl _

/-- Drawing a mounted panel may ask its worker for a poll, and its widget may
report a quality. -/
theorem render_eq {id : String} {m : MountedPanel} (hm : h.mounted? id = some m) (now : Int) :
    ∃ workers, (h.render id now).2 =
      ({ h with pool := { h.pool with workers } } : Host).takeReport id m
        (h.drawing m now).reported := by
  unfold render
  rw [hm]
  dsimp only
  split
  next =>
    obtain ⟨workers, hrefreshed⟩ := h.refreshNow_eq id
    exact ⟨workers, by rw [hrefreshed]⟩
  next => exact ⟨h.pool.workers, rfl⟩

/-- A drawing may ask for a poll, but makes none. -/
theorem replaces_render (id : String) (now : Int) :
    h.Replaces id (h.polling? id) (h.render id now).2 := by
  cases hm : h.mounted? id with
  | none =>
    have hnone : (h.render id now).2 = h := by
      unfold render
      rw [hm]
    rw [hnone]
    exact .refl h id
  | some m =>
    obtain ⟨workers, hdrawn⟩ := h.render_eq hm now
    rw [hdrawn]
    unfold takeReport
    split
    next q _ =>
      rw [h.polling?_of_mounted hm]
      exact .of_mounted_insert { m with quality := q, reporter := (m.reporter.report q).2 } rfl
        (Nat.le_refl _)
    next =>
      refine .of_mounted_eq ?_ ?_ id
      · rfl
      · exact Nat.le_refl _

/-- What a worker does shows in messages only. -/
theorem replaces_work (ts : Int) (s : PooledWorker) (key : String) :
    h.Replaces key (h.polling? key) { h with pool := h.pool.step ts s } := by
  refine .of_mounted_eq ?_ ?_ key
  · rfl
  · exact Nat.le_refl _

/-- A poll of the host's own reaches every panel once, whatever is answered. -/
theorem polling?_pollPanels (now : Int) (ids : List String) (nodup : ids.Nodup) (id : String) :
    ∃ outcome, (ids.foldl (fun h id => h.pollPanel now id) h).polling? id =
      if id ∈ ids then (h.polling? id).map (·.polled outcome now) else h.polling? id := by
  induction ids generalizing h with
  | nil => exact ⟨.error .cancelled, by simp⟩
  | cons key rest ih =>
    obtain ⟨hkey, hrest⟩ := List.nodup_cons.mp nodup
    obtain ⟨outcome, hpolled⟩ := h.replaces_pollPanel now key
    obtain ⟨outcome', hpolls⟩ := ih (h.pollPanel now key) hrest
    rw [List.foldl_cons, hpolls, hpolled.polls]
    by_cases hid : key = id
    · -- polled now, and not again
      subst hid
      exact ⟨outcome, by simp [hkey]⟩
    · exact ⟨outcome', by simp [hid, Ne.symm hid]⟩

/-! ## §3. Runs. -/

end Host

/-- What happens to a host: a message of a worker is applied, it polls by
itself, a panel is mounted, unmounted or refreshed, a worker makes a step. -/
inductive HostEvent where
  | hear (message : PollMessage)
  | poll (now : Int)
  | mount (p : Panel) (now : Int)
  | unmount (id : String)
  | refresh (id : String)
  | work (ts : Int) (s : PooledWorker)

namespace Host

/-- A host after an event. -/
def after (h : Host) : HostEvent → Host
  | .hear message => (h.applyMessage message).2
  | .poll now => (h.pollOnce now).2
  | .mount p now => (h.mount p now).2
  | .unmount id => (h.unmount id).2
  | .refresh id => (h.refreshNow id).2
  | .work ts s => { h with pool := h.pool.step ts s }

/-- A host after some events. -/
def run (h : Host) (events : List HostEvent) : Host := events.foldl after h

/-- Applying the queued messages is one event for each of them. -/
theorem pump_eq_run (h : Host) :
    h.pump.2 =
      ({ h with pool := { h.pool with queue := [] } } : Host).run (h.pool.queue.map .hear) := by
  unfold pump
  generalize h.pool.queue = messages
  generalize ({ h with pool := { h.pool with queue := [] } } : Host) = h₁
  unfold applyAll
  generalize 0 = n
  induction messages generalizing n h₁ with
  | nil => rfl
  | cons message rest ih =>
    rw [List.foldl_cons, ih]
    rfl

/-- Panels under one key each, worker ids of the pool, and workers only where
there is something to poll. -/
structure Sound (h : Host) : Prop where
  sorted : h.mounted.Sorted
  hired : ∀ id p k, h.polling? id = some p → p.worker = some k →
    p.endpoint.isSome ∧ k ≤ h.pool.lastId

theorem sound_fresh (registry : Registry) (settings : HostSettings) (script : Script)
    (refusals : Refusals) : (fresh registry settings script refusals).Sound :=
  ⟨List.Pairwise.nil, fun _ _ _ hp => nomatch hp⟩

namespace Sound

variable {h h' : Host} {key : String}

/-- A sound host with sound polls in the place of others. -/
theorem replaces {x : Option Polling} (hs : h.Sound) (r : h.Replaces key x h')
    (hx : ∀ p k, x = some p → p.worker = some k → p.endpoint.isSome ∧ k ≤ h'.pool.lastId) :
    h'.Sound := by
  refine ⟨r.sorted hs.sorted, ?_⟩
  intro id p k hp hk
  rw [r.polls] at hp
  split at hp
  next => exact hx p k hp hk
  next =>
    obtain ⟨hendpoint, hle⟩ := hs.hired id p k hp hk
    exact ⟨hendpoint, Nat.le_trans hle r.lastId⟩

/-- Worker and endpoint are as they were. -/
theorem keeps {f : Polling → Polling} (hs : h.Sound)
    (r : h.Replaces key ((h.polling? key).map f) h')
    (hf : ∀ p, (f p).worker = p.worker ∧ (f p).endpoint = p.endpoint) : h'.Sound := by
  refine hs.replaces r ?_
  intro p k hp hk
  obtain ⟨p₀, hp₀, rfl⟩ := Option.map_eq_some_iff.mp hp
  rw [(hf p₀).1] at hk
  rw [(hf p₀).2]
  obtain ⟨hendpoint, hle⟩ := hs.hired key p₀ k hp₀ hk
  exact ⟨hendpoint, Nat.le_trans hle r.lastId⟩

/-- A host with the same polls is as sound. -/
theorem kept (hs : h.Sound) (r : h.Replaces key (h.polling? key) h') : h'.Sound := by
  have hid : h.Replaces key ((h.polling? key).map fun p => p) h' := by simpa using r
  exact hs.keeps hid fun _ => ⟨rfl, rfl⟩

theorem hear_same (p : Polling) (message : PollMessage) :
    (p.hear message).worker = p.worker ∧ (p.hear message).endpoint = p.endpoint := by
  unfold Polling.hear
  split <;> exact ⟨rfl, rfl⟩

theorem polled_same (p : Polling) (outcome : Outcome) (now : Int) :
    (p.polled outcome now).worker = p.worker ∧ (p.polled outcome now).endpoint = p.endpoint := by
  unfold Polling.polled
  split <;> exact ⟨rfl, rfl⟩

theorem pollPanels (hs : h.Sound) (now : Int) (ids : List String) :
    (ids.foldl (fun h id => h.pollPanel now id) h).Sound := by
  induction ids generalizing h with
  | nil => exact hs
  | cons id rest ih =>
    obtain ⟨outcome, r⟩ := h.replaces_pollPanel now id
    exact ih (hs.keeps r fun p => polled_same p outcome now)

theorem after (hs : h.Sound) (e : HostEvent) : (h.after e).Sound := by
  cases e with
  | hear message => exact hs.keeps (h.replaces_applyMessage message) (hear_same · message)
  | poll now => exact hs.pollPanels now h.polledIds
  | mount p now =>
    rcases h.replaces_mount hs.sorted p now with r | ⟨x, hstarts, r⟩
    · exact hs.kept r
    · refine hs.replaces r ?_
      intro polling k hpolling hk
      obtain ⟨hendpoint, -, hle⟩ := (hstarts polling hpolling).hired k hk
      exact ⟨hendpoint, hle⟩
  | unmount id => exact hs.replaces (h.replaces_unmount hs.sorted id) fun _ _ hp => nomatch hp
  | refresh id => exact hs.kept (h.replaces_refreshNow id id)
  | work ts s => exact hs.kept (h.replaces_work ts s "")

theorem run (hs : h.Sound) (events : List HostEvent) : (h.run events).Sound := by
  induction events generalizing h with
  | nil => exact hs
  | cons e rest ih => exact ih (hs.after e)

/-- The host polls every panel that it can poll. -/
theorem polling?_poll (hs : h.Sound) (now : Int) (id : String) :
    ∃ outcome, (h.after (.poll now)).polling? id = (h.polling? id).map (·.polled outcome now) := by
  have hnodup : h.polledIds.Nodup :=
    (hs.sorted.nodup).sublist ((List.filter_sublist).map _)
  obtain ⟨outcome, hpolls⟩ := h.polling?_pollPanels now h.polledIds hnodup id
  refine ⟨outcome, hpolls.trans ?_⟩
  split
  next => rfl
  next hid =>
    -- mounted and not polled, so there is no endpoint
    cases hm : h.mounted? id with
    | none => simp [polling?, hm]
    | some m =>
      have hnone : ¬m.endpoint.isSome = true := by
        intro hsome
        have hmem : (id, m) ∈ h.mounted := Keyed.mem_of_get? hm
        exact hid (List.mem_map.mpr ⟨(id, m), List.mem_filter.mpr ⟨hmem, hsome⟩, rfl⟩)
      rw [h.polling?_of_mounted hm, Option.map_some, Polling.polled]
      exact congrArg some (if_neg hnone).symm

end Sound

end Host

end Dashboard
