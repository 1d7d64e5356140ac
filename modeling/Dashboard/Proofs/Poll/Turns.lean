/-
  Dashboard.Proofs.Poll.Turns
  ───────────────────────────
  **HOW A PANEL COMES TO ITS QUALITY.**

  Whatever is done to a host comes down to a few steps (`HostStep`): a list of
  panels is mounted one by one, a queue is heard message by message.  Each step
  gives at most one panel a new quality, in one of three ways (`Turn`): it is
  mounted afresh, a poll of it counts, or it is drawn by a widget that reports a
  quality of its own.  All that is proved of qualities and of the events that
  tell of them looks at these turns only.

  Main results:
    steps_unroll    — what is done to a host is a run of steps
    Turns.own_cases — where a panel's quality comes from after a turn of its own
    turns_step      — what a step does to the panels and to the queue of events
-/
import Dashboard.Proofs.Poll.Retired

namespace Dashboard

/-! ## §1. Operations and steps. -/

/-- What is done to a host: a call that concerns its panels, or one that tells
it the capabilities or the filters, or takes the queued events. -/
inductive HostOp where
  | call (c : HostCall)
  | know (capabilities : Capabilities)
  | filter (filters : Filters)
  | drain

/-- A step of an operation; every step concerns one panel at most. -/
inductive HostStep where
  | hear (message : PollMessage)
  | poll (now : Int) (id : String)
  | mount (p : Panel) (now : Int)
  | unmount (id : String)
  | render (id : String) (now : Int)
  /-- Workers and what panels are drawn from, neither panels nor events. -/
  | arrange (pool : Pool) (capabilities : Capabilities) (filters : Filters)
  | drain

namespace Host

/-- A host after an operation. -/
def operate (h : Host) : HostOp → Host
  | .call c => h.perform c
  | .know capabilities => { h with capabilities }
  | .filter filters => { h with filters }
  | .drain => h.drainEvents.2

/-- A host after some operations. -/
def operates (h : Host) (ops : List HostOp) : Host := ops.foldl operate h

/-- A host after a step. -/
def step (h : Host) : HostStep → Host
  | .hear message => (h.applyMessage message).2
  | .poll now id => h.pollPanel now id
  | .mount p now => (h.mount p now).2
  | .unmount id => (h.unmount id).2
  | .render id now => (h.render id now).2
  | .arrange pool capabilities filters => { h with pool, capabilities, filters }
  | .drain => h.drainEvents.2

/-- A host after some steps. -/
def steps (h : Host) (l : List HostStep) : Host := l.foldl step h

/-- A host with another pool. -/
def withPool (h : Host) (pool : Pool) : HostStep := .arrange pool h.capabilities h.filters

/-- The steps of an operation. -/
def stepsOf (h : Host) : HostOp → List HostStep
  | .call (.mount p now) => [.mount p now]
  | .call (.unmount id) => [.unmount id]
  | .call (.sync panels now) =>
    (h.surplus panels).map .unmount ++
      (attempted now panels (h.unmountOthers panels)).map (.mount · now)
  | .call (.refresh id) => [h.withPool (h.refreshNow id).2.pool]
  | .call (.poll now) => h.polledIds.map (.poll now)
  | .call (.render id now) => [.render id now]
  | .call (.deliver message) => [h.withPool { h.pool with queue := h.pool.queue ++ [message] }]
  | .call .pump => h.withPool { h.pool with queue := [] } :: h.pool.queue.map .hear
  | .know capabilities => [.arrange h.pool capabilities h.filters]
  | .filter filters => [.arrange h.pool h.capabilities filters]
  | .drain => [.drain]

/-- The steps of some operations, one after the other. -/
def unroll (h : Host) : List HostOp → List HostStep
  | [] => []
  | op :: rest => h.stepsOf op ++ (h.operate op).unroll rest

theorem steps_append (h : Host) (l l' : List HostStep) :
    h.steps (l ++ l') = (h.steps l).steps l' :=
  List.foldl_append

theorem steps_stepsOf (h : Host) (op : HostOp) : h.steps (h.stepsOf op) = h.operate op := by
  cases op with
  | call c =>
    cases c with
    | sync panels now =>
      rw [stepsOf, steps_append, steps, steps, List.foldl_map, List.foldl_map]
      exact (mountAll_eq_foldl _ panels now).symm
    | refresh id =>
      show { h with pool := (h.refreshNow id).2.pool } = (h.refreshNow id).2
      unfold refreshNow
      split <;> rfl
    | poll now =>
      rw [stepsOf, steps, List.foldl_map]
      rfl
    | pump =>
      -- the queue is taken first, and what it held is heard afterwards
      show ({ h with pool := { h.pool with queue := [] } } : Host).steps _ = h.pump.2
      rw [pump_eq_run, steps, run, List.foldl_map, List.foldl_map]
      rfl
    | _ => rfl
  | _ => rfl

theorem steps_unroll (h : Host) (ops : List HostOp) : h.steps (h.unroll ops) = h.operates ops := by
  induction ops generalizing h with
  | nil => rfl
  | cons op rest ih =>
    rw [unroll, steps_append, steps_stepsOf, ih]
    rfl

end Host

/-! ## §2. Turns. -/

/-- How a step gives a panel a quality. -/
inductive Turn where
  /-- Not at all. -/
  | quiet
  /-- The panel is mounted afresh. -/
  | started (id : String)
  /-- A poll of it counts. -/
  | polled (id : String)
  /-- Its widget reports a quality. -/
  | drawn (id : String) (q : Quality)
  deriving DecidableEq, Repr

/-- The panel that a turn concerns. -/
def Turn.panel? : Turn → Option String
  | .quiet => none
  | .started id | .polled id | .drawn id _ => some id

namespace Host

/-- The turn that a step takes. -/
def turn (h : Host) : HostStep → Turn
  | .hear message =>
    match message.report with
    | .issued => .quiet
    | .completed .. => if (h.applyMessage message).1 then .polled message.panel else .quiet
  | .poll _ id => if (h.mounted? id).any (·.endpoint.isSome) then .polled id else .quiet
  | .mount p now =>
    if (h.mounted? p.id).any (h.continues · p) then .quiet
    else
      match (h.mount p now).1 with
      | .ok () => .started p.id
      | .error _ => .quiet
  | .render id now =>
    match (h.mounted? id).bind fun m => (h.drawing m now).reported with
    | some q => .drawn id q
    | none => .quiet
  | .unmount _ | .arrange .. | .drain => .quiet

/-- The turns of some steps. -/
def turns (h : Host) : List HostStep → List Turn
  | [] => []
  | s :: rest => h.turn s :: (h.step s).turns rest

theorem turns_append (h : Host) (l l' : List HostStep) :
    h.turns (l ++ l') = h.turns l ++ (h.steps l).turns l' := by
  induction l generalizing h with
  | nil => rfl
  | cons s rest ih =>
    rw [List.cons_append, turns, ih]
    rfl

/-! ## §3. What a turn does. -/

/-- The panel under another document, with other numbers issued: its widget,
what its polls have told and its quality are the same. -/
structure Alike (m m' : MountedPanel) : Prop where
  id : m'.panel.id = m.panel.id
  widget : m'.panel.widgetId = m.panel.widgetId
  query : ∃ n, m'.query = { m.query with issued := n }
  quality : m'.quality = m.quality
  reporter : m'.reporter = m.reporter
  mountedAt : m'.mountedAt = m.mountedAt

theorem alike_refl (m : MountedPanel) : Alike m m := ⟨rfl, rfl, ⟨_, rfl⟩, rfl, rfl, rfl⟩

/-- If the panel of an id is still mounted, it is as it was. -/
def Keeps (h : Host) (id : String) (h' : Host) : Prop :=
  ∀ m', h'.mounted? id = some m' → ∃ m, h.mounted? id = some m ∧ Alike m m'

/-- A panel is given a quality, and an event tells of it if it is news. -/
structure Records (h : Host) (id : String) (m m' : MountedPanel) (h' : Host) : Prop where
  before : h.mounted? id = some m
  after : h'.mounted? id = some m'
  panel : m'.panel = m.panel
  mountedAt : m'.mountedAt = m.mountedAt
  reporter : m'.reporter = (m.reporter.report m'.quality).2
  events : h'.events =
    h.events ++ if (m.reporter.report m'.quality).1 then [⟨m.panel.id, m'.quality⟩] else []

/-- What a turn does: it concerns no other panel than its own, and it says
where that panel's quality comes from. -/
structure Turns (h : Host) (t : Turn) (h' : Host) : Prop where
  registry : h'.registry = h.registry
  settings : h'.settings = h.settings
  others : ∀ id, t.panel? ≠ some id → h.Keeps id h'
  own : match t with
    | .quiet => h'.events = h.events
    | .started id => h'.events = h.events ∧ ∃ p now, p.id = id ∧ h'.ShowsNothing p now
    | .polled id => ∃ m m', h.Records id m m' h' ∧ m'.quality = h'.derivedQuality m'
    | .drawn id q => ∃ m m', h.Records id m m' h' ∧ m'.query = m.query ∧ m'.quality = q ∧
        ∃ now, (h.drawing m now).reported = some q

variable {h h' : Host} {id : String} {m : MountedPanel}

/-- Where a panel's quality comes from after a turn of its own. -/
theorem Turns.own_cases {t : Turn} (ht : h.Turns t h') (hid : t.panel? = some id)
    {m' : MountedPanel} (hm' : h'.mounted? id = some m') :
    (t = .started id ∧ h'.events = h.events ∧
      m'.reporter = .fresh ∧ m'.quality = .unknown ∧ ∃ now, m'.query = .fresh now) ∨
    (t = .polled id ∧ ∃ m, h.Records id m m' h' ∧ m'.quality = h'.derivedQuality m') ∨
    (∃ q, t = .drawn id q ∧ ∃ m, h.Records id m m' h' ∧ m'.quality = q ∧
      ∃ now, (h.drawing m now).reported = some q) := by
  have hown := ht.own
  cases t with
  | quiet => exact nomatch hid
  | started key =>
    obtain rfl : key = id := Option.some.inj hid
    obtain ⟨hevents, p, now, rfl, m, hm, -, hquery, hreporter, hquality⟩ := hown
    obtain rfl : m = m' := Option.some.inj (hm.symm.trans hm')
    exact .inl ⟨rfl, hevents, hreporter, hquality, now, hquery⟩
  | polled key =>
    obtain rfl : key = id := Option.some.inj hid
    obtain ⟨m, m₁, hrecords, hquality⟩ := hown
    obtain rfl : m₁ = m' := Option.some.inj (hrecords.after.symm.trans hm')
    exact .inr (.inl ⟨rfl, m, hrecords, hquality⟩)
  | drawn key q =>
    obtain rfl : key = id := Option.some.inj hid
    obtain ⟨m, m₁, hrecords, -, hquality, hreported⟩ := hown
    obtain rfl : m₁ = m' := Option.some.inj (hrecords.after.symm.trans hm')
    exact .inr (.inr ⟨q, rfl, m, hrecords, hquality, hreported⟩)

theorem Keeps.of_mounted_eq (hmounted : h'.mounted = h.mounted) (id : String) :
    h.Keeps id h' := by
  intro m' hm'
  rw [mounted?, hmounted] at hm'
  exact ⟨m', hm', alike_refl m'⟩

theorem Keeps.of_insert_ne {key : String} {v : MountedPanel}
    (hmounted : h'.mounted = h.mounted.insert key v) (hid : key ≠ id) : h.Keeps id h' := by
  intro m' hm'
  rw [mounted?, hmounted] at hm'
  exact ⟨m', ((Keyed.get?_insert key id v h.mounted).trans (if_neg hid)).symm.trans hm',
    alike_refl m'⟩

theorem Keeps.of_insert_alike {v : MountedPanel} (hmounted : h'.mounted = h.mounted.insert id v)
    (hm : h.mounted? id = some m) (hv : Alike m v) : h.Keeps id h' := by
  intro m' hm'
  rw [mounted?, hmounted] at hm'
  have hsame : some v = some m' :=
    ((Keyed.get?_insert id id v h.mounted).trans (if_pos rfl)).symm.trans hm'
  exact ⟨m, hm, Option.some.inj hsame ▸ hv⟩

/-- A step that leaves panels and events alone. -/
theorem turns_quiet (hregistry : h'.registry = h.registry) (hsettings : h'.settings = h.settings)
    (hmounted : h'.mounted = h.mounted) (hevents : h'.events = h.events) :
    h.Turns .quiet h' :=
  ⟨hregistry, hsettings, fun id _ => .of_mounted_eq hmounted id, hevents⟩

theorem turns_refl (h : Host) : h.Turns .quiet h := turns_quiet rfl rfl rfl rfl

/-- A panel is given another document or other numbers. -/
theorem turns_insert_alike {v : MountedPanel} (hm : h.mounted? id = some m) (hv : Alike m v) :
    h.Turns .quiet { h with mounted := h.mounted.insert id v } := by
  refine ⟨rfl, rfl, fun key _ => ?_, rfl⟩
  by_cases hkey : id = key
  · subst hkey
    exact .of_insert_alike rfl hm hv
  · exact .of_insert_ne rfl hkey

/-! ## §4. Polls. -/

/-- Beside a host with the same events, and whatever its panel has heard. -/
theorem records_recordQuality (hm : h.mounted? id = some m) (hevents : h'.events = h.events)
    (query : Query Json.Value) (q : Quality) :
    h.Records id m { m with query, quality := q, reporter := (m.reporter.report q).2 }
      (h'.recordQuality id { m with query } q) where
  before := hm
  after := (Keyed.get?_insert id id _ _).trans (if_pos rfl)
  panel := rfl
  mountedAt := rfl
  reporter := rfl
  events := by
    show (if (m.reporter.report q).1 then h'.events ++ [⟨m.panel.id, q⟩] else h'.events) = _
    rw [hevents]
    split
    next => rfl
    next => exact (List.append_nil _).symm

theorem turns_answered (hm : h.mounted? id = some m) (query : Query Json.Value)
    (outcome : Outcome) : h.Turns (.polled id) (h.answered id m query outcome) := by
  have hothers := fun key (hkey : key ≠ id) => h.mounted?_answered_ne hkey m query outcome
  obtain ⟨capabilities, hanswered, -⟩ := h.answered_eq id m query outcome
  rw [hanswered] at hothers ⊢
  refine ⟨rfl, rfl, ?_, m, _, records_recordQuality hm (by rfl) query _, rfl⟩
  intro key hkey m' hm'
  have hne : key ≠ id := fun heq => hkey (congrArg some heq.symm)
  exact ⟨m', (hothers key hne).symm.trans hm', alike_refl m'⟩

theorem turns_hear (h : Host) (message : PollMessage) :
    h.Turns (h.turn (.hear message)) (h.applyMessage message).2 := by
  obtain ⟨k, key, n, report⟩ := message
  -- only the worker that a panel has now is heard
  by_cases hworker : h.worker? key = some k
  · obtain ⟨polling, hpolling, hk⟩ := worker?_eq_some_iff.mp hworker
    obtain ⟨m, hm, rfl⟩ := Option.map_eq_some_iff.mp hpolling
    cases report with
    | issued =>
      have hcurrent : (h.mounted? key).filter (fun m => m.worker == some k) = some m :=
        Option.filter_eq_some_iff.mpr ⟨hm, beq_iff_eq.mpr hk⟩
      unfold applyMessage
      rw [hcurrent]
      exact turns_insert_alike hm ⟨rfl, rfl, ⟨_, rfl⟩, rfl, rfl, rfl⟩
    | completed outcome ts =>
      show h.Turns (if (h.applyMessage _).1 then _ else _) _
      rw [h.applyMessage_completed hm hk]
      split
      next => exact turns_answered hm _ outcome
      next => exact h.turns_refl
  · have hpassed : h.applyMessage ⟨k, key, n, report⟩ = (false, h) :=
      applyMessage_of_foreign hworker
    have hturn : h.turn (.hear ⟨k, key, n, report⟩) = .quiet := by
      cases report with
      | issued => rfl
      | completed outcome ts =>
        show (if (h.applyMessage _).1 then _ else _) = _
        rw [hpassed]
        rfl
    rw [hturn, hpassed]
    exact h.turns_refl

theorem turns_poll (h : Host) (now : Int) (id : String) :
    h.Turns (h.turn (.poll now id)) (h.pollPanel now id) := by
  have hturn : h.turn (.poll now id) =
      if (h.mounted? id).any (·.endpoint.isSome) then .polled id else .quiet := rfl
  rw [hturn]
  unfold pollPanel
  cases hm : h.mounted? id with
  | none => exact h.turns_refl
  | some m =>
    cases hendpoint : m.endpoint with
    | none =>
      rw [if_neg (by simp [hendpoint])]
      simp only [hendpoint]
      exact h.turns_refl
    | some endpoint =>
      rw [if_pos (by simp [hendpoint])]
      simp only [hendpoint]
      -- the script goes on, and then the panel has its answer
      let outcome := (h.pool.script.fetch endpoint h.settings.timeout false).1
      let script := (h.pool.script.fetch endpoint h.settings.timeout false).2
      have hasked := turns_answered (h := { h with pool := { h.pool with script } }) hm
        (m.query.polled outcome now) outcome
      rw [answered, hendpoint] at hasked
      obtain ⟨hregistry, hsettings, hothers, m₁, m₂, hrecords, hquality⟩ := hasked
      obtain ⟨hbefore, hafter, hpanel, hmountedAt, hreporter, hevents⟩ := hrecords
      exact ⟨hregistry, hsettings, hothers, m₁, m₂,
        ⟨hbefore, hafter, hpanel, hmountedAt, hreporter, hevents⟩, hquality⟩

/-! ## §5. Mounting and drawing. -/

theorem keeps_unmount (hs : h.mounted.Sorted) (key id : String) : h.Keeps id (h.unmount key).2 := by
  unfold unmount
  split
  next => exact .of_mounted_eq rfl id
  next =>
    intro m' hm'
    have herased : Keyed.get? id (h.mounted.erase key) = some m' := hm'
    rw [Keyed.get?_erase hs] at herased
    split at herased
    next => exact nomatch herased
    next => exact ⟨m', herased, alike_refl m'⟩

theorem unmount_eq (h : Host) (key : String) :
    ∃ mounted pool, (h.unmount key).2 = { h with mounted, pool } := by
  unfold unmount
  split
  next => exact ⟨_, _, rfl⟩
  next => exact ⟨_, _, rfl⟩

theorem turns_mountFresh (hs : h.mounted.Sorted) (p : Panel) (now : Int) :
    h.Turns (match (h.mountFresh p now).1 with
      | .ok () => .started p.id
      | .error _ => .quiet) (h.mountFresh p now).2 := by
  have hkept := keeps_unmount hs p.id
  obtain ⟨mounted, pool, hunmounted⟩ := h.unmount_eq p.id
  have hbegins := beginsAnew_mountFresh hs p now
  unfold mountFresh at hbegins ⊢
  rw [hunmounted] at hkept hbegins ⊢
  dsimp only at hbegins ⊢
  generalize Host.spawnWorker _ p = spawned at hbegins ⊢
  obtain ⟨_ | worker, pool⟩ := spawned
  · -- nothing is mounted instead of what is gone
    exact ⟨rfl, rfl, fun id _ => hkept id, rfl⟩
  · refine ⟨rfl, rfl, ?_, rfl, p, now, rfl, hbegins⟩
    intro id hid m' hm'
    have hne : p.id ≠ id := fun heq => hid (congrArg some heq)
    exact hkept id m' (((Keyed.get?_insert p.id id _ mounted).trans (if_neg hne)).symm.trans hm')

theorem turns_mount (hs : h.mounted.Sorted) (hf : h.Filed) (p : Panel) (now : Int) :
    h.Turns (h.turn (.mount p now)) (h.mount p now).2 := by
  unfold turn
  dsimp only
  split
  next hgoes =>
    obtain ⟨m, hm, hsame⟩ : ∃ m, h.mounted? p.id = some m ∧ h.continues m p = true := by
      simpa [Option.any_eq_true] using hgoes
    have hfound : (h.mounted? p.id).filter (fun m => h.continues m p) = some m :=
      Option.filter_eq_some_iff.mpr ⟨hm, hsame⟩
    have hwidget : m.panel.widgetId = p.widgetId := by
      unfold continues at hsame
      simp only [Bool.and_eq_true, beq_iff_eq] at hsame
      exact hsame.1.1
    unfold mount
    rw [hfound]
    exact turns_insert_alike hm ⟨(hf.id_eq hm).symm, hwidget.symm, ⟨_, rfl⟩, rfl, rfl, rfl⟩
  next hanew =>
    rw [mount_of_not_continues (Bool.eq_false_iff.mpr hanew)]
    exact turns_mountFresh hs p now

theorem turns_render (h : Host) (id : String) (now : Int) :
    h.Turns (h.turn (.render id now)) (h.render id now).2 := by
  have hturn : h.turn (.render id now) =
      match (h.mounted? id).bind fun m => (h.drawing m now).reported with
      | some q => .drawn id q
      | none => .quiet := rfl
  rw [hturn]
  cases hm : h.mounted? id with
  | none =>
    have hsame : (h.render id now).2 = h := by
      unfold render
      rw [hm]
    rw [hsame]
    exact h.turns_refl
  | some m =>
    obtain ⟨workers, hdrawn⟩ := h.render_eq hm now
    rw [hdrawn, Option.bind_some]
    cases hq : (h.drawing m now).reported with
    | none => exact turns_quiet rfl rfl rfl rfl
    | some q =>
      have hevents : ({ h with pool := { h.pool with workers } } : Host).events = h.events := rfl
      have hrecords := records_recordQuality hm hevents m.query q
      refine ⟨rfl, rfl, ?_, m, _, hrecords, rfl, rfl, now, hq⟩
      intro key hkey
      exact .of_insert_ne rfl fun heq => hkey (congrArg some heq)

/-! ## §6. Steps. -/

/-- Panels under their own ids, each once and in order. -/
structure Orderly (h : Host) : Prop where
  sorted : h.mounted.Sorted
  filed : h.Filed

theorem orderly_fresh (registry : Registry) (settings : HostSettings) (script : Script)
    (refusals : Refusals) : (fresh registry settings script refusals).Orderly :=
  ⟨(sound_fresh registry settings script refusals).sorted,
    filed_fresh registry settings script refusals⟩

theorem Orderly.step (ho : h.Orderly) (s : HostStep) : (h.step s).Orderly := by
  obtain ⟨hs, hf⟩ := ho
  cases s with
  | hear message => exact ⟨(h.replaces_applyMessage message).sorted hs, hf.hear message⟩
  | poll now id =>
    obtain ⟨outcome, r⟩ := h.replaces_pollPanel now id
    exact ⟨r.sorted hs, hf.pollPanel now id⟩
  | mount p now =>
    rcases h.replaces_mount hs p now with r | ⟨_, -, r⟩
    · exact ⟨r.sorted hs, hf.mount p now⟩
    · exact ⟨r.sorted hs, hf.mount p now⟩
  | unmount id => exact ⟨(h.replaces_unmount hs id).sorted hs, hf.unmount id⟩
  | render id now => exact ⟨(h.replaces_render id now).sorted hs, hf.render id now⟩
  | arrange pool capabilities filters => exact ⟨hs, hf.of_mounted_eq rfl⟩
  | drain => exact ⟨hs, hf.of_mounted_eq rfl⟩

theorem Orderly.steps (ho : h.Orderly) (l : List HostStep) : (h.steps l).Orderly := by
  induction l generalizing h with
  | nil => exact ho
  | cons s rest ih => exact ih (ho.step s)

/-- What a step does, but for taking the queued events. -/
theorem Orderly.turns_step (ho : h.Orderly) {s : HostStep} (hs : s ≠ .drain) :
    h.Turns (h.turn s) (h.step s) := by
  cases s with
  | hear message => exact h.turns_hear message
  | poll now id => exact h.turns_poll now id
  | mount p now => exact turns_mount ho.sorted ho.filed p now
  | unmount id =>
    have hkept := keeps_unmount ho.sorted id
    obtain ⟨mounted, pool, hunmounted⟩ := h.unmount_eq id
    show h.Turns .quiet (h.unmount id).2
    rw [hunmounted] at hkept ⊢
    exact ⟨rfl, rfl, fun key _ => hkept key, rfl⟩
  | render id now => exact h.turns_render id now
  | arrange pool capabilities filters => exact turns_quiet rfl rfl rfl rfl
  | drain => exact absurd rfl hs

/-- Nothing that is done to a host changes its widgets. -/
theorem Orderly.registry_steps (ho : h.Orderly) (l : List HostStep) :
    (h.steps l).registry = h.registry := by
  induction l generalizing h with
  | nil => rfl
  | cons s rest ih =>
    have hstep : (h.step s).registry = h.registry := by
      by_cases hs : s = .drain
      · subst hs
        rfl
      · exact (ho.turns_step hs).registry
    exact (ih (ho.step s)).trans hstep

end Host
end Dashboard
