/-
  Dashboard.Proofs.Poll.Numbers
  ─────────────────────────────
  **WHICH COMPLETIONS COUNT.**

  Two parties number the polls of a panel: its worker, from 1 on, and the host
  when it polls by itself, from the greatest number so far.  The panel keeps
  one pair of numbers for both, so after a poll of the host's own the worker's
  requests have to catch up: those whose number is not above that poll's count
  as superseded, although they were issued later.

  Main results:
    Stands.accepts_iff    — when a query takes the completion of its last request
    Standing.run          — how a panel's numbers stand to the last own poll
    completion_counts_iff — which completions of a worker count
    own_poll_supersedes   — one that does not
-/
import Dashboard.Proofs.Poll.Polling
import Dashboard.Proofs.Poll.Tickets

namespace Dashboard

open Json

/-! ## §1. Own polls and requests. -/

namespace Query

variable {q : Query Value} {p n : Nat}

/-- The numbers of a query whose last own poll was `p`, and which has heard of
requests below `n` only. -/
structure Stands (q : Query Value) (p n : Nat) : Prop where
  polled : p ≤ q.completed
  ordered : q.completed ≤ q.issued
  heard : q.issued ≤ p ∨ q.issued < n

theorem stands_fresh (now : Int) (n : Nat) : (fresh now : Query Value).Stands 0 n :=
  ⟨Nat.le_refl 0, Nat.le_refl 0, Or.inl (Nat.le_refl 0)⟩

theorem Stands.hear (h : q.Stands p n) {request : Nat} (hlt : request < n) (report : PollReport) :
    (q.hear request report).Stands p n := by
  obtain ⟨hpolled, hordered, hheard⟩ := h
  cases report with
  | issued =>
    refine ⟨hpolled, ?_, ?_⟩
    · exact Nat.le_trans hordered (Nat.le_max_left _ _)
    · show max q.issued request ≤ p ∨ max q.issued request < n
      omega
  | completed outcome ts =>
    show (q.complete request outcome ts).2.Stands p n
    by_cases ha : q.accepts request
    · obtain ⟨hissued, hcompleted⟩ := complete_of_accepts ha outcome ts
      obtain ⟨rfl, hnew⟩ := accepts_eq_true_iff.mp ha
      refine ⟨?_, ?_, ?_⟩
      · omega
      · omega
      · rw [hissued]
        exact hheard
    · unfold complete
      rw [if_neg ha]
      exact ⟨hpolled, hordered, hheard⟩

/-- An own poll has the next number, and nothing of it is left open. -/
theorem Stands.afterPoll (h : q.Stands p n) (hlimit : q.issued + 1 < numberLimit)
    (outcome : Outcome) (now : Int) :
    (q.polled outcome now).issued = q.issued + 1 ∧
      (q.polled outcome now).Stands (q.issued + 1) n := by
  have hnumber : q.begin.1 = q.issued + 1 := Nat.mod_eq_of_lt hlimit
  have hbegun : q.begin.2.issued = q.issued + 1 := Nat.mod_eq_of_lt hlimit
  have hnew : q.begin.2.completed < q.begin.1 := by
    rw [hnumber]
    exact Nat.lt_succ_of_le h.ordered
  have haccepts : q.begin.2.accepts q.begin.1 = true :=
    accepts_eq_true_iff.mpr ⟨hnumber.trans hbegun.symm, hnew⟩
  obtain ⟨hissued, hcompleted⟩ := complete_of_accepts haccepts outcome now
  have hissued : (q.polled outcome now).issued = q.issued + 1 := hissued.trans hbegun
  have hcompleted : (q.polled outcome now).completed = q.issued + 1 := hcompleted.trans hnumber
  refine ⟨hissued, ?_, ?_, ?_⟩
  · rw [hcompleted]
  · rw [hcompleted, hissued]
  · rw [hissued]
    exact Or.inl (Nat.le_refl _)

/-- Of the requests issued after an own poll, those above its number count. -/
theorem Stands.accepts_iff (h : q.Stands p n) : (q.markIssued n).accepts n = true ↔ p < n := by
  obtain ⟨hpolled, hordered, hheard⟩ := h
  rw [accepts_eq_true_iff]
  show n = max q.issued n ∧ q.completed < n ↔ p < n
  omega

end Query

namespace HostEvent

/-- Nothing but requests below `n` is heard of a worker. -/
def HearsBelow (k n : Nat) : HostEvent → Prop
  | .hear message => message.worker = k → message.request < n
  | _ => True

/-- Neither a poll of the host's own nor a message of a worker. -/
def IsQuiet (k : Nat) : HostEvent → Prop
  | .hear message => message.worker ≠ k
  | .poll _ => False
  | _ => True

/-- A poll of the host's own. -/
def IsPoll : HostEvent → Prop
  | .poll _ => True
  | _ => False

instance (k n : Nat) : (e : HostEvent) → Decidable (e.HearsBelow k n)
  | .hear message => inferInstanceAs (Decidable (message.worker = k → message.request < n))
  | .poll _ | .mount .. | .unmount _ | .refresh _ | .work .. => .isTrue trivial

instance (k : Nat) : (e : HostEvent) → Decidable (e.IsQuiet k)
  | .hear message => inferInstanceAs (Decidable (message.worker ≠ k))
  | .poll _ => .isFalse id
  | .mount .. | .unmount _ | .refresh _ | .work .. => .isTrue trivial

end HostEvent

namespace Host

/-- The number of the last own poll of a panel under a worker after an event,
if it was `p` before. -/
def ownPollAfter (id : String) (k : Nat) (h : Host) (p : Nat) (e : HostEvent) : Nat :=
  match (h.after e).polling? id with
  | none => 0
  | some polling =>
    if polling.worker = some k then
      match e with
      | .poll _ => polling.query.issued
      | _ => p
    else 0

/-- The number of the last poll of its own that a host made of a panel under a
worker in a run; 0 without one. -/
def lastOwnPoll (id : String) (k : Nat) (h : Host) (p : Nat) : List HostEvent → Nat
  | [] => p
  | e :: rest => lastOwnPoll id k (h.after e) (h.ownPollAfter id k p e) rest

variable {h : Host} {id : String} {k n p b : Nat}

theorem ownPollAfter_elsewhere {e : HostEvent} (helse : (h.after e).worker? id ≠ some k) :
    h.ownPollAfter id k p e = 0 := by
  unfold ownPollAfter
  split
  next => rfl
  next polling hpolling =>
    refine if_neg fun hk => helse ?_
    rw [worker?, hpolling]
    exact hk

theorem ownPollAfter_poll {now : Int} {polling : Polling}
    (hpolling : (h.after (.poll now)).polling? id = some polling) (hk : polling.worker = some k) :
    h.ownPollAfter id k p (.poll now) = polling.query.issued := by
  rw [ownPollAfter, hpolling]
  exact if_pos hk

theorem ownPollAfter_other {e : HostEvent} (hother : ¬e.IsPoll)
    (hworker : (h.after e).worker? id = some k) : h.ownPollAfter id k p e = p := by
  obtain ⟨polling, hpolling, hk⟩ := Option.bind_eq_some_iff.mp hworker
  rw [ownPollAfter, hpolling]
  cases e <;> first | exact if_pos hk | exact absurd trivial hother

theorem lastOwnPoll_of_no_poll (events : List HostEvent) (hnever : ∀ e ∈ events, ¬e.IsPoll) :
    h.lastOwnPoll id k 0 events = 0 := by
  induction events generalizing h with
  | nil => rfl
  | cons e rest ih =>
    have hzero : h.ownPollAfter id k 0 e = 0 := by
      by_cases hworker : (h.after e).worker? id = some k
      · exact ownPollAfter_other (hnever e List.mem_cons_self) hworker
      · exact ownPollAfter_elsewhere hworker
    rw [lastOwnPoll, hzero]
    exact ih fun e' he' => hnever e' (List.mem_cons_of_mem _ he')

/-! ## §2. How the numbers stand. -/

/-- How the numbers of a panel stand under a worker of which requests below
`n` were heard: the last own poll was `p`, and no number exceeds `b`. -/
structure Standing (id : String) (k n b : Nat) (h : Host) (p : Nat) : Prop where
  sound : h.Sound
  bounded : p ≤ b
  elsewhere : h.worker? id ≠ some k → p = 0
  stands : ∀ polling, h.polling? id = some polling → polling.worker = some k →
    polling.query.Stands p n

namespace Standing

/-- A panel that comes to a worker anew had another one, or none. -/
theorem starts (hs : Standing id k n b h p) {h' : Host} {polling : Polling}
    (hstarts : h.Starts polling h') (hk : polling.worker = some k) :
    polling.query.Stands p n := by
  obtain ⟨-, hnew, -⟩ := hstarts.hired k hk
  have helse : h.worker? id ≠ some k := by
    intro hold
    obtain ⟨old, hpolling, hworker⟩ := Option.bind_eq_some_iff.mp hold
    have := (hs.sound.hired id old k hpolling hworker).2
    omega
  obtain ⟨now, hquery⟩ := hstarts.query
  rw [hs.elsewhere helse, hquery]
  exact Query.stands_fresh now n

theorem replaced (hs : Standing id k n b h p) {key : String} {x : Option Polling} {h' : Host}
    (r : h.Replaces key x h')
    (hx : ∀ polling, key = id → x = some polling → polling.worker = some k →
      polling.query.Stands p n) :
    ∀ polling, h'.polling? id = some polling → polling.worker = some k →
      polling.query.Stands p n := by
  intro polling hpolling hk
  rw [r.polls] at hpolling
  split at hpolling
  next hid => exact hx polling hid hpolling hk
  next => exact hs.stands polling hpolling hk

/-- Without a poll of the host's own the numbers go on from where they stand. -/
theorem afterOther (hs : Standing id k n b h p) (e : HostEvent) (hbelow : e.HearsBelow k n)
    (hother : ¬e.IsPoll) : ∀ polling, (h.after e).polling? id = some polling →
      polling.worker = some k → polling.query.Stands p n := by
  cases e with
  | hear message =>
    refine hs.replaced (h.replaces_applyMessage message) ?_
    rintro polling rfl hpolling hk
    obtain ⟨old, hold, rfl⟩ := Option.map_eq_some_iff.mp hpolling
    have hworker : old.worker = some k := by rwa [(Sound.hear_same old message).1] at hk
    have hstands := hs.stands old hold hworker
    unfold Polling.hear
    split
    next hheard =>
      have hsame : message.worker = k := Option.some.inj (hheard.symm.trans hworker)
      exact hstands.hear (hbelow hsame) message.report
    next => exact hstands
  | poll now => exact absurd trivial hother
  | mount q now =>
    rcases h.replaces_mount hs.sound.sorted q now with r | ⟨x, hstarts, r⟩
    · refine hs.replaced r ?_
      rintro polling rfl hpolling hk
      exact hs.stands polling hpolling hk
    · refine hs.replaced r ?_
      rintro polling - hstarted hk
      exact hs.starts (hstarts polling hstarted) hk
  | unmount key =>
    refine hs.replaced (h.replaces_unmount hs.sound.sorted key) ?_
    rintro polling - hnone
    exact nomatch hnone
  | refresh key =>
    refine hs.replaced (h.replaces_refreshNow key id) ?_
    rintro polling - hpolling hk
    exact hs.stands polling hpolling hk
  | work ts s => exact hs.stands

/-- After a poll of the host's own nothing is left open. -/
theorem afterPoll (hs : Standing id k n b h p) (now : Int) (hn : n ≤ b)
    (hlimit : b + 1 < Query.numberLimit) {polling : Polling}
    (hpolling : (h.after (.poll now)).polling? id = some polling) (hk : polling.worker = some k) :
    polling.query.Stands polling.query.issued n ∧ polling.query.issued ≤ b + 1 := by
  obtain ⟨outcome, hpolls⟩ := hs.sound.polling?_poll now id
  rw [hpolling] at hpolls
  obtain ⟨old, hold, rfl⟩ := Option.map_eq_some_iff.mp hpolls.symm
  rw [(Sound.polled_same old outcome now).1] at hk
  have hstands := hs.stands old hold hk
  -- a panel with a worker has an endpoint, so it was polled
  have hquery : (old.polled outcome now).query = old.query.polled outcome now := by
    rw [Polling.polled, if_pos (hs.sound.hired id old k hold hk).1]
  have hissued : old.query.issued ≤ b := by
    have := hs.bounded
    have := hstands.heard
    omega
  obtain ⟨hnext, hafter⟩ := hstands.afterPoll (by omega) outcome now
  rw [hquery, hnext]
  exact ⟨hafter, by omega⟩

theorem after (hs : Standing id k n b h p) (e : HostEvent) (hbelow : e.HearsBelow k n)
    (hn : n ≤ b) (hlimit : b + 1 < Query.numberLimit) :
    Standing id k n (b + 1) (h.after e) (h.ownPollAfter id k p e) := by
  have hbounded := hs.bounded
  by_cases hworker : (h.after e).worker? id = some k
  · obtain ⟨polling, hpolling, hk⟩ := Option.bind_eq_some_iff.mp hworker
    have hnoted : h.ownPollAfter id k p e ≤ b + 1 ∧
        polling.query.Stands (h.ownPollAfter id k p e) n := by
      by_cases hpoll : e.IsPoll
      · cases e with
        | poll now =>
          obtain ⟨hstands, hle⟩ := hs.afterPoll now hn hlimit hpolling hk
          rw [ownPollAfter_poll hpolling hk]
          exact ⟨hle, hstands⟩
        | _ => exact hpoll.elim
      · rw [ownPollAfter_other hpoll hworker]
        exact ⟨by omega, hs.afterOther e hbelow hpoll polling hpolling hk⟩
    refine ⟨hs.sound.after e, hnoted.1, fun helse => absurd hworker helse, ?_⟩
    intro polling' hpolling' _
    have hsame : polling = polling' := Option.some.inj (hpolling.symm.trans hpolling')
    exact hsame ▸ hnoted.2
  · rw [ownPollAfter_elsewhere hworker]
    refine ⟨hs.sound.after e, Nat.zero_le _, fun _ => rfl, ?_⟩
    intro polling hpolling hk
    refine absurd ?_ hworker
    rw [worker?, hpolling]
    exact hk

theorem run (hs : Standing id k n b h p) (events : List HostEvent)
    (hbelow : ∀ e ∈ events, e.HearsBelow k n) (hn : n ≤ b)
    (hlimit : b + events.length < Query.numberLimit) :
    Standing id k n (b + events.length) (h.run events) (h.lastOwnPoll id k p events) := by
  induction events generalizing h p b with
  | nil => exact hs
  | cons e rest ih =>
    rw [List.length_cons] at hlimit ⊢
    have hnext := hs.after e (hbelow e List.mem_cons_self) hn (by omega)
    have := ih hnext (fun e' he' => hbelow e' (List.mem_cons_of_mem _ he')) (by omega) (by omega)
    rwa [show b + 1 + rest.length = b + (rest.length + 1) by omega] at this

end Standing

/-- What happens to the polls under a worker without a word of it or a poll of
the host's own: nothing, unless they end. -/
theorem replaces_of_quiet (hs : h.Sound) (hold : k ≤ h.pool.lastId) (e : HostEvent)
    (hquiet : e.IsQuiet k) :
    ∃ key x, h.Replaces key x (h.after e) ∧
      ∀ polling, x = some polling → polling.worker = some k → h.polling? key = some polling := by
  cases e with
  | hear message =>
    refine ⟨_, _, h.replaces_applyMessage message, ?_⟩
    intro polling hpolling hk
    obtain ⟨old, hmounted, rfl⟩ := Option.map_eq_some_iff.mp hpolling
    rw [(Sound.hear_same old message).1] at hk
    -- another worker's message is not heard
    have hdeaf : old.hear message = old := by
      refine if_neg fun hheard => hquiet ?_
      exact Option.some.inj (hheard.symm.trans hk)
    rw [hdeaf, hmounted]
  | poll now => exact hquiet.elim
  | mount p now =>
    rcases h.replaces_mount hs.sorted p now with r | ⟨x, hstarts, r⟩
    · exact ⟨_, _, r, fun _ hpolling _ => hpolling⟩
    · refine ⟨_, _, r, ?_⟩
      intro polling hpolling hk
      obtain ⟨-, hnew, -⟩ := (hstarts polling hpolling).hired k hk
      omega
  | unmount key => exact ⟨_, _, h.replaces_unmount hs.sorted key, fun _ hnone => nomatch hnone⟩
  | refresh key => exact ⟨_, _, h.replaces_refreshNow key key, fun _ hpolling _ => hpolling⟩
  | work ts s => exact ⟨_, _, h.replaces_work ts s "", fun _ hpolling _ => hpolling⟩

theorem polling?_of_quiet (hs : h.Sound) (hold : k ≤ h.pool.lastId) (events : List HostEvent)
    (hquiet : ∀ e ∈ events, e.IsQuiet k) {polling : Polling}
    (hpolling : (h.run events).polling? id = some polling) (hk : polling.worker = some k) :
    h.polling? id = some polling := by
  induction events generalizing h with
  | nil => exact hpolling
  | cons e rest ih =>
    obtain ⟨key, x, r, hx⟩ := replaces_of_quiet hs hold e (hquiet e List.mem_cons_self)
    have hafter := ih (hs.after e) (Nat.le_trans hold r.lastId)
      (fun e' he' => hquiet e' (List.mem_cons_of_mem _ he')) hpolling
    rw [r.polls] at hafter
    split at hafter
    next hkey => exact hkey ▸ hx polling hafter hk
    next => exact hafter

/-! ## §3. Completions. -/

/-- The result of an outcome. -/
def resultOf (outcome : Outcome) (ts : Int) : PollResult Value :=
  match outcome with
  | .ok data => ⟨true, some data, none, ts⟩
  | .error e => ⟨false, none, some e.message, ts⟩

/-- A panel shows an outcome: it is the result of the request `n`, and the
quality is derived from it. -/
def Shows (h : Host) (id : String) (n : Nat) (outcome : Outcome) (ts : Int) : Prop :=
  ∃ m, h.mounted? id = some m ∧ m.query.completed = n ∧ m.query.result = resultOf outcome ts ∧
    m.quality = h.derivedQuality m

/-- A host with the answer to a panel's request. -/
def answered (h : Host) (id : String) (m : MountedPanel) (q : Query Value) (outcome : Outcome) :
    Host :=
  (({ h with mounted := h.mounted.insert id { m with query := q } } : Host).learn
    m.endpoint outcome).updateQuality id

theorem applyMessage_completed (h : Host) {id : String} {m : MountedPanel}
    (hm : h.mounted? id = some m) {k : Nat} (hk : m.worker = some k) (n : Nat) (outcome : Outcome)
    (ts : Int) :
    h.applyMessage ⟨k, id, n, .completed outcome ts⟩ =
      if m.query.accepts n then
        (true, h.answered id m (m.query.complete n outcome ts).2 outcome)
      else (false, h) := by
  have hcurrent : (some m).filter (fun m => m.worker == some k) = some m := by simp [hk]
  unfold applyMessage
  dsimp only
  rw [hm, hcurrent]
  unfold Query.complete
  dsimp only
  by_cases ha : m.query.accepts n
  · rw [if_pos ha, if_pos ha]
    rfl
  · rw [if_neg ha, if_neg ha]

/-- Deriving a quality again changes nothing that it is derived from. -/
theorem derivedQuality_updateQuality (h : Host) (id : String) (m : MountedPanel) :
    (h.updateQuality id).derivedQuality m = h.derivedQuality m := by
  unfold updateQuality
  split <;> rfl

theorem mounted?_updateQuality (h : Host) {id : String} {m : MountedPanel}
    (hm : h.mounted? id = some m) :
    ∃ reporter, (h.updateQuality id).mounted? id =
      some { m with quality := h.derivedQuality m, reporter := reporter } := by
  refine ⟨(m.reporter.report (h.derivedQuality m)).2, ?_⟩
  unfold updateQuality
  rw [hm]
  show Keyed.get? id (h.mounted.insert id _) = _
  rw [Keyed.get?_insert, if_pos rfl]
  rfl

theorem mounted?_learn (h : Host) (endpoint : Option String) (outcome : Outcome) (id : String) :
    (h.learn endpoint outcome).mounted? id = h.mounted? id := by
  unfold learn
  split
  next => split <;> rfl
  next => rfl

theorem shows_answered (h : Host) (id : String) {m : MountedPanel} {n : Nat}
    (ha : m.query.accepts n = true) (outcome : Outcome) (ts : Int) :
    (h.answered id m (m.query.complete n outcome ts).2 outcome).Shows id n outcome ts := by
  unfold answered
  generalize hq : (m.query.complete n outcome ts).2 = q
  generalize hset : ({ h with mounted := h.mounted.insert id { m with query := q } } : Host) = set
  have hmounted : (set.learn m.endpoint outcome).mounted? id = some { m with query := q } := by
    rw [mounted?_learn, ← hset]
    show Keyed.get? id (h.mounted.insert id _) = _
    rw [Keyed.get?_insert, if_pos rfl]
  obtain ⟨reporter, hshown⟩ := mounted?_updateQuality _ hmounted
  refine ⟨_, hshown, ?_, ?_, ?_⟩
  · show q.completed = n
    rw [← hq]
    exact (Query.complete_of_accepts ha outcome ts).2
  · show q.result = resultOf outcome ts
    rw [← hq]
    unfold Query.complete
    rw [if_pos ha]
    cases outcome <;> rfl
  · rw [derivedQuality_updateQuality]
    rfl

/-- Until something newer is issued, a panel's query is as the request left it. -/
theorem query_of_issued {h : Host} (hs : h.Sound) {id : String} {k : Nat} (n : Nat)
    (hworker : h.worker? id = some k) (events : List HostEvent)
    (hquiet : ∀ e ∈ events, e.IsQuiet k) {m : MountedPanel}
    (hm : ((h.after (.hear ⟨k, id, n, .issued⟩)).run events).mounted? id = some m)
    (hk : m.worker = some k) :
    ∃ polling, h.polling? id = some polling ∧ polling.worker = some k ∧
      m.query = polling.query.markIssued n := by
  obtain ⟨polling, hpolling, hheard⟩ := Option.bind_eq_some_iff.mp hworker
  refine ⟨polling, hpolling, hheard, ?_⟩
  have hold : k ≤ h.pool.lastId := (hs.hired id polling k hpolling hheard).2
  have hissued := h.replaces_applyMessage ⟨k, id, n, .issued⟩
  have hmarked := hissued.at_key
  rw [show h.polling? id = some polling from hpolling, Option.map_some,
    show polling.hear ⟨k, id, n, .issued⟩ = _ from if_pos hheard] at hmarked
  have hkept := polling?_of_quiet (hs.after (.hear ⟨k, id, n, .issued⟩))
    (Nat.le_trans hold hissued.lastId) events hquiet (polling?_of_mounted _ hm) hk
  have hsame := Option.some.inj (hkept.symm.trans hmarked)
  exact congrArg Polling.query hsame

/-- **Which completions count.**  A worker has issued its request `n`, and
neither the host nor the worker has issued another since.  Then its completion
counts exactly if the last poll of the host's own, since the panel went to the
worker, had a number below `n`; hence whenever there was none.  A completion
that counts is what the panel shows, and one that does not changes nothing.
Numbers are words, and the run is too short to use them up. -/
theorem completion_counts_iff (registry : Registry) (settings : HostSettings) (script : Script)
    (refusals : Refusals) (id : String) (k n : Nat) (before between : List HostEvent)
    (outcome : Outcome) (ts : Int)
    (hbefore : ∀ e ∈ before, e.HearsBelow k n) (hbetween : ∀ e ∈ between, e.IsQuiet k)
    (hlimit : n + before.length < Query.numberLimit) :
    let start := fresh registry settings script refusals
    let asked := start.run before
    let told := (asked.after (.hear ⟨k, id, n, .issued⟩)).run between
    let p := start.lastOwnPoll id k 0 before
    let completion := told.applyMessage ⟨k, id, n, .completed outcome ts⟩
    asked.worker? id = some k → told.worker? id = some k →
      (completion.1 = true ↔ p < n) ∧
      (completion.1 = true → completion.2.Shows id n outcome ts) ∧
      (completion.1 = false → completion.2 = told) ∧
      ((∀ e ∈ before, ¬e.IsPoll) → 0 < n → completion.1 = true) := by
  intro start asked told p completion hasked htold
  have hstart : Standing id k n n start 0 :=
    ⟨sound_fresh registry settings script refusals, Nat.zero_le _, fun _ => rfl,
      fun _ h => nomatch h⟩
  have hstanding := hstart.run before hbefore (Nat.le_refl n) hlimit
  -- the panel as the completion finds it
  obtain ⟨last, hlast, hk⟩ := Option.bind_eq_some_iff.mp htold
  obtain ⟨m, hm, rfl⟩ := Option.map_eq_some_iff.mp hlast
  obtain ⟨polling, hpolling, hworker, hquery⟩ :=
    query_of_issued hstanding.sound n hasked between hbetween hm hk
  have haccepts : m.query.accepts n = true ↔ p < n := by
    rw [hquery]
    exact (hstanding.stands polling hpolling hworker).accepts_iff
  have hcompletion : completion = _ := told.applyMessage_completed hm hk n outcome ts
  have hcounts : completion.1 = true ↔ p < n := by
    rw [hcompletion, ← haccepts]
    split <;> simp_all
  refine ⟨hcounts, ?_, ?_, ?_⟩
  · intro hcounted
    have ha := haccepts.mpr (hcounts.mp hcounted)
    rw [hcompletion, if_pos ha]
    exact told.shows_answered id ha outcome ts
  · intro hpassed
    have ha : ¬m.query.accepts n = true := by
      rw [haccepts, ← hcounts, hpassed]
      exact Bool.false_ne_true
    rw [hcompletion, if_neg ha]
  · intro hnever hpos
    have hp : p = 0 := lastOwnPoll_of_no_poll before hnever
    exact hcounts.mpr (hp ▸ hpos)

/-- A panel of the bots widget. -/
def botsPanel : Panel := .fresh ⟨0⟩ "b" "bots-overview" ⟨0, 0, 3, 2⟩

/-- Bots that are unavailable at first. -/
def botsScript : Script :=
  (Script.empty.push botsEndpoint (.error (.status 503))).push botsEndpoint (.ok .null)

/-- The host polls, the worker's first request has the number of that poll. -/
def botsEvents : List HostEvent :=
  [.mount botsPanel 0, .poll 5, .hear ⟨1, "b", 1, .issued⟩,
    .hear ⟨1, "b", 1, .completed (.ok .null) 6⟩]

/-- The worker's second request counts again. -/
theorem second_request_counts :
    let told := (((fresh .builtin .standard botsScript .none).run botsEvents).after
      (.hear ⟨1, "b", 2, .issued⟩)).run [.refresh "b"]
    let completion := told.applyMessage ⟨1, "b", 2, .completed (.ok .null) 8⟩
    completion.1 = true ∧ completion.2.Shows "b" 2 (.ok .null) 8 := by
  have hcounts := completion_counts_iff .builtin .standard botsScript .none "b" 1 2 botsEvents
    [.refresh "b"] (.ok .null) 8 (by decide) (by decide) (by decide) (by decide +kernel)
    (by decide +kernel)
  obtain ⟨hiff, hshows, -⟩ := hcounts
  have hcounted := hiff.mpr (by decide +kernel)
  exact ⟨hcounted, hshows hcounted⟩

/-- A worker that starts after the host has polled: its request is issued, no
other one is, and yet its completion does not count. -/
theorem own_poll_supersedes :
    let work (h : Host) := (h.pool.next?.map fun s => h.after (.work 6 s)).getD h
    let polled := (fresh .builtin .standard botsScript .none).run [.mount botsPanel 0, .poll 5]
    let worked := work (work (work (work polled)))
    polled.pool.queue.length = 0 ∧
      worked.pool.queue.map (fun m => (m.worker, m.panel, m.request)) = [(1, "b", 1), (1, "b", 1)] ∧
      worked.pump.1 = 1 ∧ worked.pump.2.worker? "b" = some 1 ∧
      (worked.pump.2.polling? "b").map (fun p => (p.query.result.error, p.query.result.ts)) =
        some (some "HTTP 503", 5) := by
  decide +kernel

end Host
end Dashboard
