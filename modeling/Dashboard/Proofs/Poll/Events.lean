/-
  Dashboard.Proofs.Poll.Events
  ────────────────────────────
  **QUALITY EVENTS TELL THE WHOLE STORY.**

  A host queues an event when a panel's quality is news, and whoever drains the
  queue gets the events.  A ledger beside the host keeps every event that was
  ever queued, every one that was handed out, and where in that order each panel
  was last mounted afresh (`WatchedHost`).  From there on the events of a panel
  are the changes of its quality: the reporter compares texts, and those tell
  qualities apart.

  Main results:
    token_inj       — qualities with the same text are the same
    Faithful.after  — what every step preserves
    events_tell_all — **what the events of a panel tell, in every run**
-/
import Dashboard.Proofs.Poll.Turns
import Mathlib

namespace Dashboard

/-! ## §1. The text of a quality. -/

theorem Health.name_inj {a b : Health} (h : a.name = b.name) : a = b := by
  rw [← ofName_name a, h, ofName_name]

namespace Quality

/-- The text of the time of a last success. -/
def timeText (ts : Option Int) : String :=
  match ts with
  | some ts => ts.repr
  | none => "none"

theorem token_eq (q : Quality) : q.token = q.status.name ++ "-" ++ timeText q.lastSuccessTs := by
  obtain ⟨status, ts⟩ := q
  cases ts with
  | none => exact (@String.append_assoc status.name "-" "none").symm
  | some ts => rfl

theorem timeText_inj {ts ts' : Option Int} (h : timeText ts = timeText ts') : ts = ts' := by
  -- a number is read back from its text, and `none` is no number
  have hread : ∀ ts : Option Int, (timeText ts).toInt? = ts := by
    intro ts
    cases ts with
    | none => cbv
    | some ts => exact Int.toInt?_repr ts
  rw [← hread ts, h, hread]

/-- No name has a dash in it. -/
theorem takeWhile_token (q : Quality) :
    q.token.toList.takeWhile (· ≠ '-') = q.status.name.toList := by
  have hplain : ∀ c ∈ q.status.name.toList, decide (c ≠ '-') = true := by
    rw [← List.all_eq_true]
    cases q.status <;> rfl
  rw [token_eq, String.toList_append, String.toList_append, List.append_assoc,
    List.takeWhile_append_of_pos hplain]
  exact List.append_nil _

/-- Qualities with the same text are the same. -/
theorem token_inj {q q' : Quality} (h : q.token = q'.token) : q = q' := by
  have hstatus : q.status = q'.status := by
    apply Health.name_inj
    rw [← String.toList_inj, ← takeWhile_token, ← takeWhile_token, h]
  obtain ⟨status, ts⟩ := q
  obtain ⟨status', ts'⟩ := q'
  obtain rfl : status = status' := hstatus
  rw [token_eq, token_eq] at h
  exact congrArg _ (timeText_inj (String.append_right_inj _ |>.mp h))

end Quality

/-! ## §2. What the events of a panel tell. -/

/-- A list of qualities tells a panel's: each differs from the one before, the
last is the panel's, and where there is none it has the one it starts with. -/
structure MountedPanel.ToldBy (m : MountedPanel) (told : List Quality) : Prop where
  changes : told.IsChain (· ≠ ·)
  last : ∀ q ∈ told.getLast?, m.quality = q
  unheard : told = [] → m.quality = .unknown
  reported : m.reporter.lastToken = told.getLast?.map (·.token)

namespace MountedPanel.ToldBy

variable {m m' : MountedPanel} {told : List Quality}

/-- A quality that is reported again is no news. -/
theorem again (h : m.ToldBy told) (hquality : m'.reporter = (m.reporter.report m'.quality).2)
    (hnews : (m.reporter.report m'.quality).1 = false) : m'.ToldBy told := by
  unfold QualityReporter.report at hquality hnews
  split at hnews
  -- the same text as the last one told, so the same quality
  next hsame =>
    rw [if_pos hsame] at hquality
    rw [h.reported] at hsame
    obtain ⟨q, hq, htoken⟩ := Option.map_eq_some_iff.mp hsame
    obtain rfl : q = m'.quality := Quality.token_inj htoken
    refine ⟨h.changes, fun q' hq' => Option.some.inj (hq.symm.trans hq'), ?_, ?_⟩
    · rintro rfl
      exact nomatch hq
    · rw [hquality]
      exact h.reported
  next => exact nomatch hnews

/-- News is told. -/
theorem news (h : m.ToldBy told) (hquality : m'.reporter = (m.reporter.report m'.quality).2)
    (hnews : (m.reporter.report m'.quality).1 = true) : m'.ToldBy (told ++ [m'.quality]) := by
  unfold QualityReporter.report at hquality hnews
  split at hnews
  next => exact nomatch hnews
  next hother =>
    rw [if_neg hother] at hquality
    refine ⟨?_, ?_, fun hnil => absurd hnil (List.append_ne_nil_of_right_ne_nil _ nofun), ?_⟩
    · refine List.isChain_append.mpr ⟨h.changes, .singleton _, ?_⟩
      rintro q hq q' hq' rfl
      obtain rfl : m'.quality = q := Option.some.inj hq'
      rw [h.reported, Option.mem_def.mp hq] at hother
      exact hother rfl
    · intro q hq
      rw [List.getLast?_concat] at hq
      exact Option.some.inj hq
    · rw [List.getLast?_concat, hquality]
      rfl

theorem alike (h : m.ToldBy told) (hm : Host.Alike m m') : m'.ToldBy told where
  changes := h.changes
  last := fun q hq => hm.quality.trans (h.last q hq)
  unheard := fun hnil => hm.quality.trans (h.unheard hnil)
  reported := hm.reporter ▸ h.reported

end MountedPanel.ToldBy

/-! ## §3. The ledger. -/

/-- A host with all events that were ever queued, all that were handed out, and
for each panel how many had been queued when it was last mounted afresh. -/
structure WatchedHost where
  host : Host
  queued : List QualityEvent
  drained : List QualityEvent
  since : String → Nat

namespace WatchedHost

/-- A host that is watched from now on. -/
def start (h : Host) : WatchedHost := ⟨h, h.events, [], fun _ => h.events.length⟩

/-- A host after a turn; the ledger takes what is new at the end of the queue. -/
def turned (w : WatchedHost) (t : Turn) (h : Host) : WatchedHost where
  host := h
  queued := w.queued ++ h.events.drop w.host.events.length
  drained := w.drained
  since := match t with
    | .started id => Function.update w.since id w.queued.length
    | _ => w.since

/-- A host after a step; the queued events are handed out when it is drained. -/
def after (w : WatchedHost) (s : HostStep) : WatchedHost :=
  match s with
  | .drain => { w with host := w.host.step .drain, drained := w.drained ++ w.host.drainEvents.1 }
  | s => w.turned (w.host.turn s) (w.host.step s)

/-- A host after some steps. -/
def run (w : WatchedHost) (l : List HostStep) : WatchedHost := l.foldl after w

/-- The qualities that the events have told of a panel since it was last
mounted afresh. -/
def told (w : WatchedHost) (id : String) : List Quality :=
  ((w.queued.drop (w.since id)).filter fun e : QualityEvent => e.panel == id).map (·.quality)

theorem after_of_ne_drain {s : HostStep} (hs : s ≠ .drain) (w : WatchedHost) :
    w.after s = w.turned (w.host.turn s) (w.host.step s) := by
  cases s with
  | drain => exact absurd rfl hs
  | _ => rfl

theorem host_after (w : WatchedHost) (s : HostStep) : (w.after s).host = w.host.step s := by
  cases s <;> rfl

/-- The ledger only looks on. -/
theorem host_run (w : WatchedHost) (l : List HostStep) : (w.run l).host = w.host.steps l := by
  induction l generalizing w with
  | nil => rfl
  | cons s rest ih =>
    show ((w.after s).run rest).host = (w.host.step s).steps rest
    rw [ih, host_after]

/-! ## §4. What is new at the end of the queue. -/

variable {w : WatchedHost} {h h' : Host} {t : Turn} {id : String}

theorem since_turned (w : WatchedHost) (t : Turn) (h : Host) (id : String) :
    (w.turned t h).since id = if t = .started id then w.queued.length else w.since id := by
  cases t with
  | started key =>
    by_cases hkey : key = id
    · subst hkey
      exact (Function.update_self key _ _).trans (if_pos rfl).symm
    · refine (Function.update_of_ne (Ne.symm hkey) _ _).trans (if_neg fun heq => hkey ?_).symm
      exact Turn.started.inj heq
  | quiet | polled | drawn => rfl

/-- A turn only adds to the queue, and only what tells of its own panel. -/
theorem news_of_turns (ho : h.Orderly) (ht : h.Turns t h') :
    ∃ news, h'.events = h.events ++ news ∧ ∀ e ∈ news, t.panel? = some e.panel := by
  have hnews : ∀ {id m m'}, h.Records id m m' h' →
      ∃ news, h'.events = h.events ++ news ∧ ∀ e ∈ news, some id = some e.panel := by
    intro id m m' hrecords
    refine ⟨_, hrecords.events, fun e he => ?_⟩
    split at he
    next =>
      obtain rfl := List.mem_singleton.mp he
      exact congrArg some (ho.filed.id_eq hrecords.before).symm
    next => exact nomatch he
  have hown := ht.own
  cases t with
  | quiet => exact ⟨[], hown.trans (List.append_nil _).symm, nofun⟩
  | started id => exact ⟨[], hown.1.trans (List.append_nil _).symm, nofun⟩
  | polled id =>
    obtain ⟨m, m', hrecords, -⟩ := hown
    exact hnews hrecords
  | drawn id q =>
    obtain ⟨m, m', hrecords, -⟩ := hown
    exact hnews hrecords

theorem told_turned {news : List QualityEvent} (hle : w.since id ≤ w.queued.length)
    (hevents : h.events = w.host.events ++ news) (ht : t ≠ .started id) :
    (w.turned t h).told id =
      w.told id ++ (news.filter fun e : QualityEvent => e.panel == id).map (·.quality) := by
  unfold told
  rw [since_turned, if_neg ht]
  unfold turned
  rw [hevents, List.drop_left, List.drop_append_of_le_length hle, List.filter_append,
    List.map_append]

theorem told_turned_started (hevents : h.events = w.host.events) :
    (w.turned (.started id) h).told id = [] := by
  unfold told
  rw [since_turned, if_pos rfl]
  unfold turned
  rw [hevents, List.drop_length, List.append_nil, List.drop_length]
  rfl

/-! ## §5. What steps preserve. -/

/-- The ledger and the host agree. -/
structure Faithful (w : WatchedHost) : Prop where
  orderly : w.host.Orderly
  order : w.drained ++ w.host.events = w.queued
  since_le : ∀ id, w.since id ≤ w.queued.length
  tells : ∀ id m, w.host.mounted? id = some m → m.ToldBy (w.told id)

namespace Faithful

/-- A panel that is given a quality is told of. -/
theorem tells_of_records (hw : w.Faithful) {m m' : MountedPanel}
    (hrecords : w.host.Records id m m' h) (ht : t ≠ .started id) :
    m'.ToldBy ((w.turned t h).told id) := by
  rw [told_turned (hw.since_le id) hrecords.events ht]
  have htold := hw.tells id m hrecords.before
  by_cases hnews : (m.reporter.report m'.quality).1 = true
  · have hown : [(⟨m.panel.id, m'.quality⟩ : QualityEvent)].filter (·.panel == id) =
        [⟨m.panel.id, m'.quality⟩] :=
      List.filter_cons_of_pos (beq_iff_eq.mpr (hw.orderly.filed.id_eq hrecords.before))
    rw [if_pos hnews, hown]
    exact htold.news hrecords.reporter hnews
  · rw [if_neg hnews, List.filter_nil, List.map_nil, List.append_nil]
    exact htold.again hrecords.reporter (Bool.eq_false_iff.mpr hnews)

theorem turned (hw : w.Faithful) (ho : h.Orderly) (ht : w.host.Turns t h) :
    (w.turned t h).Faithful := by
  obtain ⟨news, hevents, hnews⟩ := news_of_turns hw.orderly ht
  refine ⟨ho, ?_, fun id => ?_, fun id m' hm' => ?_⟩
  · show w.drained ++ h.events = w.queued ++ h.events.drop w.host.events.length
    rw [hevents, List.drop_left, ← hw.order, List.append_assoc]
  · have hlength : w.queued.length ≤ (w.turned t h).queued.length :=
      List.length_append ▸ Nat.le_add_right _ _
    rw [since_turned]
    split
    next => exact hlength
    next => exact Nat.le_trans (hw.since_le id) hlength
  · by_cases hid : t.panel? = some id
    · rcases ht.own_cases hid hm' with ⟨rfl, hsame, hreporter, hquality, -⟩ |
        ⟨rfl, m, hrecords, -⟩ | ⟨q, rfl, m, hrecords, -⟩
      · rw [told_turned_started hsame]
        exact ⟨.nil, nofun, fun _ => hquality, congrArg _ hreporter⟩
      · exact hw.tells_of_records hrecords nofun
      · exact hw.tells_of_records hrecords nofun
    · -- another panel's turn: none of the news is told of this one
      obtain ⟨m, hm, halike⟩ := ht.others id hid m' hm'
      have hnone : (news.filter fun e : QualityEvent => e.panel == id) = [] := by
        refine List.filter_eq_nil_iff.mpr fun e he hown => hid ?_
        rw [hnews e he, beq_iff_eq.mp hown]
      have hother : t ≠ .started id := by
        rintro rfl
        exact hid rfl
      rw [told_turned (hw.since_le id) hevents hother, hnone, List.map_nil, List.append_nil]
      exact (hw.tells id m hm).alike halike

theorem after (hw : w.Faithful) (s : HostStep) : (w.after s).Faithful := by
  by_cases hs : s = .drain
  · subst hs
    refine ⟨hw.orderly.step .drain, ?_, hw.since_le, hw.tells⟩
    show (w.drained ++ w.host.events) ++ [] = w.queued
    rw [List.append_nil, hw.order]
  · rw [after_of_ne_drain hs w]
    exact hw.turned (hw.orderly.step s) (hw.orderly.turns_step hs)

theorem run (hw : w.Faithful) (l : List HostStep) : (w.run l).Faithful := by
  induction l generalizing w with
  | nil => exact hw
  | cons s rest ih => exact ih (hw.after s)

end Faithful

theorem faithful_start (registry : Registry) (settings : HostSettings) (script : Script)
    (refusals : Refusals) : (start (.fresh registry settings script refusals)).Faithful where
  orderly := Host.orderly_fresh registry settings script refusals
  order := rfl
  since_le := fun _ => Nat.le_refl _
  tells := fun _ _ hm => nomatch hm

/-- **Events tell the whole story.**  In every run, what was handed out and
what is still queued is all that was ever queued, each event once and in order,
and draining the queue hands out the rest.  For every mounted panel, what was
queued for it since it was last mounted afresh tells its quality:

* Any two events in a row tell different qualities.
* The last one tells the quality that the panel has.
* While there is none, the quality is unknown, as at first. -/
theorem events_tell_all (registry : Registry) (settings : HostSettings) (script : Script)
    (refusals : Refusals) (ops : List HostOp) :
    let fresh := Host.fresh registry settings script refusals
    let w := (start fresh).run (fresh.unroll ops)
    w.host = fresh.operates ops ∧
      w.drained ++ w.host.events = w.queued ∧
      (w.after .drain).drained = w.queued ∧
      ∀ id m, w.host.mounted? id = some m →
        (w.told id).IsChain (· ≠ ·) ∧
          (∀ q, (w.told id).getLast? = some q → m.quality = q) ∧
          (w.told id = [] → m.quality = .unknown) := by
  intro fresh w
  have hw : w.Faithful := (faithful_start registry settings script refusals).run _
  refine ⟨?_, hw.order, hw.order, fun id m hm => ?_⟩
  · rw [host_run, ← Host.steps_unroll]
    rfl
  · have htold := hw.tells id m hm
    exact ⟨htold.changes, fun q hq => htold.last q hq, htold.unheard⟩

/-- The bots are polled three times and drained, and quick links take their
place and are drawn twice. -/
def remountOps : List HostOp :=
  [.call (.mount Host.botsPanel 5), .call (.poll 10), .call (.poll 11), .call (.poll 12), .drain,
    .call (.mount Host.navPanel 20), .call (.render "b" 21), .call (.render "b" 22)]

/-- Three events tell of the bots, and one of the quick links: they report the
same quality twice. -/
theorem remounted_panel_told :
    let fresh := Host.fresh .builtin .standard Host.botsScript .none
    let w := (start fresh).run (fresh.unroll remountOps)
    (w.after .drain).drained = w.drained ++ [⟨"b", ⟨.ok, some 20⟩⟩] ∧
      w.drained.map (·.quality) = [.unknown, ⟨.ok, some 11⟩, ⟨.ok, some 12⟩] ∧
      ∃ m, w.host.mounted? "b" = some m ∧ m.quality = ⟨.ok, some 20⟩ := by
  intro fresh w
  obtain ⟨-, horder, hdrained, htells⟩ :=
    events_tell_all .builtin .standard Host.botsScript .none remountOps
  obtain ⟨m, hm⟩ : ∃ m, w.host.mounted? "b" = some m :=
    Option.isSome_iff_exists.mp (by decide +kernel)
  have hevents : w.host.events = [⟨"b", ⟨.ok, some 20⟩⟩] := by decide +kernel
  have hlast : (w.told "b").getLast? = some ⟨.ok, some 20⟩ := by decide +kernel
  refine ⟨?_, by decide +kernel, m, hm, (htells "b" m hm).2.1 _ hlast⟩
  rw [hdrained, ← horder, hevents]

end WatchedHost
end Dashboard
