/-
  Dashboard.Proofs.Poll.Reflection
  ────────────────────────────────
  **WHEN A PANEL'S QUALITY REFLECTS ITS POLLS.**

  A quality is derived from a panel's polls each time one counts, and a panel
  that is mounted afresh has the quality of no polls.  A widget may report a
  quality of its own when it is drawn, and of the built-in ones the quick
  navigation does, also where the panel's document gives it an endpoint to be
  polled from.  So the last turn of a panel decides: unless it was drawn so, its
  quality reflects its polls.

  Main results:
    Explained.turns            — what a turn preserves
    quality_reflects_polls_iff — **when the quality is the derived one**
    drawing_hides_failures     — when it is not
-/
import Dashboard.Proofs.Poll.Turns
import Dashboard.Proofs.Widget.Registry
import Mathlib.Data.List.Induction

namespace Dashboard

namespace Host

variable {h h' : Host} {id : String} {m m' : MountedPanel} {last : Option Turn}

/-! ## §1. The last turn of a panel. -/

/-- The last turn of a panel in some steps. -/
def lastTurn? (h : Host) (id : String) (l : List HostStep) : Option Turn :=
  ((h.turns l).filter fun t => t.panel? == some id).getLast?

/-- The last turn of a panel after one more step. -/
theorem lastTurn?_concat (h : Host) (id : String) (l : List HostStep) (s : HostStep) :
    h.lastTurn? id (l ++ [s]) =
      if ((h.steps l).turn s).panel? = some id then some ((h.steps l).turn s)
      else h.lastTurn? id l := by
  unfold lastTurn?
  rw [turns_append, turns, turns, List.filter_append]
  split
  next hown =>
    rw [List.filter_cons_of_pos (by simpa using hown), List.filter_nil, List.getLast?_concat]
  next hother =>
    rw [List.filter_cons_of_neg (by simpa using hother), List.filter_nil, List.append_nil]

/-- The widget of a mounted panel can report a quality when the panel is drawn. -/
def Reports (h : Host) (m : MountedPanel) (q : Quality) : Prop :=
  ∃ s, s.mountedAt = m.mountedAt ∧ ((h.definition m.panel).render s).reported = some q

/-- A panel's quality, told from its last turn: its widget has reported it, or
it is derived from the polls. -/
def Explained (h : Host) (m : MountedPanel) (last : Option Turn) : Prop :=
  match last with
  | some (.drawn _ q) => m.quality = q ∧ h.Reports m q
  | _ => m.quality = h.derivedQuality m

/-- Without a drawing that reports, the quality is the derived one. -/
theorem explained_of_not_drawn (hid : ∀ id q, last ≠ some (.drawn id q)) :
    h.Explained m last ↔ m.quality = h.derivedQuality m := by
  unfold Explained
  split
  next => exact absurd rfl (hid _ _)
  next => exact Iff.rfl

/-! ## §2. What steps preserve. -/

/-- The widget of a panel is found by its id. -/
theorem definition_eq (hregistry : h'.registry = h.registry)
    (hwidget : m'.panel.widgetId = m.panel.widgetId) :
    h'.definition m'.panel = h.definition m.panel := by
  rw [definition, hregistry, hwidget, definition]

theorem Explained.alike (he : h.Explained m last) (hm : Alike m m')
    (hregistry : h'.registry = h.registry) (hsettings : h'.settings = h.settings) :
    h'.Explained m' last := by
  have hdefinition := definition_eq hregistry hm.widget
  have hreports : ∀ q, h'.Reports m' q ↔ h.Reports m q := by
    intro q
    rw [Reports, hdefinition, hm.mountedAt, Reports]
  have hderived : h'.derivedQuality m' = h.derivedQuality m := by
    obtain ⟨n, hquery⟩ := hm.query
    rw [derivedQuality, hdefinition, hsettings, hquery, derivedQuality]
    rfl
  unfold Explained at he ⊢
  split at he
  next => rwa [hreports, hm.quality]
  next => rwa [hderived, hm.quality]

/-- Nothing is derived from no polls. -/
theorem derivedQuality_of_fresh {now : Int} (hquery : m.query = .fresh now) :
    h.derivedQuality m = .unknown := by
  rw [derivedQuality, hquery]
  rfl

/-- After a turn every panel is explained by its last one. -/
theorem Explained.turns {t : Turn} (hturns : h.Turns t h')
    (he : ∀ m, h.mounted? id = some m → h.Explained m last) (hm' : h'.mounted? id = some m') :
    h'.Explained m' (if t.panel? = some id then some t else last) := by
  split
  next hid =>
    rcases hturns.own_cases hid hm' with ⟨rfl, -, -, hquality, now, hquery⟩ |
      ⟨rfl, m, -, hquality⟩ | ⟨q, rfl, m, hrecords, hquality, now, hreported⟩
    · exact hquality.trans (derivedQuality_of_fresh hquery).symm
    · exact hquality
    · have hdefinition : h'.definition m'.panel = h.definition m.panel :=
        definition_eq hturns.registry (congrArg Panel.widgetId hrecords.panel)
      refine ⟨hquality, h.scene m now, hrecords.mountedAt.symm, ?_⟩
      rw [hdefinition]
      exact hreported
  next hid =>
    obtain ⟨m, hm, halike⟩ := hturns.others id hid m' hm'
    exact (he m hm).alike halike hturns.registry hturns.settings

/-- By induction on the steps, from a host without the panel. -/
theorem explained_steps (ho : h.Orderly) (hempty : h.mounted? id = none) (l : List HostStep)
    (hm' : (h.steps l).mounted? id = some m') :
    (h.steps l).Explained m' (h.lastTurn? id l) := by
  -- from the end, for it is the last turn that decides
  induction l using List.reverseRecOn generalizing m' with
  | nil => exact nomatch hempty.symm.trans hm'
  | append_singleton l s ih =>
    rw [steps_append] at hm' ⊢
    rw [lastTurn?_concat]
    by_cases hs : s = .drain
    · -- the panels are as they were
      subst hs
      exact ih hm'
    · exact Explained.turns ((ho.steps l).turns_step hs) (fun m hm => ih hm) hm'

/-! ## §3. Operations that tell nothing of a panel. -/

/-- Whether an operation may give the panel of an id another quality: a poll
may count, or its widget may report one. -/
def mayTell (h : Host) (id : String) : HostOp → Bool
  | .call (.poll _) | .call .pump => true
  | .call (.render key now) =>
    key == id && (h.mounted? id).any fun m => (h.drawing m now).reported.isSome
  | _ => false

/-- The panel has the quality that it had, or it was mounted afresh and has
none yet. -/
def Undisturbed (h : Host) (id : String) (h' : Host) : Prop :=
  ∀ m', h'.mounted? id = some m' →
    (∃ m, h.mounted? id = some m ∧ m'.quality = m.quality ∧
      m'.query.hasCompleted = m.query.hasCompleted) ∨
    (m'.quality = .unknown ∧ m'.query.hasCompleted = false)

theorem undisturbed_refl (h : Host) (id : String) : h.Undisturbed id h :=
  fun m' hm' => .inl ⟨m', hm', rfl, rfl⟩

theorem Undisturbed.trans {h'' : Host} (first : h.Undisturbed id h')
    (second : h'.Undisturbed id h'') : h.Undisturbed id h'' := by
  intro m'' hm''
  rcases second m'' hm'' with ⟨m', hm', hquality, hcompleted⟩ | hnew
  · rw [hquality, hcompleted]
    exact first m' hm'
  · exact .inr hnew

/-- A panel that is kept keeps its quality. -/
theorem Keeps.undisturbed (hkeeps : h.Keeps id h') : h.Undisturbed id h' := by
  intro m' hm'
  obtain ⟨m, hm, halike⟩ := hkeeps m' hm'
  obtain ⟨n, hquery⟩ := halike.query
  exact .inl ⟨m, hm, halike.quality, by rw [hquery]; rfl⟩

/-- A turn that is neither a poll nor a drawing of the panel leaves its
quality. -/
theorem Turns.undisturbed {t : Turn} (hturns : h.Turns t h') (hpolled : t ≠ .polled id)
    (hdrawn : ∀ q, t ≠ .drawn id q) : h.Undisturbed id h' := by
  by_cases hid : t.panel? = some id
  · intro m' hm'
    rcases hturns.own_cases hid hm' with ⟨-, -, -, hquality, now, hquery⟩ | ⟨rfl, -⟩ | ⟨q, rfl, -⟩
    · exact .inr ⟨hquality, by rw [hquery]; rfl⟩
    · exact absurd rfl hpolled
    · exact absurd rfl (hdrawn q)
  · exact (hturns.others id hid).undisturbed

theorem Orderly.undisturbed_steps (ho : h.Orderly) (l : List HostStep)
    (hl : ∀ t ∈ h.turns l, t ≠ .polled id ∧ ∀ q, t ≠ .drawn id q) :
    h.Undisturbed id (h.steps l) := by
  induction l generalizing h with
  | nil => exact h.undisturbed_refl id
  | cons s rest ih =>
    obtain ⟨hpolled, hdrawn⟩ := hl (h.turn s) List.mem_cons_self
    have hrest := ih (ho.step s) fun t ht => hl t (List.mem_cons_of_mem _ ht)
    refine Undisturbed.trans ?_ hrest
    by_cases hs : s = .drain
    · subst hs
      exact (Keeps.of_mounted_eq rfl id).undisturbed
    · exact (ho.turns_step hs).undisturbed hpolled hdrawn

/-- Steps that are neither polls nor drawings. -/
def HostStep.isSilent : HostStep → Bool
  | .hear _ | .poll .. | .render .. => false
  | _ => true

theorem turn_of_isSilent {s : HostStep} (hs : HostStep.isSilent s = true) :
    h.turn s ≠ .polled id ∧ ∀ q, h.turn s ≠ .drawn id q := by
  cases s with
  | mount p now =>
    unfold turn
    dsimp only
    split
    next => exact ⟨nofun, nofun⟩
    next => split <;> exact ⟨nofun, nofun⟩
  | unmount | arrange | drain => exact ⟨nofun, nofun⟩
  | hear | poll | render => exact nomatch hs

theorem turns_of_isSilent {l : List HostStep} (hl : ∀ s ∈ l, HostStep.isSilent s = true) :
    ∀ t ∈ h.turns l, t ≠ .polled id ∧ ∀ q, t ≠ .drawn id q := by
  induction l generalizing h with
  | nil => exact fun _ ht => nomatch ht
  | cons s rest ih =>
    intro t ht
    rcases List.mem_cons.mp ht with rfl | ht
    · exact turn_of_isSilent (hl s List.mem_cons_self)
    · exact ih (fun s hs => hl s (List.mem_cons_of_mem _ hs)) t ht

/-- The steps of an operation that tells nothing of the panel. -/
theorem turns_of_not_mayTell {op : HostOp} (hop : h.mayTell id op = false) :
    ∀ t ∈ h.turns (h.stepsOf op), t ≠ .polled id ∧ ∀ q, t ≠ .drawn id q := by
  cases op with
  | call c =>
    cases c with
    | poll | pump => exact nomatch hop
    | render key now =>
      intro t ht
      obtain rfl : t = h.turn (.render key now) := List.mem_singleton.mp ht
      unfold turn
      dsimp only
      split
      next q hreported =>
        refine ⟨nofun, ?_⟩
        rintro _ ⟨⟩
        -- the panel is mounted and reports, so the operation may tell of it
        obtain ⟨m, hm, hq⟩ := Option.bind_eq_some_iff.mp hreported
        simp [mayTell, hm, hq] at hop
      next => exact ⟨nofun, nofun⟩
    | sync panels now =>
      refine turns_of_isSilent fun s hs => ?_
      rcases List.mem_append.mp hs with hs | hs
      · obtain ⟨id, -, rfl⟩ := List.mem_map.mp hs
        rfl
      · obtain ⟨p, -, rfl⟩ := List.mem_map.mp hs
        rfl
    | mount | unmount | refresh | deliver =>
      refine turns_of_isSilent fun s hs => ?_
      obtain rfl := List.mem_singleton.mp hs
      rfl
  | know | filter | drain =>
    refine turns_of_isSilent fun s hs => ?_
    obtain rfl := List.mem_singleton.mp hs
    rfl

/-! ## §4. Runs. -/

theorem orderly_operates (ho : h.Orderly) (ops : List HostOp) : (h.operates ops).Orderly := by
  rw [← steps_unroll]
  exact ho.steps _

/-- The last turn of a panel is a turn of that panel. -/
theorem panel?_of_lastTurn? {l : List HostStep} {t : Turn} (hlast : h.lastTurn? id l = some t) :
    t.panel? = some id := by
  have hmem := (List.mem_filter.mp (List.mem_of_getLast? hlast)).2
  simpa using hmem

/-- **When a panel's quality reflects its polls.**  After any operations, a
mounted panel, with an endpoint of its own or its widget's or without one:

* The quality of a panel whose widget never reports one is the one derived from
  its polls.
* The quality of any panel is the derived one unless the panel's last turn was
  to be drawn by a widget that reports a quality, or if what it reports happens
  to be the same; after such a drawing the quality is that report.
* An operation that neither applies polls nor draws such a widget leaves a
  panel its quality, or has just mounted it afresh.

Of the built-in widgets only the quick navigation reports, and what it reports
is that all is well since the panel was mounted. -/
theorem quality_reflects_polls_iff (registry : Registry) (settings : HostSettings)
    (script : Script) (refusals : Refusals) (ops : List HostOp) (id : String) :
    let start := fresh registry settings script refusals
    let h := start.operates ops
    let drawn (q : Quality) := start.lastTurn? id (start.unroll ops) = some (.drawn id q)
    (∀ m, h.mounted? id = some m →
      ((h.definition m.panel).Silent → m.quality = h.derivedQuality m) ∧
      (m.quality = h.derivedQuality m ↔ ∀ q, drawn q → h.derivedQuality m = q) ∧
      (∀ q, drawn q → m.quality = q ∧ h.Reports m q) ∧
      (registry = .builtin →
        (m.panel.widgetId ≠ "quick-nav" → m.quality = h.derivedQuality m) ∧
        ∀ q, drawn q → q = ⟨.ok, some m.mountedAt⟩)) ∧
    (∀ op, h.mayTell id op = false → h.Undisturbed id (h.operate op)) := by
  intro start h drawn
  have ho := orderly_fresh registry settings script refusals
  refine ⟨fun m hm => ?_, fun op hop => ?_⟩
  · have he := explained_steps ho rfl (start.unroll ops) (by rw [steps_unroll]; exact hm)
    rw [steps_unroll] at he
    have hreported : ∀ q, drawn q → m.quality = q ∧ h.Reports m q := by
      intro q hdrawn
      rw [show start.lastTurn? id (start.unroll ops) = some (.drawn id q) from hdrawn] at he
      exact he
    have hderived : (∀ q, ¬ drawn q) → m.quality = h.derivedQuality m := by
      intro hnever
      refine (explained_of_not_drawn fun key q hkey => hnever q ?_).mp he
      obtain rfl : key = id := Option.some.inj (panel?_of_lastTurn? hkey)
      exact hkey
    have hsilent : (h.definition m.panel).Silent → m.quality = h.derivedQuality m := by
      intro hsilent
      refine hderived fun q hdrawn => ?_
      obtain ⟨s, -, hq⟩ := (hreported q hdrawn).2
      exact nomatch (hsilent s).symm.trans hq
    refine ⟨hsilent, ⟨?_, ?_⟩, hreported, ?_⟩
    · intro heq q hdrawn
      exact heq.symm.trans (hreported q hdrawn).1
    · intro hagrees
      by_cases hdrawn : ∃ q, drawn q
      · obtain ⟨q, hdrawn⟩ := hdrawn
        exact (hreported q hdrawn).1.trans (hagrees q hdrawn).symm
      · exact hderived (not_exists.mp hdrawn)
    · intro hbuiltin
      have hregistry : h.registry = .builtin := by
        show (start.operates ops).registry = .builtin
        rw [← steps_unroll, ho.registry_steps]
        exact hbuiltin
      refine ⟨fun hother => hsilent ?_, fun q hdrawn => ?_⟩
      · rw [definition, hregistry]
        exact Registry.silent_builtin hother
      · obtain ⟨s, hs, hq⟩ := (hreported q hdrawn).2
        rw [definition, hregistry] at hq
        rw [← hs]
        exact Registry.reported_builtin hq
  · have hquiet := (orderly_operates ho ops).undisturbed_steps (h.stepsOf op)
      (turns_of_not_mayTell hop)
    rwa [steps_stepsOf] at hquiet

/-- Quick links that are polled from an endpoint of their own. -/
def polledLinks : Panel :=
  { Panel.fresh ⟨0⟩ "n" "quick-nav" ⟨0, 0, 4, 1⟩ with
    dataSpec := [("endpointRef", .text "/links"), ("queryKey", .text "quick-nav")] }

/-- One failure is enough, and nothing is polled in the background. -/
def strictSettings : HostSettings := ⟨10000, 7000, ⟨1, 30000⟩, false⟩

/-- Both panels are polled in vain, and then drawn. -/
def drawnOps : List HostOp :=
  [.call (.mount botsPanel 5), .call (.mount polledLinks 5), .call (.poll 10),
    .call (.render "b" 11), .call (.render "n" 11)]

/-- The bots stay down when they are drawn and the quick links do not; learning
the capabilities disturbs neither. -/
theorem drawn_bots_reflect :
    let h := (fresh .builtin strictSettings botsScript .none).operates drawnOps
    (∃ m, h.mounted? "b" = some m ∧ m.quality = h.derivedQuality m ∧ m.quality.status = .down) ∧
      (∃ m, h.mounted? "n" = some m ∧ m.quality = ⟨.ok, some m.mountedAt⟩) ∧
      h.Undisturbed "n" (h.operate (.know .unknown)) := by
  intro h
  obtain ⟨hbots, -⟩ :=
    quality_reflects_polls_iff .builtin strictSettings botsScript .none drawnOps "b"
  obtain ⟨hlinks, hquiet⟩ :=
    quality_reflects_polls_iff .builtin strictSettings botsScript .none drawnOps "n"
  obtain ⟨b, hb⟩ : ∃ m, h.mounted? "b" = some m := Option.isSome_iff_exists.mp (by decide +kernel)
  obtain ⟨n, hn⟩ : ∃ m, h.mounted? "n" = some m := Option.isSome_iff_exists.mp (by decide +kernel)
  have hbotsNow : (h.mounted? "b").map (fun m => (m.panel.widgetId, m.quality.status)) =
      some ("bots-overview", .down) := by decide +kernel
  rw [hb] at hbotsNow
  obtain ⟨hwidget, hdown⟩ := Prod.mk.inj (Option.some.inj hbotsNow)
  refine ⟨⟨b, hb, ((hbots b hb).2.2.2 rfl).1 ?_, hdown⟩, ⟨n, hn, ?_⟩, hquiet _ rfl⟩
  · rw [hwidget]
    decide
  · obtain ⟨-, -, hreported, hbuiltin⟩ := hlinks n hn
    have hdrawn : (fresh .builtin strictSettings botsScript .none).lastTurn? "n"
        ((fresh .builtin strictSettings botsScript .none).unroll drawnOps) =
        some (.drawn "n" ⟨.ok, some 5⟩) := by decide +kernel
    rw [(hreported _ hdrawn).1]
    exact (hbuiltin rfl).2 _ hdrawn

/-- The quick links have an endpoint, and no poll of it ever succeeded; yet
drawing them makes their quality OK, with the time they were mounted at for a
last success. -/
theorem drawing_hides_failures :
    let h := (fresh .builtin strictSettings botsScript .none).operates drawnOps
    (h.mounted? "n").map (fun m => (m.endpoint, m.query.failures, m.query.lastSuccess.isSome)) =
        some (some "/links", 1, false) ∧
      (h.mounted? "n").map h.derivedQuality = some ⟨.down, none⟩ ∧
      h.quality? "n" = some ⟨.ok, some 5⟩ := by
  decide +kernel

end Host
end Dashboard
