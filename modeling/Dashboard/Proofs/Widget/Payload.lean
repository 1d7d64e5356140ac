/-
  Dashboard.Proofs.Widget.Payload
  ───────────────────────────────
  **PAYLOADS AND THE TABLE OF KEYS.**

  The table says of each field under which keys it is looked up; the first key
  with something usable wins.  A text is usable when it is not blank.  The
  decoder takes the first text, blank or not, and finds nothing if it is blank:
  a blank text masks what a later key says (`Masked`).  Where nothing is masked,
  and no component goes by a blank key, it decodes as the table says.

  Main results:
    firstText_eq           — what the decoder finds, and what it misses
    component?_eq_iff      — when an entry is decoded as the table says
    decodes_by_table_iff   — **when a payload is**
    blank_hides_status     — a payload that is not
-/
import Dashboard.Proofs.Text.Trimmed
import Dashboard.Widget.Payload

namespace Dashboard

open Json Text

/-! ## §1. Texts. -/

namespace Payload

/-- What a value says: a text that is not blank, trimmed. -/
def said? (v : Value) : Option String := v.text?.bind nonBlank?

/-- What is said first under some keys. -/
def chosenText (m : Members) (keys : List String) : Option String :=
  keys.findSome? fun key => (m.get? key).bind said?

/-- The first text under some keys, blank or not. -/
def foundText (m : Members) (keys : List String) : Option String :=
  keys.findSome? fun key => (m.get? key).bind Value.text?

/-- The first text under some keys is blank, and a later one says something. -/
def Masked (m : Members) (keys : List String) : Prop :=
  (foundText m keys).any isBlankText = true ∧ (chosenText m keys).isSome = true

variable {m : Members} {keys : List String} {s : String}

instance : Decidable (Masked m keys) := inferInstanceAs (Decidable (_ ∧ _))

theorem bind_said? (m : Members) (key : String) :
    (m.get? key).bind said? = ((m.get? key).bind Value.text?).bind nonBlank? :=
  (Option.bind_assoc ..).symm

/-- Where there is no text, nothing is said. -/
theorem chosenText_of_found_none (h : foundText m keys = none) : chosenText m keys = none := by
  rw [foundText, List.findSome?_eq_none_iff] at h
  refine List.findSome?_eq_none_iff.mpr fun key hkey => ?_
  rw [bind_said?, h key hkey]
  rfl

/-- The first text is said unless it is blank. -/
theorem chosenText_of_found (h : foundText m keys = some s) (hfilled : isBlankText s = false) :
    chosenText m keys = some (trim s) := by
  induction keys with
  | nil => exact nomatch h
  | cons key rest ih =>
    rw [foundText, List.findSome?_cons] at h
    rw [chosenText, List.findSome?_cons, bind_said?]
    cases htext : (m.get? key).bind Value.text? with
    | none =>
      rw [htext] at h
      exact ih h
    | some t =>
      rw [htext] at h
      obtain rfl : t = s := Option.some.inj h
      rw [Option.bind_some, nonBlank?_eq_some_iff.mpr ⟨hfilled, rfl⟩]

/-- The decoder finds what the table says, unless that is masked: then it finds nothing. -/
theorem firstText_eq (m : Members) (keys : List String) :
    firstText m keys = if Masked m keys then none else chosenText m keys := by
  show (foundText m keys).bind nonBlank? = _
  cases hfound : foundText m keys with
  | none =>
    rw [chosenText_of_found_none hfound]
    exact (ite_self none).symm
  | some s =>
    rw [Option.bind_some]
    cases hblank : isBlankText s with
    | true =>
      rw [nonBlank?, if_pos hblank]
      split
      next => rfl
      next hsilent =>
        -- the blank text masks nothing, so nothing is said at all
        have hany : (foundText m keys).any isBlankText = true := by rw [hfound]; exact hblank
        exact (Option.not_isSome_iff_eq_none.mp fun hsome => hsilent ⟨hany, hsome⟩).symm
    | false =>
      have hclear : ¬ Masked m keys := by
        rintro ⟨hany, -⟩
        rw [hfound] at hany
        exact nomatch hblank.symm.trans hany
      rw [if_neg hclear, chosenText_of_found hfound hblank]
      exact nonBlank?_eq_some_iff.mpr ⟨hblank, rfl⟩

theorem Masked.firstText (h : Masked m keys) : firstText m keys = none := by
  rw [firstText_eq, if_pos h]

theorem firstText_of_not_masked (h : ¬ Masked m keys) : firstText m keys = chosenText m keys := by
  rw [firstText_eq, if_neg h]

theorem Masked.chosenText (h : Masked m keys) : ∃ s, chosenText m keys = some s :=
  Option.isSome_iff_exists.mp h.2

theorem firstText_eq_chosenText_iff : firstText m keys = chosenText m keys ↔ ¬ Masked m keys := by
  refine ⟨fun heq h => ?_, firstText_of_not_masked⟩
  obtain ⟨s, hs⟩ := h.chosenText
  exact nomatch h.firstText.symm.trans (heq.trans hs)

/-- What is said is not blank. -/
theorem chosenText_filled (h : chosenText m keys = some s) : isBlankText s = false := by
  obtain ⟨key, -, hkey⟩ := List.exists_of_findSome?_eq_some h
  obtain ⟨v, -, hv⟩ := Option.bind_eq_some_iff.mp hkey
  obtain ⟨t, -, ht⟩ := Option.bind_eq_some_iff.mp hv
  obtain ⟨hfilled, rfl⟩ := nonBlank?_eq_some_iff.mp ht
  exact (trimmed_trim hfilled).not_blank

/-- Two healths of one field: what is masked may say as little as nothing. -/
theorem ofName?_firstText_iff :
    Health.ofName? (firstText m keys) = Health.ofName? (chosenText m keys) ↔
      (Masked m keys → Health.ofName? (chosenText m keys) = .unknown) := by
  by_cases h : Masked m keys
  · rw [h.firstText]
    exact ⟨fun heq _ => heq.symm, fun hunknown => (hunknown h).symm⟩
  · rw [firstText_of_not_masked h]
    exact ⟨fun _ hmasked => absurd hmasked h, fun _ => rfl⟩

end Payload

open Payload

/-! ## §2. Components. -/

namespace StatusSummary

/-- The keys of the table. -/
def overallKeys : List String := ["overall_status", "overallStatus", "status", "state"]
def listKeys : List String := ["components", "items", "services"]
def nameKeys : List String := ["name", "component", "id"]
def statusKeys : List String := ["status", "state", "health"]
def reasonKeys : List String := ["reason", "message", "detail"]

/-- The entries of a list of components; those of an object come with their keys. -/
def entries? : Value → Option (List (Option String × Value))
  | .list items => some (items.map fun v => (none, v))
  | .object m => some (m.map fun p => (some p.1, p.2))
  | _ => none

/-- The entries of the first list of components. -/
def entries (m : Members) : List (Option String × Value) :=
  (listKeys.findSome? fun key => (m.get? key).bind entries?).getD []

/-- The name of a component: its own, or its key, unless that is blank. -/
def nameOf? (key : Option String) (m : Members) : Option String :=
  (chosenText m nameKeys).or (key.filter fun k => !isBlankText k)

/-- A component as the table says. -/
def listed? (key : Option String) : Value → Option ComponentHealth
  | .text status =>
    (key.filter fun k => !isBlankText k).map fun name => ⟨name, .ofName status, none⟩
  | .object m =>
    (nameOf? key m).map fun name =>
      ⟨name, .ofName? (chosenText m statusKeys), chosenText m reasonKeys⟩
  | _ => none

/-- The summary of a payload as the table says. -/
def byTable (v : Value) : StatusSummary :=
  match v.members? with
  | none => unknown
  | some m =>
    ⟨.ofName? (chosenText m overallKeys), (entries m).filterMap fun e => listed? e.1 e.2⟩

/-- A component goes by the name that the table says: where its own name is
masked its key is that name, and where it has none its key is not blank, or empty. -/
def WellNamed (key : Option String) (m : Members) : Prop :=
  (Masked m nameKeys → key = chosenText m nameKeys) ∧
    (chosenText m nameKeys = none → ∀ k ∈ key, isBlankText k = true → k = "")

/-- An entry has the name that the table says and, if it has one, a status and a
reason that are not masked. -/
def WellRead (key : Option String) : Value → Prop
  | .text _ => ∀ k ∈ key, isBlankText k = false
  | .object m => WellNamed key m ∧ ((nameOf? key m).isSome = true →
      (Masked m statusKeys → Health.ofName? (chosenText m statusKeys) = .unknown) ∧
        ¬ Masked m reasonKeys)
  | _ => True

variable {key : Option String} {m : Members} {v : Value} {c : ComponentHealth}

theorem component?_object (key : Option String) (m : Members) :
    component? key (.object m) =
      (((firstText m nameKeys).or key).filter (· ≠ "")).map fun name =>
        ⟨name, .ofName? (firstText m statusKeys), firstText m reasonKeys⟩ := by
  show (Option.filter (fun name => decide (name ≠ "")) ((firstText m nameKeys).or key)).bind _ = _
  generalize ((firstText m nameKeys).or key).filter _ = name
  cases name <;> rfl

theorem componentsOf_eq (m : Members) :
    componentsOf m = (entries m).filterMap fun e => component? e.1 e.2 := by
  have hlist (v : Value) :
      componentList? v = (entries? v).map (·.filterMap fun e => component? e.1 e.2) := by
    cases v <;> simp [componentList?, entries?, List.filterMap_map]
  have hkeys (keys : List String) :
      (keys.findSome? fun key => (m.get? key).bind componentList?) =
        (keys.findSome? fun key => (m.get? key).bind entries?).map
          (·.filterMap fun e => component? e.1 e.2) := by
    rw [List.map_findSome?]
    congr 1
    funext key
    show _ = ((m.get? key).bind entries?).map _
    cases m.get? key with
    | none => rfl
    | some v => exact hlist v
  unfold componentsOf entries listKeys
  rw [hkeys]
  cases List.findSome? _ _ <;> rfl

theorem isBlankText_empty : isBlankText "" = true := rfl

/-- The name that the decoder takes is the one that the table says. -/
theorem name_eq_iff :
    ((firstText m nameKeys).or key).filter (· ≠ "") = nameOf? key m ↔ WellNamed key m := by
  unfold nameOf? WellNamed
  by_cases hmasked : Masked m nameKeys
  · obtain ⟨name, hname⟩ := hmasked.chosenText
    have hne : name ≠ "" := by
      rintro rfl
      exact nomatch isBlankText_empty.symm.trans (chosenText_filled hname)
    rw [hmasked.firstText, hname, Option.none_or, Option.some_or]
    simp only [hmasked, true_imp_iff, reduceCtorEq, false_imp_iff, and_true]
    rw [Option.filter_eq_some_iff]
    exact ⟨fun h => h.1, fun h => ⟨h, by simpa using hne⟩⟩
  · rw [firstText_of_not_masked hmasked]
    simp only [hmasked, false_imp_iff, true_and]
    cases hname : chosenText m nameKeys with
    | some name =>
      have hne : name ≠ "" := by
        rintro rfl
        exact nomatch isBlankText_empty.symm.trans (chosenText_filled hname)
      simp [hne]
    | none =>
      cases key with
      | none => simp
      | some k =>
        by_cases hempty : k = ""
        · subst hempty
          simp [Option.filter_some, isBlankText_empty]
        · cases hblank : isBlankText k <;> simp [Option.filter_some, hempty, hblank]

/-- Components under a name are the same exactly if name, status and reason are. -/
theorem map_named_eq_iff {a b : Option String} {s t : Health} {r u : Option String} :
    (a.map fun name => (⟨name, s, r⟩ : ComponentHealth)) = b.map (fun name => ⟨name, t, u⟩) ↔
      a = b ∧ (b.isSome = true → s = t ∧ r = u) := by
  cases a <;> cases b <;> simp

/-- **When an entry is decoded as the table says.** -/
theorem component?_eq_iff : component? key v = listed? key v ↔ WellRead key v := by
  cases v with
  | text status =>
    cases key with
    | none => simp [component?, listed?, WellRead]
    | some k =>
      cases hblank : isBlankText k <;>
        simp [component?, listed?, WellRead, Option.filter_some, hblank]
  | object m =>
    rw [component?_object, listed?, map_named_eq_iff, name_eq_iff, ofName?_firstText_iff,
      firstText_eq_chosenText_iff, WellRead]
  | _ => simp [component?, listed?, WellRead]

theorem listed?_filled (h : listed? key v = some c) : isBlankText c.name = false := by
  cases v with
  | text status =>
    obtain ⟨name, hname, rfl⟩ := Option.map_eq_some_iff.mp h
    simpa using (Option.filter_eq_some_iff.mp hname).2
  | object m =>
    obtain ⟨name, hname, rfl⟩ := Option.map_eq_some_iff.mp h
    rcases Option.or_eq_some_iff.mp hname with hown | ⟨-, hkey⟩
    · exact chosenText_filled hown
    · simpa using (Option.filter_eq_some_iff.mp hkey).2
  | _ => exact nomatch h

/-- What the decoder lists under a name that is not blank, the table lists as well. -/
theorem listed?_isSome (h : component? key v = some c) (hfilled : isBlankText c.name = false) :
    (listed? key v).isSome = true := by
  cases v with
  | text status =>
    obtain ⟨name, rfl, rfl⟩ := Option.map_eq_some_iff.mp h
    simpa [listed?] using hfilled
  | object m =>
    rw [component?_object] at h
    obtain ⟨name, hname, rfl⟩ := Option.map_eq_some_iff.mp h
    have hor := (Option.filter_eq_some_iff.mp hname).1
    rw [listed?, Option.isSome_map, nameOf?]
    cases hchosen : chosenText m nameKeys with
    | some own => rfl
    | none =>
      have hnone : firstText m nameKeys = none := by
        rw [firstText_eq, hchosen]
        exact ite_self none
      rw [hnone, Option.none_or] at hor
      simpa [hor] using hfilled
  | _ => exact nomatch h

end StatusSummary

/-! ## §3. Lists. -/

section Lists

variable {α β : Type} {f g : α → Option β} {l : List α}

theorem length_filterMap_le_of_isSome (h : ∀ a ∈ l, (f a).isSome = true → (g a).isSome = true) :
    (l.filterMap f).length ≤ (l.filterMap g).length := by
  induction l with
  | nil => exact Nat.le_refl _
  | cons a rest ih =>
    have hrest := ih fun b hb => h b (List.mem_cons_of_mem _ hb)
    have hhead := h a List.mem_cons_self
    rw [List.filterMap_cons, List.filterMap_cons]
    cases hf : f a with
    | none => cases g a <;> simp only [List.length_cons] <;> omega
    | some b =>
      obtain ⟨c, hg⟩ := Option.isSome_iff_exists.mp (hhead (by rw [hf]; rfl))
      simpa [hg] using hrest

/-- Where one function gives nothing that the other one leaves out, equal results
come from equal values. -/
theorem forall_eq_of_filterMap_eq (h : ∀ a ∈ l, (f a).isSome = true → (g a).isSome = true)
    (heq : l.filterMap f = l.filterMap g) : ∀ a ∈ l, f a = g a := by
  induction l with
  | nil => exact fun _ ha => nomatch ha
  | cons a rest ih =>
    have hrest : ∀ b ∈ rest, (f b).isSome = true → (g b).isSome = true :=
      fun b hb => h b (List.mem_cons_of_mem _ hb)
    rw [List.filterMap_cons, List.filterMap_cons] at heq
    have hboth : f a = g a ∧ rest.filterMap f = rest.filterMap g := by
      cases hf : f a with
      | none =>
        cases hg : g a with
        | none =>
          rw [hf, hg] at heq
          exact ⟨rfl, heq⟩
        | some c =>
          -- the rest gives one more than it can
          rw [hf, hg] at heq
          have hle := length_filterMap_le_of_isSome hrest
          have hlength := congrArg List.length heq
          simp only [List.length_cons] at hlength
          omega
      | some b =>
        obtain ⟨c, hg⟩ := Option.isSome_iff_exists.mp (h a List.mem_cons_self (by rw [hf]; rfl))
        rw [hf, hg] at heq
        obtain ⟨rfl, htail⟩ := List.cons_eq_cons.mp heq
        exact ⟨hg.symm, htail⟩
    intro b hb
    rcases List.mem_cons.mp hb with rfl | hb
    · exact hboth.1
    · exact ih hrest hboth.2 b hb

end Lists

/-! ## §4. The status summary. -/

namespace StatusSummary

variable {m : Members}

/-- A list of components is decoded as the table says exactly if its entries are. -/
theorem filterMap_component?_iff (l : List (Option String × Value)) :
    (l.filterMap fun e => component? e.1 e.2) = l.filterMap (fun e => listed? e.1 e.2) ↔
      ∀ e ∈ l, WellRead e.1 e.2 := by
  constructor
  · intro heq e he
    refine component?_eq_iff.mp (forall_eq_of_filterMap_eq ?_ heq e he)
    intro e he hsome
    obtain ⟨c, hc⟩ := Option.isSome_iff_exists.mp hsome
    -- the table lists nothing under a blank name, so this component has none
    have hmem : c ∈ l.filterMap fun e => listed? e.1 e.2 := heq ▸ List.mem_filterMap.mpr ⟨e, he, hc⟩
    obtain ⟨e', -, hc'⟩ := List.mem_filterMap.mp hmem
    exact listed?_isSome hc (listed?_filled hc')
  · intro hread
    exact List.filterMap_congr fun e he => component?_eq_iff.mpr (hread e he)

theorem ofPayload_eq_byTable_iff (v : Value) :
    ofPayload v = byTable v ↔ ∀ m, v.members? = some m →
      (Masked m overallKeys → Health.ofName? (chosenText m overallKeys) = .unknown) ∧
        ∀ e ∈ entries m, WellRead e.1 e.2 := by
  unfold ofPayload byTable
  cases v.members? with
  | none => simp
  | some m =>
    show (⟨.ofName? (firstText m overallKeys), componentsOf m⟩ : StatusSummary) = ⟨_, _⟩ ↔ _
    rw [StatusSummary.mk.injEq, componentsOf_eq, filterMap_component?_iff, ofName?_firstText_iff]
    simp

end StatusSummary

/-! ## §5. The bots summary. -/

namespace BotsSummary

/-- The keys of the table. -/
def listKeys : List String := ["items", "bots", "data", "results"]
def totalKeys : List String := ["total", "count"]
def stateKeys : List String := ["state", "status"]
def degradedKeys : List String := ["degraded", "is_degraded", "isDegraded"]

/-- The list of bots: the payload itself, or the first array. -/
def botList : Value → List Value
  | .list values => values
  | .object m => (listKeys.findSome? fun key => (Keyed.get? key m).bind Value.items?).getD []
  | _ => []

/-- The total that a payload gives: the first number, or text of one. -/
def total? (v : Value) : Option Nat :=
  v.members?.bind fun m => totalKeys.findSome? fun key => (m.get? key).bind count?

/-- The bots of a payload, which are objects. -/
def bots (v : Value) : List Members := (botList v).filterMap Value.members?

/-- The summary of a payload as the table says. -/
def byTable (v : Value) : BotsSummary :=
  ⟨(total? v).getD (botList v).length,
    (bots v).map fun m => ⟨chosenText m stateKeys, firstFlag m degradedKeys⟩⟩

theorem itemsOf_eq (values : List Value) :
    itemsOf values = (values.filterMap Value.members?).map item :=
  (List.map_filterMap ..).symm

theorem ofPayload_eq (v : Value) :
    ofPayload v = ⟨(total? v).getD (bots v).length, (bots v).map item⟩ := by
  have hlength (values : List Value) :
      (itemsOf values).length = (values.filterMap Value.members?).length := by
    rw [itemsOf_eq, List.length_map]
  cases v with
  | list values =>
    show (⟨(itemsOf values).length, itemsOf values⟩ : BotsSummary) = _
    rw [hlength, itemsOf_eq]
    rfl
  | object m =>
    show (⟨(firstCount m totalKeys).getD (itemsOf (botList (.object m))).length,
      itemsOf (botList (.object m))⟩ : BotsSummary) = _
    rw [hlength, itemsOf_eq]
    rfl
  | _ => rfl

theorem item_eq_iff {m : Members} :
    item m = ⟨chosenText m stateKeys, firstFlag m degradedKeys⟩ ↔ ¬ Masked m stateKeys := by
  rw [← firstText_eq_chosenText_iff]
  show (⟨firstText m stateKeys, firstFlag m degradedKeys⟩ : BotItem) = _ ↔ _
  simp

theorem ofPayload_eq_byTable_iff (v : Value) :
    ofPayload v = byTable v ↔ (∀ bot ∈ bots v, ¬ Masked bot stateKeys) ∧
      (total? v = none → ∀ item ∈ botList v, item.members?.isSome = true) := by
  have hitems : (bots v).map item = (bots v).map
      (fun m => (⟨chosenText m stateKeys, firstFlag m degradedKeys⟩ : BotItem)) ↔
      ∀ bot ∈ bots v, ¬ Masked bot stateKeys := by
    rw [List.map_inj_left]
    exact forall₂_congr fun _ _ => item_eq_iff
  have htotal : (total? v).getD (bots v).length = (total? v).getD (botList v).length ↔
      (total? v = none → ∀ item ∈ botList v, item.members?.isSome = true) := by
    cases total? v with
    | some n => simp
    | none => simp [bots, List.filterMap_length_eq_length]
  rw [ofPayload_eq, byTable, BotsSummary.mk.injEq, hitems, htotal]
  exact and_comm

end BotsSummary

/-! ## §6. Payloads. -/

/-- **When a payload is decoded as the table says.**  A status summary is,
exactly if its overall status is not masked, but by what says nothing, and each
entry of its list of components is: a text has a key that is not blank; an
object goes by the name that the table says and, if it has one, has a status and
a reason that are not masked.  A bots summary is, exactly if no bot's state is
masked and, where the payload gives no total, its list holds nothing but bots. -/
theorem decodes_by_table_iff (v : Value) :
    (StatusSummary.ofPayload v = .byTable v ↔ ∀ m, v.members? = some m →
      (Masked m StatusSummary.overallKeys →
        Health.ofName? (chosenText m StatusSummary.overallKeys) = .unknown) ∧
      ∀ e ∈ StatusSummary.entries m, StatusSummary.WellRead e.1 e.2) ∧
    (BotsSummary.ofPayload v = .byTable v ↔
      (∀ bot ∈ BotsSummary.bots v, ¬ Masked bot BotsSummary.stateKeys) ∧
      (BotsSummary.total? v = none →
        ∀ item ∈ BotsSummary.botList v, item.members?.isSome = true)) :=
  ⟨StatusSummary.ofPayload_eq_byTable_iff v, BotsSummary.ofPayload_eq_byTable_iff v⟩

/-- A blank overall status hides the one under the next key. -/
theorem blank_hides_status :
    ¬ ∀ v, StatusSummary.ofPayload v = .byTable v ∧ BotsSummary.ofPayload v = .byTable v := by
  intro h
  have hstatus := (h (.object [("overall_status", .text " "), ("status", .text "DOWN")])).1
  revert hstatus
  decide +kernel

end Dashboard
