/-
  Dashboard.Proofs.Poll.Freshness
  ───────────────────────────────
  **A CELL SERVES ONLY WHAT IS FRESH, AND LOADS ONLY WHAT IT NEEDS.**

  What a cell holds is what was stored last, by a set or by a loader that
  succeeded.  The cell tells its age within 64 bits, where spans saturate, and
  bounds it by a time to live that is cut off there too; both agree with exact
  arithmetic, whatever the times are.  So each call of a sequence can be
  answered from the list of the calls before it.

  Only the whole milliseconds of a time to live count.  What is served is
  younger than the time to live itself; a value whose age is between the two is
  loaded again, and loads may be that much closer together.

  Main results:
    isYoung_iff           — youth in exact arithmetic
    turn_of_history       — a cell holds what was stored last
    served_fresh_and_rare — what is served, when it is loaded, and how often
-/
import Dashboard.Poll.TtlCell

namespace Dashboard

open Time

variable {α ε : Type}

/-! ## §1. Youth. -/

/-- The whole milliseconds of a time to live, cut off at the greatest 64-bit
time. -/
def countedMillis (ttl : Duration) : Int := min (ttl.nanos / 1000000) maxMillis

/-- The entry is not from the future, and younger than the whole milliseconds of
a time to live. -/
def TtlEntry.FreshAt (e : TtlEntry α) (ttl : Duration) (now : Int) : Prop :=
  0 ≤ now - e.ts ∧ now - e.ts < countedMillis ttl

/-- The entry is not from the future, and younger than a time to live to the
nanosecond. -/
def TtlEntry.YoungerThan (e : TtlEntry α) (ttl : Duration) (now : Int) : Prop :=
  0 ≤ now - e.ts ∧ (now - e.ts) * 1000000 < ttl.nanos

/-- What is fresh is younger than the time to live. -/
theorem TtlEntry.FreshAt.youngerThan {e : TtlEntry α} {ttl : Duration} {now : Int}
    (h : e.FreshAt ttl now) : e.YoungerThan ttl now := by
  obtain ⟨hpast, hfresh⟩ := h
  unfold countedMillis at hfresh
  exact ⟨hpast, by omega⟩

namespace TtlCell

/-- **Youth in exact arithmetic.**  A span that saturates is negative, or as
long as no time to live is. -/
theorem isYoung_iff (c : TtlCell α) (e : TtlEntry α) (now : Int) :
    c.isYoung e now = true ↔ e.FreshAt c.ttl now := by
  have hlow : minMillis < 0 := by decide
  have hhigh : 0 < maxMillis := by decide
  unfold isYoung TtlEntry.FreshAt elapsed hold ttlMs spanLimit countedMillis Duration.wholeMillis
  rw [Bool.and_eq_true, decide_eq_true_eq, decide_eq_true_eq]
  omega

theorem get_eq_some {c : TtlCell α} {now : Int} {v : α} :
    c.get now = some v ↔ ∃ e, c.entry = some e ∧ e.FreshAt c.ttl now ∧ e.value = v := by
  simp only [get, Option.map_eq_some_iff, Option.filter_eq_some_iff, isYoung_iff, and_assoc]

theorem get_eq_none {c : TtlCell α} {now : Int} :
    c.get now = none ↔ ¬∃ e, c.entry = some e ∧ e.FreshAt c.ttl now := by
  simp [get, isYoung_iff]

end TtlCell

/-! ## §2. Calls. -/

/-- A call of a cell, at a time; a loader is given by its outcome. -/
inductive TtlCall (α ε : Type) where
  | get (now : Int)
  | set (value : α) (now : Int)
  | refresh (now : Int) (load : Except ε α)

/-- The time of a call. -/
def TtlCall.now : TtlCall α ε → Int
  | .get now => now
  | .set _ now => now
  | .refresh now _ => now

/-- A call with the cell before it, what it gave, how often it ran its loader,
and the cell after it.  A set gives nothing, nor does a get that finds nothing. -/
structure TtlTurn (α ε : Type) where
  before : TtlCell α
  call : TtlCall α ε
  answer : Option (Except ε α)
  loads : Nat
  after : TtlCell α

namespace TtlCell

/-- Make a call. -/
def perform (c : TtlCell α) (call : TtlCall α ε) : TtlTurn α ε :=
  match call with
  | .get now => ⟨c, call, (c.get now).map .ok, 0, c⟩
  | .set value now => ⟨c, call, none, 0, c.set value now⟩
  | .refresh now load =>
    let ((answer, after), loads) := (c.getOrLoad now (counted load)).run 0
    ⟨c, call, some answer, loads, after⟩

/-- Make calls one after another. -/
def history (c : TtlCell α) : List (TtlCall α ε) → List (TtlTurn α ε)
  | [] => []
  | call :: rest => c.perform call :: history (c.perform call).after rest

end TtlCell

namespace TtlTurn

/-- What a turn stored: the value of a set, or what its loader gave, if that was
run and succeeded. -/
def stored? (t : TtlTurn α ε) : Option (TtlEntry α) :=
  match t.call with
  | .get _ => none
  | .set value now => some ⟨now, value⟩
  | .refresh now (.ok value) => if t.loads = 0 then none else some ⟨now, value⟩
  | .refresh _ (.error _) => none

/-- The turn ran its loader, which succeeded. -/
def Loaded (t : TtlTurn α ε) : Prop :=
  ∃ now value, t.call = .refresh now (.ok value) ∧ t.loads ≠ 0

/-- What was stored last in a list of turns. -/
def lastStored? (turns : List (TtlTurn α ε)) : Option (TtlEntry α) :=
  (turns.filterMap stored?).getLast?

theorem lastStored?_append (turns more : List (TtlTurn α ε)) :
    lastStored? (turns ++ more) = (lastStored? more).or (lastStored? turns) := by
  unfold lastStored?
  rw [List.filterMap_append, List.getLast?_append]

theorem lastStored?_cons (t : TtlTurn α ε) (turns : List (TtlTurn α ε)) :
    lastStored? (t :: turns) = (lastStored? turns).or t.stored? := by
  rw [← List.singleton_append, lastStored?_append]
  congr 1
  unfold lastStored?
  cases h : t.stored? with
  | none => simp [h]
  | some e => simp [h]

theorem stored?_ts {t : TtlTurn α ε} {e : TtlEntry α} (h : t.stored? = some e) :
    e.ts = t.call.now := by
  obtain ⟨before, call, answer, loads, after⟩ := t
  cases call with
  | get now => cases h
  | set value now => cases h; rfl
  | refresh now load =>
      cases load with
      | error e => cases h
      | ok value =>
          simp only [stored?] at h
          split at h
          · cases h
          · cases h; rfl

theorem stored?_of_loaded {t : TtlTurn α ε} (h : t.Loaded) : t.stored?.isSome = true := by
  obtain ⟨now, value, hcall, hloads⟩ := h
  simp [stored?, hcall, hloads]

/-- What was stored last was stored by one of the turns. -/
theorem exists_of_lastStored? {turns : List (TtlTurn α ε)} {e : TtlEntry α}
    (h : lastStored? turns = some e) : ∃ t ∈ turns, t.stored? = some e :=
  List.mem_filterMap.mp (List.mem_of_getLast? h)

end TtlTurn

/-! ## §3. One turn. -/

namespace TtlCell

open TtlTurn

variable {c : TtlCell α} {now : Int} {v : α}

theorem perform_of_found (h : c.get now = some v) (load : Except ε α) :
    c.perform (.refresh now load) = ⟨c, .refresh now load, some (.ok v), 0, c⟩ := by
  unfold perform
  dsimp only
  rw [getOrLoad_of_young h]
  rfl

theorem perform_of_missed (h : c.get now = none) (load : Except ε α) :
    c.perform (.refresh now load) = ⟨c, .refresh now load, some load, 1, match load with
      | .ok v => c.set v now
      | .error _ => c⟩ := by
  unfold perform getOrLoad
  dsimp only
  rw [h]
  cases load <;> rfl

theorem perform_before (c : TtlCell α) (call : TtlCall α ε) :
    (c.perform call).before = c ∧ (c.perform call).call = call := by
  cases call <;> exact ⟨rfl, rfl⟩

/-- **One turn** stores what it stores and else leaves the cell alone. -/
theorem perform_after (c : TtlCell α) (call : TtlCall α ε) :
    (c.perform call).after = { c with entry := (c.perform call).stored?.or c.entry } := by
  cases call with
  | get now => rfl
  | set value now => rfl
  | refresh now load =>
      cases hget : c.get now with
      | some v =>
          rw [perform_of_found hget]
          cases load <;> rfl
      | none =>
          rw [perform_of_missed hget]
          cases load <;> rfl

/-- **The cell holds what was stored last** in the turns before it. -/
theorem turn_of_history {c : TtlCell α} {calls : List (TtlCall α ε)}
    {before after : List (TtlTurn α ε)} {t : TtlTurn α ε}
    (h : c.history calls = before ++ t :: after) :
    t = t.before.perform t.call ∧
      t.before = { c with entry := (lastStored? before).or c.entry } := by
  induction before generalizing c calls with
  | nil =>
      cases calls with
      | nil => cases h
      | cons call rest =>
          obtain ⟨rfl, -⟩ := List.cons.inj h
          obtain ⟨hbefore, hcall⟩ := c.perform_before call
          rw [hbefore, hcall]
          exact ⟨rfl, rfl⟩
  | cons first before ih =>
      cases calls with
      | nil => cases h
      | cons call rest =>
          obtain ⟨rfl, hrest⟩ := List.cons.inj h
          obtain ⟨hturn, hbefore⟩ := ih hrest
          refine ⟨hturn, ?_⟩
          -- what the first turn stored counts where no later one stored anything
          rw [hbefore, perform_after, lastStored?_cons, Option.or_assoc]

end TtlCell

/-! ## §4. Sequences of turns. -/

namespace TtlTurn

/-- What a cell owes a call, given its time to live and the turns before. -/
structure Faithful (ttl : Duration) (before : List (TtlTurn α ε)) (t : TtlTurn α ε) : Prop where
  /-- A value given was loaded in the call, or was stored last and is fresh, and
  so is younger than the time to live. -/
  given : ∀ v, t.answer = some (.ok v) →
    (t.loads = 1 ∧ t.call = .refresh t.call.now (.ok v)) ∨
      ∃ e, lastStored? before = some e ∧ e.FreshAt ttl t.call.now ∧
        e.YoungerThan ttl t.call.now ∧ e.value = v
  /-- What was stored last is found while it is fresh, and nothing else is. -/
  found : ∀ now, t.call = .get now → ∀ r, t.answer = some r ↔
    ∃ e, lastStored? before = some e ∧ e.FreshAt ttl now ∧ r = .ok e.value
  /-- A refresh is answered by what was stored last, while it is fresh. -/
  served : ∀ now load e, t.call = .refresh now load → lastStored? before = some e →
    e.FreshAt ttl now → t.answer = some (.ok e.value) ∧ t.loads = 0 ∧ t.after = t.before
  /-- The loader is run once if nothing stored last is fresh, and else not at all. -/
  loads : ∀ now load, t.call = .refresh now load → t.loads ≤ 1 ∧
    (t.loads = 1 ↔ ¬∃ e, lastStored? before = some e ∧ e.FreshAt ttl now)
  /-- What the loader gives is passed on. -/
  passed : ∀ now load, t.call = .refresh now load → t.loads = 1 → t.answer = some load
  /-- A loader that fails leaves the cell as it was. -/
  failing : ∀ now e, t.call = .refresh now (.error e) → t.after = t.before

section Holds

variable {c : TtlCell α} {before : List (TtlTurn α ε)}

/-- A value that the cell gives was stored last and is fresh. -/
theorem stored_of_get (hentry : c.entry = lastStored? before) {now : Int} {v : α}
    (h : c.get now = some v) :
    ∃ e, lastStored? before = some e ∧ e.FreshAt c.ttl now ∧ e.value = v := by
  rw [← hentry]
  exact TtlCell.get_eq_some.mp h

/-- What was stored last is given while it is fresh. -/
theorem get_of_stored (hentry : c.entry = lastStored? before) {now : Int} {e : TtlEntry α}
    (he : lastStored? before = some e) (hfresh : e.FreshAt c.ttl now) :
    c.get now = some e.value :=
  TtlCell.get_eq_some.mpr ⟨e, hentry.trans he, hfresh, rfl⟩

/-- A look-up gives what was stored last, while it is fresh. -/
theorem faithful_get (hentry : c.entry = lastStored? before) (now : Int) :
    (c.perform (.get now : TtlCall α ε)).Faithful c.ttl before := by
  refine ⟨?_, ?_, nofun, nofun, nofun, nofun⟩
  · intro v hv
    obtain ⟨w, hw, hwv⟩ := Option.map_eq_some_iff.mp hv
    cases hwv
    obtain ⟨e, he, hfresh, hvalue⟩ := stored_of_get hentry hw
    exact Or.inr ⟨e, he, hfresh, hfresh.youngerThan, hvalue⟩
  · rintro _ ⟨⟩ r
    show (c.get now).map Except.ok = some r ↔ _
    rw [Option.map_eq_some_iff]
    constructor
    · rintro ⟨v, hv, rfl⟩
      obtain ⟨e, he, hfresh, rfl⟩ := stored_of_get hentry hv
      exact ⟨e, he, hfresh, rfl⟩
    · rintro ⟨e, he, hfresh, rfl⟩
      exact ⟨e.value, get_of_stored hentry he hfresh, rfl⟩

/-- A refresh that finds a value serves it, and its loader does not run. -/
theorem faithful_of_found (hentry : c.entry = lastStored? before) {now : Int} {v : α}
    (hget : c.get now = some v) (load : Except ε α) :
    (c.perform (.refresh now load)).Faithful c.ttl before := by
  rw [TtlCell.perform_of_found hget]
  obtain ⟨e, he, hfresh, hvalue⟩ := stored_of_get hentry hget
  refine ⟨?_, nofun, ?_, ?_, nofun, fun _ _ _ => rfl⟩
  · rintro _ ⟨⟩
    exact Or.inr ⟨e, he, hfresh, hfresh.youngerThan, hvalue⟩
  · rintro _ _ e' ⟨⟩ he' hfresh'
    rw [get_of_stored hentry he' hfresh'] at hget
    cases hget
    exact ⟨rfl, rfl, rfl⟩
  · rintro _ _ ⟨⟩
    exact ⟨Nat.zero_le 1, iff_of_false nofun fun hnone => hnone ⟨e, he, hfresh⟩⟩

/-- A refresh that finds none runs its loader once and passes on what it gives. -/
theorem faithful_of_missed (hentry : c.entry = lastStored? before) {now : Int}
    (hget : c.get now = none) (load : Except ε α) :
    (c.perform (.refresh now load)).Faithful c.ttl before := by
  rw [TtlCell.perform_of_missed hget]
  refine ⟨?_, nofun, ?_, ?_, ?_, ?_⟩
  · rintro v ⟨⟩
    exact Or.inl ⟨rfl, rfl⟩
  · rintro _ _ e ⟨⟩ he hfresh
    rw [get_of_stored hentry he hfresh] at hget
    cases hget
  · rintro _ _ ⟨⟩
    rw [← hentry]
    exact ⟨Nat.le_refl 1, iff_of_true rfl (TtlCell.get_eq_none.mp hget)⟩
  · rintro _ _ ⟨⟩ -
    rfl
  · rintro _ _ ⟨⟩
    rfl

/-- **Each turn is faithful** where the cell holds what was stored last. -/
theorem faithful_of_holds (hentry : c.entry = lastStored? before) (call : TtlCall α ε) :
    (c.perform call).Faithful c.ttl before := by
  cases call with
  | get now => exact faithful_get hentry now
  | set value now => exact ⟨nofun, nofun, nofun, nofun, nofun, nofun⟩
  | refresh now load =>
      cases hget : c.get now with
      | some v => exact faithful_of_found hentry hget load
      | none => exact faithful_of_missed hentry hget load

end Holds

/-- **Two loads are a time to live apart** where the times do not decrease: what
was stored last when the later one ran was not stored before the earlier one. -/
theorem loads_apart {ttl : Duration} {before between : List (TtlTurn α ε)} {a b : TtlTurn α ε}
    (hfaithful : b.Faithful ttl (before ++ a :: between)) (ha : a.Loaded) (hb : b.Loaded)
    (htimes : ((a :: between ++ [b]).map (·.call.now)).Pairwise (· ≤ ·)) :
    a.call.now + countedMillis ttl ≤ b.call.now := by
  -- something was stored since the earlier load, at a time between the two
  obtain ⟨e, he⟩ : ∃ e, lastStored? (a :: between) = some e := by
    rw [← Option.isSome_iff_exists, lastStored?_cons, Option.isSome_or, stored?_of_loaded ha,
      Bool.or_true]
  obtain ⟨t, ht, hstored⟩ := exists_of_lastStored? he
  have hlow : a.call.now ≤ e.ts := by
    rw [stored?_ts hstored]
    rw [List.map_append, List.map_cons, List.cons_append, List.pairwise_cons] at htimes
    rcases List.mem_cons.mp ht with rfl | ht
    · exact Int.le_refl _
    · exact htimes.1 _ (List.mem_append_left _ (List.mem_map_of_mem ht))
  have hhigh : e.ts ≤ b.call.now := by
    rw [stored?_ts hstored]
    rw [List.map_append, List.pairwise_append] at htimes
    exact htimes.2.2 _ (List.mem_map_of_mem ht) _ (List.mem_singleton_self _)
  -- the later load ran, so that was not fresh any more
  obtain ⟨now, value, hcall, hloads⟩ := hb
  obtain ⟨hle, hiff⟩ := hfaithful.loads now _ hcall
  have hnot := hiff.mp (by omega)
  have hlast : lastStored? (before ++ a :: between) = some e := by
    rw [lastStored?_append, he, Option.some_or]
  have hold : ¬e.FreshAt ttl now := fun hfresh => hnot ⟨e, hlast, hfresh⟩
  have hnow : b.call.now = now := by rw [hcall]; rfl
  unfold TtlEntry.FreshAt at hold
  omega

end TtlTurn

namespace TtlCell

open TtlTurn

/-- **A cell serves only what is fresh, and loads only what it needs.**  From a
new cell on, for every time to live and any calls at any times: each turn is
faithful to the turns before it, and two loads that succeed are at least the
counted time to live apart where the times from the one to the other do not
decrease, sets between them or not. -/
theorem served_fresh_and_rare (ttl : Duration) (calls : List (TtlCall α ε)) :
    (∀ before t after, (fresh ttl : TtlCell α).history calls = before ++ t :: after →
      t.Faithful ttl before) ∧
    ∀ before a between b after,
      (fresh ttl : TtlCell α).history calls = before ++ a :: (between ++ b :: after) →
      a.Loaded → b.Loaded →
      ((a :: between ++ [b]).map (·.call.now)).Pairwise (· ≤ ·) →
      a.call.now + countedMillis ttl ≤ b.call.now := by
  have faithful : ∀ before t after,
      (fresh ttl : TtlCell α).history calls = before ++ t :: after → t.Faithful ttl before := by
    intro before t after h
    obtain ⟨hturn, hbefore⟩ := turn_of_history h
    have hholds : t.before.entry = lastStored? before := by
      rw [hbefore]
      exact Option.or_none
    have httl : t.before.ttl = ttl := by rw [hbefore]; rfl
    rw [hturn, ← httl]
    exact faithful_of_holds hholds t.call
  refine ⟨faithful, ?_⟩
  intro before a between b after h ha hb htimes
  have hb' := faithful (before ++ a :: between) b after (by rw [h]; simp)
  exact loads_apart hb' ha hb htimes

/-- A value is served up to the last millisecond, and loaded again in the next
one; a clock that went back, as far as it can, finds it in the future. -/
def edgeCalls : List (TtlCall Nat String) :=
  [.refresh 1000 (.ok 1), .refresh 8999 (.ok 2), .refresh 9000 (.ok 3),
    .refresh minMillis (.error "offline")]

theorem edgeCalls_served :
    let turns := (fresh statusTtl : TtlCell Nat).history edgeCalls
    turns.map (·.loads) = [1, 0, 1, 1] ∧ turns.map (·.after.storedAt) =
        [some 1000, some 1000, some 9000, some 9000] ∧
      (∀ before t after, turns = before ++ t :: after → t.Faithful statusTtl before) ∧
      (1000 : Int) + countedMillis statusTtl ≤ 9000 := by
  intro turns
  obtain ⟨hfaithful, hapart⟩ := served_fresh_and_rare statusTtl edgeCalls
  refine ⟨by decide, by decide, hfaithful, ?_⟩
  exact hapart [] _ [_] _ [_] rfl ⟨_, _, rfl, by decide⟩ ⟨_, _, rfl, by decide⟩ (by decide)

/-- With a time to live of one and a half milliseconds, a value of one
millisecond is loaded again although it is younger; so is one of the greatest
age, with a time to live beyond that.  The two loads are closer together than
the time to live. -/
theorem finer_ttl_loads_early :
    let fine : Duration := ⟨1500000⟩
    let endless : Duration := .ofMillis 0xFFFFFFFFFFFFFFFF
    let calls (later : Int) : List (TtlCall Nat String) :=
      [.refresh 0 (.ok 1), .refresh later (.ok 2)]
    let first : TtlEntry Nat := ⟨0, 1⟩
    let turns (ttl : Duration) (later : Int) := (fresh ttl).history (calls later)
    first.YoungerThan fine 1 ∧
      (turns fine 1).map (fun t => (t.answer, t.loads)) = [(some (.ok 1), 1), (some (.ok 2), 1)] ∧
      first.YoungerThan endless maxMillis ∧
      (turns endless maxMillis).map (fun t => (t.answer, t.loads))
        = [(some (.ok 1), 1), (some (.ok 2), 1)] := by
  refine ⟨?_, rfl, ?_, rfl⟩ <;> exact ⟨by decide, by decide⟩

end TtlCell
end Dashboard
