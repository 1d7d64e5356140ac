/-
  Dashboard.Proofs.Poll.Tickets
  ─────────────────────────────
  **THE LAST REQUEST WINS.**

  A query keeps two numbers, the greatest one issued and the last one
  completed.  A ledger beside it keeps them all: every number that was begun or
  marked, and every number whose completion counted (`LedgerQuery`).  The two
  numbers of the query are the greatest of the ledger's (`Balanced`), whatever
  order completions arrive in, and that decides which of them count.

  Main results:
    Balanced.after    — what every call preserves
    last_request_wins — which completions count, in every run
-/
import Dashboard.Poll.Query
import Mathlib.Order.Bounds.Basic

namespace Dashboard

/-! ## §1. Completions that count. -/

namespace Query

variable {α : Type} {q : Query α} {n : Nat}

theorem accepts_eq_true_iff : q.accepts n = true ↔ n = q.issued ∧ q.completed < n := by
  simp [accepts]

theorem complete_of_accepts (h : q.accepts n) (outcome : Except FetchError α) (ts : Int) :
    (q.complete n outcome ts).2.issued = q.issued ∧ (q.complete n outcome ts).2.completed = n := by
  unfold complete
  rw [if_pos h]
  cases outcome <;> exact ⟨rfl, rfl⟩

theorem complete_eq_applied_iff (outcome : Except FetchError α) (ts : Int) :
    (q.complete n outcome ts).1 = .applied ↔ q.accepts n = true := by
  unfold complete
  split <;> simp_all

end Query

/-! ## §2. The ledger. -/

/-- What is asked of a query. -/
inductive QueryCall (α : Type) where
  | begin
  | mark (n : Nat)
  | complete (n : Nat) (outcome : Except FetchError α) (ts : Int)

/-- Numbers that are issued elsewhere are positive. -/
def QueryCall.IsPositive {α : Type} : QueryCall α → Prop
  | .mark n => 0 < n
  | _ => True

/-- A query with every number that was begun or marked, and every number whose
completion counted; both lists in the order of the calls. -/
structure LedgerQuery (α : Type) where
  query : Query α
  issued : List Nat
  applied : List Nat

namespace LedgerQuery

variable {α : Type}

/-- A fresh query: no number yet. -/
def start (created : Int) : LedgerQuery α := ⟨.fresh created, [], []⟩

/-- A query after a call; the ledger goes by what the query answers. -/
def after (s : LedgerQuery α) : QueryCall α → LedgerQuery α
  | .begin => ⟨s.query.begin.2, s.issued ++ [s.query.begin.1], s.applied⟩
  | .mark n => ⟨s.query.markIssued n, s.issued ++ [n], s.applied⟩
  | .complete n outcome ts =>
    match s.query.complete n outcome ts with
    | (.applied, query) => ⟨query, s.issued, s.applied ++ [n]⟩
    | (.superseded, query) => ⟨query, s.issued, s.applied⟩

/-- A query after some calls. -/
def run (s : LedgerQuery α) (calls : List (QueryCall α)) : LedgerQuery α := calls.foldl after s

/-- The number is the greatest one that was begun or marked. -/
def IsLast (s : LedgerQuery α) (n : Nat) : Prop := IsGreatest {k | k ∈ s.issued} n

/-- Zero for an empty ledger, else its greatest number. -/
def Tops (l : List Nat) (n : Nat) : Prop := l = [] ∧ n = 0 ∨ IsGreatest {k | k ∈ l} n

theorem Tops.le {l : List Nat} {n : Nat} (h : Tops l n) {k : Nat} (hk : k ∈ l) : k ≤ n := by
  rcases h with ⟨rfl, -⟩ | h
  · exact nomatch hk
  · exact h.2 hk

theorem Tops.append {l : List Nat} {n m : Nat} (h : Tops l n) : Tops (l ++ [m]) (max n m) := by
  have hset : {k | k ∈ l ++ [m]} = insert m {k | k ∈ l} := by
    ext k
    simp [or_comm]
  right
  rw [hset]
  rcases h with ⟨rfl, rfl⟩ | h
  · simp
  · rw [max_comm]
    exact h.insert m

/-! ## §3. What a run preserves. -/

/-- How the two numbers of a query stand to its ledger. -/
structure Balanced (s : LedgerQuery α) : Prop where
  issued : Tops s.issued s.query.issued
  completed : Tops s.applied s.query.completed
  ordered : s.query.completed ≤ s.query.issued
  positive : ∀ k ∈ s.issued, 0 < k
  rising : s.applied.Pairwise (· < ·)

theorem balanced_start (created : Int) : (start created : LedgerQuery α).Balanced where
  issued := .inl ⟨rfl, rfl⟩
  completed := .inl ⟨rfl, rfl⟩
  ordered := Nat.le_refl 0
  positive := nofun
  rising := .nil

variable {s : LedgerQuery α}

theorem issued_subset_after (s : LedgerQuery α) (c : QueryCall α) :
    s.issued ⊆ (s.after c).issued := by
  cases c with
  | begin => exact List.subset_append_left _ _
  | mark n => exact List.subset_append_left _ _
  | complete n outcome ts =>
    unfold after
    dsimp only
    split <;> exact List.Subset.refl _

theorem issued_subset_run (s : LedgerQuery α) (calls : List (QueryCall α)) :
    s.issued ⊆ (s.run calls).issued := by
  induction calls generalizing s with
  | nil => exact List.Subset.refl _
  | cons c rest ih => exact List.Subset.trans (s.issued_subset_after c) (ih (s.after c))

namespace Balanced

/-- Numbers short of the last word leave room for one more. -/
theorem begin_eq (h : s.Balanced) (hlimit : ∀ k ∈ s.issued, k + 1 < Query.numberLimit) :
    s.query.begin = (s.query.issued + 1, { s.query with issued := s.query.issued + 1 }) := by
  have hroom : s.query.issued + 1 < Query.numberLimit := by
    rcases h.issued with ⟨-, hzero⟩ | hgreatest
    · rw [hzero]
      decide
    · exact hlimit _ hgreatest.1
  unfold Query.begin
  rw [Nat.mod_eq_of_lt hroom]

/-- Another number is issued. -/
theorem issue (h : s.Balanced) {n : Nat} (hn : 0 < n) :
    Balanced ⟨s.query.markIssued n, s.issued ++ [n], s.applied⟩ where
  issued := h.issued.append
  completed := h.completed
  ordered := Nat.le_trans h.ordered (Nat.le_max_left _ _)
  positive := by
    intro k hk
    rcases List.mem_append.mp hk with hk | hk
    · exact h.positive k hk
    · rwa [List.mem_singleton.mp hk]
  rising := h.rising

/-- A completion that counts is above all that counted before. -/
theorem apply (h : s.Balanced) {n : Nat} (ha : s.query.accepts n = true)
    (outcome : Except FetchError α) (ts : Int) :
    Balanced ⟨(s.query.complete n outcome ts).2, s.issued, s.applied ++ [n]⟩ := by
  obtain ⟨hissued, hcompleted⟩ := Query.complete_of_accepts ha outcome ts
  obtain ⟨rfl, hnew⟩ := Query.accepts_eq_true_iff.mp ha
  have htop := h.completed.append (m := s.query.issued)
  rw [Nat.max_eq_right hnew.le] at htop
  exact {
    issued := by
      rw [hissued]
      exact h.issued
    completed := by
      rw [hcompleted]
      exact htop
    ordered := by rw [hissued, hcompleted]
    positive := h.positive
    rising := by
      refine List.pairwise_append.mpr ⟨h.rising, List.pairwise_singleton _ _, ?_⟩
      intro k hk m hm
      rw [List.mem_singleton.mp hm]
      exact Nat.lt_of_le_of_lt (h.completed.le hk) hnew }

theorem after (h : s.Balanced) (c : QueryCall α) (hpositive : c.IsPositive)
    (hlimit : ∀ k ∈ s.issued, k + 1 < Query.numberLimit) : (s.after c).Balanced := by
  cases c with
  | begin =>
    have hissued : s.query.markIssued (s.query.issued + 1) =
        { s.query with issued := s.query.issued + 1 } := by
      simp [Query.markIssued]
    have hnext := h.issue (Nat.succ_pos s.query.issued)
    rw [hissued] at hnext
    unfold LedgerQuery.after
    dsimp only
    rw [h.begin_eq hlimit]
    exact hnext
  | mark n => exact h.issue hpositive
  | complete n outcome ts =>
    unfold LedgerQuery.after
    dsimp only
    split
    next q hq =>
      have ha : s.query.accepts n = true :=
        (Query.complete_eq_applied_iff outcome ts).mp (by rw [hq])
      have hnext := h.apply ha outcome ts
      rw [hq] at hnext
      exact hnext
    next q hq =>
      have hsame := s.query.complete_superseded n outcome ts (by rw [hq])
      rw [hq] at hsame
      obtain rfl : q = s.query := hsame
      exact h

theorem run (h : s.Balanced) (calls : List (QueryCall α))
    (hpositive : ∀ c ∈ calls, c.IsPositive)
    (hlimit : ∀ k ∈ (s.run calls).issued, k + 1 < Query.numberLimit) : (s.run calls).Balanced := by
  induction calls generalizing s with
  | nil => exact h
  | cons c rest ih =>
    have hsofar : ∀ k ∈ s.issued, k + 1 < Query.numberLimit :=
      fun k hk => hlimit k (s.issued_subset_run (c :: rest) hk)
    have hnext := h.after c (hpositive c List.mem_cons_self) hsofar
    exact ih hnext (fun c' hc' => hpositive c' (List.mem_cons_of_mem _ hc')) hlimit

/-- The last number is the one that the query keeps. -/
theorem isLast_iff (h : s.Balanced) {n : Nat} : s.IsLast n ↔ n = s.query.issued ∧ 0 < n := by
  constructor
  · intro hlast
    refine ⟨?_, h.positive n hlast.1⟩
    rcases h.issued with ⟨hnone, -⟩ | hgreatest
    · have hn : n ∈ s.issued := hlast.1
      rw [hnone] at hn
      exact nomatch hn
    · exact hlast.unique hgreatest
  · rintro ⟨rfl, hpos⟩
    rcases h.issued with ⟨-, hzero⟩ | hgreatest
    · omega
    · exact hgreatest

/-- The last number has not counted as long as its completion would. -/
theorem notMem_applied_iff (h : s.Balanced) {n : Nat} (hn : s.IsLast n) :
    n ∉ s.applied ↔ s.query.completed < n := by
  obtain ⟨rfl, hpos⟩ := h.isLast_iff.mp hn
  constructor
  · intro hnew
    refine Nat.lt_of_le_of_ne h.ordered fun heq => hnew ?_
    rcases h.completed with ⟨-, hzero⟩ | hgreatest
    · omega
    · exact heq ▸ hgreatest.1
  · intro hlt hmem
    exact Nat.not_lt.mpr (h.completed.le hmem) hlt

theorem accepts_iff (h : s.Balanced) {n : Nat} :
    s.query.accepts n = true ↔ s.IsLast n ∧ n ∉ s.applied := by
  rw [Query.accepts_eq_true_iff]
  constructor
  · rintro ⟨heq, hlt⟩
    have hlast : s.IsLast n := h.isLast_iff.mpr ⟨heq, by omega⟩
    exact ⟨hlast, (h.notMem_applied_iff hlast).mpr hlt⟩
  · rintro ⟨hlast, hnew⟩
    exact ⟨(h.isLast_iff.mp hlast).1, (h.notMem_applied_iff hlast).mp hnew⟩

theorem isInFlight_iff (h : s.Balanced) :
    s.query.isInFlight = true ↔ ∃ n, s.IsLast n ∧ n ∉ s.applied := by
  have hopen : s.query.isInFlight = true ↔ s.query.accepts s.query.issued = true := by
    simp [Query.isInFlight, Query.accepts_eq_true_iff]
  rw [hopen, h.accepts_iff]
  constructor
  · exact fun hlast => ⟨_, hlast⟩
  · rintro ⟨n, hlast, hnew⟩
    obtain ⟨rfl, -⟩ := h.isLast_iff.mp hlast
    exact ⟨hlast, hnew⟩

end Balanced

/-- **The last request wins.**  After any calls, in which numbers stay short of
the last word: a completion counts exactly if its number is the greatest one
begun or marked so far and has not counted yet, and one that does not count
changes nothing.  The numbers that counted rise, the completed number does not
exceed the issued one, the next number is greater than all before, and a
request is in flight exactly if the greatest number has not counted. -/
theorem last_request_wins (created : Int) (calls : List (QueryCall α))
    (hpositive : ∀ c ∈ calls, c.IsPositive)
    (hlimit : ∀ k ∈ ((start created).run calls).issued, k + 1 < Query.numberLimit) :
    let s := (start created).run calls
    (∀ n outcome ts, (s.query.complete n outcome ts).1 = .applied ↔
      s.IsLast n ∧ n ∉ s.applied) ∧
    (∀ n outcome ts, (s.query.complete n outcome ts).1 = .superseded →
      (s.query.complete n outcome ts).2 = s.query) ∧
    s.applied.Pairwise (· < ·) ∧
    s.query.completed ≤ s.query.issued ∧
    (∀ k ∈ s.issued, k < s.query.begin.1) ∧
    (s.query.isInFlight = true ↔ ∃ n, s.IsLast n ∧ n ∉ s.applied) := by
  intro s
  have h : s.Balanced := (balanced_start created).run calls hpositive hlimit
  refine ⟨?_, s.query.complete_superseded, h.rising, h.ordered, ?_, h.isInFlight_iff⟩
  · intro n outcome ts
    rw [Query.complete_eq_applied_iff, h.accepts_iff]
  · intro k hk
    rw [h.begin_eq hlimit]
    exact Nat.lt_succ_of_le (h.issued.le hk)

/-- A request that is answered late, one that a worker has issued, and the
answer to it, twice. -/
def crossedCalls : List (QueryCall Nat) :=
  [.begin, .mark 4, .complete 1 (.ok 10) 5, .complete 4 (.ok 40) 6, .complete 4 (.ok 41) 7, .begin]

/-- The worker's request has counted, once, and the next one is in flight. -/
theorem last_request_wins_crossed :
    let s := (start 0).run crossedCalls
    s.issued = [1, 4, 5] ∧ s.applied = [4] ∧ s.query.source? = some 40 ∧
      (s.query.complete 5 (.ok 50) 8).1 = .applied ∧ s.query.isInFlight = true := by
  obtain ⟨hcounts, -, -, -, -, hopen⟩ := last_request_wins 0 crossedCalls
    (by simp [crossedCalls, QueryCall.IsPositive]) (by decide)
  have hbelow : ∀ k ∈ ((start 0).run crossedCalls).issued, k ≤ 5 := by decide
  have hlast : ((start 0).run crossedCalls).IsLast 5 ∧ 5 ∉ ((start 0).run crossedCalls).applied :=
    ⟨⟨by decide, fun k hk => hbelow k hk⟩, by decide⟩
  exact ⟨rfl, rfl, rfl, (hcounts 5 (.ok 50) 8).mpr hlast, hopen.mpr ⟨5, hlast⟩⟩

end LedgerQuery
end Dashboard
