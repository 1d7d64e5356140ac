/-
  Dashboard.Proofs.Document.Places
  ────────────────────────────────
  Places in JSON data, and changes behind a place.

  A list of steps points into a value: keys into objects, indices into arrays.
  The last step may lead to something that is missing, such as a member that a
  check asks for; all steps before it lead to objects and arrays that are
  there.  Keys of letters can be read back from the text of a path, so that the
  text names one place.

  `AlteredAfter` exchanges what a walk to the place has not seen yet: the items
  behind the ones that the steps lead through.

  Main results:
    Path.render_inj           — a text names one path of plain steps
    Points.cons               — one step in front
    AlteredAfter.eq_of_keys   — where no step is an index, nothing is exchanged
    AlteredAfter.of_member,
    AlteredAfter.of_item      — what is exchanged below the first step
-/
import Dashboard.Document.Path
import Dashboard.Proofs.Json.Lexing
import Dashboard.Proofs.Keyed

namespace Dashboard

open Json

/-! ## §1. Steps and their texts. -/

/-- The text of the step can be told from what follows it: a key has letters only. -/
def Segment.Plain : Segment → Prop
  | .key k => k.toList.all Char.isAlpha = true
  | .index _ => True

instance (k : String) : Decidable (Segment.key k).Plain :=
  inferInstanceAs (Decidable (k.toList.all Char.isAlpha = true))

/-- No step is an index. -/
def KeysOnly (p : List Segment) : Prop := ∀ s ∈ p, ∃ k, s = .key k

theorem KeysOnly.nil : KeysOnly [] := nofun

theorem KeysOnly.cons {p : List Segment} (k : String) (h : KeysOnly p) :
    KeysOnly (.key k :: p) := by
  intro s hs
  rcases List.mem_cons.mp hs with rfl | hs
  · exact ⟨k, rfl⟩
  · exact h s hs

/-- An index is no key, wherever it stands. -/
theorem KeysOnly.not_index {p q r : List Segment} {i : Nat} (h : KeysOnly p)
    (hp : p = q ++ .index i :: r) : False := by
  have hmem : Segment.index i ∈ p := by
    rw [hp]
    exact List.mem_append_right q List.mem_cons_self
  obtain ⟨k, hk⟩ := h _ hmem
  cases hk

theorem Segment.toList_render_key (k : String) :
    (Segment.key k).render.toList = '.' :: k.toList := by
  simp only [render, String.toList_append]
  rfl

theorem Segment.toList_render_index (i : Nat) :
    (Segment.index i).render.toList = '[' :: (Nat.toDigits 10 i ++ [']']) := by
  have hdigits : (toString i).toList = Nat.toDigits 10 i := by simp
  simp only [render, String.toList_append, List.append_assoc, hdigits]
  rfl

/-- Two texts that go on with a character of another class end their first parts
at the same place. -/
theorem append_inj_of_class {f : Char → Bool} {as bs as' bs' : List Char}
    (has : ∀ c ∈ as, f c = true) (hbs : ∀ c ∈ bs.head?, f c = false)
    (has' : ∀ c ∈ as', f c = true) (hbs' : ∀ c ∈ bs'.head?, f c = false)
    (h : as ++ bs = as' ++ bs') : as = as' ∧ bs = bs' := by
  have cut : ∀ {as bs : List Char}, (∀ c ∈ as, f c = true) → (∀ c ∈ bs.head?, f c = false) →
      (as ++ bs).takeWhile f = as := by
    intro as bs has hbs
    rw [List.takeWhile_append_of_pos has]
    cases bs with
    | nil => exact List.append_nil as
    | cons c rest => rw [List.takeWhile_cons_of_neg (by simp [hbs c rfl]), List.append_nil]
  have hsame : as = as' := by rw [← cut has hbs, h, cut has' hbs']
  subst hsame
  exact ⟨rfl, List.append_cancel_left h⟩

namespace Path

/-- The text of a path is a dollar sign and the texts of its steps. -/
theorem render_eq (p : Path) :
    p.render = "$" ++ String.join (p.segments.map Segment.render) := by
  have step : ∀ (steps : List Segment) (start : String),
      steps.foldl (fun s g => s ++ g.render) start
        = start ++ String.join (steps.map Segment.render) := by
    intro steps
    induction steps with
    | nil => simp [String.join]
    | cons s rest ih =>
        intro start
        rw [List.foldl_cons, ih, List.map_cons, String.join_cons, String.append_assoc]
  exact step p.segments "$"

theorem toList_render (p : Path) :
    p.render.toList = '$' :: p.segments.flatMap fun s => s.render.toList := by
  rw [render_eq, String.toList_append, String.toList_join, List.flatMap_map]
  rfl

end Path

/-- Each step begins with a mark. -/
theorem head_renders (p : List Segment) :
    ∀ c ∈ (p.flatMap fun s => s.render.toList).head?, c = '.' ∨ c = '[' := by
  intro c hc
  cases p with
  | nil => cases hc
  | cons s rest =>
      cases s with
      | key k =>
          rw [List.flatMap_cons, Segment.toList_render_key] at hc
          exact Or.inl (Option.some.inj hc).symm
      | index i =>
          rw [List.flatMap_cons, Segment.toList_render_index] at hc
          exact Or.inr (Option.some.inj hc).symm

/-- The first step can be read off a text. -/
theorem Segment.render_append_inj {s t : Segment} {as bs : List Char} (hs : s.Plain) (ht : t.Plain)
    (has : ∀ c ∈ as.head?, c = '.' ∨ c = '[') (hbs : ∀ c ∈ bs.head?, c = '.' ∨ c = '[')
    (h : s.render.toList ++ as = t.render.toList ++ bs) : s = t ∧ as = bs := by
  have ends : ∀ {cs : List Char}, (∀ c ∈ cs.head?, c = '.' ∨ c = '[') →
      ∀ c ∈ cs.head?, c.isAlpha = false := by
    intro cs hcs c hc
    rcases hcs c hc with rfl | rfl <;> rfl
  cases s with
  | key k =>
      cases t with
      | key l =>
          rw [toList_render_key, toList_render_key] at h
          obtain ⟨hkey, hrest⟩ :=
            append_inj_of_class (List.all_eq_true.mp hs) (ends has) (List.all_eq_true.mp ht)
              (ends hbs) (List.cons.inj h).2
          exact ⟨congrArg _ (String.toList_inj.mp hkey), hrest⟩
      | index j =>
          rw [toList_render_key, toList_render_index] at h
          exact absurd (List.cons.inj h).1 (by decide)
  | index i =>
      cases t with
      | key l =>
          rw [toList_render_index, toList_render_key] at h
          exact absurd (List.cons.inj h).1 (by decide)
      | index j =>
          rw [toList_render_index, toList_render_index, List.cons_append, List.cons_append,
            List.append_assoc, List.append_assoc] at h
          -- the digits end at the bracket
          have bracket : ∀ cs : List Char, ∀ c ∈ ([']'] ++ cs).head?, c.isDigit = false := by
            intro cs c hc
            cases hc
            rfl
          obtain ⟨hdigits, hrest⟩ := append_inj_of_class (isDigit_toDigits i) (bracket as)
            (isDigit_toDigits j) (bracket bs) (List.cons.inj h).2
          have hindex := congrArg digitsValue hdigits
          rw [digitsValue_toDigits, digitsValue_toDigits] at hindex
          exact ⟨congrArg _ hindex, (List.cons.inj hrest).2⟩

theorem renders_inj {p q : List Segment} (hp : ∀ s ∈ p, s.Plain) (hq : ∀ s ∈ q, s.Plain)
    (h : (p.flatMap fun s => s.render.toList) = q.flatMap fun s => s.render.toList) : p = q := by
  have some_text : ∀ (s : Segment) (cs : List Char), [] ≠ s.render.toList ++ cs := by
    intro s cs
    cases s with
    | key k => rw [Segment.toList_render_key]; exact nofun
    | index i => rw [Segment.toList_render_index]; exact nofun
  induction p generalizing q with
  | nil =>
      cases q with
      | nil => rfl
      | cons t q => exact absurd h (some_text t _)
  | cons s p ih =>
      cases q with
      | nil => exact absurd h.symm (some_text s _)
      | cons t q =>
          rw [List.flatMap_cons, List.flatMap_cons] at h
          obtain ⟨rfl, hrest⟩ := Segment.render_append_inj (hp s List.mem_cons_self)
            (hq t List.mem_cons_self) (head_renders p) (head_renders q) h
          rw [ih (fun s hs => hp s (List.mem_cons_of_mem _ hs))
            (fun s hs => hq s (List.mem_cons_of_mem _ hs)) hrest]

/-- **Paths of plain steps with the same text are the same.** -/
theorem Path.render_inj {p q : Path} (hp : ∀ s ∈ p.segments, s.Plain)
    (hq : ∀ s ∈ q.segments, s.Plain) (h : p.render = q.render) : p = q := by
  have htexts := congrArg String.toList h
  rw [toList_render, toList_render] at htexts
  exact congrArg Path.mk (renders_inj hp hq (List.cons.inj htexts).2)

namespace Json.Value

/-- The value one step down. -/
def step? (v : Value) : Segment → Option Value
  | .key k => v.get? k
  | .index i => v.items?.bind fun items => items[i]?

/-- The value that some steps lead to. -/
def at? (v : Value) : List Segment → Option Value
  | [] => some v
  | s :: p => (v.step? s).bind fun u => u.at? p

theorem at?_append (v : Value) (p q : List Segment) :
    v.at? (p ++ q) = (v.at? p).bind fun u => u.at? q := by
  induction p generalizing v with
  | nil => rfl
  | cons s p ih =>
      rw [List.cons_append, at?, at?]
      cases v.step? s with
      | none => rfl
      | some u => exact ih u

theorem at?_single (v : Value) (s : Segment) : v.at? [s] = v.step? s := by
  rw [at?]
  cases v.step? s <;> rfl

/-- An item of a list under a key. -/
theorem at?_item {k : String} {m : Members} {xs : List Value} {i : Nat} {x : Value}
    (found : m.get? k = some (.list xs)) (hx : xs[i]? = some x) :
    (Value.object m).at? [.key k, .index i] = some x := by
  have hlist : (Value.object m).step? (.key k) = some (.list xs) := found
  have hitem : (Value.list xs).step? (.index i) = some x := hx
  rw [at?, hlist, Option.bind_some, at?, hitem]
  rfl

/-- The value is an object or array, whichever the step goes into. -/
def Admits (v : Value) : Segment → Prop
  | .key _ => v.members?.isSome = true
  | .index _ => v.items?.isSome = true

/-- Plain steps, each into an object or array that the steps before it lead to. -/
structure Points (v : Value) (p : List Segment) : Prop where
  plain : ∀ s ∈ p, s.Plain
  reached : ∀ q s r, p = q ++ s :: r → ∃ u, v.at? q = some u ∧ u.Admits s

theorem admits_of_step? {v u : Value} {s : Segment} (h : v.step? s = some u) : v.Admits s := by
  cases s with
  | key k =>
      obtain ⟨m, hm, -⟩ := Option.bind_eq_some_iff.mp h
      exact Option.isSome_iff_exists.mpr ⟨m, hm⟩
  | index i =>
      obtain ⟨items, hitems, -⟩ := Option.bind_eq_some_iff.mp h
      exact Option.isSome_iff_exists.mpr ⟨items, hitems⟩

theorem points_nil (v : Value) : v.Points [] := by
  refine ⟨nofun, fun q s r h => ?_⟩
  exact absurd h.symm (List.append_ne_nil_of_right_ne_nil q (List.cons_ne_nil s r))

/-- The last step may lead to nothing. -/
theorem points_single {v : Value} {s : Segment} (hs : s.Plain) (h : v.Admits s) : v.Points [s] := by
  refine ⟨List.forall_mem_singleton.mpr hs, fun q s' r hq => ?_⟩
  cases q with
  | nil =>
      cases hq
      exact ⟨v, rfl, h⟩
  | cons s'' q =>
      exact absurd (List.cons.inj hq).2.symm
        (List.append_ne_nil_of_right_ne_nil q (List.cons_ne_nil s' r))

theorem Points.cons {v u : Value} {s : Segment} {p : List Segment} (hs : s.Plain)
    (hstep : v.step? s = some u) (hu : u.Points p) : v.Points (s :: p) := by
  refine ⟨List.forall_mem_cons.mpr ⟨hs, hu.plain⟩, fun q s' r hq => ?_⟩
  cases q with
  | nil =>
      cases hq
      exact ⟨v, rfl, admits_of_step? hstep⟩
  | cons s'' q =>
      obtain ⟨rfl, hp⟩ := List.cons.inj hq
      obtain ⟨w, hw, hadmits⟩ := hu.reached q s' r hp
      exact ⟨w, by rw [at?, hstep]; exact hw, hadmits⟩

/-! ## §2. Changes behind a place. -/

/-- The second value is the first one with other items, any number of them,
behind those that the steps lead through. -/
inductive AlteredAfter : List Segment → Value → Value → Prop
  | same (p : List Segment) (v : Value) : AlteredAfter p v v
  | member {k : String} {p : List Segment} {m : Members} {u u' : Value}
    (found : m.get? k = some u) (inside : AlteredAfter p u u') :
    AlteredAfter (.key k :: p) (.object m) (.object (m.modify k fun _ => u'))
  | item {p : List Segment} {x x' : Value} (before after after' : List Value)
    (inside : AlteredAfter p x x') :
    AlteredAfter (.index before.length :: p) (.list (before ++ x :: after))
      (.list (before ++ x' :: after'))

/-- What stands under a key already is put in its place. -/
theorem modify_found {k : String} {m : Members} {u : Value} (found : m.get? k = some u) :
    (m.modify k fun _ => u) = m := by
  refine Keyed.modify_of_fixed fun w hw => ?_
  exact Option.some.inj (found.symm.trans hw)

/-- Keys lead through no list. -/
theorem AlteredAfter.eq_of_keys {p : List Segment} {v v' : Value} (h : AlteredAfter p v v')
    (hp : KeysOnly p) : v' = v := by
  induction h with
  | same p v => rfl
  | member found inside ih =>
      rw [ih fun s hs => hp s (List.mem_cons_of_mem _ hs), modify_found found]
  | item before after after' inside ih =>
      obtain ⟨k, hk⟩ := hp _ List.mem_cons_self
      cases hk

/-- A change below a key is a change of the member. -/
theorem AlteredAfter.of_member {k : String} {p : List Segment} {m : Members} {u v' : Value}
    (h : AlteredAfter (.key k :: p) (.object m) v') (found : m.get? k = some u) :
    ∃ u', AlteredAfter p u u' ∧ v' = .object (m.modify k fun _ => u') := by
  cases h with
  | same => exact ⟨u, .same p u, by rw [modify_found found]⟩
  | member found' inside =>
      cases found.symm.trans found'
      exact ⟨_, inside, rfl⟩

/-- A change below an index is a change of the item and of those behind it. -/
theorem AlteredAfter.of_item {p : List Segment} {before after : List Value} {x v' : Value}
    (h : AlteredAfter (.index before.length :: p) (.list (before ++ x :: after)) v') :
    ∃ x' after', AlteredAfter p x x' ∧ v' = .list (before ++ x' :: after') := by
  generalize hsteps : Segment.index before.length :: p = steps at h
  generalize hlist : Value.list (before ++ x :: after) = v at h
  cases h with
  | same => exact ⟨x, after, .same p x, hlist.symm⟩
  | member => cases hlist
  | item before' after₁ after₂ inside =>
      -- the index counts the items before, so both splits are the same one
      obtain ⟨hindex, rfl⟩ := List.cons.inj hsteps
      have hsplit := Value.list.inj hlist
      obtain ⟨rfl, hrest⟩ := List.append_inj hsplit (Segment.index.inj hindex)
      obtain ⟨rfl, -⟩ := List.cons.inj hrest
      exact ⟨_, after₂, inside, rfl⟩

/-- A change below an item of a list under a key. -/
theorem AlteredAfter.of_member_item {k : String} {p : List Segment} {m : Members}
    {before after : List Value} {x v' : Value}
    (h : AlteredAfter (.key k :: .index before.length :: p) (.object m) v')
    (found : m.get? k = some (.list (before ++ x :: after))) :
    ∃ (m' : Members) (x' : Value) (after' : List Value), v' = .object m' ∧
      m'.get? k = some (.list (before ++ x' :: after')) ∧
      (∀ l, l ≠ k → m'.get? l = m.get? l) ∧ AlteredAfter p x x' := by
  obtain ⟨u', hu', rfl⟩ := h.of_member found
  obtain ⟨x', after', hx', rfl⟩ := hu'.of_item
  refine ⟨_, x', after', rfl, ?_, fun l hl => ?_, hx'⟩
  · rw [Keyed.get?_modify, if_pos rfl, found]
    rfl
  · rw [Keyed.get?_modify, if_neg (Ne.symm hl)]

end Json.Value

end Dashboard
