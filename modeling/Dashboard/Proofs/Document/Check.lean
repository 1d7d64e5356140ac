/-
  Dashboard.Proofs.Document.Check
  ───────────────────────────────
  A small logic of checks.

  The properties of checks that are used throughout, each with a rule for one
  check after another:

      Ensures   — whatever is accepted has a property
      Within    — what the first check accepts, both accept without a report
      Alike     — two checks refuse alike or accept related values
      Placed    — whatever is refused is a fault at a place
      Tolerates — what the first check accepts, the second one accepts with a
                  related value
      Silently  — what the first check accepts without a report, the second
                  one accepts so too

  The validator is a tree of such sequences, so a statement about a whole
  document is assembled from statements about its fields along these rules.

  Main results:
    done_bind                     — an accepted value is handed on
    Ensures.bind, Within.bind,
    Alike.bind, Placed.bind,
    Tolerates.bind,
    Silently.bind                 — the rules for one check after another
-/
import Dashboard.Document.Validation

namespace Dashboard.Check

variable {α β γ δ : Type}

/-! ## §1. Sequences. -/

/-- After an accepted value comes the next check, its reports behind the first ones. -/
theorem bind_of_eq_ok {c : Check α} {a : α} {ws : List Warning} (hc : c = .ok (a, ws))
    (f : α → Check β) : (c >>= f) = (f a).map fun r => (r.1, ws ++ r.2) := by
  subst hc
  show Check.andThen (.ok (a, ws)) f = _
  unfold andThen
  dsimp only
  cases f a <;> rfl

/-- A value that is taken as it is adds no report. -/
@[simp] theorem done_bind (a : α) (f : α → Check β) : (Check.done a >>= f) = f a := by
  rw [bind_of_eq_ok (rfl : Check.done a = .ok (a, []))]
  cases f a <;> rfl

/-- After a refusal nothing is checked. -/
@[simp] theorem fail_bind (path : Path) (fault : Fault) (f : α → Check β) :
    ((Check.fail path fault : Check α) >>= f) = Check.fail path fault := rfl

/-- A sequence accepts when both of its checks do. -/
theorem bind_eq_ok {c : Check α} {f : α → Check β} {b : β} {ws : List Warning}
    (h : (c >>= f) = .ok (b, ws)) :
    ∃ a ws₁ ws₂, c = .ok (a, ws₁) ∧ f a = .ok (b, ws₂) ∧ ws = ws₁ ++ ws₂ := by
  cases c with
  | error e => cases h
  | ok r =>
      obtain ⟨a, ws₁⟩ := r
      rw [bind_of_eq_ok (rfl : _ = Except.ok (a, ws₁))] at h
      cases hf : f a with
      | error e => rw [hf] at h; cases h
      | ok r =>
          obtain ⟨b', ws₂⟩ := r
          rw [hf] at h
          cases h
          exact ⟨a, ws₁, ws₂, rfl, hf, rfl⟩

/-- A sequence of checks that accept accepts. -/
theorem bind_of_ok {c : Check α} {f : α → Check β} {a : α} {b : β} {ws₁ ws₂ : List Warning}
    (hc : c = .ok (a, ws₁)) (hf : f a = .ok (b, ws₂)) :
    (c >>= f) = .ok (b, ws₁ ++ ws₂) := by
  rw [bind_of_eq_ok hc, hf]
  rfl

/-! ## §2. What is accepted. -/

/-- Whatever the check accepts has the property. -/
def Ensures (c : Check α) (P : α → Prop) : Prop := ∀ a ws, c = .ok (a, ws) → P a

/-- The later check may rely on what the earlier one ensures. -/
theorem Ensures.bind {c : Check α} {f : α → Check β} {P : α → Prop} {Q : β → Prop}
    (hc : c.Ensures P) (hf : ∀ a, P a → (f a).Ensures Q) : (c >>= f).Ensures Q := by
  intro b ws h
  obtain ⟨a, ws₁, ws₂, ha, hb, -⟩ := bind_eq_ok h
  exact hf a (hc a ws₁ ha) b ws₂ hb

theorem Ensures.done {a : α} {P : α → Prop} (h : P a) : (Check.done a).Ensures P := by
  intro b ws hb
  cases hb
  exact h

theorem Ensures.repaired {a : α} {P : α → Prop} {path : Path} {repair : Repair} (h : P a) :
    (Check.repaired path repair a).Ensures P := by
  intro b ws hb
  cases hb
  exact h

/-- A refusal ensures anything. -/
theorem Ensures.fail {P : α → Prop} (path : Path) (fault : Fault) :
    (Check.fail path fault : Check α).Ensures P := by
  intro b ws hb
  cases hb

theorem Ensures.error {P : α → Prop} (e : ValidationError) :
    Ensures (.error e : Check α) P := by
  intro b ws hb
  cases hb

/-- Each branch ensures it under its own condition. -/
theorem Ensures.ite {c d : Check α} {P : α → Prop} {p : Prop} [Decidable p]
    (hc : p → c.Ensures P) (hd : ¬p → d.Ensures P) : (if p then c else d).Ensures P := by
  split
  next h => exact hc h
  next h => exact hd h

/-- A check ensures what follows from what it ensures. -/
theorem Ensures.mono {c : Check α} {P Q : α → Prop} (h : c.Ensures P) (hPQ : ∀ a, P a → Q a) :
    c.Ensures Q := fun a ws hc => hPQ a (h a ws hc)

/-- A mended value only matters in safe mode. -/
theorem Ensures.mend {o : ValidationOptions} {path : Path} {fault : Fault} {repair : Repair}
    {a : α} {P : α → Prop} (h : o.isSafe = true → P a) : (o.mend path fault repair a).Ensures P := by
  unfold ValidationOptions.mend
  split
  next hs => exact Ensures.repaired (h hs)
  next => exact Ensures.fail path fault

/-- An assumed value only matters in safe mode. -/
theorem Ensures.assume {o : ValidationOptions} {path : Path} {fault : Fault} {a : α}
    {P : α → Prop} (h : o.isSafe = true → P a) : (o.assume path fault a).Ensures P := by
  unfold ValidationOptions.assume
  split
  next hs => exact Ensures.done (h hs)
  next => exact Ensures.fail path fault

/-! ## §3. One check within another. -/

/-- Whatever the first check accepts, it accepts without a report, and so
does the second. -/
def Within (c d : Check α) : Prop := ∀ a ws, c = .ok (a, ws) → ws = [] ∧ d = .ok (a, [])

/-- Neither part reports anything, so the whole does not either. -/
theorem Within.bind {c d : Check α} {f g : α → Check β} (hc : c.Within d)
    (hf : ∀ a, (f a).Within (g a)) : (c >>= f).Within (d >>= g) := by
  intro b ws h
  obtain ⟨a, ws₁, ws₂, ha, hb, rfl⟩ := bind_eq_ok h
  -- neither half reports anything, so the whole does not
  obtain ⟨rfl, hd⟩ := hc a ws₁ ha
  obtain ⟨rfl, hg⟩ := hf a b ws₂ hb
  exact ⟨rfl, bind_of_ok hd hg⟩

theorem Within.done (a : α) : (Check.done a).Within (Check.done a) := by
  intro b ws h
  cases h
  exact ⟨rfl, rfl⟩

/-- Both sides branch on one condition. -/
theorem Within.ite {c c' d d' : Check α} {p : Prop} [Decidable p]
    (hc : p → c.Within d) (hd : ¬p → c'.Within d') :
    (if p then c else c').Within (if p then d else d') := by
  split
  next h => exact hc h
  next h => exact hd h

/-- A refusal is within any check. -/
theorem Within.fail (path : Path) (fault : Fault) (d : Check α) :
    (Check.fail path fault : Check α).Within d := by
  intro b ws h
  cases h

theorem Within.error (e : ValidationError) (d : Check α) : Within (.error e : Check α) d := by
  intro b ws h
  cases h

/-- In strict mode there is no repair. -/
theorem Within.mend {o : ValidationOptions} (strict : o.isSafe = false) (path : Path)
    (fault : Fault) (repair : Repair) (a : α) (d : Check α) :
    (o.mend path fault repair a).Within d := by
  rw [ValidationOptions.mend, strict]
  exact Within.fail path fault d

/-- In strict mode nothing is assumed. -/
theorem Within.assume {o : ValidationOptions} (strict : o.isSafe = false) (path : Path)
    (fault : Fault) (a : α) (d : Check α) : (o.assume path fault a).Within d := by
  rw [ValidationOptions.assume, strict]
  exact Within.fail path fault d

/-! ## §4. Two checks side by side. -/

/-- Both checks refuse for the same reason, or both accept, with the same
reports and with related values. -/
def Alike (R : α → β → Prop) (c : Check α) (d : Check β) : Prop :=
  match c, d with
  | .error e, .error e' => e = e'
  | .ok (a, ws), .ok (b, ws') => R a b ∧ ws = ws'
  | _, _ => False

/-- A check behaves like itself. -/
theorem Alike.refl {R : α → α → Prop} (hR : ∀ a, R a a) (c : Check α) : Alike R c c := by
  cases c with
  | error e => exact (rfl : e = e)
  | ok r => exact ⟨hR r.1, rfl⟩

/-- One check on both sides, with what it ensures. -/
theorem Alike.self {P : α → Prop} {c : Check α} (h : c.Ensures P) :
    Alike (fun a b => a = b ∧ P a) c c := by
  cases c with
  | error e => exact (rfl : e = e)
  | ok r => exact ⟨⟨rfl, h r.1 r.2 rfl⟩, rfl⟩

theorem Alike.done {R : α → β → Prop} {a : α} {b : β} (h : R a b) :
    Alike R (Check.done a) (Check.done b) := ⟨h, rfl⟩

theorem Alike.repaired {R : α → β → Prop} {a : α} {b : β} (path : Path) (repair : Repair)
    (h : R a b) : Alike R (Check.repaired path repair a) (Check.repaired path repair b) :=
  ⟨h, rfl⟩

theorem Alike.fail {R : α → β → Prop} (path : Path) (fault : Fault) :
    Alike R (Check.fail path fault) (Check.fail path fault) :=
  (rfl : ValidationError.schema fault path = _)

/-- The mode decides for both sides. -/
theorem Alike.mend {R : α → β → Prop} (o : ValidationOptions) (path : Path) (fault : Fault)
    (repair : Repair) {a : α} {b : β} (h : R a b) :
    Alike R (o.mend path fault repair a) (o.mend path fault repair b) := by
  unfold ValidationOptions.mend
  split
  · exact Alike.repaired path repair h
  · exact Alike.fail path fault

/-- As for a repair, but without a report. -/
theorem Alike.assume {R : α → β → Prop} (o : ValidationOptions) (path : Path) (fault : Fault)
    {a : α} {b : β} (h : R a b) : Alike R (o.assume path fault a) (o.assume path fault b) := by
  unfold ValidationOptions.assume
  split
  · exact Alike.done h
  · exact Alike.fail path fault

/-- What follows related values has to be alike. -/
theorem Alike.bind {R : α → β → Prop} {S : γ → δ → Prop} {c : Check α} {d : Check β}
    {f : α → Check γ} {g : β → Check δ} (hc : Alike R c d)
    (hf : ∀ a b, R a b → Alike S (f a) (g b)) : Alike S (c >>= f) (d >>= g) := by
  match c, d, hc with
  | .error e, .error e', hc => exact hc
  | .ok (a, ws), .ok (b, ws'), ⟨hab, hws⟩ =>
      subst hws
      -- both accept so far, with the same reports: the second checks decide
      rw [bind_of_eq_ok (rfl : _ = Except.ok (a, ws)), bind_of_eq_ok (rfl : _ = Except.ok (b, ws))]
      have hfg := hf a b hab
      match f a, g b, hfg with
      | .error e, .error e', hfg => exact hfg
      | .ok (c, more), .ok (d, more'), ⟨hcd, hmore⟩ =>
          exact ⟨hcd, by rw [hmore]⟩

/-- One check in front of both. -/
theorem Alike.bind_same {S : γ → δ → Prop} {c : Check α} {f : α → Check γ} {g : α → Check δ}
    (h : ∀ a, Alike S (f a) (g a)) : Alike S (c >>= f) (c >>= g) := by
  refine Alike.bind (Alike.refl Eq.refl c) ?_
  rintro a _ rfl
  exact h a

/-- One check in front of both, with what it ensures. -/
theorem Alike.bind_ensured {P : α → Prop} {S : γ → δ → Prop} {c : Check α} {f : α → Check γ}
    {g : α → Check δ} (hc : c.Ensures P) (h : ∀ a, P a → Alike S (f a) (g a)) :
    Alike S (c >>= f) (c >>= g) := by
  refine Alike.bind (Alike.self hc) ?_
  rintro a _ ⟨rfl, ha⟩
  exact h a ha

/-! ## §5. What is refused. -/

/-- A sequence refuses when one of its checks does. -/
theorem bind_eq_error {c : Check α} {f : α → Check β} {e : ValidationError}
    (h : (c >>= f) = .error e) : c = .error e ∨ ∃ a ws, c = .ok (a, ws) ∧ f a = .error e := by
  cases c with
  | error e' =>
      cases h
      exact Or.inl rfl
  | ok r =>
      obtain ⟨a, ws⟩ := r
      rw [bind_of_eq_ok (rfl : _ = Except.ok (a, ws))] at h
      refine Or.inr ⟨a, ws, rfl, ?_⟩
      cases hf : f a with
      | error e' => rw [hf] at h; cases h; rfl
      | ok r => rw [hf] at h; cases h

/-- Whatever the check refuses is a fault at a place. -/
def Placed (c : Check α) : Prop := ∀ e, c = .error e → ∃ fault path, e = .schema fault path

/-- Both parts refuse for faults at places. -/
theorem Placed.bind {c : Check α} {f : α → Check β} (hc : c.Placed) (hf : ∀ a, (f a).Placed) :
    (c >>= f).Placed := by
  intro e h
  rcases bind_eq_error h with hc' | ⟨a, -, -, ha⟩
  · exact hc e hc'
  · exact hf a e ha

theorem Placed.done (a : α) : (Check.done a).Placed := nofun

theorem Placed.repaired (path : Path) (repair : Repair) (a : α) :
    (Check.repaired path repair a).Placed := nofun

theorem Placed.fail (path : Path) (fault : Fault) : (Check.fail path fault : Check α).Placed := by
  intro e h
  cases h
  exact ⟨fault, path, rfl⟩

/-- Strict mode refuses for the fault that safe mode mends. -/
theorem Placed.mend (o : ValidationOptions) (path : Path) (fault : Fault) (repair : Repair)
    (a : α) : (o.mend path fault repair a).Placed := by
  unfold ValidationOptions.mend
  split
  · exact Placed.repaired path repair a
  · exact Placed.fail path fault

/-- Strict mode refuses for the fault that safe mode passes over. -/
theorem Placed.assume (o : ValidationOptions) (path : Path) (fault : Fault) (a : α) :
    (o.assume path fault a).Placed := by
  unfold ValidationOptions.assume
  split
  · exact Placed.done a
  · exact Placed.fail path fault

/-! ## §6. Acceptance handed on. -/

/-- The check accepts, whatever it reports. -/
def Lenient (c : Check α) : Prop := ∃ a ws, c = .ok (a, ws)

/-- Whatever value the first check accepts, the next one accepts too. -/
theorem Lenient.bind {c : Check α} {f : α → Check β} (hc : c.Lenient) (hf : ∀ a, (f a).Lenient) :
    (c >>= f).Lenient := by
  obtain ⟨a, ws, ha⟩ := hc
  obtain ⟨b, ws', hb⟩ := hf a
  exact ⟨b, ws ++ ws', bind_of_ok ha hb⟩

theorem Lenient.done (a : α) : (Check.done a).Lenient := ⟨a, [], rfl⟩

theorem Lenient.repaired (path : Path) (repair : Repair) (a : α) :
    (Check.repaired path repair a).Lenient := ⟨a, [⟨repair, path⟩], rfl⟩

/-- In safe mode a repair is accepted. -/
theorem Lenient.mend {o : ValidationOptions} (safe : o.isSafe = true) (path : Path) (fault : Fault)
    (repair : Repair) (a : α) : (o.mend path fault repair a).Lenient := by
  rw [ValidationOptions.mend, if_pos safe]
  exact Lenient.repaired path repair a

/-- In safe mode an assumed value is accepted. -/
theorem Lenient.assume {o : ValidationOptions} (safe : o.isSafe = true) (path : Path)
    (fault : Fault) (a : α) : (o.assume path fault a).Lenient := by
  rw [ValidationOptions.assume, if_pos safe]
  exact Lenient.done a

/-- Whatever the first check accepts, the second one accepts with a related value. -/
def Tolerates (R : α → β → Prop) (c : Check α) (d : Check β) : Prop :=
  ∀ a ws, c = .ok (a, ws) → ∃ b ws', d = .ok (b, ws') ∧ R a b

/-- What follows related values has to be tolerated. -/
theorem Tolerates.bind {R : α → β → Prop} {S : γ → δ → Prop} {c : Check α} {d : Check β}
    {f : α → Check γ} {g : β → Check δ} (hc : Tolerates R c d)
    (hf : ∀ a b, R a b → Tolerates S (f a) (g b)) : Tolerates S (c >>= f) (d >>= g) := by
  intro x ws h
  obtain ⟨a, ws₁, ws₂, ha, hx, -⟩ := bind_eq_ok h
  obtain ⟨b, ws₁', hb, hab⟩ := hc a ws₁ ha
  obtain ⟨y, ws₂', hy, hxy⟩ := hf a b hab x ws₂ hx
  exact ⟨y, ws₁' ++ ws₂', bind_of_ok hb hy, hxy⟩

/-- The second check accepts anyway, so its value need not be related. -/
theorem Tolerates.bind_lenient {S : γ → δ → Prop} {c : Check α} {d : Check β}
    {f : α → Check γ} {g : β → Check δ} (hd : d.Lenient)
    (hf : ∀ a b, Tolerates S (f a) (g b)) : Tolerates S (c >>= f) (d >>= g) := by
  obtain ⟨b, ws, hb⟩ := hd
  exact Tolerates.bind (R := fun _ _ => True) (fun _ _ _ => ⟨b, ws, hb, trivial⟩)
    fun a b _ => hf a b

/-- One check in front of both. -/
theorem Tolerates.bind_same {S : γ → δ → Prop} {c : Check α} {f : α → Check γ}
    {g : α → Check δ} (h : ∀ a, Tolerates S (f a) (g a)) : Tolerates S (c >>= f) (c >>= g) := by
  refine Tolerates.bind (R := Eq) (fun a ws ha => ⟨a, ws, ha, rfl⟩) ?_
  rintro a _ rfl
  exact h a

theorem Tolerates.done {R : α → β → Prop} {a : α} {b : β} (h : R a b) :
    Tolerates R (Check.done a) (Check.done b) := by
  intro a' ws ha
  cases ha
  exact ⟨b, [], rfl, h⟩

/-- A refusal asks nothing of the other check. -/
theorem Tolerates.fail {R : α → β → Prop} (path : Path) (fault : Fault) (d : Check β) :
    Tolerates R (Check.fail path fault) d := nofun

/-! ## §7. Silence handed on. -/

/-- Whatever the first check accepts without a report, the second one accepts
without a report too. -/
def Silently (c d : Check α) : Prop := ∀ a, c = .ok (a, []) → d = .ok (a, [])

/-- A check is as silent as itself. -/
theorem Silently.refl (c : Check α) : c.Silently c := fun _ h => h

/-- With what the first check ensures. -/
theorem Silently.bind_ensured {P : α → Prop} {c d : Check α} {f g : α → Check β}
    (hP : c.Ensures P) (hc : c.Silently d) (hf : ∀ a, P a → (f a).Silently (g a)) :
    (c >>= f).Silently (d >>= g) := by
  intro b h
  obtain ⟨a, ws₁, ws₂, ha, hb, hnil⟩ := bind_eq_ok h
  -- the whole is silent, so both halves are
  obtain ⟨rfl, rfl⟩ := List.append_eq_nil_iff.mp hnil.symm
  exact bind_of_ok (hc a ha) (hf a (hP a [] ha) b hb)

/-- A silent sequence is silent in both of its parts. -/
theorem Silently.bind {c d : Check α} {f g : α → Check β} (hc : c.Silently d)
    (hf : ∀ a, (f a).Silently (g a)) : (c >>= f).Silently (d >>= g) :=
  Silently.bind_ensured (P := fun _ => True) (fun _ _ _ => trivial) hc fun a _ => hf a

/-- A refusal is no silent acceptance. -/
theorem Silently.fail (path : Path) (fault : Fault) (d : Check α) :
    (Check.fail path fault : Check α).Silently d := nofun

/-- Nor is a repair. -/
theorem Silently.repaired (path : Path) (repair : Repair) (a : α) (d : Check α) :
    (Check.repaired path repair a).Silently d := nofun

/-- A repair is reported. -/
theorem Silently.mend {o : ValidationOptions} (safe : o.isSafe = true) (path : Path)
    (fault : Fault) (repair : Repair) (a : α) (d : Check α) :
    (o.mend path fault repair a).Silently d := by
  rw [ValidationOptions.mend, if_pos safe]
  exact Silently.repaired path repair a d

/-- An assumed value is not reported. -/
theorem Silently.assume {o : ValidationOptions} (safe : o.isSafe = true) (path : Path)
    (fault : Fault) {a : α} {d : Check α} (hd : d = .done a) :
    (o.assume path fault a).Silently d := by
  rw [ValidationOptions.assume, if_pos safe, hd]
  exact Silently.refl _

end Dashboard.Check
