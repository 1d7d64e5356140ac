/-
  Dashboard.Proofs.Widget.Registry
  ────────────────────────────────
  **WHICH WIDGETS REPORT A QUALITY.**

  A registry finds what was registered under an id, and the placeholder under
  any other.  Most widgets only look at the quality of their data (`Silent`); of
  the built-in ones the quick navigation alone reports one.

  Main results:
    getOrPlaceholder_ofList — what a registry draws a panel with
    silent_builtin          — the built-in widgets that report nothing
    reported_builtin        — what the built-in widgets report
-/
import Dashboard.Widget.Builtin

namespace Dashboard

/-! ## §1. What a registry finds. -/

namespace Registry

variable {ds : List WidgetDefinition} {r : Registry} {id : String} {d : WidgetDefinition}

theorem get?_foldl_register (hd : (ds.foldl register r).get? id = some d) :
    r.get? id = some d ∨ d ∈ ds ∧ d.id = id := by
  induction ds generalizing r with
  | nil => exact .inl hd
  | cons x rest ih =>
    rcases ih hd with hr | ⟨hmem, hid⟩
    · -- found after the first was registered: it is the first, or was there before
      rw [register, Registry.get?, Keyed.get?_insert] at hr
      split at hr
      next hx =>
        cases hr
        exact .inr ⟨List.mem_cons_self, hx⟩
      next => exact .inl hr
    · exact .inr ⟨List.mem_cons_of_mem _ hmem, hid⟩

/-- Each definition is registered under its own id. -/
theorem mem_of_get?_ofList (hd : (ofList ds).get? id = some d) : d ∈ ds ∧ d.id = id := by
  -- the empty registry has no definition to start from
  rcases get?_foldl_register hd with hnone | hmem
  · exact nomatch hnone
  · exact hmem

theorem getOrPlaceholder_ofList (ds : List WidgetDefinition) (id : String) :
    ((ofList ds).getOrPlaceholder id ∈ ds ∧
      (((ofList ds).getOrPlaceholder id).id = id ∨
        ((ofList ds).getOrPlaceholder id).id = placeholderWidget)) ∨
    (ofList ds).getOrPlaceholder id = .placeholder := by
  unfold getOrPlaceholder
  cases hown : (ofList ds).get? id with
  | some d =>
    obtain ⟨hmem, hid⟩ := mem_of_get?_ofList hown
    exact .inl ⟨hmem, .inl hid⟩
  | none =>
    cases hinstead : (ofList ds).get? placeholderWidget with
    | some d =>
      obtain ⟨hmem, hid⟩ := mem_of_get?_ofList hinstead
      exact .inl ⟨hmem, .inr hid⟩
    | none => exact .inr rfl

end Registry

/-! ## §2. What the built-in widgets report. -/

/-- Drawing the widget never reports a quality. -/
def WidgetDefinition.Silent (d : WidgetDefinition) : Prop := ∀ s, (d.render s).reported = none

theorem WidgetDefinition.silent_of_mem_builtin {d : WidgetDefinition} (hd : d ∈ builtin) :
    d.Silent ∨ d = quickNav := by
  simp only [builtin, List.mem_cons, List.not_mem_nil, or_false] at hd
  rcases hd with rfl | rfl | rfl | rfl | rfl | rfl | rfl | rfl
  case inr.inr.inr.inl => exact .inr rfl
  all_goals exact .inl fun _ => rfl

namespace Registry

variable {id : String}

/-- Only the panels of the quick navigation are drawn by a widget that reports. -/
theorem silent_or_quickNav (id : String) :
    (builtin.getOrPlaceholder id).Silent ∨
      id = "quick-nav" ∧ builtin.getOrPlaceholder id = .quickNav := by
  rcases getOrPlaceholder_ofList WidgetDefinition.builtin id with ⟨hmem, hnamed⟩ | hplaceholder
  · refine (WidgetDefinition.silent_of_mem_builtin hmem).imp_right fun hnav => ⟨?_, hnav⟩
    have hname : WidgetDefinition.quickNav.id = id ∨
        WidgetDefinition.quickNav.id = placeholderWidget := by
      rw [← hnav]
      exact hnamed
    exact hname.elim Eq.symm fun hname => absurd hname (by decide)
  · left
    intro s
    unfold builtin
    rw [hplaceholder]
    rfl

/-- Panels of other built-in widgets than the quick navigation, and panels of
unknown ones, report nothing. -/
theorem silent_builtin (hid : id ≠ "quick-nav") : (builtin.getOrPlaceholder id).Silent :=
  (silent_or_quickNav id).resolve_right fun hnav => hid hnav.1

/-- A quality that a built-in widget reports is OK since the panel was mounted. -/
theorem reported_builtin {s : WidgetScene} {q : Quality}
    (hq : ((builtin.getOrPlaceholder id).render s).reported = some q) :
    q = ⟨.ok, some s.mountedAt⟩ := by
  rcases silent_or_quickNav id with hsilent | ⟨-, hnav⟩
  · exact nomatch (hsilent s).symm.trans hq
  · rw [hnav] at hq
    exact (Option.some.inj hq).symm

end Registry
end Dashboard
