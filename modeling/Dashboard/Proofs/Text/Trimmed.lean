/-
  Dashboard.Proofs.Text.Trimmed
  ─────────────────────────────
  Texts with something in them, and no blank at either end.

  Main results:
    trimmed_trim          — what is left of a text that is not blank
    trimmed_iff           — a text is trimmed if trimming leaves it
    nonBlank?_eq_some_iff — what is left is the trimmed text
-/
import Mathlib.Data.List.DropRight
import Dashboard.Text.Blank

namespace Dashboard.Text

/-- A text with something in it, and no blank at either end. -/
structure Trimmed (s : String) : Prop where
  ne_nil : s.toList ≠ []
  head : ∀ c ∈ s.toList.head?, isBlank c = false
  last : ∀ c ∈ s.toList.getLast?, isBlank c = false

variable {s : String}

/-- Trimming by characters: from the front, then from the back. -/
theorem toList_trim (s : String) :
    (trim s).toList = (s.toList.dropWhile isBlank).rdropWhile isBlank :=
  String.toList_ofList

/-- What is left begins with no blank. -/
theorem not_blank_of_mem_head? {l : List Char} {c : Char} (h : c ∈ (l.dropWhile isBlank).head?) :
    isBlank c = false := by
  have hhead := List.head?_dropWhile_not isBlank l
  rwa [Option.mem_def.mp h] at hhead

/-- What is left of a text that is not blank. -/
theorem trimmed_trim (h : isBlankText s = false) : Trimmed (trim s) := by
  -- something begins the text, and trimming the end leaves it
  obtain ⟨c, hc⟩ : ∃ c, (s.toList.dropWhile isBlank).head? = some c := by
    refine Option.ne_none_iff_exists'.mp fun hnone => ?_
    have hall : s.toList.all isBlank = true :=
      List.all_eq_true.mpr (List.dropWhile_eq_nil_iff.mp (List.head?_eq_none_iff.mp hnone))
    exact nomatch hall.symm.trans h
  have hne : (s.toList.dropWhile isBlank).rdropWhile isBlank ≠ [] := by
    intro hnil
    have hblank := List.rdropWhile_eq_nil_iff.mp hnil c (List.mem_of_mem_head? hc)
    exact nomatch hblank.symm.trans (not_blank_of_mem_head? hc)
  refine ⟨toList_trim s ▸ hne, fun d hd => ?_, fun d hd => ?_⟩
  · rw [toList_trim] at hd
    obtain ⟨rest, hrest⟩ := List.rdropWhile_prefix isBlank (s.toList.dropWhile isBlank)
    refine not_blank_of_mem_head? (l := s.toList) ?_
    rw [← hrest, List.head?_append, Option.mem_def.mp hd]
    rfl
  · rw [toList_trim, List.rdropWhile, List.getLast?_reverse] at hd
    exact not_blank_of_mem_head? hd

theorem Trimmed.trim_eq (h : Trimmed s) : trim s = s := by
  have hstart : s.toList.dropWhile isBlank = s.toList := by
    refine List.dropWhile_eq_self_iff.mpr fun hl hblank => ?_
    exact nomatch hblank.symm.trans (h.head _ (by rw [List.head?_eq_getElem?]; simp [hl]))
  have hend : s.toList.rdropWhile isBlank = s.toList := by
    refine List.rdropWhile_eq_self_iff.mpr fun hne hblank => ?_
    exact nomatch hblank.symm.trans (h.last _ (List.getLast?_eq_some_getLast hne))
  rw [← String.toList_inj, toList_trim, hstart, hend]

/-- A trimmed text is not blank, since it is not empty. -/
theorem Trimmed.not_blank (h : Trimmed s) : isBlankText s = false := by
  refine Bool.eq_false_iff.mpr fun hall => ?_
  have hhead := List.head_mem h.ne_nil
  have hblank := List.all_eq_true.mp hall _ hhead
  exact nomatch hblank.symm.trans (h.head _ (List.head?_eq_some_head h.ne_nil))

/-- A text is trimmed if trimming leaves it, and something is left. -/
theorem trimmed_iff : Trimmed s ↔ isBlankText s = false ∧ trim s = s :=
  ⟨fun h => ⟨h.not_blank, h.trim_eq⟩, fun ⟨hfilled, heq⟩ => heq ▸ trimmed_trim hfilled⟩

theorem nonBlank?_eq_some_iff {t : String} : nonBlank? s = some t ↔
    isBlankText s = false ∧ trim s = t := by
  unfold nonBlank?
  split
  next h => simp [h]
  next h => simp [h]

end Dashboard.Text
