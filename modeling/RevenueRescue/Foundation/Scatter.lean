import Mathlib.Data.List.Nodup

namespace RevenueRescue.Scatter

variable {α : Type} {values : List α} {writes : List (Nat × α)} {i : Nat} {v : α}

/-- The values after one write after the other. -/
def scatter (values : List α) (writes : List (Nat × α)) : List α := writes.foldl (fun out w => out.set w.1 w.2) values

theorem scatter_append (values : List α) (writes writes' : List (Nat × α)) :
    scatter values (writes ++ writes') = scatter (scatter values writes) writes' := List.foldl_append

@[simp] theorem length_scatter : (scatter values writes).length = values.length := by
  induction writes generalizing values with
  | nil => rfl
  | cons w writes ih => exact ih.trans List.length_set

theorem scatter_untouched (h : i ∉ writes.map Prod.fst) : (scatter values writes)[i]? = values[i]? := by
  induction writes generalizing values with
  | nil => rfl
  | cons w writes ih =>
      rw [List.map_cons, List.mem_cons, not_or] at h
      obtain ⟨hne, hrest⟩ := h
      exact (ih hrest).trans (List.getElem?_set_ne (Ne.symm hne))

/-- A place that is written once has what was written there. -/
theorem scatter_written (hnodup : (writes.map Prod.fst).Nodup) (hw : (i, v) ∈ writes) (hi : i < values.length) :
    (scatter values writes)[i]? = some v := by
  induction writes generalizing values with
  | nil => cases hw
  | cons w writes ih =>
      obtain ⟨hfresh, hrest⟩ := List.nodup_cons.mp hnodup
      rcases List.mem_cons.mp hw with rfl | hw
      · exact (scatter_untouched hfresh).trans (List.getElem?_set_self hi)
      · exact ih hrest hw (by rwa [List.length_set])

end RevenueRescue.Scatter
