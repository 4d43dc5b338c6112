import RevenueRescue.Foundation.Table

namespace RevenueRescue.Table

variable {κ ρ : Type} [DecidableEq κ] {key : ρ → κ} {p q : ρ → Bool} {t s t' : Table κ ρ key} {k : κ} {r : ρ}

/-- `s` has those rows of `t` that meet `p`. -/
def Restricts (p : ρ → Bool) (t s : Table κ ρ key) : Prop := s.rows = t.rows.filter p

omit [DecidableEq κ] in
theorem Restricts.mem (h : Restricts p t s) : r ∈ s.rows ↔ r ∈ t.rows ∧ p r = true := by
  rw [h, List.mem_filter]

theorem Restricts.find_of_mem (h : Restricts p t s) (hp : p r = true) (hf : find t k = some r) : find s k = some r := by
  have hmem := h.mem.mpr ⟨find_mem hf, hp⟩
  rw [← find_key hf]
  exact Table.find_of_mem hmem

omit [DecidableEq κ] in
theorem Restricts.select (h : Restricts p t s) (hp : p r = true) (hs : select t q = some r) : select s q = some r := by
  unfold Table.select at hs ⊢
  rw [h]
  obtain ⟨hq, before, after, hrows, hnone⟩ := List.find?_eq_some_iff_append.mp hs
  refine List.find?_eq_some_iff_append.mpr ⟨hq, before.filter p, after.filter p, ?_, fun x hx => ?_⟩
  · rw [hrows, List.filter_append, List.filter_cons_of_pos hp]
  · exact hnone x (List.mem_of_mem_filter hx)

theorem Restricts.update (h : Restricts p t s) {f : ρ → ρ} (hf : ∀ r, key (f r) = key r) (hp : ∀ r, p (f r) = p r) :
    Restricts p (update t k f hf) (update s k f hf) := by
  have hrow (r : ρ) : p (if key r = k then f r else r) = p r := by
    split
    · exact hp r
    · rfl
  simp only [Restricts, Table.update, List.filter_map, Function.comp_def, hrow]
  rw [h]

end RevenueRescue.Table
