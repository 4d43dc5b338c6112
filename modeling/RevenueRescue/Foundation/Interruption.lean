import Mathlib.Data.List.Forall2

namespace RevenueRescue.Interruption

variable {σ τ : Type}

/-- The states that a list of operations leaves when it is interrupted between
two of them, before the first one, or after the last one. -/
inductive Leaves : σ → List (σ → σ) → σ → Prop
  | now (s : σ) (ops : List (σ → σ)) : Leaves s ops s
  | later {s t : σ} {op : σ → σ} {ops : List (σ → σ)} (h : Leaves (op s) ops t) : Leaves s (op :: ops) t

variable {s t : σ} {op : σ → σ} {ops ops' : List (σ → σ)}

theorem leaves_nil : Leaves s [] t ↔ t = s := by
  constructor
  · intro h
    cases h
    rfl
  · rintro rfl
    exact .now t []

theorem leaves_cons : Leaves s (op :: ops) t ↔ t = s ∨ Leaves (op s) ops t := by
  constructor
  · intro h
    cases h with
    | now => exact .inl rfl
    | later h => exact .inr h
  · rintro (rfl | h)
    · exact .now t _
    · exact .later h

theorem leaves_append :
    Leaves s (ops ++ ops') t ↔ Leaves s ops t ∨ Leaves (ops.foldl (fun s op => op s) s) ops' t := by
  induction ops generalizing s with
  | nil =>
      simp only [List.nil_append, List.foldl_nil, leaves_nil]
      constructor
      · exact .inr
      · rintro (rfl | h)
        · exact .now t ops'
        · exact h
  | cons op ops ih => rw [List.cons_append, leaves_cons, leaves_cons, ih, or_assoc, List.foldl_cons]

/-- Operations that do not change the state leave it only. -/
theorem leaves_fixed (h : ∀ op ∈ ops, op s = s) : Leaves s ops t ↔ t = s := by
  induction ops with
  | nil => exact leaves_nil
  | cons op ops ih =>
      rw [leaves_cons, h op List.mem_cons_self, ih fun op ho => h op (List.mem_cons_of_mem _ ho), or_self]

theorem foldl_fixed (h : ∀ op ∈ ops, op s = s) : ops.foldl (fun s op => op s) s = s := by
  induction ops with
  | nil => rfl
  | cons op ops ih =>
      rw [List.foldl_cons, h op List.mem_cons_self, ih fun op ho => h op (List.mem_cons_of_mem _ ho)]

theorem leaves_last (ops : List (σ → σ)) (s : σ) : Leaves s ops (ops.foldl (fun s op => op s) s) := by
  induction ops generalizing s with
  | nil => exact .now s []
  | cons op ops ih => exact .later (ih (op s))

/-- Operations that never change the state may be left out. -/
theorem leaves_idle_append {idle : List (σ → σ)} (h : ∀ op ∈ idle, op = id) :
    Leaves s (idle ++ ops) t ↔ Leaves s ops t := by
  have hs : ∀ op ∈ idle, op s = s := fun op ho => congrFun (h op ho) s
  rw [leaves_append, leaves_fixed hs, foldl_fixed hs]
  constructor
  · rintro (rfl | ht)
    · exact .now t ops
    · exact ht
  · exact .inr

theorem leaves_append_idle {idle : List (σ → σ)} (h : ∀ op ∈ idle, op = id) :
    Leaves s (ops ++ idle) t ↔ Leaves s ops t := by
  rw [leaves_append, leaves_fixed fun op ho => congrFun (h op ho) _]
  constructor
  · rintro (ht | rfl)
    · exact ht
    · exact leaves_last ops s
  · exact .inl

/-- Operations each of which does nothing or completes the change leave no state between. -/
theorem leaves_single {s' : σ} (hs : ∀ op ∈ ops, op s = s ∨ op s = s') (hs' : ∀ op ∈ ops, op s' = s')
    (h : Leaves s ops t) : t = s ∨ t = s' := by
  induction ops with
  | nil => exact .inl (leaves_nil.mp h)
  | cons op ops ih =>
      have hrest := fun o ho => hs' o (List.mem_cons_of_mem _ ho)
      rcases leaves_cons.mp h with rfl | h
      · exact .inl rfl
      · rcases hs op List.mem_cons_self with he | he <;> rw [he] at h
        · exact ih (fun o ho => hs o (List.mem_cons_of_mem _ ho)) hrest h
        · exact .inr ((leaves_fixed hrest).mp h)

/-- If nothing lies between two states, the first operation that changes
anything completes the change. -/
theorem completes_of_leaves {s' : σ} (h : ∀ t, Leaves s ops t → t = s ∨ t = s') (hop : op ∈ ops)
    (hne : op s ≠ s) : ∃ first ∈ ops, first s = s' := by
  induction ops with
  | nil => cases hop
  | cons head ops ih =>
      by_cases hh : head s = s
      · have hmem : op ∈ ops := by
          rcases List.mem_cons.mp hop with rfl | hmem
          · exact absurd hh hne
          · exact hmem
        obtain ⟨first, hf, he⟩ := ih (fun t ht => h t (.later (hh.symm ▸ ht))) hmem
        exact ⟨first, List.mem_cons_of_mem _ hf, he⟩
      · rcases h (head s) (.later (.now _ _)) with he | he
        · exact absurd he hh
        · exact ⟨head, List.mem_cons_self, he⟩

/-- What is seen of the states through a projection that the operations respect. -/
theorem leaves_project (view : σ → τ) {seen : List (τ → τ)}
    (h : List.Forall₂ (fun f g => ∀ s, view (f s) = g (view s)) ops seen) {c : τ} :
    (∃ t, Leaves s ops t ∧ view t = c) ↔ Leaves (view s) seen c := by
  induction h generalizing s with
  | nil => simp [leaves_nil, eq_comm]
  | cons hfg _ ih =>
      rw [leaves_cons, ← hfg, ← ih]
      constructor
      · rintro ⟨t, ht, rfl⟩
        rcases leaves_cons.mp ht with rfl | ht
        · exact .inl rfl
        · exact .inr ⟨t, ht, rfl⟩
      · rintro (rfl | ⟨t, ht, rfl⟩)
        · exact ⟨s, .now s _, rfl⟩
        · exact ⟨t, .later ht, rfl⟩

end RevenueRescue.Interruption
