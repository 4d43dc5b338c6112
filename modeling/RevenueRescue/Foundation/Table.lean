import Mathlib.Algebra.BigOperators.Group.List.Basic
import Mathlib.Data.List.Nodup
import Mathlib.Tactic.Abel

namespace RevenueRescue

/-- A database table with its primary key: no two rows agree on `key`. -/
structure Table (κ ρ : Type) (key : ρ → κ) where
  rows : List ρ
  nodup : (rows.map key).Nodup

namespace Table

variable {κ ρ : Type} [DecidableEq κ] {key : ρ → κ}

def empty : Table κ ρ key := ⟨[], List.nodup_nil⟩

def find (t : Table κ ρ key) (k : κ) : Option ρ := t.rows.find? fun r => key r = k

def select (t : Table κ ρ key) (p : ρ → Bool) : Option ρ := t.rows.find? p

def insert (t : Table κ ρ key) (r : ρ) : Option (Table κ ρ key) :=
  if h : key r ∈ t.rows.map key then none
  else some ⟨r :: t.rows, List.nodup_cons.mpr ⟨h, t.nodup⟩⟩

/-- `UPDATE ... WHERE key = k` with an assignment that leaves the key alone. -/
def update (t : Table κ ρ key) (k : κ) (f : ρ → ρ) (hf : ∀ r, key (f r) = key r) :
    Table κ ρ key where
  rows := t.rows.map fun r => if key r = k then f r else r
  nodup := by
    have h : (key ∘ fun r => if key r = k then f r else r) = key := by
      funext r
      by_cases hr : key r = k <;> simp [hr, hf]
    rw [List.map_map, h]
    exact t.nodup

theorem find_key {t : Table κ ρ key} {k : κ} {r : ρ} (h : find t k = some r) : key r = k := by
  simpa using List.find?_some h

theorem find_mem {t : Table κ ρ key} {k : κ} {r : ρ} (h : find t k = some r) : r ∈ t.rows :=
  List.mem_of_find?_eq_some h

theorem find_of_mem {t : Table κ ρ key} {r : ρ} (h : r ∈ t.rows) : find t (key r) = some r := by
  obtain ⟨rows, hn⟩ := t
  induction rows with
  | nil => cases h
  | cons x xs ih =>
      rw [List.map_cons, List.nodup_cons] at hn
      rcases List.mem_cons.mp h with rfl | hx
      · simp [find]
      · have hne : key x ≠ key r := fun he => hn.1 (he ▸ List.mem_map_of_mem hx)
        simpa [find, hne] using ih hn.2 hx

theorem find_of_select {t : Table κ ρ key} {p : ρ → Bool} {r : ρ} (h : select t p = some r) :
    find t (key r) = some r ∧ p r = true :=
  ⟨find_of_mem (List.mem_of_find?_eq_some h), List.find?_some h⟩

theorem insert_rows {t t' : Table κ ρ key} {r : ρ} (h : insert t r = some t') : t'.rows = r :: t.rows := by
  unfold insert at h
  split at h
  · cases h
  · cases h
    rfl

theorem find_insert {t t' : Table κ ρ key} {r : ρ} (h : insert t r = some t') (k : κ) :
    find t' k = if key r = k then some r else find t k := by
  unfold insert at h
  split at h
  · cases h
  · cases h
    by_cases hk : key r = k <;> simp [find, hk]

theorem find_none_of_insert {t t' : Table κ ρ key} {r : ρ} (h : insert t r = some t') :
    find t (key r) = none := by
  unfold insert at h
  split at h
  · cases h
  · rename_i hk
    refine List.find?_eq_none.mpr fun x hx he => hk ?_
    exact List.mem_map.mpr ⟨x, hx, by simpa using he⟩

theorem update_congr {t : Table κ ρ key} {k : κ} {f g : ρ → ρ} {hf : ∀ r, key (f r) = key r}
    {hg : ∀ r, key (g r) = key r} (h : ∀ r, find t k = some r → f r = g r) :
    update t k f hf = update t k g hg := by
  have hrows : (t.rows.map fun r => if key r = k then f r else r) =
      t.rows.map fun r => if key r = k then g r else r := by
    refine List.map_congr_left fun r hr => ?_
    by_cases hk : key r = k
    · rw [if_pos hk, if_pos hk, h r (hk ▸ find_of_mem hr)]
    · rw [if_neg hk, if_neg hk]
  simp only [update, hrows]

theorem update_eq_self {t : Table κ ρ key} {k : κ} {f : ρ → ρ} {hf : ∀ r, key (f r) = key r}
    (h : ∀ r, find t k = some r → f r = r) : update t k f hf = t := by
  have hid : update t k f hf = update t k id fun _ => rfl := update_congr h
  rw [hid]
  obtain ⟨rows, hn⟩ := t
  simp [update]

theorem find_update (t : Table κ ρ key) (k k' : κ) (f : ρ → ρ) (hf : ∀ r, key (f r) = key r) :
    find (update t k f hf) k' = if k' = k then (find t k').map f else find t k' := by
  obtain ⟨rows, hn⟩ := t
  simp only [find, update]
  clear hn
  induction rows with
  | nil => simp
  | cons r rows ih =>
      by_cases hr : key r = k
      · subst hr
        by_cases hk : key r = k'
        · subst hk; simp [hf]
        · have hk' : key (f r) ≠ k' := by rwa [hf]
          simpa [hk, hk'] using ih
      · by_cases hk : key r = k'
        · have hne : k' ≠ k := fun he => hr (hk.trans he)
          simp [hk, hne]
        · simpa [hr, hk] using ih

@[simp] theorem find_update_self (t : Table κ ρ key) (k : κ) (f : ρ → ρ)
    (hf : ∀ r, key (f r) = key r) : find (update t k f hf) k = (find t k).map f := by
  simp [find_update]

theorem find_update_ne (t : Table κ ρ key) {k k' : κ} (hk : k' ≠ k) (f : ρ → ρ)
    (hf : ∀ r, key (f r) = key r) : find (update t k f hf) k' = find t k' := by
  simp [find_update, hk]

theorem sum_update {M : Type} [AddCommGroup M] {t : Table κ ρ key} {k : κ} {f : ρ → ρ}
    {hf : ∀ r, key (f r) = key r} {r : ρ} (g : ρ → M) (h : find t k = some r) :
    ((update t k f hf).rows.map g).sum = (t.rows.map g).sum - g r + g (f r) := by
  obtain ⟨rows, hn⟩ := t
  simp only [find, update] at h ⊢
  induction rows with
  | nil => cases h
  | cons x rows ih =>
      rw [List.map_cons, List.nodup_cons] at hn
      by_cases hx : key x = k
      · obtain rfl : x = r := by simpa [hx] using h
        have hrest : rows.map (fun r => if key r = k then f r else r) = rows := by
          refine (List.map_congr_left fun y hy => ?_).trans (List.map_id rows)
          have hne : key y ≠ k := fun he => hn.1 (by rw [hx, ← he]; exact List.mem_map_of_mem hy)
          rw [if_neg hne]
          rfl
        simp only [List.map_cons, hx, if_true, List.sum_cons, hrest]
        abel
      · simp only [List.find?_cons, hx, decide_false] at h
        simp only [List.map_cons, hx, if_false, List.sum_cons, ih hn.2 h]
        abel

theorem map_update {β : Type} {t : Table κ ρ key} {k : κ} {f : ρ → ρ} {hf : ∀ r, key (f r) = key r} (g : ρ → β)
    (hg : ∀ r, g (f r) = g r) : (update t k f hf).rows.map g = t.rows.map g := by
  simp only [update, List.map_map]
  refine List.map_congr_left fun r _ => ?_
  simp only [Function.comp_apply]
  split
  · exact hg r
  · rfl

end Table

end RevenueRescue
