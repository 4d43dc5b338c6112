import Mathlib.Algebra.BigOperators.Group.List.Basic
import Mathlib.Algebra.Order.Group.Abs
import Mathlib.Algebra.Order.BigOperators.Group.List
import Mathlib.Data.List.Nodup

namespace RevenueRescue.Sums

variable {α κ μ : Type}

section Groups

variable [DecidableEq κ] [AddCommMonoid μ] {key : α → κ} {keys : List κ} {rows : List α}

theorem sum_single {k : κ} (x : μ) (hnodup : keys.Nodup) (hk : k ∈ keys) :
    (keys.map fun other => if other = k then x else 0).sum = x := by
  have hother : ∀ other, other ≠ k → other ∈ keys → (if other = k then x else 0) = 0 := fun _ ho _ => if_neg ho
  rw [List.sum_map_eq_nsmul_single k _ hother, List.count_eq_one_of_mem hnodup hk, one_nsmul, if_pos rfl]

/-- A sum over rows is the sum of the sums over the groups, if each row is in one group. -/
theorem sum_groups (f : α → μ) (hnodup : keys.Nodup) (h : ∀ row ∈ rows, key row ∈ keys) :
    (keys.map fun k => ((rows.filter fun row => key row = k).map f).sum).sum = (rows.map f).sum := by
  induction rows with
  | nil => simp
  | cons row rows ih =>
      have hrest := ih fun other ho => h other (List.mem_cons_of_mem _ ho)
      have hsplit : ∀ k, (((row :: rows).filter fun other => key other = k).map f).sum =
          (if k = key row then f row else 0) + ((rows.filter fun other => key other = k).map f).sum := by
        intro k
        by_cases hk : key row = k
        · simp [hk]
        · simp [hk, Ne.symm hk]
      simp only [hsplit]
      rw [List.sum_map_add, sum_single (f row) hnodup (h row List.mem_cons_self), hrest, List.map_cons, List.sum_cons]

end Groups

theorem sum_filter_cons [AddCommMonoid μ] (p : α → Bool) (f : α → μ) (r : α) (rows : List α) :
    (((r :: rows).filter p).map f).sum = (if p r = true then f r else 0) + ((rows.filter p).map f).sum := by
  by_cases hp : p r = true
  · rw [List.filter_cons_of_pos hp, List.map_cons, List.sum_cons, if_pos hp]
  · rw [List.filter_cons_of_neg hp, if_neg hp, zero_add]

theorem sum_filter_map [AddCommMonoid μ] {p : α → Bool} {f : α → μ} {rows : List α}
    (h : ∀ r ∈ rows, p r = false → f r = 0) : ((rows.filter p).map f).sum = (rows.map f).sum := by
  induction rows with
  | nil => rfl
  | cons r rows ih =>
      have hrest := ih fun r' hr' => h r' (List.mem_cons_of_mem _ hr')
      cases hp : p r with
      | true => rw [List.filter_cons_of_pos hp, List.map_cons, List.sum_cons, hrest, List.map_cons, List.sum_cons]
      | false =>
          rw [List.filter_cons_of_neg (by simp [hp]), hrest, List.map_cons, List.sum_cons,
            h r List.mem_cons_self hp, zero_add]

theorem sum_map_sub [AddCommGroup μ] (f g : α → μ) (rows : List α) :
    (rows.map fun r => f r - g r).sum = (rows.map f).sum - (rows.map g).sum := by
  induction rows with
  | nil => simp
  | cons r rows ih =>
      simp only [List.map_cons, List.sum_cons, ih]
      exact sub_add_sub_comm ..

theorem sum_filter_ite [AddCommMonoid μ] (p : α → Bool) (f : α → μ) (rows : List α) :
    ((rows.filter p).map f).sum = (rows.map fun r => if p r = true then f r else 0).sum := by
  induction rows with
  | nil => rfl
  | cons r rows ih => rw [sum_filter_cons, ih, List.map_cons, List.sum_cons]

section Repetition

/-- Each element as often as the number at its place says. -/
def repeated (counts : List Nat) (xs : List α) : List α := (xs.zip counts).flatMap fun x => List.replicate x.2 x.1

variable {counts : List Nat} {xs : List α}

theorem repeated_cons (n : Nat) (x : α) : repeated (n :: counts) (x :: xs) = List.replicate n x ++ repeated counts xs := rfl

theorem map_repeated {β : Type} (f : α → β) (counts : List Nat) (xs : List α) :
    (repeated counts xs).map f = repeated counts (xs.map f) := by
  rw [repeated, repeated, List.map_flatMap, List.zip_map_left, List.flatMap_map]
  simp only [List.map_replicate, Prod.map_fst, Prod.map_snd, id_eq]

theorem sum_repeated [AddCommMonoid μ] (f : α → μ) (counts : List Nat) (xs : List α) :
    ((repeated counts xs).map f).sum = ((xs.zip counts).map fun x => x.2 • f x.1).sum := by
  rw [repeated, List.map_flatMap, List.flatMap, List.sum_flatten, List.map_map]
  congr 1
  refine List.map_congr_left fun x _ => ?_
  simp

theorem mem_of_mem_repeated {x : α} (h : x ∈ repeated counts xs) : x ∈ xs := by
  obtain ⟨y, hy, hx⟩ := List.mem_flatMap.mp h
  rw [List.eq_of_mem_replicate hx]
  exact (List.of_mem_zip hy).1

theorem repeated_ne_nil (hlen : counts.length = xs.length) (hpos : ∀ n ∈ counts, 0 < n) (hne : xs ≠ []) :
    repeated counts xs ≠ [] := by
  obtain ⟨x, xs, rfl⟩ := List.exists_cons_of_ne_nil hne
  cases counts with
  | nil => cases hlen
  | cons n counts =>
      have hn := hpos n List.mem_cons_self
      rw [repeated_cons]
      simp [hn.ne']

end Repetition

section Signs

variable [AddCommGroup μ] [LinearOrder μ] [IsOrderedAddMonoid μ] {f : α → μ} {rows : List α}

theorem sum_map_nonneg (h : ∀ r ∈ rows, 0 ≤ f r) : 0 ≤ (rows.map f).sum := by
  apply List.sum_nonneg
  intro x hx
  obtain ⟨r, hr, rfl⟩ := List.mem_map.mp hx
  exact h r hr

theorem sum_map_eq_zero_iff (h : ∀ r ∈ rows, 0 ≤ f r) : (rows.map f).sum = 0 ↔ ∀ r ∈ rows, f r = 0 := by
  have hnonneg : ∀ x ∈ rows.map f, 0 ≤ x := by
    intro x hx
    obtain ⟨r, hr, rfl⟩ := List.mem_map.mp hx
    exact h r hr
  constructor
  · intro hz r hr
    exact List.all_zero_of_le_zero_le_of_sum_eq_zero hnonneg hz (List.mem_map_of_mem hr)
  · intro hz
    rw [List.map_congr_left hz]
    simp

theorem sum_map_pos_iff (h : ∀ r ∈ rows, 0 ≤ f r) : 0 < (rows.map f).sum ↔ ∃ r ∈ rows, 0 < f r := by
  constructor
  · intro hpos
    by_contra hno
    have hz : (rows.map f).sum = 0 := by
      rw [sum_map_eq_zero_iff h]
      intro r hr
      exact le_antisymm (not_lt.mp fun hlt => hno ⟨r, hr, hlt⟩) (h r hr)
    exact hpos.ne' hz
  · rintro ⟨r, hr, hlt⟩
    refine lt_of_le_of_ne (sum_map_nonneg h) fun hz => ?_
    exact hlt.ne' ((sum_map_eq_zero_iff h).mp hz.symm r hr)

theorem abs_sum_map_le (f : α → μ) (rows : List α) : |(rows.map f).sum| ≤ (rows.map fun r => |f r|).sum := by
  have h := List.le_sum_of_subadditive (fun x : μ => |x|) abs_zero.le abs_add_le (rows.map f)
  simpa only [List.map_map, Function.comp_def] using h

end Signs

end RevenueRescue.Sums
