import Mathlib.Algebra.BigOperators.Ring.List
import Mathlib.Algebra.Order.Field.Basic
import RevenueRescue.Foundation.Sums

namespace RevenueRescue.WeightedMean

open Sums

variable {α κ K : Type} [Field K]

def total (w : α → K) (rows : List α) : K := (rows.map w).sum

def mean (w x : α → K) (rows : List α) : K := (rows.map fun r => x r * w r).sum / total w rows

variable {w x y : α → K} {rows : List α} {c : K}

theorem mean_mul_total (h : total w rows ≠ 0) : mean w x rows * total w rows = (rows.map fun r => x r * w r).sum :=
  div_mul_cancel₀ _ h

theorem mean_sub : mean w (fun r => x r - y r) rows = mean w x rows - mean w y rows := by
  simp only [mean, sub_mul, sum_map_sub, sub_div]

theorem total_groups [DecidableEq κ] {key : α → κ} {keys : List κ} (hnodup : keys.Nodup) (h : ∀ r ∈ rows, key r ∈ keys) :
    (keys.map fun k => total w (rows.filter fun r => key r = k)).sum = total w rows :=
  sum_groups w hnodup h

variable [LinearOrder K] [IsStrictOrderedRing K]

theorem total_nonneg (hw : ∀ r ∈ rows, 0 ≤ w r) : 0 ≤ total w rows := sum_map_nonneg hw

theorem total_pos_iff (hw : ∀ r ∈ rows, 0 ≤ w r) : 0 < total w rows ↔ ∃ r ∈ rows, 0 < w r := sum_map_pos_iff hw

theorem total_eq_zero (hw : ∀ r ∈ rows, 0 ≤ w r) (h : ¬ 0 < total w rows) : total w rows = 0 :=
  le_antisymm (not_lt.mp h) (total_nonneg hw)

theorem total_pos (hw : ∀ r ∈ rows, 0 < w r) (hne : rows ≠ []) : 0 < total w rows := by
  obtain ⟨r, hr⟩ := List.exists_mem_of_ne_nil rows hne
  exact (total_pos_iff fun r hr => (hw r hr).le).mpr ⟨r, hr, hw r hr⟩

theorem mean_le (hw : ∀ r ∈ rows, 0 ≤ w r) (hpos : 0 < total w rows) (hx : ∀ r ∈ rows, x r ≤ c) :
    mean w x rows ≤ c := by
  rw [mean, div_le_iff₀ hpos, total, ← List.sum_map_mul_left]
  exact List.sum_le_sum fun r hr => mul_le_mul_of_nonneg_right (hx r hr) (hw r hr)

theorem le_mean (hw : ∀ r ∈ rows, 0 ≤ w r) (hpos : 0 < total w rows) (hx : ∀ r ∈ rows, c ≤ x r) :
    c ≤ mean w x rows := by
  rw [mean, le_div_iff₀ hpos, total, ← List.sum_map_mul_left]
  exact List.sum_le_sum fun r hr => mul_le_mul_of_nonneg_right (hx r hr) (hw r hr)

theorem mean_lt (hw : ∀ r ∈ rows, 0 < w r) (hne : rows ≠ []) (hx : ∀ r ∈ rows, x r < c) : mean w x rows < c := by
  rw [mean, div_lt_iff₀ (total_pos hw hne), total, ← List.sum_map_mul_left]
  exact List.sum_lt_sum_of_ne_nil hne _ _ fun r hr => mul_lt_mul_of_pos_right (hx r hr) (hw r hr)

theorem abs_mean_le (hw : ∀ r ∈ rows, 0 ≤ w r) (hpos : 0 < total w rows) :
    |mean w x rows| ≤ mean w (fun r => |x r|) rows := by
  rw [mean, mean, abs_div, abs_of_pos hpos]
  refine div_le_div_of_nonneg_right ((abs_sum_map_le _ rows).trans (le_of_eq ?_)) hpos.le
  congr 1
  refine List.map_congr_left fun r hr => ?_
  rw [abs_mul, abs_of_nonneg (hw r hr)]

/-- No value that carries weight differs from another one if and only if the variance is zero. -/
theorem variance_eq_zero_iff (hw : ∀ r ∈ rows, 0 ≤ w r) (hpos : 0 < total w rows) :
    (rows.map fun r => w r * (x r - mean w x rows) ^ 2).sum = 0 ↔
      ∀ r ∈ rows, ∀ r' ∈ rows, 0 < w r → 0 < w r' → x r = x r' := by
  rw [sum_map_eq_zero_iff fun r hr => mul_nonneg (hw r hr) (sq_nonneg _)]
  constructor
  · intro h
    have hmean : ∀ r ∈ rows, 0 < w r → x r = mean w x rows := by
      intro r hr hr0
      have hz := (mul_eq_zero.mp (h r hr)).resolve_left hr0.ne'
      exact sub_eq_zero.mp (pow_eq_zero_iff two_ne_zero |>.mp hz)
    intro r hr r' hr' hr0 hr0'
    rw [hmean r hr hr0, hmean r' hr' hr0']
  · intro h r hr
    rcases (hw r hr).eq_or_lt with hz | hr0
    · rw [← hz, zero_mul]
    · have hsum : (rows.map fun r' => x r' * w r').sum = x r * total w rows := by
        rw [total, ← List.sum_map_mul_left]
        congr 1
        refine List.map_congr_left fun r' hr' => ?_
        rcases (hw r' hr').eq_or_lt with hz | hr0'
        · rw [← hz, mul_zero, mul_zero]
        · rw [h r' hr' r hr hr0' hr0]
      rw [mean, hsum, mul_div_cancel_right₀ _ hpos.ne', sub_self]
      simp

/-- The mean is the mean of the means of the groups. -/
theorem mean_groups [DecidableEq κ] {key : α → κ} {keys : List κ} (hw : ∀ r ∈ rows, 0 ≤ w r) (hnodup : keys.Nodup) (h : ∀ r ∈ rows, key r ∈ keys) :
    (keys.map fun k => total w (rows.filter fun r => key r = k) / total w rows *
      mean w x (rows.filter fun r => key r = k)).sum = mean w x rows := by
  have hgroup : ∀ k, total w (rows.filter fun r => key r = k) / total w rows *
      mean w x (rows.filter fun r => key r = k) =
      ((rows.filter fun r => key r = k).map fun r => x r * w r).sum * (total w rows)⁻¹ := by
    intro k
    rw [div_eq_mul_inv, mul_right_comm]
    congr 1
    by_cases hz : total w (rows.filter fun r => key r = k) = 0
    · have hzero : ∀ r ∈ rows.filter fun r => key r = k, w r = 0 :=
        (sum_map_eq_zero_iff fun r hr => hw r (List.mem_of_mem_filter hr)).mp hz
      rw [hz, zero_mul, List.map_congr_left fun r hr => by rw [hzero r hr, mul_zero]]
      simp
    · rw [mul_comm, mean_mul_total hz]
  simp only [hgroup, List.sum_map_mul_right]
  rw [sum_groups _ hnodup h, mean, div_eq_mul_inv]

end RevenueRescue.WeightedMean
