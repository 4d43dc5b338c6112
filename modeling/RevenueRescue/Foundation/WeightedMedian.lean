import Mathlib.Tactic.Linarith
import RevenueRescue.Foundation.OrderStatistic
import RevenueRescue.Foundation.WeightedMean

namespace RevenueRescue.WeightedMedian

open Sums WeightedMean OrderStatistic

variable {α K : Type} [Field K] [LinearOrder K]

/-- The weight of the values that are below `c`. -/
def below (w x : α → K) (rows : List α) (c : K) : K := total w (rows.filter fun r => x r < c)

/-- The weight of the values that are not above `c`. -/
def upTo (w x : α → K) (rows : List α) (c : K) : K := total w (rows.filter fun r => x r ≤ c)

/-- The least value that half of the weight is not above. -/
structure IsLower (w x : α → K) (rows : List α) (c : K) : Prop where
  below_lt : (2 : Nat) * below w x rows c < total w rows
  le_upTo : total w rows ≤ (2 : Nat) * upTo w x rows c

/-- The least value that more than half of the weight is not above. -/
structure IsUpper (w x : α → K) (rows : List α) (c : K) : Prop where
  below_le : (2 : Nat) * below w x rows c ≤ total w rows
  lt_upTo : total w rows < (2 : Nat) * upTo w x rows c

variable [IsStrictOrderedRing K] {w x : α → K} {rows : List α} {a b c lo hi : K}

theorem total_filter_mono {p q : α → Bool} (hw : ∀ r ∈ rows, 0 ≤ w r) (h : ∀ r ∈ rows, p r = true → q r = true) :
    total w (rows.filter p) ≤ total w (rows.filter q) := by
  induction rows with
  | nil => exact le_rfl
  | cons r rows ih =>
      have hrest := ih (fun r' hr' => hw r' (List.mem_cons_of_mem _ hr')) fun r' hr' => h r' (List.mem_cons_of_mem _ hr')
      have hhead : (if p r = true then w r else 0) ≤ if q r = true then w r else 0 := by
        by_cases hp : p r = true
        · rw [if_pos hp, if_pos (h r List.mem_cons_self hp)]
        · rw [if_neg hp]
          split
          · exact hw r List.mem_cons_self
          · exact le_rfl
      rw [total, total, sum_filter_cons, sum_filter_cons]
      exact add_le_add hhead hrest

theorem upTo_le_below (hw : ∀ r ∈ rows, 0 ≤ w r) (h : a < b) : upTo w x rows a ≤ below w x rows b :=
  total_filter_mono hw fun _ _ hr => decide_eq_true ((of_decide_eq_true hr).trans_lt h)

theorem upTo_mono (hw : ∀ r ∈ rows, 0 ≤ w r) (h : a ≤ b) : upTo w x rows a ≤ upTo w x rows b :=
  total_filter_mono hw fun _ _ hr => decide_eq_true ((of_decide_eq_true hr).trans h)

theorem double_le_double (h : a ≤ b) : ((2 : Nat) : K) * a ≤ (2 : Nat) * b := mul_le_mul_of_nonneg_left h (Nat.cast_nonneg 2)

theorem IsUpper.unique (hw : ∀ r ∈ rows, 0 ≤ w r) (ha : IsUpper w x rows a) (hb : IsUpper w x rows b) : a = b := by
  rcases lt_trichotomy a b with hlt | rfl | hlt
  · exact absurd (ha.lt_upTo.trans_le ((double_le_double (upTo_le_below hw hlt)).trans hb.below_le)) (lt_irrefl _)
  · rfl
  · exact absurd (hb.lt_upTo.trans_le ((double_le_double (upTo_le_below hw hlt)).trans ha.below_le)) (lt_irrefl _)

theorem IsLower.unique (hw : ∀ r ∈ rows, 0 ≤ w r) (ha : IsLower w x rows a) (hb : IsLower w x rows b) : a = b := by
  rcases lt_trichotomy a b with hlt | rfl | hlt
  · exact absurd (ha.le_upTo.trans_lt ((double_le_double (upTo_le_below hw hlt)).trans_lt hb.below_lt)) (lt_irrefl _)
  · rfl
  · exact absurd (hb.le_upTo.trans_lt ((double_le_double (upTo_le_below hw hlt)).trans_lt ha.below_lt)) (lt_irrefl _)

omit [IsStrictOrderedRing K] in
theorem IsLower.mem (h : IsLower w x rows c) : ∃ r ∈ rows, x r = c := by
  by_contra hno
  have hsame : upTo w x rows c = below w x rows c := by
    rw [upTo, below]
    congr 1
    refine List.filter_congr fun r hr => decide_eq_decide.mpr ?_
    exact (lt_iff_le_and_ne.trans (and_iff_left fun he => hno ⟨r, hr, he⟩)).symm
  exact absurd (h.le_upTo.trans_lt (hsame ▸ h.below_lt)) (lt_irrefl _)

/-- The two medians are one if and only if no value has exactly half of the weight not above it. -/
theorem lower_eq_upper_iff (hw : ∀ r ∈ rows, 0 ≤ w r) (hlo : IsLower w x rows lo) (hhi : IsUpper w x rows hi) :
    lo = hi ↔ ∀ r ∈ rows, (2 : Nat) * upTo w x rows (x r) ≠ total w rows := by
  constructor
  · rintro rfl r hr he
    rcases lt_or_ge (x r) lo with hlt | hle
    · have h := double_le_double (upTo_le_below (x := x) hw hlt)
      exact absurd (hlo.below_lt.trans_le (he.ge.trans h)) (lt_irrefl _)
    · have h := double_le_double (upTo_mono (x := x) hw hle)
      exact absurd (hhi.lt_upTo.trans_le (h.trans he.le)) (lt_irrefl _)
  · intro hno
    obtain ⟨r, hr, rfl⟩ := hlo.mem
    exact IsUpper.unique hw ⟨hlo.below_lt.le, hlo.le_upTo.lt_of_ne (hno r hr).symm⟩ hhi

section Equal

variable {k : K}

omit [LinearOrder K] [IsStrictOrderedRing K] in
theorem total_equal (hk : ∀ r ∈ rows, w r = k) : total w rows = rows.length * k := by
  rw [total, List.map_congr_left hk, List.map_const', List.sum_replicate, nsmul_eq_mul]

omit [LinearOrder K] [IsStrictOrderedRing K] in
theorem total_filter_equal (hk : ∀ r ∈ rows, w r = k) (p : K → Bool) :
    total w (rows.filter fun r => p (x r)) = (rows.map x).countP p * k := by
  rw [total_equal fun r hr => hk r (List.mem_of_mem_filter hr), ← List.countP_eq_length_filter, List.countP_map]
  rfl

/-- Where all weights are one number, a place in the sorted values is the lower median. -/
theorem isLower_kth (hk : ∀ r ∈ rows, w r = k) (hpos : 0 < k) (hc : kth (rows.map x) ((rows.length - 1) / 2) = some c) :
    IsLower w x rows c := by
  obtain ⟨hbelow, hupTo⟩ := kth_eq_some.mp hc
  have hne : 0 < rows.length := by
    have h := hupTo.trans_le List.countP_le_length
    rw [List.length_map] at h
    omega
  constructor
  · rw [below, total_filter_equal hk fun v => v < c, total_equal hk, ← mul_assoc, ← Nat.cast_mul]
    exact mul_lt_mul_of_pos_right (Nat.cast_lt.mpr (by omega)) hpos
  · rw [upTo, total_filter_equal hk fun v => v ≤ c, total_equal hk, ← mul_assoc, ← Nat.cast_mul]
    exact mul_le_mul_of_nonneg_right (Nat.cast_le.mpr (by omega)) hpos.le

theorem isUpper_kth (hk : ∀ r ∈ rows, w r = k) (hpos : 0 < k) (hc : kth (rows.map x) (rows.length / 2) = some c) :
    IsUpper w x rows c := by
  obtain ⟨hbelow, hupTo⟩ := kth_eq_some.mp hc
  constructor
  · rw [below, total_filter_equal hk fun v => v < c, total_equal hk, ← mul_assoc, ← Nat.cast_mul]
    exact mul_le_mul_of_nonneg_right (Nat.cast_le.mpr (by omega)) hpos.le
  · rw [upTo, total_filter_equal hk fun v => v ≤ c, total_equal hk, ← mul_assoc, ← Nat.cast_mul]
    exact mul_lt_mul_of_pos_right (Nat.cast_lt.mpr (by omega)) hpos

end Equal

end RevenueRescue.WeightedMedian
