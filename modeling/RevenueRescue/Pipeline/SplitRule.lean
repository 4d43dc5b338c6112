import RevenueRescue.Pipeline.SparkWindows

namespace RevenueRescue.Pipeline

open OrderStatistic PyFloat

/-- `floor(q * N)` as the code has it, with a product of doubles. -/
def floorProduct (q : ℚ) (n : Nat) : ℤ := ⌊double (double q * double n)⌋

/-- What the rule promises of a column of timestamps, its cut-offs and its splits. -/
structure SplitRule (timestamps : List Int) (cutoffs : Int × Int) (split : Int → Split) : Prop where
  first_cutoff : IsKth timestamps
    (min (floorProduct splitFractions.1 timestamps.length).toNat (timestamps.length - 1)) cutoffs.1
  second_cutoff : IsKth timestamps
    (min (floorProduct splitFractions.2 timestamps.length).toNat (timestamps.length - 1)) cutoffs.2
  train : ∀ t, split t = .train ↔ t < cutoffs.1
  validation : ∀ t, split t = .validation ↔ cutoffs.1 ≤ t ∧ t < cutoffs.2
  test : ∀ t, split t = .test ↔ cutoffs.2 ≤ t
  train_validation : ∀ s ∈ timestamps, ∀ t ∈ timestamps, split s = .train → split t = .validation → s < t
  validation_test : ∀ s ∈ timestamps, ∀ t ∈ timestamps, split s = .validation → split t = .test → s < t
  train_test : ∀ s ∈ timestamps, ∀ t ∈ timestamps, split s = .train → split t = .test → s < t
  train_count : timestamps.countP (split · = .train) ≤ floorProduct splitFractions.1 timestamps.length
  validation_count : timestamps.countP (fun t => split t = .train ∨ split t = .validation) ≤
    floorProduct splitFractions.2 timestamps.length
  test_nonempty : ∃ t ∈ timestamps, split t = .test

variable {timestamps : List Int} {cutoffs : Int × Int} {q : ℚ} {n : Nat}

theorem floorProduct_nonneg (hq : 0 ≤ q) : 0 ≤ floorProduct q n :=
  Int.floor_nonneg.mpr (double_nonneg (mul_nonneg (double_nonneg hq) (double_nonneg (Nat.cast_nonneg n))))

theorem cutoffIndex_le (hq : 0 ≤ q) : (cutoffIndex q n : ℤ) ≤ floorProduct q n := by
  have hmin : cutoffIndex q n ≤ (floorProduct q n).toNat := min_le_left _ _
  have hnonneg : 0 ≤ floorProduct q n := floorProduct_nonneg hq
  omega

theorem double_natCast (h : n < 2 ^ 53) : double n = n := by
  rcases Nat.eq_zero_or_pos n with rfl | hpos
  · decide +kernel
  · have hlt : (n : ℚ) < 2 ^ (53 : ℕ) := by exact_mod_cast h
    exact double_of_dyadic (k := n) (e := 0) (by exact_mod_cast hpos) (by simp) (by simpa using hlt)

/-- On a table that fits in a memory the doubles do not push the product over an integer. -/
theorem floorProduct_le {a : ℕ} (hq : double (a / 100) ≤ a / 100) (ha : a ≤ 100) (hn : n < 2 ^ 45) :
    floorProduct (a / 100) n ≤ (a * n / 100 : ℕ) := by
  have hdiv := Nat.div_add_mod (a * n) 100
  have hmod := Nat.mod_lt (a * n) (by norm_num : 100 > 0)
  have hle : a * n / 100 ≤ n := by
    rw [Nat.div_le_iff_le_mul_add_pred (by norm_num)]
    nlinarith
  generalize a * n / 100 = m at hdiv hle ⊢
  have hproduct : double (a / 100) * double n ≤ m + 127 / 128 := by
    have hexact : (a : ℚ) * n ≤ 100 * m + 99 := by
      have hnat : a * n ≤ 100 * m + 99 := by omega
      exact_mod_cast hnat
    rw [double_natCast (by omega)]
    calc double (a / 100) * n ≤ a / 100 * n := mul_le_mul_of_nonneg_right hq (Nat.cast_nonneg n)
      _ ≤ m + 127 / 128 := by linarith
  have hrepresented : double (m + 127 / 128) = m + 127 / 128 := by
    have hm : (m : ℚ) < 2 ^ 45 := by exact_mod_cast (by omega : m < 2 ^ 45)
    refine double_of_dyadic (k := 128 * m + 127) (e := 7) (by positivity) ?_ ?_
    · push_cast
      ring
    · have hpow : (2 : ℚ) ^ (53 - (7 : ℕ) : ℤ) = 2 ^ 46 := by norm_num
      rw [hpow]
      linarith
  have hnonneg : 0 ≤ double (a / 100) * double n :=
    mul_nonneg (double_nonneg (by positivity)) (double_nonneg (Nat.cast_nonneg n))
  have hround := double_mono hnonneg hproduct
  rw [hrepresented] at hround
  have hlt : floorProduct (a / 100) n < m + 1 := by
    rw [floorProduct, Int.floor_lt]
    push_cast
    linarith
  omega

theorem split_ne_test (h : cutoffs.1 ≤ cutoffs.2) {t : Int} :
    assignChronoSplit cutoffs t = .train ∨ assignChronoSplit cutoffs t = .validation ↔ t < cutoffs.2 := by
  have htest := split_eq_test (t := t) h
  cases hs : assignChronoSplit cutoffs t <;> rw [hs] at htest <;> simp at htest ⊢ <;> omega

theorem split_eq_validation (h : cutoffs.1 ≤ cutoffs.2) {t : Int} :
    assignChronoSplit cutoffs t = .validation ↔ cutoffs.1 ≤ t ∧ t < cutoffs.2 := by
  rw [← split_ne_test h, ← not_lt, ← split_eq_train]
  cases assignChronoSplit cutoffs t <;> simp

theorem split_rule (h : chronoCutoffs timestamps = some cutoffs) :
    SplitRule timestamps cutoffs (assignChronoSplit cutoffs) := by
  have hordered := cutoffs_ordered h
  obtain ⟨h70, h85⟩ := chronoCutoffs_eq_some.mp h
  have h70 := kth_eq_some.mp h70
  have h85k := kth_eq_some.mp h85
  refine ⟨h70, h85k, fun t => split_eq_train, fun t => split_eq_validation hordered, fun t => split_eq_test hordered,
    ?_, ?_, ?_, ?_, ?_, ?_⟩
  · intro s _ t _ hs ht
    exact (split_eq_train.mp hs).trans_le ((split_eq_validation hordered).mp ht).1
  · intro s _ t _ hs ht
    exact ((split_eq_validation hordered).mp hs).2.trans_le ((split_eq_test hordered).mp ht)
  · intro s _ t _ hs ht
    exact (split_eq_train.mp hs).trans_le (hordered.trans ((split_eq_test hordered).mp ht))
  · simp only [split_eq_train]
    have hcount : (timestamps.countP (· < cutoffs.1) : ℤ) ≤ cutoffIndex splitFractions.1 timestamps.length := by
      exact_mod_cast h70.below_le
    exact hcount.trans (cutoffIndex_le (by norm_num [splitFractions]))
  · simp only [split_ne_test hordered]
    have hcount : (timestamps.countP (· < cutoffs.2) : ℤ) ≤ cutoffIndex splitFractions.2 timestamps.length := by
      exact_mod_cast h85k.below_le
    exact hcount.trans (cutoffIndex_le (by norm_num [splitFractions]))
  · exact ⟨cutoffs.2, Window.mem_orderBy.mp (List.mem_of_getElem? h85), (split_eq_test hordered).mpr le_rfl⟩

/-- The fractions of the rule, as floors over the integers. -/
theorem floorProducts_le (hn : n < 2 ^ 45) : floorProduct splitFractions.1 n ≤ (70 * n / 100 : ℕ) ∧
    floorProduct splitFractions.2 n ≤ (85 * n / 100 : ℕ) :=
  ⟨floorProduct_le (a := 70) (by decide +kernel) (by norm_num) hn,
    floorProduct_le (a := 85) (by decide +kernel) (by norm_num) hn⟩

/-- Pandas counts in nanoseconds. -/
def nanos (second : Int) : Int := 1000000000 * second

/-- On whole seconds both engines cut at the same instants, by the rule. -/
theorem split_rule_shared (seconds : List Int) (h : seconds ≠ []) :
    ∃ cutoffs : Int × Int, SparkBigDataPipeline.exactCutoffs seconds = some cutoffs ∧
      chronoCutoffs (seconds.map nanos) = some (nanos cutoffs.1, nanos cutoffs.2) ∧
      (∀ t, assignChronoSplit (nanos cutoffs.1, nanos cutoffs.2) (nanos t) = assignChronoSplit cutoffs t) ∧
      SplitRule seconds cutoffs (assignChronoSplit cutoffs) ∧
      (seconds.length < 2 ^ 45 →
        seconds.countP (fun t => assignChronoSplit cutoffs t = .train) ≤ 70 * seconds.length / 100 ∧
        seconds.countP (fun t => assignChronoSplit cutoffs t = .train ∨ assignChronoSplit cutoffs t = .validation) ≤
          85 * seconds.length / 100) := by
  obtain ⟨cutoffs, hc⟩ := exists_cutoffs h
  have hrule := split_rule hc
  refine ⟨cutoffs, ?_, ?_, fun t => ?_, hrule, fun hn => ?_⟩
  · rw [SparkBigDataPipeline.exactCutoffs_eq, hc]
  · rw [chronoCutoffs_map fun a b hab => by unfold nanos; omega, hc]
    rfl
  · simp only [assignChronoSplit, nanos, Int.mul_lt_mul_left (by norm_num : (0 : Int) < 1000000000)]
  · obtain ⟨h70, h85⟩ := floorProducts_le hn
    exact ⟨by exact_mod_cast hrule.train_count.trans h70, by exact_mod_cast hrule.validation_count.trans h85⟩

theorem split_rule_shared_sample : ∃ cutoffs : Int × Int,
    SparkBigDataPipeline.exactCutoffs [2, 1, 1] = some cutoffs ∧
      chronoCutoffs ([2, 1, 1].map nanos) = some (nanos cutoffs.1, nanos cutoffs.2) ∧
      (∀ t, assignChronoSplit (nanos cutoffs.1, nanos cutoffs.2) (nanos t) = assignChronoSplit cutoffs t) ∧
      SplitRule [2, 1, 1] cutoffs (assignChronoSplit cutoffs) := by
  obtain ⟨cutoffs, hspark, hpandas, hsplit, hrule, -⟩ := split_rule_shared [2, 1, 1] (by simp)
  exact ⟨cutoffs, hspark, hpandas, hsplit, hrule⟩

end RevenueRescue.Pipeline
