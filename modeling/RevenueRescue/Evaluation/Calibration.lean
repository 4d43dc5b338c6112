import RevenueRescue.Evaluation.ProbabilityMetrics
import RevenueRescue.Foundation.OrderStatistic

namespace RevenueRescue.Evaluation

open WeightedMean Sums

variable {K : Type} [Field K] [LinearOrder K] [IsStrictOrderedRing K]

/-- The interval of a bin, which is open above except in the last bin. -/
def InBin (nBins b : Nat) (p : K) : Prop :=
  edge nBins b ≤ p ∧ (p < edge nBins (b + 1) ∨ b + 1 = nBins ∧ p ≤ edge nBins (b + 1))

instance decidableInBin (nBins b : Nat) (p : K) : Decidable (InBin nBins b p) :=
  inferInstanceAs (Decidable (_ ∧ _))

section Bins

variable {nBins b k : Nat} {p : K}

theorem edge_mono (nBins : Nat) : Monotone (edge nBins : Nat → K) := fun _ _ h =>
  div_le_div_of_nonneg_right (Nat.cast_le.mpr h) (Nat.cast_nonneg nBins)

theorem edge_self (hn : 0 < nBins) : edge nBins nBins = (1 : K) := div_self (Nat.cast_ne_zero.mpr hn.ne')

omit [IsStrictOrderedRing K] in
theorem digitize_le (nBins : Nat) (p : K) : digitize p (interiorEdges nBins) ≤ nBins - 1 :=
  List.countP_le_length.trans (by simp [interiorEdges])

/-- The edges that are not above `p` are the first ones. -/
theorem lt_digitize_iff (hk : k < nBins - 1) : k < digitize p (interiorEdges nBins) ↔ edge nBins (k + 1) ≤ p := by
  have hsorted : (interiorEdges nBins : List K).Pairwise (· ≤ ·) := by
    refine List.pairwise_map.mpr (List.pairwise_lt_range.imp fun hij => edge_mono nBins ?_)
    omega
  have hget : (interiorEdges nBins : List K)[k]? = some (edge nBins (k + 1)) := by
    simp [interiorEdges, hk]
  rw [digitize, OrderStatistic.lt_countP_iff hsorted (by simpa using fun a b => le_trans) hget, decide_eq_true_eq]

omit [IsStrictOrderedRing K] in
theorem binIndex_lt (hn : 1 ≤ nBins) (p : K) : binIndex nBins p < nBins := by
  have h := Nat.min_le_right (digitize p (interiorEdges nBins)) (nBins - 1)
  rw [binIndex]
  omega

theorem binIndex_eq_iff (h0 : 0 ≤ p) (h1 : p ≤ 1) (hb : b < nBins) : binIndex nBins p = b ↔ InBin nBins b p := by
  have hd := digitize_le nBins p
  have hclip : binIndex nBins p = digitize p (interiorEdges nBins) := Nat.min_eq_left hd
  have hlower : b ≤ digitize p (interiorEdges nBins) ↔ edge nBins b ≤ p := by
    cases b with
    | zero => simpa [edge] using h0
    | succ k => exact lt_digitize_iff (by omega)
  have hupper : digitize p (interiorEdges nBins) ≤ b ↔ p < edge nBins (b + 1) ∨ b + 1 = nBins := by
    by_cases hlast : b + 1 = nBins
    · simp only [hlast, or_true, iff_true]
      omega
    · rw [← not_lt, lt_digitize_iff (by omega), not_le]
      simp [hlast]
  have hone : b + 1 = nBins → p ≤ edge nBins (b + 1) := fun hlast => by
    rw [hlast, edge_self (by omega)]
    exact h1
  rw [hclip, le_antisymm_iff, hlower, hupper, InBin, and_comm]
  refine and_congr_right fun _ => or_congr_right ?_
  exact ⟨fun hlast => ⟨hlast, hone hlast⟩, fun h => h.1⟩

end Bins

section Figures

variable {rows : List (Row K)} {nBins b : Nat}

/-- The bins that are not empty. -/
def filledBins (nBins : Nat) (rows : List (Row K)) : List Nat :=
  (List.range nBins).filter fun b => (binRows nBins b rows).length ≠ 0

def gap (rows : List (Row K)) (nBins b : Nat) : Option K :=
  (wmean Row.yf (binRows nBins b rows)).bind fun obs => (wmean Row.p (binRows nBins b rows)).map fun mp => |obs - mp|

omit [IsStrictOrderedRing K] in
theorem mem_filledBins : b ∈ filledBins nBins rows ↔ b < nBins ∧ binRows nBins b rows ≠ [] := by
  simp [filledBins]

omit [IsStrictOrderedRing K] in
theorem filledBins_ne_nil (hn : 1 ≤ nBins) (hne : rows ≠ []) : filledBins nBins rows ≠ [] := by
  obtain ⟨r, hr⟩ := List.exists_mem_of_ne_nil rows hne
  refine List.ne_nil_of_mem (a := binIndex nBins r.p) (mem_filledBins.mpr ⟨binIndex_lt hn r.p, ?_⟩)
  exact List.ne_nil_of_mem (List.mem_filter.mpr ⟨hr, by simp⟩)

omit [IsStrictOrderedRing K] in
theorem filled_gaps (rows : List (Row K)) (nBins minBinCount : Nat) (f : CalibrationBin K → Option K → Option K) :
    ((((List.range nBins).map (calibrationBin rows nBins minBinCount)).filter fun b => b.count ≠ 0).map
        fun b => f b b.absGap.join) =
      (filledBins nBins rows).map fun b => f (calibrationBin rows nBins minBinCount b) (gap rows nBins b) := by
  rw [List.filter_map, List.map_map, filledBins]
  refine List.map_congr_left fun b hb => ?_
  have hcount : (binRows nBins b rows).length ≠ 0 := of_decide_eq_true (List.mem_filter.mp hb).2
  simp [calibrationBin, hcount, gap]

/-- The gap of a bin that carries weight. -/
def gapOf (rows : List (Row K)) (nBins b : Nat) : K :=
  |mean Row.w Row.yf (binRows nBins b rows) - mean Row.w Row.p (binRows nBins b rows)|

omit [IsStrictOrderedRing K] in
theorem gap_pos (h : 0 < total Row.w (binRows nBins b rows)) : gap rows nBins b = some (gapOf rows nBins b) := by
  rw [gap, wmean_pos h, wmean_pos h]
  rfl

omit [IsStrictOrderedRing K] in
theorem gap_zero (h : total Row.w (binRows nBins b rows) = 0) : gap rows nBins b = none := by
  rw [gap, wmean, if_pos h]
  rfl

/-- What the weight of a bin makes of its gap in the expected calibration error. -/
def share (rows : List (Row K)) (nBins b : Nat) : K := total Row.w (binRows nBins b rows) / total Row.w rows

/-- The rows with the probabilities that the log loss is taken of. -/
def clipped (rows : List (Row K)) : List (Row K) :=
  rows.map fun r => { r with p := min (max r.p logLossEps) (1 - logLossEps) }

/-- What `probability_metrics` returns: four figures. -/
theorem probabilityMetrics_values (logLoss : List (Row K) → K) {inputs : Inputs K} {s : Sample K}
    (h : validateInputs inputs = .ok s) (hn : 1 ≤ nBins) :
    ∃ out mce, probabilityMetrics logLoss inputs nBins =
        .ok (out, (List.range nBins).map (calibrationBin s.rows nBins 30)) ∧
      nanMax ((filledBins nBins s.rows).map (gap s.rows nBins)) = some mce ∧
      out = ((((({} : MetricResult Metric K).set .logLoss (some (logLoss (clipped s.rows)))).set .brier
        (some (mean Row.w (fun r => (r.p - r.yf) ^ 2) s.rows))).set .ece
          (nanSum ((filledBins nBins s.rows).map fun b =>
            (gap s.rows nBins b).map fun g => share s.rows nBins b * g))).set .mce mce) := by
  have hne : (filledBins nBins s.rows).map (gap s.rows nBins) ≠ [] := by
    simpa using filledBins_ne_nil hn s.rows_ne
  obtain ⟨mce, hmce⟩ := nanMax_ne_none hne
  have hbins : calibrationBins s.inputs nBins = .ok ((List.range nBins).map (calibrationBin s.rows nBins 30)) := by
    rw [calibrationBins, if_neg (by omega), validateInputs_inputs]
    rfl
  have hgaps := filled_gaps s.rows nBins 30 fun _ g => g
  have hece := filled_gaps s.rows nBins 30 fun b g => g.map fun g => b.weight / total Row.w s.rows * g
  rw [probabilityMetrics, h, ok_bind, hbins, ok_bind]
  simp only [hgaps, hmce, hece, wmean_pos s.weight_pos]
  exact ⟨_, mce, rfl, rfl, rfl⟩

/-- Only the last two figures can be undefined. -/
theorem probabilityMetrics_ok (logLoss : List (Row K) → K) {inputs : Inputs K} {s : Sample K}
    (h : validateInputs inputs = .ok s) (hn : 1 ≤ nBins) :
    ∃ out mce, probabilityMetrics logLoss inputs nBins =
        .ok (out, (List.range nBins).map (calibrationBin s.rows nBins 30)) ∧
      out.values .ece = some (nanSum ((filledBins nBins s.rows).map fun b =>
        (gap s.rows nBins b).map fun g => share s.rows nBins b * g)) ∧
      nanMax ((filledBins nBins s.rows).map (gap s.rows nBins)) = some mce ∧ out.values .mce = some mce ∧
      ∀ m, out.values m = some none → (m = .ece ∨ m = .mce) ∧ out.undefined m = some "undefined" := by
  obtain ⟨out, mce, hout, hmce, rfl⟩ := probabilityMetrics_values logLoss h hn
  refine ⟨_, mce, hout, by simp, hmce, by simp, fun m hm => ?_⟩
  by_cases hmce' : m = .mce
  · subst hmce'
    simpa using hm
  · by_cases hece' : m = .ece
    · subst hece'
      simpa using hm
    · simp only [MetricResult.set_values, hmce', hece', if_false] at hm
      split at hm
      · cases hm
      · split at hm <;> cases hm

/-- Where every filled bin carries weight, the two figures are numbers. -/
theorem calibration_figures (logLoss : List (Row K) → K) {inputs : Inputs K} {s : Sample K}
    (h : validateInputs inputs = .ok s) (hn : 1 ≤ nBins)
    (hpos : ∀ b ∈ filledBins nBins s.rows, 0 < total Row.w (binRows nBins b s.rows)) :
    ∃ out mce, probabilityMetrics logLoss inputs nBins =
        .ok (out, (List.range nBins).map (calibrationBin s.rows nBins 30)) ∧
      out.values .ece = some (some ((filledBins nBins s.rows).map fun b => share s.rows nBins b * gapOf s.rows nBins b).sum) ∧
      out.values .mce = some (some mce) ∧ (∃ b ∈ filledBins nBins s.rows, mce = gapOf s.rows nBins b) ∧
      ∀ b ∈ filledBins nBins s.rows, gapOf s.rows nBins b ≤ mce := by
  obtain ⟨out, mce, hout, hece, hmax, hmce, -⟩ := probabilityMetrics_ok logLoss h hn
  have hgaps : (filledBins nBins s.rows).map (gap s.rows nBins) =
      ((filledBins nBins s.rows).map (gapOf s.rows nBins)).map some := by
    rw [List.map_map]
    exact List.map_congr_left fun b hb => gap_pos (hpos b hb)
  have hterms : ((filledBins nBins s.rows).map fun b => (gap s.rows nBins b).map fun g => share s.rows nBins b * g) =
      ((filledBins nBins s.rows).map fun b => share s.rows nBins b * gapOf s.rows nBins b).map some := by
    rw [List.map_map]
    refine List.map_congr_left fun b hb => ?_
    rw [gap_pos (hpos b hb)]
    rfl
  have hne : (filledBins nBins s.rows).map (gapOf s.rows nBins) ≠ [] := by
    simpa using filledBins_ne_nil hn s.rows_ne
  obtain ⟨m, hm, hmem, hle⟩ := nanMax_some hne
  rw [hgaps, hm] at hmax
  cases hmax
  obtain ⟨b, hb, he⟩ := List.mem_map.mp hmem
  refine ⟨out, m, hout, ?_, hmce, ⟨b, hb, he.symm⟩, fun b hb => hle _ (List.mem_map_of_mem hb)⟩
  rw [hece, hterms, nanSum_some]

end Figures

end RevenueRescue.Evaluation
