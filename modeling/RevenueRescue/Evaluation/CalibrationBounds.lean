import RevenueRescue.Evaluation.Calibration

namespace RevenueRescue.Evaluation

open WeightedMean Sums

variable {K : Type} [Field K] [LinearOrder K] [IsStrictOrderedRing K]

section Rows

omit [IsStrictOrderedRing K]

variable {rows : List (Row K)} {nBins b : Nat}

/-- The expected calibration error as a sum over all bins. -/
def calibrationError (rows : List (Row K)) (nBins : Nat) : K :=
  ((List.range nBins).map fun b => share rows nBins b * gapOf rows nBins b).sum

theorem share_empty (h : binRows nBins b rows = []) : share rows nBins b = 0 := by
  rw [share, h, total, List.map_nil, List.sum_nil, zero_div]

theorem sum_filledBins (rows : List (Row K)) (nBins : Nat) :
    ((filledBins nBins rows).map fun b => share rows nBins b * gapOf rows nBins b).sum =
      calibrationError rows nBins := by
  refine sum_filter_map fun b _ hb => ?_
  rw [share_empty (by simpa using hb), zero_mul]

theorem mem_keys (hn : 1 ≤ nBins) : ∀ r ∈ rows, binIndex nBins r.p ∈ List.range nBins := fun r _ =>
  List.mem_range.mpr (binIndex_lt hn r.p)

theorem abs_mean_err : |mean Row.w Row.err (binRows nBins b rows)| = gapOf rows nBins b := by
  rw [gapOf, abs_sub_comm, ← mean_sub]
  rfl

end Rows

theorem Row.yf_nonneg (r : Row K) : 0 ≤ r.yf := by
  cases hy : r.y <;> simp [Row.yf, hy]

theorem Row.yf_le (r : Row K) : r.yf ≤ 1 := by
  cases hy : r.y <;> simp [Row.yf, hy]

section Bounds

variable (s : Sample K) {nBins b : Nat}

theorem Sample.filter_weight_nonneg (q : Row K → Bool) : ∀ r ∈ s.rows.filter q, 0 ≤ r.w := fun r hr =>
  s.weight_nonneg r (List.mem_of_mem_filter hr)

theorem Sample.bin_weight_nonneg : ∀ r ∈ binRows nBins b s.rows, 0 ≤ r.w := s.filter_weight_nonneg _

theorem share_nonneg : 0 ≤ share s.rows nBins b := div_nonneg (total_nonneg s.bin_weight_nonneg) s.weight_pos.le

theorem total_bins (hn : 1 ≤ nBins) :
    ((List.range nBins).map fun b => total Row.w (binRows nBins b s.rows)).sum = total Row.w s.rows :=
  total_groups List.nodup_range (mem_keys hn)

theorem sum_share (hn : 1 ≤ nBins) : ((List.range nBins).map (share s.rows nBins)).sum = 1 := by
  calc ((List.range nBins).map (share s.rows nBins)).sum
      = ((List.range nBins).map fun b => total Row.w (binRows nBins b s.rows) * (total Row.w s.rows)⁻¹).sum := by
        congr 1
        exact List.map_congr_left fun b _ => div_eq_mul_inv _ _
    _ = total Row.w s.rows * (total Row.w s.rows)⁻¹ := by
        rw [List.sum_map_mul_right, total_bins s hn]
    _ = 1 := mul_inv_cancel₀ s.weight_pos.ne'

theorem mean_shares (hn : 1 ≤ nBins) (x : Row K → K) :
    ((List.range nBins).map fun b => share s.rows nBins b * mean Row.w x (binRows nBins b s.rows)).sum =
      mean Row.w x s.rows :=
  mean_groups s.weight_nonneg List.nodup_range (mem_keys hn)

theorem abs_meanError_le (hn : 1 ≤ nBins) : |mean Row.w Row.err s.rows| ≤ calibrationError s.rows nBins := by
  rw [← mean_shares s hn Row.err]
  refine (abs_sum_map_le _ _).trans (le_of_eq ?_)
  rw [calibrationError]
  congr 1
  refine List.map_congr_left fun b _ => ?_
  rw [abs_mul, abs_of_nonneg (share_nonneg s), abs_mean_err]

theorem calibrationError_le_mae (hn : 1 ≤ nBins) :
    calibrationError s.rows nBins ≤ mean Row.w (fun r => |r.err|) s.rows := by
  rw [← mean_shares s hn fun r => |r.err|]
  refine List.sum_le_sum fun b _ => ?_
  rcases (total_nonneg (s.bin_weight_nonneg (b := b))).eq_or_lt with hz | hpos
  · rw [share, ← hz, zero_div, zero_mul, zero_mul]
  · rw [← abs_mean_err]
    exact mul_le_mul_of_nonneg_left (abs_mean_le s.bin_weight_nonneg hpos) (share_nonneg s)

/-- A mean of the gaps is not above any bound of theirs. -/
theorem calibrationError_le (hn : 1 ≤ nBins) {m : K} (h : ∀ b ∈ filledBins nBins s.rows, gapOf s.rows nBins b ≤ m) :
    calibrationError s.rows nBins ≤ m := by
  calc calibrationError s.rows nBins
      ≤ ((List.range nBins).map fun b => share s.rows nBins b * m).sum := by
        refine List.sum_le_sum fun b hb => ?_
        by_cases hempty : binRows nBins b s.rows = []
        · rw [share_empty hempty, zero_mul, zero_mul]
        · refine mul_le_mul_of_nonneg_left (h b ?_) (share_nonneg s)
          exact mem_filledBins.mpr ⟨List.mem_range.mp hb, hempty⟩
    _ = m := by rw [List.sum_map_mul_right, sum_share s hn, one_mul]

theorem gapOf_le_one (hpos : 0 < total Row.w (binRows nBins b s.rows)) : gapOf s.rows nBins b ≤ 1 := by
  have hmem : ∀ r ∈ binRows nBins b s.rows, r ∈ s.rows := fun r hr => List.mem_of_mem_filter hr
  have hobs := mean_le s.bin_weight_nonneg hpos fun r _ => r.yf_le
  have hobs' := le_mean s.bin_weight_nonneg hpos fun r _ => r.yf_nonneg
  have hmp := mean_le s.bin_weight_nonneg hpos fun r hr => s.prob_le r (hmem r hr)
  have hmp' := le_mean s.bin_weight_nonneg hpos fun r hr => s.prob_nonneg r (hmem r hr)
  rw [gapOf, abs_sub_le_iff]
  exact ⟨(sub_le_self _ hmp').trans hobs, (sub_le_self _ hobs').trans hmp⟩

end Bounds

/-- Every row is in one bin, and the bins account for all rows and all weight. -/
structure Partitions (s : Sample K) (nBins : Nat) (bins : List (CalibrationBin K)) : Prop where
  exactlyOne : ∀ r ∈ s.rows, ∃! b, b < nBins ∧ InBin nBins b r.p
  length_eq : bins.length = nBins
  bin : ∀ b, b < nBins → ∃ row, bins[b]? = some row ∧ row.bin = b ∧
    row.lower = edge nBins b ∧ row.upper = edge nBins (b + 1) ∧
    row.count = (s.rows.filter fun r => InBin nBins b r.p).length ∧
    row.weight = total Row.w (s.rows.filter fun r => InBin nBins b r.p) ∧
    (row.count ≠ 0 → ∃ m, row.meanPredicted = some (some m) ∧ InBin nBins b m)
  counts : (bins.map CalibrationBin.count).sum = s.rows.length
  weights : (bins.map CalibrationBin.weight).sum = total Row.w s.rows

section Partition

variable {s : Sample K} {nBins b : Nat}

theorem binRows_eq (hb : b < nBins) : binRows nBins b s.rows = s.rows.filter fun r => InBin nBins b r.p := by
  refine List.filter_congr fun r hr => ?_
  rw [decide_eq_decide]
  exact binIndex_eq_iff (s.prob_nonneg r hr) (s.prob_le r hr) hb

/-- A mean of probabilities is in the interval that they are in. -/
theorem inBin_mean (hw : ∀ r ∈ s.rows, 0 < r.w) (hb : b < nBins) (hne : binRows nBins b s.rows ≠ []) :
    InBin nBins b (mean Row.w Row.p (binRows nBins b s.rows)) := by
  have hwb : ∀ r ∈ binRows nBins b s.rows, 0 < r.w := fun r hr => hw r (List.mem_of_mem_filter hr)
  have hpos : 0 < total Row.w (binRows nBins b s.rows) := total_pos hwb hne
  have hin : ∀ r ∈ binRows nBins b s.rows, InBin nBins b r.p := fun r hr => by
    rw [binRows_eq hb] at hr
    exact of_decide_eq_true (List.mem_filter.mp hr).2
  refine ⟨le_mean s.bin_weight_nonneg hpos fun r hr => (hin r hr).1, ?_⟩
  by_cases hlast : b + 1 = nBins
  · refine .inr ⟨hlast, mean_le s.bin_weight_nonneg hpos fun r hr => ?_⟩
    rcases (hin r hr).2 with hlt | ⟨-, hle⟩
    · exact hlt.le
    · exact hle
  · refine .inl (mean_lt hwb hne fun r hr => ?_)
    rcases (hin r hr).2 with hlt | ⟨he, -⟩
    · exact hlt
    · exact absurd he hlast

theorem partitions_calibrationBin (hw : ∀ r ∈ s.rows, 0 < r.w) (hn : 1 ≤ nBins) (minBinCount : Nat) :
    Partitions s nBins ((List.range nBins).map (calibrationBin s.rows nBins minBinCount)) where
  exactlyOne r hr := by
    have h0 := s.prob_nonneg r hr
    have h1 := s.prob_le r hr
    have hlt := binIndex_lt hn r.p
    refine ⟨binIndex nBins r.p, ⟨hlt, (binIndex_eq_iff h0 h1 hlt).mp rfl⟩, ?_⟩
    rintro b ⟨hb, hin⟩
    exact ((binIndex_eq_iff h0 h1 hb).mpr hin).symm
  length_eq := by simp
  bin b hb := by
    refine ⟨calibrationBin s.rows nBins minBinCount b, by simp [hb], rfl, rfl, rfl, ?_, ?_, fun hcount => ?_⟩
    · exact congrArg List.length (binRows_eq hb)
    · exact congrArg (total Row.w) (binRows_eq hb)
    · have hne : binRows nBins b s.rows ≠ [] := fun he => hcount (by simp [calibrationBin, he])
      have hpos : 0 < total Row.w (binRows nBins b s.rows) :=
        total_pos (fun r hr => hw r (List.mem_of_mem_filter hr)) hne
      refine ⟨_, ?_, inBin_mean hw hb hne⟩
      rw [calibrationBin, wmean_pos hpos]
      exact if_neg hcount
  counts := by
    have h := sum_groups (fun _ : Row K => (1 : Nat)) List.nodup_range (mem_keys hn : ∀ r ∈ s.rows, _)
    simpa [calibrationBin, binRows, Function.comp_def] using h
  weights := by
    rw [List.map_map]
    exact total_bins s hn

end Partition

theorem probabilityErrors_meanError (sqrt : K → K) (s : Sample K) :
    (probabilityErrors sqrt s.rows).values .meanError = some (some (mean Row.w Row.err s.rows)) := by
  simp only [probabilityErrors, MetricResult.setUnless_values, MetricResult.set_values, reduceCtorEq, if_false, if_true,
    wmean_pos s.weight_pos]

theorem probabilityErrors_mae (sqrt : K → K) (s : Sample K) :
    (probabilityErrors sqrt s.rows).values .mae = some (some (mean Row.w (fun r => |r.err|) s.rows)) := by
  simp only [probabilityErrors, MetricResult.setUnless_values, MetricResult.set_values, reduceCtorEq, if_false, if_true,
    wmean_pos s.weight_pos]

/-- The figures are numbers, in the order that the triangle inequality gives them. -/
def Bounded (errors figures : MetricResult Metric K) : Prop :=
  ∃ meanError mae ece mce, errors.values .meanError = some (some meanError) ∧ errors.values .mae = some (some mae) ∧
    figures.values .ece = some (some ece) ∧ figures.values .mce = some (some mce) ∧
    |meanError| ≤ ece ∧ ece ≤ mce ∧ mce ≤ 1 ∧ ece ≤ mae

theorem calibration_bounded {sqrt : K → K} {logLoss : List (Row K) → K} {inputs : Inputs K} {s : Sample K} {nBins : Nat}
    (h : validateInputs inputs = .ok s) (hn : 1 ≤ nBins)
    (hpos : ∀ b ∈ filledBins nBins s.rows, 0 < total Row.w (binRows nBins b s.rows)) :
    ∃ errors figures bins, probabilityErrorMetrics sqrt inputs = .ok errors ∧
      probabilityMetrics logLoss inputs nBins = .ok (figures, bins) ∧ Bounded errors figures := by
  obtain ⟨figures, mce, hout, hece, hmce, ⟨b, hb, rfl⟩, hle⟩ := calibration_figures logLoss h hn hpos
  rw [sum_filledBins] at hece
  refine ⟨probabilityErrors sqrt s.rows, figures, _, ?_, hout, _, _, _, _, probabilityErrors_meanError sqrt s,
    probabilityErrors_mae sqrt s, hece, hmce, abs_meanError_le s hn, calibrationError_le s hn hle,
    gapOf_le_one s (hpos b hb), calibrationError_le_mae s hn⟩
  rw [probabilityErrorMetrics, h, ok_bind]

theorem calibration_partitions (sqrt : K → K) (logLoss : List (Row K) → K) {inputs : Inputs K} {s : Sample K}
    (h : validateInputs inputs = .ok s) (hw : ∀ r ∈ s.rows, 0 < r.w) {nBins : Nat} (hn : 1 ≤ nBins)
    (minBinCount : Nat) :
    (∃ bins, calibrationBins inputs nBins minBinCount = .ok bins ∧ Partitions s nBins bins) ∧
      ∃ errors figures bins, probabilityErrorMetrics sqrt inputs = .ok errors ∧
        probabilityMetrics logLoss inputs nBins = .ok (figures, bins) ∧ Bounded errors figures := by
  refine ⟨⟨_, ?_, partitions_calibrationBin hw hn minBinCount⟩, calibration_bounded h hn fun b hb => ?_⟩
  · rw [calibrationBins, if_neg (by omega), h, ok_bind]
  · exact total_pos (fun r hr => hw r (List.mem_of_mem_filter hr)) (mem_filledBins.mp hb).2

/-- What scikit-learn gives for the sample rows. -/
def sampleLogLoss (_ : List (Row ℚ)) : ℚ := 2231435513142097 / 10 ^ 16

theorem calibration_partitions_sample :
    (∃ bins, calibrationBins sampleRows.inputs 10 30 = .ok bins ∧ Partitions sampleRows 10 bins) ∧
      ∃ errors figures bins, probabilityErrorMetrics rationalSqrt sampleRows.inputs = .ok errors ∧
        probabilityMetrics sampleLogLoss sampleRows.inputs 10 = .ok (figures, bins) ∧ Bounded errors figures :=
  calibration_partitions rationalSqrt sampleLogLoss (validateInputs_inputs sampleRows) (by simp [sampleRows])
    (by decide) 30

end RevenueRescue.Evaluation
