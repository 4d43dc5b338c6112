import RevenueRescue.Evaluation.CalibrationBounds
import RevenueRescue.Evaluation.Definedness

namespace RevenueRescue.Evaluation

open WeightedMean

variable {K : Type} [Field K] [LinearOrder K] [IsStrictOrderedRing K]

/-- The functions of scikit-learn on weighted rows; `none` is NaN. -/
structure Scikit (K : Type) where
  rocAuc : List (Row K) → Option K
  prAuc : List (Row K) → Option K
  logLoss : List (Row K) → K

def oneClass : String := "only one class present in y_true"

/-- What `ranking_metrics` computes from the validated rows. -/
def rankings (sk : Scikit K) (rows : List (Row K)) : MetricResult Metric K :=
  let out : MetricResult Metric K := {}
  if (rows.map Row.y).dedup.length < 2 then
    (out.set .rocAuc none (some oneClass)).set .prAuc none (some oneClass)
  else (out.set .rocAuc (sk.rocAuc rows)).set .prAuc (sk.prAuc rows)

def rankingMetrics (sk : Scikit K) (inputs : Inputs K) : Except (MetricInputError K) (MetricResult Metric K) := do
  let s ← validateInputs inputs
  .ok (rankings sk s.rows)

def validateThreshold (threshold : K) : Except (MetricInputError K) K :=
  if threshold < 0 ∨ 1 < threshold then .error (.threshold threshold) else .ok threshold

/-- `confusion_counts` on the validated arrays, which it validates once more. -/
def confusionCounts (rows : List (Row K)) (yPred : Row K → Bool) : Counts K where
  tn := total Row.w (rows.filter fun r => !r.y && !yPred r)
  fp := total Row.w (rows.filter fun r => !r.y && yPred r)
  fn := total Row.w (rows.filter fun r => r.y && !yPred r)
  tp := total Row.w (rows.filter fun r => r.y && yPred r)

/-- The dictionary that `evaluate_binary` returns, without the metadata of its caller. -/
structure Report (K : Type) where
  n : Nat
  weighted : Bool
  positive : Nat
  negative : Nat
  prevalence : Option K
  threshold : K
  confusionMatrix : Counts K
  metrics : MetricResult Metric K
  calibrationBins : List (CalibrationBin K)

/-- `evaluate_binary` on probabilities, without explicit labels. -/
def evaluateBinary (sqrt : K → K) (sk : Scikit K) (inputs : Inputs K) (threshold : K) (nBins : Nat := 10) :
    Except (MetricInputError K) (Report K) := do
  let s ← validateInputs inputs
  let thr ← validateThreshold threshold
  let result : MetricResult Metric K := {}
  let result := result.merge (← probabilityErrorMetrics sqrt s.inputs)
  let result := result.merge (← rankingMetrics sk s.inputs)
  let (prob, bins) ← probabilityMetrics sk.logLoss s.inputs nBins
  let result := result.merge prob
  let cm := confusionCounts s.rows fun r => thr ≤ r.p
  let result := result.merge (← classificationMetricsFromCounts sqrt cm)
  .ok {
    n := s.rows.length
    weighted := inputs.sampleWeight.isSome
    positive := s.rows.countP fun r => r.y
    negative := s.rows.countP fun r => !r.y
    prevalence := wmean Row.yf s.rows
    threshold := thr
    confusionMatrix := cm
    metrics := result
    calibrationBins := bins }

/-- The four names of `probability_metrics`. -/
def probabilityNames : List Metric := [.logLoss, .brier, .ece, .mce]

/-- The names of `probability_error_metrics`. -/
def errorNames : List Metric :=
  [.mse, .rmse, .mae, .medae, .meanError, .r2, .nrmseRange, .mapeExcludedZeroTargets, .mapeIncludedRows, .mapeNonzeroPct]

def rankingNames : List Metric := [.rocAuc, .prAuc]

section Values

variable {sqrt : K → K} {sk : Scikit K} {s : Sample K} {m : Metric}

omit [IsStrictOrderedRing K] in
theorem classification_absent {c : Counts K} (hm : m ∉ classificationNames) :
    (classificationMetrics sqrt c).values m = none := by
  cases m <;> first | exact absurd (by decide) hm | simp [classificationMetrics]

omit [IsStrictOrderedRing K] in
theorem errors_absent {rows : List (Row K)} (hm : m ∉ errorNames) : (probabilityErrors sqrt rows).values m = none := by
  cases m <;> first | exact absurd (by decide) hm | simp [probabilityErrors]

omit [Field K] [LinearOrder K] [IsStrictOrderedRing K] in
theorem rankings_absent {rows : List (Row K)} (hm : m ∉ rankingNames) : (rankings sk rows).values m = none := by
  rw [rankingNames, List.mem_cons, List.mem_singleton, not_or] at hm
  unfold rankings
  split <;> simp [hm]

omit [LinearOrder K] [IsStrictOrderedRing K] in
theorem confusionCounts_n (rows : List (Row K)) (yPred : Row K → Bool) :
    (confusionCounts rows yPred).n = total Row.w rows := by
  induction rows with
  | nil => simp [Counts.n, confusionCounts, total]
  | cons r rows ih =>
      simp only [Counts.n, confusionCounts, total] at ih ⊢
      rw [List.map_cons, List.sum_cons, ← ih]
      cases hy : r.y <;> cases hp : yPred r <;> simp [hy, hp] <;> ring

theorem probability_absent {logLoss : List (Row K) → K} {inputs : Inputs K} {nBins : Nat} {prob : MetricResult Metric K}
    {bins : List (CalibrationBin K)} (h : validateInputs inputs = .ok s) (hn : 1 ≤ nBins)
    (hprob : probabilityMetrics logLoss inputs nBins = .ok (prob, bins)) (hm : m ∉ probabilityNames) :
    prob.values m = none := by
  obtain ⟨out, mce, hout, -, rfl⟩ := probabilityMetrics_values logLoss h hn
  rw [hprob] at hout
  cases hout
  simp only [probabilityNames, List.mem_cons, List.not_mem_nil, or_false, not_or] at hm
  simp [hm]

end Values

/-- What `evaluate_binary` merges, family by family. -/
def mergedMetrics (sqrt : K → K) (sk : Scikit K) (rows : List (Row K)) (prob : MetricResult Metric K) (threshold : K) :
    MetricResult Metric K :=
  let empty : MetricResult Metric K := {}
  (((empty.merge (probabilityErrors sqrt rows)).merge (rankings sk rows)).merge prob).merge
    (classificationMetrics sqrt (confusionCounts rows fun r => threshold ≤ r.p))

/-- `evaluate_binary` accepts what `validate_inputs` does. -/
theorem evaluateBinary_ok (sqrt : K → K) (sk : Scikit K) {inputs : Inputs K} {s : Sample K} {threshold : K} {nBins : Nat}
    (h : validateInputs inputs = .ok s) (ht : 0 ≤ threshold ∧ threshold ≤ 1) (hn : 1 ≤ nBins) :
    ∃ report prob bins, evaluateBinary sqrt sk inputs threshold nBins = .ok report ∧
      probabilityMetrics sk.logLoss inputs nBins = .ok (prob, bins) ∧
      report.metrics = mergedMetrics sqrt sk s.rows prob threshold := by
  obtain ⟨out, mce, hout, hmce, rfl⟩ := probabilityMetrics_values sk.logLoss h hn
  obtain ⟨out', mce', hout', hmce', rfl⟩ := probabilityMetrics_values sk.logLoss (validateInputs_inputs s) hn
  rw [hmce] at hmce'
  cases hmce'
  have hthr : validateThreshold threshold = .ok threshold := if_neg (not_or.mpr ⟨not_lt.mpr ht.1, not_lt.mpr ht.2⟩)
  have hmatrix : classificationMetricsFromCounts sqrt (confusionCounts s.rows fun r => threshold ≤ r.p) =
      .ok (classificationMetrics sqrt (confusionCounts s.rows fun r => threshold ≤ r.p)) := by
    have hpos := s.weight_pos
    rw [← confusionCounts_n s.rows fun r => threshold ≤ r.p] at hpos
    exact if_neg (not_le.mpr hpos)
  have herrors : probabilityErrorMetrics sqrt s.inputs = .ok (probabilityErrors sqrt s.rows) := by
    rw [probabilityErrorMetrics, validateInputs_inputs, ok_bind]
  have hranking : rankingMetrics sk s.inputs = .ok (rankings sk s.rows) := by
    rw [rankingMetrics, validateInputs_inputs, ok_bind]
  obtain ⟨report, hreport, hmetrics⟩ : ∃ report, evaluateBinary sqrt sk inputs threshold nBins = .ok report ∧
      report.metrics = mergedMetrics sqrt sk s.rows _ threshold := by
    rw [evaluateBinary, h, ok_bind, hthr, ok_bind, herrors, ok_bind, hranking, ok_bind, hout', ok_bind]
    simp only [hmatrix, ok_bind]
    exact ⟨_, rfl, rfl⟩
  exact ⟨report, _, _, hreport, hout, hmetrics⟩

section Families

variable {sqrt : K → K} {sk : Scikit K} {s : Sample K} {inputs : Inputs K} {prob : MetricResult Metric K}
  {bins : List (CalibrationBin K)} {threshold : K} {nBins : Nat} {m : Metric}

omit [IsStrictOrderedRing K] in
theorem merged_classification (rows : List (Row K)) (hm : m ∈ classificationNames) :
    (mergedMetrics sqrt sk rows prob threshold).values m =
      (classificationMetrics sqrt (confusionCounts rows fun r => threshold ≤ r.p)).values m := by
  rw [mergedMetrics, MetricResult.merge_values, values_eq sqrt _ hm, Option.some_or]

/-- No name is in two families. -/
theorem names_disjoint : errorNames.Disjoint rankingNames ∧ errorNames.Disjoint probabilityNames ∧
    errorNames.Disjoint classificationNames ∧ rankingNames.Disjoint probabilityNames ∧
    rankingNames.Disjoint classificationNames ∧ probabilityNames.Disjoint classificationNames := by
  simp [errorNames, rankingNames, probabilityNames, classificationNames]

omit [IsStrictOrderedRing K] in
theorem merged_probability (rows : List (Row K)) (hm : m ∈ probabilityNames) :
    (mergedMetrics sqrt sk rows prob threshold).values m = prob.values m := by
  obtain ⟨-, herr, -, hrank, -, hcls⟩ := names_disjoint
  simp only [mergedMetrics, MetricResult.merge_values, classification_absent fun h => hcls hm h,
    rankings_absent fun h => hrank h hm, errors_absent fun h => herr h hm, Option.none_or, Option.or_none]

theorem merged_rankings (h : validateInputs inputs = .ok s) (hn : 1 ≤ nBins)
    (hprob : probabilityMetrics sk.logLoss inputs nBins = .ok (prob, bins)) (hm : m ∈ rankingNames) :
    (mergedMetrics sqrt sk s.rows prob threshold).values m = (rankings sk s.rows).values m := by
  obtain ⟨herr, -, -, hrank, hcls, -⟩ := names_disjoint
  simp only [mergedMetrics, MetricResult.merge_values, classification_absent fun h => hcls hm h,
    probability_absent h hn hprob fun h => hrank hm h, errors_absent fun h => herr h hm, Option.none_or, Option.or_none]

theorem merged_errors (h : validateInputs inputs = .ok s) (hn : 1 ≤ nBins)
    (hprob : probabilityMetrics sk.logLoss inputs nBins = .ok (prob, bins)) (hm : m ∈ errorNames) :
    (mergedMetrics sqrt sk s.rows prob threshold).values m = (probabilityErrors sqrt s.rows).values m := by
  obtain ⟨hrank, hp, hcls, -, -, -⟩ := names_disjoint
  simp only [mergedMetrics, MetricResult.merge_values, classification_absent fun h => hcls hm h,
    probability_absent h hn hprob fun h => hp hm h, rankings_absent fun h => hrank hm h, Option.none_or, Option.or_none]

end Families

/-- What scikit-learn computes of `sampleRows`. -/
def sampleScikit : Scikit ℚ := ⟨fun _ => some 1, fun _ => some 1, sampleLogLoss⟩

end RevenueRescue.Evaluation
