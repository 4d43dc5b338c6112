import Mathlib.Tactic.Linarith
import Mathlib.Tactic.Ring
import RevenueRescue.Evaluation.FastPath

namespace RevenueRescue.Evaluation

open WeightedMean Sums

variable {K : Type} [Field K] [LinearOrder K] [IsStrictOrderedRing K]

/-- `np.linspace(0.0, 1.0, 11)`. -/
def trainingEdges : List K := (List.range 11).map (edge 10)

/-- `np.digitize(y_prob, bins) - 1`. -/
def trainingBin (p : K) : Int := (digitize p trainingEdges : Int) - 1

def trainingMask (rows : List (Row K)) (i : Nat) : List (Row K) := rows.filter fun r => trainingBin r.p = i

/-- The `ece` of `evaluate_predictions` before it is rounded. -/
def trainingEce (rows : List (Row K)) : K :=
  (((List.range 10).filter fun i => !(trainingMask rows i).isEmpty).map fun i =>
    (trainingMask rows i).length / rows.length *
      |average ((trainingMask rows i).map Row.yf) - average ((trainingMask rows i).map Row.p)|).sum

/-- The functions of scikit-learn that `evaluate_predictions` calls: on labels and
probabilities, and on labels and predictions with `zero_division=0`. -/
structure TrainingScores (K : Type) where
  rocAucScore : List (Bool × K) → Except String K
  averagePrecisionScore : List (Bool × K) → K
  brierScoreLoss : List (Bool × K) → K
  accuracyScore : List (Bool × Bool) → K
  precisionScore : List (Bool × Bool) → K
  recallScore : List (Bool × Bool) → K
  f1Score : List (Bool × Bool) → K

/-- `roc_auc_score` raises a `ValueError` where only one class is present. -/
def TrainingScores.RaisesOneClass (sk : TrainingScores K) : Prop :=
  ∀ pairs : List (Bool × K), (∃ x, sk.rocAucScore pairs = .ok x) ↔ ∀ y, y ∈ pairs.map Prod.fst

/-- The dictionary of `evaluate_predictions`, before its numbers are rounded. -/
structure TrainingMetrics (K : Type) where
  rocAuc : K
  averagePrecision : K
  brierScore : K
  ece10bin : K
  threshold : K
  accuracy : K
  precision : K
  «recall» : K
  f1 : K
  positiveRateActual : K
  positiveRatePredicted : K

def evaluatePredictions (sk : TrainingScores K) (rows : List (Row K)) (threshold : K := 1 / (2 : Nat)) :
    Except String (TrainingMetrics K) := do
  let predicted := rows.map fun r => (r.y, decide (threshold ≤ r.p))
  let ece := trainingEce rows
  let rocAuc ← sk.rocAucScore (rows.map Row.pair)
  return {
    rocAuc := rocAuc
    averagePrecision := sk.averagePrecisionScore (rows.map Row.pair)
    brierScore := sk.brierScoreLoss (rows.map Row.pair)
    ece10bin := ece
    threshold := threshold
    accuracy := sk.accuracyScore predicted
    precision := sk.precisionScore predicted
    «recall» := sk.recallScore predicted
    f1 := sk.f1Score predicted
    positiveRateActual := average (rows.map Row.yf)
    positiveRatePredicted := average (predicted.map fun r => if r.2 then 1 else 0) }

/-- `evaluate_predictions` returns, and its error is the `ece` of `probability_metrics`. -/
def EceAgrees (logLoss : List (Row K) → K) (sk : TrainingScores K) (threshold : K) (yTrue yProb : Column K)
    (rows : List (Row K)) : Prop :=
  ∃ m out bins, evaluatePredictions sk rows threshold = .ok m ∧
    probabilityMetrics logLoss { yTrue := yTrue, yProb := yProb } 10 = .ok (out, bins) ∧
    out.values .ece = some (some m.ece10bin)

/-- How many negatives have probability one. -/
def certainMisses (rows : List (Row K)) : Nat := rows.countP fun r => r.p = 1 ∧ r.y = false

/-- What the labels exceed the probabilities by in the last bin without its upper end. -/
def lastBinExcess (rows : List (Row K)) : K :=
  ((rows.filter fun r => edge 10 9 ≤ r.p ∧ r.p < 1).map fun r => r.yf - r.p).sum

section Bins

variable {p : K} {i : Nat}

omit [IsStrictOrderedRing K] in
theorem digitize_training (p : K) : digitize p (trainingEdges : List K) =
    (if edge 10 0 ≤ p then 1 else 0) + (digitize p (interiorEdges 10) + if edge 10 10 ≤ p then 1 else 0) := by
  have hedges : (trainingEdges : List K) = [edge 10 0] ++ (interiorEdges 10 ++ [edge 10 10]) := rfl
  simp only [hedges, digitize, List.countP_append, List.countP_singleton, decide_eq_true_eq]

theorem trainingBin_eq_iff (h0 : 0 ≤ p) (h1 : p ≤ 1) (hi : i < 10) :
    trainingBin p = i ↔ edge 10 i ≤ p ∧ p < edge 10 (i + 1) := by
  have hself : edge 10 10 = (1 : K) := edge_self (by decide)
  have hzero : edge 10 0 ≤ p := by simpa [edge] using h0
  have hclip : binIndex 10 p = digitize p (interiorEdges 10) := Nat.min_eq_left (digitize_le 10 p)
  have hbin : binIndex 10 p = i ↔ InBin 10 i p := binIndex_eq_iff h0 h1 hi
  rw [hclip] at hbin
  rw [trainingBin, digitize_training, if_pos hzero, hself]
  rcases h1.eq_or_lt with rfl | hlt
  · have hlast : digitize 1 (interiorEdges 10 : List K) = 9 := by
      rw [← hclip, binIndex_eq_iff zero_le_one le_rfl (by decide), InBin]
      exact ⟨(edge_mono 10 (by decide)).trans_eq hself, .inr ⟨rfl, hself.ge⟩⟩
    have hupper : edge 10 (i + 1) ≤ (1 : K) := (edge_mono 10 (by omega)).trans_eq hself
    rw [hlast, if_pos le_rfl]
    refine iff_of_false (by omega) fun h => (h.2.trans_le hupper).false
  · have hopen : InBin 10 i p ↔ edge 10 i ≤ p ∧ p < edge 10 (i + 1) := by
      refine and_congr_right fun _ => or_iff_left_of_imp fun h => ?_
      rw [h.1, hself]
      exact hlt
    rw [if_neg (not_le.mpr hlt), ← hopen, ← hbin]
    omega

/-- Below the last bin, the two binnings agree. -/
theorem trainingBin_eq_binIndex (h0 : 0 ≤ p) (h1 : p ≤ 1) (hi : i < 9) : trainingBin p = i ↔ binIndex 10 p = i := by
  rw [trainingBin_eq_iff h0 h1 (by omega), binIndex_eq_iff h0 h1 (by omega), InBin]
  exact and_congr_right fun _ => ⟨.inl, fun h => h.resolve_right fun h => by omega⟩

/-- The last bin of the other binning has the rows with probability one in addition. -/
theorem binIndex_last (h0 : 0 ≤ p) (h1 : p ≤ 1) : binIndex 10 p = 9 ↔ trainingBin p = 9 ∨ p = 1 := by
  have hself : edge 10 10 = (1 : K) := edge_self (by decide)
  have hlast : edge 10 9 ≤ (1 : K) := (edge_mono 10 (by decide)).trans_eq hself
  have htraining := trainingBin_eq_iff h0 h1 (show 9 < 10 by decide)
  rw [binIndex_eq_iff h0 h1 (by decide), InBin, show ((9 : Nat) : Int) = 9 from rfl] at *
  rw [htraining, hself]
  constructor
  · rintro ⟨hlow, -⟩
    exact h1.lt_or_eq.imp_left fun hlt => ⟨hlow, hlt⟩
  · rintro (⟨hlow, hlt⟩ | rfl)
    · exact ⟨hlow, .inl hlt⟩
    · exact ⟨hlast, .inr ⟨rfl, le_rfl⟩⟩

end Bins

section Figures

variable {s : Sample K} {rows : List (Row K)} {nBins b i : Nat}

/-- What a bin adds to the expected calibration error. -/
theorem share_gap (hw : ∀ r ∈ binRows nBins b rows, 0 ≤ r.w) : share rows nBins b * gapOf rows nBins b =
    |((binRows nBins b rows).map fun r => r.err * r.w).sum| / total Row.w rows := by
  rw [← abs_mean_err, mean, abs_div, share]
  rcases (total_nonneg hw).eq_or_lt with hz | hpos
  · have hzero : ∀ r ∈ binRows nBins b rows, r.w = 0 := (sum_map_eq_zero_iff hw).mp hz.symm
    rw [← hz, List.map_congr_left fun r hr => by rw [hzero r hr, mul_zero]]
    simp
  · rw [abs_of_pos hpos, div_mul_div_comm, mul_comm, mul_div_mul_right _ _ hpos.ne']

theorem training_term (hne : trainingMask rows i ≠ []) : ((trainingMask rows i).length : K) / rows.length *
    |average ((trainingMask rows i).map Row.yf) - average ((trainingMask rows i).map Row.p)| =
      |((trainingMask rows i).map Row.err).sum| / rows.length := by
  have hpos : (0 : K) < (trainingMask rows i).length := Nat.cast_pos.mpr (List.length_pos_iff.mpr hne)
  have herr : ((trainingMask rows i).map Row.err).sum =
      ((trainingMask rows i).map Row.p).sum - ((trainingMask rows i).map Row.yf).sum := sum_map_sub _ _ _
  rw [average, average, List.length_map, List.length_map, ← sub_div, abs_div, abs_of_pos hpos, herr, abs_sub_comm,
    div_mul_div_comm, mul_comm, mul_div_mul_right _ _ hpos.ne']

theorem trainingEce_eq (rows : List (Row K)) :
    trainingEce rows = ((List.range 10).map fun i => |((trainingMask rows i).map Row.err).sum| / rows.length).sum := by
  have hempty : ∀ i ∈ List.range 10, (!(trainingMask rows i).isEmpty) = false →
      |((trainingMask rows i).map Row.err).sum| / (rows.length : K) = 0 := by
    intro i _ hi
    have hnil : trainingMask rows i = [] := by simpa using hi
    rw [hnil]
    simp
  rw [trainingEce, ← sum_filter_map hempty]
  congr 1
  refine List.map_congr_left fun i hi => ?_
  have hne : trainingMask rows i ≠ [] := by simpa using (List.mem_filter.mp hi).2
  exact training_term hne

/-- The weighted error of a bin is its error where the rows weigh one. -/
theorem calibrationError_unweighted (hw : ∀ r ∈ rows, r.w = 1) (nBins : Nat) : calibrationError rows nBins =
    ((List.range nBins).map fun b => |((binRows nBins b rows).map Row.err).sum| / rows.length).sum := by
  have htotal : total Row.w rows = rows.length := by
    rw [total, List.map_congr_left hw]
    simp
  rw [calibrationError]
  congr 1
  refine List.map_congr_left fun b _ => ?_
  have hone : ∀ r ∈ binRows nBins b rows, r.w = 1 := fun r hr => hw r (List.mem_of_mem_filter hr)
  have hterms : ((binRows nBins b rows).map fun r => r.err * r.w) = (binRows nBins b rows).map Row.err :=
    List.map_congr_left fun r hr => by rw [hone r hr, mul_one]
  rw [share_gap fun r hr => by simp [hone r hr], hterms, htotal]

theorem trainingMask_eq (hp : ∀ r ∈ rows, 0 ≤ r.p ∧ r.p ≤ 1) (hi : i < 9) :
    trainingMask rows i = binRows 10 i rows :=
  List.filter_congr fun r hr => decide_eq_decide.mpr (trainingBin_eq_binIndex (hp r hr).1 (hp r hr).2 hi)

/-- The error of the last bin, with the rows that have probability one. -/
theorem sum_last (hp : ∀ r ∈ rows, 0 ≤ r.p ∧ r.p ≤ 1) : ((binRows 10 9 rows).map Row.err).sum =
    ((trainingMask rows 9).map Row.err).sum + certainMisses rows := by
  induction rows with
  | nil => simp [binRows, trainingMask, certainMisses]
  | cons r rows ih =>
      obtain ⟨h0, h1⟩ := hp r List.mem_cons_self
      have ih := ih fun r' hr' => hp r' (List.mem_cons_of_mem _ hr')
      have hlast := binIndex_last h0 h1
      have hmask : trainingBin r.p = (9 : Nat) → r.p ≠ 1 := by
        rw [trainingBin_eq_iff h0 h1 (by decide), edge_self (by decide)]
        exact fun h => h.2.ne
      rw [binRows, trainingMask, certainMisses] at ih ⊢
      rw [sum_filter_cons, sum_filter_cons, List.countP_cons, ih, Nat.cast_add]
      by_cases hone : r.p = 1
      · have hbin : binIndex 10 r.p = 9 := hlast.mpr (.inr hone)
        have hno : ¬ trainingBin r.p = (9 : Nat) := fun h => hmask h hone
        rw [if_pos (decide_eq_true hbin), if_neg (by simpa using hno), Row.err, Row.yf, hone]
        cases hy : r.y
        · simp
          ring
        · simp
      · have hmiss : ¬ decide (r.p = 1 ∧ r.y = false) = true := by simp [hone]
        have hbin : binIndex 10 r.p = 9 ↔ trainingBin r.p = (9 : Nat) := hlast.trans (or_iff_left hone)
        simp only [hbin, if_neg hmiss, Nat.cast_zero, add_zero, add_assoc]

theorem lastBinExcess_eq (hp : ∀ r ∈ rows, 0 ≤ r.p ∧ r.p ≤ 1) :
    lastBinExcess rows = -((trainingMask rows 9).map Row.err).sum := by
  have hmask : trainingMask rows 9 = rows.filter fun r => edge 10 9 ≤ r.p ∧ r.p < 1 := by
    refine List.filter_congr fun r hr => decide_eq_decide.mpr ?_
    rw [trainingBin_eq_iff (hp r hr).1 (hp r hr).2 (show 9 < 10 by decide), edge_self (by decide)]
  have herr : ((trainingMask rows 9).map Row.err).sum =
      ((trainingMask rows 9).map Row.p).sum - ((trainingMask rows 9).map Row.yf).sum := sum_map_sub _ _ _
  rw [lastBinExcess, ← hmask, sum_map_sub, herr, neg_sub]

/-- The two errors differ by what the rows with probability one do in the last bin. -/
theorem trainingEce_eq_iff (hw : ∀ r ∈ rows, r.w = 1) (hp : ∀ r ∈ rows, 0 ≤ r.p ∧ r.p ≤ 1) (hne : rows ≠ []) :
    trainingEce rows = calibrationError rows 10 ↔
      certainMisses rows = 0 ∨ 2 * lastBinExcess rows = certainMisses rows := by
  have hlen : (0 : K) < rows.length := Nat.cast_pos.mpr (List.length_pos_iff.mpr hne)
  have hbins : ∀ i ∈ List.range 9, |((trainingMask rows i).map Row.err).sum| / (rows.length : K) =
      |((binRows 10 i rows).map Row.err).sum| / (rows.length : K) := by
    intro i hi
    rw [trainingMask_eq hp (List.mem_range.mp hi)]
  have habs {a k : K} : |a| = |a + k| ↔ k = 0 ∨ 2 * -a = k := by
    rw [abs_eq_abs]
    constructor
    · rintro (h | h)
      · exact .inl (by linarith)
      · exact .inr (by linarith)
    · rintro (h | h)
      · exact .inl (by linarith)
      · exact .inr (by linarith)
  rw [trainingEce_eq, calibrationError_unweighted hw, List.range_succ, List.map_append, List.map_append, List.sum_append,
    List.sum_append, List.map_congr_left hbins, add_right_inj, List.map_singleton, List.map_singleton,
    List.sum_singleton, List.sum_singleton, div_left_inj' hlen.ne', sum_last hp, lastBinExcess_eq hp, habs,
    Nat.cast_eq_zero]

end Figures

omit [IsStrictOrderedRing K] in
theorem evaluatePredictions_ok {sk : TrainingScores K} (hsk : sk.RaisesOneClass) (rows : List (Row K)) (threshold : K) :
    (∃ m, evaluatePredictions sk rows threshold = .ok m) ↔ ∀ y, y ∈ rows.map Row.y := by
  have hfst : (rows.map Row.pair).map Prod.fst = rows.map Row.y := by
    rw [List.map_map]
    rfl
  rw [← hfst, ← hsk, evaluatePredictions]
  cases sk.rocAucScore (rows.map Row.pair) with
  | error e => exact iff_of_false (fun ⟨_, h⟩ => nomatch h) fun ⟨_, h⟩ => nomatch h
  | ok x => exact iff_of_true ⟨_, rfl⟩ ⟨x, rfl⟩

omit [IsStrictOrderedRing K] in
theorem evaluatePredictions_ece {sk : TrainingScores K} {rows : List (Row K)} {threshold : K} {m : TrainingMetrics K}
    (h : evaluatePredictions sk rows threshold = .ok m) : m.ece10bin = trainingEce rows := by
  rw [evaluatePredictions] at h
  cases hroc : sk.rocAucScore (rows.map Row.pair) with
  | error e =>
      rw [hroc] at h
      cases h
  | ok x =>
      rw [hroc] at h
      cases h
      rfl

/-- The errors agree if and only if both classes are present, and no negative has probability one or the rest of the
last bin makes up for half of those that do. -/
theorem training_ece_iff (logLoss : List (Row K) → K) {sk : TrainingScores K} (hsk : sk.RaisesOneClass) (threshold : K)
    {yTrue yProb : Column K} {s : Sample K} (h : validateInputs { yTrue := yTrue, yProb := yProb } = .ok s) :
    EceAgrees logLoss sk threshold yTrue yProb s.rows ↔
      (∀ y, y ∈ s.rows.map Row.y) ∧ (certainMisses s.rows = 0 ∨ 2 * lastBinExcess s.rows = certainMisses s.rows) := by
  have hw := weights_one h rfl
  have hpos : ∀ b ∈ filledBins 10 s.rows, 0 < total Row.w (binRows 10 b s.rows) := by
    intro b hb
    refine total_pos (fun r hr => ?_) (mem_filledBins.mp hb).2
    rw [hw r (List.mem_of_mem_filter hr)]
    exact one_pos
  obtain ⟨out, mce, hout, hece, -⟩ := calibration_figures logLoss h (by decide) hpos
  rw [sum_filledBins] at hece
  have hiff := trainingEce_eq_iff hw (fun r hr => ⟨s.prob_nonneg r hr, s.prob_le r hr⟩) s.rows_ne
  rw [← evaluatePredictions_ok hsk s.rows threshold, ← hiff]
  constructor
  · rintro ⟨m, out', bins, hm, hout', hece'⟩
    obtain ⟨rfl, -⟩ := Prod.mk.inj (Except.ok.inj (hout.symm.trans hout'))
    rw [hece, evaluatePredictions_ece hm] at hece'
    exact ⟨⟨m, hm⟩, (Option.some.inj (Option.some.inj hece')).symm⟩
  · rintro ⟨⟨m, hm⟩, heq⟩
    exact ⟨m, out, _, hm, hout, by rw [hece, evaluatePredictions_ece hm, heq]⟩

/-- The scores as scikit-learn defines them. -/
def exactScores : TrainingScores K where
  rocAucScore pairs :=
    if true ∈ pairs.map Prod.fst ∧ false ∈ pairs.map Prod.fst then .ok (pairScore pairs)
    else .error "Only one class present in y_true. ROC AUC score is not defined in that case."
  averagePrecisionScore := meanPrecision
  brierScoreLoss pairs := average (pairs.map fun r => (r.2 - if r.1 then 1 else 0) ^ 2)
  accuracyScore pairs := (pairs.countP fun r => r.1 = r.2) / pairs.length
  precisionScore pairs := (pairs.countP fun r => r.1 && r.2) / (pairs.countP fun r => r.2)
  recallScore pairs := (pairs.countP fun r => r.1 && r.2) / (pairs.countP fun r => r.1)
  f1Score pairs :=
    (2 : Nat) * (pairs.countP fun r => r.1 && r.2) / ((pairs.countP fun r => r.1) + (pairs.countP fun r => r.2))

omit [IsStrictOrderedRing K] in
theorem exactScores_raisesOneClass : (exactScores : TrainingScores K).RaisesOneClass := by
  intro pairs
  rw [Bool.forall_bool, and_comm]
  simp only [exactScores]
  split_ifs with h
  · exact iff_of_true ⟨_, rfl⟩ h
  · exact iff_of_false (fun ⟨_, hok⟩ => nomatch hok) h

theorem training_ece_sample : EceAgrees sampleLogLoss exactScores (1 / 2) sampleRows.inputs.yTrue
    sampleRows.inputs.yProb sampleRows.rows := by
  have h := validateInputs_unweighted (s := sampleRows) (by simp [sampleRows])
  refine (training_ece_iff sampleLogLoss exactScores_raisesOneClass (1 / 2) h).mpr ⟨by simp [sampleRows], .inl ?_⟩
  norm_num [certainMisses, sampleRows]

/-- A positive, and a negative that is certain to be positive. -/
def certainNegative : Sample ℚ where
  rows := [⟨true, 1 / 2, 1⟩, ⟨false, 1, 1⟩]
  rows_ne := List.cons_ne_nil _ _
  prob_nonneg := by norm_num
  prob_le := by norm_num
  weight_nonneg := by simp
  weight_pos := by norm_num [total]

theorem training_ece_differs : ¬ ∀ (yTrue yProb : Column ℚ) (s : Sample ℚ),
    validateInputs { yTrue := yTrue, yProb := yProb } = .ok s →
      EceAgrees sampleLogLoss exactScores (1 / 2) yTrue yProb s.rows := by
  intro hall
  have h := validateInputs_unweighted (s := certainNegative) (by simp [certainNegative])
  have hcond := ((training_ece_iff sampleLogLoss exactScores_raisesOneClass (1 / 2) h).mp (hall _ _ _ h)).2
  norm_num [certainMisses, lastBinExcess, certainNegative, edge] at hcond

end RevenueRescue.Evaluation
