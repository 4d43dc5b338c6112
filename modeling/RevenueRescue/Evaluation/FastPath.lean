import Mathlib.Analysis.SpecialFunctions.Log.Basic
import RevenueRescue.Evaluation.Bootstrap
import RevenueRescue.Foundation.WeightedMedian

namespace RevenueRescue.Evaluation

open WeightedMean Quantile OrderStatistic

variable {K : Type} [Field K] [LinearOrder K] [IsStrictOrderedRing K]

/-- With unit weights the functions of scikit-learn are the unweighted ones, and the log loss is the mean negative
log-likelihood. -/
structure UnitWeights (sk : Scikit K) (u : Unweighted K) : Prop where
  rocAuc : ∀ rows : List (Row K), (∀ r ∈ rows, r.w = 1) → (∃ r ∈ rows, r.y = true) → (∃ r ∈ rows, r.y = false) →
    sk.rocAuc rows = some (u.rocAucScore (rows.map Row.pair))
  prAuc : ∀ rows : List (Row K), (∀ r ∈ rows, r.w = 1) → (∃ r ∈ rows, r.y = true) → (∃ r ∈ rows, r.y = false) →
    sk.prAuc rows = some (u.averagePrecisionScore (rows.map Row.pair))
  logLoss : ∀ rows : List (Row K), (∀ r ∈ rows, r.w = 1) → (∀ r ∈ rows, 0 < r.p ∧ r.p < 1) → rows ≠ [] →
    sk.logLoss rows = average (rows.map fun r => -(if r.y then u.log r.p else u.log (1 - r.p)))

section Values

variable {sqrt : K → K} {sk : Scikit K} {u : Unweighted K} {rows : List (Row K)} {t : K}

/-- What `_fast_metrics` computes without the confusion matrix. -/
def fastScores (u : Unweighted K) (rows : List (Row K)) : Metric → Option (Option K)
  | .rocAuc =>
      some (if (rows.map Row.y).min? ≠ (rows.map Row.y).max? then some (u.rocAucScore (rows.map Row.pair)) else none)
  | .prAuc =>
      some (if (rows.map Row.y).min? ≠ (rows.map Row.y).max? then some (u.averagePrecisionScore (rows.map Row.pair)) else none)
  | .brier => some (some (average (rows.map fun r => (r.p - r.yf) ^ 2)))
  | .logLoss =>
      some (some (-average ((clipped rows).map fun r => r.yf * u.log r.p + (1 - r.yf) * u.log (1 - r.p))))
  | _ => none

/-- The dictionary that `_fast_metrics` returns. -/
def fastValues (sqrt : K → K) (u : Unweighted K) (rows : List (Row K)) (t : K) (m : Metric) : Option (Option K) :=
  ((classificationMetrics sqrt (countsAt rows t).cast).values m).or (fastScores u rows m)

theorem fastMetrics_ok (hne : rows ≠ []) : fastMetrics sqrt u rows t = .ok (fastValues sqrt u rows t) := by
  have hpos : (0 : K) < rows.length := Nat.cast_pos.mpr (List.length_pos_iff.mpr hne)
  have hcounts := countsAt_cast_total rows t
  rw [fastMetrics, classificationMetricsFromCounts, if_neg (by rw [hcounts]; exact not_le.mpr hpos), ok_bind,
    Except.ok.injEq]
  funext m
  rw [fastValues]
  congr 1
  cases m <;> rfl

omit [Field K] [LinearOrder K] [IsStrictOrderedRing K] in
/-- The test of `ranking_metrics` for one class. -/
theorem dedup_lt_two_iff {ys : List Bool} : ys.dedup.length < 2 ↔ ∀ b ∈ ys, ∀ b' ∈ ys, b = b' := by
  simp only [← List.mem_dedup (l := ys)]
  have hnodup := ys.nodup_dedup
  generalize ys.dedup = distinct at hnodup
  cases distinct with
  | nil => simp
  | cons b rest =>
      cases rest with
      | nil => simp
      | cons b' rest =>
          refine iff_of_false (by simp) fun hsame => ?_
          have hne : b ≠ b' := fun he => (List.nodup_cons.mp hnodup).1 (he ▸ List.mem_cons_self)
          exact hne (hsame b List.mem_cons_self b' (List.mem_cons_of_mem _ List.mem_cons_self))

omit [LinearOrder K] [IsStrictOrderedRing K] in
theorem mean_unit (hw : ∀ r ∈ rows, r.w = 1) (x : Row K → K) : mean Row.w x rows = average (rows.map x) := by
  rw [mean, average, WeightedMedian.total_equal hw, mul_one, List.length_map,
    List.map_congr_left fun r hr => by rw [hw r hr, mul_one]]

omit [IsStrictOrderedRing K] in
theorem counts_unit (hw : ∀ r ∈ rows, r.w = 1) (t : K) :
    confusionCounts rows (fun r => t ≤ r.p) = ((countsAt rows t).cast : Counts K) := by
  have hcount (q : Row K → Bool) : total Row.w (rows.filter q) = rows.countP q := by
    rw [WeightedMedian.total_equal fun r hr => hw r (List.mem_of_mem_filter hr), mul_one, List.countP_eq_length_filter]
  simp only [confusionCounts, hcount, countsAt, Counts.cast]

theorem logLossEps_pos : (0 : K) < logLossEps := by
  rw [logLossEps]
  positivity

theorem clipped_open : ∀ r ∈ clipped rows, 0 < r.p ∧ r.p < 1 := by
  have hpos : (0 : K) < logLossEps := logLossEps_pos
  have hlt : (logLossEps : K) < 1 := by
    rw [logLossEps, div_lt_one (by positivity)]
    norm_num
  refine List.forall_mem_map.mpr fun r _ => ⟨?_, ?_⟩
  · exact lt_min (hpos.trans_le (le_max_right _ _)) (sub_pos.mpr hlt)
  · exact (min_le_right _ _).trans_lt (sub_lt_self 1 hpos)

omit [IsStrictOrderedRing K] in
theorem clipped_one (hw : ∀ r ∈ rows, r.w = 1) : ∀ r ∈ clipped rows, r.w = 1 := List.forall_mem_map.mpr hw

omit [IsStrictOrderedRing K] in
theorem fastScores_rankings (hsk : UnitWeights sk u) (hw : ∀ r ∈ rows, r.w = 1) (hne : rows ≠ []) {m : Metric}
    (hm : m ∈ rankingNames) : fastScores u rows m = (rankings sk rows).values m := by
  have hne' : rows.map Row.y ≠ [] := by simpa using hne
  by_cases hone : ∀ b ∈ rows.map Row.y, ∀ b' ∈ rows.map Row.y, b = b'
  · have hrange := (min?_eq_max?_iff hne').mpr hone
    rw [rankings, if_pos (dedup_lt_two_iff.mpr hone)]
    simp only [rankingNames, List.mem_cons, List.not_mem_nil, or_false] at hm
    rcases hm with rfl | rfl
    · simp [fastScores, hrange]
    · simp [fastScores, hrange]
  · have hrange := (min?_eq_max?_iff hne').not.mpr hone
    have hclass (b : Bool) : ∃ r ∈ rows, r.y = b := by
      by_contra hno
      refine hone fun c hc c' hc' => ?_
      obtain ⟨r, hr, rfl⟩ := List.mem_map.mp hc
      obtain ⟨r', hr', rfl⟩ := List.mem_map.mp hc'
      rw [Bool.eq_not.mpr fun he => hno ⟨r, hr, he⟩, Bool.eq_not.mpr fun he => hno ⟨r', hr', he⟩]
    rw [rankings, if_neg (dedup_lt_two_iff.not.mpr hone)]
    simp only [rankingNames, List.mem_cons, List.not_mem_nil, or_false] at hm
    rcases hm with rfl | rfl
    · simp [fastScores, hrange, hsk.rocAuc rows hw (hclass true) (hclass false)]
    · simp [fastScores, hrange, hsk.prAuc rows hw (hclass true) (hclass false)]

theorem fastScores_logLoss (hsk : UnitWeights sk u) (hw : ∀ r ∈ rows, r.w = 1) (hne : rows ≠ []) :
    fastScores u rows .logLoss = some (some (sk.logLoss (clipped rows))) := by
  have hne' : clipped rows ≠ [] := by simpa [clipped] using hne
  have hterm : ∀ r ∈ clipped rows, -(if r.y then u.log r.p else u.log (1 - r.p)) =
      0 - (r.yf * u.log r.p + (1 - r.yf) * u.log (1 - r.p)) := by
    intro r _
    cases hy : r.y <;> simp [Row.yf, hy]
  rw [hsk.logLoss _ (clipped_one hw) clipped_open hne', List.map_congr_left hterm, fastScores, average, average, Sums.sum_map_sub,
    List.map_const', List.sum_replicate, smul_zero, zero_sub, List.length_map, List.length_map, neg_div]

/-- On rows that weigh one each, the fast path computes what `evaluate_binary` does. -/
theorem fastValues_eq (sqrt : K → K) (hsk : UnitWeights sk u) {inputs : Inputs K} {s : Sample K} (h : validateInputs inputs = .ok s)
    (hw : ∀ r ∈ s.rows, r.w = 1) (ht : 0 ≤ t ∧ t ≤ 1) : ∃ report, evaluateBinary sqrt sk inputs t = .ok report ∧
      ∀ m ∈ bootstrapMetrics, fastValues sqrt u s.rows t m = report.metrics.values m := by
  obtain ⟨report, prob, bins, hreport, hprob, hmetrics⟩ := evaluateBinary_ok sqrt sk h ht (by decide : 1 ≤ 10)
  obtain ⟨out, mce, hout, -, hvalues⟩ := probabilityMetrics_values sk.logLoss h (by decide : 1 ≤ 10)
  rw [hprob] at hout
  cases hout
  refine ⟨report, hreport, fun m hm => ?_⟩
  rw [hmetrics, fastValues]
  by_cases hcls : m ∈ classificationNames
  · rw [merged_classification _ hcls, counts_unit hw, values_eq sqrt _ hcls, Option.some_or]
  · rw [classification_absent hcls, Option.none_or]
    by_cases hrank : m ∈ rankingNames
    · rw [merged_rankings h (by decide) hprob hrank, fastScores_rankings hsk hw s.rows_ne hrank]
    · have hp : m = .brier ∨ m = .logLoss := by
        revert m
        decide
      rcases hp with rfl | rfl
      · rw [merged_probability _ (by decide), hvalues, mean_unit hw]
        simp [fastScores]
      · rw [merged_probability _ (by decide), hvalues, fastScores_logLoss hsk hw s.rows_ne]
        simp

end Values

section Loops

variable {ε α β γ : Type} {f : α → Except ε β} {l : List α}

theorem mapError_ok {ε' : Type} (f : ε → ε') (a : α) : (Except.ok a : Except ε α).mapError f = .ok a := rfl

theorem map_of_mapM {out : List β} {g : β → γ} {h : α → γ} (hf : ∀ a b, f a = .ok b → g b = h a)
    (hout : l.mapM f = .ok out) : out.map g = l.map h := by
  induction l generalizing out with
  | nil =>
      cases hout
      rfl
  | cons a l ih =>
      rw [List.mapM_cons] at hout
      cases ha : f a with
      | error e =>
          rw [ha] at hout
          cases hout
      | ok b =>
          rw [ha, ok_bind] at hout
          cases hl : l.mapM f with
          | error e =>
              rw [hl] at hout
              cases hout
          | ok rest =>
              rw [hl, ok_bind] at hout
              cases hout
              rw [List.map_cons, List.map_cons, hf a b ha, ih hl]

theorem exists_mapM (hf : ∀ a ∈ l, ∃ b, f a = .ok b) : ∃ out, l.mapM f = .ok out := by
  induction l with
  | nil => exact ⟨[], rfl⟩
  | cons a l ih =>
      obtain ⟨b, hb⟩ := hf a List.mem_cons_self
      obtain ⟨rest, hrest⟩ := ih fun a ha => hf a (List.mem_cons_of_mem _ ha)
      exact ⟨b :: rest, by rw [List.mapM_cons, hb, ok_bind, hrest, ok_bind]; rfl⟩

end Loops

section Resamples

variable {sqrt : K → K} {u : Unweighted K} {rows : List (Row K)} {t : K} {m : Metric}

omit [Field K] [LinearOrder K] [IsStrictOrderedRing K] in
theorem resample_ne_nil (rng : Generator) (seed k : Nat) (hne : rows ≠ []) :
    resample rows (rng.integers seed rows.length k) ≠ [] := by
  have hidx : rng.integers seed rows.length k ≠ [] := by
    intro hnil
    have hlen := rng.length_eq seed rows.length k
    rw [hnil] at hlen
    exact hne (List.eq_nil_of_length_eq_zero hlen.symm)
  obtain ⟨i, hi⟩ := List.exists_mem_of_ne_nil _ hidx
  have hlt : i < rows.length := rng.lt seed rows.length k i hi
  have hget : rows[i]? = some rows[i] := List.getElem?_eq_getElem hlt
  exact List.ne_nil_of_mem (List.mem_filterMap.mpr ⟨i, hi, hget⟩)

omit [Field K] [LinearOrder K] [IsStrictOrderedRing K] in
theorem mem_of_mem_resample {idx : List Nat} {r : Row K} (h : r ∈ resample rows idx) : r ∈ rows := by
  obtain ⟨i, -, hi⟩ := List.mem_filterMap.mp h
  exact List.mem_of_getElem? hi

theorem fastMetric_ok (hne : rows ≠ []) (hm : m ∈ bootstrapMetrics) :
    fastMetric sqrt u rows t m = .ok (fastValues sqrt u rows t m).join := by
  have hsome : ∃ v, fastValues sqrt u rows t m = some v := by
    by_cases hcls : m ∈ classificationNames
    · exact ⟨_, by rw [fastValues, values_eq sqrt _ hcls, Option.some_or]⟩
    · have hp : m = .rocAuc ∨ m = .prAuc ∨ m = .brier ∨ m = .logLoss := by
        revert m
        decide
      rw [fastValues, classification_absent hcls, Option.none_or]
      rcases hp with rfl | rfl | rfl | rfl
      all_goals exact ⟨_, rfl⟩
  obtain ⟨v, hv⟩ := hsome
  rw [fastMetric, fastMetrics_ok hne]
  simp only [Except.mapError, ok_bind, hv, Option.join_some]

end Resamples

section Intervals

variable [FloorSemiring K] {d : List K} {q : K} {v : Option K}

theorem quantileUnlessEmpty_neg (h : quantileUnlessEmpty d q = .ok v) :
    quantileUnlessEmpty (d.map Neg.neg) (1 - q) = .ok (v.map Neg.neg) := by
  unfold quantileUnlessEmpty at h ⊢
  by_cases hd : d = []
  · rw [if_pos hd] at h
    cases h
    rw [if_pos (by rw [hd]; rfl)]
    rfl
  · rw [if_neg hd] at h
    rw [if_neg (by simpa using hd), npQuantile, quantile_neg]
    rw [npQuantile] at h
    cases hq : quantile q d with
    | none =>
        rw [hq] at h
        cases h
    | some x =>
        rw [hq] at h
        cases h
        rfl

theorem quantileUnlessEmpty_ok (hq : 0 ≤ q ∧ q ≤ 1) (d : List K) : ∃ v, quantileUnlessEmpty d q = .ok v := by
  unfold quantileUnlessEmpty
  by_cases hd : d = []
  · exact ⟨none, if_pos hd⟩
  · obtain ⟨v, hv⟩ := exists_quantile hq hd
    exact ⟨some v, by rw [if_neg hd, npQuantile, hv]; rfl⟩

omit [LinearOrder K] [IsStrictOrderedRing K] [FloorSemiring K] in
theorem minus_swap (a b : Option K) : minus b a = (minus a b).map Neg.neg := by
  cases a <;> cases b <;> simp [minus]

omit [LinearOrder K] [IsStrictOrderedRing K] [FloorSemiring K] in
theorem minus_self (a : Option K) : minus a a = a.map fun _ => 0 := by
  cases a <;> simp [minus]

end Intervals

section Paired

variable [FloorSemiring K] (sqrt : K → K) (u : Unweighted K) (rng : Generator) (t : K)

/-- The value of a metric on the rows; `none` where it is undefined. -/
def fastValue (rows : List (Row K)) (m : Metric) : Option K := (fastValues sqrt u rows t m).join

/-- The differences on the resamples. -/
def resampledDifferences (a b : List (Row K)) (m : Metric) (nBoot seed : Nat) : List (Option K) :=
  (List.range nBoot).map fun k =>
    minus (fastValue sqrt u t (resample a (rng.integers seed a.length k)) m)
      (fastValue sqrt u t (resample b (rng.integers seed a.length k)) m)

variable {sqrt u rng t} {yTrue pA pB : Column K} {a b : Sample K} {m : Metric} {nBoot seed : Nat} {alpha : K}

omit [FloorSemiring K] in
theorem length_eq (hA : validateInputs { yTrue := yTrue, yProb := pA } = .ok a)
    (hB : validateInputs { yTrue := yTrue, yProb := pB } = .ok b) : a.rows.length = b.rows.length := by
  have hlabels := congrArg List.length ((columns_eq hA).1.symm.trans (columns_eq hB).1)
  simpa [Sample.inputs] using hlabels

/-- What remains of the paired difference on arrays that are accepted: its two quantiles. -/
theorem paired_eq (hA : validateInputs { yTrue := yTrue, yProb := pA } = .ok a)
    (hB : validateInputs { yTrue := yTrue, yProb := pB } = .ok b) (hm : m ∈ bootstrapMetrics) :
    pairedBootstrapDifference sqrt u rng yTrue pA pB m t nBoot seed alpha = (do
      let d := (resampledDifferences sqrt u rng t a.rows b.rows m nBoot seed).reduceOption
      let low ← quantileUnlessEmpty d (alpha / (2 : Nat))
      let high ← quantileUnlessEmpty d (1 - alpha / (2 : Nat))
      .ok {
        metric := m
        difference := minus (fastValue sqrt u t a.rows m) (fastValue sqrt u t b.rows m)
        low := low
        high := high
        nValid := d.length
        shareResamplesABetter := if d = [] then none else some ((d.countP fun x => 0 < x) / d.length) }) := by
  have hlen := length_eq hA hB
  have hdraws : ∀ k, (do
      let idx := rng.integers seed a.rows.length k
      let ma ← fastMetric sqrt u (resample a.rows idx) t m
      let mb ← fastMetric sqrt u (resample b.rows idx) t m
      (.ok (minus ma mb) : Except (BootstrapError K) (Option K))) = .ok
        (minus (fastValue sqrt u t (resample a.rows (rng.integers seed a.rows.length k)) m)
          (fastValue sqrt u t (resample b.rows (rng.integers seed a.rows.length k)) m)) := by
    intro k
    have hb := resample_ne_nil rng seed k b.rows_ne
    rw [← hlen] at hb
    simp only [fastMetric_ok (resample_ne_nil rng seed k a.rows_ne) hm, fastMetric_ok hb hm, ok_bind]
    rfl
  simp only [pairedBootstrapDifference, hA, hB, Except.mapError, ok_bind, mapM_ok hdraws, fastMetric_ok a.rows_ne hm,
    fastMetric_ok b.rows_ne hm]
  rfl

theorem paired_cases (hA : validateInputs { yTrue := yTrue, yProb := pA } = .ok a)
    (hB : validateInputs { yTrue := yTrue, yProb := pB } = .ok b) (hm : m ∈ bootstrapMetrics) {r : Difference K}
    (h : pairedBootstrapDifference sqrt u rng yTrue pA pB m t nBoot seed alpha = .ok r) :
    quantileUnlessEmpty (resampledDifferences sqrt u rng t a.rows b.rows m nBoot seed).reduceOption (alpha / (2 : Nat)) =
        .ok r.low ∧
      quantileUnlessEmpty (resampledDifferences sqrt u rng t a.rows b.rows m nBoot seed).reduceOption
        (1 - alpha / (2 : Nat)) = .ok r.high ∧
      r.difference = minus (fastValue sqrt u t a.rows m) (fastValue sqrt u t b.rows m) := by
  rw [paired_eq hA hB hm] at h
  dsimp only at h
  cases hlow : quantileUnlessEmpty (resampledDifferences sqrt u rng t a.rows b.rows m nBoot seed).reduceOption
      (alpha / (2 : Nat)) with
  | error e =>
      rw [hlow] at h
      cases h
  | ok low =>
      rw [hlow, ok_bind] at h
      cases hhigh : quantileUnlessEmpty (resampledDifferences sqrt u rng t a.rows b.rows m nBoot seed).reduceOption
          (1 - alpha / (2 : Nat)) with
      | error e =>
          rw [hhigh] at h
          cases h
      | ok high =>
          rw [hhigh, ok_bind] at h
          cases h
          exact ⟨rfl, rfl, rfl⟩

theorem paired_of (hA : validateInputs { yTrue := yTrue, yProb := pA } = .ok a)
    (hB : validateInputs { yTrue := yTrue, yProb := pB } = .ok b) (hm : m ∈ bootstrapMetrics) {low high : Option K}
    (hlow : quantileUnlessEmpty (resampledDifferences sqrt u rng t a.rows b.rows m nBoot seed).reduceOption
      (alpha / (2 : Nat)) = .ok low)
    (hhigh : quantileUnlessEmpty (resampledDifferences sqrt u rng t a.rows b.rows m nBoot seed).reduceOption
      (1 - alpha / (2 : Nat)) = .ok high) :
    ∃ r, pairedBootstrapDifference sqrt u rng yTrue pA pB m t nBoot seed alpha = .ok r ∧
      r.difference = minus (fastValue sqrt u t a.rows m) (fastValue sqrt u t b.rows m) ∧ r.low = low ∧ r.high = high := by
  rw [paired_eq hA hB hm]
  simp only [hlow, hhigh, ok_bind]
  exact ⟨_, rfl, rfl, rfl, rfl⟩

/-- The models exchanged, the difference is negated and the ends of its interval are negated and exchanged. -/
theorem paired_swap (hA : validateInputs { yTrue := yTrue, yProb := pA } = .ok a)
    (hB : validateInputs { yTrue := yTrue, yProb := pB } = .ok b) (hm : m ∈ bootstrapMetrics) {r : Difference K}
    (h : pairedBootstrapDifference sqrt u rng yTrue pA pB m t nBoot seed alpha = .ok r) :
    ∃ r', pairedBootstrapDifference sqrt u rng yTrue pB pA m t nBoot seed alpha = .ok r' ∧
      r'.difference = r.difference.map Neg.neg ∧ r'.low = r.high.map Neg.neg ∧ r'.high = r.low.map Neg.neg := by
  have hd : (resampledDifferences sqrt u rng t b.rows a.rows m nBoot seed).reduceOption =
      (resampledDifferences sqrt u rng t a.rows b.rows m nBoot seed).reduceOption.map Neg.neg := by
    rw [← List.reduceOption_map, resampledDifferences, resampledDifferences, List.map_map, length_eq hA hB]
    congr 1
    exact List.map_congr_left fun k _ => minus_swap _ _
  obtain ⟨hlow, hhigh, hdiff⟩ := paired_cases hA hB hm h
  have hlow' := quantileUnlessEmpty_neg hhigh
  have hhigh' := quantileUnlessEmpty_neg hlow
  rw [← hd, sub_sub_cancel] at hlow'
  rw [← hd] at hhigh'
  obtain ⟨r', hr', hdiff', hl, hh⟩ : ∃ r', pairedBootstrapDifference sqrt u rng yTrue pB pA m t nBoot seed alpha = .ok r' ∧
      _ := paired_of hB hA hm hlow' hhigh'
  exact ⟨r', hr', by rw [hdiff', hdiff, minus_swap], hl, hh⟩

theorem paired_returns (hA : validateInputs { yTrue := yTrue, yProb := pA } = .ok a)
    (hB : validateInputs { yTrue := yTrue, yProb := pB } = .ok b) (hm : m ∈ bootstrapMetrics)
    (halpha : 0 ≤ alpha ∧ alpha ≤ (2 : Nat)) :
    ∃ r, pairedBootstrapDifference sqrt u rng yTrue pA pB m t nBoot seed alpha = .ok r := by
  have htwo : (0 : K) < (2 : Nat) := Nat.cast_pos.mpr two_pos
  have h0 : 0 ≤ alpha / (2 : Nat) := div_nonneg halpha.1 htwo.le
  have h1 : alpha / (2 : Nat) ≤ 1 := (div_le_one htwo).mpr halpha.2
  obtain ⟨low, hlow⟩ := quantileUnlessEmpty_ok ⟨h0, h1⟩
    (resampledDifferences sqrt u rng t a.rows b.rows m nBoot seed).reduceOption
  obtain ⟨high, hhigh⟩ := quantileUnlessEmpty_ok (q := 1 - alpha / (2 : Nat)) ⟨sub_nonneg.mpr h1, sub_le_self 1 h0⟩
    (resampledDifferences sqrt u rng t a.rows b.rows m nBoot seed).reduceOption
  obtain ⟨r, hr, -⟩ := paired_of hA hB hm hlow hhigh
  exact ⟨r, hr⟩

end Paired

section Points

variable [FloorSemiring K] {sqrt : K → K} {sk : Scikit K} {u : Unweighted K} {rng : Generator} {t : K}
  {yTrue yProb : Column K} {s : Sample K} {report : Report K} {metrics : List Metric} {nBoot seed minValid : Nat} {alpha : K}

omit [IsStrictOrderedRing K] in
theorem interval_point {point : Option K} {values : List (Option K)} {row : Interval K}
    (h : interval point values nBoot seed alpha minValid = .ok row) : row.point = point := by
  unfold interval at h
  dsimp only at h
  split at h
  · cases h
    rfl
  · cases hlow : npQuantile values.reduceOption (alpha / (2 : Nat)) with
    | error e =>
        rw [hlow] at h
        cases h
    | ok low =>
        rw [hlow, ok_bind] at h
        cases hhigh : npQuantile values.reduceOption (1 - alpha / (2 : Nat)) with
        | error e =>
            rw [hhigh] at h
            cases h
        | ok high =>
            rw [hhigh, ok_bind] at h
            cases h
            rfl

theorem interval_returns (halpha : 0 ≤ alpha ∧ alpha ≤ (2 : Nat)) (hmin : 1 ≤ minValid) (point : Option K)
    (values : List (Option K)) : ∃ row, interval point values nBoot seed alpha minValid = .ok row := by
  have htwo : (0 : K) < (2 : Nat) := Nat.cast_pos.mpr two_pos
  have h0 : 0 ≤ alpha / (2 : Nat) := div_nonneg halpha.1 htwo.le
  have h1 : alpha / (2 : Nat) ≤ 1 := (div_le_one htwo).mpr halpha.2
  unfold interval
  dsimp only
  split
  · exact ⟨_, rfl⟩
  · rename_i hlen
    have hne : values.reduceOption ≠ [] := by
      intro hnil
      rw [hnil] at hlen
      exact hlen hmin
    obtain ⟨low, hlow⟩ := exists_quantile ⟨h0, h1⟩ hne
    obtain ⟨high, hhigh⟩ := exists_quantile (q := 1 - alpha / (2 : Nat)) ⟨sub_nonneg.mpr h1, sub_le_self 1 h0⟩ hne
    exact ⟨_, by rw [npQuantile, hlow, npQuantile, hhigh]; rfl⟩

/-- The values of a metric on the resamples. -/
def resampledValues (sqrt : K → K) (u : Unweighted K) (rng : Generator) (t : K) (rows : List (Row K)) (metrics : List Metric)
    (m : Metric) (nBoot seed : Nat) : List (Option K) :=
  ((List.range nBoot).map fun k => fastValues sqrt u (resample rows (rng.integers seed rows.length k)) t).flatMap
    fun vals => (metrics.filter (· = m)).map fun m => (vals m).join

/-- What remains of the intervals on arrays that are accepted: one for each metric. -/
theorem bootstrapCi_eq (h : validateInputs { yTrue := yTrue, yProb := yProb } = .ok s)
    (hreport : evaluateBinary sqrt sk { yTrue := yTrue, yProb := yProb } t = .ok report) :
    bootstrapCi sqrt sk u rng yTrue yProb t metrics nBoot seed alpha minValid = metrics.mapM fun m => (do
      let row ← interval (report.metrics.values m).join (resampledValues sqrt u rng t s.rows metrics m nBoot seed) nBoot seed
        alpha minValid
      .ok (m, row)) := by
  have hdraws : ∀ k, (fastMetrics sqrt u (resample s.rows (rng.integers seed s.rows.length k)) t).mapError
      BootstrapError.input = .ok (fastValues sqrt u (resample s.rows (rng.integers seed s.rows.length k)) t) := by
    intro k
    rw [fastMetrics_ok (resample_ne_nil rng seed k s.rows_ne)]
    rfl
  obtain ⟨hy, hp⟩ := columns_eq h
  rw [show yTrue = s.inputs.yTrue from hy, show yProb = s.inputs.yProb from hp] at h hreport ⊢
  rw [bootstrapCi, h, mapError_ok, ok_bind, hreport, mapError_ok, ok_bind, mapM_ok hdraws, ok_bind]
  rfl

theorem bootstrapCi_points (h : validateInputs { yTrue := yTrue, yProb := yProb } = .ok s)
    (hreport : evaluateBinary sqrt sk { yTrue := yTrue, yProb := yProb } t = .ok report) {out : List (Metric × Interval K)}
    (hout : bootstrapCi sqrt sk u rng yTrue yProb t metrics nBoot seed alpha minValid = .ok out) :
    (out.map fun row => (row.1, row.2.point)) = metrics.map fun m => (m, (report.metrics.values m).join) := by
  rw [bootstrapCi_eq h hreport] at hout
  refine map_of_mapM (fun m row hrow => ?_) hout
  cases hi : interval (report.metrics.values m).join (resampledValues sqrt u rng t s.rows metrics m nBoot seed) nBoot seed alpha
      minValid with
  | error e =>
      rw [hi] at hrow
      cases hrow
  | ok iv =>
      rw [hi, ok_bind] at hrow
      cases hrow
      rw [interval_point hi]

theorem bootstrapCi_returns (h : validateInputs { yTrue := yTrue, yProb := yProb } = .ok s)
    (hreport : evaluateBinary sqrt sk { yTrue := yTrue, yProb := yProb } t = .ok report)
    (halpha : 0 ≤ alpha ∧ alpha ≤ (2 : Nat)) (hmin : 1 ≤ minValid) :
    ∃ out, bootstrapCi sqrt sk u rng yTrue yProb t metrics nBoot seed alpha minValid = .ok out := by
  rw [bootstrapCi_eq h hreport]
  refine exists_mapM fun m _ => ?_
  obtain ⟨row, hrow⟩ := interval_returns halpha hmin (report.metrics.values m).join
    (resampledValues sqrt u rng t s.rows metrics m nBoot seed)
  exact ⟨(m, row), by rw [hrow, ok_bind]⟩

end Points

variable [FloorSemiring K]

/-- What the fast path, the intervals and the paired differences owe to `evaluate_binary`. -/
structure FastPathAgrees (sqrt : K → K) (sk : Scikit K) (u : Unweighted K) (rng : Generator) (t : K)
    (yTrue pA pB : Column K) (a : Sample K) (repA repB : Report K) : Prop where
  values : ∃ vals, fastMetrics sqrt u a.rows t = .ok vals ∧ ∀ m ∈ bootstrapMetrics, vals m = repA.metrics.values m
  resamples : ∀ seed k, ∃ (s : Sample K) (vals : Metric → Option (Option K)) (report : Report K),
    s.rows = resample a.rows (rng.integers seed a.rows.length k) ∧ fastMetrics sqrt u s.rows t = .ok vals ∧
      evaluateBinary sqrt sk { s.inputs with sampleWeight := none } t = .ok report ∧
      ∀ m ∈ bootstrapMetrics, vals m = report.metrics.values m
  points : ∀ metrics nBoot seed alpha minValid out,
    bootstrapCi sqrt sk u rng yTrue pA t metrics nBoot seed alpha minValid = .ok out →
      (out.map fun row => (row.1, row.2.point)) = metrics.map fun m => (m, (repA.metrics.values m).join)
  intervals : ∀ metrics nBoot seed (alpha : K) minValid, 0 ≤ alpha ∧ alpha ≤ (2 : Nat) → 1 ≤ minValid →
    ∃ out, bootstrapCi sqrt sk u rng yTrue pA t metrics nBoot seed alpha minValid = .ok out
  difference : ∀ m ∈ bootstrapMetrics, ∀ nBoot seed alpha r,
    pairedBootstrapDifference sqrt u rng yTrue pA pB m t nBoot seed alpha = .ok r →
      r.difference = minus (repA.metrics.values m).join (repB.metrics.values m).join
  returns : ∀ m ∈ bootstrapMetrics, ∀ nBoot seed (alpha : K), 0 ≤ alpha ∧ alpha ≤ (2 : Nat) →
    ∃ r, pairedBootstrapDifference sqrt u rng yTrue pA pB m t nBoot seed alpha = .ok r
  exchange : ∀ m ∈ bootstrapMetrics, ∀ nBoot seed alpha r,
    pairedBootstrapDifference sqrt u rng yTrue pA pB m t nBoot seed alpha = .ok r →
      ∃ r', pairedBootstrapDifference sqrt u rng yTrue pB pA m t nBoot seed alpha = .ok r' ∧
        r'.difference = r.difference.map Neg.neg ∧ r'.low = r.high.map Neg.neg ∧ r'.high = r.low.map Neg.neg
  same : ∀ m ∈ bootstrapMetrics, ∀ nBoot seed alpha r,
    pairedBootstrapDifference sqrt u rng yTrue pA pA m t nBoot seed alpha = .ok r →
      r.difference = (repA.metrics.values m).join.map fun _ => 0

theorem fast_path_agrees {sk : Scikit K} {u : Unweighted K} (hsk : UnitWeights sk u) (sqrt : K → K) (rng : Generator) {t : K}
    {yTrue pA pB : Column K} {a b : Sample K} (hA : validateInputs { yTrue := yTrue, yProb := pA } = .ok a)
    (hB : validateInputs { yTrue := yTrue, yProb := pB } = .ok b) (ht : 0 ≤ t ∧ t ≤ 1) :
    ∃ repA repB, evaluateBinary sqrt sk { yTrue := yTrue, yProb := pA } t = .ok repA ∧
      evaluateBinary sqrt sk { yTrue := yTrue, yProb := pB } t = .ok repB ∧
      FastPathAgrees sqrt sk u rng t yTrue pA pB a repA repB := by
  have hone := weights_one hA rfl
  obtain ⟨repA, hrepA, hvalA⟩ := fastValues_eq sqrt hsk hA hone ht
  obtain ⟨repB, hrepB, hvalB⟩ := fastValues_eq sqrt hsk hB (weights_one hB rfl) ht
  refine ⟨repA, repB, hrepA, hrepB, ?_⟩
  constructor
  · exact ⟨_, fastMetrics_ok a.rows_ne, hvalA⟩
  · intro seed k
    have hsub : ∀ r ∈ resample a.rows (rng.integers seed a.rows.length k), r ∈ a.rows := fun _ => mem_of_mem_resample
    obtain ⟨report, hreport, hvalues⟩ := fastValues_eq sqrt hsk
      (validateInputs_unweighted (s := a.select hone _ (resample_ne_nil rng seed k a.rows_ne) hsub) fun r hr =>
        hone r (hsub r hr)) (fun r hr => hone r (hsub r hr)) ht
    exact ⟨_, _, report, rfl, fastMetrics_ok (resample_ne_nil rng seed k a.rows_ne), hreport, hvalues⟩
  · exact fun _ _ _ _ _ _ hout => bootstrapCi_points hA hrepA hout
  · exact fun _ _ _ _ _ halpha hmin => bootstrapCi_returns hA hrepA halpha hmin
  · intro m hm _ _ _ r hr
    rw [(paired_cases hA hB hm hr).2.2, fastValue, fastValue, hvalA m hm, hvalB m hm]
  · exact fun _ hm _ _ _ halpha => paired_returns hA hB hm halpha
  · exact fun _ hm _ _ _ _ hr => paired_swap hA hB hm hr
  · intro m hm _ _ _ r hr
    rw [(paired_cases hA hA hm hr).2.2, minus_self, fastValue, hvalA m hm]

/-- The share of the pairs of a positive and a negative in which the positive has the larger probability. -/
def pairScore (rows : List (Bool × K)) : K :=
  let pos := rows.filter fun r => r.1
  let neg := rows.filter fun r => !r.1
  (pos.map fun a => (neg.map fun b => if b.2 < a.2 then 1 else if b.2 = a.2 then 1 / (2 : Nat) else 0).sum).sum /
    (pos.length * neg.length)

/-- The mean precision at the probabilities of the positives. -/
def meanPrecision (rows : List (Bool × K)) : K :=
  let pos := rows.filter fun r => r.1
  (pos.map fun a => (pos.countP fun b => a.2 ≤ b.2 : K) / (rows.countP fun b => a.2 ≤ b.2)).sum / pos.length

noncomputable def realUnweighted : Unweighted ℝ := ⟨pairScore, meanPrecision, Real.log⟩

/-- The functions on rows that weigh one each. -/
noncomputable def realScikit : Scikit ℝ where
  rocAuc rows := some (pairScore (rows.map Row.pair))
  prAuc rows := some (meanPrecision (rows.map Row.pair))
  logLoss rows := average (rows.map fun r => -(if r.y then Real.log r.p else Real.log (1 - r.p)))

noncomputable def realRows : Sample ℝ where
  rows := [⟨false, 1 / 5, 1⟩, ⟨true, 4 / 5, 1⟩]
  rows_ne := List.cons_ne_nil _ _
  prob_nonneg := by norm_num
  prob_le := by norm_num
  weight_nonneg := by simp
  weight_pos := by norm_num [total]

/-- Every resample is the rows themselves. -/
def identityDraws : Generator where
  integers _ n _ := List.range n
  length_eq _ _ _ := List.length_range
  lt _ _ _ _ := List.mem_range.mp

theorem fast_path_sample : ∃ repA repB,
    evaluateBinary Real.sqrt realScikit { realRows.inputs with sampleWeight := none } (1 / 2) = .ok repA ∧
      evaluateBinary Real.sqrt realScikit { realRows.inputs with sampleWeight := none } (1 / 2) = .ok repB ∧
      FastPathAgrees Real.sqrt realScikit realUnweighted identityDraws (1 / 2) realRows.inputs.yTrue realRows.inputs.yProb
        realRows.inputs.yProb realRows repA repB :=
  fast_path_agrees ⟨fun _ _ _ _ => rfl, fun _ _ _ _ => rfl, fun _ _ _ _ => rfl⟩ Real.sqrt identityDraws
    (validateInputs_unweighted (by simp [realRows])) (validateInputs_unweighted (by simp [realRows])) (by norm_num)

/-- One negative. -/
def oneNegative : Sample ℚ where
  rows := [⟨false, 1 / 2, 1⟩]
  rows_ne := List.cons_ne_nil _ _
  prob_nonneg := by norm_num
  prob_le := by norm_num
  weight_nonneg := by simp
  weight_pos := by norm_num [total]

def rationalUnweighted : Unweighted ℚ := ⟨pairScore, meanPrecision, fun x => x - 1⟩

/-- With one class there is no ROC-AUC to subtract. -/
theorem self_difference_undefined : ¬ ∀ (yTrue p : Column ℚ) (s : Sample ℚ) (r : Difference ℚ),
    validateInputs { yTrue := yTrue, yProb := p } = .ok s →
    pairedBootstrapDifference rationalSqrt rationalUnweighted identityDraws yTrue p p .rocAuc = .ok r →
    r.difference = some 0 := by
  intro hall
  have h := validateInputs_unweighted (s := oneNegative) (by simp [oneNegative])
  have hm : Metric.rocAuc ∈ bootstrapMetrics := by decide
  obtain ⟨r, hr⟩ : ∃ r, pairedBootstrapDifference rationalSqrt rationalUnweighted identityDraws oneNegative.inputs.yTrue
      oneNegative.inputs.yProb oneNegative.inputs.yProb .rocAuc = .ok r := paired_returns h h hm (by norm_num)
  have hdiff := hall _ _ _ _ h hr
  rw [(paired_cases h h hm hr).2.2] at hdiff
  simp [fastValue, fastValues, classificationMetrics, fastScores, oneNegative, minus] at hdiff

end RevenueRescue.Evaluation
