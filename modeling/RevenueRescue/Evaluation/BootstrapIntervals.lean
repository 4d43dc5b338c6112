import RevenueRescue.Evaluation.ConfusionMatrix
import RevenueRescue.Evaluation.Subgroups

namespace RevenueRescue.Evaluation

open Quantile

variable {K : Type} [Field K] [LinearOrder K] [IsStrictOrderedRing K] [FloorSemiring K]

/-- Every value lies between two numbers. -/
def Within (lo hi : K) (values : List (Option K)) : Prop := ∀ x, some x ∈ values → lo ≤ x ∧ x ≤ hi

/-- What a row of `bootstrap_ci` says of the values on the resamples. -/
structure Summarises (values : List (Option K)) (minValid : Nat) (row : Interval K) : Prop where
  counted : row.nValid + row.nSkipped = values.length
  insufficient : row.nValid < minValid → row.low = none ∧ row.high = none
  ordered : minValid ≤ row.nValid → ∃ low high, row.low = some low ∧ row.high = some high ∧ low ≤ high
  within : ∀ lo hi, Within lo hi values → (∀ low, row.low = some low → lo ≤ low) ∧ ∀ high, row.high = some high → high ≤ hi

/-- No end of the second interval is outside the first one. -/
def Contains (outer inner : Interval K) : Prop :=
  (∀ low low', outer.low = some low → inner.low = some low' → low ≤ low') ∧
    ∀ high high', outer.high = some high → inner.high = some high' → high' ≤ high

section Rows

variable {point : Option K} {values : List (Option K)} {nBoot seed minValid : Nat} {alpha alpha' q x : K}
  {row row' : Interval K} {xs : List K}

omit [IsStrictOrderedRing K] in
theorem npQuantile_ok (h : npQuantile xs q = .ok x) : quantile q xs = some x := by
  unfold npQuantile at h
  split at h
  · cases h
    assumption
  · cases h

omit [IsStrictOrderedRing K] in
/-- The entries of a row, and where its ends come from. -/
theorem interval_ok (h : interval point values nBoot seed alpha minValid = .ok row) :
    row.nValid = values.reduceOption.length ∧ row.nSkipped = values.countP Option.isNone ∧
      ((values.reduceOption.length < minValid ∧ row.low = none ∧ row.high = none) ∨
        minValid ≤ values.reduceOption.length ∧ ∃ low high, row.low = some low ∧ row.high = some high ∧
          quantile (alpha / (2 : Nat)) values.reduceOption = some low ∧
          quantile (1 - alpha / (2 : Nat)) values.reduceOption = some high) := by
  unfold interval at h
  dsimp only at h
  split at h
  · rename_i hlen
    cases h
    exact ⟨rfl, rfl, .inl ⟨hlen, rfl, rfl⟩⟩
  · rename_i hlen
    obtain ⟨low, hlow, h⟩ := of_bind h
    obtain ⟨high, hhigh, h⟩ := of_bind h
    cases h
    exact ⟨rfl, rfl, .inr ⟨not_lt.mp hlen, low, high, rfl, rfl, npQuantile_ok hlow, npQuantile_ok hhigh⟩⟩

omit [Field K] [LinearOrder K] [IsStrictOrderedRing K] [FloorSemiring K] in
theorem length_reduceOption_add (values : List (Option K)) :
    values.reduceOption.length + values.countP Option.isNone = values.length := by
  induction values with
  | nil => rfl
  | cons value values ih =>
      cases value with
      | none =>
          rw [List.reduceOption_cons_of_none, List.countP_cons_of_pos rfl, List.length_cons]
          omega
      | some x =>
          rw [List.reduceOption_cons_of_some, List.countP_cons_of_neg (by simp), List.length_cons, List.length_cons]
          omega

theorem interval_summarises (hα : alpha ≤ 1) (h : interval point values nBoot seed alpha minValid = .ok row) :
    Summarises values minValid row := by
  obtain ⟨hvalid, hskipped, hcases⟩ := interval_ok h
  have hcounted : row.nValid + row.nSkipped = values.length := by
    rw [hvalid, hskipped, length_reduceOption_add]
  rcases hcases with ⟨hlen, hlow, hhigh⟩ | ⟨hlen, low, high, hlow, hhigh, hql, hqh⟩
  · refine ⟨hcounted, fun _ => ⟨hlow, hhigh⟩, fun hle => absurd hlen (not_lt.mpr (hvalid ▸ hle)), fun lo hi _ => ?_⟩
    simp [hlow, hhigh]
  · have hhalf : alpha / (2 : Nat) ≤ 1 - alpha / (2 : Nat) := by
      have hsplit : alpha / (2 : Nat) + alpha / (2 : Nat) = alpha := by
        rw [Nat.cast_ofNat, add_halves]
      linarith
    refine ⟨hcounted, fun hlt => absurd (hvalid ▸ hlt) (not_lt.mpr hlen),
      fun _ => ⟨low, high, hlow, hhigh, quantile_mono hhalf hql hqh⟩, fun lo hi hwithin => ⟨?_, ?_⟩⟩
    · intro low' hlow'
      rw [hlow] at hlow'
      cases hlow'
      obtain ⟨⟨x, hx, hle⟩, -⟩ := quantile_between hql
      exact (hwithin x (List.reduceOption_mem_iff.mp hx)).1.trans hle
    · intro high' hhigh'
      rw [hhigh] at hhigh'
      cases hhigh'
      obtain ⟨-, y, hy, hle⟩ := quantile_between hqh
      exact hle.trans (hwithin y (List.reduceOption_mem_iff.mp hy)).2

/-- A smaller `alpha` gives an interval that is not narrower. -/
theorem interval_contains (hα : alpha ≤ alpha') (h : interval point values nBoot seed alpha minValid = .ok row)
    (h' : interval point values nBoot seed alpha' minValid = .ok row') : Contains row row' := by
  have hhalf : alpha / (2 : Nat) ≤ alpha' / (2 : Nat) := div_le_div_of_nonneg_right hα (Nat.cast_nonneg 2)
  obtain ⟨-, -, ⟨-, hlow, hhigh⟩ | ⟨-, low, high, hlow, hhigh, hql, hqh⟩⟩ := interval_ok h
  · simp [Contains, hlow, hhigh]
  · obtain ⟨-, -, ⟨-, hlow', hhigh'⟩ | ⟨-, low', high', hlow', hhigh', hql', hqh'⟩⟩ := interval_ok h'
    · simp [Contains, hlow', hhigh']
    · have hlower := quantile_mono hhalf hql hql'
      have hupper := quantile_mono (sub_le_sub_left hhalf 1) hqh' hqh
      simp only [Contains, hlow, hhigh, hlow', hhigh', Option.some.injEq]
      exact ⟨by rintro _ _ rfl rfl; exact hlower, by rintro _ _ rfl rfl; exact hupper⟩

end Rows

/-- The metrics whose values are shares. -/
def unitMetrics : List Metric := [.precision, .recall, .f1, .brier]

section Values

variable {sqrt : K → K} {sk : Scikit K} {u : Unweighted K} {rng : Generator} {rows : List (Row K)} {t x : K} {m : Metric}
  {metrics : List Metric} {nBoot seed : Nat} {s : Sample K}

omit [FloorSemiring K] in
theorem fastValues_unit (hp : ∀ r ∈ rows, 0 ≤ r.p ∧ r.p ≤ 1) (hm : m ∈ unitMetrics)
    (h : (fastValues sqrt u rows t m).join = some x) : 0 ≤ x ∧ x ≤ 1 := by
  by_cases hcls : m ∈ classificationNames
  · have hc : ((countsAt rows t).cast : Counts K).Nonneg :=
      ⟨Nat.cast_nonneg _, Nat.cast_nonneg _, Nat.cast_nonneg _, Nat.cast_nonneg _⟩
    rw [fastValues, values_eq sqrt _ hcls, Option.some_or, Option.join_some] at h
    refine metric_unit hc ?_ ?_ h
    all_goals
      rintro rfl
      exact absurd hm (by decide)
  · have hbrier : ∀ m ∈ unitMetrics, m ∉ classificationNames → m = .brier := by decide
    obtain rfl := hbrier m hm hcls
    rw [fastValues, classification_absent hcls, Option.none_or] at h
    have hx : average (rows.map fun r => (r.p - r.yf) ^ 2) = x := by simpa [fastScores] using h
    have hterm : ∀ r ∈ rows, (0 : K) ≤ (r.p - r.yf) ^ 2 ∧ (r.p - r.yf) ^ 2 ≤ 1 := by
      intro r hr
      obtain ⟨h0, h1⟩ := hp r hr
      refine ⟨sq_nonneg _, (sq_le_one_iff_abs_le_one _).mpr (abs_le.mpr ?_)⟩
      cases hy : r.y <;> simp only [Row.yf, hy] <;> constructor <;> simp <;> linarith
    rw [← hx, average]
    have hsum0 : 0 ≤ (rows.map fun r => (r.p - r.yf) ^ 2).sum := Sums.sum_map_nonneg fun r hr => (hterm r hr).1
    have hsum1 : (rows.map fun r => (r.p - r.yf) ^ 2).sum ≤ ((rows.map fun r => (r.p - r.yf) ^ 2).length : K) := by
      have hle := List.sum_le_sum fun r hr => (hterm r hr).2
      simpa using hle
    exact div_unit hsum0 hsum1

omit [IsStrictOrderedRing K] [FloorSemiring K] in
theorem length_resampledValues : (resampledValues sqrt u rng t rows metrics m nBoot seed).length = nBoot * metrics.count m := by
  simp [resampledValues, List.length_flatMap, List.count_eq_length_filter, Function.comp_def, beq_eq_decide]

omit [FloorSemiring K] in
theorem within_unit (s : Sample K) (hm : m ∈ unitMetrics) :
    Within 0 1 (resampledValues sqrt u rng t s.rows metrics m nBoot seed) := by
  intro x hx
  obtain ⟨vals, hvals, hvalue⟩ := List.mem_flatMap.mp hx
  obtain ⟨k, -, rfl⟩ := List.mem_map.mp hvals
  obtain ⟨m', hm', hvalue'⟩ := List.mem_map.mp hvalue
  have hsame : m' = m := of_decide_eq_true (List.mem_filter.mp hm').2
  subst hsame
  refine fastValues_unit (fun r hr => ?_) hm hvalue'
  have hr := mem_of_mem_resample hr
  exact ⟨s.prob_nonneg r hr, s.prob_le r hr⟩

end Values

/-- The rows of `bootstrap_ci`: one for each metric, over all the resamples. -/
structure Reported (resampled : Metric → List (Option K)) (metrics : List Metric) (nBoot minValid : Nat)
    (out : List (Metric × Interval K)) : Prop where
  names : out.map Prod.fst = metrics
  counted : ∀ m row, (m, row) ∈ out → row.nValid + row.nSkipped = nBoot * metrics.count m
  summarises : ∀ m row, (m, row) ∈ out → Summarises (resampled m) minValid row
  unit : ∀ m row, (m, row) ∈ out → m ∈ unitMetrics →
    (∀ low, row.low = some low → 0 ≤ low) ∧ ∀ high, row.high = some high → high ≤ 1

section Calls

variable {sqrt : K → K} {sk : Scikit K} {u : Unweighted K} {rng : Generator} {t alpha : K} {m : Metric} {s : Sample K}
  {metrics : List Metric} {nBoot seed minValid : Nat} {yTrue yProb : Column K} {report : Report K}
  {out : List (Metric × Interval K)} {row : Interval K}

/-- Each row comes from the values of its metric. -/
theorem row_of_bootstrapCi (h : validateInputs { yTrue := yTrue, yProb := yProb } = .ok s)
    (hreport : evaluateBinary sqrt sk { yTrue := yTrue, yProb := yProb } t = .ok report)
    (hout : bootstrapCi sqrt sk u rng yTrue yProb t metrics nBoot seed alpha minValid = .ok out) (hrow : (m, row) ∈ out) :
    interval (report.metrics.values m).join (resampledValues sqrt u rng t s.rows metrics m nBoot seed) nBoot seed alpha
      minValid = .ok row := by
  rw [bootstrapCi_eq h hreport] at hout
  obtain ⟨m', -, hm'⟩ := mem_of_mapM hout hrow
  obtain ⟨row', hrow', hpair⟩ := of_bind hm'
  cases hpair
  exact hrow'

theorem bootstrapCi_reported (h : validateInputs { yTrue := yTrue, yProb := yProb } = .ok s)
    (hreport : evaluateBinary sqrt sk { yTrue := yTrue, yProb := yProb } t = .ok report) (hα : alpha ≤ 1)
    (hout : bootstrapCi sqrt sk u rng yTrue yProb t metrics nBoot seed alpha minValid = .ok out) :
    Reported (fun m => resampledValues sqrt u rng t s.rows metrics m nBoot seed) metrics nBoot minValid out := by
  have hsummary : ∀ m row, (m, row) ∈ out →
      Summarises (resampledValues sqrt u rng t s.rows metrics m nBoot seed) minValid row :=
    fun m row hrow => interval_summarises hα (row_of_bootstrapCi h hreport hout hrow)
  refine ⟨?_, fun m row hrow => ?_, hsummary, fun m row hrow hm => (hsummary m row hrow).within 0 1 (within_unit s hm)⟩
  · have hpoints := congrArg (List.map Prod.fst) (bootstrapCi_points h hreport hout)
    simpa only [List.map_map, Function.comp_def, List.map_id'] using hpoints
  · rw [(hsummary m row hrow).counted, length_resampledValues]

end Calls

/-- On accepted arrays each interval counts all the resamples, is in order,
does not reach beyond the values it summarises, and contains the interval of a
lower confidence. -/
theorem bootstrap_intervals (sqrt : K → K) (sk : Scikit K) (u : Unweighted K) (rng : Generator) {yTrue yProb : Column K}
    {s : Sample K} {t alpha alpha' : K} (metrics : List Metric) (nBoot seed : Nat) {minValid : Nat}
    (h : validateInputs { yTrue := yTrue, yProb := yProb } = .ok s) (ht : 0 ≤ t ∧ t ≤ 1) (h0 : 0 ≤ alpha)
    (hα : alpha ≤ alpha') (h1 : alpha' ≤ 1) (hmin : 1 ≤ minValid) :
    ∃ out out', bootstrapCi sqrt sk u rng yTrue yProb t metrics nBoot seed alpha minValid = .ok out ∧
      bootstrapCi sqrt sk u rng yTrue yProb t metrics nBoot seed alpha' minValid = .ok out' ∧
      Reported (fun m => resampledValues sqrt u rng t s.rows metrics m nBoot seed) metrics nBoot minValid out ∧
      ∀ m row row', (m, row) ∈ out → (m, row') ∈ out' → Contains row row' := by
  have htwo : (1 : K) ≤ (2 : Nat) := Nat.one_le_cast.mpr one_le_two
  obtain ⟨report, hreport, -⟩ := evaluateBinary_reports sqrt sk h (weights_one h rfl) ht
  have hreturns (a : K) (ha0 : 0 ≤ a) (ha1 : a ≤ 1) :
      ∃ out, bootstrapCi sqrt sk u rng yTrue yProb t metrics nBoot seed a minValid = .ok out :=
    bootstrapCi_returns h hreport ⟨ha0, ha1.trans htwo⟩ hmin
  obtain ⟨out, hout⟩ := hreturns alpha h0 (hα.trans h1)
  obtain ⟨out', hout'⟩ := hreturns alpha' (h0.trans hα) h1
  refine ⟨out, out', hout, hout', bootstrapCi_reported h hreport (hα.trans h1) hout, fun m row row' hrow hrow' => ?_⟩
  exact interval_contains hα (row_of_bootstrapCi h hreport hout hrow) (row_of_bootstrapCi h hreport hout' hrow')

theorem bootstrap_intervals_sample : ∃ out out',
    bootstrapCi rationalSqrt sampleScikit rationalUnweighted identityDraws sampleRows.inputs.yTrue sampleRows.inputs.yProb
      (1 / 2) [.precision, .brier] 3 42 (1 / 20) 1 = .ok out ∧
    bootstrapCi rationalSqrt sampleScikit rationalUnweighted identityDraws sampleRows.inputs.yTrue sampleRows.inputs.yProb
      (1 / 2) [.precision, .brier] 3 42 (1 / 10) 1 = .ok out' ∧
    Reported (fun m => resampledValues rationalSqrt rationalUnweighted identityDraws (1 / 2) sampleRows.rows
      [.precision, .brier] m 3 42) [.precision, .brier] 3 1 out ∧
    ∀ m row row', (m, row) ∈ out → (m, row') ∈ out' → Contains row row' :=
  bootstrap_intervals rationalSqrt sampleScikit rationalUnweighted identityDraws [.precision, .brier] 3 42
    (validateInputs_unweighted (by decide)) (by norm_num) (by norm_num) (by norm_num) (by norm_num) le_rfl

end RevenueRescue.Evaluation
