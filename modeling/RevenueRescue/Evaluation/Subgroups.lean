import Mathlib.Data.Char
import Mathlib.Data.List.Lex
import RevenueRescue.Evaluation.FastPath
import RevenueRescue.Foundation.Text

namespace RevenueRescue.Evaluation

open WeightedMean Sums Window

inductive SubgroupError (K : Type)
  | input (error : MetricInputError K)
  | groups (size n : Nat)

/-- The entries of a row that is scored; the metrics carry both `metrics` and `undefined`. -/
structure SubgroupScores (K : Type) where
  metrics : MetricResult Metric K
  confusionMatrix : Counts K

structure SubgroupRow (K : Type) where
  group : Text
  n : Nat
  prevalence : K
  status : String
  scores : Option (SubgroupScores K)

variable {K : Type} [Field K] [LinearOrder K] [IsStrictOrderedRing K]

/-- `y[m]` and `p[m]`, for the mask `m` of a group. -/
def masked (rows : List (Row K × Text)) (value : Text) : List (Row K) :=
  (rows.filter fun r => r.2 = value).map Prod.fst

def subgroupRow (sqrt : K → K) (sk : Scikit K) (threshold : K) (minSamples : Nat) (rows : List (Row K × Text))
    (value : Text) : Except (MetricInputError K) (SubgroupRow K) := do
  let m := masked rows value
  let row : SubgroupRow K := {
    group := value
    n := m.length
    prevalence := average (m.map Row.yf)
    status := "insufficient_samples (n=" ++ toString m.length ++ " < " ++ toString minSamples ++ ")"
    scores := none }
  if m.length < minSamples then .ok row
  else
    let r ← evaluateBinary sqrt sk { yTrue := m.map fun r => some r.yf, yProb := m.map fun r => some r.p } threshold
    .ok { row with status := "ok", scores := some ⟨r.metrics, r.confusionMatrix⟩ }

/-- `evaluate_subgroups`, for groups of any type with their `str`. -/
def evaluateSubgroups {γ : Type} (str : γ → Text) (sqrt : K → K) (sk : Scikit K) (yTrue yProb : Column K) (groups : List γ)
    (threshold : K := 1 / (2 : Nat)) (minSamples : Nat := 50) : Except (SubgroupError K) (List (SubgroupRow K)) := do
  let s ← (validateInputs { yTrue := yTrue, yProb := yProb }).mapError .input
  if groups.length = s.rows.length then
    let labels := groups.map str
    ((orderBy id labels.dedup).mapM (subgroupRow sqrt sk threshold minSamples (s.rows.zip labels))).mapError .input
  else .error (.groups groups.length s.rows.length)

section Figures

/-- What a row adds to the metrics that are means over the rows. -/
def contribution (threshold : K) (m : Metric) (r : Row K) : K :=
  match m with
  | .accuracy => if r.y = decide (threshold ≤ r.p) then 1 else 0
  | .coverage => if threshold ≤ r.p then 1 else 0
  | .mae => |r.err|
  | .meanError => r.err
  | _ => r.err ^ 2

def pooledMetrics : List Metric := [.accuracy, .coverage, .mse, .mae, .meanError, .brier]

variable {sqrt : K → K} {sk : Scikit K} {inputs : Inputs K} {s : Sample K} {prob : MetricResult Metric K}
  {bins : List (CalibrationBin K)} {threshold : K} {nBins : Nat} {m : Metric} {report : Report K}

omit [IsStrictOrderedRing K] in
theorem accuracy_eq_mean (threshold : K) (rows : List (Row K)) :
    (confusionCounts rows fun r => threshold ≤ r.p).tp + (confusionCounts rows fun r => threshold ≤ r.p).tn =
      (rows.map fun r => contribution threshold .accuracy r * r.w).sum := by
  simp only [confusionCounts, total, sum_filter_ite, ← List.sum_map_add]
  congr 1
  refine List.map_congr_left fun r _ => ?_
  by_cases hp : threshold ≤ r.p <;> cases hy : r.y <;> simp [contribution, hp, hy]

omit [IsStrictOrderedRing K] in
theorem coverage_eq_mean (threshold : K) (rows : List (Row K)) :
    (confusionCounts rows fun r => threshold ≤ r.p).tp + (confusionCounts rows fun r => threshold ≤ r.p).fp =
      (rows.map fun r => contribution threshold .coverage r * r.w).sum := by
  simp only [confusionCounts, total, sum_filter_ite, ← List.sum_map_add]
  congr 1
  refine List.map_congr_left fun r _ => ?_
  by_cases hp : threshold ≤ r.p <;> cases r.y <;> simp [contribution, hp]

/-- These metrics are always defined, and are means. -/
theorem pooled_mean (h : validateInputs inputs = .ok s) (hn : 1 ≤ nBins)
    (hprob : probabilityMetrics sk.logLoss inputs nBins = .ok (prob, bins)) (hm : m ∈ pooledMetrics) :
    (mergedMetrics sqrt sk s.rows prob threshold).values m =
      some (some (mean Row.w (contribution threshold m) s.rows)) := by
  have hmean (x : Row K → K) : wmean x s.rows = some (mean Row.w x s.rows) := wmean_pos s.weight_pos
  have hcounts := confusionCounts_n s.rows fun r => threshold ≤ r.p
  rw [Counts.n] at hcounts
  simp only [pooledMetrics, List.mem_cons, List.not_mem_nil, or_false] at hm
  rcases hm with rfl | rfl | rfl | rfl | rfl | rfl
  · rw [merged_classification _ (by decide), mean, ← accuracy_eq_mean, ← hcounts]
    simp [classificationMetrics]
  · rw [merged_classification _ (by decide), mean, ← coverage_eq_mean, ← hcounts]
    simp [classificationMetrics]
  · have hx : contribution threshold .mse = fun r => r.err ^ 2 := rfl
    rw [merged_errors h hn hprob (by decide)]
    simp [probabilityErrors, hmean, hx]
  · have hx : contribution threshold .mae = fun r => |r.err| := rfl
    rw [merged_errors h hn hprob (by decide)]
    simp [probabilityErrors, hmean, hx]
  · have hx : contribution threshold .meanError = fun r => r.err := rfl
    rw [merged_errors h hn hprob (by decide)]
    simp [probabilityErrors, hmean, hx]
  · rw [merged_probability _ (by decide)]
    obtain ⟨out, mce, hout, -, rfl⟩ := probabilityMetrics_values sk.logLoss h hn
    rw [hprob] at hout
    cases hout
    have hx : contribution threshold .brier = fun r => (r.p - r.yf) ^ 2 := rfl
    simp [hx]

end Figures

/-- Where the scored groups are all there are, their figures come to those of the whole. -/
structure Pools (whole : Report K) (rows : List (SubgroupRow K)) : Prop where
  tn : (rows.map fun row => row.scores.elim 0 fun scores => scores.confusionMatrix.tn).sum = whole.confusionMatrix.tn
  fp : (rows.map fun row => row.scores.elim 0 fun scores => scores.confusionMatrix.fp).sum = whole.confusionMatrix.fp
  fn : (rows.map fun row => row.scores.elim 0 fun scores => scores.confusionMatrix.fn).sum = whole.confusionMatrix.fn
  tp : (rows.map fun row => row.scores.elim 0 fun scores => scores.confusionMatrix.tp).sum = whole.confusionMatrix.tp
  metrics : ∀ m ∈ pooledMetrics, ∃ x, whole.metrics.values m = some (some x) ∧
    (rows.map fun row => (row.n : K) * row.scores.elim 0 fun scores => (scores.metrics.values m).join.getD 0).sum =
      whole.n * x

section Groups

variable {sqrt : K → K} {sk : Scikit K} {s : Sample K} {threshold : K} {minSamples nBins : Nat} {value : Text}
  {labelled : List (Row K × Text)} {row : SubgroupRow K} {rows : List (Row K)} {inputs : Inputs K} {report : Report K}

omit [Field K] [LinearOrder K] [IsStrictOrderedRing K] in
theorem of_bind {ε α β : Type} {x : Except ε α} {f : α → Except ε β} {b : β} (h : (x >>= f) = .ok b) :
    ∃ a, x = .ok a ∧ f a = .ok b := by
  cases x with
  | error e => cases h
  | ok a => exact ⟨a, rfl, h⟩

theorem report_counts (h : validateInputs inputs = .ok s) (hr : evaluateBinary sqrt sk inputs threshold nBins = .ok report) :
    report.n = s.rows.length ∧ report.confusionMatrix = confusionCounts s.rows fun r => threshold ≤ r.p := by
  rw [evaluateBinary, h, ok_bind] at hr
  obtain ⟨thr, hthr, hr⟩ := of_bind hr
  obtain ⟨_, -, hr⟩ := of_bind hr
  obtain ⟨_, -, hr⟩ := of_bind hr
  obtain ⟨⟨_, _⟩, -, hr⟩ := of_bind hr
  obtain ⟨_, -, hr⟩ := of_bind hr
  have hthreshold : thr = threshold := by
    rw [validateThreshold] at hthr
    split at hthr
    · cases hthr
    · cases hthr
      rfl
  cases hr
  rw [hthreshold]
  exact ⟨rfl, rfl⟩

/-- What is used of the report on rows that weigh one. -/
structure Reports (threshold : K) (rows : List (Row K)) (report : Report K) : Prop where
  n : report.n = rows.length
  confusionMatrix : report.confusionMatrix = confusionCounts rows fun r => threshold ≤ r.p
  metrics : ∀ m ∈ pooledMetrics, report.metrics.values m = some (some (average (rows.map (contribution threshold m))))

theorem evaluateBinary_reports (sqrt : K → K) (sk : Scikit K) (h : validateInputs inputs = .ok s)
    (hw : ∀ r ∈ s.rows, r.w = 1) (ht : 0 ≤ threshold ∧ threshold ≤ 1) :
    ∃ report, evaluateBinary sqrt sk inputs threshold = .ok report ∧ Reports threshold s.rows report := by
  obtain ⟨report, prob, bins, hreport, hprob, hmetrics⟩ := evaluateBinary_ok sqrt sk h ht (by decide : 1 ≤ 10)
  obtain ⟨hn, hmatrix⟩ := report_counts h hreport
  refine ⟨report, hreport, hn, hmatrix, fun m hm => ?_⟩
  rw [hmetrics, pooled_mean h (by decide) hprob hm, mean_unit hw]

/-- The row of a group says what `evaluate_binary` finds on the rows of the group. -/
theorem subgroupRow_ok (s : Sample K) (hw : ∀ r ∈ s.rows, r.w = 1) (ht : 0 ≤ threshold ∧ threshold ≤ 1)
    (hsub : ∀ r ∈ masked labelled value, r ∈ s.rows) (hne : masked labelled value ≠ []) :
    ∃ row, subgroupRow sqrt sk threshold minSamples labelled value = .ok row ∧
      (minSamples ≤ (masked labelled value).length → ∃ report, Reports threshold (masked labelled value) report ∧
        row.scores = some ⟨report.metrics, report.confusionMatrix⟩) := by
  have haccepted := validateInputs_unweighted (s := s.select hw _ hne hsub) fun r hr => hw r (hsub r hr)
  obtain ⟨report, hreport, hreports⟩ := evaluateBinary_reports sqrt sk haccepted (fun r hr => hw r (hsub r hr)) ht
  by_cases hlen : (masked labelled value).length < minSamples
  · exact ⟨_, if_pos hlen, fun hle => absurd hlen (not_lt.mpr hle)⟩
  · refine ⟨{
      group := value
      n := (masked labelled value).length
      prevalence := average ((masked labelled value).map Row.yf)
      status := "ok"
      scores := some ⟨report.metrics, report.confusionMatrix⟩ }, ?_, fun _ => ⟨report, hreports, rfl⟩⟩
    rw [subgroupRow]
    dsimp only
    rw [if_neg hlen]
    exact (congrArg (· >>= _) hreport).trans rfl

theorem subgroupRow_entries (h : subgroupRow sqrt sk threshold minSamples labelled value = .ok row) :
    row.group = value ∧ row.n = (masked labelled value).length ∧
      row.prevalence = average ((masked labelled value).map Row.yf) ∧ (row.scores.isSome = true ↔ minSamples ≤ row.n) := by
  rw [subgroupRow] at h
  dsimp only at h
  split at h
  · rename_i hlen
    cases h
    exact ⟨rfl, rfl, rfl, by simpa using hlen⟩
  · rename_i hlen
    obtain ⟨r, -, h⟩ := of_bind h
    cases h
    exact ⟨rfl, rfl, rfl, by simpa using hlen⟩

end Groups

section Pooling

variable {sqrt : K → K} {sk : Scikit K} {s : Sample K} {threshold : K} {minSamples : Nat}
  {labelled : List (Row K × Text)} {values : List Text} {rows : List (SubgroupRow K)}

omit [Field K] [LinearOrder K] [IsStrictOrderedRing K] in
theorem map_of_mapM_mem {ε α β γ : Type} {f : α → Except ε β} {l : List α} {out : List β} {g : β → γ} {h : α → γ}
    (hf : ∀ a ∈ l, ∀ b, f a = .ok b → g b = h a) (hout : l.mapM f = .ok out) : out.map g = l.map h := by
  induction l generalizing out with
  | nil =>
      cases hout
      rfl
  | cons a l ih =>
      rw [List.mapM_cons] at hout
      obtain ⟨b, hb, hout⟩ := of_bind hout
      obtain ⟨rest, hrest, hout⟩ := of_bind hout
      cases hout
      rw [List.map_cons, List.map_cons, hf a List.mem_cons_self b hb,
        ih (fun a ha => hf a (List.mem_cons_of_mem _ ha)) hrest]

omit [Field K] [LinearOrder K] [IsStrictOrderedRing K] in
theorem mem_of_mapM {ε α β : Type} {f : α → Except ε β} {l : List α} {out : List β} {b : β} (hout : l.mapM f = .ok out)
    (hb : b ∈ out) : ∃ a ∈ l, f a = .ok b := by
  induction l generalizing out with
  | nil =>
      cases hout
      cases hb
  | cons a l ih =>
      rw [List.mapM_cons] at hout
      obtain ⟨first, hfirst, hout⟩ := of_bind hout
      obtain ⟨rest, hrest, hout⟩ := of_bind hout
      cases hout
      rcases List.mem_cons.mp hb with rfl | hb
      · exact ⟨a, List.mem_cons_self, hfirst⟩
      · obtain ⟨other, hother, hf⟩ := ih hrest hb
        exact ⟨other, List.mem_cons_of_mem _ hother, hf⟩

omit [LinearOrder K] [IsStrictOrderedRing K] in
/-- What is summed within the groups is summed over all rows. -/
theorem sum_masked (hvalues : values.Nodup) (hall : ∀ r ∈ labelled, r.2 ∈ values) (x : Row K → K) :
    (values.map fun value => ((masked labelled value).map x).sum).sum = ((labelled.map Prod.fst).map x).sum := by
  have hgroups := sum_groups (fun r : Row K × Text => x r.1) hvalues hall
  simpa only [masked, List.map_map, Function.comp_def] using hgroups

omit [LinearOrder K] [IsStrictOrderedRing K] in
theorem length_mul_average [CharZero K] (xs : List K) : (xs.length : K) * average xs = xs.sum := by
  rw [average]
  by_cases hxs : xs = []
  · simp [hxs]
  · exact mul_div_cancel₀ _ (Nat.cast_ne_zero.mpr (List.length_pos_iff.mpr hxs).ne')

omit [LinearOrder K] [IsStrictOrderedRing K] in
theorem sum_yf (rows : List (Row K)) : (rows.map Row.yf).sum = rows.countP Row.y := by
  induction rows with
  | nil => simp
  | cons r rows ih =>
      rw [List.map_cons, List.sum_cons, ih, List.countP_cons, add_comm]
      cases hy : r.y <;> simp [Row.yf, hy]

omit [LinearOrder K] [IsStrictOrderedRing K] in
theorem confusionCounts_masked (hvalues : values.Nodup) (hall : ∀ r ∈ labelled, r.2 ∈ values) (q : Row K → Bool) :
    (values.map fun value => total Row.w ((masked labelled value).filter q)).sum =
      total Row.w ((labelled.map Prod.fst).filter q) := by
  simp only [total, sum_filter_ite]
  exact sum_masked hvalues hall fun r => if q r = true then r.w else 0

/-- The rows of `evaluate_subgroups` divide the sample. -/
structure Divides (labels : List Text) (s : Sample K) (minSamples : Nat) (rows : List (SubgroupRow K)) : Prop where
  ordered : (rows.map SubgroupRow.group).Pairwise (· < ·)
  groups : ∀ value, value ∈ rows.map SubgroupRow.group ↔ value ∈ labels
  filled : ∀ row ∈ rows, 0 < row.n
  size : (rows.map SubgroupRow.n).sum = s.rows.length
  positives : (rows.map fun row => (row.n : K) * row.prevalence).sum = s.rows.countP Row.y
  scored : ∀ row ∈ rows, row.scores.isSome = true ↔ minSamples ≤ row.n

theorem pools_of_scored {whole : Report K} (hvalues : values.Nodup) (hall : ∀ r ∈ labelled, r.2 ∈ values)
    (hwhole : Reports threshold (labelled.map Prod.fst) whole)
    (hrows : values.mapM (subgroupRow sqrt sk threshold minSamples labelled) = .ok rows)
    (hscored : ∀ value ∈ values, ∀ row, subgroupRow sqrt sk threshold minSamples labelled value = .ok row →
      ∃ report, Reports threshold (masked labelled value) report ∧
        row.scores = some ⟨report.metrics, report.confusionMatrix⟩) : Pools whole rows := by
  have hcell (cell : Counts K → K) (q : Row K → Bool)
      (hcell : ∀ rows : List (Row K), cell (confusionCounts rows fun r => threshold ≤ r.p) = total Row.w (rows.filter q)) :
      (rows.map fun row => row.scores.elim 0 fun scores => cell scores.confusionMatrix).sum =
        cell whole.confusionMatrix := by
    rw [hwhole.confusionMatrix, hcell, ← confusionCounts_masked hvalues hall q]
    congr 1
    refine map_of_mapM_mem (fun value hv row hrow => ?_) hrows
    obtain ⟨report, hreport, hscores⟩ := hscored value hv row hrow
    rw [hscores, ← hcell, ← hreport.confusionMatrix]
    rfl
  refine ⟨hcell Counts.tn _ fun _ => rfl, hcell Counts.fp _ fun _ => rfl, hcell Counts.fn _ fun _ => rfl,
    hcell Counts.tp _ fun _ => rfl, fun m hm => ⟨_, hwhole.metrics m hm, ?_⟩⟩
  have hlength (rows : List (Row K)) (x : Row K → K) : (rows.length : K) * average (rows.map x) = (rows.map x).sum := by
    rw [← length_mul_average, List.length_map]
  rw [hwhole.n, hlength, ← sum_masked hvalues hall]
  congr 1
  refine map_of_mapM_mem (fun value hv row hrow => ?_) hrows
  obtain ⟨report, hreport, hscores⟩ := hscored value hv row hrow
  rw [hscores, Option.elim_some, hreport.metrics m hm, (subgroupRow_entries hrow).2.1, Option.join_some, Option.getD_some,
    hlength]

end Pooling

/-- The subgroups divide an accepted sample, and where all of them are scored
their confusion matrices, and their metrics that are means, come to those of
the whole. -/
theorem subgroups_pool {γ : Type} (str : γ → Text) (sqrt : K → K) (sk : Scikit K) {yTrue yProb : Column K} {groups : List γ}
    {threshold : K} {s : Sample K} (minSamples : Nat) (h : validateInputs { yTrue := yTrue, yProb := yProb } = .ok s)
    (hlen : groups.length = s.rows.length) (ht : 0 ≤ threshold ∧ threshold ≤ 1) :
    ∃ rows whole, evaluateSubgroups str sqrt sk yTrue yProb groups threshold minSamples = .ok rows ∧
      evaluateBinary sqrt sk { yTrue := yTrue, yProb := yProb } threshold = .ok whole ∧
      Divides (groups.map str) s minSamples rows ∧ ((∀ row ∈ rows, minSamples ≤ row.n) → Pools whole rows) := by
  have hw := weights_one h rfl
  obtain ⟨whole, hwhole, hreports⟩ := evaluateBinary_reports sqrt sk h hw ht
  let labels := groups.map str
  let labelled := s.rows.zip labels
  let values := orderBy id labels.dedup
  have hlabels : labels.length = s.rows.length := by simpa [labels] using hlen
  have hfst : labelled.map Prod.fst = s.rows := List.map_fst_zip hlabels.ge
  have hsnd : labelled.map Prod.snd = labels := List.map_snd_zip hlabels.le
  have hmem : ∀ value, value ∈ values ↔ value ∈ labels := fun value => mem_orderBy.trans List.mem_dedup
  have hstrict : values.Pairwise (· < ·) := orderBy_strict (by simpa using List.nodup_dedup labels)
  have hvalues : values.Nodup := hstrict.imp fun hlt => hlt.ne
  have hall : ∀ r ∈ labelled, r.2 ∈ values := fun r hr => (hmem r.2).mpr (hsnd ▸ List.mem_map_of_mem hr)
  have hsub : ∀ value, ∀ r ∈ masked labelled value, r ∈ s.rows := by
    intro value r hr
    obtain ⟨pair, hpair, rfl⟩ := List.mem_map.mp hr
    exact hfst ▸ List.mem_map_of_mem (List.mem_of_mem_filter hpair)
  have hne : ∀ value ∈ values, masked labelled value ≠ [] := by
    intro value hv
    obtain ⟨pair, hpair, rfl⟩ := List.mem_map.mp (hsnd.symm ▸ (hmem value).mp hv)
    exact List.ne_nil_of_mem (List.mem_map_of_mem (List.mem_filter.mpr ⟨hpair, by simp⟩))
  have hrow : ∀ value ∈ values, ∃ row, subgroupRow sqrt sk threshold minSamples labelled value = .ok row ∧
      (minSamples ≤ (masked labelled value).length → ∃ report, Reports threshold (masked labelled value) report ∧
        row.scores = some ⟨report.metrics, report.confusionMatrix⟩) :=
    fun value hv => subgroupRow_ok s hw ht (hsub value) (hne value hv)
  obtain ⟨rows, hrows⟩ := exists_mapM fun value hv => (hrow value hv).imp fun row hr => hr.1
  have hentries : ∀ row ∈ rows, ∃ value ∈ values, subgroupRow sqrt sk threshold minSamples labelled value = .ok row :=
    fun row hr => mem_of_mapM hrows hr
  have hgroups : rows.map SubgroupRow.group = values := by
    rw [map_of_mapM (fun value row hr => (subgroupRow_entries hr).1) hrows, List.map_id']
  have hsizes : rows.map SubgroupRow.n = values.map fun value => (masked labelled value).length :=
    map_of_mapM (fun value row hr => (subgroupRow_entries hr).2.1) hrows
  refine ⟨rows, whole, ?_, hwhole, ⟨?_, ?_, ?_, ?_, ?_, ?_⟩, ?_⟩
  · rw [evaluateSubgroups, h, mapError_ok, ok_bind, if_pos hlen]
    exact congrArg (Except.mapError SubgroupError.input) hrows
  · rw [hgroups]
    exact hstrict
  · rw [hgroups]
    exact hmem
  · intro row hr
    obtain ⟨value, hv, hvalue⟩ := hentries row hr
    rw [(subgroupRow_entries hvalue).2.1]
    exact List.length_pos_iff.mpr (hne value hv)
  · have hsize := sum_groups (fun _ : Row K × Text => 1) hvalues hall
    rw [hsizes, ← hfst]
    simpa [masked] using hsize
  · have hpositives : ∀ value row, subgroupRow sqrt sk threshold minSamples labelled value = .ok row →
        (row.n : K) * row.prevalence = ((masked labelled value).map Row.yf).sum := by
      intro value row hr
      obtain ⟨-, hn, hp, -⟩ := subgroupRow_entries hr
      rw [hn, hp, ← length_mul_average, List.length_map]
    rw [map_of_mapM hpositives hrows, sum_masked hvalues hall, hfst, sum_yf]
  · intro row hr
    obtain ⟨value, -, hvalue⟩ := hentries row hr
    exact (subgroupRow_entries hvalue).2.2.2
  · intro hscored
    refine pools_of_scored hvalues hall (hfst.symm ▸ hreports) hrows fun value hv row hr => ?_
    obtain ⟨row', hr', hreport⟩ := hrow value hv
    rw [hr] at hr'
    cases hr'
    have hmember : (masked labelled value).length ∈ rows.map SubgroupRow.n := by
      rw [hsizes]
      exact List.mem_map_of_mem hv
    obtain ⟨other, hother, hn⟩ := List.mem_map.mp hmember
    exact hreport (hn ▸ hscored other hother)

theorem subgroups_pool_sample : ∃ rows whole,
    evaluateSubgroups String.toList rationalSqrt sampleScikit sampleRows.inputs.yTrue sampleRows.inputs.yProb ["IN", "US"]
      (1 / 2) 1 = .ok rows ∧
    evaluateBinary rationalSqrt sampleScikit
      { yTrue := sampleRows.inputs.yTrue, yProb := sampleRows.inputs.yProb } (1 / 2) = .ok whole ∧
    Divides (["IN", "US"].map String.toList) sampleRows 1 rows ∧
    ((∀ row ∈ rows, 1 ≤ row.n) → Pools whole rows) :=
  subgroups_pool String.toList rationalSqrt sampleScikit 1 (validateInputs_unweighted (by decide)) rfl (by norm_num)

end RevenueRescue.Evaluation
