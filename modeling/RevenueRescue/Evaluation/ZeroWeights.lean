import RevenueRescue.Evaluation.CalibrationBounds

namespace RevenueRescue.Evaluation

open WeightedMean Sums

variable {K : Type} [Field K] [LinearOrder K] [IsStrictOrderedRing K]

/-- The targets that are not zero. -/
def positives (rows : List (Row K)) : List (Row K) := rows.filter fun r => r.yf ≠ 0

/-- The rows of each weighted mean that the three functions take. -/
def meanRows (nBins : Nat) (rows : List (Row K)) : List (List (Row K)) :=
  rows :: (if positives rows = [] then [] else [positives rows]) ++
    (filledBins nBins rows).map fun b => binRows nBins b rows

/-- The reasons that are written down for an undefined metric, each with what it says of the rows
that carry weight. -/
inductive Documented (rows : List (Row K)) : Metric → String → Prop
  | r2 (h : ∀ r ∈ rows, ∀ r' ∈ rows, 0 < r.w → 0 < r'.w → r.y = r'.y) : Documented rows .r2 constantTarget
  | nrmseRange (h : ∀ r ∈ rows, ∀ r' ∈ rows, r.y = r'.y) : Documented rows .nrmseRange zeroRange
  | mapeNonzeroPct (h : ∀ r ∈ rows, r.y = false) : Documented rows .mapeNonzeroPct allZero

/-- Every metric that is reported as undefined is so for its documented reason. -/
def UndefinedAsDocumented (rows : List (Row K)) (result : MetricResult Metric K) : Prop :=
  ∀ m, result.values m = some none → ∃ reason, result.undefined m = some reason ∧ Documented rows m reason

/-- Each bin and each class of targets that has a row has one that carries weight. -/
structure WeightsReach (nBins : Nat) (rows : List (Row K)) : Prop where
  bins : ∀ r ∈ rows, ∃ r' ∈ rows, binIndex nBins r'.p = binIndex nBins r.p ∧ 0 < r'.w
  positives : ∀ r ∈ rows, r.y = true → ∃ r' ∈ rows, r'.y = true ∧ 0 < r'.w

section Medians

omit [IsStrictOrderedRing K] in
theorem median_ne_none {xs : List K} (hne : xs ≠ []) : ∃ v, median xs = some v := by
  have hlen : (Window.orderBy id xs).length = xs.length := (Window.orderBy_perm id xs).length_eq
  have hpos : 0 < xs.length := List.length_pos_iff.mpr hne
  obtain ⟨b, hb⟩ : ∃ b, (Window.orderBy id xs)[xs.length / 2]? = some b :=
    ⟨_, List.getElem?_eq_getElem (by omega)⟩
  unfold median
  split
  · exact ⟨b, hb⟩
  · obtain ⟨a, ha⟩ : ∃ a, (Window.orderBy id xs)[xs.length / 2 - 1]? = some a :=
      ⟨_, List.getElem?_eq_getElem (by omega)⟩
    exact ⟨(a + b) / (2 : Nat), by simp only [ha, hb, Option.bind_some, Option.map_some]⟩

omit [LinearOrder K] [IsStrictOrderedRing K] in
theorem cumsum_length (acc : K) (xs : List K) : (cumsum acc xs).length = xs.length := by
  induction xs generalizing acc with
  | nil => rfl
  | cons x xs ih => rw [cumsum, List.length_cons, ih, List.length_cons]

omit [LinearOrder K] [IsStrictOrderedRing K] in
theorem cumsum_last (acc : K) {xs : List K} (hne : xs ≠ []) : (cumsum acc xs).getLast? = some (acc + xs.sum) := by
  induction xs generalizing acc with
  | nil => exact absurd rfl hne
  | cons x xs ih =>
      cases xs with
      | nil => simp [cumsum]
      | cons y ys =>
          rw [cumsum, cumsum, List.getLast?_cons_cons, ← cumsum, ih (acc + x) (List.cons_ne_nil _ _)]
          simp only [List.sum_cons, add_assoc]

theorem weightedMedian_ne_none (x : Row K → K) (s : Sample K) : ∃ v, weightedMedian x s.rows = some v := by
  have hperm := Window.orderBy_perm x s.rows
  have hsum : ((Window.orderBy x s.rows).map Row.w).sum = total Row.w s.rows := (hperm.map Row.w).sum_eq
  have hne : (Window.orderBy x s.rows).map Row.w ≠ [] := by
    intro he
    have hlen := hperm.length_eq
    rw [List.map_eq_nil_iff.mp he] at hlen
    exact s.rows_ne (List.length_eq_zero_iff.mp hlen.symm)
  have hlast := cumsum_last 0 hne
  rw [zero_add, hsum] at hlast
  obtain ⟨first, rest, hrows⟩ := List.exists_cons_of_ne_nil s.rows_ne
  rw [hrows, weightedMedian, ← hrows]
  split
  · exact median_ne_none (by simpa using s.rows_ne)
  · -- The last of the cumulated weights reaches one half of itself.
    have hreach : ∃ c ∈ cumsum 0 ((Window.orderBy x s.rows).map Row.w),
        decide (total Row.w s.rows / (2 : Nat) ≤ c) = true := by
      refine ⟨_, List.mem_of_getLast? hlast, decide_eq_true ?_⟩
      exact div_le_self s.weight_pos.le (by norm_num)
    have hidx := List.findIdx_lt_length_of_exists hreach
    rw [cumsum_length, List.length_map] at hidx
    simp only [hlast, Option.bind_some]
    exact ⟨_, List.getElem?_eq_getElem (by rwa [List.length_map])⟩

end Medians

section Classes

variable {nBins : Nat}

theorem bins_pos_iff (s : Sample K) (hn : 1 ≤ nBins) :
    (∀ b ∈ filledBins nBins s.rows, 0 < total Row.w (binRows nBins b s.rows)) ↔
      ∀ r ∈ s.rows, ∃ r' ∈ s.rows, binIndex nBins r'.p = binIndex nBins r.p ∧ 0 < r'.w := by
  constructor
  · intro hpos r hr
    have hne : binRows nBins (binIndex nBins r.p) s.rows ≠ [] :=
      List.ne_nil_of_mem (List.mem_filter.mpr ⟨hr, by simp⟩)
    obtain ⟨r', hr', hw⟩ := (total_pos_iff s.bin_weight_nonneg).mp
      (hpos _ (mem_filledBins.mpr ⟨binIndex_lt hn r.p, hne⟩))
    obtain ⟨hmem, hidx⟩ := List.mem_filter.mp hr'
    exact ⟨r', hmem, of_decide_eq_true hidx, hw⟩
  · intro hreach b hb
    obtain ⟨r, hr⟩ := List.exists_mem_of_ne_nil _ (mem_filledBins.mp hb).2
    obtain ⟨hmem, hidx⟩ := List.mem_filter.mp hr
    obtain ⟨r', hmem', hidx', hw⟩ := hreach r hmem
    refine (total_pos_iff s.bin_weight_nonneg).mpr ⟨r', List.mem_filter.mpr ⟨hmem', ?_⟩, hw⟩
    rw [hidx']
    exact hidx

omit [LinearOrder K] [IsStrictOrderedRing K] in
theorem yf_ne_zero_iff (r : Row K) : r.yf ≠ 0 ↔ r.y = true := by
  cases hy : r.y <;> simp [Row.yf, hy]

omit [IsStrictOrderedRing K] in
theorem mem_positives {rows : List (Row K)} {r : Row K} : r ∈ positives rows ↔ r ∈ rows ∧ r.y = true := by
  rw [positives, List.mem_filter, decide_eq_true_eq, yf_ne_zero_iff]

theorem positives_pos_iff (s : Sample K) :
    (positives s.rows = [] ∨ 0 < total Row.w (positives s.rows)) ↔
      ∀ r ∈ s.rows, r.y = true → ∃ r' ∈ s.rows, r'.y = true ∧ 0 < r'.w := by
  have hpos : 0 < total Row.w (positives s.rows) ↔ ∃ r ∈ positives s.rows, 0 < r.w :=
    total_pos_iff (s.filter_weight_nonneg _)
  constructor
  · rintro (hnil | hlt) r hr hy
    · have hmem := mem_positives.mpr ⟨hr, hy⟩
      rw [hnil] at hmem
      cases hmem
    · obtain ⟨r', hr', hw⟩ := hpos.mp hlt
      exact ⟨r', (mem_positives.mp hr').1, (mem_positives.mp hr').2, hw⟩
  · intro hreach
    by_cases hnil : positives s.rows = []
    · exact .inl hnil
    · obtain ⟨r, hr⟩ := List.exists_mem_of_ne_nil _ hnil
      obtain ⟨r', hr', hy, hw⟩ := hreach r (mem_positives.mp hr).1 (mem_positives.mp hr).2
      exact .inr (hpos.mpr ⟨r', mem_positives.mpr ⟨hr', hy⟩, hw⟩)

theorem meanRows_pos_iff (s : Sample K) (hn : 1 ≤ nBins) :
    (∀ rows ∈ meanRows nBins s.rows, 0 < total Row.w rows) ↔ WeightsReach nBins s.rows := by
  have hreach : WeightsReach nBins s.rows ↔
      (∀ b ∈ filledBins nBins s.rows, 0 < total Row.w (binRows nBins b s.rows)) ∧
        (positives s.rows = [] ∨ 0 < total Row.w (positives s.rows)) := by
    rw [bins_pos_iff s hn, positives_pos_iff]
    exact ⟨fun h => ⟨h.bins, h.positives⟩, fun h => ⟨h.1, h.2⟩⟩
  rw [hreach, meanRows, List.forall_mem_append, List.forall_mem_cons, List.forall_mem_map, and_comm]
  refine and_congr_right fun _ => ?_
  by_cases hnil : positives s.rows = []
  · simp [hnil, s.weight_pos]
  · simp [hnil, s.weight_pos]

end Classes

section Reasons

variable (s : Sample K)

omit [LinearOrder K] [IsStrictOrderedRing K] in
theorem yf_inj {r r' : Row K} : r.yf = r'.yf ↔ r.y = r'.y := by
  cases hy : r.y <;> cases hy' : r'.y <;> simp [Row.yf, hy, hy']

/-- The range of the targets is a number, and it is zero if there is one class. -/
theorem exists_targetRange : ∃ range,
    ((s.rows.map Row.yf).max?.bind fun hi => (s.rows.map Row.yf).min?.map fun lo => hi - lo) = some range ∧
      (range = 0 → ∀ r ∈ s.rows, ∀ r' ∈ s.rows, r.y = r'.y) := by
  obtain ⟨first, hfirst⟩ := List.exists_mem_of_ne_nil _ s.rows_ne
  have hmem : first.yf ∈ s.rows.map Row.yf := List.mem_map_of_mem hfirst
  obtain ⟨hi, hhi⟩ := Option.isSome_iff_exists.mp (List.isSome_max?_of_mem hmem)
  obtain ⟨lo, hlo⟩ := Option.isSome_iff_exists.mp (List.isSome_min?_of_mem hmem)
  refine ⟨hi - lo, by rw [hhi, hlo]; rfl, fun hzero r hr r' hr' => yf_inj.mp ?_⟩
  have hsame : ∀ r ∈ s.rows, r.yf = lo := by
    intro r hr
    have hle := (List.max?_le_iff hhi).mp le_rfl _ (List.mem_map_of_mem hr)
    have hge := (List.le_min?_iff hlo).mp le_rfl _ (List.mem_map_of_mem hr)
    exact le_antisymm (hle.trans_eq (sub_eq_zero.mp hzero)) hge
  rw [hsame r hr, hsame r' hr']

/-- The errors are undefined as documented if and only if the percentage error is not a quotient of zeros. -/
theorem errors_documented_iff (sqrt : K → K) : UndefinedAsDocumented s.rows (probabilityErrors sqrt s.rows) ↔
    (positives s.rows = [] ∨ 0 < total Row.w (positives s.rows)) := by
  constructor
  · intro hdoc
    by_contra hno
    obtain ⟨hne, hzero⟩ := not_or.mp hno
    have hz : total Row.w (positives s.rows) = 0 := total_eq_zero (s.filter_weight_nonneg _) hzero
    have hvalue : (probabilityErrors sqrt s.rows).values .mapeNonzeroPct = some none := by
      have hmape : wmean (fun r => |r.err| / |r.yf|) (positives s.rows) = none := if_pos hz
      simp only [probabilityErrors, MetricResult.setUnless_values, if_true]
      rw [← positives, hmape]
      simp
    obtain ⟨reason, -, hreason⟩ := hdoc .mapeNonzeroPct hvalue
    cases hreason with
    | mapeNonzeroPct h =>
        refine hne (List.eq_nil_iff_forall_not_mem.mpr fun r hr => ?_)
        have hy := (mem_positives.mp hr).2
        rw [h r (mem_positives.mp hr).1] at hy
        cases hy
  · intro hpos m hm
    cases m with
    | r2 =>
        simp only [probabilityErrors, MetricResult.setUnless_values, MetricResult.set_values, reduceCtorEq, if_false,
          if_true, wmean_pos s.weight_pos, Option.map_some] at hm
        have hzero : (s.rows.map fun r => r.w * (r.yf - mean Row.w Row.yf s.rows) ^ 2).sum = 0 := by
          by_contra hne
          rw [if_neg (by simpa using hne)] at hm
          cases hm
        refine ⟨constantTarget, ?_, .r2 fun r hr r' hr' hw hw' => yf_inj.mp ?_⟩
        · simp only [probabilityErrors, MetricResult.setUnless_undefined, MetricResult.set_undefined, reduceCtorEq,
            false_and, true_and, if_false, wmean_pos s.weight_pos, Option.map_some, hzero, true_or, if_true]
          rfl
        · exact (variance_eq_zero_iff s.weight_nonneg s.weight_pos).mp hzero r hr r' hr' hw hw'
    | nrmseRange =>
        obtain ⟨range, hrange, hsame⟩ := exists_targetRange s
        simp only [probabilityErrors, MetricResult.setUnless_values, MetricResult.set_values, reduceCtorEq, if_false,
          if_true, wmean_pos s.weight_pos, Option.map_some, hrange, Option.bind_some] at hm
        have hzero : range = 0 := by
          by_contra hne
          rw [if_neg (by simpa using hne)] at hm
          cases hm
        refine ⟨zeroRange, ?_, .nrmseRange (hsame hzero)⟩
        simp only [probabilityErrors, MetricResult.setUnless_undefined, MetricResult.set_undefined, reduceCtorEq,
          false_and, true_and, if_false, hrange, hzero, true_or, if_true]
        rfl
    | mapeNonzeroPct =>
        simp only [probabilityErrors, MetricResult.setUnless_values, if_true] at hm
        rw [← positives] at hm
        have hnil : positives s.rows = [] := by
          by_contra hne
          rw [if_neg hne, wmean_pos (hpos.resolve_left hne)] at hm
          cases hm
        refine ⟨allZero, ?_, .mapeNonzeroPct fun r hr => ?_⟩
        · simp only [probabilityErrors, MetricResult.setUnless_undefined, true_and]
          rw [← positives, hnil]
          rfl
        · by_contra hy
          have hmem := mem_positives.mpr ⟨hr, Bool.eq_true_of_not_eq_false hy⟩
          rw [hnil] at hmem
          cases hmem
    | medae =>
        obtain ⟨v, hv⟩ := weightedMedian_ne_none (fun r => |r.err|) s
        simp [probabilityErrors, hv] at hm
    | _ => simp [probabilityErrors, wmean_pos s.weight_pos] at hm

end Reasons

/-- `ece` and `mce` are numbers. -/
def AreNumbers (figures : MetricResult Metric K) : Prop :=
  (∃ ece, figures.values .ece = some (some ece)) ∧ ∃ mce, figures.values .mce = some (some mce)

theorem figures_numbers_iff (logLoss : List (Row K) → K) {inputs : Inputs K} {s : Sample K} {nBins : Nat}
    (h : validateInputs inputs = .ok s) (hn : 1 ≤ nBins) :
    ∃ figures bins, probabilityMetrics logLoss inputs nBins = .ok (figures, bins) ∧
      (AreNumbers figures ↔ ∀ b ∈ filledBins nBins s.rows, 0 < total Row.w (binRows nBins b s.rows)) ∧
      (AreNumbers figures → UndefinedAsDocumented s.rows figures) := by
  obtain ⟨figures, mce, hout, hece, -, -, hundef⟩ := probabilityMetrics_ok logLoss h hn
  refine ⟨figures, _, hout, ⟨?_, ?_⟩, ?_⟩
  · rintro ⟨⟨ece, hnumber⟩, -⟩ b hb
    by_contra hno
    have hzero : total Row.w (binRows nBins b s.rows) = 0 := total_eq_zero s.bin_weight_nonneg hno
    have hnan : none ∈ (filledBins nBins s.rows).map fun b =>
        (gap s.rows nBins b).map fun g => share s.rows nBins b * g :=
      List.mem_map.mpr ⟨b, hb, by rw [gap_zero hzero]; rfl⟩
    rw [hece, nanSum_none hnan] at hnumber
    cases hnumber
  · intro hpos
    obtain ⟨figures', mce', hout', hece', hmce', -⟩ := calibration_figures logLoss h hn hpos
    rw [hout] at hout'
    cases hout'
    exact ⟨⟨_, hece'⟩, _, hmce'⟩
  · rintro ⟨⟨ece, hece'⟩, mce', hmce'⟩ m hm
    rcases (hundef m hm).1 with rfl | rfl
    · rw [hece'] at hm
      cases hm
    · rw [hmce'] at hm
      cases hm

/-- No weighted mean is a quotient of zeros, and nothing is undefined for another reason than the documented one. -/
structure DividesSafely (nBins : Nat) (rows : List (Row K)) (errors figures : MetricResult Metric K) : Prop where
  means : ∀ part ∈ meanRows nBins rows, 0 < total Row.w part
  numbers : AreNumbers figures
  errors_documented : UndefinedAsDocumented rows errors
  figures_documented : UndefinedAsDocumented rows figures

/-- The means are safe if and only if the weights reach every bin and the positives, and so are the
metrics that they make. -/
theorem divides_safely_iff (sqrt : K → K) (logLoss : List (Row K) → K) {inputs : Inputs K} {s : Sample K} {nBins : Nat}
    (h : validateInputs inputs = .ok s) (hn : 1 ≤ nBins) :
    ∃ errors figures bins, probabilityErrorMetrics sqrt inputs = .ok errors ∧
      probabilityMetrics logLoss inputs nBins = .ok (figures, bins) ∧
      (DividesSafely nBins s.rows errors figures ↔ WeightsReach nBins s.rows) ∧
      (AreNumbers figures ∧ UndefinedAsDocumented s.rows errors ↔ WeightsReach nBins s.rows) := by
  obtain ⟨figures, bins, hout, hnumbers, hfigures⟩ := figures_numbers_iff logLoss h hn
  have hmetrics : AreNumbers figures ∧ UndefinedAsDocumented s.rows (probabilityErrors sqrt s.rows) ↔
      WeightsReach nBins s.rows := by
    rw [hnumbers, errors_documented_iff, bins_pos_iff s hn, positives_pos_iff]
    exact ⟨fun hr => ⟨hr.1, hr.2⟩, fun hr => ⟨hr.bins, hr.positives⟩⟩
  refine ⟨probabilityErrors sqrt s.rows, figures, bins, ?_, hout, ⟨?_, ?_⟩, hmetrics⟩
  · rw [probabilityErrorMetrics, h, ok_bind]
  · intro hsafe
    exact hmetrics.mp ⟨hsafe.numbers, hsafe.errors_documented⟩
  · intro hreach
    obtain ⟨hnum, hdoc⟩ := hmetrics.mpr hreach
    exact ⟨(meanRows_pos_iff s hn).mpr hreach, hnum, hdoc, hfigures hnum⟩

theorem divides_safely_sample :
    ∃ errors figures bins, probabilityErrorMetrics rationalSqrt sampleRows.inputs = .ok errors ∧
      probabilityMetrics sampleLogLoss sampleRows.inputs 10 = .ok (figures, bins) ∧
      (DividesSafely 10 sampleRows.rows errors figures ↔ WeightsReach 10 sampleRows.rows) ∧
      (AreNumbers figures ∧ UndefinedAsDocumented sampleRows.rows errors ↔ WeightsReach 10 sampleRows.rows) :=
  divides_safely_iff rationalSqrt sampleLogLoss (validateInputs_inputs sampleRows) (by decide)

/-- A negative in its own bin, and the only positive without weight. -/
def unreachedRows : Sample ℚ where
  rows := [⟨false, 1 / 5, 1⟩, ⟨true, 4 / 5, 0⟩]
  rows_ne := List.cons_ne_nil _ _
  prob_nonneg := by norm_num
  prob_le := by norm_num
  weight_nonneg := by simp
  weight_pos := by norm_num [total]

theorem divides_by_zero :
    ¬ ∀ (inputs : Inputs ℚ) (s : Sample ℚ) (errors figures : MetricResult Metric ℚ) (bins : List (CalibrationBin ℚ)),
      validateInputs inputs = .ok s → probabilityErrorMetrics rationalSqrt inputs = .ok errors →
      probabilityMetrics sampleLogLoss inputs 10 = .ok (figures, bins) → DividesSafely 10 s.rows errors figures := by
  intro hall
  have h := validateInputs_inputs unreachedRows
  obtain ⟨figures, bins, hout, -, -⟩ := figures_numbers_iff sampleLogLoss h (by decide : 1 ≤ 10)
  have herrors : probabilityErrorMetrics rationalSqrt unreachedRows.inputs =
      .ok (probabilityErrors rationalSqrt unreachedRows.rows) := by
    rw [probabilityErrorMetrics, h, ok_bind]
  have hsafe := hall _ _ _ _ _ h herrors hout
  have hreach := (meanRows_pos_iff unreachedRows (by decide)).mp hsafe.means
  obtain ⟨r, hr, hy, hw⟩ := hreach.positives ⟨true, 4 / 5, 0⟩ (by simp [unreachedRows]) rfl
  simp only [unreachedRows, List.mem_cons, List.not_mem_nil, or_false] at hr
  rcases hr with rfl | rfl
  · cases hy
  · exact lt_irrefl _ hw

end RevenueRescue.Evaluation
