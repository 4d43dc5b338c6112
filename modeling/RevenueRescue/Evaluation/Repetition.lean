import RevenueRescue.Evaluation.EvaluateBinary
import RevenueRescue.Evaluation.ZeroWeights
import RevenueRescue.Foundation.WeightedMedian

namespace RevenueRescue.Evaluation

open WeightedMean WeightedMedian Sums OrderStatistic

variable {K : Type} [Field K] [LinearOrder K] [IsStrictOrderedRing K]

/-- Each label with each probability has the same weight in both lists. -/
def SameWeight (rows rows' : List (Row K)) : Prop :=
  ∀ g : Bool → K → K, (rows.map fun r => g r.y r.p * r.w).sum = (rows'.map fun r => g r.y r.p * r.w).sum

/-- All weights are one number. -/
def EqualWeights (rows : List (Row K)) : Prop := ∀ r ∈ rows, ∀ r' ∈ rows, r.w = r'.w

section Medians

variable {rows : List (Row K)} {x : Row K → K} {xs : List K} {a b : K}

/-- `np.median` is the mean of two places, which are one where the length is odd. -/
theorem median_eq (ha : kth xs ((xs.length - 1) / 2) = some a) (hb : kth xs (xs.length / 2) = some b) :
    median xs = some ((a + b) / (2 : Nat)) := by
  have h2 : ((2 : Nat) : K) ≠ 0 := Nat.cast_ne_zero.mpr two_ne_zero
  have hpos : 0 < xs.length := by
    by_contra hzero
    rw [List.eq_nil_of_length_eq_zero (Nat.eq_zero_of_not_pos hzero)] at hb
    cases hb
  rw [kth] at ha hb
  unfold median
  by_cases hodd : xs.length % 2 = 1
  · have hplace : (xs.length - 1) / 2 = xs.length / 2 := by omega
    rw [hplace, hb, Option.some.injEq] at ha
    rw [if_pos hodd, hb, ha, ← two_mul, ← Nat.cast_two, mul_div_cancel_left₀ _ h2]
  · have hplace : (xs.length - 1) / 2 = xs.length / 2 - 1 := by omega
    rw [hplace] at ha
    simp only [if_neg hodd, ha, hb, Option.bind_some, Option.map_some]

/-- The value at the first place where the cumulated weights reach `h`. -/
theorem cumsum_reaches {acc h c : K} (hsorted : rows.Pairwise fun r r' => x r ≤ x r') (hw : ∀ r ∈ rows, 0 ≤ r.w)
    (hacc : acc < h) (hc : (rows.map x)[(cumsum acc (rows.map Row.w)).findIdx fun c => h ≤ c]? = some c) :
    acc + below Row.w x rows c < h ∧ h ≤ acc + upTo Row.w x rows c := by
  induction rows generalizing acc with
  | nil => cases hc
  | cons r rows ih =>
      obtain ⟨hhead, hrest⟩ := List.pairwise_cons.mp hsorted
      have hw' : ∀ r' ∈ rows, 0 ≤ r'.w := fun r' hr' => hw r' (List.mem_cons_of_mem _ hr')
      rw [below, upTo, total, total, sum_filter_cons, sum_filter_cons]
      rw [List.map_cons, List.map_cons, cumsum, List.findIdx_cons] at hc
      by_cases hreach : h ≤ acc + r.w
      · have hzero : rows.filter (fun r' => x r' < x r) = [] :=
          List.filter_eq_nil_iff.mpr fun r' hr' => by simpa using hhead r' hr'
        simp only [hreach, decide_true, cond_true, List.getElem?_cons_zero, Option.some.injEq] at hc
        subst hc
        rw [hzero, if_neg (by simp), if_pos (by simp)]
        refine ⟨by simpa using hacc, hreach.trans ?_⟩
        rw [← add_assoc]
        exact le_add_of_nonneg_right (total_nonneg fun r' hr' => hw' r' (List.mem_of_mem_filter hr'))
      · simp only [hreach, decide_false, cond_false, List.getElem?_cons_succ] at hc
        obtain ⟨hlt, hle⟩ := ih hrest hw' (not_le.mp hreach) hc
        obtain ⟨r', hr', rfl⟩ := List.mem_map.mp (List.mem_of_getElem? hc)
        have hhead' := hhead r' hr'
        rw [if_pos (decide_eq_true hhead'), ← add_assoc, ← add_assoc]
        refine ⟨lt_of_le_of_lt ?_ hlt, hle⟩
        refine add_le_add_left (add_le_add_right ?_ acc) _
        split
        · exact le_rfl
        · exact hw r List.mem_cons_self

/-- The median of rows whose weights are all equal lies in the middle of the two medians. -/
theorem weightedMedian_equal (hw : ∀ r ∈ rows, 0 < r.w) (hne : rows ≠ []) (he : EqualWeights rows) :
    ∃ lo hi, IsLower Row.w x rows lo ∧ IsUpper Row.w x rows hi ∧
      weightedMedian x rows = some ((lo + hi) / (2 : Nat)) := by
  obtain ⟨first, rest, hrows⟩ := List.exists_cons_of_ne_nil hne
  have hfirst : first ∈ rows := hrows ▸ List.mem_cons_self
  have hk : ∀ r ∈ rows, r.w = first.w := fun r hr => he r hr first hfirst
  have hlen : (rows.map x).length = rows.length := List.length_map _
  have hpos : 0 < rows.length := List.length_pos_iff.mpr hne
  have hlower : (rows.length - 1) / 2 < (rows.map x).length := by omega
  have hupper : rows.length / 2 < (rows.map x).length := by omega
  obtain ⟨lo, hlo⟩ := exists_kth hlower
  obtain ⟨hi, hhi⟩ := exists_kth hupper
  refine ⟨lo, hi, isLower_kth hk (hw first hfirst) hlo, isUpper_kth hk (hw first hfirst) hhi, ?_⟩
  have hall : (rows.all fun r => r.w = first.w) = true := by simpa using hk
  rw [← hlen] at hlo hhi
  rw [hrows, weightedMedian, ← hrows, if_pos hall, median_eq hlo hhi]

/-- Where the weights differ, it is the lower median. -/
theorem weightedMedian_unequal (s : Sample K) (he : ¬ EqualWeights s.rows) :
    ∃ lo, IsLower Row.w x s.rows lo ∧ weightedMedian x s.rows = some lo := by
  obtain ⟨v, hv⟩ := weightedMedian_ne_none x s
  obtain ⟨first, rest, hrows⟩ := List.exists_cons_of_ne_nil s.rows_ne
  have hall : ¬ (s.rows.all fun r => r.w = first.w) = true := by
    intro hall
    refine he fun r hr r' hr' => ?_
    have hk : ∀ r ∈ s.rows, r.w = first.w := by simpa using hall
    rw [hk r hr, hk r' hr']
  have hperm := Window.orderBy_perm x s.rows
  have hsum : ((Window.orderBy x s.rows).map Row.w).sum = total Row.w s.rows := (hperm.map Row.w).sum_eq
  have hne : (Window.orderBy x s.rows).map Row.w ≠ [] := by
    intro hnil
    rw [hnil] at hsum
    exact s.weight_pos.ne hsum
  have hlast := cumsum_last 0 hne
  rw [zero_add, hsum] at hlast
  have hc := hv
  rw [hrows, weightedMedian, ← hrows, if_neg hall] at hc
  simp only [hlast, Option.bind_some] at hc
  have htwo : (0 : K) < (2 : Nat) := Nat.cast_pos.mpr two_pos
  have hsorted : ∀ r ∈ Window.orderBy x s.rows, 0 ≤ r.w := fun r hr => s.weight_nonneg r (Window.mem_orderBy.mp hr)
  obtain ⟨hlt, hle⟩ := cumsum_reaches (Window.orderBy_pairwise x s.rows) hsorted (div_pos s.weight_pos htwo) hc
  have hfilter (q : Row K → Bool) : total Row.w ((Window.orderBy x s.rows).filter q) = total Row.w (s.rows.filter q) :=
    ((hperm.filter q).map Row.w).sum_eq
  rw [zero_add, below, hfilter, lt_div_iff₀' htwo] at hlt
  rw [zero_add, upTo, hfilter, div_le_iff₀' htwo] at hle
  exact ⟨v, ⟨hlt, hle⟩, hv⟩

end Medians

section Same

variable {rows rows' : List (Row K)} {nBins b : Nat}

omit [LinearOrder K] [IsStrictOrderedRing K] in
theorem SameWeight.filter (h : SameWeight rows rows') (q : Bool → K → Bool) :
    SameWeight (rows.filter fun r => q r.y r.p) (rows'.filter fun r => q r.y r.p) := by
  intro g
  have hite := h fun y p => if q y p = true then g y p else 0
  rw [sum_filter_ite, sum_filter_ite]
  simpa only [ite_mul, zero_mul] using hite

omit [LinearOrder K] [IsStrictOrderedRing K] in
theorem SameWeight.total (h : SameWeight rows rows') : total Row.w rows = total Row.w rows' := by
  simpa only [one_mul, WeightedMean.total] using h fun _ _ => 1

omit [LinearOrder K] [IsStrictOrderedRing K] in
theorem SameWeight.mean (h : SameWeight rows rows') (g : Bool → K → K) :
    mean Row.w (fun r => g r.y r.p) rows = mean Row.w (fun r => g r.y r.p) rows' := by
  rw [WeightedMean.mean, WeightedMean.mean, h.total, h g]

omit [IsStrictOrderedRing K] in
theorem SameWeight.wmean (h : SameWeight rows rows') (g : Bool → K → K) :
    wmean (fun r => g r.y r.p) rows = wmean (fun r => g r.y r.p) rows' := by
  rw [Evaluation.wmean, Evaluation.wmean, h.total, h.mean]

/-- Rows that all carry weight are none if and only if their weight is. -/
theorem SameWeight.nil_iff (h : SameWeight rows rows') (hw : ∀ r ∈ rows, 0 < r.w) (hw' : ∀ r ∈ rows', 0 < r.w) :
    rows = [] ↔ rows' = [] := by
  have hzero {l : List (Row K)} (hl : ∀ r ∈ l, 0 < r.w) : l = [] ↔ WeightedMean.total Row.w l = 0 := by
    constructor
    · rintro rfl
      rfl
    · intro hz
      by_contra hne
      exact (total_pos hl hne).ne' hz
  rw [hzero hw, hzero hw', h.total]

omit [IsStrictOrderedRing K] in
theorem SameWeight.gap (h : SameWeight rows rows') (nBins b : Nat) : gap rows nBins b = gap rows' nBins b := by
  have hbin : SameWeight (binRows nBins b rows) (binRows nBins b rows') := h.filter fun _ p => binIndex nBins p = b
  rw [Evaluation.gap, Evaluation.gap, show Evaluation.wmean Row.yf _ = _ from hbin.wmean fun y _ => if y then 1 else 0,
    show Evaluation.wmean Row.p _ = _ from hbin.wmean fun _ p => p]
  rfl

omit [IsStrictOrderedRing K] in
theorem SameWeight.share (h : SameWeight rows rows') (nBins b : Nat) : share rows nBins b = share rows' nBins b := by
  have hbin : SameWeight (binRows nBins b rows) (binRows nBins b rows') := h.filter fun _ p => binIndex nBins p = b
  rw [Evaluation.share, Evaluation.share, hbin.total, h.total]

omit [IsStrictOrderedRing K] in
theorem SameWeight.counts (h : SameWeight rows rows') (t : K) :
    confusionCounts rows (fun r => t ≤ r.p) = confusionCounts rows' fun r => t ≤ r.p := by
  rw [confusionCounts, confusionCounts, (h.filter fun y p => !y && !decide (t ≤ p)).total,
    (h.filter fun y p => !y && decide (t ≤ p)).total, (h.filter fun y p => y && !decide (t ≤ p)).total,
    (h.filter fun y p => y && decide (t ≤ p)).total]

/-- In rows that all carry weight the same labels with the same probabilities occur. -/
theorem SameWeight.any_iff (h : SameWeight rows rows') (hw : ∀ r ∈ rows, 0 < r.w) (hw' : ∀ r ∈ rows', 0 < r.w)
    (q : Bool → K → Bool) : (∃ r ∈ rows, q r.y r.p = true) ↔ ∃ r ∈ rows', q r.y r.p = true := by
  have hnil := ((h.filter q).nil_iff (fun r hr => hw r (List.mem_of_mem_filter hr)) fun r hr =>
    hw' r (List.mem_of_mem_filter hr)).not
  simpa [List.filter_eq_nil_iff] using hnil

variable (h : SameWeight rows rows') (hw : ∀ r ∈ rows, 0 < r.w) (hw' : ∀ r ∈ rows', 0 < r.w)

include h hw hw'

theorem same_filledBins (nBins : Nat) : filledBins nBins rows = filledBins nBins rows' := by
  refine List.filter_congr fun b _ => ?_
  simpa [binRows] using h.any_iff hw hw' fun _ p => binIndex nBins p = b

theorem same_targets (v : K) : v ∈ rows.map Row.yf ↔ v ∈ rows'.map Row.yf := by
  simpa [Row.yf] using h.any_iff hw hw' fun y _ => (if y then 1 else 0) = v

theorem same_positives : rows.filter (fun r => r.yf ≠ 0) = [] ↔ rows'.filter (fun r => r.yf ≠ 0) = [] := by
  have hany := (h.any_iff hw hw' fun y _ => y).not
  simpa [yf_ne_zero_iff, List.filter_eq_nil_iff] using hany

/-- The errors are the same but for the median and the numbers of rows. -/
theorem same_errors (sqrt : K → K) {m : Metric} (hmed : m ≠ .medae) (hexcl : m ≠ .mapeExcludedZeroTargets)
    (hincl : m ≠ .mapeIncludedRows) : (probabilityErrors sqrt rows).values m = (probabilityErrors sqrt rows').values m := by
  have hmse : wmean (fun r => r.err ^ 2) rows = wmean (fun r => r.err ^ 2) rows' :=
    h.wmean fun y p => (p - if y then 1 else 0) ^ 2
  have hmae : wmean (fun r => |r.err|) rows = wmean (fun r => |r.err|) rows' :=
    h.wmean fun y p => |p - if y then 1 else 0|
  have herr : wmean Row.err rows = wmean Row.err rows' := h.wmean fun y p => p - if y then 1 else 0
  have hyf : wmean Row.yf rows = wmean Row.yf rows' := h.wmean fun y _ => if y then 1 else 0
  have htot (mean : K) : (rows.map fun r => r.w * (r.yf - mean) ^ 2).sum = (rows'.map fun r => r.w * (r.yf - mean) ^ 2).sum := by
    simpa only [mul_comm, Row.yf] using h fun y _ => ((if y then 1 else 0) - mean) ^ 2
  have hres : (rows.map fun r => r.w * r.err ^ 2).sum = (rows'.map fun r => r.w * r.err ^ 2).sum := by
    simpa only [mul_comm, Row.err, Row.yf] using h fun y p => (p - if y then 1 else 0) ^ 2
  have hmax := max?_congr (same_targets h hw hw')
  have hmin := min?_congr (same_targets h hw hw')
  have hpos := same_positives h hw hw'
  have hmape : wmean (fun r => |r.err| / |r.yf|) (rows.filter fun r => r.yf ≠ 0) =
      wmean (fun r => |r.err| / |r.yf|) (rows'.filter fun r => r.yf ≠ 0) :=
    (h.filter fun y _ => (if y then (1 : K) else 0) ≠ 0).wmean fun y p => |p - if y then 1 else 0| / |if y then 1 else 0|
  cases m with
  | mse => simp [probabilityErrors, hmse]
  | rmse => simp [probabilityErrors, hmse]
  | mae => simp [probabilityErrors, hmae]
  | meanError => simp [probabilityErrors, herr]
  | r2 => simp [probabilityErrors, hyf, htot, hres]
  | nrmseRange => simp [probabilityErrors, hmse, hmax, hmin]
  | mapeNonzeroPct => simp only [probabilityErrors, MetricResult.setUnless_values, if_true, hpos, hmape]
  | medae => exact absurd rfl hmed
  | mapeExcludedZeroTargets => exact absurd rfl hexcl
  | mapeIncludedRows => exact absurd rfl hincl
  | _ => simp [probabilityErrors]

end Same

section Median

variable {s s' : Sample K} {g : Bool → K → K}

omit [IsStrictOrderedRing K] in
theorem SameWeight.isLower {rows rows' : List (Row K)} (h : SameWeight rows rows') {c : K}
    (hlo : IsLower Row.w (fun r => g r.y r.p) rows c) : IsLower Row.w (fun r => g r.y r.p) rows' c := by
  obtain ⟨hbelow, hupTo⟩ := hlo
  rw [below, (h.filter fun y p => g y p < c).total, h.total] at hbelow
  rw [upTo, (h.filter fun y p => g y p ≤ c).total, h.total] at hupTo
  exact ⟨hbelow, hupTo⟩

omit [IsStrictOrderedRing K] in
theorem SameWeight.isUpper {rows rows' : List (Row K)} (h : SameWeight rows rows') {c : K}
    (hhi : IsUpper Row.w (fun r => g r.y r.p) rows c) : IsUpper Row.w (fun r => g r.y r.p) rows' c := by
  obtain ⟨hbelow, hupTo⟩ := hhi
  rw [below, (h.filter fun y p => g y p < c).total, h.total] at hbelow
  rw [upTo, (h.filter fun y p => g y p ≤ c).total, h.total] at hupTo
  exact ⟨hbelow, hupTo⟩

/-- The median is the one of rows with equal weights if and only if the weights are equal too, or no value has half of the
weight up to it. -/
theorem same_median_iff (h : SameWeight s.rows s'.rows) (hw : ∀ r ∈ s.rows, 0 < r.w) (hw' : ∀ r ∈ s'.rows, 0 < r.w)
    (he' : EqualWeights s'.rows) :
    weightedMedian (fun r => g r.y r.p) s.rows = weightedMedian (fun r => g r.y r.p) s'.rows ↔
      EqualWeights s.rows ∨
        ∀ r ∈ s.rows, (2 : Nat) * upTo Row.w (fun r => g r.y r.p) s.rows (g r.y r.p) ≠ total Row.w s.rows := by
  obtain ⟨lo', hi', hlo', hhi', hmedian'⟩ := weightedMedian_equal (x := fun r => g r.y r.p) hw' s'.rows_ne he'
  have htwo : ((2 : Nat) : K) ≠ 0 := Nat.cast_ne_zero.mpr two_ne_zero
  rw [hmedian']
  by_cases he : EqualWeights s.rows
  · obtain ⟨lo, hi, hlo, hhi, hmedian⟩ := weightedMedian_equal (x := fun r => g r.y r.p) hw s.rows_ne he
    rw [hmedian, (h.isLower hlo).unique s'.weight_nonneg hlo', (h.isUpper hhi).unique s'.weight_nonneg hhi']
    exact iff_of_true rfl (.inl he)
  · obtain ⟨lo, hlo, hmedian⟩ := weightedMedian_unequal (x := fun r => g r.y r.p) s he
    obtain rfl := (h.isLower hlo).unique s'.weight_nonneg hlo'
    have hsame : lo = (lo + hi') / (2 : Nat) ↔ lo = hi' := by
      rw [eq_div_iff htwo, Nat.cast_two, mul_two, add_right_inj]
    have hback : SameWeight s'.rows s.rows := fun g => (h g).symm
    rw [hmedian, Option.some.injEq, hsame, lower_eq_upper_iff s.weight_nonneg hlo (hback.isUpper hhi')]
    exact (or_iff_right he).symm

end Median

namespace Sample

variable (s : Sample K) (counts : List Nat)

/-- The rows with these weights. -/
def weighted (hlen : counts.length = s.rows.length) (hpos : ∀ n ∈ counts, 0 < n) : Sample K where
  rows := (s.rows.zip counts).map fun x => { x.1 with w := (x.2 : K) }
  rows_ne := by
    have hne := s.rows_ne
    rw [← List.map_fst_zip hlen.ge] at hne
    simpa using hne
  prob_nonneg := List.forall_mem_map.mpr fun x hx => s.prob_nonneg x.1 (List.of_mem_zip hx).1
  prob_le := List.forall_mem_map.mpr fun x hx => s.prob_le x.1 (List.of_mem_zip hx).1
  weight_nonneg := List.forall_mem_map.mpr fun _ _ => Nat.cast_nonneg _
  weight_pos := by
    have hne := s.rows_ne
    rw [← List.map_fst_zip hlen.ge] at hne
    refine total_pos (List.forall_mem_map.mpr fun x hx => ?_) (by simpa using hne)
    exact Nat.cast_pos.mpr (hpos _ (List.of_mem_zip hx).2)

/-- Each row as often as its weight says. -/
def copied (hone : ∀ r ∈ s.rows, r.w = 1) (hlen : counts.length = s.rows.length) (hpos : ∀ n ∈ counts, 0 < n) : Sample K :=
  s.select hone (repeated counts s.rows) (repeated_ne_nil hlen hpos s.rows_ne) fun _ => mem_of_mem_repeated

variable {s} {counts} (hone : ∀ r ∈ s.rows, r.w = 1) (hlen : counts.length = s.rows.length) (hpos : ∀ n ∈ counts, 0 < n)

theorem weighted_inputs : (s.weighted counts hlen hpos).inputs =
    { s.inputs with sampleWeight := some (counts.map fun n : Nat => some (n : K)) } := by
  have hfst : (s.rows.zip counts).map Prod.fst = s.rows := List.map_fst_zip hlen.ge
  have hsnd : (s.rows.zip counts).map Prod.snd = counts := List.map_snd_zip hlen.le
  have hlabels := congrArg (List.map fun r : Row K => some r.yf) hfst
  have hprobs := congrArg (List.map fun r : Row K => some r.p) hfst
  have hweights := congrArg (List.map fun n : Nat => some (n : K)) hsnd
  rw [List.map_map] at hlabels hprobs hweights
  simp only [Sample.inputs, weighted, List.map_map, ← hlabels, ← hprobs, ← hweights]
  rfl

theorem copied_inputs : (s.copied counts hone hlen hpos).inputs.yTrue = repeated counts s.inputs.yTrue ∧
    (s.copied counts hone hlen hpos).inputs.yProb = repeated counts s.inputs.yProb :=
  ⟨map_repeated _ _ _, map_repeated _ _ _⟩

theorem weighted_copied : SameWeight (s.weighted counts hlen hpos).rows (s.copied counts hone hlen hpos).rows := by
  intro g
  rw [copied, select, sum_repeated, weighted, List.map_map]
  congr 1
  refine List.map_congr_left fun x hx => ?_
  rw [hone x.1 (List.of_mem_zip hx).1, nsmul_eq_mul, mul_one, mul_comm]
  rfl

end Sample

/-- The metrics that integer weights should treat as repetition. -/
def repetitionNames : List Metric :=
  [.mse, .rmse, .mae, .medae, .meanError, .r2, .nrmseRange, .mapeNonzeroPct, .brier, .ece, .mce] ++ classificationNames

/-- No row is such that the rows with errors up to its own carry exactly half of the weight. -/
def HalfFree (rows : List (Row K)) (counts : List Nat) : Prop :=
  ∀ r ∈ rows, 2 * (((rows.zip counts).filter fun x => |x.1.err| ≤ |r.err|).map Prod.snd).sum ≠ counts.sum

section Weights

variable {s : Sample K} {counts : List Nat} (hlen : counts.length = s.rows.length) (hpos : ∀ n ∈ counts, 0 < n)

theorem weighted_pos : ∀ r ∈ (s.weighted counts hlen hpos).rows, 0 < r.w :=
  List.forall_mem_map.mpr fun _ hx => Nat.cast_pos.mpr (hpos _ (List.of_mem_zip hx).2)

theorem weighted_equal_iff : EqualWeights (s.weighted counts hlen hpos).rows ↔ ∀ n ∈ counts, ∀ n' ∈ counts, n = n' := by
  have hsnd : (s.rows.zip counts).map Prod.snd = counts := List.map_snd_zip hlen.le
  rw [EqualWeights, Sample.weighted]
  simp only [List.forall_mem_map, Nat.cast_inj]
  rw [← List.forall_mem_map (f := Prod.snd) (l := s.rows.zip counts) (P := fun n => ∀ x ∈ s.rows.zip counts, n = x.2), hsnd]
  refine forall₂_congr fun n _ => ?_
  rw [← List.forall_mem_map (f := Prod.snd) (P := fun n' => n = n'), hsnd]

theorem weighted_filter (q : Bool → K → Bool) : total Row.w ((s.weighted counts hlen hpos).rows.filter fun r => q r.y r.p) =
    ((((s.rows.zip counts).filter fun x => q x.1.y x.1.p).map Prod.snd).sum : Nat) := by
  rw [Nat.cast_list_sum, List.map_map, Sample.weighted, List.filter_map, total, List.map_map]
  rfl

theorem weighted_total : total Row.w (s.weighted counts hlen hpos).rows = (counts.sum : Nat) := by
  have hsnd : (s.rows.zip counts).map Prod.snd = counts := List.map_snd_zip hlen.le
  have hall := weighted_filter hlen hpos fun _ _ => true
  simpa only [List.filter_true, hsnd] using hall

/-- What the median needs of the weights, in whole numbers. -/
theorem weighted_halfFree : HalfFree s.rows counts ↔ ∀ r ∈ (s.weighted counts hlen hpos).rows,
    (2 : Nat) * upTo Row.w (fun r => |r.err|) (s.weighted counts hlen hpos).rows |r.err| ≠
      total Row.w (s.weighted counts hlen hpos).rows := by
  have hfst : (s.rows.zip counts).map Prod.fst = s.rows := List.map_fst_zip hlen.ge
  have hupTo (c : K) : upTo Row.w (fun r => |r.err|) (s.weighted counts hlen hpos).rows c =
      ((((s.rows.zip counts).filter fun x => |x.1.err| ≤ c).map Prod.snd).sum : Nat) :=
    weighted_filter hlen hpos fun y p => |p - if y then 1 else 0| ≤ c
  have hrows : HalfFree s.rows counts ↔ ∀ x ∈ s.rows.zip counts,
      2 * (((s.rows.zip counts).filter fun x' => |x'.1.err| ≤ |x.1.err|).map Prod.snd).sum ≠ counts.sum := by
    rw [HalfFree]
    conv_lhs => rw [← hfst]
    rw [List.forall_mem_map, hfst]
  have hcast (c : K) : (2 : Nat) * upTo Row.w (fun r => |r.err|) (s.weighted counts hlen hpos).rows c ≠
      total Row.w (s.weighted counts hlen hpos).rows ↔
      2 * (((s.rows.zip counts).filter fun x => |x.1.err| ≤ c).map Prod.snd).sum ≠ counts.sum := by
    rw [hupTo, weighted_total, ← Nat.cast_mul, ne_eq, ne_eq, Nat.cast_inj]
  simp only [hrows, hcast]
  constructor
  · intro hall r hr
    obtain ⟨x, hx, rfl⟩ := List.mem_map.mp hr
    exact hall x hx
  · intro hall x hx
    exact hall { x.1 with w := (x.2 : K) } (List.mem_map.mpr ⟨x, hx, rfl⟩)

/-- The four figures of `probability_metrics` but for the log loss. -/
theorem same_figures {rows rows' : Sample K} (h : SameWeight rows.rows rows'.rows) (hw : ∀ r ∈ rows.rows, 0 < r.w)
    (hw' : ∀ r ∈ rows'.rows, 0 < r.w) (logLoss : List (Row K) → K) {inputs inputs' : Inputs K} {nBins : Nat}
    {out out' : MetricResult Metric K} {bins bins' : List (CalibrationBin K)} (hok : validateInputs inputs = .ok rows)
    (hok' : validateInputs inputs' = .ok rows') (hn : 1 ≤ nBins)
    (hout : probabilityMetrics logLoss inputs nBins = .ok (out, bins))
    (hout' : probabilityMetrics logLoss inputs' nBins = .ok (out', bins')) {m : Metric} (hm : m ≠ .logLoss) :
    out.values m = out'.values m := by
  obtain ⟨figures, mce, hfigures, hmce, rfl⟩ := probabilityMetrics_values logLoss hok hn
  obtain ⟨figures', mce', hfigures', hmce', rfl⟩ := probabilityMetrics_values logLoss hok' hn
  rw [hout] at hfigures
  rw [hout'] at hfigures'
  cases hfigures
  cases hfigures'
  have hgaps : gap rows.rows nBins = gap rows'.rows nBins := by
    ext1 b
    exact h.gap nBins b
  have hshares : share rows.rows nBins = share rows'.rows nBins := by
    ext1 b
    exact h.share nBins b
  rw [same_filledBins h hw hw', hgaps, hmce'] at hmce
  have hbrier : mean Row.w (fun r => (r.p - r.yf) ^ 2) rows.rows = mean Row.w (fun r => (r.p - r.yf) ^ 2) rows'.rows :=
    h.mean fun y p => (p - if y then 1 else 0) ^ 2
  cases hmce
  simp only [MetricResult.set_values, hm, if_false, hbrier, same_filledBins h hw hw', hgaps, hshares]

end Weights

/-- Integer weights mean repetition for all metrics but the median, and for the median if and only if the weights are
equal or no error has exactly half of the weight up to it. -/
theorem integer_weights_iff (sqrt : K → K) (sk : Scikit K) {yTrue yProb : Column K} {s : Sample K} {counts : List Nat}
    {threshold : K} {nBins : Nat} (h : validateInputs { yTrue := yTrue, yProb := yProb } = .ok s)
    (hlen : counts.length = yTrue.length) (hpos : ∀ n ∈ counts, 0 < n) (ht : 0 ≤ threshold ∧ threshold ≤ 1)
    (hn : 1 ≤ nBins) :
    ∃ weighted copied,
      evaluateBinary sqrt sk
        { yTrue := yTrue, yProb := yProb, sampleWeight := some (counts.map fun n : Nat => some (n : K)) } threshold nBins =
          .ok weighted ∧
      evaluateBinary sqrt sk { yTrue := repeated counts yTrue, yProb := repeated counts yProb } threshold nBins =
        .ok copied ∧
      (∀ m ∈ repetitionNames, m ≠ .medae → weighted.metrics.values m = copied.metrics.values m) ∧
      ((∀ m ∈ repetitionNames, weighted.metrics.values m = copied.metrics.values m) ↔
        (∀ n ∈ counts, ∀ n' ∈ counts, n = n') ∨ HalfFree s.rows counts) := by
  have hone := weights_one h rfl
  obtain ⟨rfl, rfl⟩ := columns_eq h
  replace hlen : counts.length = s.rows.length := hlen.trans (List.length_map _)
  have hok := validateInputs_inputs (s.weighted counts hlen hpos)
  rw [Sample.weighted_inputs] at hok
  have hunit : ∀ r ∈ (s.copied counts hone hlen hpos).rows, r.w = 1 := fun r hr => hone r (mem_of_mem_repeated hr)
  have hok' : validateInputs { yTrue := repeated counts s.inputs.yTrue, yProb := repeated counts s.inputs.yProb } =
      .ok (s.copied counts hone hlen hpos) := by
    rw [← (Sample.copied_inputs hone hlen hpos).1, ← (Sample.copied_inputs hone hlen hpos).2]
    exact validateInputs_unweighted hunit
  obtain ⟨report, prob, bins, hreport, hprob, hmetrics⟩ := evaluateBinary_ok sqrt sk hok ht hn
  obtain ⟨report', prob', bins', hreport', hprob', hmetrics'⟩ := evaluateBinary_ok sqrt sk hok' ht hn
  have hsame := Sample.weighted_copied hone hlen hpos
  have hw := weighted_pos hlen hpos
  have hw' : ∀ r ∈ (s.copied counts hone hlen hpos).rows, 0 < r.w := fun r hr => by simp [hunit r hr]
  have hothers : ∀ m ∈ repetitionNames, m ≠ .medae → report.metrics.values m = report'.metrics.values m := by
    intro m hm hmed
    rw [hmetrics, hmetrics']
    rcases List.mem_append.mp hm with hm | hm
    · by_cases herr : m ∈ errorNames
      · rw [merged_errors hok hn hprob herr, merged_errors hok' hn hprob' herr]
        refine same_errors hsame hw hw' sqrt hmed ?_ ?_
        · rintro rfl
          simp at hm
        · rintro rfl
          simp at hm
      · have hp : m ∈ probabilityNames ∧ m ≠ .logLoss := by
          revert m
          decide
        rw [merged_probability _ hp.1, merged_probability _ hp.1]
        exact same_figures hsame hw hw' sk.logLoss hok hok' hn hprob hprob' hp.2
    · rw [merged_classification _ hm, merged_classification _ hm, hsame.counts]
  have hmedae : report.metrics.values .medae = report'.metrics.values .medae ↔
      (∀ n ∈ counts, ∀ n' ∈ counts, n = n') ∨ HalfFree s.rows counts := by
    have herr : Metric.medae ∈ errorNames := by decide
    have hequal : EqualWeights (s.copied counts hone hlen hpos).rows := fun r hr r' hr' => by rw [hunit r hr, hunit r' hr']
    have hmedian := same_median_iff (g := fun y p => |p - if y then 1 else 0|) hsame hw hw' hequal
    rw [weighted_equal_iff hlen hpos] at hmedian
    rw [hmetrics, hmetrics', merged_errors hok hn hprob herr, merged_errors hok' hn hprob' herr, weighted_halfFree hlen hpos]
    simpa [probabilityErrors, Row.err, Row.yf] using hmedian
  refine ⟨report, report', hreport, hreport', hothers, ?_⟩
  rw [← hmedae]
  constructor
  · exact fun hall => hall .medae (by decide)
  · intro hmed m hm
    by_cases hm' : m = .medae
    · rw [hm']
      exact hmed
    · exact hothers m hm hm'

theorem integer_weights_sample :
    ∃ weighted copied,
      evaluateBinary rationalSqrt sampleScikit
        { yTrue := sampleRows.inputs.yTrue, yProb := sampleRows.inputs.yProb,
          sampleWeight := some ([2, 3].map fun n : Nat => some (n : ℚ)) } (1 / 2) = .ok weighted ∧
      evaluateBinary rationalSqrt sampleScikit
        { yTrue := repeated [2, 3] sampleRows.inputs.yTrue, yProb := repeated [2, 3] sampleRows.inputs.yProb } (1 / 2) =
          .ok copied ∧
      (∀ m ∈ repetitionNames, m ≠ .medae → weighted.metrics.values m = copied.metrics.values m) ∧
      ((∀ m ∈ repetitionNames, weighted.metrics.values m = copied.metrics.values m) ↔
        (∀ n ∈ [2, 3], ∀ n' ∈ [2, 3], n = n') ∨ HalfFree sampleRows.rows [2, 3]) :=
  integer_weights_iff rationalSqrt sampleScikit (validateInputs_unweighted (by simp [sampleRows])) (by simp [sampleRows, Sample.inputs])
    (by decide) (by norm_num) (by decide)

/-- Three negatives with different errors. -/
def threeNegatives : Sample ℚ where
  rows := [⟨false, 1 / 10, 1⟩, ⟨false, 1 / 5, 1⟩, ⟨false, 3 / 10, 1⟩]
  rows_ne := List.cons_ne_nil _ _
  prob_nonneg := by norm_num
  prob_le := by norm_num
  weight_nonneg := by simp
  weight_pos := by norm_num [total]

/-- With the weights 1, 2 and 3 the first two errors have half of the weight. -/
theorem integer_weights_differ : ¬ ∀ (yTrue yProb : Column ℚ) (s : Sample ℚ) (counts : List Nat) (threshold : ℚ)
    (weighted copied : Report ℚ), validateInputs { yTrue := yTrue, yProb := yProb } = .ok s →
    counts.length = yTrue.length → (∀ n ∈ counts, 0 < n) → 0 ≤ threshold ∧ threshold ≤ 1 →
    evaluateBinary rationalSqrt sampleScikit
      { yTrue := yTrue, yProb := yProb, sampleWeight := some (counts.map fun n : Nat => some (n : ℚ)) } threshold =
        .ok weighted →
    evaluateBinary rationalSqrt sampleScikit { yTrue := repeated counts yTrue, yProb := repeated counts yProb } threshold =
      .ok copied →
    ∀ m ∈ repetitionNames, weighted.metrics.values m = copied.metrics.values m := by
  intro hall
  have h := validateInputs_unweighted (s := threeNegatives) (by simp [threeNegatives])
  have hlen : [1, 2, 3].length = threeNegatives.inputs.yTrue.length := rfl
  have hpos : ∀ n ∈ [1, 2, 3], 0 < n := by decide
  have ht : (0 : ℚ) ≤ 1 / 2 ∧ (1 / 2 : ℚ) ≤ 1 := by norm_num
  obtain ⟨weighted, copied, hweighted, hcopied, -, hiff⟩ :=
    integer_weights_iff rationalSqrt sampleScikit h hlen hpos ht (by decide : 1 ≤ 10)
  rcases hiff.mp (hall _ _ _ _ _ _ _ h hlen hpos ht hweighted hcopied) with hequal | hfree
  · exact absurd hequal (by decide)
  · have hhalf := hfree ⟨false, 1 / 5, 1⟩ (by simp [threeNegatives])
    norm_num [threeNegatives, Row.err, Row.yf] at hhalf

end RevenueRescue.Evaluation
