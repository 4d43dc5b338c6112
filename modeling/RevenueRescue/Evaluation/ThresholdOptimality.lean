import Mathlib.Tactic.Ring
import RevenueRescue.Evaluation.ConfusionMatrix
import RevenueRescue.Evaluation.ThresholdSelection
import RevenueRescue.Foundation.OrderStatistic

namespace RevenueRescue.Evaluation

variable {K : Type} [Field K] [LinearOrder K] [IsStrictOrderedRing K]

section Specification

variable {value : K → Option K} {thresholds : List K} {t : K}

/-- The metric has its largest value at `t`, among the candidates where it is defined. -/
def Maximises (value : K → Option K) (thresholds : List K) (t : K) : Prop :=
  t ∈ thresholds ∧ ∃ v, value t = some v ∧ ∀ u ∈ thresholds, ∀ v', value u = some v' → v' ≤ v

def SmallestMaximiser (value : K → Option K) (thresholds : List K) (t : K) : Prop :=
  IsLeast { u | Maximises value thresholds u } t

/-- The metric of the confusion matrix at `t`. -/
def metricAt (sqrt : K → K) (s : Sample K) (m : Metric) (t : K) : Option K := (countsAt s.rows t).cast.metric sqrt m

/-- TPR − FPR. -/
def youdenAt (sqrt : K → K) (s : Sample K) (t : K) : Option K :=
  (metricAt sqrt s .recall t).bind fun tpr => (metricAt sqrt s .fpr t).map fun fpr => tpr - fpr

def Covered (sqrt : K → K) (s : Sample K) (minCoverage t : K) : Prop :=
  ∃ c, metricAt sqrt s .coverage t = some c ∧ minCoverage ≤ c

instance decidableCovered (sqrt : K → K) (s : Sample K) (minCoverage t : K) :
    Decidable (Covered sqrt s minCoverage t) :=
  decidable_of_iff ((metricAt sqrt s .coverage t).any fun c => minCoverage ≤ c) (by
    simp [Covered, Option.any_eq_true])

def Qualifies (sqrt : K → K) (s : Sample K) (targetPrecision minCoverage t : K) : Prop :=
  (∃ v, metricAt sqrt s .precision t = some v ∧ targetPrecision ≤ v) ∧ Covered sqrt s minCoverage t

/-- The precision where there is enough coverage. -/
def coveredPrecision (sqrt : K → K) (s : Sample K) (minCoverage t : K) : Option K :=
  if Covered sqrt s minCoverage t then metricAt sqrt s .precision t else none

omit [Field K] [IsStrictOrderedRing K] in
theorem Maximises.map_iff {f : K → K} (hf : StrictMono f) :
    Maximises (fun u => (value u).map f) thresholds t ↔ Maximises value thresholds t := by
  refine and_congr_right fun _ => ⟨?_, ?_⟩
  · rintro ⟨v, hv, hmax⟩
    obtain ⟨x, hx, rfl⟩ := Option.map_eq_some_iff.mp hv
    refine ⟨x, hx, fun u hu y hy => hf.le_iff_le.mp (hmax u hu (f y) ?_)⟩
    simp only [hy, Option.map_some]
  · rintro ⟨v, hv, hmax⟩
    refine ⟨f v, by simp only [hv, Option.map_some], fun u hu y hy => ?_⟩
    obtain ⟨x, hx, rfl⟩ := Option.map_eq_some_iff.mp hy
    exact hf.monotone (hmax u hu x hx)

end Specification

section Counts

omit [Field K] [IsStrictOrderedRing K]

variable (rows : List (Row K)) (t : K)

theorem countsAt_total :
    (countsAt rows t).tn + (countsAt rows t).fp + (countsAt rows t).fn + (countsAt rows t).tp = rows.length := by
  induction rows with
  | nil => rfl
  | cons r rows ih =>
      simp only [countsAt, List.countP_cons, List.length_cons] at ih ⊢
      cases r.y <;> by_cases ht : t ≤ r.p <;> simp [ht] <;> omega

theorem countsAt_pos : (countsAt rows t).tp + (countsAt rows t).fn = rows.countP Row.y := by
  induction rows with
  | nil => rfl
  | cons r rows ih =>
      simp only [countsAt, List.countP_cons] at ih ⊢
      cases r.y <;> by_cases ht : t ≤ r.p <;> simp [ht] <;> omega

variable {rows t} {u : K}

theorem countsAt_tp_le (h : t ≤ u) : (countsAt rows u).tp ≤ (countsAt rows t).tp := by
  refine List.countP_mono_left fun r _ hr => ?_
  simp only [Bool.and_eq_true, decide_eq_true_eq] at hr ⊢
  exact ⟨hr.1, h.trans hr.2⟩

theorem countsAt_fp_le (h : t ≤ u) : (countsAt rows u).fp ≤ (countsAt rows t).fp := by
  refine List.countP_mono_left fun r _ hr => ?_
  simp only [Bool.and_eq_true, decide_eq_true_eq] at hr ⊢
  exact ⟨hr.1, h.trans hr.2⟩

end Counts

section Selection

variable {rows : List (ThresholdRow K)} {r : ThresholdRow K} {key : Metric}

omit [IsStrictOrderedRing K] in
theorem highest_eq_none : highest key rows = none ↔ ∀ r ∈ rows, r.value key = none := by
  simp [highest, List.filterMap_eq_nil_iff]

theorem highest_eq_some (h : highest key rows = some r) :
    r ∈ rows ∧ ∃ v, r.value key = some v ∧ ∀ r' ∈ rows, ∀ v', r'.value key = some v' →
      v' ≤ v ∧ (v' = v → r.threshold ≤ r'.threshold) := by
  obtain ⟨⟨v, r₀⟩, harg, rfl⟩ := Option.map_eq_some_iff.mp h
  obtain ⟨r, hr, hvr⟩ := List.mem_filterMap.mp (List.argmax_mem harg)
  obtain ⟨v₀, hv, he⟩ := Option.map_eq_some_iff.mp hvr
  cases he
  refine ⟨hr, v, hv, fun r' hr' v' hv' => ?_⟩
  have hmem : (v', r') ∈ rows.filterMap fun r => (r.value key).map fun v => (v, r) :=
    List.mem_filterMap.mpr ⟨r', hr', by rw [hv', Option.map_some]⟩
  have hle := List.le_of_mem_argmax hmem harg
  rw [Prod.Lex.toLex_le_toLex] at hle
  rcases hle with hlt | ⟨he, hle⟩
  · exact ⟨hlt.le, fun he => absurd he hlt.ne⟩
  · exact ⟨he.le, fun _ => neg_le_neg_iff.mp hle⟩

end Selection

section Tables

variable (sqrt : K → K) {s : Sample K} {t u : K}

theorem mapM_ok {ε α β : Type} {f : α → Except ε β} {g : α → β} (h : ∀ a, f a = .ok (g a)) (l : List α) :
    l.mapM f = .ok (l.map g) := by
  induction l with
  | nil => rfl
  | cons a l ih => rw [List.mapM_cons, h, ok_bind, ih, ok_bind]; rfl

omit [IsStrictOrderedRing K] in
theorem countsAt_cast_total (rows : List (Row K)) (t : K) :
    ((countsAt rows t).cast : Counts K).tn + ((countsAt rows t).cast : Counts K).fp +
      ((countsAt rows t).cast : Counts K).fn + ((countsAt rows t).cast : Counts K).tp = (rows.length : K) := by
  rw [← countsAt_total rows t]
  push_cast
  rfl

def rowAt (s : Sample K) (t : K) : ThresholdRow K :=
  ⟨t, countsAt s.rows t, (classificationMetrics sqrt (countsAt s.rows t).cast).values⟩

theorem rowAt_value (m : Metric) : (rowAt sqrt s t).value m = metricAt sqrt s m t := rfl

theorem thresholdRow_ok (s : Sample K) (t : K) : thresholdRow sqrt s t = .ok (rowAt sqrt s t) := by
  have hpos : (0 : K) < s.rows.length := Nat.cast_pos.mpr (List.length_pos_iff.mpr s.rows_ne)
  have hcounts := countsAt_cast_total s.rows t
  rw [thresholdRow, classificationMetricsFromCounts, if_neg (by rw [hcounts]; exact not_le.mpr hpos)]
  rfl

theorem thresholdTable_ok {yTrue yProb : Column K} (h : validateInputs { yTrue := yTrue, yProb := yProb } = .ok s)
    (thresholds : List K) : thresholdTable sqrt yTrue yProb thresholds = .ok (thresholds.map (rowAt sqrt s)) := by
  rw [thresholdTable, h, ok_bind, mapM_ok (thresholdRow_ok sqrt s)]

/-- The rows show the values of a metric at the thresholds where it is defined. -/
structure Tabulates (rows : List (ThresholdRow K)) (key : Metric) (value : K → Option K) (thresholds : List K) :
    Prop where
  row : ∀ r ∈ rows, r.threshold ∈ thresholds ∧ r.value key = value r.threshold
  complete : ∀ t ∈ thresholds, value t ≠ none → ∃ r ∈ rows, r.threshold = t

section Highest

variable {rows : List (ThresholdRow K)} {key : Metric} {value : K → Option K} {thresholds : List K}

omit [IsStrictOrderedRing K] in
theorem Tabulates.highest_none_iff (h : Tabulates rows key value thresholds) :
    highest key rows = none ↔ ∀ t ∈ thresholds, value t = none := by
  rw [highest_eq_none]
  constructor
  · intro hnone t ht
    by_contra hne
    obtain ⟨r, hr, rfl⟩ := h.complete t ht hne
    exact hne ((h.row r hr).2 ▸ hnone r hr)
  · intro hnone r hr
    rw [(h.row r hr).2, hnone r.threshold (h.row r hr).1]

theorem Tabulates.highest_smallest (h : Tabulates rows key value thresholds) {r : ThresholdRow K}
    (hr : highest key rows = some r) : SmallestMaximiser value thresholds r.threshold := by
  obtain ⟨hmem, v, hv, hmax⟩ := highest_eq_some hr
  obtain ⟨ht, hvalue⟩ := h.row r hmem
  rw [hvalue] at hv
  have hbest : ∀ u ∈ thresholds, ∀ v', value u = some v' → v' ≤ v ∧ (v' = v → r.threshold ≤ u) := by
    intro u hu v' hv'
    obtain ⟨r', hr', rfl⟩ := h.complete u hu (by simp [hv'])
    exact hmax r' hr' v' ((h.row r' hr').2.trans hv')
  refine ⟨⟨ht, v, hv, fun u hu v' hv' => (hbest u hu v' hv').1⟩, ?_⟩
  rintro u ⟨hu, v', hv', hmax'⟩
  exact (hbest u hu v' hv').2 (le_antisymm (hbest u hu v' hv').1 (hmax' r.threshold ht v hv))

end Highest

theorem tabulates_rowAt (s : Sample K) (key : Metric) (thresholds : List K) :
    Tabulates (thresholds.map (rowAt sqrt s)) key (metricAt sqrt s key) thresholds where
  row r hr := by
    obtain ⟨t, ht, rfl⟩ := List.mem_map.mp hr
    exact ⟨ht, rfl⟩
  complete t ht _ := ⟨rowAt sqrt s t, List.mem_map_of_mem ht, rfl⟩

theorem covers_rowAt {minCoverage : K} : (rowAt sqrt s t).covers minCoverage = true ↔ Covered sqrt s minCoverage t := by
  simp only [ThresholdRow.covers, rowAt_value, Option.any_eq_true, decide_eq_true_eq]
  rfl

theorem tabulates_covered (s : Sample K) (minCoverage : K) (thresholds : List K) :
    Tabulates (candRows (thresholds.map (rowAt sqrt s)) minCoverage) .precision (coveredPrecision sqrt s minCoverage)
      thresholds where
  row r hr := by
    obtain ⟨hmem, hr⟩ := List.mem_filter.mp hr
    obtain ⟨t, ht, rfl⟩ := List.mem_map.mp hmem
    have hcov : Covered sqrt s minCoverage t := (covers_rowAt sqrt).mp (Bool.and_eq_true_iff.mp hr).2
    exact ⟨ht, (if_pos hcov).symm⟩
  complete t ht hne := by
    have hcov : Covered sqrt s minCoverage t := by
      by_contra hno
      exact hne (if_neg hno)
    have hprec : (metricAt sqrt s .precision t).isSome := by
      rw [Option.isSome_iff_ne_none, ← (if_pos hcov : coveredPrecision sqrt s minCoverage t = _)]
      exact hne
    refine ⟨rowAt sqrt s t, List.mem_filter.mpr ⟨List.mem_map_of_mem ht, ?_⟩, rfl⟩
    exact Bool.and_eq_true_iff.mpr ⟨hprec, (covers_rowAt sqrt).mpr hcov⟩

theorem mem_qualifying {targetPrecision minCoverage : K} {thresholds : List K} :
    t ∈ (okRows (thresholds.map (rowAt sqrt s)) targetPrecision minCoverage).map ThresholdRow.threshold ↔
      t ∈ thresholds ∧ Qualifies sqrt s targetPrecision minCoverage t := by
  have hrow : ∀ u, (((rowAt sqrt s u).value .precision).any (fun precision => targetPrecision ≤ precision) &&
      (rowAt sqrt s u).covers minCoverage) = true ↔ Qualifies sqrt s targetPrecision minCoverage u := by
    intro u
    rw [Bool.and_eq_true, covers_rowAt, rowAt_value, Option.any_eq_true]
    simp only [decide_eq_true_eq]
    rfl
  constructor
  · intro ht
    obtain ⟨r, hr, rfl⟩ := List.mem_map.mp ht
    obtain ⟨hmem, hq⟩ := List.mem_filter.mp hr
    obtain ⟨u, hu, rfl⟩ := List.mem_map.mp hmem
    exact ⟨hu, (hrow u).mp hq⟩
  · rintro ⟨ht, hq⟩
    exact List.mem_map.mpr
      ⟨rowAt sqrt s t, List.mem_filter.mpr ⟨List.mem_map_of_mem ht, (hrow t).mpr hq⟩, rfl⟩

/-- What `min_precision` promises of the choice among the candidates. -/
structure MeetsPrecision (sqrt : K → K) (s : Sample K) (thresholds : List K) (targetPrecision minCoverage : K)
    (choice : ThresholdChoice K) : Prop where
  feasible_iff : choice.feasible = true ↔ ∃ t ∈ thresholds, Qualifies sqrt s targetPrecision minCoverage t
  feasible : choice.feasible = true →
    IsLeast { t | t ∈ thresholds ∧ Qualifies sqrt s targetPrecision minCoverage t } choice.threshold
  fallback : choice.feasible = false → (∃ t ∈ thresholds, coveredPrecision sqrt s minCoverage t ≠ none) →
    SmallestMaximiser (coveredPrecision sqrt s minCoverage) thresholds choice.threshold

theorem chooseMinPrecision_spec {thresholds : List K} (hne : thresholds ≠ []) (targetPrecision minCoverage : K) :
    ∃ choice, chooseMinPrecision (thresholds.map (rowAt sqrt s)) targetPrecision minCoverage = .ok choice ∧
      MeetsPrecision sqrt s thresholds targetPrecision minCoverage choice := by
  cases hmin : ((okRows (thresholds.map (rowAt sqrt s)) targetPrecision minCoverage).map
      ThresholdRow.threshold).min? with
  | some t =>
      obtain ⟨hmem, hle⟩ := OrderStatistic.min?_eq_some.mp hmin
      have hleast : IsLeast { t | t ∈ thresholds ∧ Qualifies sqrt s targetPrecision minCoverage t } t :=
        ⟨(mem_qualifying sqrt).mp hmem, fun u hu => hle u ((mem_qualifying sqrt).mpr hu)⟩
      refine ⟨_, by simp only [chooseMinPrecision, hmin]; rfl, ⟨fun _ => ⟨t, hleast.1⟩, fun _ => rfl⟩,
        fun _ => hleast, ?_⟩
      intro hf
      cases hf
  | none =>
      have hnone : ¬ ∃ t ∈ thresholds, Qualifies sqrt s targetPrecision minCoverage t := by
        rintro ⟨t, ht⟩
        have hmem := (mem_qualifying sqrt).mpr ht
        rw [List.min?_eq_none_iff.mp hmin] at hmem
        cases hmem
      have htab := tabulates_covered sqrt s minCoverage thresholds
      obtain ⟨last, hlast⟩ : ∃ last, (thresholds.map (rowAt sqrt s)).getLast? = some last :=
        ⟨_, List.getLast?_eq_some_getLast (by simpa using hne)⟩
      cases hbest : highest .precision (candRows (thresholds.map (rowAt sqrt s)) minCoverage) with
      | some r =>
          refine ⟨_, by simp only [chooseMinPrecision, hmin, hbest, Option.some_or]; rfl, ?_, ?_,
            fun _ _ => htab.highest_smallest hbest⟩
          · simp [hnone]
          · intro hf
            cases hf
      | none =>
          refine ⟨_, by simp only [chooseMinPrecision, hmin, hbest, Option.none_or, hlast]; rfl, ?_, ?_, ?_⟩
          · simp [hnone]
          · intro hf
            cases hf
          · rintro - ⟨t, ht, hsome⟩
            exact absurd (htab.highest_none_iff.mp hbest t ht) hsome

omit [IsStrictOrderedRing K] in
theorem ratio_complement (a b : K) : ratio a (a + b) = (ratio b (a + b)).map fun x => 1 - x := by
  by_cases h : a + b = 0
  · simp [ratio, h]
  · have hsum : a / (a + b) = 1 - b / (a + b) := by
      rw [eq_sub_iff_add_eq, ← add_div, div_self h]
    simp [ratio, h, hsum]

/-- Balanced accuracy is (TPR − FPR + 1) / 2. -/
theorem Counts.balancedAccuracy_eq (c : Counts K) : c.metric sqrt .balancedAccuracy =
    ((c.metric sqrt .recall).bind fun tpr => (c.metric sqrt .fpr).map fun fpr => tpr - fpr).map fun j =>
      (j + 1) / 2 := by
  rw [metric_balancedAccuracy, metric_recall, metric_fpr, ratio_complement c.tn]
  cases ratio c.tp (c.tp + c.fn) with
  | none => rfl
  | some tpr =>
      cases ratio c.fp (c.tn + c.fp) with
      | none => rfl
      | some fpr =>
          refine congrArg some ?_
          ring

theorem balancedAccuracy_maximises_iff (s : Sample K) (thresholds : List K) (t : K) :
    Maximises (metricAt sqrt s .balancedAccuracy) thresholds t ↔ Maximises (youdenAt sqrt s) thresholds t := by
  have hmono : StrictMono fun j : K => (j + 1) / 2 := fun a b hab =>
    div_lt_div_of_pos_right (add_lt_add_left hab 1) two_pos
  have hvalue : metricAt sqrt s .balancedAccuracy = fun t => (youdenAt sqrt s t).map fun j => (j + 1) / 2 :=
    funext fun t => Counts.balancedAccuracy_eq sqrt _
  rw [hvalue]
  exact Maximises.map_iff hmono

theorem recall_antitone (h : t ≤ u) : (metricAt sqrt s .recall t = none ↔ metricAt sqrt s .recall u = none) ∧
    ∀ a b, metricAt sqrt s .recall t = some a → metricAt sqrt s .recall u = some b → b ≤ a := by
  have hpos (x : K) : (countsAt s.rows x).cast.tp + (countsAt s.rows x).cast.fn = ((s.rows.countP Row.y : Nat) : K) := by
    rw [← countsAt_pos s.rows x]
    push_cast
    rfl
  have htp : ((countsAt s.rows u).tp : K) ≤ (countsAt s.rows t).tp := Nat.cast_le.mpr (countsAt_tp_le h)
  simp only [metricAt, metric_recall, hpos, ratio]
  split
  · simp
  · refine ⟨by simp, ?_⟩
    rintro a b ⟨⟩ ⟨⟩
    exact div_le_div_of_nonneg_right htp (Nat.cast_nonneg _)

theorem coverage_antitone (h : t ≤ u) :
    ∃ a b, metricAt sqrt s .coverage t = some a ∧ metricAt sqrt s .coverage u = some b ∧ b ≤ a := by
  have htp : ((countsAt s.rows u).tp : K) ≤ (countsAt s.rows t).tp := Nat.cast_le.mpr (countsAt_tp_le h)
  have hfp : ((countsAt s.rows u).fp : K) ≤ (countsAt s.rows t).fp := Nat.cast_le.mpr (countsAt_fp_le h)
  refine ⟨_, _, metric_coverage sqrt _, metric_coverage sqrt _, ?_⟩
  rw [countsAt_cast_total, countsAt_cast_total]
  exact div_le_div_of_nonneg_right (add_le_add htp hfp) (Nat.cast_nonneg _)

end Tables

/-- The metric that a method maximises. -/
def Method.maximised : Method → Option Metric
  | .youden => some .balancedAccuracy
  | .maxF1 => some .f1
  | .maxMcc => some .mcc
  | _ => none

/-- What `youden`, `max_f1` and `max_mcc` promise: they fail where the metric is
defined at no candidate, and only there. -/
structure SelectsBest (select : Except (SelectionError K) (ThresholdChoice K)) (value : K → Option K)
    (thresholds : List K) : Prop where
  raises_iff : (∃ error, select = .error error) ↔ ∀ t ∈ thresholds, value t = none
  smallest : ∀ choice, select = .ok choice → SmallestMaximiser value thresholds choice.threshold

theorem best_selects (sqrt : K → K) (s : Sample K) (thresholds : List K) (key : Metric)
    (choose : ThresholdRow K → ThresholdChoice K) (hchoose : ∀ r, (choose r).threshold = r.threshold) :
    SelectsBest (best (thresholds.map (rowAt sqrt s)) key >>= fun r => .ok (choose r)) (metricAt sqrt s key)
      thresholds := by
  have htab := tabulates_rowAt sqrt s key thresholds
  cases hbest : highest key (thresholds.map (rowAt sqrt s)) with
  | none =>
      have herror : best (thresholds.map (rowAt sqrt s)) key = .error (.undefinedEverywhere key) := by
        rw [best, hbest]
      rw [herror]
      refine ⟨⟨fun _ => htab.highest_none_iff.mp hbest, fun _ => ⟨_, rfl⟩⟩, ?_⟩
      intro choice hc
      cases hc
  | some r =>
      have hok : best (thresholds.map (rowAt sqrt s)) key = .ok r := by rw [best, hbest]
      rw [hok, ok_bind]
      constructor
      · constructor
        · rintro ⟨error, he⟩
          cases he
        · intro hnone
          rw [htab.highest_none_iff.mpr hnone] at hbest
          cases hbest
      · intro choice hc
        cases hc
        rw [hchoose]
        exact htab.highest_smallest hbest

/-- The rows with a label that are selected at a threshold, or that are not. -/
def cell (rows : List (Row K)) (t : K) (label selected : Bool) : Nat :=
  (rows.filter fun r => r.y = label ∧ decide (t ≤ r.p) = selected).length

/-- The metrics that the selection reads, by their formulas, and where each is defined. -/
structure Formulas (sqrt : K → K) (tn fp fn tp : K) (value : Metric → Option K) : Prop where
  precision : value .precision = if tp + fp = 0 then none else some (tp / (tp + fp))
  «recall» : value .recall = if tp + fn = 0 then none else some (tp / (tp + fn))
  fpr : value .fpr = if tn + fp = 0 then none else some (fp / (tn + fp))
  coverage : value .coverage = some ((tp + fp) / (tn + fp + fn + tp))
  balancedAccuracy : value .balancedAccuracy =
    if tp + fn = 0 ∨ tn + fp = 0 then none else some ((tp / (tp + fn) + tn / (tn + fp)) / 2)
  f1 : value .f1 = if 2 * tp + fp + fn = 0 then none else some (2 * tp / (2 * tp + fp + fn))
  mcc : value .mcc = if (tp + fp) * (tp + fn) * (tn + fp) * (tn + fn) = 0 then none
    else some ((tp * tn - fp * fn) / sqrt ((tp + fp) * (tp + fn) * (tn + fp) * (tn + fn)))

omit [IsStrictOrderedRing K] in
theorem metric_formulas (sqrt : K → K) (c : Counts K) : Formulas sqrt c.tn c.fp c.fn c.tp fun m => c.metric sqrt m where
  precision := metric_precision sqrt c
  «recall» := metric_recall sqrt c
  fpr := metric_fpr sqrt c
  coverage := metric_coverage sqrt c
  balancedAccuracy := by
    rw [metric_balancedAccuracy, ratio, ratio]
    split_ifs <;> simp_all
  f1 := metric_f1 sqrt c
  mcc := metric_mcc sqrt c

omit [Field K] [IsStrictOrderedRing K] in
theorem countsAt_cell (rows : List (Row K)) (t : K) : countsAt rows t =
    ⟨cell rows t false false, cell rows t false true, cell rows t true false, cell rows t true true⟩ := by
  have hcell (label selected : Bool) (p : Row K → Bool)
      (hp : ∀ r, p r = true ↔ r.y = label ∧ decide (t ≤ r.p) = selected) : rows.countP p = cell rows t label selected := by
    rw [cell, ← List.countP_eq_length_filter]
    exact List.countP_congr fun r _ => by simpa using hp r
  rw [countsAt, hcell false false, hcell false true, hcell true false, hcell true true]
  all_goals simp

/-- What `select_threshold` promises on validation data. -/
structure SelectsOptimally (sqrt : K → K) (yVal pVal : Column K) (s : Sample K) (thresholds : List K) : Prop where
  formulas : ∀ t, Formulas sqrt (cell s.rows t false false) (cell s.rows t false true) (cell s.rows t true false)
    (cell s.rows t true true) fun m => metricAt sqrt s m t
  maximises : ∀ method key fixed targetPrecision minCoverage, Method.maximised method = some key →
    SelectsBest (selectThreshold sqrt yVal pVal method thresholds fixed targetPrecision minCoverage)
      (metricAt sqrt s key) thresholds
  minPrecision : ∀ fixed targetPrecision minCoverage, ∃ choice,
    selectThreshold sqrt yVal pVal .minPrecision thresholds fixed targetPrecision minCoverage = .ok choice ∧
      MeetsPrecision sqrt s thresholds targetPrecision minCoverage choice
  youden : ∀ t, Maximises (metricAt sqrt s .balancedAccuracy) thresholds t ↔
    Maximises (youdenAt sqrt s) thresholds t
  coverage_le : ∀ t u, t ≤ u →
    ∃ a b, metricAt sqrt s .coverage t = some a ∧ metricAt sqrt s .coverage u = some b ∧ b ≤ a
  recall_le : ∀ t u, t ≤ u → (metricAt sqrt s .recall t = none ↔ metricAt sqrt s .recall u = none) ∧
    ∀ a b, metricAt sqrt s .recall t = some a → metricAt sqrt s .recall u = some b → b ≤ a

theorem threshold_selection_optimal (sqrt : K → K) {yVal pVal : Column K} {s : Sample K}
    (h : validateInputs { yTrue := yVal, yProb := pVal } = .ok s) {thresholds : List K} (hne : thresholds ≠ []) :
    SelectsOptimally sqrt yVal pVal s thresholds where
  formulas t := by
    have hcounts := metric_formulas sqrt (countsAt s.rows t).cast
    simp only [countsAt_cell, Counts.cast] at hcounts
    simpa only [metricAt, countsAt_cell, Counts.cast] using hcounts
  maximises method key fixed targetPrecision minCoverage hkey := by
    have htable : (thresholdTable sqrt yVal pVal thresholds).mapError SelectionError.input =
        .ok (thresholds.map (rowAt sqrt s)) := by
      rw [thresholdTable_ok sqrt h]
      rfl
    cases method with
    | youden =>
        cases hkey
        simp only [selectThreshold, htable, ok_bind]
        exact best_selects sqrt s thresholds _ _ fun _ => rfl
    | maxF1 =>
        cases hkey
        simp only [selectThreshold, htable, ok_bind]
        exact best_selects sqrt s thresholds _ _ fun _ => rfl
    | maxMcc =>
        cases hkey
        simp only [selectThreshold, htable, ok_bind]
        exact best_selects sqrt s thresholds _ _ fun _ => rfl
    | fixed | minPrecision | other => cases hkey
  minPrecision fixed targetPrecision minCoverage := by
    obtain ⟨choice, hc, hspec⟩ := chooseMinPrecision_spec sqrt (s := s) hne targetPrecision minCoverage
    refine ⟨choice, ?_, hspec⟩
    rw [selectThreshold, thresholdTable_ok sqrt h]
    exact hc
  youden := balancedAccuracy_maximises_iff sqrt s thresholds
  coverage_le _ _ := coverage_antitone sqrt
  recall_le _ _ := recall_antitone sqrt

theorem threshold_selection_sample :
    SelectsOptimally rationalSqrt sampleRows.inputs.yTrue sampleRows.inputs.yProb sampleRows [1 / 2, 3 / 10, 1 / 2] :=
  threshold_selection_optimal rationalSqrt (validateInputs_unweighted (by simp [sampleRows])) (List.cons_ne_nil _ _)

end RevenueRescue.Evaluation
