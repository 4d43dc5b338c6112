import RevenueRescue.Evaluation.ConfusionMatrix
import RevenueRescue.Evaluation.IntegerCounts

namespace RevenueRescue.Evaluation

open IntegerCounts

variable {K : Type} [Field K] [LinearOrder K]

/-- `CLASSIFICATION_METRICS`. -/
def classificationNames : List Metric :=
  [.accuracy, .precision, .recall, .f1, .specificity, .npv, .fpr, .fnr, .balancedAccuracy, .mcc, .cohenKappa, .coverage]

/-- What `METRIC_INFO` says of when a metric is undefined: its denominator is zero, or its note. -/
def UndefinedByInfo (c : Counts Nat) : Metric → Prop
  | .accuracy | .coverage => c.tn + c.fp + c.fn + c.tp = 0
  | .precision => c.tp + c.fp = 0
  | .recall | .fnr => c.tp + c.fn = 0
  | .f1 => 2 * c.tp + c.fp + c.fn = 0
  | .specificity | .fpr => c.tn + c.fp = 0
  | .npv => c.tn + c.fn = 0
  | .balancedAccuracy => c.tp + c.fn = 0 ∨ c.tn + c.fp = 0
  | .mcc => c.tp + c.fp = 0 ∨ c.tp + c.fn = 0 ∨ c.tn + c.fp = 0 ∨ c.tn + c.fn = 0
  | .cohenKappa => (c.cast : Counts ℚ).pe = 1
  | _ => False

/-- Every row is a true positive, or every row is a true negative. -/
def OneCell (c : Counts Nat) : Prop := c.tn + c.fp + c.fn = 0 ∨ c.fp + c.fn + c.tp = 0

structure DefinedAsDocumented (c : Counts Nat) (out : MetricResult Metric ℚ) : Prop where
  metrics : ∀ m ∈ classificationNames, out.values m = some none ↔ UndefinedByInfo c m
  cohenKappa : ¬ OneCell c → ∃ x, out.values .cohenKappa = some (some x)

/-- The chance disagreement, in pairs of rows. -/
def disagreement (c : Counts Nat) : Nat := (c.tp + c.fn) * (c.tn + c.fn) + (c.tn + c.fp) * (c.tp + c.fp)

/-- The chance disagreement is none, or its share of all pairs is at least `18014399 / 2 ^ 54`,
which is a little more than one in 10 ^ 9. -/
def Balanced (c : Counts Nat) : Prop :=
  disagreement c = 0 ∨ 18014399 * (c.tn + c.fp + c.fn + c.tp) ^ 2 ≤ 2 ^ 54 * disagreement c

theorem values_eq (sqrt : K → K) (c : Counts K) {m : Metric} (hm : m ∈ classificationNames) :
    (classificationMetrics sqrt c).values m = some (c.metric sqrt m) := by
  simp only [classificationNames, List.mem_cons, List.not_mem_nil, or_false] at hm
  rcases hm with rfl | rfl | rfl | rfl | rfl | rfl | rfl | rfl | rfl | rfl | rfl | rfl
  all_goals simp [Counts.metric, classificationMetrics]

section Values

variable {c : Counts Nat}

theorem one_sub_pe_cast (hn : 0 < c.tn + c.fp + c.fn + c.tp) :
    1 - (c.cast : Counts ℚ).pe = (disagreement c : ℚ) / ((c.tn + c.fp + c.fn + c.tp : Nat) : ℚ) ^ 2 := by
  have hcast : (c.cast : Counts ℚ).n = ((c.tn + c.fp + c.fn + c.tp : Nat) : ℚ) := by simp [Counts.n, Counts.cast]
  rw [one_sub_pe (hcast ▸ Nat.cast_pos.mpr hn), hcast, sq, disagreement]
  simp [Counts.cast]

theorem pe_eq_one_iff (hn : 0 < c.tn + c.fp + c.fn + c.tp) : (c.cast : Counts ℚ).pe = 1 ↔ disagreement c = 0 := by
  have hpos : (0 : ℚ) < ((c.tn + c.fp + c.fn + c.tp : Nat) : ℚ) ^ 2 := pow_pos (Nat.cast_pos.mpr hn) 2
  rw [eq_comm, ← sub_eq_zero, one_sub_pe_cast hn, div_eq_zero_iff, or_iff_left hpos.ne', Nat.cast_eq_zero]

theorem disagreement_eq_zero_iff (hn : 0 < c.tn + c.fp + c.fn + c.tp) : disagreement c = 0 ↔ OneCell c := by
  simp only [disagreement, OneCell, Nat.add_eq_zero_iff, mul_eq_zero]
  omega

/-- The disagreement is within the margin that `math.isclose` leaves. -/
theorem one_sub_pe_lt_iff (hn : 0 < c.tn + c.fp + c.fn + c.tp) : 1 - (c.cast : Counts ℚ).pe < Binary64.margin ↔
    2 ^ 54 * disagreement c < 18014399 * (c.tn + c.fp + c.fn + c.tp) ^ 2 := by
  have hpos : (0 : ℚ) < ((c.tn + c.fp + c.fn + c.tp : Nat) : ℚ) ^ 2 := pow_pos (Nat.cast_pos.mpr hn) 2
  rw [one_sub_pe_cast hn, Binary64.margin, div_lt_div_iff₀ hpos (by norm_num), mul_comm]
  exact_mod_cast Iff.rfl

/-- Where a metric of the matrix is undefined on doubles. -/
def Undefined (c : Counts Nat) (m : Metric) : Prop :=
  if m = .cohenKappa then 1 - (c.cast : Counts ℚ).pe < Binary64.margin else UndefinedByInfo c m

/-- The chance agreement as the quotient of integers that the code divides. -/
theorem trueDivide_pe (hn : 0 < c.tn + c.fp + c.fn + c.tp) :
    Binary64.trueDivide (((c.tp : ℤ) + c.fp) * (c.tp + c.fn) + (c.tn + c.fn) * (c.tn + c.fp))
        ((c.tn + c.fp + c.fn + c.tp) * (c.tn + c.fp + c.fn + c.tp)) =
      .ok (Binary64.nearest (c.cast : Counts ℚ).pe) ∧
      0 ≤ (c.cast : Counts ℚ).pe ∧ (c.cast : Counts ℚ).pe ≤ 1 := by
  have hcast : (((c.tp : ℤ) + c.fp) * (c.tp + c.fn) + (c.tn + c.fn) * (c.tn + c.fp) : ℤ) /
      (((c.tn : ℤ) + c.fp + c.fn + c.tp) * (c.tn + c.fp + c.fn + c.tp) : ℤ) = (c.cast : Counts ℚ).pe := by
    simp [Counts.pe, Counts.n, Counts.cast]
  have hnum : (0 : ℤ) ≤ ((c.tp : ℤ) + c.fp) * (c.tp + c.fn) + (c.tn + c.fn) * (c.tn + c.fp) := by positivity
  have hle : ((c.tp : ℤ) + c.fp) * (c.tp + c.fn) + (c.tn + c.fn) * (c.tn + c.fp) ≤
      (c.tn + c.fp + c.fn + c.tp) * (c.tn + c.fp + c.fn + c.tp) := by
    rw [← sub_nonneg]
    have hrest : (0 : ℤ) ≤ (c.tp + c.fn) * (c.tn + c.fn) + (c.tn + c.fp) * (c.tp + c.fp) := by positivity
    exact hrest.trans_eq (by ring)
  have hne : ((c.tn : ℤ) + c.fp + c.fn + c.tp) * (c.tn + c.fp + c.fn + c.tp) ≠ 0 :=
    mul_self_ne_zero.mpr (by omega)
  obtain ⟨hok, -⟩ := Binary64.trueDivide_share hnum hle hne
  rw [hcast] at hok
  have hpos : (0 : ℚ) < (((c.tn : ℤ) + c.fp + c.fn + c.tp) * (c.tn + c.fp + c.fn + c.tp) : ℤ) := by
    exact_mod_cast (hnum.trans hle).lt_of_ne' hne
  refine ⟨hok, ?_, ?_⟩
  · rw [← hcast]
    exact div_nonneg (by exact_mod_cast hnum) hpos.le
  · rw [← hcast, div_le_one hpos]
    exact_mod_cast hle

theorem classificationMetrics_ok (hn : 0 < c.tn + c.fp + c.fn + c.tp) (h : Representable c) :
    ∃ out, IntegerCounts.classificationMetrics (ofNat c) = .ok out ∧
      ∀ m ∈ classificationNames, ∃ r, out.values m = some r ∧ (r = none ↔ Undefined c m) := by
  have hn' : (c.tn : ℤ) + c.fp + c.fn + c.tp ≠ 0 := by omega
  have share (num : ℤ) (h0 : 0 ≤ num) (h1 : num ≤ c.tn + c.fp + c.fn + c.tp) :
      ∃ x, Binary64.trueDivide num (c.tn + c.fp + c.fn + c.tp) = .ok x ∧ 0 ≤ x ∧ x ≤ 1 :=
    ⟨_, Binary64.trueDivide_share h0 h1 hn'⟩
  obtain ⟨accuracy, haccuracy, hacc0, hacc1⟩ := share (c.tp + c.tn) (by omega) (by omega)
  obtain ⟨coverage, hcoverage, -, -⟩ := share (c.tp + c.fp) (by omega) (by omega)
  obtain ⟨precision, hprecision, hprecision0, -⟩ := ratio_share
    (by omega : (0 : ℤ) ≤ c.tp) (by omega : (c.tp : ℤ) ≤ c.tp + c.fp)
  obtain ⟨«recall», hrecall, hrecall0, hrecall1⟩ := ratio_share
    (by omega : (0 : ℤ) ≤ c.tp) (by omega : (c.tp : ℤ) ≤ c.tp + c.fn)
  obtain ⟨specificity, hspecificity, hspecificity0, hspecificity1⟩ := ratio_share
    (by omega : (0 : ℤ) ≤ c.tn) (by omega : (c.tn : ℤ) ≤ c.tn + c.fp)
  obtain ⟨npv, hnpv, hnpv0, -⟩ := ratio_share
    (by omega : (0 : ℤ) ≤ c.tn) (by omega : (c.tn : ℤ) ≤ c.tn + c.fn)
  obtain ⟨fpr, hfpr, hfpr0, -⟩ := ratio_share
    (by omega : (0 : ℤ) ≤ c.fp) (by omega : (c.fp : ℤ) ≤ c.tn + c.fp)
  obtain ⟨fnr, hfnr, hfnr0, -⟩ := ratio_share
    (by omega : (0 : ℤ) ≤ c.fn) (by omega : (c.fn : ℤ) ≤ c.tp + c.fn)
  obtain ⟨f1, hf1, hf10, -⟩ := ratio_share
    (by omega : (0 : ℤ) ≤ 2 * c.tp) (by omega : 2 * (c.tp : ℤ) ≤ 2 * c.tp + c.fp + c.fn)
  obtain ⟨balanced, hbalanced, hbalanced0⟩ := balancedAccuracy_ok hrecall1 hspecificity1
  obtain ⟨mcc, hmcc, hmcc0⟩ := mcc_ok h
  obtain ⟨hpe, hpe0, hpe1⟩ := trueDivide_pe hn
  obtain ⟨kappa, hkappa, hkappa0⟩ := cohenKappa_ok hacc0 hacc1 hpe0 hpe1
  refine ⟨?out, ?run, ?values⟩
  case run =>
    rw [IntegerCounts.classificationMetrics, hmcc]
    simp only [ofNat, haccuracy, hprecision, hrecall, hspecificity, hnpv, hfpr, hfnr, hf1, hpe, hcoverage]
    simp only [bind, Except.bind, MetricResult.set_values, if_true, Option.join_some, reduceCtorEq, if_false, hbalanced,
      hkappa]
    rfl
  intro m hm
  simp only [classificationNames, List.mem_cons, List.not_mem_nil, or_false] at hm
  rcases hm with rfl | rfl | rfl | rfl | rfl | rfl | rfl | rfl | rfl | rfl | rfl | rfl
  all_goals
    simp only [MetricResult.set_values, if_true, reduceCtorEq, if_false, Undefined, UndefinedByInfo]
    refine ⟨_, rfl, ?_⟩
  · exact iff_of_false (Option.some_ne_none _) hn.ne'
  · exact hprecision0.trans (by omega)
  · exact hrecall0.trans (by omega)
  · exact hf10.trans (by omega)
  · exact hspecificity0.trans (by omega)
  · exact hnpv0.trans (by omega)
  · exact hfpr0.trans (by omega)
  · exact hfnr0.trans (by omega)
  · exact hbalanced0.trans (or_congr (hrecall0.trans (by omega)) (hspecificity0.trans (by omega)))
  · exact hmcc0.trans (by simp only [margins, mul_eq_zero, or_assoc])
  · exact hkappa0
  · exact iff_of_false (Option.some_ne_none _) hn.ne'

theorem representable_of_ok {out : MetricResult Metric ℚ}
    (h : IntegerCounts.classificationMetrics (ofNat c) = .ok out) : Representable c := by
  -- The coefficient comes after eight quotients and the balanced accuracy.
  iterate 9 obtain ⟨_, -, h⟩ := Raised.ok_of_bind h
  obtain ⟨_, hmcc, -⟩ := Raised.ok_of_bind h
  by_contra hrep
  rw [mcc_overflow hrep] at hmcc
  cases hmcc

end Values

/-- The metrics are computed, and are undefined as documented, if and only if the product of the margins has a double
and the chance disagreement is none or not too small for the tolerance. -/
theorem defined_as_documented_iff {c : Counts Nat} (hn : 0 < c.tn + c.fp + c.fn + c.tp) :
    (∃ out, IntegerCounts.classificationMetricsFromCounts (ofNat c) = .ok out ∧ DefinedAsDocumented c out) ↔
      Representable c ∧ Balanced c := by
  have hrun : IntegerCounts.classificationMetricsFromCounts (ofNat c) = IntegerCounts.classificationMetrics (ofNat c) :=
    if_neg (by simp only [ofNat]; omega)
  have hbal : Balanced c ↔ ((1 - (c.cast : Counts ℚ).pe < Binary64.margin) ↔ (c.cast : Counts ℚ).pe = 1) := by
    rw [one_sub_pe_lt_iff hn, pe_eq_one_iff hn, Balanced, ← not_lt]
    have hpos : 0 < 18014399 * (c.tn + c.fp + c.fn + c.tp) ^ 2 := by positivity
    by_cases hzero : disagreement c = 0 <;> simp [hzero, hpos]
  rw [hrun]
  by_cases hrep : Representable c
  · obtain ⟨out, hok, hvalues⟩ := classificationMetrics_ok hn hrep
    have hnone {m : Metric} (hm : m ∈ classificationNames) : out.values m = some none ↔ Undefined c m := by
      obtain ⟨r, hr, hundefined⟩ := hvalues m hm
      rw [hr, Option.some.injEq, hundefined]
    have hkappa : out.values .cohenKappa = some none ↔ 1 - (c.cast : Counts ℚ).pe < Binary64.margin :=
      (hnone (by decide)).trans (by simp [Undefined])
    rw [hbal]
    constructor
    · rintro ⟨out', hok', hdoc⟩
      obtain rfl := Except.ok.inj (hok.symm.trans hok')
      exact ⟨hrep, hkappa.symm.trans (hdoc.metrics .cohenKappa (by decide))⟩
    · rintro ⟨-, hiff⟩
      refine ⟨out, hok, fun m hm => ?_, fun hcell => ?_⟩
      · by_cases hm' : m = .cohenKappa
        · subst hm'
          exact hkappa.trans hiff
        · exact (hnone hm).trans (by rw [Undefined, if_neg hm'])
      · obtain ⟨r, hr, -⟩ := hvalues .cohenKappa (by decide)
        cases r with
        | some x => exact ⟨x, hr⟩
        | none =>
            rw [← disagreement_eq_zero_iff hn, ← pe_eq_one_iff hn, ← hiff, ← hkappa] at hcell
            exact absurd hr hcell
  · refine iff_of_false ?_ fun h => hrep h.1
    rintro ⟨out, hok, -⟩
    exact hrep (representable_of_ok hok)

theorem defined_as_documented_sample :
    ∃ out, IntegerCounts.classificationMetricsFromCounts (ofNat ⟨50, 10, 5, 35⟩) = .ok out ∧
      DefinedAsDocumented ⟨50, 10, 5, 35⟩ out := by
  refine (defined_as_documented_iff (c := ⟨50, 10, 5, 35⟩) (by decide)).mpr ⟨?_, .inr (by decide)⟩
  rw [Representable]
  decide +kernel

/-- A perfect prediction of one negative among two thousand million positives. -/
def imbalanced : Counts Nat := ⟨1, 0, 0, 1999999990⟩

theorem undefined_undocumented : ¬ ∀ c : Counts Nat, 0 < c.tn + c.fp + c.fn + c.tp →
    ∃ out, IntegerCounts.classificationMetricsFromCounts (ofNat c) = .ok out ∧ DefinedAsDocumented c out := by
  intro hall
  have hbal := ((defined_as_documented_iff (c := imbalanced) (by decide)).mp (hall imbalanced (by decide))).2
  exact absurd hbal (by simp [Balanced, disagreement, imbalanced])

end RevenueRescue.Evaluation
