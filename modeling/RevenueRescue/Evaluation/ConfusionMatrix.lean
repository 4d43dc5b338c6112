import Mathlib.Analysis.Real.Sqrt
import Mathlib.Data.Sign.Basic
import Mathlib.Tactic.FieldSimp
import Mathlib.Tactic.Linarith
import Mathlib.Tactic.LinearCombination
import Mathlib.Tactic.Positivity
import RevenueRescue.Evaluation.Classification

namespace RevenueRescue.Evaluation

variable {K : Type} [Field K]

namespace Counts

def n (c : Counts K) : K := c.tn + c.fp + c.fn + c.tp

/-- The product of the four margins. -/
def den (c : Counts K) : K := (c.tp + c.fp) * (c.tp + c.fn) * (c.tn + c.fp) * (c.tn + c.fn)

/-- The expected agreement. -/
def pe (c : Counts K) : K := ((c.tp + c.fp) * (c.tp + c.fn) + (c.tn + c.fn) * (c.tn + c.fp)) / (c.n * c.n)

/-- The classes swapped. -/
def swap (c : Counts K) : Counts K := ⟨c.tp, c.fn, c.fp, c.tn⟩

/-- Actual and predicted labels swapped. -/
def transpose (c : Counts K) : Counts K := ⟨c.tn, c.fn, c.fp, c.tp⟩

def scale (k : K) (c : Counts K) : Counts K := ⟨k * c.tn, k * c.fp, k * c.fn, k * c.tp⟩

end Counts

section Margins

variable (c : Counts K)

theorem pe_swap : c.swap.pe = c.pe := by
  simp only [Counts.pe, Counts.n, Counts.swap]
  ring

theorem pe_transpose : c.transpose.pe = c.pe := by
  simp only [Counts.pe, Counts.n, Counts.transpose]
  ring

theorem den_swap : c.swap.den = c.den := by
  simp only [Counts.den, Counts.swap]
  ring

theorem den_transpose : c.transpose.den = c.den := by
  simp only [Counts.den, Counts.transpose]
  ring

theorem n_swap : c.swap.n = c.n := by
  simp only [Counts.n, Counts.swap]
  ring

theorem n_transpose : c.transpose.n = c.n := by
  simp only [Counts.n, Counts.transpose]
  ring

variable {c} {k : K}

theorem n_scale : (c.scale k).n = k * c.n := by
  simp only [Counts.n, Counts.scale]
  ring

theorem den_scale : (c.scale k).den = (k * k) * (k * k) * c.den := by
  simp only [Counts.den, Counts.scale]
  ring

theorem pe_scale (hk : k ≠ 0) : (c.scale k).pe = c.pe := by
  have hnum : (k * c.tp + k * c.fp) * (k * c.tp + k * c.fn) + (k * c.tn + k * c.fn) * (k * c.tn + k * c.fp) =
      k * k * ((c.tp + c.fp) * (c.tp + c.fn) + (c.tn + c.fn) * (c.tn + c.fp)) := by
    ring
  have hden : k * c.n * (k * c.n) = k * k * (c.n * c.n) := by
    ring
  rw [Counts.pe, Counts.pe, n_scale, hden, Counts.scale, hnum, mul_div_mul_left _ _ (mul_ne_zero hk hk)]

end Margins

variable [LinearOrder K]

section Values

variable (sqrt : K → K) (c : Counts K)

theorem metric_accuracy : c.metric sqrt .accuracy = some ((c.tp + c.tn) / c.n) := by
  simp [Counts.metric, classificationMetrics, Counts.n]

theorem metric_precision : c.metric sqrt .precision = ratio c.tp (c.tp + c.fp) := by
  simp [Counts.metric, classificationMetrics]

theorem metric_specificity : c.metric sqrt .specificity = ratio c.tn (c.tn + c.fp) := by
  simp [Counts.metric, classificationMetrics]

theorem metric_npv : c.metric sqrt .npv = ratio c.tn (c.tn + c.fn) := by
  simp [Counts.metric, classificationMetrics]

theorem metric_fnr : c.metric sqrt .fnr = ratio c.fn (c.tp + c.fn) := by
  simp [Counts.metric, classificationMetrics]

theorem metric_f1 : c.metric sqrt .f1 = ratio (2 * c.tp) (2 * c.tp + c.fp + c.fn) := by
  simp [Counts.metric, classificationMetrics]

theorem metric_mcc : c.metric sqrt .mcc =
    if c.den = 0 then none else some ((c.tp * c.tn - c.fp * c.fn) / sqrt c.den) := by
  simp [Counts.metric, classificationMetrics, Counts.den]

theorem metric_cohenKappa : c.metric sqrt .cohenKappa =
    if isclose c.pe 1 then none else some (((c.tp + c.tn) / c.n - c.pe) / (1 - c.pe)) := by
  simp [Counts.metric, classificationMetrics, Counts.pe, Counts.n]
  rfl

end Values

/-- The metrics that swapping the classes exchanges or leaves unchanged. -/
def swapMetrics : List Metric :=
  [.recall, .specificity, .precision, .npv, .fpr, .fnr, .accuracy, .balancedAccuracy, .mcc, .cohenKappa]

/-- The metrics that transposing exchanges or leaves unchanged. -/
def transposeMetrics : List Metric := [.precision, .recall, .f1, .mcc, .cohenKappa]

section Symmetry

variable (sqrt : K → K) (c : Counts K)

/-- What a metric becomes when the classes are swapped. -/
def Metric.swapped : Metric → Metric
  | .recall => .specificity
  | .specificity => .recall
  | .precision => .npv
  | .npv => .precision
  | .fpr => .fnr
  | .fnr => .fpr
  | m => m

/-- What a metric becomes when actual and predicted labels are swapped. -/
def Metric.transposed : Metric → Metric
  | .precision => .recall
  | .recall => .precision
  | m => m

theorem metric_swap {m : Metric} (hm : m ∈ swapMetrics) : c.swap.metric sqrt m = c.metric sqrt m.swapped := by
  simp only [swapMetrics, List.mem_cons, List.not_mem_nil, or_false] at hm
  rcases hm with rfl | rfl | rfl | rfl | rfl | rfl | rfl | rfl | rfl | rfl
  · rw [metric_recall, show Metric.swapped .recall = .specificity from rfl, metric_specificity, Counts.swap]
  · rw [metric_specificity, show Metric.swapped .specificity = .recall from rfl, metric_recall, Counts.swap]
  · rw [metric_precision, show Metric.swapped .precision = .npv from rfl, metric_npv, Counts.swap]
  · rw [metric_npv, show Metric.swapped .npv = .precision from rfl, metric_precision, Counts.swap]
  · rw [metric_fpr, show Metric.swapped .fpr = .fnr from rfl, metric_fnr, Counts.swap]
  · rw [metric_fnr, show Metric.swapped .fnr = .fpr from rfl, metric_fpr, Counts.swap]
  · rw [metric_accuracy, show Metric.swapped .accuracy = .accuracy from rfl, metric_accuracy, n_swap, Counts.swap, add_comm c.tn]
  · rw [metric_balancedAccuracy, show Metric.swapped .balancedAccuracy = .balancedAccuracy from rfl, metric_balancedAccuracy, Counts.swap]
    cases ratio c.tp (c.tp + c.fn) <;> cases ratio c.tn (c.tn + c.fp) <;> simp [add_comm]
  · rw [metric_mcc, show Metric.swapped .mcc = .mcc from rfl, metric_mcc, den_swap, Counts.swap, mul_comm c.tn, mul_comm c.fn]
  · rw [metric_cohenKappa, show Metric.swapped .cohenKappa = .cohenKappa from rfl, metric_cohenKappa, pe_swap, n_swap, Counts.swap, add_comm c.tn]

theorem metric_transpose {m : Metric} (hm : m ∈ transposeMetrics) :
    c.transpose.metric sqrt m = c.metric sqrt m.transposed := by
  simp only [transposeMetrics, List.mem_cons, List.not_mem_nil, or_false] at hm
  rcases hm with rfl | rfl | rfl | rfl | rfl
  · rw [metric_precision, show Metric.transposed .precision = .recall from rfl, metric_recall, Counts.transpose]
  · rw [metric_recall, show Metric.transposed .recall = .precision from rfl, metric_precision, Counts.transpose]
  · rw [metric_f1, show Metric.transposed .f1 = .f1 from rfl, metric_f1, Counts.transpose, add_right_comm]
  · rw [metric_mcc, show Metric.transposed .mcc = .mcc from rfl, metric_mcc, den_transpose, Counts.transpose, mul_comm c.fn]
  · rw [metric_cohenKappa, show Metric.transposed .cohenKappa = .cohenKappa from rfl, metric_cohenKappa, pe_transpose, n_transpose, Counts.transpose]

end Symmetry

section Scale

variable {k : K} {sqrt : K → K}

theorem ratio_scale (hk : k ≠ 0) (num den : K) : ratio (k * num) (k * den) = ratio num den := by
  simp only [ratio, mul_eq_zero, hk, false_or, mul_div_mul_left _ _ hk]

theorem metric_scale (hk : k ≠ 0) (hsqrt : ∀ x, sqrt ((k * k) * (k * k) * x) = k * k * sqrt x) (c : Counts K)
    (m : Metric) : (c.scale k).metric sqrt m = c.metric sqrt m := by
  have hratio (a b d : K) : ratio (k * a) (k * b + k * d) = ratio a (b + d) := by
    rw [← mul_add, ratio_scale hk]
  cases m with
  | accuracy =>
      rw [metric_accuracy, metric_accuracy, n_scale, Counts.scale, ← mul_add, mul_div_mul_left _ _ hk]
  | coverage =>
      have hn : k * c.tn + k * c.fp + k * c.fn + k * c.tp = k * (c.tn + c.fp + c.fn + c.tp) := by
        ring
      rw [metric_coverage, metric_coverage, Counts.scale, hn, ← mul_add, mul_div_mul_left _ _ hk]
  | precision => rw [metric_precision, metric_precision, Counts.scale, hratio]
  | «recall» => rw [metric_recall, metric_recall, Counts.scale, hratio]
  | specificity => rw [metric_specificity, metric_specificity, Counts.scale, hratio]
  | npv => rw [metric_npv, metric_npv, Counts.scale, hratio]
  | fpr => rw [metric_fpr, metric_fpr, Counts.scale, hratio]
  | fnr => rw [metric_fnr, metric_fnr, Counts.scale, hratio]
  | f1 =>
      have hden : 2 * (k * c.tp) + k * c.fp + k * c.fn = k * (2 * c.tp + c.fp + c.fn) := by
        ring
      rw [metric_f1, metric_f1, Counts.scale, hden, mul_left_comm, ratio_scale hk]
  | balancedAccuracy => rw [metric_balancedAccuracy, metric_balancedAccuracy, Counts.scale, hratio, hratio]
  | mcc =>
      have hnum : k * c.tp * (k * c.tn) - k * c.fp * (k * c.fn) = k * k * (c.tp * c.tn - c.fp * c.fn) := by
        ring
      have hkk : k * k ≠ 0 := mul_ne_zero hk hk
      have hzero : (c.scale k).den = 0 ↔ c.den = 0 := by
        rw [den_scale, mul_eq_zero, or_iff_right (mul_ne_zero hkk hkk)]
      simp only [metric_mcc, hzero]
      rw [den_scale, hsqrt, Counts.scale, hnum, mul_div_mul_left _ _ hkk]
  | cohenKappa =>
      rw [metric_cohenKappa, metric_cohenKappa, pe_scale hk, n_scale, Counts.scale, ← mul_add, mul_div_mul_left _ _ hk]
  | _ => simp [Counts.metric, classificationMetrics]

end Scale

section Ranges

variable [IsStrictOrderedRing K]

structure Counts.Nonneg (c : Counts K) : Prop where
  tn : 0 ≤ c.tn
  fp : 0 ≤ c.fp
  fn : 0 ≤ c.fn
  tp : 0 ≤ c.tp

variable {sqrt : K → K} {c : Counts K} {x y : K}

theorem div_unit {num den : K} (h0 : 0 ≤ num) (h1 : num ≤ den) : 0 ≤ num / den ∧ num / den ≤ 1 :=
  ⟨div_nonneg h0 (h0.trans h1), div_le_one_of_le₀ h1 (h0.trans h1)⟩

theorem ratio_unit {num den : K} (h0 : 0 ≤ num) (h1 : num ≤ den) (h : ratio num den = some x) : 0 ≤ x ∧ x ≤ 1 := by
  unfold ratio at h
  split at h
  · cases h
  · cases h
    exact div_unit h0 h1

theorem metric_unit (hc : c.Nonneg) {m : Metric} (hmcc : m ≠ .mcc) (hkappa : m ≠ .cohenKappa)
    (h : c.metric sqrt m = some x) : 0 ≤ x ∧ x ≤ 1 := by
  obtain ⟨htn, hfp, hfn, htp⟩ := hc
  cases m with
  | accuracy =>
      rw [metric_accuracy, Option.some.injEq] at h
      exact h ▸ div_unit (by linarith) (by rw [Counts.n]; linarith)
  | coverage =>
      rw [metric_coverage, Option.some.injEq] at h
      exact h ▸ div_unit (by linarith) (by linarith)
  | precision => exact ratio_unit htp (by linarith) (metric_precision sqrt c ▸ h)
  | «recall» => exact ratio_unit htp (by linarith) (metric_recall sqrt c ▸ h)
  | specificity => exact ratio_unit htn (by linarith) (metric_specificity sqrt c ▸ h)
  | npv => exact ratio_unit htn (by linarith) (metric_npv sqrt c ▸ h)
  | fpr => exact ratio_unit hfp (by linarith) (metric_fpr sqrt c ▸ h)
  | fnr => exact ratio_unit hfn (by linarith) (metric_fnr sqrt c ▸ h)
  | f1 => exact ratio_unit (by linarith) (by linarith) (metric_f1 sqrt c ▸ h)
  | balancedAccuracy =>
      rw [metric_balancedAccuracy] at h
      obtain ⟨sens, hsens, h⟩ := Option.bind_eq_some_iff.mp h
      obtain ⟨spec, hspec, rfl⟩ := Option.map_eq_some_iff.mp h
      have hs := ratio_unit htp (by linarith) hsens
      have ht := ratio_unit htn (by linarith) hspec
      constructor <;> linarith
  | mcc => exact absurd rfl hmcc
  | cohenKappa => exact absurd rfl hkappa
  | _ => simp [Counts.metric, classificationMetrics] at h

/-- The cross product, whose sign both coefficients have. -/
def Counts.cross (c : Counts K) : K := c.tp * c.tn - c.fp * c.fn

omit [IsStrictOrderedRing K] in
theorem agreement_sub (hn : 0 < c.n) : (c.tp + c.tn) / c.n - c.pe = 2 * c.cross / (c.n * c.n) := by
  rw [Counts.pe, Counts.cross]
  field_simp
  rw [Counts.n]
  ring

omit [IsStrictOrderedRing K] in
theorem one_sub_pe (hn : 0 < c.n) : 1 - c.pe =
    ((c.tp + c.fn) * (c.tn + c.fn) + (c.tn + c.fp) * (c.tp + c.fp)) / (c.n * c.n) := by
  rw [Counts.pe]
  field_simp
  rw [Counts.n]
  ring

theorem pe_le (hc : c.Nonneg) (hn : 0 < c.n) : c.pe ≤ 1 := by
  obtain ⟨htn, hfp, hfn, htp⟩ := hc
  rw [← sub_nonneg, one_sub_pe hn]
  positivity

theorem isclose_self (a : K) : isclose a a = true := by
  simp [isclose]

theorem one_sub_pe_pos (hc : c.Nonneg) (hn : 0 < c.n) (h : isclose c.pe 1 = false) : 0 < 1 - c.pe := by
  refine sub_pos.mpr (lt_of_le_of_ne (pe_le hc hn) fun he => ?_)
  rw [he, isclose_self] at h
  cases h

omit [IsStrictOrderedRing K] in
theorem cohenKappa_eq (hn : 0 < c.n) (h : c.metric sqrt .cohenKappa = some y) :
    isclose c.pe 1 = false ∧ y = 2 * c.cross / (c.n * c.n) / (1 - c.pe) := by
  rw [metric_cohenKappa] at h
  split at h
  · cases h
  · rename_i hclose
    cases h
    exact ⟨Bool.not_eq_true _ ▸ hclose, by rw [agreement_sub hn]⟩

theorem cohenKappa_range (hc : c.Nonneg) (hn : 0 < c.n) (h : c.metric sqrt .cohenKappa = some y) : -1 ≤ y ∧ y ≤ 1 := by
  obtain ⟨hclose, rfl⟩ := cohenKappa_eq hn h
  have hpos := one_sub_pe_pos hc hn hclose
  have hnn : 0 < c.n * c.n := mul_pos hn hn
  rw [le_div_iff₀ hpos, div_le_iff₀ hpos, one_sub_pe hn, mul_div_assoc', one_mul, div_le_div_iff_of_pos_right hnn,
    div_le_div_iff_of_pos_right hnn, Counts.cross]
  obtain ⟨htn, hfp, hfn, htp⟩ := hc
  constructor
  · -- The difference of the two sides is `(fp - fn) ^ 2` and products of counts.
    have hsq := sq_nonneg (c.fp - c.fn)
    have hterms : 0 ≤ 4 * (c.tp * c.tn) + c.tp * c.fp + c.tp * c.fn + c.tn * c.fp + c.tn * c.fn := by positivity
    linarith
  · have hterms : 0 ≤ c.tp * c.fp + c.tp * c.fn + c.tn * c.fp + c.tn * c.fn + c.fp * c.fp + c.fn * c.fn +
        2 * (c.fp * c.fn) := by positivity
    linarith

theorem cross_sq_le (hc : c.Nonneg) : c.cross ^ 2 ≤ c.den := by
  have hfirst : |c.cross| ≤ (c.tp + c.fp) * (c.tn + c.fn) := by
    obtain ⟨htn, hfp, hfn, htp⟩ := hc
    rw [Counts.cross, abs_le]
    constructor <;> nlinarith [mul_nonneg htp htn, mul_nonneg htp hfn, mul_nonneg hfp htn, mul_nonneg hfp hfn]
  have hsecond : |c.cross| ≤ (c.tp + c.fn) * (c.tn + c.fp) := by
    obtain ⟨htn, hfp, hfn, htp⟩ := hc
    rw [Counts.cross, abs_le]
    constructor <;> nlinarith [mul_nonneg htp htn, mul_nonneg htp hfp, mul_nonneg hfn htn, mul_nonneg hfp hfn]
  calc c.cross ^ 2 = |c.cross| * |c.cross| := by rw [abs_mul_abs_self, sq]
    _ ≤ (c.tp + c.fp) * (c.tn + c.fn) * ((c.tp + c.fn) * (c.tn + c.fp)) :=
        mul_le_mul hfirst hsecond (abs_nonneg _) ((abs_nonneg _).trans hfirst)
    _ = c.den := by
        rw [Counts.den]
        ring

theorem den_nonneg (hc : c.Nonneg) : 0 ≤ c.den := by
  obtain ⟨htn, hfp, hfn, htp⟩ := hc
  rw [Counts.den]
  positivity

end Ranges

section Reals

variable {c : Counts ℝ} {x y : ℝ}

theorem mcc_eq (hc : c.Nonneg) (h : c.metric Real.sqrt .mcc = some x) :
    0 < Real.sqrt c.den ∧ x = c.cross / Real.sqrt c.den := by
  rw [metric_mcc] at h
  split at h
  · cases h
  · rename_i hden
    cases h
    exact ⟨Real.sqrt_pos.mpr ((den_nonneg hc).lt_of_ne' hden), rfl⟩

theorem mcc_range (hc : c.Nonneg) (h : c.metric Real.sqrt .mcc = some x) : -1 ≤ x ∧ x ≤ 1 := by
  obtain ⟨hpos, rfl⟩ := mcc_eq hc h
  have habs : |c.cross| ≤ Real.sqrt c.den := Real.abs_le_sqrt (cross_sq_le hc)
  rw [← abs_le, abs_div, abs_of_pos hpos]
  exact div_le_one_of_le₀ habs hpos.le

theorem sign_mcc_cohenKappa (hc : c.Nonneg) (hn : 0 < c.n) (hx : c.metric Real.sqrt .mcc = some x)
    (hy : c.metric Real.sqrt .cohenKappa = some y) : SignType.sign x = SignType.sign y := by
  obtain ⟨hden, rfl⟩ := mcc_eq hc hx
  obtain ⟨hclose, rfl⟩ := cohenKappa_eq hn hy
  have hsign {a b : ℝ} (hb : 0 < b) : SignType.sign (a / b) = SignType.sign a := by
    rw [div_eq_mul_inv, sign_mul, sign_pos (inv_pos.mpr hb), mul_one]
  rw [hsign hden, hsign (one_sub_pe_pos hc hn hclose), hsign (mul_pos hn hn), sign_mul, sign_pos two_pos, one_mul]

theorem sqrt_scale {k : ℝ} (x : ℝ) : Real.sqrt ((k * k) * (k * k) * x) = k * k * Real.sqrt x := by
  rw [Real.sqrt_mul (mul_self_nonneg _), Real.sqrt_mul_self (mul_self_nonneg k)]

end Reals

/-- What the metrics of a confusion matrix owe to their definitions. -/
structure WellBehaved (sqrt : ℝ → ℝ) (c : Counts ℝ) : Prop where
  returns : classificationMetricsFromCounts sqrt c = .ok (classificationMetrics sqrt c)
  mcc : ∀ x, c.metric sqrt .mcc = some x → -1 ≤ x ∧ x ≤ 1
  cohenKappa : ∀ x, c.metric sqrt .cohenKappa = some x → -1 ≤ x ∧ x ≤ 1
  sign : ∀ x y, c.metric sqrt .mcc = some x → c.metric sqrt .cohenKappa = some y → SignType.sign x = SignType.sign y
  unit : ∀ m x, m ≠ .mcc → m ≠ .cohenKappa → c.metric sqrt m = some x → 0 ≤ x ∧ x ≤ 1
  swap : ∀ m ∈ swapMetrics, c.swap.metric sqrt m = c.metric sqrt m.swapped
  transpose : ∀ m ∈ transposeMetrics, c.transpose.metric sqrt m = c.metric sqrt m.transposed
  scale : ∀ k, 0 < k → ∀ m, (c.scale k).metric sqrt m = c.metric sqrt m

theorem metrics_wellBehaved {c : Counts ℝ} (hc : c.Nonneg) (hn : 0 < c.n) : WellBehaved Real.sqrt c where
  returns := if_neg (not_le.mpr hn)
  mcc _ h := mcc_range hc h
  cohenKappa _ h := cohenKappa_range hc hn h
  sign _ _ hx hy := sign_mcc_cohenKappa hc hn hx hy
  unit _ _ hmcc hkappa h := metric_unit hc hmcc hkappa h
  swap _ hm := metric_swap Real.sqrt c hm
  transpose _ hm := metric_transpose Real.sqrt c hm
  scale _ hk m := metric_scale hk.ne' sqrt_scale c m

theorem metrics_wellBehaved_sample : WellBehaved Real.sqrt ⟨50, 10, 5, 35⟩ :=
  metrics_wellBehaved (by constructor <;> norm_num) (by norm_num [Counts.n])

end RevenueRescue.Evaluation
