import RevenueRescue.Evaluation.Inputs

namespace RevenueRescue.Evaluation

inductive Metric
  | mse
  | rmse
  | mae
  | medae
  | meanError
  | r2
  | nrmseRange
  | mapeExcludedZeroTargets
  | mapeIncludedRows
  | mapeNonzeroPct
  | rocAuc
  | prAuc
  | logLoss
  | brier
  | ece
  | mce
  | accuracy
  | precision
  | recall
  | f1
  | specificity
  | npv
  | fpr
  | fnr
  | balancedAccuracy
  | mcc
  | cohenKappa
  | coverage
  deriving DecidableEq

/-- The two dictionaries: `none` is a name that is not in `values`, and
`some none` one whose value is `None`. -/
structure MetricResult (Name K : Type) where
  values : Name → Option (Option K) := fun _ => none
  undefined : Name → Option String := fun _ => none

namespace MetricResult

/-- `reason or "undefined"`. -/
def orUndefined : Option String → String
  | some reason => if reason = "" then "undefined" else reason
  | none => "undefined"

@[simp] theorem orUndefined_none : orUndefined none = "undefined" := rfl

variable {Name K : Type} [DecidableEq Name]

/-- `none` stands for `None`, NaN and the infinities, which are stored alike. -/
def set (out : MetricResult Name K) (name : Name) (value : Option K) (reason : Option String := none) :
    MetricResult Name K :=
  match value with
  | none =>
      { values := Function.update out.values name (some none)
        undefined := Function.update out.undefined name (some (orUndefined reason)) }
  | some x => { out with values := Function.update out.values name (some (some x)) }

/-- `merge`: two calls of `dict.update`. -/
def merge (out other : MetricResult Name K) : MetricResult Name K where
  values name := (other.values name).or (out.values name)
  undefined name := (other.undefined name).or (out.undefined name)

variable (out : MetricResult Name K) (name other : Name) (value : Option K) (reason : Option String)

omit [DecidableEq Name] in
theorem merge_values (source : MetricResult Name K) :
    (out.merge source).values name = (source.values name).or (out.values name) := rfl

@[simp] theorem set_values :
    (out.set name value reason).values other = if other = name then some value else out.values other := by
  cases value <;> simp [set, Function.update_apply]

@[simp] theorem set_undefined : (out.set name value reason).undefined other =
    if other = name ∧ value = none then some (orUndefined reason) else out.undefined other := by
  cases value <;> simp [set, Function.update_apply]

/-- `set(name, None, reason)` where `c` holds, and `set(name, value)` elsewhere. -/
def setUnless (c : Prop) [Decidable c] (reason : String) : MetricResult Name K :=
  if c then out.set name none (some reason) else out.set name value

variable (c : Prop) [Decidable c] (text : String)

@[simp] theorem setUnless_values : (out.setUnless name value c text).values other =
    if other = name then some (if c then none else value) else out.values other := by
  by_cases hc : c <;> simp [setUnless, hc]

@[simp] theorem setUnless_undefined : (out.setUnless name value c text).undefined other =
    if other = name ∧ (c ∨ value = none) then some (orUndefined (if c then some text else none))
    else out.undefined other := by
  by_cases hc : c <;> simp [setUnless, hc]

end MetricResult

variable {K : Type} [Field K] [LinearOrder K] [IsStrictOrderedRing K]

def ratio (num den : K) : Option K := if den = 0 then none else some (num / den)

/-- `math.isclose` with its default tolerance. -/
def isclose (a b : K) : Bool := |a - b| ≤ max (1 / 10 ^ 9 * max |a| |b|) 0

/-- The confusion matrix. -/
structure Counts (K : Type) where
  tn : K
  fp : K
  fn : K
  tp : K

/-- What `classification_metrics_from_counts` returns for a matrix that is not empty. -/
def classificationMetrics (sqrt : K → K) (c : Counts K) : MetricResult Metric K :=
  let n := c.tn + c.fp + c.fn + c.tp
  let pos := c.tp + c.fn
  let neg := c.tn + c.fp
  let predPos := c.tp + c.fp
  let predNeg := c.tn + c.fn
  let out : MetricResult Metric K := {}
  let out := out.set .accuracy (some ((c.tp + c.tn) / n))
  let out := out.set .precision (ratio c.tp predPos) (some "no predicted positives (TP + FP = 0)")
  let out := out.set .recall (ratio c.tp pos) (some "no actual positives (TP + FN = 0)")
  let out := out.set .specificity (ratio c.tn neg) (some "no actual negatives (TN + FP = 0)")
  let out := out.set .npv (ratio c.tn predNeg) (some "no predicted negatives (TN + FN = 0)")
  let out := out.set .fpr (ratio c.fp neg) (some "no actual negatives (TN + FP = 0)")
  let out := out.set .fnr (ratio c.fn pos) (some "no actual positives (TP + FN = 0)")
  let out := out.set .f1 (ratio (2 * c.tp) (2 * c.tp + c.fp + c.fn)) (some "TP + FP + FN = 0")
  let balanced := (out.values .recall).join.bind fun sens =>
    (out.values .specificity).join.map fun spec => (sens + spec) / 2
  let out := out.set .balancedAccuracy balanced (some "requires both actual classes")
  let den := (c.tp + c.fp) * (c.tp + c.fn) * (c.tn + c.fp) * (c.tn + c.fn)
  let mcc := if den = 0 then none else some ((c.tp * c.tn - c.fp * c.fn) / sqrt den)
  let out := out.set .mcc mcc (some "a confusion-matrix margin is zero (single class actual or predicted)")
  let po := (c.tp + c.tn) / n
  let pe := (predPos * pos + predNeg * neg) / (n * n)
  let kappa := if isclose pe 1 then none else some ((po - pe) / (1 - pe))
  let out := out.set .cohenKappa kappa (some "expected agreement p_e = 1")
  out.set .coverage (some (predPos / n))

def classificationMetricsFromCounts (sqrt : K → K) (c : Counts K) :
    Except (MetricInputError K) (MetricResult Metric K) :=
  if c.tn + c.fp + c.fn + c.tp ≤ 0 then .error .emptyMatrix else .ok (classificationMetrics sqrt c)

section Values

omit [IsStrictOrderedRing K]

variable (sqrt : K → K) (c : Counts K)

/-- A metric of the matrix; `none` where it is undefined. -/
def Counts.metric (m : Metric) : Option K := ((classificationMetrics sqrt c).values m).join

theorem metric_recall : c.metric sqrt .recall = ratio c.tp (c.tp + c.fn) := by
  simp [Counts.metric, classificationMetrics]

theorem metric_fpr : c.metric sqrt .fpr = ratio c.fp (c.tn + c.fp) := by
  simp [Counts.metric, classificationMetrics]

theorem metric_coverage : c.metric sqrt .coverage = some ((c.tp + c.fp) / (c.tn + c.fp + c.fn + c.tp)) := by
  simp [Counts.metric, classificationMetrics]

theorem metric_balancedAccuracy : c.metric sqrt .balancedAccuracy =
    (ratio c.tp (c.tp + c.fn)).bind fun sens => (ratio c.tn (c.tn + c.fp)).map fun spec => (sens + spec) / 2 := by
  simp [Counts.metric, classificationMetrics]

end Values

/-- The square root of a rational number that has a rational one. -/
def rationalSqrt (x : ℚ) : ℚ := (x.num.toNat.sqrt : ℚ) / x.den.sqrt

end RevenueRescue.Evaluation
