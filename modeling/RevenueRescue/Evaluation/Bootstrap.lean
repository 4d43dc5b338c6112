import RevenueRescue.Evaluation.EvaluateBinary
import RevenueRescue.Evaluation.ThresholdOptimality
import RevenueRescue.Foundation.Quantile

namespace RevenueRescue.Evaluation

open WeightedMean Quantile

variable {K : Type} [Field K] [LinearOrder K] [IsStrictOrderedRing K]

/-- `BOOTSTRAP_METRICS`. -/
def bootstrapMetrics : List Metric := [.rocAuc, .prAuc, .precision, .recall, .f1, .brier, .logLoss, .mcc]

/-- The functions of scikit-learn on labels and probabilities without weights, and `np.log`. -/
structure Unweighted (K : Type) where
  rocAucScore : List (Bool × K) → K
  averagePrecisionScore : List (Bool × K) → K
  log : K → K

/-- `np.random.default_rng(seed)`: what call number `k` of `integers(0, n, n)` returns. -/
structure Generator where
  integers : (seed n k : Nat) → List Nat
  length_eq : ∀ seed n k, (integers seed n k).length = n
  lt : ∀ seed n k, ∀ i ∈ integers seed n k, i < n

inductive BootstrapError (K : Type)
  | input (error : MetricInputError K)
  | key (metric : Metric)
  | quantile (q : K)

def Row.pair (r : Row K) : Bool × K := (r.y, r.p)

/-- `_fast_metrics`. -/
def fastMetrics (sqrt : K → K) (u : Unweighted K) (rows : List (Row K)) (t : K) :
    Except (MetricInputError K) (Metric → Option (Option K)) := do
  let two := (rows.map Row.y).min? ≠ (rows.map Row.y).max?
  let out : Metric → Option (Option K) := fun _ => none
  let out := Function.update out .rocAuc (some (if two then some (u.rocAucScore (rows.map Row.pair)) else none))
  let out := Function.update out .prAuc (some (if two then some (u.averagePrecisionScore (rows.map Row.pair)) else none))
  let out := Function.update out .brier (some (some (average (rows.map fun r => (r.p - r.yf) ^ 2))))
  let pc := clipped rows
  let out := Function.update out .logLoss
    (some (some (-average (pc.map fun r => r.yf * u.log r.p + (1 - r.yf) * u.log (1 - r.p)))))
  let values ← classificationMetricsFromCounts sqrt (countsAt rows t).cast
  .ok fun m => (values.values m).or (out m)

/-- `y[idx]` and `p[idx]`. -/
def resample (rows : List (Row K)) (idx : List Nat) : List (Row K) := idx.filterMap fun i => rows[i]?

/-- One row of what `bootstrap_ci` returns. -/
structure Interval (K : Type) where
  point : Option K
  nValid : Nat
  nSkipped : Nat
  method : String
  low : Option K
  high : Option K
  status : String

variable [FloorSemiring K]

/-- `np.quantile` on values that are not empty. -/
def npQuantile (xs : List K) (q : K) : Except (BootstrapError K) K :=
  match quantile q xs with
  | some v => .ok v
  | none => .error (.quantile q)

/-- The row of a metric, from its values on the resamples; `none` is one where it is undefined. -/
def interval (point : Option K) (values : List (Option K)) (nBoot seed : Nat) (alpha : K) (minValid : Nat) :
    Except (BootstrapError K) (Interval K) := do
  let s := values.reduceOption
  let row : Interval K := {
    point := point
    nValid := s.length
    nSkipped := values.countP Option.isNone
    method := "percentile bootstrap, " ++ toString nBoot ++ " resamples, seed " ++ toString seed
    low := none
    high := none
    status := "insufficient valid resamples (" ++ toString s.length ++ ")" }
  if s.length < minValid then .ok row
  else
    let low ← npQuantile s (alpha / (2 : Nat))
    let high ← npQuantile s (1 - alpha / (2 : Nat))
    .ok { row with low := some low, high := some high, status := "ok" }

def bootstrapCi (sqrt : K → K) (sk : Scikit K) (u : Unweighted K) (rng : Generator) (yTrue yProb : Column K) (threshold : K)
    (metrics : List Metric := bootstrapMetrics) (nBoot : Nat := 1000) (seed : Nat := 42) (alpha : K := 1 / (20 : Nat))
    (minValid : Nat := 100) : Except (BootstrapError K) (List (Metric × Interval K)) := do
  let s ← (validateInputs { yTrue := yTrue, yProb := yProb }).mapError .input
  let point ← (evaluateBinary sqrt sk { s.inputs with sampleWeight := none } threshold).mapError .input
  let draws ← (List.range nBoot).mapM fun k =>
    (fastMetrics sqrt u (resample s.rows (rng.integers seed s.rows.length k)) threshold).mapError .input
  metrics.mapM fun m => do
    -- A name that is listed twice gets each value twice.
    let values := draws.flatMap fun vals => (metrics.filter (· = m)).map fun m => (vals m).join
    let row ← interval (point.metrics.values m).join values nBoot seed alpha minValid
    .ok (m, row)

/-- `_fast_metrics(...)[metric]`. -/
def fastMetric (sqrt : K → K) (u : Unweighted K) (rows : List (Row K)) (t : K) (metric : Metric) :
    Except (BootstrapError K) (Option K) := do
  let vals ← (fastMetrics sqrt u rows t).mapError .input
  match vals metric with
  | some v => .ok v
  | none => .error (.key metric)

/-- What `paired_bootstrap_difference` returns. -/
structure Difference (K : Type) where
  metric : Metric
  difference : Option K
  low : Option K
  high : Option K
  nValid : Nat
  shareResamplesABetter : Option K

/-- `None` if one of the two is. -/
def minus (a b : Option K) : Option K := a.bind fun x => b.map fun y => x - y

def quantileUnlessEmpty (d : List K) (q : K) : Except (BootstrapError K) (Option K) :=
  if d = [] then .ok none else (npQuantile d q).map some

/-- The labels of both models are those of `y_true`. -/
def pairedBootstrapDifference (sqrt : K → K) (u : Unweighted K) (rng : Generator) (yTrue pA pB : Column K)
    (metric : Metric := .rocAuc) (threshold : K := 1 / (2 : Nat)) (nBoot : Nat := 1000) (seed : Nat := 42)
    (alpha : K := 1 / (20 : Nat)) : Except (BootstrapError K) (Difference K) := do
  let a ← (validateInputs { yTrue := yTrue, yProb := pA }).mapError .input
  let b ← (validateInputs { yTrue := yTrue, yProb := pB }).mapError .input
  let diffs ← (List.range nBoot).mapM fun k => do
    let idx := rng.integers seed a.rows.length k
    let ma ← fastMetric sqrt u (resample a.rows idx) threshold metric
    let mb ← fastMetric sqrt u (resample b.rows idx) threshold metric
    .ok (minus ma mb)
  let d := diffs.reduceOption
  let ma ← fastMetric sqrt u a.rows threshold metric
  let mb ← fastMetric sqrt u b.rows threshold metric
  let low ← quantileUnlessEmpty d (alpha / (2 : Nat))
  let high ← quantileUnlessEmpty d (1 - alpha / (2 : Nat))
  .ok {
    metric := metric
    difference := minus ma mb
    low := low
    high := high
    nValid := d.length
    shareResamplesABetter := if d = [] then none else some ((d.countP fun x => 0 < x) / d.length) }

end RevenueRescue.Evaluation
