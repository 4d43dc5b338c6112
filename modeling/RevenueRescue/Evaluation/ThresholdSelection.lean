import Mathlib.Data.List.MinMax
import Mathlib.Data.Prod.Lex
import RevenueRescue.Evaluation.Classification

namespace RevenueRescue.Evaluation

variable {K : Type} [Field K] [LinearOrder K] [IsStrictOrderedRing K]

/-- `_counts_at`. -/
def countsAt (rows : List (Row K)) (t : K) : Counts Nat where
  tn := rows.countP fun r => !r.y && !decide (t ≤ r.p)
  fp := rows.countP fun r => !r.y && decide (t ≤ r.p)
  fn := rows.countP fun r => r.y && !decide (t ≤ r.p)
  tp := rows.countP fun r => r.y && decide (t ≤ r.p)

def Counts.cast (c : Counts Nat) : Counts K where
  tn := c.tn
  fp := c.fp
  fn := c.fn
  tp := c.tp

structure ThresholdRow (K : Type) where
  threshold : K
  counts : Counts Nat
  values : Metric → Option (Option K)

/-- `r[key]`. -/
def ThresholdRow.value (r : ThresholdRow K) (key : Metric) : Option K := (r.values key).join

def thresholdRow (sqrt : K → K) (s : Sample K) (t : K) : Except (MetricInputError K) (ThresholdRow K) := do
  let counts := countsAt s.rows t
  let m ← classificationMetricsFromCounts sqrt counts.cast
  .ok ⟨t, counts, m.values⟩

def thresholdTable (sqrt : K → K) (yTrue yProb : Column K) (thresholds : List K) :
    Except (MetricInputError K) (List (ThresholdRow K)) := do
  let s ← validateInputs { yTrue := yTrue, yProb := yProb }
  thresholds.mapM (thresholdRow sqrt s)

inductive Method
  | fixed
  | youden
  | maxF1
  | maxMcc
  | minPrecision
  | other (name : String)

/-- The text of `criterion`, with the numbers that it prints. -/
inductive Criterion (K : Type)
  | fixedAt (fixed : K)
  | maxTprFpr
  | maxF1
  | maxMcc
  | lowest (targetPrecision minCoverage : K)

structure ThresholdChoice (K : Type) where
  method : Method
  threshold : K
  criterion : Criterion K
  feasible : Bool
  /-- The best precision and its threshold, when the target is not reachable. -/
  note : Option (Option K × K) := none

inductive SelectionError (K : Type)
  | input (error : MetricInputError K)
  | undefinedEverywhere (key : Metric)
  | unknownMethod (name : String)
  | noRows

def defaultGrid : List K := (List.range 91).map fun i : Nat => ((5 + i : Nat) : K) / (100 : Nat)

/-- The first row with the largest value, and of these the lowest threshold. -/
def highest (key : Metric) (rows : List (ThresholdRow K)) : Option (ThresholdRow K) :=
  ((rows.filterMap fun r => (r.value key).map fun v => (v, r)).argmax fun x => toLex (x.1, -x.2.threshold)).map
    Prod.snd

def best (rows : List (ThresholdRow K)) (key : Metric) : Except (SelectionError K) (ThresholdRow K) :=
  match highest key rows with
  | some r => .ok r
  | none => .error (.undefinedEverywhere key)

/-- `r["coverage"] >= min_coverage`. -/
def ThresholdRow.covers (minCoverage : K) (r : ThresholdRow K) : Bool :=
  (r.value .coverage).any fun coverage => minCoverage ≤ coverage

/-- The list `ok`. -/
def okRows (rows : List (ThresholdRow K)) (targetPrecision minCoverage : K) : List (ThresholdRow K) :=
  rows.filter fun r =>
    ((r.value .precision).any fun precision => targetPrecision ≤ precision) && r.covers minCoverage

/-- The list `cand`. -/
def candRows (rows : List (ThresholdRow K)) (minCoverage : K) : List (ThresholdRow K) :=
  rows.filter fun r => (r.value .precision).isSome && r.covers minCoverage

def chooseMinPrecision (rows : List (ThresholdRow K)) (targetPrecision minCoverage : K) :
    Except (SelectionError K) (ThresholdChoice K) :=
  match ((okRows rows targetPrecision minCoverage).map ThresholdRow.threshold).min? with
  | some t => .ok ⟨.minPrecision, t, .lowest targetPrecision minCoverage, true, none⟩
  | none =>
      match (highest .precision (candRows rows minCoverage)).or rows.getLast? with
      | some r => .ok ⟨.minPrecision, r.threshold, .lowest targetPrecision minCoverage, false,
          some (r.value .precision, r.threshold)⟩
      | none => .error .noRows

def selectThreshold (sqrt : K → K) (yVal pVal : Column K) (method : Method) (thresholds : List K := defaultGrid)
    (fixed : K := 1 / 2) (targetPrecision : K := 4 / 5) (minCoverage : K := 1 / 20) :
    Except (SelectionError K) (ThresholdChoice K) :=
  let table := (thresholdTable sqrt yVal pVal thresholds).mapError SelectionError.input
  match method with
  | .fixed => .ok ⟨.fixed, fixed, .fixedAt fixed, true, none⟩
  | .youden => do
      let r ← best (← table) .balancedAccuracy
      .ok ⟨.youden, r.threshold, .maxTprFpr, true, none⟩
  | .maxF1 => do
      let r ← best (← table) .f1
      .ok ⟨.maxF1, r.threshold, .maxF1, true, none⟩
  | .maxMcc => do
      let r ← best (← table) .mcc
      .ok ⟨.maxMcc, r.threshold, .maxMcc, true, none⟩
  | .minPrecision => do chooseMinPrecision (← table) targetPrecision minCoverage
  | .other name => do
      let _ ← table
      .error (.unknownMethod name)

end RevenueRescue.Evaluation
