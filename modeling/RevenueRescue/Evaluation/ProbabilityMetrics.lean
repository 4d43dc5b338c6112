import RevenueRescue.Evaluation.Classification

namespace RevenueRescue.Evaluation

open WeightedMean Window

variable {K : Type} [Field K] [LinearOrder K] [IsStrictOrderedRing K]

/-- `_wmean`; `none` is NaN, the quotient of two zeros. -/
def wmean (x : Row K → K) (rows : List (Row K)) : Option K :=
  if total Row.w rows = 0 then none else some (mean Row.w x rows)

/-- `np.mean`. -/
def average (xs : List K) : K := xs.sum / xs.length

/-- `np.median`. -/
def median (xs : List K) : Option K :=
  let sorted := orderBy id xs
  if xs.length % 2 = 1 then sorted[xs.length / 2]?
  else sorted[xs.length / 2 - 1]?.bind fun a => sorted[xs.length / 2]?.map fun b => (a + b) / (2 : Nat)

/-- `np.cumsum`, after values that add up to `acc`. -/
def cumsum (acc : K) : List K → List K
  | [] => []
  | x :: xs => (acc + x) :: cumsum (acc + x) xs

def weightedMedian (x : Row K → K) (rows : List (Row K)) : Option K :=
  match rows with
  | [] => none
  | first :: _ =>
      if rows.all fun r => r.w = first.w then median (rows.map x)
      else
        let sorted := orderBy x rows
        let cw := cumsum 0 (sorted.map Row.w)
        cw.getLast?.bind fun last => (sorted.map x)[cw.findIdx fun c => last / (2 : Nat) ≤ c]?

def Row.err (r : Row K) : K := r.p - r.yf

def constantTarget : String := "target is constant (zero variance); R² is undefined"

def zeroRange : String := "target range is zero (single class); NRMSE by range is undefined. " ++
  "RMSE is reported unnormalised; no alternative denominator is substituted."

def allZero : String := "all targets are zero; percentage error is undefined"

/-- What `probability_error_metrics` computes from the validated rows. -/
def probabilityErrors (sqrt : K → K) (rows : List (Row K)) : MetricResult Metric K :=
  let out : MetricResult Metric K := {}
  let mse := wmean (fun r => r.err ^ 2) rows
  let rmse := mse.map sqrt
  let out := out.set .mse mse
  let out := out.set .rmse rmse
  let out := out.set .mae (wmean (fun r => |r.err|) rows)
  let out := out.set .medae (weightedMedian (fun r => |r.err|) rows)
  let out := out.set .meanError (wmean Row.err rows)
  let ssTot := (wmean Row.yf rows).map fun yMean => (rows.map fun r => r.w * (r.yf - yMean) ^ 2).sum
  let ssRes := (rows.map fun r => r.w * r.err ^ 2).sum
  let out := out.setUnless .r2 (ssTot.map fun tot => 1 - ssRes / tot) (ssTot = some 0) constantTarget
  let targetRange := (rows.map Row.yf).max?.bind fun hi => (rows.map Row.yf).min?.map fun lo => hi - lo
  let nrmse := rmse.bind fun x => targetRange.map fun range => x / range
  let out := out.setUnless .nrmseRange nrmse (targetRange = some 0) zeroRange
  let nonzero := rows.filter fun r => r.yf ≠ 0
  let out := out.set .mapeExcludedZeroTargets (some (rows.countP fun r => r.yf = 0 : Nat))
  let out := out.set .mapeIncludedRows (some (nonzero.length : Nat))
  let mape := (wmean (fun r => |r.err| / |r.yf|) nonzero).map fun x => 100 * x
  out.setUnless .mapeNonzeroPct mape (nonzero = []) allZero

def probabilityErrorMetrics (sqrt : K → K) (inputs : Inputs K) :
    Except (MetricInputError K) (MetricResult Metric K) := do
  let s ← validateInputs inputs
  .ok (probabilityErrors sqrt s.rows)

/-- `np.linspace(0.0, 1.0, n_bins + 1)[i]`. -/
def edge (nBins i : Nat) : K := (i : K) / nBins

/-- `edges[1:-1]`. -/
def interiorEdges (nBins : Nat) : List K := (List.range (nBins - 1)).map fun i => edge nBins (i + 1)

/-- `np.digitize` on edges in increasing order: how many are not above `p`. -/
def digitize (p : K) (edges : List K) : Nat := edges.countP fun e => e ≤ p

def binIndex (nBins : Nat) (p : K) : Nat := min (digitize p (interiorEdges nBins)) (nBins - 1)

/-- One dictionary of `calibration_bins`; of its means `none` is `None` and `some none` is NaN. -/
structure CalibrationBin (K : Type) where
  bin : Nat
  lower : K
  upper : K
  count : Nat
  weight : K
  meanPredicted : Option (Option K)
  observedRate : Option (Option K)
  absGap : Option (Option K)
  lowCount : Bool

def binRows (nBins b : Nat) (rows : List (Row K)) : List (Row K) := rows.filter fun r => binIndex nBins r.p = b

def calibrationBin (rows : List (Row K)) (nBins minBinCount b : Nat) : CalibrationBin K :=
  let m := binRows nBins b rows
  let mp := wmean Row.p m
  let obs := wmean Row.yf m
  { bin := b
    lower := edge nBins b
    upper := edge nBins (b + 1)
    count := m.length
    weight := total Row.w m
    meanPredicted := if m.length = 0 then none else some mp
    observedRate := if m.length = 0 then none else some obs
    absGap := if m.length = 0 then none else some (obs.bind fun o => mp.map fun p => |o - p|)
    lowCount := m.length < minBinCount }

def calibrationBins (inputs : Inputs K) (nBins : Nat := 10) (minBinCount : Nat := 30) :
    Except (MetricInputError K) (List (CalibrationBin K)) :=
  if nBins < 1 then .error .nBins
  else do
    let s ← validateInputs inputs
    .ok ((List.range nBins).map (calibrationBin s.rows nBins minBinCount))

/-- `sum`, which is NaN with a NaN among its terms. -/
def nanSum : List (Option K) → Option K
  | [] => some 0
  | x :: xs => x.bind fun a => (nanSum xs).map fun b => a + b

/-- `a > b`, which is false on NaN. -/
def nanGt : Option K → Option K → Bool
  | some a, some b => b < a
  | _, _ => false

/-- `max`: a later value replaces an earlier one that it is greater than. -/
def nanMax : List (Option K) → Option (Option K)
  | [] => none
  | x :: xs => some (xs.foldl (fun acc y => if nanGt y acc then y else acc) x)

section Nan

omit [LinearOrder K] [IsStrictOrderedRing K] in
theorem nanSum_some (xs : List K) : nanSum (xs.map some) = some xs.sum := by
  induction xs with
  | nil => rfl
  | cons x xs ih => rw [List.map_cons, nanSum, ih, List.sum_cons]; rfl

omit [LinearOrder K] [IsStrictOrderedRing K] in
theorem nanSum_none {xs : List (Option K)} (h : none ∈ xs) : nanSum xs = none := by
  induction xs with
  | nil => cases h
  | cons x xs ih =>
      rcases List.mem_cons.mp h with rfl | h
      · rfl
      · rw [nanSum, ih h]
        cases x <;> rfl

omit [Field K] [IsStrictOrderedRing K] in
theorem nanMax_ne_none {xs : List (Option K)} (h : xs ≠ []) : ∃ m, nanMax xs = some m := by
  cases xs with
  | nil => exact absurd rfl h
  | cons x xs => exact ⟨_, rfl⟩

omit [Field K] [IsStrictOrderedRing K] in
theorem nanMax_some {xs : List K} (h : xs ≠ []) :
    ∃ m, nanMax (xs.map some) = some (some m) ∧ m ∈ xs ∧ ∀ x ∈ xs, x ≤ m := by
  cases xs with
  | nil => exact absurd rfl h
  | cons x xs =>
      clear h
      simp only [List.map_cons, nanMax, Option.some.injEq]
      induction xs generalizing x with
      | nil => exact ⟨x, rfl, by simp⟩
      | cons y xs ih =>
          have hstep : (if nanGt (some y) (some x) then some y else some x) = some (max x y) := by
            by_cases hlt : x < y
            · simp [nanGt, hlt, max_eq_right hlt.le]
            · simp [nanGt, hlt, max_eq_left (not_lt.mp hlt)]
          obtain ⟨m, hm, hmem, hle⟩ := ih (max x y)
          refine ⟨m, by rw [List.map_cons, List.foldl_cons, hstep, hm], ?_, ?_⟩
          · rcases List.mem_cons.mp hmem with rfl | hmem
            · rcases max_choice x y with hc | hc <;> simp [hc]
            · simp [hmem]
          · have hmax := hle (max x y) List.mem_cons_self
            intro z hz
            rcases List.mem_cons.mp hz with rfl | hz
            · exact (le_max_left _ _).trans hmax
            · rcases List.mem_cons.mp hz with rfl | hz
              · exact (le_max_right _ _).trans hmax
              · exact hle z (List.mem_cons_of_mem _ hz)

end Nan

omit [IsStrictOrderedRing K] in
theorem wmean_pos {x : Row K → K} {rows : List (Row K)} (h : 0 < total Row.w rows) :
    wmean x rows = some (mean Row.w x rows) := if_neg h.ne'

def logLossEps : K := 1 / (10 ^ 15 : Nat)

/-- `logLoss` stands for the log loss of scikit-learn, a number for
probabilities that are clipped. -/
def probabilityMetrics (logLoss : List (Row K) → K) (inputs : Inputs K) (nBins : Nat := 10) :
    Except (MetricInputError K) (MetricResult Metric K × List (CalibrationBin K)) := do
  let s ← validateInputs inputs
  let out : MetricResult Metric K := {}
  let clipped := s.rows.map fun r => { r with p := min (max r.p logLossEps) (1 - logLossEps) }
  let out := out.set .logLoss (some (logLoss clipped))
  let out := out.set .brier (wmean (fun r => (r.p - r.yf) ^ 2) s.rows)
  let bins ← calibrationBins s.inputs nBins
  let filled := bins.filter fun b => b.count ≠ 0
  let ece := nanSum (filled.map fun b => b.absGap.join.map fun gap => b.weight / total Row.w s.rows * gap)
  let out := out.set .ece ece
  match nanMax (filled.map fun b => b.absGap.join) with
  | some mce => .ok (out.set .mce mce, bins)
  | none => .error .noFilledBin

end RevenueRescue.Evaluation
