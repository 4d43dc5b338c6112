import RevenueRescue.Evaluation.BootstrapIntervals
import RevenueRescue.Foundation.Scatter

namespace RevenueRescue.Evaluation

open Scatter

variable {K : Type} [Field K] [LinearOrder K] [IsStrictOrderedRing K]

inductive CalibrationMethod
  | none
  | sigmoid
  | isotonic
  | other (name : String)
  deriving DecidableEq

/-- `np.log` and the two fitted models of scikit-learn: the probability of the
positive class, and the predicted value. A logistic regression needs both classes. -/
structure Regressions (K : Type) where
  log : K → K
  logisticRegression : List (K × Bool) → Option (K → K)
  isotonicRegression : List (K × Bool) → K → K

/-- `StratifiedKFold(n_splits, shuffle=True, random_state=seed).split(p, y)`: each row is in one test fold,
and no fold trains on the rows that it tests. -/
structure StratifiedKFold where
  split : (nSplits seed : Nat) → List Bool → Option (List (List Nat × List Nat))
  tests : ∀ nSplits seed y folds, split nSplits seed y = some folds →
    (folds.flatMap Prod.snd).Perm (List.range y.length)
  trains : ∀ nSplits seed y folds, split nSplits seed y = some folds → ∀ fold ∈ folds, ∀ i ∈ fold.1, i ∉ fold.2

inductive CalibrationError (K : Type)
  | input (error : MetricInputError K)
  | method (name : String)
  | oneClass
  | folds
  | noBaseline
  | noLogLoss

def logitEps : K := 1 / (10 ^ 6 : Nat)

/-- `_logit`, for one probability. -/
def logit (models : Regressions K) (p : K) : K :=
  let pc := min (max p logitEps) (1 - logitEps)
  models.log (pc / (1 - pc))

/-- `Calibrator(method).fit(p, y).transform`. -/
def calibrator (models : Regressions K) (rows : List (Row K)) : CalibrationMethod → Except (CalibrationError K) (K → K)
  | .none => .ok fun p => p
  | .sigmoid =>
      match models.logisticRegression (rows.map fun r => (logit models r.p, r.y)) with
      | some predict => .ok fun p => predict (logit models p)
      | none => .error .oneClass
  | .isotonic => .ok fun p => min (max (models.isotonicRegression (rows.map fun r => (r.p, r.y)) p) 0) 1
  | .other name => .error (.method name)

/-- What a fold writes to the cross-fitted probabilities. -/
def foldWrites (models : Regressions K) (rows : List (Row K)) (m : CalibrationMethod) (fold : List Nat × List Nat) :
    Except (CalibrationError K) (List (Nat × K)) := do
  let transform ← calibrator models (resample rows fold.1) m
  .ok (fold.2.zip ((resample rows fold.2).map fun r => transform r.p))

/-- The loop over the folds; `empty` is what `np.empty_like` finds in memory. -/
def crossFit (models : Regressions K) (empty : Nat → K) (folds : List (List Nat × List Nat)) (rows : List (Row K))
    (m : CalibrationMethod) : Except (CalibrationError K) (List K) :=
  folds.foldlM (fun out fold => do
    let writes ← foldWrites models rows m fold
    .ok (scatter out writes)) ((List.range rows.length).map empty)

/-- A row of the comparison, with the probabilities that `oof` keeps for it. -/
structure CrossFitted (K : Type) where
  method : CalibrationMethod
  probs : List K
  cvLogLoss : K
  cvBrier : Option K
  cvEce : Option K

structure CalibrationChoice (K : Type) where
  method : CalibrationMethod
  calibrator : K → K
  crossFittedValidationProbs : List K
  comparison : List (CrossFitted K)

section Selection

variable (sqrt : K → K) (sk : Scikit K) (models : Regressions K) (skf : StratifiedKFold) (empty : Nat → K)
  (nSplits seed : Nat)

/-- The body of the loop over the methods. -/
def compared (s : Sample K) (m : CalibrationMethod) : Except (CalibrationError K) (CrossFitted K) := do
  match skf.split nSplits seed (s.rows.map Row.y) with
  | none => .error .folds
  | some folds =>
      let out ← crossFit models empty folds s.rows m
      let r ← (evaluateBinary sqrt sk { yTrue := s.inputs.yTrue, yProb := out.map some } (1 / (2 : Nat))).mapError .input
      match (r.metrics.values .logLoss).join with
      | none => .error .noLogLoss
      | some loss =>
          .ok {
            method := m
            probs := out
            cvLogLoss := loss
            cvBrier := (r.metrics.values .brier).join
            cvEce := (r.metrics.values .ece).join }

/-- `select_calibration`. -/
def selectCalibration (yVal pVal : Column K)
    (methods : List CalibrationMethod := [.none, .sigmoid, .isotonic]) (minImprovement : K := 1 / (10000 : Nat)) :
    Except (CalibrationError K) (CalibrationChoice K) := do
  let s ← (validateInputs { yTrue := yVal, yProb := pVal }).mapError .input
  let table ← methods.mapM (compared sqrt sk models skf empty nSplits seed s)
  match table.find? fun t => t.method = .none, table.argmin CrossFitted.cvLogLoss with
  | some base, some best =>
      let chosen := if minImprovement ≤ base.cvLogLoss - best.cvLogLoss then best.method else .none
      let cal ← calibrator models s.rows chosen
      let oof := ((table.reverse.find? fun t => t.method = chosen).map CrossFitted.probs).getD []
      .ok {
        method := chosen
        calibrator := cal
        crossFittedValidationProbs := if chosen = .none then s.rows.map Row.p else oof
        comparison := table }
  | _, _ => .error .noBaseline

end Selection

section Folds

variable {models : Regressions K} {empty : Nat → K} {folds : List (List Nat × List Nat)} {rows : List (Row K)}
  {m : CalibrationMethod} {out start : List K} {fold : List Nat × List Nat} {writes : List (Nat × K)} {i : Nat} {r : Row K}

/-- Every entry comes from a calibrator that was not fitted on its row. -/
structure OutOfSample (models : Regressions K) (m : CalibrationMethod) (folds : List (List Nat × List Nat))
    (rows : List (Row K)) (out : List K) : Prop where
  size : out.length = rows.length
  tested : ∀ i < rows.length, ∃ fold ∈ folds, i ∈ fold.2
  fitted : ∀ fold ∈ folds, ∃ transform, calibrator models (resample rows fold.1) m = .ok transform ∧
    ∀ i ∈ fold.2, i ∉ fold.1 ∧ ∀ r, rows[i]? = some r → out[i]? = some (transform r.p)

omit [IsStrictOrderedRing K] in
/-- One write after the other is one write of all. -/
theorem crossFit_writes (h : (folds.foldlM (fun out fold => do
      let writes ← foldWrites models rows m fold
      .ok (scatter out writes)) start : Except (CalibrationError K) (List K)) = .ok out) :
    ∃ all : List (List (Nat × K)), folds.mapM (foldWrites models rows m) = .ok all ∧ out = scatter start all.flatten := by
  induction folds generalizing start with
  | nil =>
      cases h
      exact ⟨[], rfl, rfl⟩
  | cons fold folds ih =>
      rw [List.foldlM_cons] at h
      obtain ⟨next, hnext, h⟩ := of_bind h
      obtain ⟨writes, hwrites, hscatter⟩ := of_bind hnext
      cases hscatter
      obtain ⟨all, hall, rfl⟩ := ih h
      refine ⟨writes :: all, ?_, ?_⟩
      · rw [List.mapM_cons, hwrites, ok_bind, hall, ok_bind]
        rfl
      · rw [List.flatten_cons, scatter_append]

omit [Field K] [LinearOrder K] [IsStrictOrderedRing K] in
/-- The rows at some places go with their places. -/
theorem zip_resample {idx : List Nat} (g : Row K → K) (h : ∀ i ∈ idx, i < rows.length) :
    (idx.zip ((resample rows idx).map g)).map Prod.fst = idx ∧
      ∀ i ∈ idx, ∀ r, rows[i]? = some r → (i, g r) ∈ idx.zip ((resample rows idx).map g) := by
  induction idx with
  | nil => simp
  | cons i idx ih =>
      obtain ⟨hfst, hmem⟩ := ih fun j hj => h j (List.mem_cons_of_mem _ hj)
      have hi := h i List.mem_cons_self
      have hget : rows[i]? = some rows[i] := List.getElem?_eq_getElem hi
      have hcons : resample rows (i :: idx) = rows[i] :: resample rows idx := List.filterMap_cons_some hget
      rw [hcons, List.map_cons, List.zip_cons_cons]
      refine ⟨by rw [List.map_cons, hfst], fun j hj r hr => ?_⟩
      rcases List.mem_cons.mp hj with rfl | hj
      · rw [hget] at hr
        cases hr
        exact List.mem_cons_self
      · exact List.mem_cons_of_mem _ (hmem j hj r hr)

omit [Field K] [LinearOrder K] [IsStrictOrderedRing K] in
theorem exists_of_mapM_ok {ε α β : Type} {f : α → Except ε β} {l : List α} {all : List β} {a : α} (h : l.mapM f = .ok all)
    (ha : a ∈ l) : ∃ b ∈ all, f a = .ok b := by
  induction l generalizing all with
  | nil => cases ha
  | cons first l ih =>
      rw [List.mapM_cons] at h
      obtain ⟨b, hb, h⟩ := of_bind h
      obtain ⟨rest, hrest, h⟩ := of_bind h
      cases h
      rcases List.mem_cons.mp ha with rfl | ha
      · exact ⟨b, List.mem_cons_self, hb⟩
      · obtain ⟨other, hother, hf⟩ := ih hrest ha
        exact ⟨other, List.mem_cons_of_mem _ hother, hf⟩

omit [IsStrictOrderedRing K] in
theorem crossFit_outOfSample (htests : (folds.flatMap Prod.snd).Perm (List.range rows.length))
    (htrains : ∀ fold ∈ folds, ∀ i ∈ fold.1, i ∉ fold.2) (h : crossFit models empty folds rows m = .ok out) :
    OutOfSample models m folds rows out := by
  obtain ⟨all, hall, rfl⟩ := crossFit_writes h
  have hbound : ∀ fold ∈ folds, ∀ i ∈ fold.2, i < rows.length := fun fold hf i hi =>
    List.mem_range.mp (htests.mem_iff.mp (List.mem_flatMap.mpr ⟨fold, hf, hi⟩))
  have hplaces : all.flatten.map Prod.fst = folds.flatMap Prod.snd := by
    have hfolds : all.map (List.map Prod.fst) = folds.map Prod.snd := by
      refine map_of_mapM_mem (fun fold hf writes hwrites => ?_) hall
      obtain ⟨transform, -, hok⟩ := of_bind hwrites
      cases hok
      exact (zip_resample _ (hbound fold hf)).1
    rw [List.map_flatten, hfolds, List.flatMap_def]
  have hnodup : (all.flatten.map Prod.fst).Nodup := by
    rw [hplaces]
    exact htests.nodup_iff.mpr List.nodup_range
  refine ⟨by simp, fun i hi => ?_, fun fold hf => ?_⟩
  · simpa [List.mem_flatMap] using htests.mem_iff.mpr (List.mem_range.mpr hi)
  · obtain ⟨writes, hmem, hwrites⟩ := exists_of_mapM_ok hall hf
    obtain ⟨transform, htransform, hok⟩ := of_bind hwrites
    cases hok
    refine ⟨transform, htransform, fun i hi => ⟨fun htrain => htrains fold hf i htrain hi, fun r hr => ?_⟩⟩
    have hwrite := (zip_resample (fun r => transform r.p) (hbound fold hf)).2 i hi r hr
    exact scatter_written hnodup (List.mem_flatten.mpr ⟨_, hmem, hwrite⟩) (by simpa using hbound fold hf i hi)

omit [IsStrictOrderedRing K] in
/-- Without a calibrator the cross-fitted probabilities are the given ones. -/
theorem outOfSample_none (h : OutOfSample models .none folds rows out) : out = rows.map Row.p := by
  refine List.ext_getElem? fun i => ?_
  by_cases hi : i < rows.length
  · obtain ⟨fold, hf, hmem⟩ := h.tested i hi
    obtain ⟨transform, htransform, hvalues⟩ := h.fitted fold hf
    cases htransform
    have hget : rows[i]? = some rows[i] := List.getElem?_eq_getElem hi
    rw [(hvalues i hmem).2 _ hget, List.getElem?_map, hget]
    rfl
  · rw [List.getElem?_eq_none (by rw [h.size]; exact not_lt.mp hi),
      List.getElem?_eq_none (by rw [List.length_map]; exact not_lt.mp hi)]

end Folds

section Choice

variable {sqrt : K → K} {sk : Scikit K} {models : Regressions K} {skf : StratifiedKFold} {empty : Nat → K}
  {nSplits seed : Nat} {s : Sample K} {m : CalibrationMethod} {entry : CrossFitted K} {yVal pVal : Column K}
  {methods : List CalibrationMethod} {minImprovement : K} {choice : CalibrationChoice K}

/-- An entry of the comparison is the log loss of probabilities that were fitted out of sample. -/
structure Compared (sqrt : K → K) (sk : Scikit K) (models : Regressions K) (folds : List (List Nat × List Nat)) (s : Sample K)
    (entry : CrossFitted K) : Prop where
  outOfSample : OutOfSample models entry.method folds s.rows entry.probs
  scored : ∃ report, evaluateBinary sqrt sk { yTrue := s.inputs.yTrue, yProb := entry.probs.map some } (1 / (2 : Nat)) =
    .ok report ∧ report.metrics.values .logLoss = some (some entry.cvLogLoss)

theorem compared_ok (h : compared sqrt sk models skf empty nSplits seed s m = .ok entry) :
    entry.method = m ∧ ∃ folds, skf.split nSplits seed (s.rows.map Row.y) = some folds ∧
      Compared sqrt sk models folds s entry := by
  unfold compared at h
  split at h
  · cases h
  · rename_i folds hfolds
    obtain ⟨out, hout, h⟩ := of_bind h
    obtain ⟨r, hr, h⟩ := of_bind h
    split at h
    · cases h
    · rename_i loss hloss
      cases h
      have htests := skf.tests _ _ _ _ hfolds
      rw [List.length_map] at htests
      refine ⟨rfl, folds, hfolds, crossFit_outOfSample htests (skf.trains _ _ _ _ hfolds) hout, ?_⟩
      cases he : evaluateBinary sqrt sk { yTrue := s.inputs.yTrue, yProb := out.map some } (1 / (2 : Nat)) with
      | error e =>
          rw [he] at hr
          cases hr
      | ok report =>
          rw [he] at hr
          cases hr
          exact ⟨_, rfl, Option.join_eq_some_iff.mp hloss⟩

/-- What the choice rests on. -/
structure Justified (minImprovement : K) (base : CrossFitted K) (choice : CalibrationChoice K) : Prop where
  baseline : base ∈ choice.comparison ∧ base.method = .none
  kept : choice.method = .none → ∀ e ∈ choice.comparison,
    base.cvLogLoss - e.cvLogLoss < minImprovement ∨ base.cvLogLoss ≤ e.cvLogLoss
  replaced : choice.method ≠ .none → ∃ best ∈ choice.comparison, best.method = choice.method ∧
    minImprovement ≤ base.cvLogLoss - best.cvLogLoss ∧ ∀ e ∈ choice.comparison, best.cvLogLoss ≤ e.cvLogLoss

/-- Calibration is chosen, and the probabilities for the threshold are made,
without any row being scored by a calibrator that was fitted on it; a method
replaces the raw probabilities only if it is the best one and improves on them. -/
theorem calibration_selected (h : validateInputs { yTrue := yVal, yProb := pVal } = .ok s)
    (hchoice : selectCalibration sqrt sk models skf empty nSplits seed yVal pVal methods minImprovement = .ok choice) :
    ∃ folds base, skf.split nSplits seed (s.rows.map Row.y) = some folds ∧
      choice.comparison.map CrossFitted.method = methods ∧
      (∀ e ∈ choice.comparison, Compared sqrt sk models folds s e) ∧
      OutOfSample models choice.method folds s.rows choice.crossFittedValidationProbs ∧
      calibrator models s.rows choice.method = .ok choice.calibrator ∧ Justified minImprovement base choice := by
  rw [selectCalibration, h, mapError_ok, ok_bind] at hchoice
  obtain ⟨table, htable, hchoice⟩ := of_bind hchoice
  have hentry : ∀ e ∈ table, compared sqrt sk models skf empty nSplits seed s e.method = .ok e := by
    intro e he
    obtain ⟨m, -, hm⟩ := mem_of_mapM htable he
    rwa [(compared_ok hm).1]
  have hsame : ∀ e ∈ table, ∀ e' ∈ table, e.method = e'.method → e = e' := by
    intro e he e' he' hm
    exact Except.ok.inj ((hentry e he).symm.trans (hm ▸ hentry e' he'))
  split at hchoice
  · rename_i base best hbase hbest
    dsimp only at hchoice
    generalize hchosen : (if minImprovement ≤ base.cvLogLoss - best.cvLogLoss then best.method else .none) = chosen
      at hchoice
    obtain ⟨cal, hcal, hchoice⟩ := of_bind hchoice
    cases hchoice
    have hbaseMem : base ∈ table := List.mem_of_find?_eq_some hbase
    have hbaseMethod : base.method = .none := by simpa using List.find?_some hbase
    have hbestMem : best ∈ table := List.argmin_mem hbest
    have hbestLe : ∀ e ∈ table, best.cvLogLoss ≤ e.cvLogLoss := fun e he => List.le_of_mem_argmin he hbest
    obtain ⟨-, folds, hfolds, -⟩ := compared_ok (hentry base hbaseMem)
    have hcompared : ∀ e ∈ table, Compared sqrt sk models folds s e := by
      intro e he
      obtain ⟨-, folds', hfolds', hcompared⟩ := compared_ok (hentry e he)
      rw [hfolds] at hfolds'
      cases hfolds'
      exact hcompared
    have hmethods : table.map CrossFitted.method = methods := by
      rw [map_of_mapM_mem (fun m _ e he => (compared_ok he).1) htable, List.map_id']
    have hraw : OutOfSample models .none folds s.rows (s.rows.map Row.p) := by
      have hnone := (hcompared base hbaseMem).outOfSample
      rw [hbaseMethod] at hnone
      exact outOfSample_none hnone ▸ hnone
    by_cases hnone : chosen = .none
    · have hkept : ∀ e ∈ table, base.cvLogLoss - e.cvLogLoss < minImprovement ∨ base.cvLogLoss ≤ e.cvLogLoss := by
        intro e he
        split at hchosen
        · rw [hsame base hbaseMem best hbestMem (hbaseMethod.trans (hchosen.trans hnone).symm)]
          exact .inr (hbestLe e he)
        · rename_i hless
          exact .inl ((sub_le_sub_left (hbestLe e he) _).trans_lt (not_le.mp hless))
      subst hnone
      exact ⟨folds, base, hfolds, hmethods, hcompared, hraw, hcal, ⟨hbaseMem, hbaseMethod⟩, fun _ => hkept,
        fun hne => absurd rfl hne⟩
    · split at hchosen
      · rename_i himproves
        subst hchosen
        obtain ⟨e, he⟩ : ∃ e, (table.reverse.find? fun t => t.method = best.method) = some e := by
          refine Option.isSome_iff_exists.mp (List.find?_isSome.mpr ⟨best, List.mem_reverse.mpr hbestMem, by simp⟩)
        have heMem : e ∈ table := List.mem_reverse.mp (List.mem_of_find?_eq_some he)
        have heBest : e = best := hsame e heMem best hbestMem (by simpa using List.find?_some he)
        simp only [he, hnone, if_false, Option.map_some, Option.getD_some, heBest]
        exact ⟨folds, base, hfolds, hmethods, hcompared, (hcompared best hbestMem).outOfSample, hcal,
          ⟨hbaseMem, hbaseMethod⟩, fun h => absurd h hnone, fun _ => ⟨best, hbestMem, rfl, himproves, hbestLe⟩⟩
      · exact absurd hchosen.symm hnone
  · cases hchoice

end Choice

/-- The test fold of a row: the rows of a class take turns, and the class of the
first row starts with the second fold. -/
def testFold (y : List Bool) (i : Nat) : Nat :=
  ((y.take i).count (y.getD i false) + if y[i]? = y.head? then 1 else 0) % 2

def testRows (y : List Bool) (k : Nat) : List Nat := (List.range y.length).filter fun i => testFold y i = k

def trainRows (y : List Bool) (k : Nat) : List Nat := (List.range y.length).filter fun i => !decide (testFold y i = k)

/-- Two folds, as the seed 42 shuffles two rows of each class. -/
def twoFolds : StratifiedKFold where
  split nSplits _ y :=
    if nSplits = 2 ∧ (2 ≤ y.count true ∨ 2 ≤ y.count false) then
      some [(trainRows y 0, testRows y 0), (trainRows y 1, testRows y 1)]
    else none
  tests nSplits seed y folds h := by
    split at h
    · cases h
      have hrest : testRows y 1 = (List.range y.length).filter fun i => !decide (testFold y i = 0) := by
        refine List.filter_congr fun i _ => ?_
        have hlt : testFold y i < 2 := Nat.mod_lt _ two_pos
        obtain hk | hk : testFold y i = 0 ∨ testFold y i = 1 := by omega
        all_goals simp [hk]
      simp only [List.flatMap_cons, List.flatMap_nil, List.append_nil, hrest]
      exact List.filter_append_perm _ _
    · cases h
  trains nSplits seed y folds h fold hf i hi := by
    split at h
    · cases h
      rcases List.mem_pair.mp hf with rfl | rfl <;> simp_all [trainRows, testRows]
    · cases h

/-- The isotonic fit at a point of the training rows: the largest over the points
from below of the smallest mean up to a point above. -/
def isotonicAt (rows : List (ℚ × Bool)) (x : ℚ) : ℚ :=
  let points := rows.map Prod.fst
  let mean (a b : ℚ) : ℚ := average ((rows.filter fun r => a ≤ r.1 ∧ r.1 ≤ b).map fun r => if r.2 then 1 else 0)
  ((points.filter (· ≤ x)).map fun a => ((points.filter (x ≤ ·)).map (mean a)).min?.getD 0).max?.getD 0

/-- Between two points the fit is a line, and outside of all points it is constant. -/
def isotonicRegression (rows : List (ℚ × Bool)) (p : ℚ) : ℚ :=
  match ((rows.map Prod.fst).filter (· ≤ p)).max?, ((rows.map Prod.fst).filter (p ≤ ·)).min? with
  | some a, some b =>
      if a = b then isotonicAt rows a
      else isotonicAt rows a + (isotonicAt rows b - isotonicAt rows a) * (p - a) / (b - a)
  | some a, none => isotonicAt rows a
  | none, some b => isotonicAt rows b
  | none, none => 0

/-- The isotonic regression, and no logistic one, which the methods of the sample do not fit. -/
def isotonicModels : Regressions ℚ where
  log x := x - 1
  logisticRegression _ := none
  isotonicRegression := isotonicRegression

/-- `-np.log` at the two probabilities that the labels of the sample get. -/
def sampleNegLog (x : ℚ) : ℚ := if x = 4 / 5 then 2231435513142097 / 10 ^ 16 else 9992007221626415 / 10 ^ 31

/-- The scores of rows whose classes are apart. -/
def separatedScikit : Scikit ℚ where
  rocAuc _ := some 1
  prAuc _ := some 1
  logLoss rows := average (rows.map fun r => sampleNegLog (if r.y then r.p else 1 - r.p))

/-- Two rows of each class. -/
def separatedRows : Sample ℚ where
  rows := [⟨false, 1 / 5, 1⟩, ⟨true, 4 / 5, 1⟩, ⟨false, 1 / 5, 1⟩, ⟨true, 4 / 5, 1⟩]
  rows_ne := List.cons_ne_nil _ _
  prob_nonneg := by norm_num
  prob_le := by norm_num
  weight_nonneg := by simp
  weight_pos := by norm_num [WeightedMean.total]

def sampleChoice : Except (CalibrationError ℚ) (CalibrationChoice ℚ) :=
  selectCalibration rationalSqrt separatedScikit isotonicModels twoFolds (fun _ => 0) 2 42 separatedRows.inputs.yTrue
    separatedRows.inputs.yProb [.none, .isotonic] (1 / 10000)

theorem sampleChoice_method : (sampleChoice.toOption.map CalibrationChoice.method) = some .isotonic := by decide +kernel

/-- The isotonic regression separates the classes, and is chosen. -/
theorem calibration_selected_sample : ∃ choice, sampleChoice = .ok choice ∧ choice.method = .isotonic ∧ ∃ folds base,
    twoFolds.split 2 42 (separatedRows.rows.map Row.y) = some folds ∧
      choice.comparison.map CrossFitted.method = [.none, .isotonic] ∧
      (∀ e ∈ choice.comparison, Compared rationalSqrt separatedScikit isotonicModels folds separatedRows e) ∧
      OutOfSample isotonicModels choice.method folds separatedRows.rows choice.crossFittedValidationProbs ∧
      calibrator isotonicModels separatedRows.rows choice.method = .ok choice.calibrator ∧
      Justified (1 / 10000) base choice := by
  have hmethod := sampleChoice_method
  cases hchoice : sampleChoice with
  | error e =>
      rw [hchoice] at hmethod
      cases hmethod
  | ok choice =>
      rw [hchoice] at hmethod
      exact ⟨choice, rfl, Option.some.inj hmethod, calibration_selected (validateInputs_unweighted (by decide)) hchoice⟩

end RevenueRescue.Evaluation
