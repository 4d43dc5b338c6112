import Mathlib.Algebra.Order.Ring.Rat
import Mathlib.Data.List.ReduceOption
import Mathlib.Tactic.NormNum
import RevenueRescue.Foundation.WeightedMean
import RevenueRescue.Foundation.Window

namespace RevenueRescue.Evaluation

open WeightedMean

/-- The one-dimensional numeric array that an argument is converted to; `none`
is NaN or an infinity. -/
abbrev Column (K : Type) := List (Option K)

inductive ArrayName
  | yTrue
  | yProb
  | sampleWeight

inductive MetricInputError (K : Type)
  | empty (name : ArrayName)
  | notFinite (name : ArrayName) (count : Nat)
  | notBinary (name : ArrayName) (found : List K)
  | length (name : ArrayName) (size n : Nat)
  | probRange (lo hi : Option K)
  | negativeWeight
  | weightSum
  | nBins
  | emptyMatrix
  | noFilledBin
  | threshold (t : K)

theorem ok_bind {ε α β : Type} (a : α) (f : α → Except ε β) : (Except.ok a >>= f) = f a := rfl

variable {K : Type} [Field K] [LinearOrder K] [IsStrictOrderedRing K]

/-- One row of the validated arrays. -/
structure Row (K : Type) where
  y : Bool
  p : K
  w : K

/-- The label as a float. -/
def Row.yf (r : Row K) : K := if r.y then 1 else 0

structure Sample (K : Type) [Field K] [LinearOrder K] [IsStrictOrderedRing K] where
  rows : List (Row K)
  rows_ne : rows ≠ []
  prob_nonneg : ∀ r ∈ rows, 0 ≤ r.p
  prob_le : ∀ r ∈ rows, r.p ≤ 1
  weight_nonneg : ∀ r ∈ rows, 0 ≤ r.w
  weight_pos : 0 < total Row.w rows

structure Inputs (K : Type) where
  yTrue : Column K
  yProb : Column K
  sampleWeight : Option (Column K) := none

omit [Field K] [LinearOrder K] [IsStrictOrderedRing K] in
theorem reduceOption_ne_nil {values : Column K} (hne : values ≠ []) (h : ¬ values.any Option.isNone) :
    values.reduceOption ≠ [] := by
  obtain ⟨x, hx⟩ := List.exists_mem_of_ne_nil values hne
  cases x with
  | none => exact absurd (List.any_eq_true.mpr ⟨none, hx, rfl⟩) h
  | some x => exact List.ne_nil_of_mem (List.reduceOption_mem_iff.mpr hx)

def as1dFloat (name : ArrayName) (values : Column K) : Except (MetricInputError K) { xs : List K // xs ≠ [] } :=
  if hne : values = [] then .error (.empty name)
  else if h : values.any Option.isNone then .error (.notFinite name (values.countP Option.isNone))
  else .ok ⟨values.reduceOption, reduceOption_ne_nil hne h⟩

def validateBinary (name : ArrayName) (values : Column K) :
    Except (MetricInputError K) { ys : List Bool // ys ≠ [] } := do
  let arr ← as1dFloat name values
  let bad := arr.val.filter fun x => x ≠ 0 && x ≠ 1
  if bad = [] then .ok ⟨arr.val.map fun x => decide (x = 1), by simpa using arr.property⟩
  else .error (.notBinary name ((Window.orderBy id bad.dedup).take 5))

/-- The checks of `validate_inputs` on `y_prob`. -/
def validateProb (n : Nat) (values : Column K) :
    Except (MetricInputError K) { p : List K // p.length = n ∧ ∀ x ∈ p, 0 ≤ x ∧ x ≤ 1 } := do
  let p ← as1dFloat .yProb values
  if hn : p.val.length = n then
    if h : ∀ x ∈ p.val, 0 ≤ x ∧ x ≤ 1 then .ok ⟨p.val, hn, h⟩
    else .error (.probRange p.val.min? p.val.max?)
  else .error (.length .yProb p.val.length n)

/-- The checks of `validate_inputs` on `sample_weight`, which defaults to ones. -/
def validateWeight (n : Nat) (hn : 0 < n) :
    Option (Column K) →
      Except (MetricInputError K) { w : List K // w.length = n ∧ (∀ x ∈ w, 0 ≤ x) ∧ 0 < w.sum }
  | none => .ok ⟨List.replicate n 1, by simp, fun x hx => by simp [List.eq_of_mem_replicate hx], by simpa using hn⟩
  | some values => do
      let w ← as1dFloat .sampleWeight values
      if hlen : w.val.length = n then
        if hneg : ∀ x ∈ w.val, 0 ≤ x then
          if hsum : w.val.sum ≤ 0 then .error .weightSum
          else .ok ⟨w.val, hlen, hneg, not_le.mp hsum⟩
        else .error .negativeWeight
      else .error (.length .sampleWeight w.val.length n)

def rowsOf (y : List Bool) (p w : List K) : List (Row K) := (y.zip (p.zip w)).map fun r => ⟨r.1, r.2.1, r.2.2⟩

section Rows

omit [Field K] [LinearOrder K] [IsStrictOrderedRing K]

variable {y : List Bool} {p w : List K}

theorem rowsOf_y (hp : p.length = y.length) (hw : w.length = y.length) : (rowsOf y p w).map Row.y = y := by
  rw [rowsOf, List.map_map, show Row.y ∘ (fun r : Bool × K × K => ⟨r.1, r.2.1, r.2.2⟩) = Prod.fst from rfl,
    List.map_fst_zip (by simp [hp, hw])]

theorem rowsOf_p (hp : p.length = y.length) (hw : w.length = y.length) : (rowsOf y p w).map Row.p = p := by
  rw [rowsOf, List.map_map, show Row.p ∘ (fun r : Bool × K × K => ⟨r.1, r.2.1, r.2.2⟩) = Prod.fst ∘ Prod.snd from rfl,
    ← List.map_map, List.map_snd_zip (by simp [hp, hw]), List.map_fst_zip (by rw [hp, hw])]

theorem rowsOf_w (hp : p.length = y.length) (hw : w.length = y.length) : (rowsOf y p w).map Row.w = w := by
  rw [rowsOf, List.map_map, show Row.w ∘ (fun r : Bool × K × K => ⟨r.1, r.2.1, r.2.2⟩) = Prod.snd ∘ Prod.snd from rfl,
    ← List.map_map, List.map_snd_zip (by simp [hp, hw]), List.map_snd_zip (by rw [hp, hw])]

theorem rowsOf_rows (rows : List (Row K)) : rowsOf (rows.map Row.y) (rows.map Row.p) (rows.map Row.w) = rows := by
  induction rows with
  | nil => rfl
  | cons r rows ih =>
      rw [rowsOf] at ih
      simp [rowsOf, ih]

end Rows

def Sample.ofArrays (y : { ys : List Bool // ys ≠ [] })
    (p : { p : List K // p.length = y.val.length ∧ ∀ x ∈ p, 0 ≤ x ∧ x ≤ 1 })
    (w : { w : List K // w.length = y.val.length ∧ (∀ x ∈ w, 0 ≤ x) ∧ 0 < w.sum }) : Sample K where
  rows := rowsOf y.val p.val w.val
  rows_ne h := y.property (by rw [← rowsOf_y p.property.1 w.property.1, h]; rfl)
  prob_nonneg r hr := (p.property.2 r.p (by
    rw [← rowsOf_p p.property.1 w.property.1]
    exact List.mem_map_of_mem hr)).1
  prob_le r hr := (p.property.2 r.p (by
    rw [← rowsOf_p p.property.1 w.property.1]
    exact List.mem_map_of_mem hr)).2
  weight_nonneg r hr := w.property.2.1 r.w (by
    rw [← rowsOf_w p.property.1 w.property.1]
    exact List.mem_map_of_mem hr)
  weight_pos := by
    rw [total, rowsOf_w p.property.1 w.property.1]
    exact w.property.2.2

/-- `validate_inputs` as the functions call it that take probabilities, without `y_pred`. -/
def validateInputs (inputs : Inputs K) : Except (MetricInputError K) (Sample K) := do
  let y ← validateBinary .yTrue inputs.yTrue
  let p ← validateProb y.val.length inputs.yProb
  let w ← validateWeight y.val.length (List.length_pos_iff.mpr y.property) inputs.sampleWeight
  .ok (Sample.ofArrays y p w)

/-- The arrays of a sample, as they are handed on to the next function. -/
def Sample.inputs (s : Sample K) : Inputs K where
  yTrue := s.rows.map fun r => some r.yf
  yProb := s.rows.map fun r => some r.p
  sampleWeight := some (s.rows.map fun r => some r.w)

omit [LinearOrder K] [IsStrictOrderedRing K] in
theorem as1dFloat_some {name : ArrayName} {xs : List K} (h : xs ≠ []) :
    as1dFloat name (xs.map some) = .ok ⟨xs, h⟩ := by
  have hall : ¬ (xs.map some).any Option.isNone := by simp
  have hxs : (xs.map some).reduceOption = xs := by simp [List.reduceOption]
  unfold as1dFloat
  rw [dif_neg (by simpa using h), dif_neg hall]
  simp only [hxs]

theorem decide_yf (r : Row K) : decide (r.yf = 1) = r.y := by
  cases hy : r.y <;> simp [Row.yf, hy]

theorem validateBinary_labels (name : ArrayName) {rows : List (Row K)} (hne : rows.map Row.y ≠ []) :
    validateBinary name (rows.map fun r => some r.yf) = .ok ⟨rows.map Row.y, hne⟩ := by
  have hyf : rows.map Row.yf ≠ [] := by simpa using hne
  have harr : (rows.map fun r => some r.yf) = (rows.map Row.yf).map some := by simp
  have hbad : ((rows.map Row.yf).filter fun x => x ≠ 0 && x ≠ 1) = [] := by
    refine List.filter_eq_nil_iff.mpr fun x hx => ?_
    obtain ⟨r, -, rfl⟩ := List.mem_map.mp hx
    cases hr : r.y <;> simp [Row.yf, hr]
  have hlabels : ((rows.map Row.yf).map fun x => decide (x = 1)) = rows.map Row.y := by
    simp only [List.map_map, Function.comp_def, decide_yf]
  rw [validateBinary, harr, as1dFloat_some hyf, ok_bind]
  simp only [hbad, if_true, hlabels]

omit [IsStrictOrderedRing K] in
theorem validateProb_some {n : Nat} {p : List K} (hne : p ≠ []) (h : p.length = n ∧ ∀ x ∈ p, 0 ≤ x ∧ x ≤ 1) :
    validateProb n (p.map some) = .ok ⟨p, h⟩ := by
  rw [validateProb, as1dFloat_some hne, ok_bind, dif_pos h.1, dif_pos h.2]

theorem validateWeight_some {n : Nat} {hn : 0 < n} {w : List K} (hne : w ≠ [])
    (h : w.length = n ∧ (∀ x ∈ w, 0 ≤ x) ∧ 0 < w.sum) :
    validateWeight n hn (some (w.map some)) = .ok ⟨w, h⟩ := by
  rw [validateWeight, as1dFloat_some hne, ok_bind, dif_pos h.1, dif_pos h.2.1, dif_neg (not_le.mpr h.2.2)]

/-- Arrays that make a sample are accepted again, with weights that `validateWeight` reads as the sample's. -/
theorem validateInputs_sample (s : Sample K) {sampleWeight : Option (Column K)}
    (w : { w : List K // w.length = (s.rows.map Row.y).length ∧ (∀ x ∈ w, 0 ≤ x) ∧ 0 < w.sum })
    (hw : ∀ hn, validateWeight (s.rows.map Row.y).length hn sampleWeight = .ok w) (hval : w.val = s.rows.map Row.w) :
    validateInputs { s.inputs with sampleWeight := sampleWeight } = .ok s := by
  have hy : s.rows.map Row.y ≠ [] := by simpa using s.rows_ne
  have hp : (s.rows.map Row.p).length = (s.rows.map Row.y).length ∧ ∀ x ∈ s.rows.map Row.p, 0 ≤ x ∧ x ≤ 1 := by
    refine ⟨by simp, fun x hx => ?_⟩
    obtain ⟨r, hr, rfl⟩ := List.mem_map.mp hx
    exact ⟨s.prob_nonneg r hr, s.prob_le r hr⟩
  have hprob : (s.rows.map fun r => some r.p) = (s.rows.map Row.p).map some := by simp
  rw [validateInputs, Sample.inputs, validateBinary_labels _ hy, ok_bind, hprob,
    validateProb_some (by simpa using s.rows_ne) hp, ok_bind, hw, ok_bind, Sample.ofArrays]
  simp only [hval, rowsOf_rows]

/-- Arrays that were validated once are accepted again as they are. -/
theorem validateInputs_inputs (s : Sample K) : validateInputs s.inputs = .ok s := by
  have hw : (s.rows.map Row.w).length = (s.rows.map Row.y).length ∧ (∀ x ∈ s.rows.map Row.w, 0 ≤ x) ∧
      0 < (s.rows.map Row.w).sum := by
    refine ⟨by simp, fun x hx => ?_, s.weight_pos⟩
    obtain ⟨r, hr, rfl⟩ := List.mem_map.mp hx
    exact s.weight_nonneg r hr
  have hweight : (s.rows.map fun r => some r.w) = (s.rows.map Row.w).map some := by simp
  refine validateInputs_sample s ⟨_, hw⟩ (fun hn => ?_) rfl
  rw [hweight, validateWeight_some (by simpa using s.rows_ne) hw]

theorem validateInputs_unweighted {s : Sample K} (h : ∀ r ∈ s.rows, r.w = 1) :
    validateInputs { s.inputs with sampleWeight := none } = .ok s := by
  have hones : List.replicate (s.rows.map Row.y).length 1 = s.rows.map Row.w := by
    rw [List.length_map, List.map_congr_left h, List.map_const']
  have hn : 0 < (s.rows.map Row.y).length := by simpa using List.length_pos_iff.mpr s.rows_ne
  obtain ⟨w, hw, hval⟩ : ∃ w, validateWeight _ hn (none : Option (Column K)) = .ok w ∧ w.val = List.replicate _ 1 :=
    ⟨_, rfl, rfl⟩
  exact validateInputs_sample s w (fun _ => hw) (hval.trans hones)

/-- Some of the rows of a sample, where each row weighs one. -/
def Sample.select (s : Sample K) (hone : ∀ r ∈ s.rows, r.w = 1) (rows : List (Row K)) (hne : rows ≠ [])
    (hsub : ∀ r ∈ rows, r ∈ s.rows) : Sample K where
  rows := rows
  rows_ne := hne
  prob_nonneg r hr := s.prob_nonneg r (hsub r hr)
  prob_le r hr := s.prob_le r (hsub r hr)
  weight_nonneg r hr := s.weight_nonneg r (hsub r hr)
  weight_pos := by
    refine total_pos (fun r hr => ?_) hne
    rw [hone r (hsub r hr)]
    exact one_pos

section Accepted

variable {inputs : Inputs K} {s : Sample K} {name : ArrayName} {values : Column K}

/-- The arrays that are accepted pass each check. -/
theorem validateInputs_ok (h : validateInputs inputs = .ok s) :
    ∃ y p w, validateBinary .yTrue inputs.yTrue = .ok y ∧ validateProb y.val.length inputs.yProb = .ok p ∧
      validateWeight y.val.length (List.length_pos_iff.mpr y.property) inputs.sampleWeight = .ok w ∧
      s = Sample.ofArrays y p w := by
  unfold validateInputs at h
  cases hy : validateBinary .yTrue inputs.yTrue with
  | error e =>
      rw [hy] at h
      cases h
  | ok y =>
      rw [hy, ok_bind] at h
      cases hp : validateProb y.val.length inputs.yProb with
      | error e =>
          rw [hp] at h
          cases h
      | ok p =>
          rw [hp, ok_bind] at h
          cases hw : validateWeight y.val.length (List.length_pos_iff.mpr y.property) inputs.sampleWeight with
          | error e =>
              rw [hw] at h
              cases h
          | ok w =>
              rw [hw, ok_bind] at h
              cases h
              exact ⟨y, p, w, rfl, hp, hw, rfl⟩

/-- Rows that come without weights weigh one. -/
theorem weights_one (h : validateInputs inputs = .ok s) (hnone : inputs.sampleWeight = none) : ∀ r ∈ s.rows, r.w = 1 := by
  obtain ⟨y, p, w, -, -, hw, rfl⟩ := validateInputs_ok h
  rw [hnone, validateWeight] at hw
  cases hw
  intro r hr
  have hones : (rowsOf y.val p.val (List.replicate y.val.length 1)).map Row.w = List.replicate y.val.length 1 :=
    rowsOf_w p.property.1 List.length_replicate
  have hmem := List.mem_map_of_mem (f := Row.w) hr
  exact List.eq_of_mem_replicate (hones ▸ hmem)

omit [Field K] [LinearOrder K] [IsStrictOrderedRing K] in
theorem map_reduceOption (h : ∀ v ∈ values, v ≠ none) : values = values.reduceOption.map some := by
  induction values with
  | nil => rfl
  | cons v values ih =>
      obtain ⟨x, rfl⟩ := Option.ne_none_iff_exists'.mp (h v List.mem_cons_self)
      rw [List.reduceOption_cons_of_some, List.map_cons, ← ih fun v hv => h v (List.mem_cons_of_mem _ hv)]

omit [Field K] [LinearOrder K] [IsStrictOrderedRing K] in
theorem as1dFloat_ok {xs : { xs : List K // xs ≠ [] }} (h : as1dFloat name values = .ok xs) :
    values = xs.val.map some := by
  unfold as1dFloat at h
  split at h
  · cases h
  · split at h
    · cases h
    · rename_i hany
      cases h
      refine map_reduceOption fun v hv hnone => hany ?_
      exact List.any_eq_true.mpr ⟨v, hv, by rw [hnone]; rfl⟩

omit [IsStrictOrderedRing K] in
theorem validateBinary_ok {y : { ys : List Bool // ys ≠ [] }} (h : validateBinary name values = .ok y) :
    values = y.val.map fun b => some (if b then 1 else 0) := by
  unfold validateBinary at h
  cases harr : as1dFloat name values with
  | error e =>
      rw [harr] at h
      cases h
  | ok arr =>
      rw [harr, ok_bind] at h
      dsimp only at h
      split at h
      · rename_i hbad
        cases h
        rw [as1dFloat_ok harr, List.map_map]
        refine List.map_congr_left fun x hx => ?_
        have hbin := List.filter_eq_nil_iff.mp hbad x hx
        by_cases h1 : x = 1
        · simp [h1]
        · have h0 : x = 0 := by simpa [h1] using hbin
          simp [h0]
      · cases h

omit [IsStrictOrderedRing K] in
theorem validateProb_ok {n : Nat} {p : { p : List K // p.length = n ∧ ∀ x ∈ p, 0 ≤ x ∧ x ≤ 1 }}
    (h : validateProb n values = .ok p) : values = p.val.map some := by
  unfold validateProb at h
  cases harr : as1dFloat .yProb values with
  | error e =>
      rw [harr] at h
      cases h
  | ok arr =>
      rw [harr, ok_bind] at h
      split at h
      · split at h
        · cases h
          exact as1dFloat_ok harr
        · cases h
      · cases h

/-- The sample has the labels and probabilities of the arrays. -/
theorem columns_eq (h : validateInputs inputs = .ok s) :
    inputs.yTrue = s.inputs.yTrue ∧ inputs.yProb = s.inputs.yProb := by
  obtain ⟨y, p, w, hy, hp, -, rfl⟩ := validateInputs_ok h
  have hlabels := congrArg (List.map fun b => some (if b then (1 : K) else 0)) (rowsOf_y p.property.1 w.property.1)
  have hprobs := congrArg (List.map some) (rowsOf_p p.property.1 w.property.1)
  rw [List.map_map] at hlabels hprobs
  rw [validateBinary_ok hy, validateProb_ok hp, ← hlabels, ← hprobs]
  exact ⟨rfl, rfl⟩

end Accepted

def sampleRows : Sample ℚ where
  rows := [⟨false, 1 / 5, 1⟩, ⟨true, 4 / 5, 1⟩]
  rows_ne := List.cons_ne_nil _ _
  prob_nonneg := by norm_num
  prob_le := by norm_num
  weight_nonneg := by simp
  weight_pos := by norm_num [WeightedMean.total]

end RevenueRescue.Evaluation
