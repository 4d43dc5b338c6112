import RevenueRescue.Evaluation.Classification
import RevenueRescue.Foundation.Machine
import RevenueRescue.Foundation.PyFloat

namespace RevenueRescue.MetricResults

open Evaluation Machine

variable {Id Name : Type}

/-- The number that `set` keeps of its argument, which is None or a float. -/
def finite : Option PyFloat → Option ℚ
  | some (.num q) => some q
  | _ => none

/-- The `MetricResult` objects of a program; those not written to yet are empty. -/
abbrev Objects (Id Name : Type) := Id → MetricResult Name ℚ

inductive Operation (Id Name : Type)
  | set (target : Id) (name : Name) (value : Option PyFloat) (reason : Option String)
  | merge (target source : Id)

def empty : Objects Id Name := fun _ => {}

/-- The names under `undefined` are those whose value is None. -/
def Consistent (out : MetricResult Name ℚ) : Prop :=
  ∀ name, (out.undefined name).isSome = true ↔ out.values name = some none

/-- Both maps have for each name what the source has for it, where the source has a value. -/
def LastWriter (target source merged : MetricResult Name ℚ) : Prop :=
  ∀ name, (merged.values name, merged.undefined name) =
    if (source.values name).isSome = true then (source.values name, source.undefined name)
    else (target.values name, target.undefined name)

/-- No number is written over a name that is undefined. -/
def Fresh (objects : Objects Id Name) : Operation Id Name → Prop
  | .set target name value _ => finite value ≠ none → (objects target).undefined name = none
  | .merge target source =>
      ∀ name x, (objects source).values name = some (some x) → (objects target).undefined name = none

variable {objects : Objects Id Name} {out other : MetricResult Name ℚ}

theorem consistent_empty (id : Id) : Consistent ((empty : Objects Id Name) id) := fun _ => by simp [empty]

theorem Consistent.undefined_none (h : Consistent out) {name : Name} (hv : out.values name ≠ some none) :
    out.undefined name = none := by
  rwa [← Option.not_isSome_iff_eq_none, h name]

section Runs

variable [DecidableEq Name]

theorem consistent_set (h : Consistent out) (name : Name) (value : Option ℚ) (reason : Option String) :
    Consistent (out.set name value reason) ↔ (value ≠ none → out.undefined name = none) := by
  constructor
  · intro hc hvalue
    have hname := hc name
    simp only [MetricResult.set_values, MetricResult.set_undefined, if_true, true_and, hvalue, if_false,
      Option.some.injEq, iff_false, Bool.not_eq_true, Option.isSome_eq_false_iff, Option.isNone_iff_eq_none] at hname
    exact hname
  · intro hfresh n
    rw [MetricResult.set_values, MetricResult.set_undefined]
    by_cases hn : n = name
    · subst hn
      by_cases hvalue : value = none
      · simp [hvalue]
      · simp [hvalue, hfresh hvalue]
    · simpa [hn] using h n

omit [DecidableEq Name] in
theorem consistent_merge (h : Consistent out) (ho : Consistent other) :
    Consistent (out.merge other) ↔ ∀ name x, other.values name = some (some x) → out.undefined name = none := by
  constructor
  · intro hc name x hx
    have hother : other.undefined name = none := ho.undefined_none (by simp [hx])
    have hmerged := (hc name).not.mpr (by simp [MetricResult.merge, hx])
    simpa [MetricResult.merge, hother] using hmerged
  · intro hfresh name
    have hname := ho name
    cases hv : other.values name with
    | none =>
        have hother : other.undefined name = none := ho.undefined_none (by simp [hv])
        simpa [MetricResult.merge, hv, hother] using h name
    | some value =>
        cases value with
        | none =>
            have hsome : (other.undefined name).isSome = true := hname.mpr hv
            simp [MetricResult.merge, hv, hsome]
        | some x =>
            have hother : other.undefined name = none := ho.undefined_none (by simp [hv])
            simp [MetricResult.merge, hv, hother, hfresh name x hv]

omit [DecidableEq Name] in
theorem lastWriter_merge (ho : Consistent other)
    (hfresh : ∀ name x, other.values name = some (some x) → out.undefined name = none) :
    LastWriter out other (out.merge other) := by
  intro name
  cases hv : other.values name with
  | none =>
      have hother : other.undefined name = none := ho.undefined_none (by simp [hv])
      simp [MetricResult.merge, hv, hother]
  | some value =>
      cases value with
      | none =>
          obtain ⟨reason, hreason⟩ := Option.isSome_iff_exists.mp ((ho name).mpr hv)
          simp [MetricResult.merge, hv, hreason]
      | some x =>
          have hother : other.undefined name = none := ho.undefined_none (by simp [hv])
          simp [MetricResult.merge, hv, hother, hfresh name x hv]

variable [DecidableEq Id] {op : Operation Id Name}

def apply (objects : Objects Id Name) : Operation Id Name → Objects Id Name
  | .set target name value reason =>
      Function.update objects target ((objects target).set name (finite value) reason)
  | .merge target source => Function.update objects target ((objects target).merge (objects source))

def step (objects : Objects Id Name) (op : Operation Id Name) : Option (Objects Id Name) := some (apply objects op)

/-- The objects are consistent after the step, and a merge follows the last writer. -/
def Sound (objects : Objects Id Name) (op : Operation Id Name) : Prop :=
  (∀ id, Consistent (apply objects op id)) ∧
    ∀ target source, op = .merge target source →
      LastWriter (objects target) (objects source) (apply objects op target)

omit [DecidableEq Name] in
theorem consistent_update (h : ∀ id, Consistent (objects id)) (target : Id) (written : MetricResult Name ℚ) :
    (∀ id, Consistent (Function.update objects target written id)) ↔ Consistent written := by
  constructor
  · intro hall
    simpa using hall target
  · intro hw id
    by_cases hid : id = target
    · subst hid
      simpa using hw
    · simpa [hid] using h id

/-- From consistent objects a step is sound exactly when it writes no number over an undefined name. -/
theorem sound_iff (h : ∀ id, Consistent (objects id)) : Sound objects op ↔ Fresh objects op := by
  cases op with
  | set target name value reason =>
      rw [Sound, apply, consistent_update h, consistent_set (h target), Fresh, and_iff_left]
      rintro _ _ ⟨⟩
  | merge target source =>
      rw [Sound, apply, consistent_update h, consistent_merge (h target) (h source), Fresh]
      refine and_iff_left_of_imp fun hfresh => ?_
      rintro _ _ ⟨⟩
      rw [Function.update_self]
      exact lastWriter_merge (h source) hfresh

theorem sound_run_iff (h : ∀ id, Consistent (objects id)) (ops : List (Operation Id Name)) :
    Along step Sound objects ops ↔ Along step Fresh objects ops := by
  induction ops generalizing objects with
  | nil => exact Iff.rfl
  | cons op ops ih =>
      rw [Along, Along, sound_iff h]
      refine and_congr_right fun hfresh => forall_congr' fun t => forall_congr' fun ht => ?_
      cases ht
      exact ih ((sound_iff h).mpr hfresh).1

theorem results_consistent_iff (ops : List (Operation Id Name)) :
    Along step Sound empty ops ↔ Along step Fresh empty ops :=
  sound_run_iff consistent_empty ops

end Runs

def overwritten : List (Operation Unit String) :=
  [.set () "r2" none (some "target is constant"), .set () "r2" (some (.num 1)) none]

theorem results_inconsistent : ¬ ∀ ops : List (Operation Unit String), Along step Sound empty ops := by
  intro hall
  have hfresh := (results_consistent_iff overwritten).mp (hall overwritten)
  have hname := (hfresh.2 _ rfl).1 (by simp [finite])
  simp [apply, finite, empty] at hname

end RevenueRescue.MetricResults
