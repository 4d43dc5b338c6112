import Mathlib.Logic.Relation

namespace RevenueRescue.Machine

variable {σ α : Type}

/-- Run a list of labels. A label stands for everything the environment
chooses in one step, so a step is a function and `none` means "not enabled". -/
def exec (step : σ → α → Option σ) : σ → List α → Option σ
  | s, [] => some s
  | s, a :: as => (step s a).bind fun t => exec step t as

/-- The states reached from `s` by steps that all meet `P`, a condition on
the label and on the state before the step. -/
inductive Reach (step : σ → α → Option σ) (P : σ → α → Prop) (s : σ) : σ → Prop
  | refl : Reach step P s s
  | tail {t u : σ} {a : α} : Reach step P s t → P t a → step t a = some u → Reach step P s u

def Any (_ : σ) (_ : α) : Prop := True

variable {step : σ → α → Option σ} {P Q : σ → α → Prop} {s t u : σ}

theorem Reach.upgrade (hPQ : ∀ t a, Reach step P s t → P t a → Q t a) (h : Reach step P s t) :
    Reach step Q s t := by
  induction h with
  | refl => exact .refl
  | tail hr hP hs ih => exact .tail ih (hPQ _ _ hr hP) hs

theorem Reach.mono (hPQ : ∀ t a, P t a → Q t a) (h : Reach step P s t) : Reach step Q s t :=
  h.upgrade fun t a _ hP => hPQ t a hP

theorem Reach.any (h : Reach step P s t) : Reach step Any s t := h.mono fun _ _ _ => trivial

theorem Reach.trans (h : Reach step P s t) (h' : Reach step P t u) : Reach step P s u := by
  induction h' with
  | refl => exact h
  | tail _ hP hs ih => exact .tail ih hP hs

theorem Reach.single {a : α} (hP : P s a) (hs : step s a = some t) : Reach step P s t :=
  .tail .refl hP hs

/-- The induction that every invariant goes through: what one allowed step
from a reached state preserves holds in every reached state. -/
theorem Reach.invariant {I : σ → Prop} (h : Reach step P s t) (h0 : I s)
    (hstep : ∀ t a u, Reach step P s t → I t → P t a → step t a = some u → I u) : I t := by
  induction h with
  | refl => exact h0
  | tail hr hP hs ih => exact hstep _ _ _ hr ih hP hs

theorem exec_append (s : σ) (as bs : List α) :
    exec step s (as ++ bs) = (exec step s as).bind fun t => exec step t bs := by
  induction as generalizing s with
  | nil => rfl
  | cons a as ih =>
      rw [List.cons_append, exec, exec, Option.bind_assoc]
      exact congrArg _ (funext ih)

theorem reach_of_exec_forall (as : List α) (hP : ∀ a ∈ as, ∀ t, P t a) (h : exec step s as = some t) :
    Reach step P s t := by
  induction as generalizing s with
  | nil => cases h; exact .refl
  | cons a as ih =>
      obtain ⟨u, hu, ht⟩ := Option.bind_eq_some_iff.mp h
      exact (Reach.single (hP a (by simp) s) hu).trans (ih (fun b hb => hP b (by simp [hb])) ht)

theorem reach_of_exec (as : List α) (h : exec step s as = some t) : Reach step Any s t :=
  reach_of_exec_forall as (fun _ _ _ => trivial) h

theorem reach_getD (as : List α) (hP : ∀ a ∈ as, ∀ t, P t a) (h : (exec step s as).isSome = true) :
    Reach step P s ((exec step s as).getD s) := by
  obtain ⟨t, ht⟩ := Option.isSome_iff_exists.mp h
  rw [ht]
  exact reach_of_exec_forall as hP ht

theorem exec_getD (as : List α) (h : (exec step s as).isSome = true) :
    exec step s as = some ((exec step s as).getD s) := by
  obtain ⟨t, ht⟩ := Option.isSome_iff_exists.mp h
  rw [ht]
  rfl

def execIf (step : σ → α → Option σ) (check : σ → α → Bool) : σ → List α → Option σ :=
  exec fun s a => if check s a then step s a else none

theorem reach_of_execIf {check : σ → α → Bool} (as : List α) (hP : ∀ s a, check s a = true → P s a)
    (h : (execIf step check s as).isSome = true) :
    Reach step P s ((execIf step check s as).getD s) := by
  have hreach : Reach (fun s a => if check s a then step s a else none) Any s
      ((execIf step check s as).getD s) :=
    reach_getD as (fun _ _ _ => trivial) h
  refine hreach.invariant (I := Reach step P s) .refl fun t a u _ ih _ hs => ?_
  split at hs
  · exact .tail ih (hP t a (by assumption)) hs
  · cases hs

/-- A condition on the label and the state before it, at every step of a run. -/
def Along (step : σ → α → Option σ) (P : σ → α → Prop) : σ → List α → Prop
  | _, [] => True
  | s, a :: as => P s a ∧ ∀ t, step s a = some t → Along step P t as

theorem reach_of_exec_along (as : List α) (hP : Along step P s as) (h : exec step s as = some t) :
    Reach step P s t := by
  induction as generalizing s with
  | nil => cases h; exact .refl
  | cons a as ih =>
      obtain ⟨u, hu, ht⟩ := Option.bind_eq_some_iff.mp h
      exact (Reach.single hP.1 hu).trans (ih (hP.2 u hu) ht)

theorem along_of_forall (as : List α) (hP : ∀ a ∈ as, ∀ t, P t a) : Along step P s as := by
  induction as generalizing s with
  | nil => trivial
  | cons a as ih => exact ⟨hP a (by simp) s, fun t _ => ih fun b hb => hP b (by simp [hb])⟩

theorem Along.and (as : List α) (hP : Along step P s as) (hQ : Along step Q s as) :
    Along step (fun s a => P s a ∧ Q s a) s as := by
  induction as generalizing s with
  | nil => trivial
  | cons a as ih => exact ⟨⟨hP.1, hQ.1⟩, fun t ht => ih (hP.2 t ht) (hQ.2 t ht)⟩

/-- What a run shows about its end holds along it, when a step that breaks it
cannot be made good. -/
theorem along_of_end (I bad : σ → Prop) (hI : ∀ s a t, I s → Q s a → P s a → step s a = some t → I t)
    (hbad : ∀ s a t, I s → Q s a → ¬ P s a → step s a = some t → bad t)
    (hstay : ∀ s a t, bad s → Q s a → step s a = some t → bad t)
    (as : List α) (h0 : I s) (hQ : Along step Q s as) (h : exec step s as = some t) (hend : ¬ bad t) :
    Along step P s as := by
  induction as generalizing s with
  | nil => trivial
  | cons a as ih =>
      obtain ⟨u, hu, ht⟩ := Option.bind_eq_some_iff.mp h
      have hgood : ¬ bad u := fun hb =>
        hend ((reach_of_exec_along as (hQ.2 u hu) ht).invariant hb fun v b w _ hv hq hs => hstay v b w hv hq hs)
      have hP : P s a := Classical.byContradiction fun hn => hgood (hbad s a u h0 hQ.1 hn hu)
      refine ⟨hP, fun v hv => ?_⟩
      obtain rfl := Option.some.inj (hu.symm.trans hv)
      exact ih (hI s a u h0 hQ.1 hP hu) (hQ.2 u hu) ht

end RevenueRescue.Machine
