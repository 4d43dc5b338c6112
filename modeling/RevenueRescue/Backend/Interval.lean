import Mathlib.Tactic.Linarith
import RevenueRescue.Agents.Accounting
import RevenueRescue.Backend.Restrictions

namespace RevenueRescue.RetryInterval

open Enums PolicySchema PolicyEngine Providers AgentSchemas NodeUtils DeterministicNodes
open RecoveryGraph GraphEffects PolicyGate RunAccounting RecoveryCycle Models RecoveryService Restrictions Machine

/-- Every answer arrives in the hours from `t0` on that the policy wants between two retries. -/
def Within (policy : PolicyConfig) (t0 : ℚ) (_ : Run) (w : NodeInput) : Prop :=
  t0 ≤ w.time ∧ w.time < t0 + policy.limits.minRetryIntervalHours

/-- The minimum interval, for a run that starts at `t0` when the latest payment
attempt for its case was made at `previous`. -/
def KeepsInterval (policy : PolicyConfig) (case : RecoveryCase) (runId : Uuid) (t0 : ℚ)
    (previous : Option ℚ) : Prop :=
  ∀ r, Reach (step policy recursionLimit) (Within policy t0) (start (initialState case runId)) r →
    calls isRetryNow r.trace ≤ 1 ∧
      ∀ p ∈ previous, (∀ e ∈ r.trace, e.time < p + policy.limits.minRetryIntervalHours) →
        calls isRetryNow r.trace = 0

/-- What keeps the interval: the case bars every action, or the retries run
out before the interval can be broken. -/
def NoSecondRetry (policy : PolicyConfig) (case : RecoveryCase) (t0 : ℚ) (previous : Option ℚ) : Prop :=
  Barred policy case ∨ policy.limits.maxRetries ≤ case.retryCount ∨
    (policy.limits.maxRetries ≤ case.retryCount + 1 ∧
      ∀ p ∈ previous, p + policy.limits.minRetryIntervalHours ≤ t0)

variable {policy : PolicyConfig} {limit : Nat} {case : RecoveryCase} {runId : Uuid} {t0 : ℚ}
variable {previous : Option ℚ} {s : AgentState} {r : Run}

theorem isRetryNow_le (trace : List Execution) : calls isRetryNow trace ≤ calls isPayment trace :=
  calls_le (fun x hx => by cases x <;> first | rfl | cases hx) trace

theorem isRetryNow_le_acts (trace : List Execution) : calls isRetryNow trace ≤ calls acts trace :=
  calls_le (fun x hx => by cases x <;> first | rfl | cases hx) trace

theorem keepsInterval_of_noSecondRetry (h : NoSecondRetry policy case t0 previous) :
    KeepsInterval policy case runId t0 previous := by
  intro r hreach
  have hle := isRetryNow_le r.trace
  rcases h with hb | hmax | ⟨hmax, hprev⟩
  · have hquiet := barred_quiet hb hreach.any
    have hall := isRetryNow_le_acts r.trace
    exact ⟨by omega, fun _ _ _ => by omega⟩
  · have hcap := payments_capped hreach.any
    have hretry : (initialState case runId).retryCount = case.retryCount := rfl
    exact ⟨by omega, fun _ _ _ => by omega⟩
  · have hcap := payments_capped hreach.any
    have hretry : (initialState case runId).retryCount = case.retryCount := rfl
    refine ⟨by omega, fun p hp hall => ?_⟩
    have htimes : ∀ e ∈ r.trace, t0 ≤ e.time :=
      times_of_reach hreach (fun _ _ hw => hw.1) (by simp [start])
    -- An execution in the interval after the previous attempt would come before the run.
    cases htrace : r.trace with
    | nil => rfl
    | cons e past =>
        have hlate := htimes e (by simp [htrace])
        have hearly := hall e (by simp [htrace])
        linarith [hprev p hp]

theorem reach_retry (limit : Nat) {t : AgentState} {trace : List Execution} {retryCount : Int}
    (hb : ¬ Barred policy case) (hretry : retryCount < policy.limits.maxRetries)
    (hst : standing t = { standing (initialState case runId) with
      caseDiagnosis := some certainDiagnosis, retryCount := retryCount })
    (hl : trace.length + 1 < limit) (time : ℚ) :
    ∃ u e f, Reach (step policy limit) (At time) ⟨.node .strategy, t, trace⟩
        ⟨.node .actionExecution, u, e :: f :: trace⟩ ∧
      calls isRetryNow (e :: f :: trace) = calls isRetryNow trace ∧ standing u = standing t ∧
      u.replanCount = t.replanCount ∧ u.policyResult.map (·.decision) = some .approved ∧
      executed u = .retryNow := by
  have happ : (authorize policy (policyContext t (proposal .retryNow))).decision = .approved :=
    (authorize_approved_iff policy _).mpr (permits_of_standing hb hst (.inr ⟨rfl, hretry⟩))
  obtain ⟨u, e, f, h, he, hf, hsu, hru, hd, hx⟩ :=
    reach_approved policy limit trace (congrArg Standing.caseDiagnosis hst) happ hl time
  have hle := isRetryNow_le_acts [e]
  refine ⟨u, e, f, h, ?_, hsu, hru, hd, hx⟩
  simp only [calls_cons, calls_nil, he] at hle
  simp only [calls_cons, hf, Option.any_none]
  simp at hle ⊢
  exact hle

theorem reach_one_retry (hb : ¬ Barred policy case) (hretry : case.retryCount < policy.limits.maxRetries)
    (runId : Uuid) (time : ℚ) :
    ∃ t trace, Reach (step policy recursionLimit) (At time) (start (initialState case runId))
        ⟨.node .strategy, t, trace⟩ ∧
      trace.length = 9 ∧ calls isRetryNow trace = 1 ∧
      standing t = { standing (initialState case runId) with
        caseDiagnosis := some certainDiagnosis, retryCount := case.retryCount + 1 } := by
  obtain ⟨t, trace, h1, hlen, hcalls, hst, hrep⟩ :=
    reach_proposal recursionLimit runId hb (by decide) time
  obtain ⟨u, e, f, h2, hnone, hsu, hru, hd, hx⟩ :=
    reach_retry recursionLimit hb hretry hst (by rw [hlen]; decide) time
  have hrec : u.caseIsRecovered = false :=
    (congrArg Standing.caseIsRecovered (hsu.trans hst)).trans
      (Bool.eq_false_of_not_eq_true fun h => hb (.inl h))
  have hmax : u.maxReplans = 3 := congrArg (fun x => x.inputs.maxReplans) (hsu.trans hst)
  obtain ⟨v, trace', h3, hlen', hone, hsv⟩ :=
    reach_retried policy recursionLimit (e :: f :: trace) hd hx hrec
      (by omega) (by simp only [List.length_cons, hlen]; decide) time
  refine ⟨v, trace', (h1.trans h2).trans h3, by simp [hlen', hlen], by rw [hone, hnone, hcalls], ?_⟩
  have hcount : u.retryCount = case.retryCount :=
    congrArg Standing.retryCount (hsu.trans hst)
  rw [hsv, hsu, hst, hcount]

theorem reach_two_retries (hb : ¬ Barred policy case)
    (hretry : case.retryCount + 1 < policy.limits.maxRetries) (runId : Uuid) (time : ℚ) :
    ∃ r, Reach (step policy recursionLimit) (At time) (start (initialState case runId)) r ∧
      calls isRetryNow r.trace = 2 := by
  obtain ⟨t, trace, h1, hlen, hone, hst⟩ := reach_one_retry hb (by omega) runId time
  obtain ⟨u, e, f, h2, hsame, -, -, hd, hx⟩ :=
    reach_retry recursionLimit hb hretry hst (by rw [hlen]; decide) time
  obtain ⟨v, g, h3, hg, -⟩ := reach_observation policy recursionLimit
    (e :: f :: trace) hd hx (by simp only [List.length_cons, hlen]; decide) time
  exact ⟨_, (h1.trans h2).trans h3, by rw [calls_cons, hsame, hone, if_pos hg]⟩

/-- Minimum interval: the hours since the latest attempt never reach the graph,
so the interval is kept exactly when something else prevents the second retry. -/
theorem retry_interval_iff (hpos : 0 < policy.limits.minRetryIntervalHours) :
    KeepsInterval policy case runId t0 previous ↔ NoSecondRetry policy case t0 previous := by
  refine ⟨fun hkeeps => ?_, keepsInterval_of_noSecondRetry⟩
  have hhours : (0 : ℚ) < policy.limits.minRetryIntervalHours := by exact_mod_cast hpos
  have hwithin {r : Run} {w : NodeInput} (hw : At t0 r w) : Within policy t0 r w := by
    have hw : w.time = t0 := hw
    exact ⟨hw.ge, by rw [hw]; linarith⟩
  by_contra h
  simp only [NoSecondRetry, not_or, not_and, not_le, not_forall] at h
  obtain ⟨hb, hretry, hprev⟩ := h
  by_cases hlast : policy.limits.maxRetries ≤ case.retryCount + 1
  · obtain ⟨p, hp, hlate⟩ := hprev hlast
    obtain ⟨t, trace, hreach, -, hone, -⟩ := reach_one_retry hb hretry runId t0
    have htimes := times_of_reach (Q := (· = t0)) hreach (fun _ _ hw => hw) (by simp [start])
    have hnone := (hkeeps _ (hreach.mono fun _ _ hw => hwithin hw)).2 p hp fun e he => by
      rw [htimes e he]; exact hlate
    simp only [hone] at hnone
    exact absurd hnone (by decide)
  · obtain ⟨r, hreach, htwo⟩ := reach_two_retries hb (not_le.mp hlast) runId t0
    have hle := (hkeeps r (hreach.mono fun _ _ hw => hwithin hw)).1
    omega

theorem retry_interval_iff_sample :
    KeepsInterval samplePolicy sampleCase (.ofDigit 3) 0 none ↔
      NoSecondRetry samplePolicy sampleCase 0 none :=
  retry_interval_iff (by decide)

def hastyInputs : List NodeInput :=
  sampleCycle .retryNow { retry := .ok failedRetry } ++ [({} : NodeInput), { payment := .ok failedPayment },
    {}, { strategy := some (sampleStrategy .retryNow) }, {}, { retry := .ok failedRetry }]

def hastyRun : Run :=
  (exec (step samplePolicy recursionLimit) (start (initialState sampleCase (.ofDigit 3))) hastyInputs).getD
    (start sampleState)

theorem retry_interval_broken : ¬ KeepsInterval samplePolicy sampleCase (.ofDigit 3) 0 none := by
  intro h
  have hreach : Reach (step samplePolicy recursionLimit) (Within samplePolicy 0)
      (start (initialState sampleCase (.ofDigit 3))) hastyRun :=
    reach_of_exec_forall hastyInputs
      (by simp [hastyInputs, sampleCycle, Within, samplePolicy, merchantDefault]) rfl
  exact absurd (h _ hreach).1 (by decide +kernel)

end RevenueRescue.RetryInterval
