import RevenueRescue.Agents.Cycle
import RevenueRescue.Agents.Gate
import RevenueRescue.Backend.RecoveryService

namespace RevenueRescue.Restrictions

open Enums PolicySchema PolicyEngine Providers AgentSchemas NodeUtils DeterministicNodes
open RecoveryGraph GraphEffects PolicyGate RecoveryCycle Models RecoveryService Machine

/-- What keeps every action from a case, whatever is proposed for it. -/
def Barred (policy : PolicyConfig) (case : RecoveryCase) : Prop :=
  case.isRecovered = true ∨ case.amountAtRiskPaise ≤ 0 ∨
    policy.limits.maxAutoRecoveryAmountPaise < case.amountAtRiskPaise ∨
    (case.failureReason = .unknown ∧ policy.escalation.unknownFailure = true)

/-- The customer of the case has opted out of communication or is suspended. -/
def Restricted (db : Db) (case : RecoveryCase) : Prop :=
  ∃ customer, db.customers.find case.customerId = some customer ∧
    (customer.optedOutCommunication = true ∨ customer.isSuspended = true)

variable {policy : PolicyConfig} {limit : Nat} {db : Db} {run : AgentRun} {case : RecoveryCase}
variable {runId : Uuid} {r : Run}

theorem barred_quiet (hb : Barred policy case)
    (h : Reach (step policy limit) Any (start (initialState case runId)) r) :
    calls acts r.trace = 0 := by
  refine h.invariant (I := fun r => calls acts r.trace = 0) rfl fun r w r' hr hi _ hs => ?_
  have quiet {n : Node} {effect : Option Effect} (hn : r.next = .node n)
      (hsrc : ∀ x, effect = some x → Source policy r.state w n x) : effect.any acts = false := by
    cases effect with
    | none => rfl
    | some x =>
        by_contra hx
        obtain ⟨-, strat, -, -, hp⟩ :=
          acting_permitted (inv_of_reach hr) hn (hsrc x rfl) (by simpa using hx)
        have hin := inputs_of_reach hr
        have hamount : r.state.amountPaise = case.amountAtRiskPaise := congrArg Inputs.amountPaise hin
        have hreason : r.state.failureReason = case.failureReason := congrArg Inputs.failureReason hin
        rcases hb with hb | hb | hb | ⟨hb, hf⟩
        · have := hp.notRecovered.symm.trans (recovered_of_reach hr hb)
          cases this
        · exact absurd (hamount ▸ hp.amount_pos) (not_lt.mpr hb)
        · exact absurd (hamount ▸ hp.amount_le) (not_le.mpr hb)
        · exact hp.known ⟨hreason.trans hb, hf⟩
  cases step_cases hs with
  | gaveUp => exact hi
  | raised hn _ hsrc => simp [quiet hn hsrc, hi]
  | returned hn _ hsrc _ => simp [quiet hn hsrc, hi]

theorem reach_proposal (limit : Nat) (runId : Uuid) (hb : ¬ Barred policy case) (hl : 3 ≤ limit) (time : ℚ) :
    ∃ t trace, Reach (step policy limit) (At time) (start (initialState case runId))
        ⟨.node .strategy, t, trace⟩ ∧
      trace.length = 3 ∧ (∀ kind, calls kind trace = 0) ∧
      standing t = { standing (initialState case runId) with caseDiagnosis := some certainDiagnosis } ∧
      t.replanCount = 0 := by
  simp only [Barred, not_or, not_le] at hb
  exact reach_opening policy limit (s := initialState case runId) (Bool.eq_false_of_not_eq_true hb.1) rfl hb.2.1 rfl rfl hl
    certainDiagnosis time

theorem permits_of_standing {s : AgentState} {strat : StrategyOutput} {retryCount : Int}
    (hb : ¬ Barred policy case)
    (hs : standing s = { standing (initialState case runId) with
      caseDiagnosis := some certainDiagnosis, retryCount := retryCount })
    (hx : strat.recoveryStrategy = .paymentMethodUpdate ∨
      strat.recoveryStrategy = .retryNow ∧ retryCount < policy.limits.maxRetries) :
    Permits policy (policyContext s strat) := by
  simp only [Barred, not_or, not_le, not_lt] at hb
  obtain ⟨hrec, hpos, hle, hknown⟩ := hb
  have hin := congrArg Standing.inputs hs
  have hamount : s.amountPaise = case.amountAtRiskPaise := congrArg Inputs.amountPaise hin
  have hreason : s.failureReason = case.failureReason := congrArg Inputs.failureReason hin
  have hretry : s.retryCount = retryCount := congrArg Standing.retryCount hs
  have haction : strat.recoveryStrategy = .paymentMethodUpdate ∨ strat.recoveryStrategy = .retryNow :=
    hx.imp_right And.left
  constructor
  · exact (congrArg Standing.caseIsRecovered hs).trans (Bool.eq_false_of_not_eq_true hrec)
  · simp [policyContext, show s.paymentAlreadySucceeded = false from
      congrArg Inputs.paymentAlreadySucceeded hin]
  · simp [policyContext, show s.customerOptedOut = false from congrArg Inputs.customerOptedOut hin]
  · simp [policyContext, show s.customerSuspended = false from congrArg Inputs.customerSuspended hin]
  · exact hamount.le.trans hle
  · exact hpos.trans_eq hamount.symm
  · intro hr
    rcases hx with hx | ⟨-, hlt⟩
    · simp [policyContext, hx, strategyToActionType, isRetry] at hr
    · exact hretry.trans_lt hlt
  · intro hc
    rcases haction with ha | ha <;> simp [policyContext, ha, strategyToActionType, isCapped] at hc
  · intro hc
    rcases haction with ha | ha <;> simp [policyContext, ha, strategyToActionType] at hc
  · intro _
    simp [policyContext, givenBelow, show s.hoursSinceLastAttempt = none from
      congrArg Inputs.hoursSinceLastAttempt hin]
  · exact fun hc => hknown ⟨hreason ▸ hc.1, hc.2⟩
  · simp only [policyContext, show s.caseDiagnosis = some certainDiagnosis from
      congrArg Standing.caseDiagnosis hs]
    exact PyFloat.not_one_lt policy.escalation.confidence_bound

/-- Under a policy that stops for both restrictions, an attempt for a case of a
restricted customer makes no payment attempt and sends no message. -/
def HonoursRestrictions (policy : PolicyConfig) (db : Db) (runId : Uuid) : Prop :=
  policy.stopping.stopOnOptOut = true → policy.stopping.stopOnSuspension = true →
    ∀ run case, loadAttempt db runId = some (run, case) → Restricted db case →
      ∀ r, Reach (step policy recursionLimit) Any (start (initialState case run.id)) r →
        calls acts r.trace = 0

/-- Customer restrictions: nothing of the customer row reaches the graph, so an
attempt leaves a restricted customer alone exactly when the case itself bars
every action. -/
theorem restrictions_honoured_iff (hload : loadAttempt db runId = some (run, case))
    (hr : Restricted db case) (ho : policy.stopping.stopOnOptOut = true)
    (hs : policy.stopping.stopOnSuspension = true) :
    HonoursRestrictions policy db runId ↔ Barred policy case := by
  constructor
  swap
  · intro hb _ _ run' case' hload' _ r h
    obtain ⟨rfl, rfl⟩ := Prod.mk.inj (Option.some.inj (hload.symm.trans hload'))
    exact barred_quiet hb h
  intro hquiet
  by_contra hb
  obtain ⟨t, trace, h1, hlen, hcalls, hst, -⟩ :=
    reach_proposal recursionLimit run.id hb (by decide) 0
  have happ : (authorize policy (policyContext t (proposal .paymentMethodUpdate))).decision = .approved :=
    (authorize_approved_iff policy _).mpr
      (permits_of_standing hb hst (.inl rfl))
  obtain ⟨u, e, f, h2, he, hf, -, -, hd, hx⟩ := reach_approved policy recursionLimit trace
    (congrArg Standing.caseDiagnosis hst) happ (by rw [hlen]; decide) 0
  obtain ⟨r', g, h3, htr, hg⟩ := reach_acted policy recursionLimit
    (e :: f :: trace) hd (by rw [hx]; rfl) (by simp only [List.length_cons, hlen]; decide) 0
  have := hquiet ho hs run case hload hr r' ((h1.trans h2).trans h3).any
  simp [htr, hg] at this

def sampleCase : RecoveryCase where
  id := .ofDigit 1
  customerId := .ofDigit 2
  scenario := .failedPayment
  failureReason := .gatewayTemporary
  amountAtRiskPaise := 100000
  sourceEventKey := "evt_1"

def sampleAgentRun : AgentRun where
  id := .ofDigit 3
  recoveryCaseId := .ofDigit 1

def restrictedDb : Db where
  customers := ⟨[{ id := .ofDigit 2, optedOutCommunication := true }], by decide⟩
  cases := ⟨[sampleCase], by decide⟩
  runs := ⟨[sampleAgentRun], by decide⟩

theorem restrictedDb_load : loadAttempt restrictedDb (.ofDigit 3) = some (sampleAgentRun, sampleCase) := rfl

theorem restrictedDb_restricted : Restricted restrictedDb sampleCase := ⟨_, rfl, .inl rfl⟩

theorem restrictions_honoured_iff_sample :
    HonoursRestrictions samplePolicy restrictedDb (.ofDigit 3) ↔ Barred samplePolicy sampleCase :=
  restrictions_honoured_iff restrictedDb_load restrictedDb_restricted rfl rfl

def messagingRun : Run :=
  (exec (step samplePolicy recursionLimit) (start (initialState sampleCase sampleAgentRun.id))
    (sampleCycle .paymentMethodUpdate {})).getD (start sampleState)

theorem restriction_ignored : ¬ HonoursRestrictions samplePolicy restrictedDb (.ofDigit 3) := by
  intro h
  have hreach : Reach (step samplePolicy recursionLimit) Any
      (start (initialState sampleCase sampleAgentRun.id)) messagingRun :=
    reach_of_exec (sampleCycle .paymentMethodUpdate {}) rfl
  have := h rfl rfl _ _ restrictedDb_load restrictedDb_restricted _ hreach
  exact absurd this (by decide +kernel)

end RevenueRescue.Restrictions
