import RevenueRescue.Policies.Schema

namespace RevenueRescue.PolicyEngine

open Enums PolicySchema

structure AuthorizationContext where
  caseId : String
  actionType : ActionType
  amountPaise : Int
  retryCount : Int
  communicationCount : Int
  customerOptedOut : Bool
  customerSuspended : Bool
  caseIsRecovered : Bool
  paymentAlreadySucceeded : Bool
  failureReason : FailureReason
  hoursSinceLastAttempt : Option PyFloat := none
  diagnosisConfidence : Option PyFloat := none
  checkoutTimeoutElapsed : Bool := false
  checkoutRecoveryMessageCount : Int := 0
  deriving DecidableEq

def isRetry (action : ActionType) : Bool :=
  decide (action ∈ [ActionType.retryPayment, .scheduleRetry])

def isCapped (action : ActionType) : Bool :=
  decide (action ∈ [ActionType.sendPaymentReminder, .sendCheckoutRecovery, .changeCommunicationChannel])

/-- A float that is given and lies below a bound, as the timing and confidence rules ask. -/
def givenBelow (x : Option PyFloat) (bound : PyFloat) : Bool :=
  match x with
  | some v => PyFloat.lt v bound
  | none => false

variable (p : PolicyConfig) (ctx : AuthorizationContext)

def reject (decision : PolicyDecision) (reason : Reason) (code : Violation) :
    PolicyEvaluationResult :=
  { allowed := false, decision := decision, reason := reason, policyId := p.policyId,
    policyVersion := p.version, violations := [code] }

def deny (reason : Reason) (code : Violation) : PolicyEvaluationResult := reject p .denied reason code

def escalate (reason : Reason) (code : Violation) : PolicyEvaluationResult := reject p .escalate reason code

def stop (reason : Reason) (code : Violation) : PolicyEvaluationResult := reject p .stop reason code

/-- `_run_pipeline`: the rules in the order of the source, the first one that fires decides. -/
def runPipeline : PolicyEvaluationResult :=
  if ctx.caseIsRecovered then
    stop p (.text "Case already RECOVERED — no further actions") .caseAlreadyRecovered
  else if p.stopping.stopOnPaymentSuccess && ctx.paymentAlreadySucceeded then
    stop p (.text "Payment already succeeded") .paymentAlreadySucceeded
  else if p.stopping.stopOnOptOut && ctx.customerOptedOut then
    deny p (.text "Customer opted out of communication") .customerOptOut
  else if p.stopping.stopOnSuspension && ctx.customerSuspended then
    deny p (.text "Customer account suspended") .customerSuspended
  else if p.limits.maxAutoRecoveryAmountPaise < ctx.amountPaise then
    escalate p (.amountExceedsAutoLimit ctx.amountPaise p.limits.maxAutoRecoveryAmountPaise)
      .amountExceedsAutoLimit
  else if ctx.amountPaise ≤ 0 then
    deny p (.text "Invalid amount — must be positive") .invalidAmount
  else if isRetry ctx.actionType ∧ p.limits.maxRetries ≤ ctx.retryCount then
    escalate p (.retryCount ctx.retryCount p.limits.maxRetries) .maxRetriesExceeded
  else if isCapped ctx.actionType ∧ p.communication.maxMessagesPerCase ≤ ctx.communicationCount then
    deny p (.communicationCount ctx.communicationCount p.communication.maxMessagesPerCase)
      .maxCommunicationsExceeded
  else if ctx.actionType = .sendCheckoutRecovery ∧ ctx.checkoutTimeoutElapsed = false then
    deny p (.checkoutTimeout p.checkout.abandonmentTimeoutMinutes) .checkoutTimeoutNotReached
  else if ctx.actionType = .sendCheckoutRecovery ∧ ctx.amountPaise < p.checkout.minCheckoutAmountPaise then
    deny p (.checkoutAmount ctx.amountPaise p.checkout.minCheckoutAmountPaise) .checkoutAmountTooLow
  else if ctx.actionType = .sendCheckoutRecovery ∧
      p.checkout.maxRecoveryMessages ≤ ctx.checkoutRecoveryMessageCount then
    deny p (.checkoutMessages ctx.checkoutRecoveryMessageCount p.checkout.maxRecoveryMessages)
      .maxCheckoutRecoveryMessages
  else if isRetry ctx.actionType ∧
      givenBelow ctx.hoursSinceLastAttempt (.ofInt p.limits.minRetryIntervalHours) then
    deny p (.retryInterval (ctx.hoursSinceLastAttempt.getD .nan) p.limits.minRetryIntervalHours)
      .retryIntervalNotSatisfied
  else if ctx.failureReason = .unknown ∧ p.escalation.unknownFailure then
    escalate p (.text "Unknown failure reason — escalate for human review") .unknownFailureReason
  else if givenBelow ctx.diagnosisConfidence p.escalation.lowConfidenceThreshold then
    escalate p (.lowConfidence (ctx.diagnosisConfidence.getD .nan) p.escalation.lowConfidenceThreshold)
      .lowDiagnosisConfidence
  else
    { allowed := true, decision := .approved, reason := .text "All policy checks passed",
      policyId := p.policyId, policyVersion := p.version }

/-- `authorize`. On a typed context the pipeline raises nothing, save that CPython
does not print an integer of more than 4300 digits in a reason; with that limit
left out, the two fail-closed handlers around it have no case here. -/
def authorize : PolicyEvaluationResult := runPipeline p ctx

structure Permits : Prop where
  notRecovered : ctx.caseIsRecovered = false
  notPaid : (p.stopping.stopOnPaymentSuccess && ctx.paymentAlreadySucceeded) = false
  notOptedOut : (p.stopping.stopOnOptOut && ctx.customerOptedOut) = false
  notSuspended : (p.stopping.stopOnSuspension && ctx.customerSuspended) = false
  amount_le : ctx.amountPaise ≤ p.limits.maxAutoRecoveryAmountPaise
  amount_pos : 0 < ctx.amountPaise
  retries : isRetry ctx.actionType = true → ctx.retryCount < p.limits.maxRetries
  messages : isCapped ctx.actionType = true →
    ctx.communicationCount < p.communication.maxMessagesPerCase
  checkout : ctx.actionType = .sendCheckoutRecovery →
    ctx.checkoutTimeoutElapsed = true ∧ p.checkout.minCheckoutAmountPaise ≤ ctx.amountPaise ∧
      ctx.checkoutRecoveryMessageCount < p.checkout.maxRecoveryMessages
  interval : isRetry ctx.actionType = true →
    givenBelow ctx.hoursSinceLastAttempt (.ofInt p.limits.minRetryIntervalHours) = false
  known : ¬ (ctx.failureReason = .unknown ∧ p.escalation.unknownFailure = true)
  confident : givenBelow ctx.diagnosisConfidence p.escalation.lowConfidenceThreshold = false

theorem reject_ne_approved {decision : PolicyDecision} (h : decision ≠ .approved) (reason : Reason)
    (code : Violation) : (reject p decision reason code).decision ≠ .approved := h

theorem rule_approved_iff {fires : Prop} [Decidable fires] {r rest : PolicyEvaluationResult}
    (hr : r.decision ≠ .approved) :
    (if fires then r else rest).decision = .approved ↔ ¬ fires ∧ rest.decision = .approved := by
  by_cases h : fires <;> simp [h, hr]

/-- The one fact about the engine that callers use. -/
theorem authorize_approved_iff : (authorize p ctx).decision = .approved ↔ Permits p ctx := by
  have hstop (r c) : (stop p r c).decision ≠ .approved := reject_ne_approved p (by decide) r c
  have hdeny (r c) : (deny p r c).decision ≠ .approved := reject_ne_approved p (by decide) r c
  have hesc (r c) : (escalate p r c).decision ≠ .approved := reject_ne_approved p (by decide) r c
  unfold authorize runPipeline
  rw [rule_approved_iff (hstop _ _), rule_approved_iff (hstop _ _), rule_approved_iff (hdeny _ _),
    rule_approved_iff (hdeny _ _), rule_approved_iff (hesc _ _), rule_approved_iff (hdeny _ _),
    rule_approved_iff (hesc _ _), rule_approved_iff (hdeny _ _), rule_approved_iff (hdeny _ _),
    rule_approved_iff (hdeny _ _), rule_approved_iff (hdeny _ _), rule_approved_iff (hdeny _ _),
    rule_approved_iff (hesc _ _), rule_approved_iff (hesc _ _)]
  simp only [Bool.not_eq_true, not_lt, not_le, not_and, and_true]
  constructor
  · rintro ⟨h1, h2, h3, h4, h5, h6, h7, h8, h9, h10, h11, h12, h13, h14⟩
    exact ⟨h1, h2, h3, h4, h5, h6, h7, h8,
      fun ha => ⟨by simpa using h9 ha, h10 ha, h11 ha⟩, h12, by simpa using h13, h14⟩
  · rintro ⟨h1, h2, h3, h4, h5, h6, h7, h8, h9, h10, h11, h12⟩
    exact ⟨h1, h2, h3, h4, h5, h6, h7, h8, fun ha => by simp [h9 ha], fun ha => (h9 ha).2.1,
      fun ha => (h9 ha).2.2, h10, by simpa using h11, h12⟩

def Names (r : PolicyEvaluationResult) : Prop := r.policyId = p.policyId ∧ r.policyVersion = p.version

theorem reject_names (decision : PolicyDecision) (reason : Reason) (code : Violation) :
    Names p (reject p decision reason code) := ⟨rfl, rfl⟩

theorem rule_names {fires : Prop} [Decidable fires] {r rest : PolicyEvaluationResult} (hr : Names p r)
    (hrest : Names p rest) : Names p (if fires then r else rest) := by
  by_cases h : fires
  · rwa [if_pos h]
  · rwa [if_neg h]

theorem authorize_names : Names p (authorize p ctx) := by
  unfold authorize runPipeline
  iterate 14 refine rule_names p (reject_names p _ _ _) ?_
  exact ⟨rfl, rfl⟩

end RevenueRescue.PolicyEngine
