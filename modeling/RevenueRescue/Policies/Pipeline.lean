import RevenueRescue.Foundation.Cascade
import RevenueRescue.Policies.Engine

namespace RevenueRescue.PolicyPipeline

open Enums PolicySchema PolicyEngine Cascade

abbrev DocumentedRule := Rule AuthorizationContext (PolicyDecision × Violation)

def retryActions : List ActionType := [.retryPayment, .scheduleRetry]

def messageActions : List ActionType :=
  [.sendPaymentReminder, .sendCheckoutRecovery, .changeCommunicationChannel]

def checkoutActions : List ActionType := [.sendCheckoutRecovery]

def onEvery (objects : AuthorizationContext → Bool) (decision : PolicyDecision) (violation : Violation) :
    DocumentedRule :=
  { applies := fun _ => true, objects := objects, verdict := (decision, violation) }

def onThese (actions : List ActionType) (objects : AuthorizationContext → Bool)
    (decision : PolicyDecision) (violation : Violation) : DocumentedRule :=
  { applies := fun ctx => decide (ctx.actionType ∈ actions), objects := objects,
    verdict := (decision, violation) }

/-- The authorization pipeline in the order of `docs/policy-engine.md`. -/
def documented (p : PolicyConfig) : List DocumentedRule :=
  [ onEvery (fun ctx => ctx.caseIsRecovered) .stop .caseAlreadyRecovered,
    onEvery (fun ctx => p.stopping.stopOnPaymentSuccess && ctx.paymentAlreadySucceeded)
      .stop .paymentAlreadySucceeded,
    onEvery (fun ctx => p.stopping.stopOnOptOut && ctx.customerOptedOut) .denied .customerOptOut,
    onEvery (fun ctx => p.stopping.stopOnSuspension && ctx.customerSuspended)
      .denied .customerSuspended,
    onEvery (fun ctx => decide (p.limits.maxAutoRecoveryAmountPaise < ctx.amountPaise))
      .escalate .amountExceedsAutoLimit,
    onEvery (fun ctx => decide (ctx.amountPaise ≤ 0)) .denied .invalidAmount,
    onThese retryActions (fun ctx => decide (p.limits.maxRetries ≤ ctx.retryCount))
      .escalate .maxRetriesExceeded,
    onThese messageActions
      (fun ctx => decide (p.communication.maxMessagesPerCase ≤ ctx.communicationCount))
      .denied .maxCommunicationsExceeded,
    onThese checkoutActions (fun ctx => !ctx.checkoutTimeoutElapsed)
      .denied .checkoutTimeoutNotReached,
    onThese checkoutActions (fun ctx => decide (ctx.amountPaise < p.checkout.minCheckoutAmountPaise))
      .denied .checkoutAmountTooLow,
    onThese checkoutActions
      (fun ctx => decide (p.checkout.maxRecoveryMessages ≤ ctx.checkoutRecoveryMessageCount))
      .denied .maxCheckoutRecoveryMessages,
    onThese retryActions
      (fun ctx => givenBelow ctx.hoursSinceLastAttempt (.ofInt p.limits.minRetryIntervalHours))
      .denied .retryIntervalNotSatisfied,
    onEvery (fun ctx => decide (ctx.failureReason = .unknown) && p.escalation.unknownFailure)
      .escalate .unknownFailureReason,
    onEvery (fun ctx => givenBelow ctx.diagnosisConfidence p.escalation.lowConfidenceThreshold)
      .escalate .lowDiagnosisConfidence ]

/-- The decision and the violations that belong to the outcome of the cascade. -/
def answer : Option (PolicyDecision × Violation) → PolicyDecision × List Violation
  | none => (.approved, [])
  | some (decision, violation) => (decision, [violation])

/-- What of a result is checked against the documentation. -/
structure Reports (r : PolicyEvaluationResult) (outcome : Option (PolicyDecision × Violation)) :
    Prop where
  answer : (r.decision, r.violations) = answer outcome
  allowed : r.allowed = outcome.isNone

variable (p : PolicyConfig) (ctx : AuthorizationContext)

theorem rule_reports {fires : Prop} [Decidable fires] {rule : DocumentedRule}
    {rules : List DocumentedRule} {rest : PolicyEvaluationResult} {decision : PolicyDecision}
    {reason : Reason} {code : Violation} (hv : rule.verdict = (decision, code))
    (hf : rule.fires ctx = true ↔ fires) (hrest : Reports rest (run rules ctx)) :
    Reports (if fires then reject p decision reason code else rest) (run (rule :: rules) ctx) := by
  rw [run_cons]
  by_cases h : fires
  · rw [if_pos h, if_pos (hf.mpr h), hv]
    exact ⟨rfl, rfl⟩
  · rw [if_neg h, if_neg (fun hr => h (hf.mp hr))]
    exact hrest

theorem authorize_reports : Reports (authorize p ctx) (run (documented p) ctx) := by
  unfold authorize runPipeline documented
  iterate 14
    apply rule_reports p ctx
    · rfl
    · simp [Rule.fires, onEvery, onThese, retryActions, messageActions, checkoutActions, isRetry, isCapped]
  exact ⟨rfl, rfl⟩

theorem documented_refuses : ∀ rule ∈ documented p, rule.verdict.1 ≠ .approved := by
  simp [documented, onEvery, onThese]

theorem authorize_silent (h : Silent (documented p) ctx) :
    (authorize p ctx).allowed = true ∧ (authorize p ctx).decision = .approved ∧
      (authorize p ctx).violations = [] := by
  obtain ⟨hanswer, hallowed⟩ := authorize_reports p ctx
  rw [run_eq_none.mpr h] at hanswer hallowed
  obtain ⟨hd, hv⟩ := Prod.mk.inj hanswer
  exact ⟨hallowed, hd, hv⟩

theorem authorize_decides {rule : DocumentedRule} (h : Decides (documented p) ctx rule) :
    (authorize p ctx).allowed = false ∧ (authorize p ctx).decision = rule.verdict.1 ∧
      (authorize p ctx).violations = [rule.verdict.2] := by
  obtain ⟨hanswer, hallowed⟩ := authorize_reports p ctx
  rw [run_of_decides h] at hanswer hallowed
  obtain ⟨hd, hv⟩ := Prod.mk.inj hanswer
  exact ⟨hallowed, hd, hv⟩

theorem approved_iff_silent :
    (authorize p ctx).decision = .approved ↔ Silent (documented p) ctx := by
  constructor
  · intro hd rule hr
    rcases silent_or_decides (documented p) ctx with hs | ⟨first, hfirst⟩
    · exact hs rule hr
    · obtain ⟨-, hd', -⟩ := authorize_decides p ctx hfirst
      exact absurd (hd'.symm.trans hd) (documented_refuses p first (mem_of_decides hfirst))
  · intro hs
    exact (authorize_silent p ctx hs).2.1

/-- The engine answers with the first documented rule that fires. -/
theorem authorize_documented :
    (Silent (documented p) ctx ∨ ∃ rule, Decides (documented p) ctx rule ∧
      (authorize p ctx).decision = rule.verdict.1 ∧ (authorize p ctx).violations = [rule.verdict.2]) ∧
    ((authorize p ctx).allowed = true ↔ (authorize p ctx).decision = .approved) ∧
    ((authorize p ctx).decision = .approved ↔ (authorize p ctx).violations = []) ∧
    ((authorize p ctx).violations = [] ↔ Silent (documented p) ctx) := by
  have hsilent := approved_iff_silent p ctx
  rcases silent_or_decides (documented p) ctx with hs | ⟨rule, hr⟩
  · obtain ⟨ha, hd, hv⟩ := authorize_silent p ctx hs
    exact ⟨.inl hs, by simp [ha, hd], by simp [hd, hv], by simp [hv, hs]⟩
  · obtain ⟨ha, hd, hv⟩ := authorize_decides p ctx hr
    have hne : rule.verdict.1 ≠ .approved := documented_refuses p rule (mem_of_decides hr)
    rw [hd] at hsilent
    exact ⟨.inr ⟨rule, hr, hd, hv⟩, by simp [ha, hd, hne], by simp [hd, hv, hne],
      by simp [hv, ← hsilent, hne]⟩

end RevenueRescue.PolicyPipeline
