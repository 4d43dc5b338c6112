import RevenueRescue.Policies.Pipeline

namespace RevenueRescue.PolicyLimits

open Enums PolicySchema PolicyEngine PolicyPipeline Cascade

/-- The actions that send the customer a message: those that the engine counts,
and the request for a new payment method. -/
def messageActions : List ActionType := .requestPaymentMethodUpdate :: PolicyPipeline.messageActions

variable (p : PolicyConfig) (ctx : AuthorizationContext)

/-- Every restriction that the policy declares for the action of the context. -/
structure Declared : Prop where
  optOut : p.communication.respectOptOut = true → ctx.actionType ∈ messageActions →
    ctx.customerOptedOut = false
  amount : ctx.amountPaise ≤ p.limits.maxAutoRecoveryAmountPaise
  highValue : p.escalation.highValueThresholdPaise < p.limits.maxAutoRecoveryAmountPaise →
    ctx.amountPaise < p.escalation.highValueThresholdPaise
  retries : ctx.actionType ∈ retryActions →
    ctx.retryCount < p.limits.maxRetries ∧ ctx.retryCount < p.escalation.afterFailedRetries
  messages : ctx.actionType ∈ messageActions →
    ctx.communicationCount < p.communication.maxMessagesPerCase
  checkoutMessages : ctx.actionType ∈ checkoutActions →
    ctx.checkoutRecoveryMessageCount < p.checkout.maxRecoveryMessages ∧
      ctx.checkoutRecoveryMessageCount < p.communication.maxCheckoutRecoveryMessages
  checkout : ctx.actionType ∈ checkoutActions →
    ctx.checkoutTimeoutElapsed = true ∧ p.checkout.minCheckoutAmountPaise ≤ ctx.amountPaise
  interval : ctx.actionType ∈ retryActions → ∀ hours, ctx.hoursSinceLastAttempt = some hours →
    PyFloat.le (.ofInt p.limits.minRetryIntervalHours) hours = true
  stopping : (p.stopping.stopOnPaymentSuccess = true → ctx.paymentAlreadySucceeded = false) ∧
    (p.stopping.stopOnOptOut = true → ctx.customerOptedOut = false) ∧
    (p.stopping.stopOnSuspension = true → ctx.customerSuspended = false)
  known : p.escalation.unknownFailure = true → ctx.failureReason ≠ .unknown
  confidence : ∀ confidence, ctx.diagnosisConfidence = some confidence →
    PyFloat.le p.escalation.lowConfidenceThreshold confidence = true

/-- What the engine leaves to its callers: the fields that no rule reads, and
that the floats it compares are numbers. -/
structure Unread : Prop where
  optOut : p.communication.respectOptOut = true → ctx.actionType ∈ messageActions →
    ctx.customerOptedOut = false
  highValue : p.escalation.highValueThresholdPaise < p.limits.maxAutoRecoveryAmountPaise →
    ctx.amountPaise < p.escalation.highValueThresholdPaise
  failedRetries : ctx.actionType ∈ retryActions → ctx.retryCount < p.escalation.afterFailedRetries
  updates : ctx.actionType = .requestPaymentMethodUpdate →
    ctx.communicationCount < p.communication.maxMessagesPerCase
  checkoutMessages : ctx.actionType ∈ checkoutActions →
    ctx.checkoutRecoveryMessageCount < p.communication.maxCheckoutRecoveryMessages
  hours : ctx.actionType ∈ retryActions → ctx.hoursSinceLastAttempt ≠ some .nan
  confidence : ∀ confidence, ctx.diagnosisConfidence = some confidence →
    confidence ≠ .nan ∧ p.escalation.lowConfidenceThreshold ≠ .nan

variable {p ctx}

theorem isRetry_iff {action : ActionType} : isRetry action = true ↔ action ∈ retryActions := by
  simp [isRetry, retryActions]

theorem mem_checkout {action : ActionType} :
    action ∈ checkoutActions ↔ action = .sendCheckoutRecovery := by
  simp [checkoutActions]

theorem isCapped_of_message {action : ActionType} (h : action ∈ messageActions) :
    action = .requestPaymentMethodUpdate ∨ isCapped action = true := by
  rcases List.mem_cons.mp h with h | h
  · exact .inl h
  · exact .inr (by simpa [isCapped, PolicyPipeline.messageActions] using h)

theorem le_of_not_givenBelow {x bound : PyFloat} (h : givenBelow (some x) bound = false)
    (hx : x ≠ .nan) (hb : bound ≠ .nan) : PyFloat.le bound x = true :=
  PyFloat.le_iff.mpr ⟨h, hb, hx⟩

theorem unread_of_declared (h : Declared p ctx) : Unread p ctx where
  optOut := h.optOut
  highValue := h.highValue
  failedRetries := fun ha => (h.retries ha).2
  updates := fun ha => h.messages (by simp [ha, messageActions])
  checkoutMessages := fun ha => (h.checkoutMessages ha).2
  hours := fun ha hnan => (PyFloat.le_iff.mp (h.interval ha .nan hnan)).2.2 rfl
  confidence := fun c hc =>
    have hle := PyFloat.le_iff.mp (h.confidence c hc)
    ⟨hle.2.2, hle.2.1⟩

theorem declared_of_unread (hp : Permits p ctx) (h : Unread p ctx) : Declared p ctx where
  optOut := h.optOut
  amount := hp.amount_le
  highValue := h.highValue
  retries := fun ha => ⟨hp.retries (isRetry_iff.mpr ha), h.failedRetries ha⟩
  messages := by
    intro ha
    rcases isCapped_of_message ha with ha | ha
    · exact h.updates ha
    · exact hp.messages ha
  checkoutMessages := fun ha => ⟨(hp.checkout (mem_checkout.mp ha)).2.2, h.checkoutMessages ha⟩
  checkout := fun ha =>
    have hc := hp.checkout (mem_checkout.mp ha)
    ⟨hc.1, hc.2.1⟩
  interval := by
    intro ha hours hh
    have hi := hp.interval (isRetry_iff.mpr ha)
    rw [hh] at hi
    exact le_of_not_givenBelow hi (fun hn => h.hours ha (hn ▸ hh)) (by simp [PyFloat.ofInt])
  stopping := by
    have h1 := hp.notPaid
    have h2 := hp.notOptedOut
    have h3 := hp.notSuspended
    simp only [Bool.and_eq_false_imp] at h1 h2 h3
    exact ⟨h1, h2, h3⟩
  known := fun hu hr => hp.known ⟨hr, hu⟩
  confidence := by
    intro c hc
    have hi := hp.confident
    rw [hc] at hi
    exact le_of_not_givenBelow hi (h.confidence c hc).1 (h.confidence c hc).2

/-- The limits that the engine does not read hold by chance only. -/
theorem limits_enforced_iff (p : PolicyConfig) (ctx : AuthorizationContext) :
    ((authorize p ctx).decision = .approved → Declared p ctx) ↔
      (∃ rule ∈ documented p, rule.fires ctx = true) ∨ Unread p ctx := by
  constructor
  · intro h
    by_cases hs : Silent (documented p) ctx
    · exact .inr (unread_of_declared (h ((approved_iff_silent p ctx).mpr hs)))
    · left
      simpa [Silent] using hs
  · rintro (⟨rule, hr, hf⟩ | hu) hd
    · rw [(approved_iff_silent p ctx).mp hd rule hr] at hf
      cases hf
    · exact declared_of_unread ((authorize_approved_iff p ctx).mp hd) hu

/-- A policy that respects an opt-out but does not stop the case for it. -/
def respectfulPolicy : PolicyConfig :=
  { merchantDefault with stopping := { stopOnOptOut := false } }

def optedOutReminder : AuthorizationContext where
  caseId := "case_1"
  actionType := .sendPaymentReminder
  amountPaise := 100000
  retryCount := 0
  communicationCount := 0
  customerOptedOut := true
  customerSuspended := false
  caseIsRecovered := false
  paymentAlreadySucceeded := false
  failureReason := .gatewayTemporary

theorem limit_not_enforced : (authorize respectfulPolicy optedOutReminder).decision = .approved ∧
    ¬ Declared respectfulPolicy optedOutReminder := by
  refine ⟨by decide +kernel, ?_⟩
  intro h
  have := h.optOut rfl (by decide)
  cases this

end RevenueRescue.PolicyLimits
