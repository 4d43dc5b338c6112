import RevenueRescue.Policies.Engine

namespace RevenueRescue.PolicyTightening

open Enums PolicySchema PolicyEngine PyFloat

/-- `q` is at least as strict as `p`, field by field. -/
structure Stricter (p q : PolicyConfig) : Prop where
  maxRetries : q.limits.maxRetries ≤ p.limits.maxRetries
  maxAmount : q.limits.maxAutoRecoveryAmountPaise ≤ p.limits.maxAutoRecoveryAmountPaise
  minInterval : p.limits.minRetryIntervalHours ≤ q.limits.minRetryIntervalHours
  respectOptOut : p.communication.respectOptOut = true → q.communication.respectOptOut = true
  maxMessages : q.communication.maxMessagesPerCase ≤ p.communication.maxMessagesPerCase
  maxCheckoutMessages :
    q.communication.maxCheckoutRecoveryMessages ≤ p.communication.maxCheckoutRecoveryMessages
  abandonmentTimeout : p.checkout.abandonmentTimeoutMinutes ≤ q.checkout.abandonmentTimeoutMinutes
  maxRecoveryMessages : q.checkout.maxRecoveryMessages ≤ p.checkout.maxRecoveryMessages
  minCheckoutAmount : p.checkout.minCheckoutAmountPaise ≤ q.checkout.minCheckoutAmountPaise
  afterFailedRetries : q.escalation.afterFailedRetries ≤ p.escalation.afterFailedRetries
  highValue : q.escalation.highValueThresholdPaise ≤ p.escalation.highValueThresholdPaise
  unknownFailure : p.escalation.unknownFailure = true → q.escalation.unknownFailure = true
  lowConfidence : AtMost p.escalation.lowConfidenceThreshold q.escalation.lowConfidenceThreshold
  stopOnPaymentSuccess : p.stopping.stopOnPaymentSuccess = true → q.stopping.stopOnPaymentSuccess = true
  stopOnOptOut : p.stopping.stopOnOptOut = true → q.stopping.stopOnOptOut = true
  stopOnSuspension : p.stopping.stopOnSuspension = true → q.stopping.stopOnSuspension = true

/-- An optional number that has not become absent and has not risen. It may
have been absent before. -/
def NotRaised (before after : Option PyFloat) : Prop :=
  ∀ x, before = some x → ∃ y, after = some y ∧ AtMost y x

/-- `d` is at least as bad as `c`, for the same action and amount. -/
structure Worse (c d : AuthorizationContext) : Prop where
  action : d.actionType = c.actionType
  amount : d.amountPaise = c.amountPaise
  failureReason : d.failureReason = c.failureReason
  retries : c.retryCount ≤ d.retryCount
  messages : c.communicationCount ≤ d.communicationCount
  checkoutMessages : c.checkoutRecoveryMessageCount ≤ d.checkoutRecoveryMessageCount
  confidence : NotRaised c.diagnosisConfidence d.diagnosisConfidence
  hours : NotRaised c.hoursSinceLastAttempt d.hoursSinceLastAttempt
  optedOut : c.customerOptedOut = true → d.customerOptedOut = true
  suspended : c.customerSuspended = true → d.customerSuspended = true
  recovered : c.caseIsRecovered = true → d.caseIsRecovered = true
  paid : c.paymentAlreadySucceeded = true → d.paymentAlreadySucceeded = true
  timeout : d.checkoutTimeoutElapsed = true → c.checkoutTimeoutElapsed = true

variable {p q : PolicyConfig} {c d : AuthorizationContext}

theorem flag_off {a b : Bool} (h : a = true → b = true) (hb : b = false) : a = false := by
  cases a with
  | false => rfl
  | true => rw [h rfl] at hb; cases hb

theorem both_off {a b a' b' : Bool} (ha : a = true → a' = true) (hb : b = true → b' = true)
    (h : (a' && b') = false) : (a && b) = false := by
  apply flag_off _ h
  simp only [Bool.and_eq_true]
  exact And.imp ha hb

theorem givenBelow_of_notRaised {before after : Option PyFloat} {low high : PyFloat}
    (hx : NotRaised before after) (hb : AtMost low high) (h : givenBelow before low = true) :
    givenBelow after high = true := by
  cases before with
  | none => cases h
  | some x =>
      obtain ⟨y, rfl, hy⟩ := hx x rfl
      exact lt_of_lt_of_atMost (lt_of_atMost_of_lt hy h) hb

theorem ofInt_atMost {m n : Int} (h : m ≤ n) : AtMost (ofInt m) (ofInt n) := by
  rcases h.eq_or_lt with rfl | h
  · exact .inl rfl
  · exact .inr (by simpa [ofInt] using h)

/-- Each rule that lets the worse context pass lets the better one pass. -/
theorem permits_of_permits (hs : Stricter p q) (hw : Worse c d) (h : Permits q d) : Permits p c where
  notRecovered := flag_off hw.recovered h.notRecovered
  notPaid := both_off hs.stopOnPaymentSuccess hw.paid h.notPaid
  notOptedOut := both_off hs.stopOnOptOut hw.optedOut h.notOptedOut
  notSuspended := both_off hs.stopOnSuspension hw.suspended h.notSuspended
  amount_le := by
    have := h.amount_le
    have := hs.maxAmount
    have := hw.amount
    omega
  amount_pos := hw.amount ▸ h.amount_pos
  retries := by
    intro ha
    have := h.retries (hw.action ▸ ha)
    have := hs.maxRetries
    have := hw.retries
    omega
  messages := by
    intro ha
    have := h.messages (hw.action ▸ ha)
    have := hs.maxMessages
    have := hw.messages
    omega
  checkout := by
    intro ha
    obtain ⟨helapsed, hamount, hcount⟩ := h.checkout (hw.action.trans ha)
    have := hs.minCheckoutAmount
    have := hs.maxRecoveryMessages
    have := hw.amount
    have := hw.checkoutMessages
    exact ⟨hw.timeout helapsed, by omega, by omega⟩
  interval := fun ha => flag_off
    (givenBelow_of_notRaised hw.hours (ofInt_atMost hs.minInterval))
    (h.interval (hw.action ▸ ha))
  known := fun hk => h.known ⟨hw.failureReason.trans hk.1, hs.unknownFailure hk.2⟩
  confident := flag_off (givenBelow_of_notRaised hw.confidence hs.lowConfidence) h.confident

theorem tightening_never_approves (hs : Stricter p q) (hw : Worse c d)
    (h : (authorize p c).decision ≠ .approved) : (authorize q d).decision ≠ .approved := by
  rw [Ne, authorize_approved_iff] at h ⊢
  exact mt (permits_of_permits hs hw) h

def lenientPolicy : PolicyConfig := { merchantDefault with stopping := { stopOnOptOut := false } }

def exhaustedRetry : AuthorizationContext where
  caseId := "case_1"
  actionType := .retryPayment
  amountPaise := 100000
  retryCount := 3
  communicationCount := 0
  customerOptedOut := false
  customerSuspended := false
  caseIsRecovered := false
  paymentAlreadySucceeded := false
  failureReason := .gatewayTemporary
  diagnosisConfidence := some (.ofInt 1)

def exhaustedOptedOut : AuthorizationContext :=
  { exhaustedRetry with customerOptedOut := true, diagnosisConfidence := some (.num (mkRat 1 2)) }

theorem tightening_never_approves_sample :
    (authorize merchantDefault exhaustedOptedOut).decision ≠ .approved := by
  refine tightening_never_approves (p := lenientPolicy) (c := exhaustedRetry) ?_ ?_ ?_
  · constructor <;> first | exact le_rfl | exact .inl rfl | simp [lenientPolicy, merchantDefault]
  · constructor
    case confidence =>
      rintro x ⟨rfl⟩
      exact ⟨_, rfl, .inr (by decide +kernel)⟩
    case hours =>
      intro x hx
      cases hx
    all_goals first | rfl | exact le_rfl | simp [exhaustedOptedOut, exhaustedRetry]
  · decide +kernel

end RevenueRescue.PolicyTightening
