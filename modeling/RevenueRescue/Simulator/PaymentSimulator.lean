import RevenueRescue.Providers.Simulator

namespace RevenueRescue.PaymentSimulator

open Enums SimulatorProvider

/-- The fields of a generated event that the baselines read. Its amount is drawn from a range above zero. -/
structure PaymentEvent where
  eventId : String
  customerId : String
  segment : String
  failureReason : FailureReason
  amountPaise : Int
  currency : String
  amount_pos : 0 < amountPaise

inductive SimulatedOutcome
  | success
  | failed
  | pending
  deriving DecidableEq

structure SimulatedPaymentResult where
  attemptId : String
  transactionId : String
  outcome : SimulatedOutcome
  failureReason : Option String
  amountPaise : Int
  currency : String
  isSynthetic : Bool := true
  notes : String

/-- The arguments of `execute_retry`. -/
structure RetryArguments where
  caseId : String
  customerId : String
  customerSegment : String
  failureReason : FailureReason
  retryNumber : Int
  amountPaise : Int
  currency : String := "INR"

/-- `PaymentSimulator.execute_retry`, where `drawn` numbers have been taken from the stream of its generator; `none` is
the `IndexError` of the table. -/
def executeRetry (random : Nat → ℚ) (drawn : Nat) (args : RetryArguments) (ids : Draws) :
    Option (Nat × SimulatedPaymentResult) :=
  (successProbability args.failureReason args.retryNumber args.customerSegment).map fun adjusted =>
    let success := decide (random drawn < adjusted)
    (drawn + 1, {
      attemptId := attemptId ids
      transactionId := transactionId ids
      outcome := if success then .success else .failed
      failureReason := if success then none else some args.failureReason.value
      amountPaise := args.amountPaise
      currency := args.currency
      notes := "Simulated retry #" ++ toString args.retryNumber ++ " for case " ++ args.caseId })

inductive VerificationOutcome
  | recovered
  | failed
  | pending
  | alreadyRecovered
  deriving DecidableEq

structure VerificationResult where
  outcome : VerificationOutcome
  transactionId : String
  amountRecoveredPaise : Int
  currency : String
  reason : String
  caseId : String

/-- `RecoveryVerifier.verify_payment_attempt`. -/
def verifyPaymentAttempt (caseId : String) (paymentResult : SimulatedPaymentResult) (caseIsAlreadyRecovered : Bool := false) :
    VerificationResult :=
  if caseIsAlreadyRecovered then {
    outcome := .alreadyRecovered
    transactionId := paymentResult.transactionId
    amountRecoveredPaise := 0
    currency := paymentResult.currency
    reason := "Case already marked RECOVERED — idempotency guard"
    caseId := caseId }
  else if paymentResult.outcome = .success then {
    outcome := .recovered
    transactionId := paymentResult.transactionId
    amountRecoveredPaise := paymentResult.amountPaise
    currency := paymentResult.currency
    reason := "Payment verified SUCCESS by simulator — transaction " ++ paymentResult.transactionId
    caseId := caseId }
  else {
    outcome := .failed
    transactionId := paymentResult.transactionId
    amountRecoveredPaise := 0
    currency := paymentResult.currency
    reason := "Payment FAILED — reason: " ++ paymentResult.failureReason.getD "None"
    caseId := caseId }

/-- Whether the first retry of an event goes through, if it takes number `drawn` of the stream. -/
def goesThrough (random : Nat → ℚ) (drawn : Nat) (event : PaymentEvent) : Bool :=
  (successProbability event.failureReason 1 event.segment).any fun adjusted => random drawn < adjusted

theorem successProbability_first (failureReason : FailureReason) (segment : String) :
    ∃ adjusted, successProbability failureReason 1 segment = some adjusted := by
  cases failureReason <;> exact ⟨_, rfl⟩

/-- What a first retry and its verification come to: the stream moves on by one, and the amount is recovered if the retry
goes through. -/
theorem first_retry (random : Nat → ℚ) (drawn : Nat) (event : PaymentEvent) (args : RetryArguments) (ids : Draws)
    (caseId : String) (hreason : args.failureReason = event.failureReason) (hsegment : args.customerSegment = event.segment)
    (hnumber : args.retryNumber = 1) (hamount : args.amountPaise = event.amountPaise) :
    ∃ result, executeRetry random drawn args ids = some (drawn + 1, result) ∧
      (decide ((verifyPaymentAttempt caseId result).outcome = .recovered) = goesThrough random drawn event) ∧
      (verifyPaymentAttempt caseId result).amountRecoveredPaise =
        if goesThrough random drawn event = true then event.amountPaise else 0 := by
  obtain ⟨adjusted, hp⟩ := successProbability_first event.failureReason event.segment
  rw [executeRetry, goesThrough, hreason, hsegment, hnumber, hp]
  refine ⟨_, rfl, ?_⟩
  by_cases hlt : random drawn < adjusted
  · simp [verifyPaymentAttempt, hlt, hamount]
  · simp [verifyPaymentAttempt, hlt]

end RevenueRescue.PaymentSimulator
