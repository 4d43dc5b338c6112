import RevenueRescue.Enums
import RevenueRescue.Foundation.PyFloat

namespace RevenueRescue.PolicySchema

open Enums

/-- Each section of the policy carries the `Field` bounds that Pydantic
checked when it was built. -/
structure RetryLimits where
  maxRetries : Int := 3
  maxAutoRecoveryAmountPaise : Int := 5000000
  minRetryIntervalHours : Int := 24
  maxRetries_bounds : 0 ≤ maxRetries ∧ maxRetries ≤ 10 := by decide
  amount_bound : 0 ≤ maxAutoRecoveryAmountPaise := by decide
  interval_bound : 0 ≤ minRetryIntervalHours := by decide

structure CommunicationRules where
  respectOptOut : Bool := true
  maxMessagesPerCase : Int := 3
  maxCheckoutRecoveryMessages : Int := 2
  messages_bounds : 0 ≤ maxMessagesPerCase ∧ maxMessagesPerCase ≤ 10 := by decide
  checkout_bounds : 0 ≤ maxCheckoutRecoveryMessages ∧ maxCheckoutRecoveryMessages ≤ 5 := by decide

structure CheckoutRules where
  abandonmentTimeoutMinutes : Int := 30
  maxRecoveryMessages : Int := 2
  minCheckoutAmountPaise : Int := 10000
  timeout_bounds : 5 ≤ abandonmentTimeoutMinutes ∧ abandonmentTimeoutMinutes ≤ 1440 := by decide
  messages_bounds : 0 ≤ maxRecoveryMessages ∧ maxRecoveryMessages ≤ 5 := by decide
  amount_bound : 0 ≤ minCheckoutAmountPaise := by decide

structure EscalationRules where
  afterFailedRetries : Int := 3
  highValueThresholdPaise : Int := 5000000
  unknownFailure : Bool := true
  lowConfidenceThreshold : PyFloat := .num (mkRat 1 2)
  retries_bound : 1 ≤ afterFailedRetries := by decide
  threshold_bound : 0 ≤ highValueThresholdPaise := by decide
  confidence_bound : PyFloat.inUnit lowConfidenceThreshold = true := by decide

structure StoppingRules where
  stopOnPaymentSuccess : Bool := true
  stopOnOptOut : Bool := true
  stopOnSuspension : Bool := true

/-- The versioned merchant policy, as `PolicyConfig` accepts it. -/
structure PolicyConfig where
  policyId : String
  version : Int
  limits : RetryLimits := {}
  communication : CommunicationRules := {}
  checkout : CheckoutRules := {}
  escalation : EscalationRules := {}
  stopping : StoppingRules := {}
  version_bound : 1 ≤ version := by decide

/-- The policy of `merchant_default_v1.json`, which says what the defaults say. -/
def merchantDefault : PolicyConfig := { policyId := "merchant_default_v1", version := 1 }

inductive Violation
  | caseAlreadyRecovered
  | paymentAlreadySucceeded
  | customerOptOut
  | customerSuspended
  | amountExceedsAutoLimit
  | invalidAmount
  | maxRetriesExceeded
  | maxCommunicationsExceeded
  | checkoutTimeoutNotReached
  | checkoutAmountTooLow
  | maxCheckoutRecoveryMessages
  | retryIntervalNotSatisfied
  | unknownFailureReason
  | lowDiagnosisConfidence
  deriving DecidableEq

/-- The reason texts of the program. Those the policy engine formats keep the
numbers they print; every other one is its text. -/
inductive Reason
  | text (s : String)
  | amountExceedsAutoLimit (amount limit : Int)
  | retryCount (count limit : Int)
  | communicationCount (count limit : Int)
  | checkoutTimeout (minutes : Int)
  | checkoutAmount (amount minimum : Int)
  | checkoutMessages (count limit : Int)
  | retryInterval (hours : PyFloat) (minimum : Int)
  | lowConfidence (confidence threshold : PyFloat)
  deriving DecidableEq

/-- How Python prints a float with a number of decimals, and in full. -/
structure FloatFormat where
  fixed : Nat → PyFloat → String
  repr : PyFloat → String

def Reason.toText (fmt : FloatFormat) : Reason → String
  | .text s => s
  | .amountExceedsAutoLimit amount limit =>
      "Amount " ++ toString amount ++ " paise exceeds auto-recovery limit " ++ toString limit ++ " paise"
  | .retryCount count limit =>
      "Retry count " ++ toString count ++ " >= max_retries " ++ toString limit
  | .communicationCount count limit =>
      "Communication count " ++ toString count ++ " >= max " ++ toString limit
  | .checkoutTimeout minutes =>
      "Checkout abandonment timeout not yet reached (required: " ++ toString minutes ++ " min)"
  | .checkoutAmount amount minimum =>
      "Checkout amount " ++ toString amount ++ " below minimum " ++ toString minimum ++ " paise"
  | .checkoutMessages count limit =>
      "Checkout recovery messages " ++ toString count ++ " >= max " ++ toString limit
  | .retryInterval hours minimum =>
      "Only " ++ fmt.fixed 1 hours ++ "h since last attempt; min interval is " ++ toString minimum ++ "h"
  | .lowConfidence confidence threshold =>
      "Diagnosis confidence " ++ fmt.fixed 2 confidence ++ " below threshold " ++ fmt.repr threshold

/-- Whether Python's `or` keeps the text. Only the empty string is falsy. -/
def Reason.truthy : Reason → Bool
  | .text s => s ≠ ""
  | _ => true

theorem append_ne_empty {s : String} (h : s ≠ "") (t : String) : s ++ t ≠ "" := by simp [h]

theorem Reason.truthy_iff (fmt : FloatFormat) (reason : Reason) :
    reason.truthy = true ↔ reason.toText fmt ≠ "" := by
  cases reason with
  | text s => exact decide_eq_true_iff
  | checkoutTimeout => exact iff_of_true rfl (append_ne_empty (append_ne_empty (by decide) _) _)
  | lowConfidence | retryCount | communicationCount | checkoutMessages =>
      exact iff_of_true rfl (append_ne_empty (append_ne_empty (append_ne_empty (by decide) _) _) _)
  | amountExceedsAutoLimit | checkoutAmount | retryInterval =>
      exact iff_of_true rfl
        (append_ne_empty (append_ne_empty (append_ne_empty (append_ne_empty (by decide) _) _) _) _)

structure PolicyEvaluationResult where
  allowed : Bool
  decision : PolicyDecision
  reason : Reason
  policyId : String
  policyVersion : Int
  violations : List Violation := []
  deriving DecidableEq

end RevenueRescue.PolicySchema
