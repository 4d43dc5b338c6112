import RevenueRescue.Enums
import RevenueRescue.Foundation.PyValue

namespace RevenueRescue.Providers

open Enums

inductive PaymentStatus
  | pending
  | success
  | failed
  | cancelled
  deriving DecidableEq

inductive ProviderMode
  | simulation
  | razorpayTest
  deriving DecidableEq

def PaymentStatus.value : PaymentStatus → String
  | .pending => "PENDING"
  | .success => "SUCCESS"
  | .failed => "FAILED"
  | .cancelled => "CANCELLED"

structure PaymentResult where
  paymentId : String
  status : PaymentStatus
  amountPaise : Int
  currency : String
  provider : ProviderMode
  failureReason : Option String := none
  isSynthetic : Bool := true
  raw : Option (List (String × PyValue)) := none

structure OrderResult where
  orderId : String
  amountPaise : Int
  currency : String
  provider : ProviderMode
  isSynthetic : Bool := true

structure RetryResult where
  attemptId : String
  paymentId : String
  status : PaymentStatus
  amountPaise : Int
  currency : String
  provider : ProviderMode
  failureReason : Option String := none
  isSynthetic : Bool := true

/-- The arguments of `retry_payment`, which `schedule_retry` takes too. -/
structure RetryRequest where
  caseId : String
  originalPaymentId : String
  amountPaise : Int
  currency : String
  customerId : String
  idempotencyKey : String
  retryNumber : Int
  failureReason : FailureReason
  customerSegment : String

end RevenueRescue.Providers
