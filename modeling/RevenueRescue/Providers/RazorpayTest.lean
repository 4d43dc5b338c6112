import RevenueRescue.Providers.Base

namespace RevenueRescue.RazorpayTest

open Providers

/-- What `order.create` of the SDK is given. -/
structure OrderData where
  amount : Int
  currency : String
  receipt : String
  notes : List (String × String)
  deriving DecidableEq

/-- The SDK client: the id of a new order, or an exception. -/
structure Client where
  createOrder : OrderData → Except String String

/-- A payment as `payment.fetch` of the SDK returns it, with the entries that
the code reads; each may be absent. -/
structure FetchedPayment where
  status : Option String := none
  amount : Option Int := none
  currency : Option String := none
  orderId : Option String := none
  errorCode : Option String := none

def FetchedPayment.raw (payment : FetchedPayment) : List (String × PyValue) :=
  (payment.status.map fun s => ("status", PyValue.str s)).toList ++
    (payment.amount.map fun n => ("amount", PyValue.int n)).toList ++
    (payment.currency.map fun s => ("currency", PyValue.str s)).toList ++
    (payment.orderId.map fun s => ("order_id", PyValue.str s)).toList ++
    (payment.errorCode.map fun s => ("error_code", PyValue.str s)).toList

def mapStatus : String → PaymentStatus
  | "captured" => .success
  | "authorized" => .pending
  | "created" => .pending
  | "failed" => .failed
  | "refunded" => .cancelled
  | _ => .failed

def unavailable (paymentId : String) : PaymentResult where
  paymentId := paymentId
  status := .failed
  amountPaise := 0
  currency := "INR"
  provider := .razorpayTest
  failureReason := some "PROVIDER_UNAVAILABLE"
  isSynthetic := false

/-- `get_payment`, with `payment.fetch` of a client that is there; every
exception of it is answered with `unavailable`. -/
def getPayment (fetch : Option (String → Except String FetchedPayment)) (paymentId : String) : PaymentResult :=
  match fetch with
  | none => unavailable paymentId
  | some fetch =>
      match fetch paymentId with
      | .ok payment =>
          { paymentId := paymentId
            status := mapStatus (payment.status.getD "failed")
            amountPaise := payment.amount.getD 0
            currency := payment.currency.getD "INR"
            provider := .razorpayTest
            failureReason := payment.errorCode
            isSynthetic := false
            raw := some payment.raw }
      | .error _ => unavailable paymentId

/-- The arguments of `create_order`. -/
structure OrderRequest where
  amountPaise : Int
  currency : String := "INR"
  caseId : String
  customerId : String
  notes : List (String × String) := []

def orderData (request : OrderRequest) : OrderData where
  amount := request.amountPaise
  currency := request.currency
  receipt := "case-" ++ request.caseId
  notes := [("case_id", request.caseId), ("customer_id", request.customerId), ("environment", "TEST_MODE")] ++
    request.notes

/-- `create_order`; an error is its `ValueError`. -/
def createOrder (client : Option Client) (request : OrderRequest) : Except String OrderResult :=
  match client with
  | none => .error "Razorpay client is not available"
  | some client =>
      match client.createOrder (orderData request) with
      | .ok orderId => .ok {
          orderId := orderId
          amountPaise := request.amountPaise
          currency := request.currency
          provider := .razorpayTest
          isSynthetic := false }
      | .error e => .error ("Failed to create Razorpay order: " ++ e)

def unavailableRetry (idempotencyKey : String) : RetryResult where
  attemptId := idempotencyKey
  paymentId := ""
  status := .failed
  amountPaise := 0
  currency := "INR"
  provider := .razorpayTest
  failureReason := some "PROVIDER_UNAVAILABLE"
  isSynthetic := false

/-- The order that `retry_payment` creates, with the key cut to what a receipt may have. -/
def retryOrder (request : RetryRequest) : OrderData where
  amount := request.amountPaise
  currency := request.currency
  receipt := String.ofList (request.idempotencyKey.toList.take 40)
  notes := [("case_id", request.caseId), ("customer_id", request.customerId), ("environment", "TEST_MODE"),
    ("original_payment_id", request.originalPaymentId)]

/-- `retry_payment`, and `schedule_retry`, which passes its arguments on. -/
def retryPayment (client : Option Client) (request : RetryRequest) : RetryResult :=
  match client with
  | none => unavailableRetry request.idempotencyKey
  | some client =>
      match client.createOrder (retryOrder request) with
      | .ok orderId =>
          { attemptId := orderId
            paymentId := orderId
            status := .pending
            amountPaise := request.amountPaise
            currency := request.currency
            provider := .razorpayTest
            isSynthetic := false }
      | .error _ => unavailableRetry request.idempotencyKey

theorem createOrder_ok {client : Option Client} {request : OrderRequest} {order : OrderResult}
    (h : createOrder client request = .ok order) :
    order.amountPaise = request.amountPaise ∧ order.currency = request.currency := by
  unfold createOrder at h
  split at h
  · cases h
  · split at h
    · cases h
      exact ⟨rfl, rfl⟩
    · cases h

end RevenueRescue.RazorpayTest
