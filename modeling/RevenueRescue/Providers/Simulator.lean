import RevenueRescue.Foundation.Double
import RevenueRescue.Foundation.Uuid
import RevenueRescue.Providers.Base

namespace RevenueRescue.SimulatorProvider

open Enums Providers PyFloat

/-- `RETRY_SUCCESS_PROB`, by the number of the retry, with the default of its reader. -/
def retrySuccessProb : FailureReason → List ℚ
  | .insufficientFunds => [0, 0.40, 0.60, 0.75]
  | .bankDecline => [0, 0.25, 0.45, 0.55]
  | .expiredMethod => [0, 0, 0, 0]
  | .gatewayTemporary => [0, 0.70, 0.90, 0.95]
  | .authFailure => [0, 0.20, 0.35, 0.45]
  | .mandateFailure => [0, 0.30, 0.50, 0.65]
  | .subscriptionGrace => [0, 0.40, 0.55, 0.70]
  | .unknown => [0, 0.10, 0.15, 0.20]
  | .checkoutAbandoned | .other _ => [0, 0.15, 0.25, 0.35]

def segmentModifier (segment : String) : ℚ :=
  if segment = "premium" then 1.15
  else if segment = "enterprise" then 1.25
  else if segment = "at_risk" then 0.75
  else 1

/-- `xs[i]`, which counts from the end below zero; `none` is its `IndexError`. -/
def index (xs : List ℚ) (i : Int) : Option ℚ :=
  if 0 ≤ i then xs[i.toNat]? else if -xs.length ≤ i then xs[(xs.length + i).toNat]? else none

def successProbability (failureReason : FailureReason) (retryNumber : Int) (segment : String) : Option ℚ :=
  let probs := retrySuccessProb failureReason
  (index probs (min retryNumber (probs.length - 1))).map fun base =>
    min (double (double base * double (segmentModifier segment))) (double 0.99)

/-- What a call draws from `uuid.uuid4`, if it needs ids. -/
structure Draws where
  attempt : Uuid
  transaction : Uuid

/-- `u.hex[:n].upper()` -/
def hexPrefix (u : Uuid) (n : Nat) : String :=
  String.ofList ((u.digits.take n).map fun d => (Uuid.hexDigit d).toUpper)

def attemptId (draws : Draws) : String := "ATT-" ++ hexPrefix draws.attempt 8

def transactionId (draws : Draws) : String := "TXN-" ++ hexPrefix draws.transaction 12

/-- The provider: how many numbers it has taken from its random stream, and
`_payment_results` in the order of its keys. -/
structure Simulator where
  drawn : Nat := 0
  results : List (String × PaymentResult) := []

def storeResult (results : List (String × PaymentResult)) (result : PaymentResult) : List (String × PaymentResult) :=
  if results.any fun kv => kv.1 = result.paymentId then
    results.map fun kv => if kv.1 = result.paymentId then (kv.1, result) else kv
  else results ++ [(result.paymentId, result)]

def findResult (results : List (String × PaymentResult)) (paymentId : String) : Option PaymentResult :=
  (results.find? fun kv => kv.1 = paymentId).map Prod.snd

structure Settings where
  random : Nat → ℚ
  defaultSegment : String := "standard"

/-- `retry_payment`. It takes the idempotency key and does not look at it. -/
def retryPayment (cfg : Settings) (sim : Simulator) (request : RetryRequest) (draws : Draws) :
    Option (Simulator × RetryResult) :=
  let segment := if request.customerSegment = "" then cfg.defaultSegment else request.customerSegment
  (successProbability request.failureReason request.retryNumber segment).map fun probability =>
    let success := decide (cfg.random sim.drawn < probability)
    let status : PaymentStatus := if success then .success else .failed
    let failureReason := if success then none else some request.failureReason.value
    ({ drawn := sim.drawn + 1
       results := storeResult sim.results {
        paymentId := transactionId draws
        status := status
        amountPaise := request.amountPaise
        currency := request.currency
        provider := .simulation
        failureReason := failureReason } },
      { attemptId := attemptId draws
        paymentId := transactionId draws
        status := status
        amountPaise := request.amountPaise
        currency := request.currency
        provider := .simulation
        failureReason := failureReason })

/-- `schedule_retry`: nothing is scheduled. -/
def scheduleRetry (cfg : Settings) (sim : Simulator) (request : RetryRequest) (_delayHours : PyValue)
    (draws : Draws) : Option (Simulator × RetryResult) :=
  retryPayment cfg sim request draws

def getPayment (sim : Simulator) (paymentId : String) : PaymentResult :=
  (findResult sim.results paymentId).getD {
    paymentId := paymentId
    status := .pending
    amountPaise := 0
    currency := "INR"
    provider := .simulation }

def checkStatus (sim : Simulator) (paymentId : String) : PaymentStatus :=
  ((findResult sim.results paymentId).map PaymentResult.status).getD .pending

def createOrder (amountPaise : Int) (currency : String) (id : Uuid) : OrderResult where
  orderId := "order_sim_" ++ String.ofList ((id.digits.take 16).map Uuid.hexDigit)
  amountPaise := amountPaise
  currency := currency
  provider := .simulation

inductive Operation
  | retryPayment (request : RetryRequest)
  | scheduleRetry (request : RetryRequest) (delayHours : PyValue)
  | getPayment (paymentId : String)
  | checkStatus (paymentId : String)
  | createOrder (amountPaise : Int) (currency : String)

structure Call where
  operation : Operation
  draws : Draws

inductive Answer
  | retry (result : RetryResult)
  | payment (result : PaymentResult)
  | status (status : PaymentStatus)
  | order (result : OrderResult)
  | raised

def answerRetry (sim : Simulator) : Option (Simulator × RetryResult) → Simulator × Answer
  | some (sim', result) => (sim', .retry result)
  | none => (sim, .raised)

def call (cfg : Settings) (sim : Simulator) (c : Call) : Simulator × Answer :=
  match c.operation with
  | .retryPayment request => answerRetry sim (retryPayment cfg sim request c.draws)
  | .scheduleRetry request delayHours => answerRetry sim (scheduleRetry cfg sim request delayHours c.draws)
  | .getPayment paymentId => (sim, .payment (getPayment sim paymentId))
  | .checkStatus paymentId => (sim, .status (checkStatus sim paymentId))
  | .createOrder amountPaise currency => (sim, .order (createOrder amountPaise currency c.draws.attempt))

/-- A history of calls, with their answers in order. -/
def serve (cfg : Settings) : Simulator → List Call → Simulator × List Answer
  | sim, [] => (sim, [])
  | sim, c :: calls => ((serve cfg (call cfg sim c).1 calls).1, (call cfg sim c).2 :: (serve cfg (call cfg sim c).1 calls).2)

end RevenueRescue.SimulatorProvider
