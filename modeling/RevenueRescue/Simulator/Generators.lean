import RevenueRescue.Foundation.JsonText
import RevenueRescue.Foundation.PyRandom
import RevenueRescue.Simulator.PaymentSimulator

namespace RevenueRescue.Generators

open Enums PyRandom PaymentSimulator

inductive Segment
  | standard
  | premium
  | enterprise
  | atRisk
  deriving DecidableEq

def Segment.value : Segment → String
  | .standard => "standard"
  | .premium => "premium"
  | .enterprise => "enterprise"
  | .atRisk => "at_risk"

/-- What Faker makes up for a customer. -/
structure Fake where
  name : String
  email : String
  phoneNumber : String

/-- What the generators meet besides their seed: Faker, SHA-256, `uuid.uuid4` and the time, in microseconds. -/
structure Surroundings where
  fake : Nat → Fake
  sha256 : String → String
  uuid4 : Nat → Uuid
  now : Int

structure SyntheticCustomer where
  customerId : String
  name : String
  emailDisplay : String
  emailHash : String
  phoneDisplay : String
  segment : Segment
  country : String
  optedOutCommunication : Bool
  optedOutEmail : Bool
  optedOutSms : Bool
  isSuspended : Bool
  totalTransactions : Int
  successfulTransactions : Int
  failedTransactions : Int
  lifetimeValuePaise : Int
  isSynthetic : Bool := true

/-- `SEGMENTS`. -/
def segments : List Segment := [.standard, .standard, .standard, .premium, .premium, .enterprise, .atRisk]

def successRate : Segment → ℚ
  | .standard => 0.85
  | .premium => 0.92
  | .enterprise => 0.95
  | .atRisk => 0.60

/-- `f"{n:0{width}d}"`. -/
def padded (width n : Nat) : String :=
  String.ofList (List.replicate (width - (Json.natText n).length) '0' ++ Json.natText n)

variable (r : Random) (out : Surroundings)

/-- `_make_customer`. -/
def makeCustomer (idx : Nat) : Draw r SyntheticCustomer := do
  let fake := out.fake idx
  let segment ← choice r segments
  let totalTxn ← randint r 1 50 (by decide)
  let successful := PyFloat.roundHalfEven (PyFloat.double (totalTxn.val * PyFloat.double (successRate segment)))
  let failed := totalTxn.val - successful
  let perTxn ← randint r 50000 500000 (by decide)
  let ltv := successful * perTxn.val
  let optOutRate := if segment ≠ .atRisk then PyFloat.double 0.05 else PyFloat.double 0.15
  let optedOut := decide ((← random r) < optOutRate)
  let suspended := decide ((← random r) < PyFloat.double 0.01)
  return {
    customerId := "CUST-" ++ padded 5 (idx + 1)
    name := fake.name
    emailDisplay := fake.email
    emailHash := out.sha256 fake.email
    phoneDisplay := fake.phoneNumber
    segment := segment
    country := "IN"
    optedOutCommunication := optedOut
    optedOutEmail := optedOut
    optedOutSms := optedOut
    isSuspended := suspended
    totalTransactions := totalTxn.val
    successfulTransactions := successful
    failedTransactions := failed
    lifetimeValuePaise := ltv }

inductive EventType
  | failedPayment
  | failedSubscription
  | checkoutAbandoned
  deriving DecidableEq

structure Metadata where
  synthetic : Bool
  segment : Segment

structure GeneratedEvent where
  eventId : String
  eventType : EventType
  customerId : String
  customer : SyntheticCustomer
  amountPaise : Int
  currency : String
  failureReason : FailureReason
  idempotencyKey : String
  occurredAt : Int
  subscriptionId : Option String
  checkoutSessionId : Option String
  simulationRunId : Option String
  metadata : Metadata
  amount_pos : 0 < amountPaise

/-- `DEFAULT_FAILURE_DISTRIBUTION`. -/
def defaultFailureDistribution : List (FailureReason × ℚ) :=
  [(.insufficientFunds, 0.35), (.bankDecline, 0.20), (.expiredMethod, 0.15), (.gatewayTemporary, 0.15),
    (.authFailure, 0.10), (.mandateFailure, 0.03), (.unknown, 0.02)]

def subscriptionFailures : List (FailureReason × ℚ) :=
  [(.mandateFailure, 0.35), (.insufficientFunds, 0.30), (.subscriptionGrace, 0.20), (.bankDecline, 0.15)]

def eventTypes : List (EventType × ℚ) := [(.failedPayment, 0.55), (.failedSubscription, 0.25), (.checkoutAbandoned, 0.20)]

/-- `_pick_failure_reason`. -/
def pickFailureReason : EventType → Draw r FailureReason
  | .failedSubscription => choices r subscriptionFailures (by decide)
  | .checkoutAbandoned => return .checkoutAbandoned
  | .failedPayment => choices r defaultFailureDistribution (by decide)

/-- The lowest and the highest amount of a segment. -/
def amountRange : Segment → Int × Int
  | .standard => (50000, 500000)
  | .premium => (200000, 2000000)
  | .enterprise => (500000, 5000000)
  | .atRisk => (20000, 200000)

theorem amountRange_bounds (segment : Segment) :
    20000 ≤ (amountRange segment).1 ∧ (amountRange segment).1 ≤ (amountRange segment).2 ∧
      (amountRange segment).2 ≤ 5000000 := by
  cases segment <;> decide

/-- `_pick_amount`. -/
def pickAmount (customer : SyntheticCustomer) :
    Draw r { x : Int // (amountRange customer.segment).1 ≤ x ∧ x ≤ (amountRange customer.segment).2 } :=
  randint r _ _ (amountRange_bounds customer.segment).2.1

/-- The id of a subscription or of a checkout session, for the events that have one. -/
def pickId (wanted : Bool) (sort : String) : Draw r (Option String) := do
  if wanted then
    let k ← randint r 1 1000 (by decide)
    return some (sort ++ padded 5 k.val.toNat)
  else return none

def microsecondsPerHour : Int := 3600000000

/-- A body of the loop of `generate_batch`. -/
def makeEvent (customers : List SyntheticCustomer) (simulationRunId : Option String) (baseTime : Int) (i : Nat) :
    Draw r GeneratedEvent := do
  let customer ← choice r customers
  let eventType ← choices r eventTypes (by decide)
  let failureReason ← pickFailureReason r eventType
  let amountPaise ← pickAmount r customer
  let hours ← randint r 0 168 (by decide)
  let subscriptionId ← pickId r (eventType = .failedSubscription) "SUB-"
  let checkoutSessionId ← pickId r (eventType = .checkoutAbandoned) "CHK-"
  return {
    eventId := "EVT-" ++ padded 6 (i + 1)
    eventType := eventType
    customerId := customer.customerId
    customer := customer
    amountPaise := amountPaise.val
    currency := "INR"
    failureReason := failureReason
    idempotencyKey := (out.uuid4 i).str
    occurredAt := baseTime + hours.val * microsecondsPerHour
    subscriptionId := subscriptionId
    checkoutSessionId := checkoutSessionId
    simulationRunId := simulationRunId
    metadata := ⟨true, customer.segment⟩
    amount_pos := by
      have hlow := (amountRange_bounds customer.segment).1
      have hval := amountPaise.property.1
      omega }

/-- `CustomerGenerator(seed).generate(count)`. -/
def generate (seed count : Int) : Except String (List SyntheticCustomer) :=
  (each (makeCustomer r out) 0 count.toNat (r.seeded seed)).map Prod.fst

/-- `PaymentEventGenerator(seed).generate_batch`. -/
def generateBatch (seed : Int) (customers : List SyntheticCustomer) (numEvents : Int)
    (simulationRunId : Option String := none) (baseTime : Option Int := none) : Except String (List GeneratedEvent) :=
  let baseTime := baseTime.getD (out.now - 7 * 24 * microsecondsPerHour)
  (each (makeEvent r out customers simulationRunId baseTime) 0 numEvents.toNat (r.seeded seed)).map Prod.fst

/-- The events of a simulation run: its customers and its events come from generators of the same seed. -/
def populate (seed numCustomers numEvents : Int) (simulationId : String) : Except String (List GeneratedEvent) := do
  let customers ← generate r out seed numCustomers
  generateBatch r out seed customers numEvents (some simulationId)

/-- What the simulations read of an event. -/
def GeneratedEvent.read (event : GeneratedEvent) : PaymentEvent where
  eventId := event.eventId
  customerId := event.customerId
  segment := event.customer.segment.value
  failureReason := event.failureReason
  amountPaise := event.amountPaise
  currency := event.currency
  amount_pos := event.amount_pos

end RevenueRescue.Generators
