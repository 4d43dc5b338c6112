import RevenueRescue.Backend.Metrics
import RevenueRescue.Simulator.PaymentSimulator

namespace RevenueRescue.BaselineSimulator

open Enums SimulatorProvider PaymentSimulator

structure BaselineResult where
  eventId : String
  customerId : String
  amountPaise : Int
  failureReason : FailureReason
  outcome : String
  amountRecovered : Int
  retryCount : Nat

/-- `_process_event`. -/
def processEvent (random : Nat → ℚ) (ids : Nat → Draws) (drawn : Nat) (event : PaymentEvent) :
    Option (Nat × BaselineResult) := do
  let (drawn, payResult) ← executeRetry random drawn {
    caseId := event.eventId
    customerId := event.customerId
    customerSegment := event.segment
    failureReason := event.failureReason
    retryNumber := 1
    amountPaise := event.amountPaise
    currency := event.currency } (ids drawn)
  let verification := verifyPaymentAttempt event.eventId payResult
  let recovered := decide (verification.outcome = .recovered)
  some (drawn, {
    eventId := event.eventId
    customerId := event.customerId
    amountPaise := event.amountPaise
    failureReason := event.failureReason
    outcome := if recovered then "RECOVERED" else "FAILED"
    amountRecovered := verification.amountRecoveredPaise
    retryCount := 1 })

/-- `run_batch`, where `drawn` numbers have been taken from the stream. -/
def runBatch (random : Nat → ℚ) (ids : Nat → Draws) : Nat → List PaymentEvent → Option (List BaselineResult)
  | _, [] => some []
  | drawn, event :: events => do
      let (drawn, result) ← processEvent random ids drawn event
      let results ← runBatch random ids drawn events
      some (result :: results)

/-- What `compute_metrics` returns. -/
structure BatchMetrics where
  mode : String := "BASELINE"
  totalEvents : Nat
  recoveredCount : Nat
  failedCount : Nat
  totalAtRiskPaise : Int
  totalRecoveredPaise : Int
  recoveryRatePct : ℚ
  avgRetries : ℚ := 1
  escalations : Nat := 0
  policyViolations : Nat := 0
  note : String := "Fixed retry schedule — no diagnosis, no context"

def computeMetrics (results : List BaselineResult) : BatchMetrics :=
  let recovered := results.filter fun r => r.outcome = "RECOVERED"
  let totalAtRisk := (results.map BaselineResult.amountPaise).sum
  let totalRecovered := (recovered.map BaselineResult.amountRecovered).sum
  { totalEvents := results.length
    recoveredCount := recovered.length
    failedCount := results.length - recovered.length
    totalAtRiskPaise := totalAtRisk
    totalRecoveredPaise := totalRecovered
    recoveryRatePct := Metrics.round2
      (if totalAtRisk > 0 then PyFloat.double (PyFloat.double ((totalRecovered : ℚ) / totalAtRisk) * 100) else 0) }

/-- The events whose retry goes through. -/
def recoveredEvents (random : Nat → ℚ) : Nat → List PaymentEvent → List PaymentEvent
  | _, [] => []
  | drawn, event :: events =>
      if goesThrough random drawn event then event :: recoveredEvents random (drawn + 1) events
      else recoveredEvents random (drawn + 1) events

/-- What the result of an event is. -/
structure ResultOf (event : PaymentEvent) (recovered : Bool) (result : BaselineResult) : Prop where
  amountPaise : result.amountPaise = event.amountPaise
  outcome : result.outcome = if recovered then "RECOVERED" else "FAILED"
  amountRecovered : result.amountRecovered = if recovered then event.amountPaise else 0

theorem processEvent_eq (random : Nat → ℚ) (ids : Nat → Draws) (drawn : Nat) (event : PaymentEvent) :
    ∃ result, processEvent random ids drawn event = some (drawn + 1, result) ∧
      ResultOf event (goesThrough random drawn event) result := by
  obtain ⟨payResult, hpay, hrecovered, hamount⟩ := first_retry random drawn event
    ⟨event.eventId, event.customerId, event.segment, event.failureReason, 1, event.amountPaise, event.currency⟩
    (ids drawn) event.eventId rfl rfl rfl rfl
  rw [processEvent, hpay]
  exact ⟨_, rfl, rfl, by rw [← hrecovered], hamount⟩

/-- A batch totals the amounts of the events whose retry goes through. -/
theorem runBatch_totals (random : Nat → ℚ) (ids : Nat → Draws) (drawn : Nat) (events : List PaymentEvent) :
    ∃ results, runBatch random ids drawn events = some results ∧ results.length = events.length ∧
      (results.map BaselineResult.amountPaise).sum = (events.map PaymentEvent.amountPaise).sum ∧
      (results.filter fun r => r.outcome = "RECOVERED").length = (recoveredEvents random drawn events).length ∧
      ((results.filter fun r => r.outcome = "RECOVERED").map BaselineResult.amountRecovered).sum =
        ((recoveredEvents random drawn events).map PaymentEvent.amountPaise).sum := by
  induction events generalizing drawn with
  | nil => exact ⟨[], rfl, rfl, rfl, rfl, rfl⟩
  | cons event events ih =>
      obtain ⟨result, hresult, hof⟩ := processEvent_eq random ids drawn event
      obtain ⟨results, hresults, hlen, hrisk, hcount, hrecovered⟩ := ih (drawn + 1)
      refine ⟨result :: results, by simp [runBatch, hresult, hresults], by simp [hlen], by simp [hof.amountPaise, hrisk], ?_⟩
      cases hgo : goesThrough random drawn event with
      | true =>
          have hout : result.outcome = "RECOVERED" := by rw [hof.outcome, hgo]; rfl
          have hamount : result.amountRecovered = event.amountPaise := by rw [hof.amountRecovered, hgo]; rfl
          simp [recoveredEvents, hgo, hout, hamount, hcount, hrecovered]
      | false =>
          have hout : ¬ result.outcome = "RECOVERED" := by
            rw [hof.outcome, hgo]
            decide
          simp [recoveredEvents, hgo, hout, hcount, hrecovered]

end RevenueRescue.BaselineSimulator
