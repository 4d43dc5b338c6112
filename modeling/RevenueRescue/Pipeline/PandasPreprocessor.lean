import Mathlib.Data.Prod.Lex
import RevenueRescue.Pipeline.Features
import RevenueRescue.Pipeline.LeakageAudit
import RevenueRescue.Pipeline.Schema

namespace RevenueRescue.Pipeline

open Window

/-- The columns of a cleaned event that a later step reads; `occurredAt` is in nanoseconds. -/
structure Event where
  eventId : Text
  eventType : Text
  customerId : Text
  amountPaise : Int
  failureReason : Text
  occurredAt : Int
  retryCount : Int
  recovered : Int
  eventHourUtc : Int
  eventDayofweekUtc : Int
  deriving DecidableEq

/-- `SEQUENCE_ORDER`. -/
def sequenceOrder (e : Event) : Text ×ₗ Int ×ₗ Text := toLex (e.customerId, toLex (e.occurredAt, e.eventId))

namespace PandasPreprocessor

/-- What the steps raise. Of several timestamps that cannot be read, the one that
`to_datetime` names depends on the order of the rows. -/
inductive Failure
  | unreadableTarget
  | unparseableTimestamp
  | overflow
  | assertion (text : String)
  | emptyTimestamps
  | leakage (violations : List Violation)

def categoricalColumns : List Text :=
  ["event_type", "failure_reason", "payment_method", "device_type", "country"].map String.toList

def numericColumns : List Text :=
  ["amount_paise", "retry_count", "event_hour_utc", "event_dayofweek_utc", "cust_prior_events",
    "cust_prior_amount_mean", "cust_prior_retry_total", "cust_prior_checkout_abandoned",
    "cust_prior_failed_payment", "cust_prior_failed_subscription", "cust_prior_same_failure_reason",
    "hours_since_prev_event"].map String.toList

def cleanRow (row : Row) (occurredAt : Int) : Event where
  eventId := row.eventId.strip
  eventType := row.eventType.strip
  customerId := row.customerId.strip
  amountPaise := row.amountPaise
  failureReason := row.failureReason.strip
  occurredAt := occurredAt
  retryCount := row.retryCount
  recovered := if row.recovered then 1 else 0
  eventHourUtc := int16 (occurredAt / 3600000000000 % 24)
  eventDayofweekUtc := int16 ((occurredAt / 86400000000000 + 3) % 7)

def occurredAtColumn {τ : Type} (rows : List (Row τ)) : List (Option Text) := rows.map fun row => some row.occurredAt

/-- `clean`; `none` is the error that `to_datetime` raises. -/
def clean (timestamps : Timestamps) (rows : List Row) : Option (List Event) :=
  rows.mapM fun row =>
    (timestamps.toDatetime (occurredAtColumn rows) row.occurredAt).map (cleanRow row)

/-- The rows above an event that are in its group. -/
def group {κ : Type} [DecidableEq κ] (key : Event → κ) (before : List Event) (e : Event) : List Event :=
  before.filter fun a => key a = key e

section

variable {κ : Type} [DecidableEq κ] (key : Event → κ) (before : List Event) (e : Event)

def cumcount : Int := (group key before e).length

def cumsum (column : Event → Int) : Int := ((group key before e).map column).sum + column e

def shift (column : Event → Int) : Option Int := (group key before e).getLast?.map column

end

def typeFlag (eventType : Text) (e : Event) : Int := if e.eventType = eventType then 1 else 0

def priorOfType (eventType : Text) (before : List Event) (e : Event) : Int :=
  int16 (cumsum Event.customerId before e (typeFlag eventType) - typeFlag eventType e)

/-- The history columns of an event, from the rows above it in the sorted table, in unbounded integers. -/
def historyOf (before : List Event) (e : Event) : HistoryFeatures :=
  let priorEvents := int16 (cumcount Event.customerId before e)
  let prevTs := shift Event.customerId before e Event.occurredAt
  let priorAmountSum := cumsum Event.customerId before e Event.amountPaise - e.amountPaise
  { custPriorEvents := priorEvents
    hoursSincePrevEvent := prevTs.map fun prev => ((e.occurredAt - prev : Int) : ℚ) / 1000000000 / 3600
    custPriorAmountMean := if priorEvents = 0 then none else some (priorAmountSum / priorEvents)
    custPriorRetryTotal := int16 (cumsum Event.customerId before e Event.retryCount - e.retryCount)
    custPriorCheckoutAbandoned := priorOfType checkoutAbandoned before e
    custPriorFailedPayment := priorOfType failedPayment before e
    custPriorFailedSubscription := priorOfType failedSubscription before e
    custPriorSameFailureReason := int16 (cumcount (fun a => (a.customerId, a.failureReason)) before e) }

def historyTable (events : List Event) : List (Event × HistoryFeatures) :=
  (withPreceding [] (orderBy sequenceOrder events)).map fun row => (row.2, historyOf row.1 row.2)

/-- `add_history_features` in unbounded integers, with its three assertions. -/
def addHistoryFeatures (events : List Event) : Except Failure (List (Event × HistoryFeatures)) :=
  let rows := historyTable events
  let first := rows.filter fun row => row.2.custPriorEvents = 0
  if ¬ first.all fun row => row.2.hoursSincePrevEvent.isNone then
    .error (.assertion "first customer event must have NaN hours_since_prev_event")
  else if ¬ first.all fun row => row.2.custPriorRetryTotal = 0 then
    .error (.assertion "first customer event must have zero prior retries")
  else if rows.any fun row => row.2.hoursSincePrevEvent.any (· < 0) then
    .error (.assertion "negative time delta in customer history")
  else .ok rows

def addChronoSplit (rows : List (Event × HistoryFeatures)) : Except Failure (List (Event × HistoryFeatures × Split)) :=
  match chronoCutoffs (rows.map fun row => row.1.occurredAt) with
  | none => .error .emptyTimestamps
  | some cutoffs => .ok (rows.map fun row => (row.1, row.2, assignChronoSplit cutoffs row.1.occurredAt))

def auditRow (row : Event × HistoryFeatures × Split) : AuditRow where
  timestamp := some row.1.occurredAt
  chronoSplit := row.2.2
  hoursSincePrevEvent := row.2.1.hoursSincePrevEvent

/-- The rest of `transform` up to the manifest, behind the gate of the leakage audit. -/
def splitAndAudit (withHistory : List (Event × HistoryFeatures)) :
    Except Failure (List (Event × HistoryFeatures × Split)) := do
  let withSplit ← addChronoSplit withHistory
  let report := LeakageAuditor.auditFeaturesAndSplits (withSplit.map auditRow)
    (categoricalColumns ++ numericColumns)
  if ¬ report.isLeakageFree then .error (.leakage report.violations) else .ok withSplit

/-- `transform` in unbounded integers, on rows whose target is cast. -/
def transform (timestamps : Timestamps) (rows : List Row) :
    Except Failure (List (Event × HistoryFeatures × Split)) :=
  match clean timestamps rows with
  | none => .error .unparseableTimestamp
  | some events => addHistoryFeatures events >>= splitAndAudit

section Columns

/-- The wrap of a sum in a 64-bit column. -/
def int64 (x : Int) : Int := x.bmod 18446744073709551616

/-- The difference of two `datetime64[ns]` values, which is checked for overflow. -/
def difference (a b : Int) : Option Int :=
  if -9223372036854775808 ≤ a - b ∧ a - b < 9223372036854775808 then some (a - b) else none

def overflows (before : List Event) (e : Event) : Bool :=
  (shift Event.customerId before e Event.occurredAt).any fun prev => (difference e.occurredAt prev).isNone

/-- `historyOf` with the sum of the amounts in its 64-bit column; the other
sums end in 16 bits, which the wider column does not change. -/
def historyOf64 (before : List Event) (e : Event) : HistoryFeatures :=
  let history := historyOf before e
  let priorAmountSum := int64 (cumsum Event.customerId before e Event.amountPaise - e.amountPaise)
  { history with
    custPriorAmountMean := if history.custPriorEvents = 0 then none
      else some (priorAmountSum / history.custPriorEvents) }

def historyTable64 (events : List Event) : List (Event × HistoryFeatures) :=
  (withPreceding [] (orderBy sequenceOrder events)).map fun row => (row.2, historyOf64 row.1 row.2)

/-- `add_history_features` in 64-bit columns: the subtraction of the timestamps
comes before the assertions, and these read no column that can wrap in 64 bits. -/
def addHistoryFeatures64 (events : List Event) : Except Failure (List (Event × HistoryFeatures)) :=
  if (withPreceding [] (orderBy sequenceOrder events)).any fun row => overflows row.1 row.2 then .error .overflow
  else (addHistoryFeatures events).map fun _ => historyTable64 events

/-- A cell of the target column: a boolean or, in an object column, a text. -/
inductive Target
  | bool (value : Bool)
  | text (value : Text)
  deriving DecidableEq

/-- A text outside the keys of `map` has no target. No letter beyond ASCII lowers
to a letter of these keys. -/
def Target.cast : Target → Option Bool
  | .bool value => some value
  | .text value =>
      let lowered := value.strip.map Char.toLower
      if lowered = "true".toList ∨ lowered = "1".toList then some true
      else if lowered = "false".toList ∨ lowered = "0".toList then some false
      else none

def castRow (row : Row Target) : Option Row := row.recovered.cast.map fun recovered => { row with recovered := recovered }

/-- `transform` on a raw table, in 64-bit columns. -/
def transform64 (timestamps : Timestamps) (rows : List (Row Target)) :
    Except Failure (List (Event × HistoryFeatures × Split)) :=
  match rows.mapM castRow with
  | none => .error .unreadableTarget
  | some rows =>
      match clean timestamps rows with
      | none => .error .unparseableTimestamp
      | some events => addHistoryFeatures64 events >>= splitAndAudit

end Columns

def features (row : Event × HistoryFeatures × Split) : EventFeatures where
  eventId := row.1.eventId
  eventHourUtc := row.1.eventHourUtc
  eventDayofweekUtc := row.1.eventDayofweekUtc
  history := row.2.1
  chronoSplit := row.2.2

end PandasPreprocessor

end RevenueRescue.Pipeline
