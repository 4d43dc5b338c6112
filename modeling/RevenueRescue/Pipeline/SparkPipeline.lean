import Mathlib.Data.Prod.Lex
import RevenueRescue.Pipeline.Features
import RevenueRescue.Pipeline.Schema

namespace RevenueRescue.Pipeline

open Window OrderStatistic

namespace SparkBigDataPipeline

/-- `REQUIRED_NON_NULL`. -/
def requiredNonNull : List (String × (RawEvent → Bool)) :=
  [("event_id", fun e => e.eventId.isNone), ("event_type", fun e => e.eventType.isNone),
    ("customer_id", fun e => e.customerId.isNone), ("amount_paise", fun e => e.amountPaise.isNone),
    ("failure_reason", fun e => e.failureReason.isNone), ("occurred_at", fun e => e.occurredAt.isNone),
    ("retry_count", fun e => e.retryCount.isNone), ("recovered", fun e => e.recovered.isNone)]

structure Report where
  rows : Nat
  uniqueEventIds : Nat
  nullCounts : List (String × Nat)
  nonPositiveAmounts : Nat
  negativeRetries : Nat
  unparseableTimestamps : Nat
  invalidEventTypes : List Text
  invalidFailureReasons : List Text
  errors : List DataError

def Report.isValid (report : Report) : Bool := report.errors.isEmpty

def validate (timestamps : Timestamps) (df : List RawEvent) : Report :=
  let uniqueEventIds := nunique (df.map RawEvent.eventId)
  let nullCounts := requiredNonNull.map fun column => (column.1, df.countP column.2)
  let amounts := df.countP fun e => e.amountPaise.any (· ≤ 0)
  let retries := df.countP fun e => e.retryCount.any (· < 0)
  let unparseable := df.countP fun e => e.occurredAt.any fun text => (timestamps.toTimestamp text).isNone
  let badTypes := invalidValues validEventTypes (df.map RawEvent.eventType)
  let badReasons := invalidValues validFailureReasons (df.map RawEvent.failureReason)
  { rows := df.length
    uniqueEventIds := uniqueEventIds
    nullCounts := nullCounts
    nonPositiveAmounts := amounts
    negativeRetries := retries
    unparseableTimestamps := unparseable
    invalidEventTypes := badTypes
    invalidFailureReasons := badReasons
    errors :=
      when (df.length = 0) .noRows ++
      when (uniqueEventIds ≠ df.length) (.duplicateEventIds (df.length - uniqueEventIds)) ++
      nullCounts.flatMap (fun count => when (count.2 > 0) (.missingValues count.1 count.2)) ++
      when (amounts > 0) (.nonPositiveAmounts amounts) ++
      when (retries > 0) (.negativeRetries retries) ++
      when (unparseable > 0) (.unparseableTimestamps unparseable) ++
      when (badTypes ≠ []) (.invalidEventTypes badTypes) ++
      when (badReasons ≠ []) (.invalidFailureReasons badReasons) }

/-- An event with the columns that `transform` adds first; `occurredAtTs` is in microseconds. -/
structure SparkEvent where
  eventId : Text
  eventType : Text
  customerId : Text
  amountPaise : Int
  failureReason : Text
  retryCount : Int
  occurredAtTs : Int
  occurredAtSec : Int
  eventHourUtc : Int
  eventDayofweekUtc : Int
  deriving DecidableEq

/-- `dayofweek`, from Sunday = 1. -/
def dayofweek (micros : Int) : Int := (micros / 86400000000 + 4) % 7 + 1

def eventOf (row : Row) (micros : Int) : SparkEvent where
  eventId := row.eventId
  eventType := row.eventType
  customerId := row.customerId
  amountPaise := row.amountPaise
  failureReason := row.failureReason
  retryCount := row.retryCount
  occurredAtTs := micros
  occurredAtSec := micros / 1000000
  eventHourUtc := int16 (micros / 3600000000 % 24)
  eventDayofweekUtc := int16 ((dayofweek micros + 5) % 7)

def order (e : SparkEvent) : Int ×ₗ Text := toLex (e.occurredAtSec, e.eventId)

/-- A window that is partitioned by a key and ends one row before the current one. -/
def frame {κ : Type} [DecidableEq κ] (partitionBy : SparkEvent → κ) (before : List SparkEvent) (e : SparkEvent) :
    List SparkEvent :=
  before.filter fun a => partitionBy a = partitionBy e

def typeFlag (eventType : Text) (e : SparkEvent) : Int := if e.eventType = eventType then 1 else 0

def priorCountOf (eventType : Text) (prior : List SparkEvent) : Int := int16 (prior.map (typeFlag eventType)).sum

/-- `avg`, which is null over no row. -/
def avg (values : List Int) : Option ℚ := if values = [] then none else some (values.sum / values.length)

/-- The history columns of an event, from the rows above it in the order of the windows. -/
def historyOf (before : List SparkEvent) (e : SparkEvent) : HistoryFeatures :=
  let prior := frame SparkEvent.customerId before e
  let reasonPrior := frame (fun a => (a.customerId, a.failureReason)) before e
  let rowNumber : Int := prior.length + 1
  { custPriorEvents := int16 (rowNumber - 1)
    hoursSincePrevEvent := prior.getLast?.map fun prev =>
      ((e.occurredAtSec - prev.occurredAtSec : Int) : ℚ) / 3600
    custPriorAmountMean := avg (prior.map SparkEvent.amountPaise)
    custPriorRetryTotal := int16 (prior.map SparkEvent.retryCount).sum
    custPriorCheckoutAbandoned := priorCountOf checkoutAbandoned prior
    custPriorFailedPayment := priorCountOf failedPayment prior
    custPriorFailedSubscription := priorCountOf failedSubscription prior
    custPriorSameFailureReason := int16 reasonPrior.length }

def historyTable (events : List SparkEvent) : List (SparkEvent × HistoryFeatures) :=
  (withPreceding [] (orderBy order events)).map fun row => (row.2, historyOf row.1 row.2)

/-- `groupBy(ts_col).count()` with the running total up to each value. -/
def cumulativeCounts (seconds : List Int) : List (Int × Nat) :=
  let counts := seconds.dedup.map fun s => (s, seconds.count s)
  (withPreceding [] (orderBy Prod.fst counts)).map fun row => (row.2.1, ((row.1 ++ [row.2]).map Prod.snd).sum)

/-- The least value whose running total reaches `k + 1`. -/
def exactCutoff (seconds : List Int) (k : Nat) : Option Int :=
  (((cumulativeCounts seconds).filter fun row => row.2 ≥ k + 1).map Prod.fst).min?

def exactCutoffs (seconds : List Int) : Option (Int × Int) := do
  let t70 ← exactCutoff seconds (cutoffIndex splitFractions.1 seconds.length)
  let t85 ← exactCutoff seconds (cutoffIndex splitFractions.2 seconds.length)
  pure (t70, t85)

/-- `transform` on a table whose timestamps can all be read. -/
def transform (timestamps : Timestamps) (rows : List Row) : Option (List (SparkEvent × HistoryFeatures × Split)) := do
  let events ← rows.mapM fun row => (timestamps.toTimestamp row.occurredAt).map (eventOf row)
  let withHistory := historyTable events
  let cutoffs ← exactCutoffs (withHistory.map fun row => row.1.occurredAtSec)
  pure (withHistory.map fun row => (row.1, row.2, assignChronoSplit cutoffs row.1.occurredAtSec))

def features (row : SparkEvent × HistoryFeatures × Split) : EventFeatures where
  eventId := row.1.eventId
  eventHourUtc := row.1.eventHourUtc
  eventDayofweekUtc := row.1.eventDayofweekUtc
  history := row.2.1
  chronoSplit := row.2.2

end SparkBigDataPipeline

end RevenueRescue.Pipeline
