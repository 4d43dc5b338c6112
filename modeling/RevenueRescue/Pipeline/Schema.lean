import Mathlib.Data.List.Dedup
import Mathlib.Data.List.Lex
import Mathlib.Data.Char
import RevenueRescue.Foundation.Text
import RevenueRescue.Foundation.Window

namespace RevenueRescue.Pipeline

open Window

def validEventTypes : List Text :=
  ["FAILED_PAYMENT", "FAILED_SUBSCRIPTION", "CHECKOUT_ABANDONMENT", "CHECKOUT_ABANDONED"].map String.toList

def validFailureReasons : List Text :=
  ["INSUFFICIENT_FUNDS", "BANK_DECLINE", "AUTH_FAILURE", "GATEWAY_TEMPORARY", "EXPIRED_METHOD",
    "MANDATE_FAILURE", "SUBSCRIPTION_GRACE", "CHECKOUT_ABANDONED", "UNKNOWN"].map String.toList

/-- A row of a raw table with the required columns; `none` is a missing value.
The target is a boolean, unless the column holds values of another type. -/
structure RawEvent (τ : Type := Bool) where
  schemaVersion : Option Text
  eventId : Option Text
  eventType : Option Text
  customerId : Option Text
  amountPaise : Option Int
  currency : Option Text
  failureReason : Option Text
  occurredAt : Option Text
  paymentMethod : Option Text
  deviceType : Option Text
  country : Option Text
  retryCount : Option Int
  recovered : Option τ
  isSynthetic : Option Bool
  split : Option Text
  deriving DecidableEq

/-- How the two libraries read timestamps. `to_datetime` settles on a format
for the column, and gives nanoseconds since 1970 in UTC; `to_timestamp` reads
each text on its own, in a session pinned to UTC, and keeps microseconds. Both
read the instant that the text denotes. -/
structure Timestamps where
  toDatetime : List (Option Text) → Text → Option Int
  toTimestamp : Text → Option Int
  agree : ∀ column text n m, toDatetime column text = some n → toTimestamp text = some m → m = n / 1000

/-- `isna` on each of `REQUIRED_RAW_COLUMNS`. -/
def requiredRawColumns {τ : Type} : List (String × (RawEvent τ → Bool)) :=
  [("schema_version", fun e => e.schemaVersion.isNone), ("event_id", fun e => e.eventId.isNone),
    ("event_type", fun e => e.eventType.isNone), ("customer_id", fun e => e.customerId.isNone),
    ("amount_paise", fun e => e.amountPaise.isNone), ("currency", fun e => e.currency.isNone),
    ("failure_reason", fun e => e.failureReason.isNone), ("occurred_at", fun e => e.occurredAt.isNone),
    ("payment_method", fun e => e.paymentMethod.isNone), ("device_type", fun e => e.deviceType.isNone),
    ("country", fun e => e.country.isNone), ("retry_count", fun e => e.retryCount.isNone),
    ("recovered", fun e => e.recovered.isNone), ("is_synthetic", fun e => e.isSynthetic.isNone),
    ("split", fun e => e.split.isNone)]

/-- The errors of both validators, each with what its text reports. -/
inductive DataError
  | noRows
  | duplicateEventIds (duplicates : Nat)
  | missingValues (column : String) (count : Nat)
  | invalidEventTypes (values : List Text)
  | invalidFailureReasons (values : List Text)
  | nonPositiveAmounts (rows : Nat)
  | negativeRetries (rows : Nat)
  | unparseableTimestamps (rows : Nat)
  deriving DecidableEq

structure ValidationReport where
  totalRows : Nat
  uniqueEvents : Nat
  uniqueCustomers : Nat
  missingCounts : List (String × Nat)
  invalidEventTypes : List Text
  invalidFailureReasons : List Text
  invalidAmounts : Nat
  unparseableTimestamps : Nat
  errors : List DataError

def ValidationReport.isValid (report : ValidationReport) : Bool := report.errors.isEmpty

/-- `nunique`, which does not count missing values. -/
def nunique (column : List (Option Text)) : Nat := (column.filterMap id).dedup.length

/-- The values of a column that are not among the valid ones, in order. -/
def invalidValues (valid : List Text) (column : List (Option Text)) : List Text :=
  orderBy id ((column.filterMap id).dedup.filter fun value => value ∉ valid)

def when (condition : Bool) (error : DataError) : List DataError := if condition then [error] else []

namespace DataValidator

/-- `DataValidator.validate_dataframe` on a table that has the required columns. -/
def validateDataframe {τ : Type} (timestamps : Timestamps) (df : List (RawEvent τ)) : ValidationReport :=
  let uniqueEvents := nunique (df.map RawEvent.eventId)
  let missingCounts := requiredRawColumns.map fun column => (column.1, df.countP column.2)
  let eventTypes := invalidValues validEventTypes (df.map RawEvent.eventType)
  let reasons := invalidValues validFailureReasons (df.map RawEvent.failureReason)
  let amounts := df.countP fun e => e.amountPaise.any (· ≤ 0)
  let column := df.map RawEvent.occurredAt
  let unparseable := df.countP fun e => (e.occurredAt.bind (timestamps.toDatetime column)).isNone
  { totalRows := df.length
    uniqueEvents := uniqueEvents
    uniqueCustomers := nunique (df.map RawEvent.customerId)
    missingCounts := missingCounts
    invalidEventTypes := eventTypes
    invalidFailureReasons := reasons
    invalidAmounts := amounts
    unparseableTimestamps := unparseable
    errors :=
      when (uniqueEvents ≠ df.length) (.duplicateEventIds (df.length - uniqueEvents)) ++
      missingCounts.flatMap (fun count => when (count.2 > 0) (.missingValues count.1 count.2)) ++
      when (eventTypes ≠ []) (.invalidEventTypes eventTypes) ++
      when (reasons ≠ []) (.invalidFailureReasons reasons) ++
      when (amounts > 0) (.nonPositiveAmounts amounts) ++
      when (unparseable > 0) (.unparseableTimestamps unparseable) }

end DataValidator

/-- A row without missing values. -/
structure Row (τ : Type := Bool) where
  schemaVersion : Text
  eventId : Text
  eventType : Text
  customerId : Text
  amountPaise : Int
  currency : Text
  failureReason : Text
  occurredAt : Text
  paymentMethod : Text
  deviceType : Text
  country : Text
  retryCount : Int
  recovered : τ
  isSynthetic : Bool
  split : Text
  deriving DecidableEq

def Row.raw {τ : Type} (row : Row τ) : RawEvent τ where
  schemaVersion := some row.schemaVersion
  eventId := some row.eventId
  eventType := some row.eventType
  customerId := some row.customerId
  amountPaise := some row.amountPaise
  currency := some row.currency
  failureReason := some row.failureReason
  occurredAt := some row.occurredAt
  paymentMethod := some row.paymentMethod
  deviceType := some row.deviceType
  country := some row.country
  retryCount := some row.retryCount
  recovered := some row.recovered
  isSynthetic := some row.isSynthetic
  split := some row.split

@[simp] theorem when_eq_nil {condition : Bool} {error : DataError} : when condition error = [] ↔ condition = false := by
  cases condition <;> simp [when]

theorem invalidValues_eq_nil {valid : List Text} {column : List (Option Text)} :
    invalidValues valid column = [] ↔ ∀ value, some value ∈ column → value ∈ valid := by
  rw [invalidValues, List.eq_nil_iff_forall_not_mem]
  simp

theorem nunique_some {values : List Text} : nunique (values.map some) = values.length ↔ values.Nodup := by
  have hvalues : (values.map some).filterMap id = values := by simp
  rw [nunique, hvalues]
  constructor
  · intro hlen
    rw [← (List.dedup_sublist values).eq_of_length hlen]
    exact List.nodup_dedup values
  · intro hn
    rw [hn.dedup]

variable {τ : Type} {timestamps : Timestamps} {df : List (RawEvent τ)} {rows : List (Row τ)}

/-- What a table without missing values must have for both validators. -/
structure ValidRows {τ : Type} (timestamps : Timestamps) (rows : List (Row τ)) : Prop where
  ids : (rows.map Row.eventId).Nodup
  types : ∀ row ∈ rows, row.eventType ∈ validEventTypes
  reasons : ∀ row ∈ rows, row.failureReason ∈ validFailureReasons
  amounts : ∀ row ∈ rows, 0 < row.amountPaise
  instants : ∀ row ∈ rows, ∃ n,
    timestamps.toDatetime (rows.map fun row => some row.occurredAt) row.occurredAt = some n

theorem exists_raw {e : RawEvent τ} (h : ∀ column ∈ requiredRawColumns, column.2 e = false) :
    ∃ row : Row τ, row.raw = e := by
  simp only [requiredRawColumns, List.forall_mem_cons, Option.isNone_eq_false_iff, Option.isSome_iff_exists] at h
  obtain ⟨⟨a, ha⟩, ⟨b, hb⟩, ⟨c, hc⟩, ⟨d, hd⟩, ⟨f, hf⟩, ⟨g, hg⟩, ⟨i, hi⟩, ⟨j, hj⟩, ⟨k, hk⟩, ⟨l, hl⟩, ⟨m, hm⟩, ⟨n, hn⟩,
    ⟨o, ho⟩, ⟨p, hp⟩, ⟨q, hq⟩, -⟩ := h
  refine ⟨⟨a, b, c, d, f, g, i, j, k, l, m, n, o, p, q⟩, ?_⟩
  cases e
  simp_all [Row.raw]

theorem raw_injective : Function.Injective fun row : Row τ => row.raw := by
  intro a b hab
  cases a
  cases b
  simp_all [Row.raw]

theorem exists_rows (h : ∀ e ∈ df, ∃ row : Row τ, row.raw = e) : ∃ rows : List (Row τ), df = rows.map Row.raw := by
  induction df with
  | nil => exact ⟨[], rfl⟩
  | cons e df ih =>
      obtain ⟨row, hrow⟩ := h e List.mem_cons_self
      obtain ⟨rows, hrows⟩ := ih fun e he => h e (List.mem_cons_of_mem _ he)
      exact ⟨row :: rows, by rw [List.map_cons, hrow, hrows]⟩

/-- A table that `validate_dataframe` accepts has no missing value and passes every check. -/
theorem valid_of_validateDataframe (h : (DataValidator.validateDataframe timestamps df).isValid) :
    ∃ rows : List (Row τ), df = rows.map Row.raw ∧ ValidRows timestamps rows := by
  simp only [ValidationReport.isValid, DataValidator.validateDataframe, List.isEmpty_iff, List.append_eq_nil_iff,
    List.flatMap_eq_nil_iff, List.forall_mem_map, when_eq_nil, decide_eq_false_iff_not, not_not, not_lt,
    Nat.le_zero, gt_iff_lt, List.countP_eq_zero, invalidValues_eq_nil] at h
  obtain ⟨⟨⟨⟨⟨hids, hmissing⟩, htypes⟩, hreasons⟩, hamounts⟩, hinstants⟩ := h
  have hpresent : ∀ e ∈ df, ∃ row : Row τ, row.raw = e := by
    intro e he
    exact exists_raw fun column hc => by simpa using hmissing column hc e he
  obtain ⟨rows, rfl⟩ := exists_rows hpresent
  refine ⟨rows, rfl, ?_, ?_, ?_, ?_, ?_⟩
  · apply nunique_some.mp
    simpa [Row.raw, Function.comp_def] using hids
  · intro row hrow
    apply htypes
    simpa using ⟨row, hrow, rfl⟩
  · intro row hrow
    apply hreasons
    simpa using ⟨row, hrow, rfl⟩
  · intro row hrow
    simpa [Row.raw] using hamounts row.raw (List.mem_map_of_mem hrow)
  · intro row hrow
    have hrow := hinstants row.raw (List.mem_map_of_mem hrow)
    apply Option.ne_none_iff_exists'.mp
    simpa [Row.raw, Function.comp_def] using hrow

end RevenueRescue.Pipeline
