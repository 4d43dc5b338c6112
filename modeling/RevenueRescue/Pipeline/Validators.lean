import RevenueRescue.Pipeline.Parity

namespace RevenueRescue.Pipeline

open Window SparkBigDataPipeline

/-- The required columns that Spark does not look at. -/
def pandasOnlyColumns : List (String × (RawEvent → Bool)) :=
  [("schema_version", fun e => e.schemaVersion.isNone), ("currency", fun e => e.currency.isNone),
    ("payment_method", fun e => e.paymentMethod.isNone), ("device_type", fun e => e.deviceType.isNone),
    ("country", fun e => e.country.isNone), ("is_synthetic", fun e => e.isSynthetic.isNone),
    ("split", fun e => e.split.isNone)]

/-- The checks that both validators make. -/
structure PassesShared (df : List RawEvent) : Prop where
  ids : nunique (df.map RawEvent.eventId) = df.length
  present : ∀ column ∈ requiredNonNull, ∀ e ∈ df, column.2 e = false
  types : ∀ value, some value ∈ df.map RawEvent.eventType → value ∈ validEventTypes
  reasons : ∀ value, some value ∈ df.map RawEvent.failureReason → value ∈ validFailureReasons
  amounts : ∀ e ∈ df, ∀ amount, e.amountPaise = some amount → 0 < amount

/-- The checks of `validate_dataframe` alone. -/
structure PassesPandas (timestamps : Timestamps) (df : List RawEvent) : Prop where
  present : ∀ column ∈ pandasOnlyColumns, ∀ e ∈ df, column.2 e = false
  instants : ∀ e ∈ df, ∀ text, e.occurredAt = some text →
    (timestamps.toDatetime (df.map RawEvent.occurredAt) text).isSome

/-- The checks of the Spark pipeline alone. -/
structure PassesSpark (timestamps : Timestamps) (df : List RawEvent) : Prop where
  rows : df ≠ []
  retries : ∀ e ∈ df, ∀ count, e.retryCount = some count → 0 ≤ count
  instants : ∀ e ∈ df, ∀ text, e.occurredAt = some text → (timestamps.toTimestamp text).isSome

variable {timestamps : Timestamps} {df : List RawEvent}

theorem mem_requiredRawColumns {column : String × (RawEvent → Bool)} :
    column ∈ requiredRawColumns ↔ column ∈ requiredNonNull ∨ column ∈ pandasOnlyColumns := by
  simp only [requiredRawColumns, requiredNonNull, pandasOnlyColumns, List.mem_cons, List.not_mem_nil, or_false]
  tauto

theorem forall_missing {columns : List (String × (RawEvent → Bool))} :
    (columns.map fun column => (column.1, df.countP column.2)).flatMap
        (fun count => when (count.2 > 0) (.missingValues count.1 count.2)) = [] ↔
      ∀ column ∈ columns, ∀ e ∈ df, column.2 e = false := by
  simp only [List.flatMap_eq_nil_iff, List.forall_mem_map, when_eq_nil, decide_eq_false_iff_not, gt_iff_lt, not_lt,
    Nat.le_zero, List.countP_eq_zero, Bool.not_eq_true]

theorem forall_amounts : df.countP (fun e => e.amountPaise.any (· ≤ 0)) = 0 ↔
    ∀ e ∈ df, ∀ amount, e.amountPaise = some amount → 0 < amount := by
  rw [List.countP_eq_zero]
  refine forall₂_congr fun e _ => ?_
  cases e.amountPaise <;> simp

theorem PassesShared.occurredAt (h : PassesShared df) {e : RawEvent} (he : e ∈ df) :
    ∃ text, e.occurredAt = some text := by
  have hpresent := h.present ("occurred_at", fun e => e.occurredAt.isNone) (by simp [requiredNonNull]) e he
  exact Option.isSome_iff_exists.mp (Option.isNone_eq_false_iff.mp hpresent)

theorem pandas_valid_iff : (DataValidator.validateDataframe timestamps df).isValid = true ↔
    PassesShared df ∧ PassesPandas timestamps df := by
  simp only [ValidationReport.isValid, DataValidator.validateDataframe, List.isEmpty_iff, List.append_eq_nil_iff,
    forall_missing, when_eq_nil, decide_eq_false_iff_not, not_not, not_lt, Nat.le_zero, gt_iff_lt, forall_amounts,
    invalidValues_eq_nil]
  constructor
  · rintro ⟨⟨⟨⟨⟨hids, hpresent⟩, htypes⟩, hreasons⟩, hamounts⟩, hinstants⟩
    refine ⟨⟨hids, fun column hc => hpresent column (mem_requiredRawColumns.mpr (.inl hc)), htypes, hreasons, hamounts⟩,
      ⟨fun column hc => hpresent column (mem_requiredRawColumns.mpr (.inr hc)), fun e he text htext => ?_⟩⟩
    have hread := List.countP_eq_zero.mp hinstants e he
    rwa [htext, Option.bind_some, Bool.not_eq_true, Option.isNone_eq_false_iff] at hread
  · rintro ⟨hshared, hpandas⟩
    refine ⟨⟨⟨⟨⟨hshared.ids, fun column hc => ?_⟩, hshared.types⟩, hshared.reasons⟩, hshared.amounts⟩, ?_⟩
    · rcases mem_requiredRawColumns.mp hc with hc | hc
      · exact hshared.present column hc
      · exact hpandas.present column hc
    · refine List.countP_eq_zero.mpr fun e he => ?_
      obtain ⟨text, htext⟩ := hshared.occurredAt he
      rw [htext, Option.bind_some, Bool.not_eq_true, Option.isNone_eq_false_iff]
      exact hpandas.instants e he text htext

theorem spark_valid_iff : (validate timestamps df).isValid = true ↔ PassesShared df ∧ PassesSpark timestamps df := by
  have hretries : df.countP (fun e => e.retryCount.any (· < 0)) = 0 ↔
      ∀ e ∈ df, ∀ count, e.retryCount = some count → 0 ≤ count := by
    rw [List.countP_eq_zero]
    refine forall₂_congr fun e _ => ?_
    cases e.retryCount <;> simp
  have hinstants : df.countP (fun e => e.occurredAt.any fun text => (timestamps.toTimestamp text).isNone) = 0 ↔
      ∀ e ∈ df, ∀ text, e.occurredAt = some text → (timestamps.toTimestamp text).isSome := by
    rw [List.countP_eq_zero]
    refine forall₂_congr fun e _ => ?_
    cases e.occurredAt <;> simp [Option.isSome_iff_ne_none]
  simp only [Report.isValid, validate, List.isEmpty_iff, List.append_eq_nil_iff, forall_missing, when_eq_nil,
    decide_eq_false_iff_not, not_not, not_lt, Nat.le_zero, gt_iff_lt, forall_amounts, invalidValues_eq_nil, hretries,
    hinstants, List.length_eq_zero_iff]
  constructor
  · rintro ⟨⟨⟨⟨⟨⟨⟨hrows, hids⟩, hpresent⟩, hamounts⟩, hcounts⟩, hread⟩, htypes⟩, hreasons⟩
    exact ⟨⟨hids, hpresent, htypes, hreasons, hamounts⟩, ⟨hrows, hcounts, hread⟩⟩
  · rintro ⟨hshared, hspark⟩
    exact ⟨⟨⟨⟨⟨⟨⟨hspark.rows, hshared.ids⟩, hshared.present⟩, hshared.amounts⟩, hspark.retries⟩, hspark.instants⟩,
      hshared.types⟩, hshared.reasons⟩

/-- Both answers agree when a shared check fails, and else when each validator
finds a defect of its own or neither does. -/
theorem validators_agree_iff (timestamps : Timestamps) (df : List RawEvent) :
    ((DataValidator.validateDataframe timestamps df).isValid = true ↔ (validate timestamps df).isValid = true) ↔
      ¬ PassesShared df ∨ (PassesPandas timestamps df ↔ PassesSpark timestamps df) := by
  rw [pandas_valid_iff, spark_valid_iff]
  tauto

/-- A negative count of retries is refused by Spark alone. -/
theorem validators_disagree :
    ¬ ((DataValidator.validateDataframe sampleTimestamps [({ firstRow with retryCount := -1 } : Row).raw]).isValid = true ↔
      (validate sampleTimestamps [({ firstRow with retryCount := -1 } : Row).raw]).isValid = true) := by
  decide +kernel

end RevenueRescue.Pipeline
