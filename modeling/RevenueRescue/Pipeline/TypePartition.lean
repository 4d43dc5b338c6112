import RevenueRescue.Pipeline.HistoryMeaning

namespace RevenueRescue.Pipeline

open Window

/-- The name of an abandoned checkout that the counters do not know. -/
def checkoutAbandonment : Text := "CHECKOUT_ABANDONMENT".toList

/-- The counts by type add up to the prior events. -/
def HistoryFeatures.Partitioned (history : HistoryFeatures) : Prop :=
  history.custPriorCheckoutAbandoned + history.custPriorFailedPayment + history.custPriorFailedSubscription =
    history.custPriorEvents

section Table

variable {α κ : Type} [LinearOrder κ] (key : α → κ) (customer : α → Text) (rows : List α)

/-- The rows of its customer above a row of the sorted table. -/
def Above (prior : List α) (e : α) : Prop :=
  ∃ before, (before, e) ∈ withPreceding [] (orderBy key rows) ∧ prior = before.filter fun a => customer a = customer e

/-- No history is too long for a 16-bit counter. -/
def ShortHistories : Prop := ∀ prior e, Above key customer rows prior e → prior.length < 32768

/-- An event of the uncounted type is the last one of its customer. -/
def AbandonmentLast (eventType : α → Text) : Prop :=
  ∀ prior e, Above key customer rows prior e → ∀ a ∈ prior, eventType a ≠ checkoutAbandonment

end Table

theorem mem_validEventTypes {value : Text} : value ∈ validEventTypes ↔
    value = failedPayment ∨ value = failedSubscription ∨ value = checkoutAbandonment ∨ value = checkoutAbandoned := by
  simp only [validEventTypes, List.map_cons, List.map_nil, List.mem_cons, List.not_mem_nil, or_false]
  rfl

/-- The four types split a list of events. -/
theorem countP_types {α : Type} {eventType : α → Text} {l : List α} (h : ∀ a ∈ l, eventType a ∈ validEventTypes) :
    l.countP (fun a => eventType a = checkoutAbandoned) + l.countP (fun a => eventType a = failedPayment) +
      l.countP (fun a => eventType a = failedSubscription) + l.countP (fun a => eventType a = checkoutAbandonment) =
    l.length := by
  have hdistinct : [failedPayment, failedSubscription, checkoutAbandonment, checkoutAbandoned].Pairwise fun s t =>
      s ≠ t ∧ t ≠ s := by
    decide +kernel
  simp only [List.pairwise_cons, List.mem_cons, List.not_mem_nil, or_false, forall_eq_or_imp, forall_eq] at hdistinct
  obtain ⟨⟨hps, hpt, hpa⟩, ⟨hst, hsa⟩, hta, -⟩ := hdistinct
  induction l with
  | nil => rfl
  | cons a l ih =>
      have hrest := ih fun b hb => h b (List.mem_cons_of_mem _ hb)
      simp only [List.countP_cons, List.length_cons]
      rcases mem_validEventTypes.mp (h a List.mem_cons_self) with ht | ht | ht | ht <;> rw [ht]
      · simp only [hps.1, hpt.1, hpa.1, decide_true, decide_false, if_true, Bool.false_eq_true, if_false]
        omega
      · simp only [hps.2, hst.1, hsa.1, decide_true, decide_false, if_true, Bool.false_eq_true, if_false]
        omega
      · simp only [hpt.2, hst.2, hta.1, decide_true, decide_false, if_true, Bool.false_eq_true, if_false]
        omega
      · simp only [hpa.2, hsa.2, hta.2, decide_true, decide_false, if_true, Bool.false_eq_true, if_false]
        omega

/-- The 16-bit counts of a short history add up if no event is of the uncounted type. -/
theorem counts_add_iff {α : Type} {eventType : α → Text} {l : List α} (h : ∀ a ∈ l, eventType a ∈ validEventTypes)
    (hlen : l.length < 32768) :
    int16 (l.countP fun a => eventType a = checkoutAbandoned) + int16 (l.countP fun a => eventType a = failedPayment) +
        int16 (l.countP fun a => eventType a = failedSubscription) = int16 l.length ↔
      ∀ a ∈ l, eventType a ≠ checkoutAbandonment := by
  have hcount (p : α → Bool) : int16 (l.countP p) = l.countP p := by
    have hle := List.countP_le_length (p := p) (l := l)
    exact int16_of_small (by omega) (by omega)
  have hlength : int16 l.length = l.length := int16_of_small (by omega) (by omega)
  have htypes := countP_types h
  have hzero : l.countP (fun a => eventType a = checkoutAbandonment) = 0 ↔ ∀ a ∈ l, eventType a ≠ checkoutAbandonment := by
    simp only [List.countP_eq_zero, decide_eq_true_eq, ne_eq]
  rw [← hzero]
  simp only [hcount, hlength]
  omega

theorem mem_of_above {α κ : Type} [LinearOrder κ] {key : α → κ} {customer : α → Text} {rows prior : List α} {e a : α}
    (h : Above key customer rows prior e) (ha : a ∈ prior) : a ∈ rows := by
  obtain ⟨before, hrow, rfl⟩ := h
  obtain ⟨front, back, hsorted, hbefore⟩ := mem_withPreceding.mp hrow
  have hmem : a ∈ front := by
    rw [hbefore] at ha
    exact (List.mem_filter.mp ha).1
  have hall : a ∈ orderBy key rows := by
    rw [hsorted]
    exact List.mem_append_left _ hmem
  exact mem_orderBy.mp hall

theorem short_of_length {α κ : Type} [LinearOrder κ] {key : α → κ} {customer : α → Text} {rows : List α}
    (h : rows.length ≤ 32768) : ShortHistories key customer rows := by
  rintro prior e ⟨before, hrow, rfl⟩
  obtain ⟨front, back, hsorted, hbefore⟩ := mem_withPreceding.mp hrow
  have hlen := congrArg List.length hsorted
  rw [(orderBy_perm key rows).length_eq, List.length_append, List.length_cons] at hlen
  have hfilter := List.length_filter_le (fun a => customer a = customer e) before
  rw [hbefore, List.nil_append] at hfilter ⊢
  omega

namespace PandasPreprocessor

variable {events : List Event}

/-- A short history has its features unless two timestamps are too far apart
to subtract, and their counts add up unless it has an event of the uncounted type. -/
theorem pandas_partitioned_iff (htypes : ∀ e ∈ events, e.eventType ∈ validEventTypes)
    (hshort : ShortHistories sequenceOrder Event.customerId events) :
    (∃ table, addHistoryFeatures64 events = .ok table ∧ ∀ row ∈ table, row.2.Partitioned) ↔
      Near events ∧ AbandonmentLast sequenceOrder Event.customerId events Event.eventType := by
  have hok : addHistoryFeatures events = .ok (historyTable events) := by
    refine addHistoryFeatures_ok fun before e hrow hzero => ?_
    have hlen := hshort _ e ⟨before, hrow, rfl⟩
    rw [int16_of_small (by omega) (by exact_mod_cast hlen)] at hzero
    exact List.eq_nil_of_length_eq_zero (by exact_mod_cast hzero)
  have hrows {before : List Event} {e : Event} (hrow : (before, e) ∈ withPreceding [] (orderBy sequenceOrder events)) :
      (historyOf64 before e).Partitioned ↔ ∀ a ∈ group Event.customerId before e, a.eventType ≠ checkoutAbandonment := by
    have habove : Above sequenceOrder Event.customerId events (group Event.customerId before e) e := ⟨before, hrow, rfl⟩
    rw [← counts_add_iff (fun a ha => htypes a (mem_of_above habove ha)) (hshort _ e habove)]
    simp only [HistoryFeatures.Partitioned, historyOf64_group rfl]
  constructor
  · rintro ⟨table, htable, h⟩
    obtain ⟨rfl, hnear, -⟩ := addHistoryFeatures64_eq_ok.mp htable
    refine ⟨hnear, ?_⟩
    rintro prior e ⟨before, hrow, rfl⟩
    exact (hrows hrow).mp (h (e, historyOf64 before e) (List.mem_map.mpr ⟨(before, e), hrow, rfl⟩))
  · rintro ⟨hnear, h⟩
    refine ⟨_, addHistoryFeatures64_eq_ok.mpr ⟨rfl, hnear, _, hok⟩, fun row hrow => ?_⟩
    obtain ⟨⟨before, e⟩, hpreceding, rfl⟩ := List.mem_map.mp hrow
    exact (hrows hpreceding).mpr (h _ e ⟨before, hpreceding, rfl⟩)

end PandasPreprocessor

namespace SparkBigDataPipeline

/-- The events that `transform` starts from. -/
def sparkEvents (timestamps : Timestamps) (rows : List Row) : Option (List SparkEvent) :=
  rows.mapM fun row => (timestamps.toTimestamp row.occurredAt).map (eventOf row)

variable {events : List SparkEvent}

theorem sum_sparkFlag (eventType : Text) (l : List SparkEvent) :
    (l.map (typeFlag eventType)).sum = l.countP fun a => a.eventType = eventType := by
  rw [← PandasPreprocessor.sum_flag]
  simp only [decide_eq_true_eq]
  rfl

theorem spark_partitioned_iff (htypes : ∀ e ∈ events, e.eventType ∈ validEventTypes)
    (hshort : ShortHistories order SparkEvent.customerId events) :
    (∀ row ∈ historyTable events, row.2.Partitioned) ↔
      AbandonmentLast order SparkEvent.customerId events SparkEvent.eventType := by
  have hrows {before : List SparkEvent} {e : SparkEvent} (hrow : (before, e) ∈ withPreceding [] (orderBy order events)) :
      (historyOf before e).Partitioned ↔
        ∀ a ∈ frame SparkEvent.customerId before e, a.eventType ≠ checkoutAbandonment := by
    have habove : Above order SparkEvent.customerId events (frame SparkEvent.customerId before e) e := ⟨before, hrow, rfl⟩
    rw [← counts_add_iff (fun a ha => htypes a (mem_of_above habove ha)) (hshort _ e habove)]
    simp only [HistoryFeatures.Partitioned, historyOf, priorCountOf, add_sub_cancel_right, sum_sparkFlag]
  constructor
  · rintro h prior e ⟨before, hrow, rfl⟩
    exact (hrows hrow).mp (h (e, historyOf before e) (List.mem_map.mpr ⟨(before, e), hrow, rfl⟩))
  · intro h row hrow
    obtain ⟨⟨before, e⟩, hpreceding, rfl⟩ := List.mem_map.mp hrow
    exact (hrows hpreceding).mpr (h _ e ⟨before, hpreceding, rfl⟩)

theorem sparkEvents_types {timestamps : Timestamps} {rows : List Row} (h : sparkEvents timestamps rows = some events)
    (hrows : ∀ row ∈ rows, row.eventType ∈ validEventTypes) : ∀ e ∈ events, e.eventType ∈ validEventTypes := by
  intro e he
  obtain ⟨row, hrow, hevent⟩ := exists_of_mapM h he
  obtain ⟨micros, -, rfl⟩ := Option.map_eq_some_iff.mp hevent
  exact hrows row hrow

end SparkBigDataPipeline

open PandasPreprocessor SparkBigDataPipeline

variable {timestamps : Timestamps} {df : List RawEvent}

theorem clean_types {rows : List Row} (h : ValidRows timestamps rows) :
    ∀ e ∈ rows.map (pandasEvent timestamps rows), e.eventType ∈ validEventTypes := by
  have hstrip : ∀ value ∈ validEventTypes, Text.strip value = value := by decide +kernel
  intro e he
  obtain ⟨row, hrow, rfl⟩ := List.mem_map.mp he
  have htype := h.types row hrow
  show row.eventType.strip ∈ validEventTypes
  rwa [hstrip _ htype]

/-- On short histories of an admitted table the counts by type add up to the
prior events, in either pipeline, if and only if no event of the type
`CHECKOUT_ABANDONMENT` is followed by another one of its customer; for pandas
the timestamps of a customer must also be near enough to subtract. -/
theorem types_partitioned_iff (h : (DataValidator.validateDataframe timestamps df).isValid) :
    ∃ rows : List Row, df = rows.map Row.raw ∧
      (∃ events, clean timestamps rows = some events ∧
        (ShortHistories sequenceOrder Event.customerId events →
          ((∃ table, addHistoryFeatures64 events = .ok table ∧ ∀ row ∈ table, row.2.Partitioned) ↔
            Near events ∧ AbandonmentLast sequenceOrder Event.customerId events Event.eventType))) ∧
      ∀ events, sparkEvents timestamps rows = some events → ShortHistories order SparkEvent.customerId events →
        ((∀ row ∈ SparkBigDataPipeline.historyTable events, row.2.Partitioned) ↔
          AbandonmentLast order SparkEvent.customerId events SparkEvent.eventType) := by
  obtain ⟨rows, rfl, hvalid⟩ := valid_of_validateDataframe h
  refine ⟨rows, rfl, ⟨_, clean_rows hvalid, pandas_partitioned_iff (clean_types hvalid)⟩, fun events hevents hshort => ?_⟩
  exact spark_partitioned_iff (sparkEvents_types hevents hvalid.types) hshort

theorem abandonmentLast_of_types {α κ : Type} [LinearOrder κ] {key : α → κ} {customer eventType : α → Text}
    {rows : List α} (h : ∀ a ∈ rows, eventType a ≠ checkoutAbandonment) : AbandonmentLast key customer rows eventType :=
  fun _ _ habove a ha => h a (mem_of_above habove ha)

theorem types_partitioned_iff_sample :
    (∃ events table, clean sampleTimestamps sampleRows = some events ∧ addHistoryFeatures64 events = .ok table ∧
      ∀ row ∈ table, row.2.Partitioned) ∧
    ∃ events, sparkEvents sampleTimestamps sampleRows = some events ∧
      ∀ row ∈ SparkBigDataPipeline.historyTable events, row.2.Partitioned := by
  obtain ⟨rows, hrows, ⟨events, hclean, hpandas⟩, hspark⟩ := types_partitioned_iff sample_valid.1
  obtain rfl := List.map_injective_iff.mpr raw_injective hrows
  obtain rfl := Option.some.inj (sample_clean.symm.trans hclean)
  constructor
  · obtain ⟨table, hok, hall⟩ := (hpandas (short_of_length (by decide))).mpr
      ⟨sample_near, abandonmentLast_of_types (by decide +kernel)⟩
    exact ⟨_, table, hclean, hok, hall⟩
  · have hevents := spark_events sample_accepted
    exact ⟨_, hevents, (hspark _ hevents (short_of_length (by decide))).mpr (abandonmentLast_of_types (by decide +kernel))⟩

def abandonedRows : List Row := [{ firstRow with eventType := checkoutAbandonment }, secondRow]

/-- An abandoned checkout under its other name is not counted by type. -/
theorem types_not_partitioned :
    (DataValidator.validateDataframe sampleTimestamps (abandonedRows.map Row.raw)).isValid = true ∧
      ∃ events, clean sampleTimestamps abandonedRows = some events ∧
        ShortHistories sequenceOrder Event.customerId events ∧
        ∃ table, addHistoryFeatures64 events = .ok table ∧ ¬ ∀ row ∈ table, row.2.Partitioned := by
  have hvalid : (DataValidator.validateDataframe sampleTimestamps (abandonedRows.map Row.raw)).isValid = true := by
    decide +kernel
  have hclean : clean sampleTimestamps abandonedRows =
      some (abandonedRows.map (pandasEvent sampleTimestamps abandonedRows)) := by decide +kernel
  have htypes : ∀ e ∈ abandonedRows.map (pandasEvent sampleTimestamps abandonedRows), e.eventType ∈ validEventTypes := by
    decide +kernel
  have hshort : ShortHistories sequenceOrder Event.customerId
      (abandonedRows.map (pandasEvent sampleTimestamps abandonedRows)) := short_of_length (by decide)
  have hcount : PandasPreprocessor.Countable (abandonedRows.map (pandasEvent sampleTimestamps abandonedRows)) := by
    intro e he
    exact (List.length_filter_le _ _).trans (by decide)
  have hids : ((abandonedRows.map (pandasEvent sampleTimestamps abandonedRows)).map Event.eventId).Nodup := by
    decide +kernel
  obtain ⟨table, hok⟩ := (returns64_iff hids).mpr ⟨hcount, near_iff.mpr (by decide +kernel)⟩
  refine ⟨hvalid, _, hclean, hshort, table, hok, fun hpartitioned => ?_⟩
  have hrow : ([pandasEvent sampleTimestamps abandonedRows { firstRow with eventType := checkoutAbandonment }],
      pandasEvent sampleTimestamps abandonedRows secondRow) ∈ withPreceding [] (orderBy sequenceOrder
        (abandonedRows.map (pandasEvent sampleTimestamps abandonedRows))) := by decide +kernel
  have hcustomer : (pandasEvent sampleTimestamps abandonedRows { firstRow with eventType := checkoutAbandonment }).customerId =
      (pandasEvent sampleTimestamps abandonedRows secondRow).customerId := by decide +kernel
  have hlast := ((pandas_partitioned_iff htypes hshort).mp ⟨table, hok, hpartitioned⟩).2
  refine hlast _ _ ⟨_, hrow, rfl⟩ _ (List.mem_filter.mpr ⟨List.mem_cons_self, decide_eq_true hcustomer⟩) ?_
  decide +kernel

end RevenueRescue.Pipeline
