import RevenueRescue.Pipeline.Parity

namespace RevenueRescue.Pipeline.PandasPreprocessor

open Window

/-- The definitions of the features over the prior events of an event. -/
structure Means (prior : List Event) (e : Event) (history : HistoryFeatures) : Prop where
  events : history.custPriorEvents = prior.length
  amountMean : history.custPriorAmountMean =
    if prior = [] then none else some (((prior.map Event.amountPaise).sum : ℚ) / prior.length)
  retryTotal : history.custPriorRetryTotal = (prior.map Event.retryCount).sum
  checkoutAbandoned : history.custPriorCheckoutAbandoned = prior.countP fun a => a.eventType = checkoutAbandoned
  failedPayment : history.custPriorFailedPayment = prior.countP fun a => a.eventType = failedPayment
  failedSubscription : history.custPriorFailedSubscription = prior.countP fun a => a.eventType = failedSubscription
  sameFailureReason : history.custPriorSameFailureReason = prior.countP fun a => a.failureReason = e.failureReason

/-- Every event gets the history that the definitions give it. -/
def HistoryMeant (events : List Event) : Prop :=
  ∃ table, addHistoryFeatures64 events = .ok table ∧ (table.map Prod.fst).Perm events ∧
    ∀ row ∈ table, Means (priors events row.1) row.1 row.2

/-- The columns hold every count, sum and difference, and the order is one of events. -/
structure Fits (events : List Event) : Prop where
  distinct : (events.map sequenceOrder).Nodup
  near : Near events
  counts : ∀ e ∈ events, (priors events e).length < 32768
  retries : ∀ e ∈ events, -32768 ≤ ((priors events e).map Event.retryCount).sum ∧
    ((priors events e).map Event.retryCount).sum < 32768
  amounts : ∀ e ∈ events, ((priors events e).map Event.amountPaise).sum < 9223372036854775808

variable {events before front back : List Event} {e a b : Event} {history : HistoryFeatures} {x : Int}

theorem int16_eq_self_iff : int16 x = x ↔ -32768 ≤ x ∧ x < 32768 := by
  unfold int16
  rw [Int.bmod_def]
  split_ifs <;> omega

theorem int64_eq_self_iff : int64 x = x ↔ -9223372036854775808 ≤ x ∧ x < 9223372036854775808 := by
  unfold int64
  rw [Int.bmod_def]
  split_ifs <;> omega

theorem sum_flag {α : Type} (p : α → Bool) (l : List α) :
    (l.map fun a => if p a then (1 : Int) else 0).sum = l.countP p := by
  induction l with
  | nil => rfl
  | cons a l ih =>
      rw [List.map_cons, List.sum_cons, ih, List.countP_cons]
      by_cases ht : p a = true <;> simp [ht, add_comm]

theorem sum_typeFlag (eventType : Text) (l : List Event) :
    (l.map (typeFlag eventType)).sum = l.countP fun a => a.eventType = eventType := by
  rw [← sum_flag]
  simp only [decide_eq_true_eq]
  rfl

/-- The columns of an event read the rows of its customer above it. -/
theorem historyOf64_group {prior : List Event} (h : group Event.customerId before e = prior) :
    historyOf64 before e =
    { custPriorEvents := int16 prior.length
      hoursSincePrevEvent := prior.getLast?.map fun prev =>
        ((e.occurredAt - prev.occurredAt : Int) : ℚ) / 1000000000 / 3600
      custPriorAmountMean := if int16 prior.length = 0 then none
        else some (int64 (prior.map Event.amountPaise).sum / int16 prior.length)
      custPriorRetryTotal := int16 (prior.map Event.retryCount).sum
      custPriorCheckoutAbandoned := int16 (prior.countP fun a => a.eventType = checkoutAbandoned)
      custPriorFailedPayment := int16 (prior.countP fun a => a.eventType = failedPayment)
      custPriorFailedSubscription := int16 (prior.countP fun a => a.eventType = failedSubscription)
      custPriorSameFailureReason := int16 (prior.countP fun a => a.failureReason = e.failureReason) } := by
  have hreason : (group (fun a => (a.customerId, a.failureReason)) before e).length =
      prior.countP fun a => a.failureReason = e.failureReason := by
    rw [← h, group, group, List.countP_filter, List.countP_eq_length_filter]
    congr 2
    funext a
    simp only [Prod.mk.injEq, Bool.decide_and, Bool.and_comm]
  simp only [historyOf64, historyOf, priorOfType, cumcount, cumsum, shift, h, hreason, add_sub_cancel_right,
    Option.map_map, Function.comp_def, sum_typeFlag]

/-- A history means what it should if the three sums fit; the counts are no longer than the history. -/
theorem means_iff {prior : List Event} (h : group Event.customerId before e = prior)
    (hamounts : 0 ≤ (prior.map Event.amountPaise).sum) : Means prior e (historyOf64 before e) ↔
      prior.length < 32768 ∧
      (-32768 ≤ (prior.map Event.retryCount).sum ∧ (prior.map Event.retryCount).sum < 32768) ∧
      (prior.map Event.amountPaise).sum < 9223372036854775808 := by
  rw [historyOf64_group h]
  constructor
  · intro hm
    have hevents : int16 prior.length = prior.length := by simpa only using hm.events
    have hretries : int16 (prior.map Event.retryCount).sum = (prior.map Event.retryCount).sum := by
      simpa only using hm.retryTotal
    have hlen := (int16_eq_self_iff.mp hevents).2
    refine ⟨by omega, int16_eq_self_iff.mp hretries, ?_⟩
    by_cases hnil : prior = []
    · rw [hnil]
      decide
    · have hpos := List.length_pos_of_ne_nil hnil
      have hmean := hm.amountMean
      simp only [hevents] at hmean
      have hlength : (prior.length : ℚ) ≠ 0 := by exact_mod_cast hpos.ne'
      rw [if_neg (by omega), if_neg hnil, Option.some.injEq, Int.cast_natCast, div_left_inj' hlength,
        Int.cast_inj] at hmean
      exact (int64_eq_self_iff.mp hmean).2
  · rintro ⟨hlen, hretries, hsum⟩
    have hcount (p : Event → Bool) : int16 (prior.countP p) = prior.countP p := by
      have hle := List.countP_le_length (p := p) (l := prior)
      exact int16_of_small (by omega) (by omega)
    have hlength : int16 prior.length = prior.length := int16_of_small (by omega) (by omega)
    have hretry : int16 (prior.map Event.retryCount).sum = (prior.map Event.retryCount).sum :=
      int16_eq_self_iff.mpr hretries
    have hamount : int64 (prior.map Event.amountPaise).sum = (prior.map Event.amountPaise).sum :=
      int64_eq_self_iff.mpr ⟨by omega, hsum⟩
    simp only [hlength, hretry, hamount, hcount]
    refine ⟨rfl, ?_, rfl, rfl, rfl, rfl, rfl⟩
    simp only [Nat.cast_eq_zero, List.length_eq_zero_iff, Int.cast_natCast]

theorem prior_congr (hab : sequenceOrder a = sequenceOrder b) : priors events a = priors events b := by
  obtain ⟨hcustomer, hrest⟩ := Prod.ext_iff.mp hab
  have hcustomer : a.customerId = b.customerId := hcustomer
  have horder : eventOrder a = eventOrder b := hrest
  simp only [priors, ofCustomer, hcustomer, horder]

/-- Two events at the same place of the order have the same prior events, but
the lower row counts one more. -/
theorem distinct_of_meant (hm : ∀ row ∈ historyTable64 events, Means (priors events row.1) row.1 row.2) :
    (events.map sequenceOrder).Nodup := by
  have hcounted {before : List Event} {e : Event}
      (hrow : (before, e) ∈ withPreceding [] (orderBy sequenceOrder events)) :
      int16 (group Event.customerId before e).length = (priors events e).length := by
    have hevents := (hm (e, historyOf64 before e) (List.mem_map.mpr ⟨_, hrow, rfl⟩)).events
    simp only [historyOf64_group rfl] at hevents
    exact hevents
  have hchain : (orderBy sequenceOrder events).IsChain fun a b => sequenceOrder a < sequenceOrder b := by
    rw [List.isChain_iff_forall_rel_of_append_cons_cons]
    intro a b front back hsorted
    have hpairwise := orderBy_pairwise sequenceOrder events
    rw [hsorted] at hpairwise
    have hle : sequenceOrder a ≤ sequenceOrder b :=
      (List.pairwise_cons.mp (List.pairwise_append.mp hpairwise).2.1).1 b List.mem_cons_self
    refine hle.lt_of_ne fun hab => ?_
    have ha := hcounted (mem_withPreceding.mpr ⟨front, b :: back, hsorted, rfl⟩)
    have hb := hcounted (mem_withPreceding.mpr ⟨front ++ [a], back, by rw [hsorted, List.append_assoc]; rfl, rfl⟩)
    have hcustomer : a.customerId = b.customerId := (Prod.ext_iff.mp hab).1
    have hgroup : (group Event.customerId ([] ++ (front ++ [a])) b).length =
        (group Event.customerId ([] ++ front) a).length + 1 := by
      simp [group, hcustomer]
    rw [hgroup, ← prior_congr hab, ← ha] at hb
    unfold int16 at hb
    rw [Int.bmod_def, Int.bmod_def] at hb
    split_ifs at hb <;> omega
  have hstrict := List.isChain_iff_pairwise.mp hchain
  have hnodup : ((orderBy sequenceOrder events).map sequenceOrder).Nodup :=
    List.pairwise_map.mpr (hstrict.imp fun hab => hab.ne)
  exact ((orderBy_perm sequenceOrder events).map sequenceOrder).nodup_iff.mp hnodup

theorem sum_amounts_nonneg (h : ∀ a ∈ events, 0 < a.amountPaise) (e : Event) :
    0 ≤ ((priors events e).map Event.amountPaise).sum := by
  apply List.sum_nonneg
  intro x hx
  obtain ⟨a, ha, rfl⟩ := List.mem_map.mp hx
  exact (h a (mem_priors.mp ha).1).le

/-- The histories of a table of positive amounts mean what they should if it fits. -/
theorem meant_iff_fits (h : ∀ a ∈ events, 0 < a.amountPaise) : HistoryMeant events ↔ Fits events := by
  constructor
  · rintro ⟨table, hok, -, hm⟩
    obtain ⟨rfl, hnear, -⟩ := addHistoryFeatures64_eq_ok.mp hok
    have hkeys := distinct_of_meant hm
    have hrow {e : Event} (he : e ∈ events) :=
      (means_iff group_priors (sum_amounts_nonneg h e)).mp (hm _ ((mem_historyTable64 hkeys).mpr ⟨he, rfl⟩))
    exact ⟨hkeys, hnear, fun e he => (hrow he).1, fun e he => (hrow he).2.1, fun e he => (hrow he).2.2⟩
  · intro hfits
    have hok : addHistoryFeatures events = .ok (historyTable events) := by
      refine addHistoryFeatures_distinct hfits.distinct fun e he hzero => ?_
      rw [int16_of_small (by omega) (by exact_mod_cast hfits.counts e he)] at hzero
      exact List.eq_nil_of_length_eq_zero (by exact_mod_cast hzero)
    refine ⟨_, addHistoryFeatures64_eq_ok.mpr ⟨rfl, hfits.near, _, hok⟩, historyTable64_complete events, ?_⟩
    rintro ⟨e, history⟩ hrow
    obtain ⟨he, rfl⟩ := (mem_historyTable64 hfits.distinct).mp hrow
    exact (means_iff group_priors (sum_amounts_nonneg h e)).mpr
      ⟨hfits.counts e he, hfits.retries e he, hfits.amounts e he⟩

variable {timestamps : Timestamps} {df : List RawEvent}

theorem amounts_clean {rows : List Row} (h : ValidRows timestamps rows) :
    ∀ a ∈ rows.map (pandasEvent timestamps rows), 0 < a.amountPaise := by
  intro a ha
  obtain ⟨row, hrow, rfl⟩ := List.mem_map.mp ha
  exact h.amounts row hrow

/-- On a table that `validate_dataframe` accepts the features are what their
definitions say if and only if no column wraps, no two timestamps are too far
apart to subtract and no two events are the same in the order of the history. -/
theorem history_meant_iff (h : (DataValidator.validateDataframe timestamps df).isValid) :
    ∃ rows : List Row, df = rows.map Row.raw ∧
      ∃ events, clean timestamps rows = some events ∧ (HistoryMeant events ↔ Fits events) := by
  obtain ⟨rows, rfl, hvalid⟩ := valid_of_validateDataframe h
  exact ⟨rows, rfl, _, clean_rows hvalid, meant_iff_fits (amounts_clean hvalid)⟩

theorem sample_clean : clean sampleTimestamps sampleRows = some (sampleRows.map (pandasEvent sampleTimestamps sampleRows)) :=
  clean_rows sample_accepted.toValidRows

theorem sample_near : Near (sampleRows.map (pandasEvent sampleTimestamps sampleRows)) := near_iff.mpr (by decide +kernel)

theorem sample_fits : Fits (sampleRows.map (pandasEvent sampleTimestamps sampleRows)) where
  distinct := by decide +kernel
  near := sample_near
  counts := by decide +kernel
  retries := by decide +kernel
  amounts := by decide +kernel

theorem history_meant_iff_sample : ∃ events, clean sampleTimestamps sampleRows = some events ∧ HistoryMeant events := by
  obtain ⟨rows, hrows, events, hclean, hiff⟩ := history_meant_iff sample_valid.1
  obtain rfl := List.map_injective_iff.mpr raw_injective hrows
  obtain rfl := Option.some.inj (sample_clean.symm.trans hclean)
  exact ⟨_, hclean, hiff.mpr sample_fits⟩

def retriedRows : List Row := [{ firstRow with retryCount := 40000 }, secondRow]

/-- After 40000 retries the 16-bit total is negative. -/
theorem history_not_meant : (DataValidator.validateDataframe sampleTimestamps (retriedRows.map Row.raw)).isValid = true ∧
    ∃ events, clean sampleTimestamps retriedRows = some events ∧ ¬ HistoryMeant events := by
  have hvalid : (DataValidator.validateDataframe sampleTimestamps (retriedRows.map Row.raw)).isValid = true := by
    decide +kernel
  have hsecond : secondRow ∈ retriedRows := List.mem_cons_of_mem _ List.mem_cons_self
  refine ⟨hvalid, (retriedRows.map (pandasEvent sampleTimestamps retriedRows)), by decide +kernel, fun hm => ?_⟩
  have hpositive : ∀ a ∈ retriedRows.map (pandasEvent sampleTimestamps retriedRows), 0 < a.amountPaise := by
    decide +kernel
  have htotal : ((priors (retriedRows.map (pandasEvent sampleTimestamps retriedRows))
      (pandasEvent sampleTimestamps retriedRows secondRow)).map Event.retryCount).sum = 40000 := by
    decide +kernel
  have hfits := ((meant_iff_fits hpositive).mp hm).retries _ (List.mem_map_of_mem hsecond)
  omega

end RevenueRescue.Pipeline.PandasPreprocessor
