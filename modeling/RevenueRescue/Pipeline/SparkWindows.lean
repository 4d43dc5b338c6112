import Mathlib.Algebra.BigOperators.Group.List.Lemmas
import RevenueRescue.Pipeline.SparkPipeline

namespace RevenueRescue.Pipeline.SparkBigDataPipeline

open Window OrderStatistic

/-- The rows of the window in front of an event, in order. -/
def priors (events : List SparkEvent) (e : SparkEvent) : List SparkEvent :=
  below order (events.filter fun a => a.customerId = e.customerId) (order e)

variable {events before : List SparkEvent} {e a : SparkEvent} {h : HistoryFeatures} {seconds : List Int}
variable {k s n : Nat}

theorem mem_priors : a ∈ priors events e ↔ a ∈ events ∧ a.customerId = e.customerId ∧ order a < order e := by
  simp [priors, mem_below, and_assoc]

theorem order_nodup (hids : (events.map SparkEvent.eventId).Nodup) : (events.map order).Nodup := by
  apply List.Nodup.of_map fun key => (ofLex key).2
  rwa [List.map_map]

/-- The frame of a customer is cut out of the rows in front. -/
theorem frame_below (hids : (events.map SparkEvent.eventId).Nodup) :
    frame SparkEvent.customerId (below order events (order e)) e = priors events e := by
  have hnodup := (order_nodup hids).sublist
    (List.filter_sublist.map order : ((events.filter fun a => order a < order e).map order).Sublist _)
  rw [frame, below, filter_orderBy _ hnodup, List.filter_filter, priors, below, List.filter_filter]
  congr 1
  apply List.filter_congr
  intro a _
  exact Bool.and_comm _ _

theorem historyOf_frame : historyOf (frame SparkEvent.customerId before e) e = historyOf before e := by
  have hcustomer : frame SparkEvent.customerId (frame SparkEvent.customerId before e) e =
      frame SparkEvent.customerId before e := filter_key_filter before fun _ h => h
  have hreason : frame (fun a => (a.customerId, a.failureReason)) (frame SparkEvent.customerId before e) e =
      frame (fun a => (a.customerId, a.failureReason)) before e :=
    filter_key_filter before fun _ h => (Prod.ext_iff.mp h).1
  unfold historyOf
  rw [hcustomer, hreason]

theorem mem_historyTable (hids : (events.map SparkEvent.eventId).Nodup) :
    (e, h) ∈ historyTable events ↔ e ∈ events ∧ h = historyOf (priors events e) e := by
  rw [historyTable, mem_map_withPreceding (order_nodup hids), ← frame_below hids, historyOf_frame]

theorem historyTable_events (events : List SparkEvent) : (historyTable events).map Prod.fst = orderBy order events :=
  map_fst_withPreceding historyOf _

theorem frame_priors : frame SparkEvent.customerId (priors events e) e = priors events e := by
  rw [frame, List.filter_eq_self]
  intro a ha
  exact decide_eq_true (mem_priors.mp ha).2.1

/-- The history of an event over the rows of its window. -/
theorem historyOf_priors : historyOf (priors events e) e =
    { custPriorEvents := int16 (priors events e).length
      hoursSincePrevEvent := (priors events e).getLast?.map fun prev =>
        ((e.occurredAtSec - prev.occurredAtSec : Int) : ℚ) / 3600
      custPriorAmountMean := avg ((priors events e).map SparkEvent.amountPaise)
      custPriorRetryTotal := int16 ((priors events e).map SparkEvent.retryCount).sum
      custPriorCheckoutAbandoned := priorCountOf checkoutAbandoned (priors events e)
      custPriorFailedPayment := priorCountOf failedPayment (priors events e)
      custPriorFailedSubscription := priorCountOf failedSubscription (priors events e)
      custPriorSameFailureReason :=
        int16 ((priors events e).countP fun a => a.failureReason = e.failureReason) } := by
  have hreason : frame (fun a => (a.customerId, a.failureReason)) (priors events e) e =
      (priors events e).filter fun a => a.failureReason = e.failureReason := by
    apply List.filter_congr
    intro a ha
    simp [(mem_priors.mp ha).2.1]
  simp only [historyOf, frame_priors, hreason, add_sub_cancel_right, List.countP_eq_length_filter]

/-- The running total at a value counts the values up to it. -/
theorem mem_cumulativeCounts {s : Int} {total : Nat} :
    (s, total) ∈ cumulativeCounts seconds ↔ s ∈ seconds ∧ total = seconds.countP (· ≤ s) := by
  have hnodup : ((seconds.dedup.map fun s => (s, seconds.count s)).map Prod.fst).Nodup := by
    rw [List.map_map]
    exact (List.map_id _).symm ▸ List.nodup_dedup seconds
  have htotal : ∀ s, ((below Prod.fst (seconds.dedup.map fun s => (s, seconds.count s)) s ++
      [(s, seconds.count s)]).map Prod.snd).sum = seconds.countP (· ≤ s) := by
    intro s
    have hbelow : ((below Prod.fst (seconds.dedup.map fun s => (s, seconds.count s)) s).map Prod.snd).sum =
        seconds.countP (· < s) := by
      rw [below, ((orderBy_perm Prod.fst _).map Prod.snd).sum_eq, List.filter_map, List.map_map]
      exact List.sum_map_count_dedup_filter_eq_countP (fun v => decide (v < s)) seconds
    rw [List.map_append, List.sum_append, hbelow, List.map_singleton, List.sum_singleton, countP_upTo]
  have hrow : ∀ row : List (Int × Nat) × (Int × Nat), row ∈ withPreceding []
      (orderBy Prod.fst (seconds.dedup.map fun s => (s, seconds.count s))) ↔
      row.2 ∈ seconds.dedup.map (fun s => (s, seconds.count s)) ∧
        row.1 = below Prod.fst (seconds.dedup.map fun s => (s, seconds.count s)) row.2.1 :=
    fun _ => mem_withPreceding_orderBy hnodup
  simp only [cumulativeCounts, List.mem_map, hrow, Prod.mk.injEq]
  constructor
  · rintro ⟨⟨before, _⟩, ⟨⟨v, hv, rfl⟩, hbefore⟩, rfl, rfl⟩
    dsimp only at hbefore ⊢
    subst hbefore
    exact ⟨List.mem_dedup.mp hv, htotal v⟩
  · rintro ⟨hs, rfl⟩
    exact ⟨(_, (s, seconds.count s)), ⟨⟨s, List.mem_dedup.mpr hs, rfl⟩, rfl⟩, rfl, htotal s⟩

theorem exactCutoff_eq (seconds : List Int) (k : Nat) : exactCutoff seconds k = kth seconds k := by
  apply min?_upTo
  intro v
  simp only [List.mem_map, List.mem_filter, decide_eq_true_eq]
  constructor
  · rintro ⟨⟨_, total⟩, ⟨hrow, hk⟩, rfl⟩
    obtain ⟨hv, rfl⟩ := mem_cumulativeCounts.mp hrow
    exact ⟨hv, hk⟩
  · rintro ⟨hv, hk⟩
    exact ⟨(v, _), ⟨mem_cumulativeCounts.mpr ⟨hv, rfl⟩, hk⟩, rfl⟩

theorem exactCutoffs_eq (seconds : List Int) : exactCutoffs seconds = chronoCutoffs seconds := by
  simp only [exactCutoffs, chronoCutoffs, exactCutoff_eq]

end RevenueRescue.Pipeline.SparkBigDataPipeline
