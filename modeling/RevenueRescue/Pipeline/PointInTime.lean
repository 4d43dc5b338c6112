import RevenueRescue.Pipeline.PandasPreprocessor

namespace RevenueRescue.Pipeline.PandasPreprocessor

open Window

/-- The order of the events of one customer. -/
def eventOrder (e : Event) : Int ×ₗ Text := toLex (e.occurredAt, e.eventId)

/-- `a` comes strictly before `e` in the history of its customer. -/
def Prior (a e : Event) : Prop := a.customerId = e.customerId ∧ eventOrder a < eventOrder e

instance (a e : Event) : Decidable (Prior a e) := inferInstanceAs (Decidable (_ ∧ _))

def ofCustomer (events : List Event) (e : Event) : List Event :=
  events.filter fun a => a.customerId = e.customerId

/-- The prior events, in order. -/
def priors (events : List Event) (e : Event) : List Event :=
  below eventOrder (ofCustomer events e) (eventOrder e)

def withoutTarget (e : Event) : Event := { e with recovered := 0 }

/-- The prior events of the two events are the same up to their targets. -/
def SamePriors (events events' : List Event) (e e' : Event) : Prop :=
  ∀ p, (∃ a ∈ events, Prior a e ∧ withoutTarget a = p) ↔ ∃ a ∈ events', Prior a e' ∧ withoutTarget a = p

/-- No customer has more events than a 16-bit counter tells apart. -/
def Countable (events : List Event) : Prop := ∀ e ∈ events, (ofCustomer events e).length ≤ 65536

/-- `prev` is the row of its customer right above `e` in the sorted table. -/
def Follows (events : List Event) (prev e : Event) : Prop :=
  ∃ before, (before, e) ∈ withPreceding [] (orderBy sequenceOrder events) ∧
    (group Event.customerId before e).getLast? = some prev

/-- No event comes `2 ^ 63` nanoseconds or more after the one before it of its customer. -/
def Near (events : List Event) : Prop :=
  ∀ prev e, Follows events prev e → e.occurredAt - prev.occurredAt < 9223372036854775808

def GivesSame (events events' : List Event) (e e' : Event) : Prop :=
  ∃ rows rows' h, addHistoryFeatures64 events = .ok rows ∧ addHistoryFeatures64 events' = .ok rows' ∧
    (e, h) ∈ rows ∧ (e', h) ∈ rows'

variable {events events' : List Event} {e e' a b prev : Event} {before : List Event} {h : HistoryFeatures}
variable {rows : List (Event × HistoryFeatures)}

theorem mem_priors : a ∈ priors events e ↔ a ∈ events ∧ Prior a e := by
  simp [priors, ofCustomer, mem_below, Prior, and_assoc]

theorem eventOrder_nodup (hids : (events.map Event.eventId).Nodup) : (events.map eventOrder).Nodup := by
  apply List.Nodup.of_map fun key => (ofLex key).2
  rwa [List.map_map]

theorem sequenceOrder_nodup (hids : (events.map Event.eventId).Nodup) : (events.map sequenceOrder).Nodup := by
  apply List.Nodup.of_map fun key => (ofLex (ofLex key).2).2
  rwa [List.map_map]

theorem ofCustomer_nodup (hids : (events.map Event.eventId).Nodup) :
    ((ofCustomer events e).map eventOrder).Nodup :=
  (eventOrder_nodup hids).sublist (List.filter_sublist.map eventOrder)

theorem sequenceOrder_lt (hc : a.customerId = b.customerId) :
    sequenceOrder a < sequenceOrder b ↔ eventOrder a < eventOrder b := by
  simp [sequenceOrder, eventOrder, Prod.Lex.toLex_lt_toLex, hc]

/-- The group of an event above it in the sorted table is its prior events. -/
theorem group_below (hkeys : (events.map sequenceOrder).Nodup) :
    group Event.customerId (below sequenceOrder events (sequenceOrder e)) e = priors events e := by
  have hnodup := hkeys.sublist
    ((List.filter_sublist (p := fun a => sequenceOrder a < sequenceOrder e)).map sequenceOrder)
  have hsame : ∀ a, (decide (a.customerId = e.customerId) && decide (sequenceOrder a < sequenceOrder e)) =
      (decide (eventOrder a < eventOrder e) && decide (a.customerId = e.customerId)) := by
    intro a
    by_cases hc : a.customerId = e.customerId
    · simp [hc, sequenceOrder_lt hc]
    · simp [hc]
  rw [group, below, filter_orderBy _ hnodup, List.filter_filter, funext hsame, priors, below, ofCustomer,
    List.filter_filter]
  apply orderBy_congr
  intro a ha b hb
  simp only [List.mem_filter, Bool.and_eq_true, decide_eq_true_eq] at ha hb
  exact sequenceOrder_lt (ha.2.2.trans hb.2.2.symm)

/-- The history of an event reads only the group of its customer. -/
theorem historyOf_group : historyOf (group Event.customerId before e) e = historyOf before e := by
  have hcustomer : group Event.customerId (group Event.customerId before e) e = group Event.customerId before e :=
    filter_key_filter before fun _ h => h
  have hreason : group (fun a => (a.customerId, a.failureReason)) (group Event.customerId before e) e =
      group (fun a => (a.customerId, a.failureReason)) before e :=
    filter_key_filter before fun _ h => (Prod.ext_iff.mp h).1
  unfold historyOf priorOfType cumcount cumsum shift
  rw [hcustomer, hreason]

theorem historyOf64_of_group : historyOf64 (group Event.customerId before e) e = historyOf64 before e := by
  have hcustomer : group Event.customerId (group Event.customerId before e) e = group Event.customerId before e :=
    filter_key_filter before fun _ h => h
  rw [historyOf64, historyOf64, historyOf_group, cumsum, cumsum, hcustomer]

/-- The history columns are a function of the prior events. -/
theorem mem_historyTable (hkeys : (events.map sequenceOrder).Nodup) :
    (e, h) ∈ historyTable events ↔ e ∈ events ∧ h = historyOf (priors events e) e := by
  rw [historyTable, mem_map_withPreceding hkeys, ← group_below hkeys, historyOf_group]

theorem mem_historyTable64 (hkeys : (events.map sequenceOrder).Nodup) :
    (e, h) ∈ historyTable64 events ↔ e ∈ events ∧ h = historyOf64 (priors events e) e := by
  rw [historyTable64, mem_map_withPreceding hkeys, ← group_below hkeys, historyOf64_of_group]

theorem historyTable64_complete (events : List Event) : ((historyTable64 events).map Prod.fst).Perm events := by
  rw [historyTable64, map_fst_withPreceding]
  exact orderBy_perm sequenceOrder events

theorem group_withoutTarget {κ : Type} [DecidableEq κ] (before : List Event) (e : Event) (key : Event → κ)
    (hkey : ∀ a, key (withoutTarget a) = key a) :
    group key (before.map withoutTarget) (withoutTarget e) = (group key before e).map withoutTarget := by
  rw [group, group, List.filter_map]
  congr 1
  apply List.filter_congr
  intro a _
  simp only [Function.comp_apply, hkey]

theorem sum_withoutTarget {column : Event → Int} (hcolumn : ∀ a, column (withoutTarget a) = column a)
    (l : List Event) : ((l.map withoutTarget).map column).sum = (l.map column).sum := by
  rw [List.map_map]
  congr 2
  exact funext hcolumn

theorem historyOf_withoutTarget : historyOf (before.map withoutTarget) (withoutTarget e) = historyOf before e := by
  have hcustomer := group_withoutTarget before e Event.customerId fun _ => rfl
  have hreason := group_withoutTarget before e (fun a => (a.customerId, a.failureReason)) fun _ => rfl
  unfold historyOf priorOfType cumcount cumsum shift
  rw [hcustomer, hreason, List.length_map, List.length_map, sum_withoutTarget fun _ => rfl,
    sum_withoutTarget fun _ => rfl, sum_withoutTarget fun _ => rfl, sum_withoutTarget fun _ => rfl,
    sum_withoutTarget fun _ => rfl, List.getLast?_map, Option.map_map]
  rfl

theorem historyOf64_withoutTarget :
    historyOf64 (before.map withoutTarget) (withoutTarget e) = historyOf64 before e := by
  have hcustomer := group_withoutTarget before e Event.customerId fun _ => rfl
  rw [historyOf64, historyOf64, historyOf_withoutTarget, cumsum, cumsum, hcustomer, sum_withoutTarget fun _ => rfl]
  rfl

theorem priors_withoutTarget (hids : (events.map Event.eventId).Nodup) (hids' : (events'.map Event.eventId).Nodup)
    (hpriors : SamePriors events events' e e') :
    (priors events e).map withoutTarget = (priors events' e').map withoutTarget := by
  have hnodup : ∀ {events : List Event} {e}, (events.map Event.eventId).Nodup →
      ((((ofCustomer events e).filter fun a => eventOrder a < eventOrder e).map withoutTarget).map eventOrder).Nodup := by
    intro events e hids
    rw [List.map_map]
    exact (ofCustomer_nodup hids).sublist (List.filter_sublist.map eventOrder)
  have hsorted : ∀ (events : List Event) (e), (priors events e).map withoutTarget =
      orderBy eventOrder (((ofCustomer events e).filter fun a => eventOrder a < eventOrder e).map withoutTarget) := by
    intro events e
    change (orderBy (fun a => eventOrder (withoutTarget a)) _).map withoutTarget = _
    exact map_orderBy withoutTarget _
  rw [hsorted, hsorted]
  apply orderBy_eq_of_mem (hnodup hids) (hnodup hids')
  intro p
  have hp := hpriors p
  simp only [Prior] at hp
  simp only [List.mem_map, List.mem_filter, ofCustomer, decide_eq_true_eq]
  constructor
  · rintro ⟨a, ⟨⟨ha, hc⟩, hlt⟩, rfl⟩
    obtain ⟨b, hb, ⟨hc, hlt⟩, hsame⟩ := hp.mp ⟨a, ha, ⟨hc, hlt⟩, rfl⟩
    exact ⟨b, ⟨⟨hb, hc⟩, hlt⟩, hsame⟩
  · rintro ⟨a, ⟨⟨ha, hc⟩, hlt⟩, rfl⟩
    obtain ⟨b, hb, ⟨hc, hlt⟩, hsame⟩ := hp.mpr ⟨a, ha, ⟨hc, hlt⟩, rfl⟩
    exact ⟨b, ⟨⟨hb, hc⟩, hlt⟩, hsame⟩

/-- Two events with the same columns and the same prior events, up to the
targets, have the same history. -/
theorem historyOf64_priors (hids : (events.map Event.eventId).Nodup) (hids' : (events'.map Event.eventId).Nodup)
    (hsame : withoutTarget e = withoutTarget e') (hpriors : SamePriors events events' e e') :
    historyOf64 (priors events e) e = historyOf64 (priors events' e') e' := by
  rw [← historyOf64_withoutTarget, priors_withoutTarget hids hids' hpriors, hsame, historyOf64_withoutTarget]

theorem priors_length_lt (he : e ∈ events) : (priors events e).length < (ofCustomer events e).length := by
  rw [priors, below, (orderBy_perm eventOrder _).length_eq]
  apply List.length_filter_lt_length_iff_exists.mpr
  exact ⟨e, by simp [ofCustomer, he], by simp⟩

theorem group_priors : group Event.customerId (priors events e) e = priors events e := by
  rw [group, List.filter_eq_self]
  intro a ha
  exact decide_eq_true (mem_priors.mp ha).2.1

/-- The history of an event over its prior events. -/
theorem historyOf_exact : historyOf (priors events e) e =
    { custPriorEvents := int16 (priors events e).length
      hoursSincePrevEvent := (priors events e).getLast?.map fun prev =>
        ((e.occurredAt - prev.occurredAt : Int) : ℚ) / 1000000000 / 3600
      custPriorAmountMean := if int16 (priors events e).length = 0 then none
        else some (((priors events e).map Event.amountPaise).sum / int16 (priors events e).length)
      custPriorRetryTotal := int16 ((priors events e).map Event.retryCount).sum
      custPriorCheckoutAbandoned := int16 ((priors events e).map (typeFlag checkoutAbandoned)).sum
      custPriorFailedPayment := int16 ((priors events e).map (typeFlag failedPayment)).sum
      custPriorFailedSubscription := int16 ((priors events e).map (typeFlag failedSubscription)).sum
      custPriorSameFailureReason :=
        int16 ((priors events e).countP fun a => a.failureReason = e.failureReason) } := by
  have hreason : group (fun a => (a.customerId, a.failureReason)) (priors events e) e =
      (priors events e).filter fun a => a.failureReason = e.failureReason := by
    apply List.filter_congr
    intro a ha
    simp [(mem_priors.mp ha).2.1]
  simp only [historyOf, priorOfType, cumcount, cumsum, shift, group_priors, hreason, add_sub_cancel_right,
    Option.map_map, Function.comp_def, List.countP_eq_length_filter]

theorem le_of_preceding (hrow : (before, e) ∈ withPreceding [] (orderBy sequenceOrder events)) (ha : a ∈ before) :
    sequenceOrder a ≤ sequenceOrder e := by
  obtain ⟨front, back, hsorted, rfl⟩ := mem_withPreceding.mp hrow
  have hpairwise := orderBy_pairwise sequenceOrder events
  rw [hsorted] at hpairwise
  exact (List.pairwise_append.mp hpairwise).2.2 a ha e List.mem_cons_self

theorem occurredAt_le (hrow : (before, e) ∈ withPreceding [] (orderBy sequenceOrder events))
    (hprev : (group Event.customerId before e).getLast? = some prev) : prev.occurredAt ≤ e.occurredAt := by
  obtain ⟨hmem, hcustomer⟩ := List.mem_filter.mp (List.mem_of_getLast? hprev)
  have horder := le_of_preceding hrow hmem
  rw [sequenceOrder, sequenceOrder, Prod.Lex.toLex_le_toLex, Prod.Lex.toLex_le_toLex] at horder
  rcases horder with hlt | ⟨-, hlt | ⟨he, -⟩⟩
  · exact absurd (of_decide_eq_true hcustomer) hlt.ne
  · exact hlt.le
  · exact he.le

theorem hours_nonneg {hours : ℚ} (hrow : (before, e) ∈ withPreceding [] (orderBy sequenceOrder events))
    (hh : (historyOf before e).hoursSincePrevEvent = some hours) : 0 ≤ hours := by
  simp only [historyOf, shift, Option.map_map, Option.map_eq_some_iff, Function.comp_apply] at hh
  obtain ⟨prev, hprev, rfl⟩ := hh
  have hdiff : (0 : ℚ) ≤ ((e.occurredAt - prev.occurredAt : Int) : ℚ) := by
    exact_mod_cast sub_nonneg.mpr (occurredAt_le hrow hprev)
  positivity

theorem overflows_eq_false (hrow : (before, e) ∈ withPreceding [] (orderBy sequenceOrder events)) :
    overflows before e = false ↔ ∀ prev, (group Event.customerId before e).getLast? = some prev →
      e.occurredAt - prev.occurredAt < 9223372036854775808 := by
  cases hprev : (group Event.customerId before e).getLast? with
  | none => simp [overflows, shift, hprev]
  | some prev =>
      have hle := occurredAt_le hrow hprev
      have hdiff : (difference e.occurredAt prev.occurredAt).isNone = false ↔
          e.occurredAt - prev.occurredAt < 9223372036854775808 := by
        unfold difference
        split_ifs with hfits
        · simp [hfits.2]
        · simp only [Option.isNone_none, Bool.true_eq_false, false_iff]
          omega
      simpa [overflows, shift, hprev] using hdiff

/-- The subtraction of the timestamps does not overflow when no event is far from the one before it. -/
theorem near_iff : Near events ↔
    ((withPreceding [] (orderBy sequenceOrder events)).any fun row => overflows row.1 row.2) = false := by
  rw [List.any_eq_false]
  constructor
  · rintro h ⟨before, e⟩ hrow
    rw [Bool.not_eq_true, overflows_eq_false hrow]
    exact fun prev hprev => h prev e ⟨before, hrow, hprev⟩
  · rintro h prev e ⟨before, hrow, hprev⟩
    exact (overflows_eq_false hrow).mp (Bool.eq_false_iff.mpr (h (before, e) hrow)) prev hprev

theorem of_ok (hok : addHistoryFeatures events = .ok rows) : rows = historyTable events ∧
    ∀ row ∈ historyTable events, row.2.custPriorEvents = 0 → row.2.hoursSincePrevEvent.isNone = true := by
  simp only [addHistoryFeatures] at hok
  split_ifs at hok with hfirst hretries hdeltas
  cases hok
  refine ⟨rfl, fun row hrow hzero => ?_⟩
  simp only [List.all_eq_true, List.mem_filter, decide_eq_true_eq] at hfirst
  exact hfirst row ⟨hrow, hzero⟩

theorem addHistoryFeatures64_far (h : ¬ Near events) : addHistoryFeatures64 events = .error .overflow := by
  rw [near_iff, Bool.not_eq_false] at h
  rw [addHistoryFeatures64, if_pos h]

theorem addHistoryFeatures64_near (h : Near events) :
    addHistoryFeatures64 events = (addHistoryFeatures events).map fun _ => historyTable64 events := by
  rw [addHistoryFeatures64, if_neg (Bool.not_eq_true _ ▸ near_iff.mp h)]

theorem addHistoryFeatures64_eq_ok : addHistoryFeatures64 events = .ok rows ↔
    rows = historyTable64 events ∧ Near events ∧ ∃ exact, addHistoryFeatures events = .ok exact := by
  by_cases hnear : Near events
  · rw [addHistoryFeatures64_near hnear]
    cases addHistoryFeatures events with
    | error failure => simp [Except.map]
    | ok exact => simp [Except.map, hnear, eq_comm]
  · simp [addHistoryFeatures64_far hnear, hnear]

/-- The assertions pass when the first events, as the 16-bit counter shows
them, have no history. -/
theorem addHistoryFeatures_ok (hfirst : ∀ before e, (before, e) ∈ withPreceding [] (orderBy sequenceOrder events) →
      int16 (group Event.customerId before e).length = 0 → group Event.customerId before e = []) :
    addHistoryFeatures events = .ok (historyTable events) := by
  have hmem : ∀ row ∈ historyTable events, ∃ before, (before, row.1) ∈ withPreceding [] (orderBy sequenceOrder events) ∧
      row.2 = historyOf before row.1 := by
    intro row hrow
    obtain ⟨⟨before, e⟩, hpreceding, rfl⟩ := List.mem_map.mp hrow
    exact ⟨before, hpreceding, rfl⟩
  have hnone : ∀ row ∈ historyTable events, row.2.custPriorEvents = 0 →
      ∃ before, group Event.customerId before row.1 = [] ∧ row.2 = historyOf before row.1 := by
    intro row hrow hzero
    obtain ⟨before, hpreceding, hh⟩ := hmem row hrow
    have hcount : int16 (group Event.customerId before row.1).length = 0 := by
      rw [hh] at hzero
      simpa only [historyOf, cumcount] using hzero
    exact ⟨before, hfirst before row.1 hpreceding hcount, hh⟩
  have hhours : ((historyTable events).filter fun row => row.2.custPriorEvents = 0).all
      (fun row => row.2.hoursSincePrevEvent.isNone) = true := by
    simp only [List.all_eq_true, List.mem_filter, decide_eq_true_eq]
    rintro row ⟨hrow, hzero⟩
    obtain ⟨before, hnil, hh⟩ := hnone row hrow hzero
    simp [hh, historyOf, shift, hnil]
  have hretries : ((historyTable events).filter fun row => row.2.custPriorEvents = 0).all
      (fun row => row.2.custPriorRetryTotal = 0) = true := by
    simp only [List.all_eq_true, List.mem_filter, decide_eq_true_eq]
    rintro row ⟨hrow, hzero⟩
    obtain ⟨before, hnil, hh⟩ := hnone row hrow hzero
    simp [hh, historyOf, cumsum, hnil, int16]
  have hdeltas : ((historyTable events).any fun row => row.2.hoursSincePrevEvent.any (· < 0)) = false := by
    rw [List.any_eq_false]
    intro row hrow
    obtain ⟨before, hpreceding, hh⟩ := hmem row hrow
    cases hhours : row.2.hoursSincePrevEvent with
    | none => simp
    | some hours =>
        rw [hh] at hhours
        simpa using hours_nonneg hpreceding hhours
  simp [addHistoryFeatures, hhours, hretries, hdeltas]

theorem addHistoryFeatures_distinct (hkeys : (events.map sequenceOrder).Nodup)
    (hfirst : ∀ e ∈ events, int16 (priors events e).length = 0 → priors events e = []) :
    addHistoryFeatures events = .ok (historyTable events) := by
  refine addHistoryFeatures_ok fun before e hrow => ?_
  obtain ⟨he, rfl⟩ := (mem_withPreceding_orderBy hkeys).mp hrow
  rw [group_below hkeys]
  exact hfirst e he

theorem returns_iff (hids : (events.map Event.eventId).Nodup) :
    (∃ rows, addHistoryFeatures events = .ok rows) ↔ Countable events := by
  constructor
  · rintro ⟨rows, hok⟩ e he
    by_contra hlong
    obtain ⟨z, hz, hrank⟩ := exists_rank (ofCustomer_nodup (e := e) hids) (not_le.mp hlong)
    have hz := List.mem_filter.mp hz
    have hsame : ofCustomer events z = ofCustomer events e := by
      simp only [ofCustomer, of_decide_eq_true hz.2]
    have hlen : (priors events z).length = 65536 := by rw [priors, hsame, hrank]
    have hrow : (z, historyOf (priors events z) z) ∈ historyTable events :=
      (mem_historyTable (sequenceOrder_nodup hids)).mpr ⟨hz.1, rfl⟩
    have hzero : (historyOf (priors events z) z).custPriorEvents = 0 := by
      rw [historyOf_exact, hlen]
      rfl
    have hsome : (historyOf (priors events z) z).hoursSincePrevEvent.isNone = false := by
      have hne : priors events z ≠ [] := List.ne_nil_of_length_pos (by omega)
      simp [historyOf_exact, hne]
    rw [(of_ok hok).2 _ hrow hzero] at hsome
    cases hsome
  · intro hcount
    refine ⟨_, addHistoryFeatures_distinct (sequenceOrder_nodup hids) fun e he hzero => ?_⟩
    have hlt := (priors_length_lt he).trans_le (hcount e he)
    exact List.eq_nil_of_length_eq_zero ((int16_eq_zero hlt).mp hzero)

theorem returns64_iff (hids : (events.map Event.eventId).Nodup) :
    (∃ rows, addHistoryFeatures64 events = .ok rows) ↔ Countable events ∧ Near events := by
  simp only [addHistoryFeatures64_eq_ok, exists_eq_left, returns_iff hids]
  exact and_comm

/-- The history of an event is the same in two tables with the same prior
events whenever both have one, and both do exactly when no counter of a
customer comes back to 0 and no two timestamps are too far apart to subtract. -/
theorem point_in_time (hids : (events.map Event.eventId).Nodup) (hids' : (events'.map Event.eventId).Nodup)
    (he : e ∈ events) (he' : e' ∈ events') (hsame : withoutTarget e = withoutTarget e')
    (hpriors : SamePriors events events' e e') :
    (∀ rows rows' h h', addHistoryFeatures64 events = .ok rows → addHistoryFeatures64 events' = .ok rows' →
      (e, h) ∈ rows → (e', h') ∈ rows' → h = h') ∧
    (GivesSame events events' e e' ↔ (Countable events ∧ Near events) ∧ Countable events' ∧ Near events') := by
  have hhistory := historyOf64_priors hids hids' hsame hpriors
  constructor
  · intro rows rows' h h' hok hok' hrow hrow'
    rw [(addHistoryFeatures64_eq_ok.mp hok).1, mem_historyTable64 (sequenceOrder_nodup hids)] at hrow
    rw [(addHistoryFeatures64_eq_ok.mp hok').1, mem_historyTable64 (sequenceOrder_nodup hids')] at hrow'
    rw [hrow.2, hrow'.2, hhistory]
  · constructor
    · rintro ⟨rows, rows', -, hok, hok', -, -⟩
      exact ⟨(returns64_iff hids).mp ⟨rows, hok⟩, (returns64_iff hids').mp ⟨rows', hok'⟩⟩
    · rintro ⟨hreturns, hreturns'⟩
      obtain ⟨rows, hok⟩ := (returns64_iff hids).mpr hreturns
      obtain ⟨rows', hok'⟩ := (returns64_iff hids').mpr hreturns'
      refine ⟨rows, rows', historyOf64 (priors events e) e, hok, hok', ?_, ?_⟩
      · rw [(addHistoryFeatures64_eq_ok.mp hok).1, mem_historyTable64 (sequenceOrder_nodup hids)]
        exact ⟨he, rfl⟩
      · rw [(addHistoryFeatures64_eq_ok.mp hok').1, mem_historyTable64 (sequenceOrder_nodup hids')]
        exact ⟨he', hhistory⟩

def eventNamed (eventId customerId : Text) (occurredAt : Int) : Event where
  eventId := eventId
  eventType := failedPayment
  customerId := customerId
  amountPaise := 50000
  failureReason := "UNKNOWN".toList
  occurredAt := occurredAt
  retryCount := 1
  recovered := 0
  eventHourUtc := 0
  eventDayofweekUtc := 3

def earlier : Event := eventNamed ['a'] ['c'] 0

def later : Event := eventNamed ['b'] ['c'] 3600000000000

def recovered (e : Event) : Event := { e with recovered := 1 }

theorem point_in_time_sample : GivesSame [earlier, later] [recovered later, recovered earlier] later (recovered later) := by
  have hfirst : Prior earlier later ∧ Prior (recovered earlier) (recovered later) := by decide +kernel
  have hself : ¬ Prior later later ∧ ¬ Prior (recovered later) (recovered later) := by decide +kernel
  have hpriors : SamePriors [earlier, later] [recovered later, recovered earlier] later (recovered later) := by
    intro p
    simp [hfirst, hself]
    rfl
  have hcount : ∀ e ∈ [earlier, later], (ofCustomer [earlier, later] e).length ≤ 65536 := by decide
  have hcount' : ∀ e ∈ [recovered later, recovered earlier],
      (ofCustomer [recovered later, recovered earlier] e).length ≤ 65536 := by decide
  have hlater : later ∈ [earlier, later] := by simp
  have hlater' : recovered later ∈ [recovered later, recovered earlier] := by simp
  exact (point_in_time (by decide) (by decide) hlater hlater' rfl hpriors).2.mpr
    ⟨⟨hcount, near_iff.mpr (by decide +kernel)⟩, hcount', near_iff.mpr (by decide +kernel)⟩

/-- One event of a customer, and a number of events of another. -/
def crowded (n : Nat) : List Event :=
  earlier :: (List.range n).map fun i => eventNamed (List.replicate (i + 1) 'x') ['d'] i

theorem crowded_nodup (n : Nat) : ((crowded n).map Event.eventId).Nodup := by
  have hinj : Function.Injective fun i : Nat => List.replicate (i + 1) 'x' := by
    intro i j h
    have hlen := congrArg List.length h
    simp only [List.length_replicate] at hlen
    omega
  have hmap : (crowded n).map Event.eventId = ['a'] :: (List.range n).map fun i => List.replicate (i + 1) 'x' := by
    simp [crowded, Function.comp_def, eventNamed, earlier]
  rw [hmap, List.nodup_cons]
  refine ⟨?_, List.nodup_range.map hinj⟩
  simp [List.replicate_succ]

theorem not_countable_crowded {n : Nat} (hn : 65536 < n) : ¬ Countable (crowded n) := by
  intro hcount
  have hmem : eventNamed ['x'] ['d'] 0 ∈ crowded n := by
    apply List.mem_cons_of_mem
    exact List.mem_map.mpr ⟨0, List.mem_range.mpr (by omega), rfl⟩
  have hlen : (ofCustomer (crowded n) (eventNamed ['x'] ['d'] 0)).length = n := by
    simp [ofCustomer, crowded, eventNamed, earlier, List.filter_map, Function.comp_def]
  have hle := hcount _ hmem
  omega

/-- The features of an event are lost to the history of another customer. -/
theorem features_withheld : SamePriors [earlier] (crowded 65537) earlier earlier ∧
    ((crowded 65537).map Event.eventId).Nodup ∧ earlier ∈ crowded 65537 ∧
    ¬ GivesSame [earlier] (crowded 65537) earlier earlier := by
  have hnone : ∀ a ∈ crowded 65537, ¬ Prior a earlier := by
    intro a ha hprior
    rcases List.mem_cons.mp ha with rfl | ha
    · exact lt_irrefl _ hprior.2
    · obtain ⟨i, -, rfl⟩ := List.mem_map.mp ha
      exact absurd hprior.1 (by simp [eventNamed, earlier])
  have hself : ¬ Prior earlier earlier := fun h => lt_irrefl _ h.2
  refine ⟨?_, crowded_nodup _, List.mem_cons_self, ?_⟩
  · intro p
    constructor
    · rintro ⟨a, ha, hprior, -⟩
      obtain rfl := List.mem_singleton.mp ha
      exact absurd hprior hself
    · rintro ⟨a, ha, hprior, -⟩
      exact absurd hprior (hnone a ha)
  · rintro ⟨rows, rows', h, -, hok, -, -⟩
    exact not_countable_crowded (by norm_num) ((returns64_iff (crowded_nodup _)).mp ⟨rows', hok⟩).1

end RevenueRescue.Pipeline.PandasPreprocessor
