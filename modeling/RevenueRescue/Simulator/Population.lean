import RevenueRescue.Simulator.Generators

namespace RevenueRescue.Generators

open Enums PyRandom PaymentSimulator

variable {r : Random} {out out' : Surroundings} {customers customers' : List SyntheticCustomer} {s s' : r.State}

section Numbers

theorem padded_value (width n : Nat) : Nat.ofDigitChars 10 (padded width n).toList 0 = n := by
  simp [padded, Json.natText, Nat.ofDigitChars_append]

theorem numbered_injective {tag : String} {width i j : Nat}
    (h : tag ++ padded width (i + 1) = tag ++ padded width (j + 1)) : i = j := by
  have hlist := congrArg String.toList h
  rw [String.toList_append, String.toList_append, List.append_cancel_left_eq] at hlist
  have hvalue := congrArg (fun digits => Nat.ofDigitChars 10 digits 0) hlist
  simp only [padded_value] at hvalue
  omega

theorem nodup_of_numbered {α : Type} {tag : String} {width : Nat} {f : α → String} {xs : List α}
    (h : ∀ k x, xs[k]? = some x → f x = tag ++ padded width (k + 1)) : (xs.map f).Nodup := by
  have hid (k : Fin (xs.map f).length) : (xs.map f)[k] = tag ++ padded width (k + 1) := by
    simp only [Fin.getElem_fin, List.getElem_map]
    exact h k _ (List.getElem?_eq_getElem _)
  refine List.nodup_iff_injective_getElem.mpr fun i j hij => Fin.ext ?_
  have hnumber : tag ++ padded width (i + 1) = tag ++ padded width (j + 1) := (hid i).symm.trans (hij.trans (hid j))
  exact numbered_injective hnumber

end Numbers

section Customers

/-- What holds of customer number `idx`. -/
structure WellFormedCustomer (idx : Nat) (customer : SyntheticCustomer) : Prop where
  customerId : customer.customerId = "CUST-" ++ padded 5 (idx + 1)
  total : 1 ≤ customer.totalTransactions ∧ customer.totalTransactions ≤ 50
  successful : 0 ≤ customer.successfulTransactions ∧ customer.successfulTransactions ≤ customer.totalTransactions
  failed : customer.failedTransactions = customer.totalTransactions - customer.successfulTransactions
  lifetimeValue : 50000 * customer.successfulTransactions ≤ customer.lifetimeValuePaise ∧
    customer.lifetimeValuePaise ≤ 500000 * customer.successfulTransactions
  optedOut : customer.optedOutEmail = customer.optedOutCommunication ∧
    customer.optedOutSms = customer.optedOutCommunication
  isSynthetic : customer.isSynthetic = true

theorem successRate_bounds (segment : Segment) : 0 ≤ successRate segment ∧ successRate segment ≤ 1 := by
  cases segment <;> norm_num [successRate]

/-- A rounded share of a small number is not above it. -/
theorem rounded_share {n : Int} {rate : ℚ} (hn : 1 ≤ n ∧ n ≤ 50) (h : 0 ≤ rate ∧ rate ≤ 1) :
    0 ≤ PyFloat.roundHalfEven (PyFloat.double (n * PyFloat.double rate)) ∧
      PyFloat.roundHalfEven (PyFloat.double (n * PyFloat.double rate)) ≤ n := by
  have hexact {k : Int} (hk : 1 ≤ k ∧ k ≤ 50) : PyFloat.double k = k := by
    have hpos : (0 : ℚ) < k := by exact_mod_cast (by omega : 0 < k)
    have hsmall : (k : ℚ) ≤ 50 := by exact_mod_cast hk.2
    refine PyFloat.double_of_dyadic (k := k) (e := 0) hpos (by simp) (hsmall.trans_lt (by norm_num))
  have hone : PyFloat.double rate ≤ 1 := by
    have hmono := PyFloat.double_mono h.1 h.2
    have hunit := hexact (k := 1) (by decide)
    rw [Int.cast_one] at hunit
    rwa [hunit] at hmono
  have hlow := PyFloat.double_nonneg h.1
  have hpos : (0 : ℚ) ≤ n := by exact_mod_cast (by omega : 0 ≤ n)
  have hshare : n * PyFloat.double rate ≤ n := mul_le_of_le_one_right hpos hone
  have hround := PyFloat.double_mono (mul_nonneg hpos hlow) hshare
  rw [hexact hn] at hround
  exact PyFloat.roundHalfEven_bounds (PyFloat.double_nonneg (mul_nonneg hpos hlow)) hround

theorem makeCustomer_wellFormed {idx : Nat} {s s' : r.State} {customer : SyntheticCustomer}
    (h : makeCustomer r out idx s = .ok (customer, s')) : WellFormedCustomer idx customer := by
  obtain ⟨segment, s1, -, h⟩ := bind_eq_ok h
  obtain ⟨total, s2, -, h⟩ := bind_eq_ok h
  obtain ⟨perTxn, s3, -, h⟩ := bind_eq_ok h
  obtain ⟨optedOut, s4, -, h⟩ := bind_eq_ok h
  obtain ⟨suspended, s5, -, h⟩ := bind_eq_ok h
  cases h
  have hshare := rounded_share total.property (successRate_bounds segment)
  exact {
    customerId := rfl
    total := total.property
    successful := hshare
    failed := rfl
    lifetimeValue := by
      have hlow := mul_le_mul_of_nonneg_left perTxn.property.1 hshare.1
      have hhigh := mul_le_mul_of_nonneg_left perTxn.property.2 hshare.1
      exact ⟨by rwa [mul_comm 50000], by rwa [mul_comm 500000]⟩
    optedOut := ⟨rfl, rfl⟩
    isSynthetic := rfl }

theorem neverRaises_makeCustomer (idx : Nat) : NeverRaises (makeCustomer r out idx) :=
  (neverRaises_choice (by simp [segments])).bind fun segment => (neverRaises_randint _).bind fun total =>
    (neverRaises_randint _).bind fun perTxn => NeverRaises.bind (fun s => ⟨_, rfl⟩) fun optedOut =>
      NeverRaises.bind (fun s => ⟨_, rfl⟩) fun suspended => neverRaises_pure _

/-- The customers of a seed are as many as asked for, with ids of their own. -/
theorem generate_wellFormed (r : Random) (out : Surroundings) (seed count : Int) :
    ∃ customers, generate r out seed count = .ok customers ∧ customers.length = count.toNat ∧
      (customers.map SyntheticCustomer.customerId).Nodup ∧
      ∀ idx customer, customers[idx]? = some customer → WellFormedCustomer idx customer := by
  have hmake (idx : Nat) (s : r.State) (customer : SyntheticCustomer) (s' : r.State)
      (h : makeCustomer r out idx s = .ok (customer, s')) : WellFormedCustomer idx customer :=
    makeCustomer_wellFormed h
  obtain ⟨customers, hcustomers, hlen, hall⟩ := each_total neverRaises_makeCustomer hmake count.toNat (r.seeded seed)
  exact ⟨customers, hcustomers, hlen, nodup_of_numbered fun k x hk => (hall k x hk).customerId, hall⟩

end Customers

section Events

/-- The reasons that an event can fail for. -/
def reasons : EventType → List FailureReason
  | .failedSubscription => subscriptionFailures.map Prod.fst
  | .checkoutAbandoned => [.checkoutAbandoned]
  | .failedPayment => defaultFailureDistribution.map Prod.fst

/-- What holds of event number `i` of a batch. -/
structure WellFormed (customers : List SyntheticCustomer) (sim : Option String) (base : Int) (i : Nat)
    (event : GeneratedEvent) : Prop where
  eventId : event.eventId = "EVT-" ++ padded 6 (i + 1)
  customer : event.customer ∈ customers
  customerId : event.customerId = event.customer.customerId
  amount : (amountRange event.customer.segment).1 ≤ event.amountPaise ∧
    event.amountPaise ≤ (amountRange event.customer.segment).2
  currency : event.currency = "INR"
  failureReason : event.failureReason ∈ reasons event.eventType
  occurredAt : base ≤ event.occurredAt ∧ event.occurredAt ≤ base + 168 * microsecondsPerHour
  subscriptionId : event.subscriptionId.isSome = decide (event.eventType = .failedSubscription)
  checkoutSessionId : event.checkoutSessionId.isSome = decide (event.eventType = .checkoutAbandoned)
  simulationRunId : event.simulationRunId = sim
  metadata : event.metadata = ⟨true, event.customer.segment⟩

theorem pickFailureReason_mem {eventType : EventType} {s s' : r.State} {reason : FailureReason}
    (h : pickFailureReason r eventType s = .ok (reason, s')) : reason ∈ reasons eventType := by
  cases eventType with
  | failedPayment | failedSubscription => exact choices_mem (by decide) h
  | checkoutAbandoned =>
      cases h
      exact List.mem_singleton_self _

theorem pickId_isSome {wanted : Bool} {sort : String} {s s' : r.State} {id : Option String}
    (h : pickId r wanted sort s = .ok (id, s')) : id.isSome = wanted := by
  cases wanted <;> cases h <;> rfl

theorem makeEvent_wellFormed {sim : Option String} {base : Int} {i : Nat} {s s' : r.State} {event : GeneratedEvent}
    (h : makeEvent r out customers sim base i s = .ok (event, s')) : WellFormed customers sim base i event := by
  obtain ⟨customer, s1, hcustomer, h⟩ := bind_eq_ok h
  obtain ⟨eventType, s2, -, h⟩ := bind_eq_ok h
  obtain ⟨failureReason, s3, hreason, h⟩ := bind_eq_ok h
  obtain ⟨amount, s4, -, h⟩ := bind_eq_ok h
  obtain ⟨hours, s5, -, h⟩ := bind_eq_ok h
  obtain ⟨subscriptionId, s6, hsubscription, h⟩ := bind_eq_ok h
  obtain ⟨checkoutSessionId, s7, hcheckout, h⟩ := bind_eq_ok h
  cases h
  have hlow := hours.property.1
  have hhigh := hours.property.2
  exact {
    eventId := rfl
    customer := choice_mem hcustomer
    customerId := rfl
    amount := amount.property
    currency := rfl
    failureReason := pickFailureReason_mem hreason
    occurredAt := by simp only [microsecondsPerHour]; omega
    subscriptionId := pickId_isSome hsubscription
    checkoutSessionId := pickId_isSome hcheckout
    simulationRunId := rfl
    metadata := rfl }

theorem neverRaises_pickFailureReason (eventType : EventType) : NeverRaises (pickFailureReason r eventType) := by
  cases eventType with
  | failedPayment => exact neverRaises_choices (by decide) (by simp [defaultFailureDistribution]; norm_num)
  | failedSubscription => exact neverRaises_choices (by decide) (by simp [subscriptionFailures]; norm_num)
  | checkoutAbandoned => exact neverRaises_pure _

theorem neverRaises_pickId (wanted : Bool) (sort : String) : NeverRaises (pickId r wanted sort) := by
  cases wanted with
  | false => exact neverRaises_pure _
  | true => exact (neverRaises_randint _).bind fun k => neverRaises_pure _

/-- An event can be made of any customer there is. -/
theorem neverRaises_makeEvent (hne : customers ≠ []) (sim : Option String) (base : Int) (i : Nat) :
    NeverRaises (makeEvent r out customers sim base i) := by
  refine (neverRaises_choice hne).bind fun customer => ?_
  refine (neverRaises_choices (by decide) (by simp [eventTypes]; norm_num)).bind fun eventType => ?_
  refine (neverRaises_pickFailureReason eventType).bind fun failureReason => ?_
  refine (neverRaises_randint (amountRange_bounds customer.segment).2.1).bind fun amount => ?_
  refine (neverRaises_randint _).bind fun hours => ?_
  exact (neverRaises_pickId _ _).bind fun subscriptionId => (neverRaises_pickId _ _).bind fun checkoutSessionId =>
    neverRaises_pure _

/-- The batch of a seed fails only for want of customers; its events have ids of their own and are well formed. -/
theorem generateBatch_wellFormed (r : Random) (out : Surroundings) (seed numEvents : Int)
    (customers : List SyntheticCustomer) (sim : Option String) (baseTime : Option Int) :
    (generateBatch r out seed customers numEvents sim baseTime = .error "Cannot choose from an empty sequence" ∧
        customers = [] ∧ 0 < numEvents) ∨
      ∃ events, generateBatch r out seed customers numEvents sim baseTime = .ok events ∧
        events.length = numEvents.toNat ∧ (events.map GeneratedEvent.eventId).Nodup ∧
        ∀ i event, events[i]? = some event →
          WellFormed customers sim (baseTime.getD (out.now - 7 * 24 * microsecondsPerHour)) i event := by
  by_cases hne : customers = []
  · subst hne
    by_cases hpos : 0 < numEvents
    · refine .inl ⟨?_, rfl, hpos⟩
      obtain ⟨n, hn⟩ : ∃ n, numEvents.toNat = n + 1 := Nat.exists_eq_add_one.mpr (by omega)
      simp only [generateBatch, hn]
      rfl
    · have hzero : numEvents.toNat = 0 := by omega
      refine .inr ⟨[], ?_, hzero.symm, List.nodup_nil, fun i event h => by cases h⟩
      simp only [generateBatch, hzero]
      rfl
  · generalize hbase : baseTime.getD (out.now - 7 * 24 * microsecondsPerHour) = base
    have hmake (i : Nat) (s : r.State) (event : GeneratedEvent) (s' : r.State)
        (h : makeEvent r out customers sim base i s = .ok (event, s')) : WellFormed customers sim base i event :=
      makeEvent_wellFormed h
    have hnever (i : Nat) : NeverRaises (makeEvent r out customers sim base i) := neverRaises_makeEvent hne sim base i
    obtain ⟨events, hevents, hlen, hall⟩ := each_total hnever hmake numEvents.toNat (r.seeded seed)
    refine .inr ⟨events, ?_, hlen, nodup_of_numbered fun k x hk => (hall k x hk).eventId, hall⟩
    rw [generateBatch, hbase]
    exact hevents

end Events

section Agreement

/-- A customer but for what Faker makes up. -/
def SyntheticCustomer.drawn (customer : SyntheticCustomer) : SyntheticCustomer :=
  { customer with name := "", emailDisplay := "", emailHash := "", phoneDisplay := "" }

/-- An event but for Faker, `uuid.uuid4`, the run and its base time. -/
def GeneratedEvent.drawn (base : Int) (event : GeneratedEvent) : GeneratedEvent :=
  { event with
    customer := event.customer.drawn
    idempotencyKey := ""
    occurredAt := event.occurredAt - base
    simulationRunId := none }

theorem makeCustomer_agree (idx : Nat) :
    Agree SyntheticCustomer.drawn SyntheticCustomer.drawn (makeCustomer r out idx) (makeCustomer r out' idx) := by
  unfold makeCustomer
  exact agree_bind_same fun segment => agree_bind_same fun total => agree_bind_same fun perTxn =>
    agree_bind_same fun optedOut => agree_bind_same fun suspended => agree_pure rfl

theorem pickAmount_agree {customer customer' : SyntheticCustomer} (h : customer.segment = customer'.segment) :
    Agree (fun x => x.val) (fun x => x.val) (pickAmount r customer) (pickAmount r customer') := by
  have hrange {segment segment' : Segment} (h : segment = segment') :
      Agree (fun x => x.val) (fun x => x.val) (randint r _ _ (amountRange_bounds segment).2.1)
        (randint r _ _ (amountRange_bounds segment').2.1) := by
    subst h
    exact .refl _ _
  exact hrange h

theorem makeEvent_agree (h : customers.map SyntheticCustomer.drawn = customers'.map SyntheticCustomer.drawn)
    (sim sim' : Option String) (base base' : Int) (i : Nat) :
    Agree (GeneratedEvent.drawn base) (GeneratedEvent.drawn base') (makeEvent r out customers sim base i)
      (makeEvent r out' customers' sim' base' i) := by
  refine (agree_choice h).bind fun customer customer' hdrawn => ?_
  have hid : customer.drawn.customerId = customer'.drawn.customerId := by rw [hdrawn]
  have hsegment : customer.drawn.segment = customer'.drawn.segment := by rw [hdrawn]
  refine agree_bind_same fun eventType => agree_bind_same fun failureReason => ?_
  refine (pickAmount_agree hsegment).bind fun amount amount' hval => agree_bind_same fun hours =>
    agree_bind_same fun subscriptionId => agree_bind_same fun checkoutSessionId => agree_pure ?_
  change customer.customerId = customer'.customerId at hid
  change customer.segment = customer'.segment at hsegment
  simp only [GeneratedEvent.drawn, hdrawn, hid, hsegment, hval, add_sub_cancel_left]

/-- What the simulations read of an event is drawn. -/
theorem read_drawn (base : Int) (events : List GeneratedEvent) :
    (events.map (GeneratedEvent.drawn base)).map GeneratedEvent.read = events.map GeneratedEvent.read := by
  rw [List.map_map]
  rfl

end Agreement

section Populate

variable {seed numCustomers numEvents numEvents' : Int} {simulationId simulationId' : String}
  {events events' : List GeneratedEvent}

/-- The customers and the events of a seed, whatever it is: the events fail only for want of customers, and otherwise
they are as many as asked for, with ids of their own, each about one of the customers. -/
theorem populate_wellFormed (r : Random) (out : Surroundings) (seed numCustomers numEvents : Int)
    (simulationId : String) :
    ∃ customers, generate r out seed numCustomers = .ok customers ∧ customers.length = numCustomers.toNat ∧
      (customers.map SyntheticCustomer.customerId).Nodup ∧
      (∀ idx customer, customers[idx]? = some customer → WellFormedCustomer idx customer) ∧
      ((populate r out seed numCustomers numEvents simulationId = .error "Cannot choose from an empty sequence" ∧
          numCustomers ≤ 0 ∧ 0 < numEvents) ∨
        ∃ events, populate r out seed numCustomers numEvents simulationId = .ok events ∧
          events.length = numEvents.toNat ∧ (events.map GeneratedEvent.eventId).Nodup ∧
          ∀ i event, events[i]? = some event →
            WellFormed customers (some simulationId) (out.now - 7 * 24 * microsecondsPerHour) i event) := by
  obtain ⟨customers, hcustomers, hlen, hnodup, hall⟩ := generate_wellFormed r out seed numCustomers
  refine ⟨customers, hcustomers, hlen, hnodup, hall, ?_⟩
  have hpopulate : populate r out seed numCustomers numEvents simulationId =
      generateBatch r out seed customers numEvents (some simulationId) := by
    rw [populate, hcustomers]
    rfl
  rw [hpopulate]
  rcases generateBatch_wellFormed r out seed numEvents customers (some simulationId) none with
    ⟨herror, hnone, hpos⟩ | hevents
  · rw [hnone, List.length_nil] at hlen
    exact .inl ⟨herror, by omega, hpos⟩
  · exact .inr hevents

theorem populate_ok (h : populate r out seed numCustomers numEvents simulationId = .ok events) :
    events.length = numEvents.toNat ∧
      ∀ event ∈ events, 20000 ≤ event.amountPaise ∧ event.amountPaise ≤ 5000000 := by
  obtain ⟨customers, -, -, -, -, hpopulate⟩ := populate_wellFormed r out seed numCustomers numEvents simulationId
  rcases hpopulate with ⟨herror, -⟩ | ⟨events', hevents, hlen, -, hall⟩
  · rw [h] at herror
    cases herror
  · obtain rfl := Except.ok.inj (h.symm.trans hevents)
    refine ⟨hlen, fun event hmem => ?_⟩
    obtain ⟨i, hi⟩ := List.mem_iff_getElem?.mp hmem
    obtain ⟨hlow, hhigh⟩ := (hall i event hi).amount
    obtain ⟨hleast, -, hgreatest⟩ := amountRange_bounds event.customer.segment
    exact ⟨hleast.trans hlow, hhigh.trans hgreatest⟩

/-- More events of one seed and as many customers go on where fewer events stop, whatever else is met. -/
theorem populate_prefix (hn : numEvents ≤ numEvents')
    (h : populate r out seed numCustomers numEvents simulationId = .ok events)
    (h' : populate r out' seed numCustomers numEvents' simulationId' = .ok events') :
    events.map GeneratedEvent.read <+: events'.map GeneratedEvent.read := by
  obtain ⟨customers, hcustomers, -⟩ := populate_wellFormed r out seed numCustomers numEvents simulationId
  obtain ⟨customers', hcustomers', -⟩ := populate_wellFormed r out' seed numCustomers numEvents' simulationId'
  rw [populate, hcustomers] at h
  rw [populate, hcustomers'] at h'
  obtain ⟨s, hmade⟩ := ok_of_fst hcustomers
  obtain ⟨s', hmade'⟩ := ok_of_fst hcustomers'
  obtain ⟨t, hdrawn⟩ := ok_of_fst h
  obtain ⟨t', hdrawn'⟩ := ok_of_fst h'
  have hsame := ((agree_each makeCustomer_agree 0 numCustomers.toNat).ok hmade hmade').1
  have hprefix := agree_prefix (makeEvent_agree hsame _ _ _ _) (Int.toNat_le_toNat hn) hdrawn hdrawn'
  have hread := hprefix.map GeneratedEvent.read
  rwa [read_drawn, read_drawn] at hread

end Populate

end RevenueRescue.Generators
