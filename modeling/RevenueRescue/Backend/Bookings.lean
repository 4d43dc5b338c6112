import RevenueRescue.Backend.Trail

namespace RevenueRescue.Bookings

open Enums PolicySchema Models RecoveryService RazorpayCheckout RecoverySystem Machine

/-- The Razorpay payment that an event books as recovered. -/
def bookedPayment (e : AuditEvent) : Option String :=
  match e.eventType, e.payload with
  | .revenueRecovered, some (.checkout entries) => entries.lookup "razorpay_payment_id"
  | _, _ => none

def isBooking (e : AuditEvent) : Bool := (bookedPayment e).isSome

def bookedPaise (db : Db) : Int := ((db.audit.filter isBooking).map fun e => e.amountPaise.getD 0).sum

def paidPaise (case : RecoveryCase) : Int := if case.razorpayPaymentId.isSome then case.amountAtRiskPaise else 0

/-- The row that a booking is about. -/
structure Books (case : RecoveryCase) (e : AuditEvent) : Prop where
  recoveryCaseId : e.recoveryCaseId = some case.id
  razorpayPaymentId : bookedPayment e = case.razorpayPaymentId
  amountPaise : e.amountPaise = some case.amountAtRiskPaise
  currency : e.currency = case.currency

/-- No two cases have one value in a column. -/
def Distinct (column : RecoveryCase → Option String) (db : Db) : Prop :=
  ∀ case case' value, db.cases.find case.id = some case → db.cases.find case'.id = some case' →
    column case = some value → column case' = some value → case.id = case'.id

/-- The bookings of the ledger and the payments of the cases are the same. -/
structure Reconciled (db : Db) : Prop where
  distinct : (db.audit.filterMap bookedPayment).Nodup
  booked : ∀ e ∈ db.audit, isBooking e = true → ∃ case, db.cases.find case.id = some case ∧ Books case e
  entered : ∀ case, db.cases.find case.id = some case → case.razorpayPaymentId.isSome = true →
    case.isRecovered = true ∧ ∃ e ∈ db.audit, Books case e
  payments : Distinct RecoveryCase.razorpayPaymentId db
  orders : Distinct RecoveryCase.razorpayOrderId db
  total : bookedPaise db = (db.cases.rows.map paidPaise).sum

variable {settings : Settings} {db db' : Db} {sys : Sys} {case case' held stored : RecoveryCase} {e : AuditEvent}
  {id : Uuid}

theorem bookedPayment_capture {orderId paymentId source : String} {eventId : Option String}
    (ht : e.eventType = .revenueRecovered) (hp : e.payload = some (capturePayload paymentId orderId source eventId)) :
    bookedPayment e = some paymentId := by
  simp [bookedPayment, ht, hp, capturePayload, List.lookup_cons]

theorem isBooking_other (h : e.eventType ≠ .revenueRecovered) : isBooking e = false := by
  unfold isBooking bookedPayment
  split
  · rename_i ht _
    exact absurd ht h
  · rfl

theorem isBooking_attempt (h : FromAttempt id e) : isBooking e = false := by
  unfold isBooking bookedPayment
  split
  · rename_i entries _ hp
    exact absurd hp (h.payload entries)
  · rfl

section Columns

variable {column : RecoveryCase → Option String} {f : RecoveryCase → RecoveryCase}

/-- A row after an update was there before it. -/
theorem find_updated {hf : ∀ c, (f c).id = c.id} (h : (db.cases.update id f hf).find case.id = some case) :
    ∃ old, db.cases.find case.id = some old ∧ old.id = case.id ∧ (case = old ∨ case.id = id ∧ case = f old) := by
  rw [Table.find_update] at h
  split at h
  · rename_i hid
    obtain ⟨old, hold, hcase⟩ := Option.map_eq_some_iff.mp h
    exact ⟨old, hold, Table.find_key hold, .inr ⟨hid, hcase.symm⟩⟩
  · exact ⟨case, h, rfl, .inl rfl⟩

theorem distinct_update (hf : ∀ c, (f c).id = c.id) (hd : db'.cases = db.cases.update id f hf) (h : Distinct column db)
    (hc : ∀ c, column (f c) = column c) : Distinct column db' := by
  intro a b value ha hb hva hvb
  rw [hd] at ha hb
  obtain ⟨olda, hola, hida, hsa⟩ := find_updated ha
  obtain ⟨oldb, holb, hidb, hsb⟩ := find_updated hb
  have hcola : column olda = some value := by
    rcases hsa with rfl | ⟨-, rfl⟩
    · exact hva
    · exact (hc olda).symm.trans hva
  have hcolb : column oldb = some value := by
    rcases hsb with rfl | ⟨-, rfl⟩
    · exact hvb
    · exact (hc oldb).symm.trans hvb
  rw [← hida, ← hidb]
  exact h olda oldb value (hida ▸ hola) (hidb ▸ holb) hcola hcolb

/-- A column is set to a value that no other row has. -/
theorem distinct_set {value : String} (hf : ∀ c, (f c).id = c.id) (hd : db'.cases = db.cases.update id f hf) (h : Distinct column db)
    (hv : ∀ c, column (f c) = some value)
    (hfree : ∀ c, db.cases.find c.id = some c → c.id ≠ id → column c ≠ some value) : Distinct column db' := by
  intro a b v ha hb hva hvb
  rw [hd] at ha hb
  obtain ⟨olda, hola, hida, hsa⟩ := find_updated ha
  obtain ⟨oldb, holb, hidb, hsb⟩ := find_updated hb
  have hold {c old : RecoveryCase} (hfind : db.cases.find c.id = some old) (hid : old.id = c.id) (hne : c.id ≠ id) :
      column old ≠ some value := hfree old (hid ▸ hfind) (hid ▸ hne)
  by_cases hai : a.id = id
  · by_cases hbi : b.id = id
    · exact hai.trans hbi.symm
    · obtain rfl : b = oldb := hsb.resolve_right fun h => hbi h.1
      rcases hsa with rfl | ⟨-, rfl⟩
      · exact h a b v hola holb hva hvb
      · rw [hv] at hva
        cases hva
        exact absurd hvb (hold holb rfl hbi)
  · obtain rfl : a = olda := hsa.resolve_right fun h => hai h.1
    rcases hsb with rfl | ⟨hbi, rfl⟩
    · exact h a b v hola holb hva hvb
    · rw [hv] at hvb
      cases hvb
      exact absurd hva (hold hola rfl hai)

theorem distinct_insert {cases : Table Uuid RecoveryCase RecoveryCase.id} (h : Distinct column db)
    (hi : db.cases.insert case = some cases) (hn : column case = none) (hd : db'.cases = cases) :
    Distinct column db' := by
  have hold {c : RecoveryCase} {value : String} (hc : db'.cases.find c.id = some c) (hv : column c = some value) :
      db.cases.find c.id = some c := by
    rw [hd, Table.find_insert hi] at hc
    split at hc
    · cases hc
      rw [hn] at hv
      cases hv
    · exact hc
  intro a b value ha hb hva hvb
  exact h a b value (hold ha hva) (hold hb hvb) hva hvb

end Columns

theorem free_of_taken {column : RecoveryCase → Option String} {value : String}
    (h : (db.cases.rows.any fun c => c.id ≠ case.id && column c = some value) = false) :
    ∀ c, db.cases.find c.id = some c → c.id ≠ case.id → column c ≠ some value := by
  intro c hc hne hv
  have := List.any_eq_false.mp h c (Table.find_mem hc)
  simp [hne, hv] at this

/-- What a write that books nothing leaves of a case. -/
structure Steady (case case' : RecoveryCase) : Prop where
  id : case'.id = case.id
  razorpayPaymentId : case'.razorpayPaymentId = case.razorpayPaymentId
  amountAtRiskPaise : case'.amountAtRiskPaise = case.amountAtRiskPaise
  currency : case'.currency = case.currency
  isRecovered : case.isRecovered = true → case'.isRecovered = true

theorem Books.steady (h : Books case e) (hs : Steady case case') : Books case' e :=
  ⟨hs.id ▸ h.recoveryCaseId, hs.razorpayPaymentId ▸ h.razorpayPaymentId, hs.amountAtRiskPaise ▸ h.amountPaise,
    hs.currency ▸ h.currency⟩

theorem Steady.refl (case : RecoveryCase) : Steady case case := ⟨rfl, rfl, rfl, rfl, fun h => h⟩

theorem Steady.paid (h : Steady case case') : paidPaise case' = paidPaise case := by
  unfold paidPaise
  rw [h.razorpayPaymentId, h.amountAtRiskPaise]

theorem steady_merge (hr : case.isRecovered = true → held.isRecovered = true) (stored : RecoveryCase) :
    Steady stored (mergeCase case held stored) :=
  ⟨rfl, rfl, rfl, rfl, (AuditTrail.persists_merge hr stored).isRecovered⟩

theorem bookedPaise_append (added : List AuditEvent) (ha : db'.audit = added ++ db.audit)
    (hn : ∀ e ∈ added, isBooking e = false) :
    bookedPaise db' = bookedPaise db ∧ db'.audit.filterMap bookedPayment = db.audit.filterMap bookedPayment := by
  have hfilter : added.filter isBooking = [] := List.filter_eq_nil_iff.mpr fun e he => by simp [hn e he]
  have hmap : added.filterMap bookedPayment = [] := List.filterMap_eq_nil_iff.mpr fun e he => by
    simpa [isBooking] using hn e he
  unfold bookedPaise
  rw [ha, List.filter_append, hfilter, List.nil_append, List.filterMap_append, hmap, List.nil_append]
  exact ⟨rfl, rfl⟩

/-- A write that books nothing and leaves what is booked keeps the accounts. -/
theorem reconciled_quiet (h : Reconciled db) (added : List AuditEvent) (ha : db'.audit = added ++ db.audit)
    (hn : ∀ e ∈ added, isBooking e = false) (ho : Distinct RecoveryCase.razorpayOrderId db')
    {f : RecoveryCase → RecoveryCase} (hs : ∀ c, Steady c (f c))
    (hd : db'.cases = db.cases.update id f fun c => (hs c).id) : Reconciled db' := by
  obtain ⟨htotal, hmap⟩ := bookedPaise_append added ha hn
  refine ⟨hmap ▸ h.distinct, fun e he hb => ?_, fun case hf hp => ?_,
    distinct_update (fun c => (hs c).id) hd h.payments fun c => (hs c).razorpayPaymentId, ho, ?_⟩
  · rw [ha] at he
    rcases List.mem_append.mp he with he | he
    · rw [hn e he] at hb
      cases hb
    · obtain ⟨case, hf, hbooks⟩ := h.booked e he hb
      by_cases hid : case.id = id
      · have hfind : db'.cases.find case.id = some (f case) := by
          rw [hd, Table.find_update, if_pos hid, hf]
          rfl
        exact ⟨f case, (hs case).id.symm ▸ hfind, hbooks.steady (hs case)⟩
      · exact ⟨case, by rw [hd, Table.find_update, if_neg hid, hf], hbooks⟩
  · rw [hd] at hf
    obtain ⟨old, hold, hid, hcase⟩ := find_updated hf
    have hsteady : Steady old case := by
      rcases hcase with rfl | ⟨-, rfl⟩
      · exact .refl case
      · exact hs old
    obtain ⟨hr, e, he, hbooks⟩ := h.entered old (hid ▸ hold) (hsteady.razorpayPaymentId ▸ hp)
    exact ⟨hsteady.isRecovered hr, e, by rw [ha]; exact List.mem_append_right _ he, hbooks.steady hsteady⟩
  · rw [htotal, h.total, hd, Table.map_update paidPaise fun c => (hs c).paid]

/-- A case without a recovery has no booking. -/
theorem unpaid_of_unrecovered (h : Reconciled db) (hf : db.cases.find case.id = some case)
    (hr : case.isRecovered = false) : case.razorpayPaymentId = none := by
  cases hp : case.razorpayPaymentId with
  | none => rfl
  | some paymentId =>
      have hrec := (h.entered case hf (by rw [hp]; rfl)).1
      rw [hr] at hrec
      cases hrec

theorem reconciled_same (h : Reconciled db) (added : List AuditEvent) (ha : db'.audit = added ++ db.audit)
    (hn : ∀ e ∈ added, isBooking e = false) (hd : db'.cases = db.cases) : Reconciled db' := by
  have hupdate : db'.cases = db.cases.update (.ofDigit 0) (fun c => c) fun c => (Steady.refl c).id := by
    rw [hd, Table.update_eq_self fun _ _ => rfl]
  refine reconciled_quiet h added ha hn (fun a b value hfa hfb => ?_) Steady.refl hupdate
  rw [hd] at hfa hfb
  exact h.orders a b value hfa hfb

theorem reconciled_created {event : AuditEvent} {cases : Table Uuid RecoveryCase RecoveryCase.id}
    (h : Reconciled db) (hi : db.cases.insert case = some cases) (ho : case.razorpayOrderId = none)
    (hp : case.razorpayPaymentId = none) (hd : db'.cases = cases) (ha : db'.audit = event :: db.audit)
    (hn : isBooking event = false) : Reconciled db' := by
  have hnone : ∀ e ∈ [event], isBooking e = false := fun e he => List.mem_singleton.mp he ▸ hn
  obtain ⟨htotal, hmap⟩ := bookedPaise_append [event] ha hnone
  have hfind := Table.find_insert hi
  refine ⟨hmap ▸ h.distinct, fun e he hb => ?_, fun c hf hpaid => ?_, distinct_insert h.payments hi hp hd,
    distinct_insert h.orders hi ho hd, ?_⟩
  · rw [ha] at he
    rcases List.mem_cons.mp he with rfl | he
    · rw [hn] at hb
      cases hb
    · obtain ⟨c, hf, hbooks⟩ := h.booked e he hb
      refine ⟨c, ?_, hbooks⟩
      have hne : case.id ≠ c.id := by
        intro heq
        rw [← heq, Table.find_none_of_insert hi] at hf
        cases hf
      rw [hd, hfind, if_neg hne, hf]
  · rw [hd, hfind] at hf
    split at hf
    · cases hf
      rw [hp] at hpaid
      cases hpaid
    · obtain ⟨hr, e, he, hbooks⟩ := h.entered c hf hpaid
      exact ⟨hr, e, by rw [ha]; exact List.mem_cons_of_mem _ he, hbooks⟩
  · have hzero : paidPaise case = 0 := by simp [paidPaise, hp]
    rw [htotal, h.total, hd, Table.insert_rows hi, List.map_cons, List.sum_cons, hzero, Int.zero_add]

theorem reconciled_captured {orderId paymentId : String} {success recovered : AuditEvent} (h : Reconciled db)
    (hf : db.cases.find case.id = some case) (hr : case.isRecovered = false)
    (ht : paymentIdTaken db case paymentId = false) (he : Capture case orderId paymentId success recovered)
    (hd : db'.cases = db.cases.update case.id (captured paymentId case.amountAtRiskPaise)
      (captured_id paymentId case.amountAtRiskPaise))
    (ha : db'.audit = recovered :: success :: db.audit) : Reconciled db' := by
  obtain ⟨source, eventId, hpayload⟩ := he.payload
  have hbooked : bookedPayment recovered = some paymentId := bookedPayment_capture he.recoveredType hpayload
  have hbooking : isBooking recovered = true := by rw [isBooking, hbooked]; rfl
  have hquiet : isBooking success = false := isBooking_other (by rw [he.successType]; decide)
  have hsilent : bookedPayment success = none := by simpa [isBooking] using hquiet
  have hunpaid := unpaid_of_unrecovered h hf hr
  have hself : db'.cases.find case.id = some (captured paymentId case.amountAtRiskPaise case) := by
    rw [hd, Table.find_update_self, hf]
    rfl
  -- An older booking is about another case, as this one has no payment.
  have hother {c : RecoveryCase} (hc : db.cases.find c.id = some c) (hsome : c.razorpayPaymentId.isSome = true) :
      c.id ≠ case.id := by
    intro hid
    rw [hid, hf] at hc
    cases hc
    rw [hunpaid] at hsome
    cases hsome
  refine ⟨?_, fun e hmem hb => ?_, fun c hc hpaid => ?_, ?_, ?_, ?_⟩
  · rw [ha, List.filterMap_cons_some hbooked, List.filterMap_cons_none hsilent, List.nodup_cons]
    refine ⟨fun hmem => ?_, h.distinct⟩
    obtain ⟨e, hmem, hpay⟩ := List.mem_filterMap.mp hmem
    obtain ⟨c, hc, hbooks⟩ := h.booked e hmem (by rw [isBooking, hpay]; rfl)
    have hpc : c.razorpayPaymentId = some paymentId := hbooks.razorpayPaymentId ▸ hpay
    exact free_of_taken ht c hc (hother hc (by rw [hpc]; rfl)) hpc
  · rw [ha] at hmem
    rcases List.mem_cons.mp hmem with rfl | hmem
    · exact ⟨captured paymentId case.amountAtRiskPaise case, hself, he.recoveredCase, hbooked, he.amountPaise,
        he.currency⟩
    · rcases List.mem_cons.mp hmem with rfl | hmem
      · rw [hquiet] at hb
        cases hb
      · obtain ⟨c, hc, hbooks⟩ := h.booked e hmem hb
        refine ⟨c, ?_, hbooks⟩
        rw [hd, Table.find_update_ne _ (hother hc (hbooks.razorpayPaymentId ▸ hb)), hc]
  · rw [hd] at hc
    obtain ⟨old, hold, hid, hcase⟩ := find_updated hc
    rcases hcase with rfl | ⟨hidc, rfl⟩
    · obtain ⟨hrec, e, hmem, hbooks⟩ := h.entered c hold hpaid
      refine ⟨hrec, e, ?_, hbooks⟩
      rw [ha]
      exact List.mem_cons_of_mem _ (List.mem_cons_of_mem _ hmem)
    · rw [hidc, hf] at hold
      cases hold
      exact ⟨rfl, recovered, by rw [ha]; exact List.mem_cons_self,
        he.recoveredCase, hbooked, he.amountPaise, he.currency⟩
  · exact distinct_set (captured_id paymentId case.amountAtRiskPaise) hd h.payments (fun c => rfl) (free_of_taken ht)
  · exact distinct_update (captured_id paymentId case.amountAtRiskPaise) hd h.orders fun c => rfl
  · have hzero : paidPaise case = 0 := by simp [paidPaise, hunpaid]
    have hpaise : bookedPaise db' = case.amountAtRiskPaise + bookedPaise db := by
      unfold bookedPaise
      rw [ha, List.filter_cons_of_pos hbooking, List.filter_cons_of_neg (by simp [hquiet]), List.map_cons,
        List.sum_cons, he.amountPaise]
      rfl
    rw [hpaise, h.total, hd, Table.sum_update paidPaise hf, hzero]
    have hpaid : paidPaise (captured paymentId case.amountAtRiskPaise case) = case.amountAtRiskPaise := rfl
    rw [hpaid]
    omega

theorem written_reconciled {subject : Option Uuid} (h : Reconciled db) (hw : Written db subject db') : Reconciled db' := by
  cases hw with
  | kept => exact reconciled_same h [] rfl (by simp) rfl
  | created customers hi ho hp hr he hc =>
      exact reconciled_created h hi ho hp rfl rfl (isBooking_other (by rw [he]; decide))
  | @started run event runs hi hf hs he hc hr =>
      refine reconciled_same h [event] rfl ?_ rfl
      rintro e he'
      obtain rfl := List.mem_singleton.mp he'
      exact isBooking_other (by rw [he]; decide)
  | @refused case event hf he hc =>
      refine reconciled_same h [event] rfl ?_ rfl
      rintro e he'
      obtain rfl := List.mem_singleton.mp he'
      exact isBooking_other (by rw [he]; decide)
  | @ordered case orderId hf ho ht =>
      have hs (c : RecoveryCase) : Steady c (ordered orderId c) := ⟨rfl, rfl, rfl, rfl, fun h => h⟩
      refine reconciled_quiet h [] rfl (by simp) ?_ hs rfl
      refine distinct_set (ordered_id orderId) rfl h.orders (fun c => rfl) ?_
      exact free_of_taken ht
  | captured webhooks _ hf hr ho ht he => exact reconciled_captured h hf hr ht he rfl rfl
  | @escalated loaded reason event hf he hc =>
      have hs (c : RecoveryCase) : Steady c (mergeCase loaded (RecoveryService.escalated reason loaded) c) := by
        refine steady_merge ?_ c
        exact fun h => h
      refine reconciled_quiet h [event] rfl ?_ ?_ hs rfl
      · rintro e he'
        obtain rfl := List.mem_singleton.mp he'
        exact isBooking_other (by rw [he]; decide)
      · exact distinct_update (mergeCase_id loaded (RecoveryService.escalated reason loaded)) rfl h.orders fun c => rfl
  | @finished loaded case w hf _ hr hs hw he =>
      refine reconciled_quiet h w.events rfl (fun e hmem => isBooking_attempt (he e hmem)) ?_ (steady_merge hr) rfl
      exact distinct_update (mergeCase_id case w.case) rfl h.orders fun c => rfl

/-- Captured money is booked once: in every reached state the bookings of the
ledger are of pairwise different payments, each of them is of the one case that
has the payment, in its currency and over what was at risk, and what they say
together is what was at risk in the paid cases. -/
theorem captures_reconciled {customers : Table Uuid Customer Customer.id}
    (h : Reach (step settings) Any (init customers) sys) : Reconciled sys.db := by
  refine AuditTrail.db_invariant ⟨List.nodup_nil, ?_, ?_, ?_, ?_, rfl⟩ (fun _ _ _ => written_reconciled) h
  · intro e he
    cases he
  · intro case hf
    cases hf
  · intro a b value hf
    cases hf
  · intro a b value hf
    cases hf

theorem captures_reconciled_sample : Reconciled RecoveryLedger.capturedSys.db :=
  captures_reconciled RecoveryLedger.capturedSys_reach

end RevenueRescue.Bookings
