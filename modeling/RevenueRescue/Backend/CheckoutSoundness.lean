import RevenueRescue.Backend.Ledger

namespace RevenueRescue.CheckoutSoundness

open Enums Providers Models RecoveryService RazorpayCheckout Restrictions RecoveryLedger Machine

def eventsOf (audit : List AuditEvent) (caseId : Uuid) (eventType : AuditEventType) : List AuditEvent :=
  audit.filter fun e => e.recoveryCaseId = some caseId && e.eventType = eventType

/-- What a request leaves committed. An error rolls back, except that a rejected
checkout signature leaves its event. -/
def serve (settings : Settings) (db : Db) : Request → Db
  | .createOrder request answer =>
      match createOrder settings db request answer with
      | .ok (db', _) => db'
      | .error _ => db
  | .verifyPayment request answer => (verifyPayment settings db request answer).1
  | .razorpayWebhook request answer =>
      match razorpayWebhook settings db request answer with
      | .ok (db', _) => db'
      | .error _ => db

/-- A request, which has the row of its case locked, or anything that goes on
elsewhere in the database meanwhile. -/
inductive Move
  | request (q : Request)
  | elsewhere (db : Db)

def SameCase (id : Uuid) (db db' : Db) : Prop :=
  db'.cases.find id = db.cases.find id ∧
    db'.audit.filter (fun e => e.recoveryCaseId = some id) = db.audit.filter fun e => e.recoveryCaseId = some id

instance (id : Uuid) (db db' : Db) : Decidable (SameCase id db db') := inferInstanceAs (Decidable (_ ∧ _))

def step (settings : Settings) (id : Uuid) (db : Db) : Move → Option Db
  | .request q => some (serve settings db q)
  | .elsewhere db' => if SameCase id db db' then some db' else none

/-- A case that has not been recovered, nor is it in the ledger as if it had. -/
structure Untouched (db : Db) (id : Uuid) : Prop where
  row : ∃ case, db.cases.find id = some case ∧ case.isRecovered = false
  success : eventsOf db.audit id .paymentSuccess = []
  recovered : eventsOf db.audit id .revenueRecovered = []

/-- The checkout path for a case, over every run of requests. `settable` says
for which order ids `create_order` may still set one. -/
structure Sound (settings : Settings) (db0 : Db) (id : Uuid) (settable : Option String → Prop) : Prop where
  /-- Only an authenticated request with a matching captured payment recovers the case. -/
  authentic : ∀ db q case case', Reach (step settings id) Any db0 db → db.cases.find id = some case →
    (serve settings db q).cases.find id = some case' → case.isRecovered = false → case'.isRecovered = true →
    ∃ payment, Authentic settings q payment ∧ Matching case payment
  /-- A recovered case has its whole amount, for good, from one payment. -/
  settled : ∀ db db' case, Reach (step settings id) Any db0 db → Reach (step settings id) Any db db' →
    db.cases.find id = some case → case.isRecovered = true →
    case.amountRecoveredPaise = case.amountAtRiskPaise ∧
      ∃ case', db'.cases.find id = some case' ∧ case'.isRecovered = true ∧
        case'.amountAtRiskPaise = case.amountAtRiskPaise ∧
        case'.amountRecoveredPaise = case.amountRecoveredPaise ∧
        case'.razorpayPaymentId = case.razorpayPaymentId
  once : ∀ db, Reach (step settings id) Any db0 db →
    (eventsOf db.audit id .paymentSuccess).length ≤ 1 ∧ (eventsOf db.audit id .revenueRecovered).length ≤ 1
  unchanged : ∀ db q case, Reach (step settings id) Any db0 db → db.cases.find id = some case →
    ∃ case', (serve settings db q).cases.find id = some case' ∧
      (case'.isRecovered = true ∧ case.isRecovered = false ∨ case' = case ∨
        ∃ request answer orderId, q = .createOrder request answer ∧ settable case.razorpayOrderId ∧
          case' = ordered orderId case)

variable {settings : Settings} {db db' db0 : Db} {id : Uuid} {q : Request} {case : RecoveryCase}

theorem serve_served (settings : Settings) (db : Db) (q : Request) : Served settings db q (serve settings db q) := by
  cases q with
  | createOrder request answer =>
      simp only [serve]
      split
      · exact createOrder_served (by assumption)
      · exact .unchanged _
  | verifyPayment request answer => exact verifyPayment_served settings db request answer
  | razorpayWebhook request answer =>
      simp only [serve]
      split
      · exact razorpayWebhook_served (by assumption)
      · exact .unchanged _

theorem eventsOf_cons (audit : List AuditEvent) (e : AuditEvent) (id : Uuid) (t : AuditEventType) :
    eventsOf (e :: audit) id t =
      if e.recoveryCaseId = some id ∧ e.eventType = t then e :: eventsOf audit id t else eventsOf audit id t := by
  by_cases hc : e.recoveryCaseId = some id <;> by_cases ht : e.eventType = t <;> simp [eventsOf, hc, ht]

theorem eventsOf_same (h : SameCase id db db') (t : AuditEventType) : eventsOf db'.audit id t = eventsOf db.audit id t := by
  have hsplit (audit : List AuditEvent) : eventsOf audit id t =
      (audit.filter fun e => e.recoveryCaseId = some id).filter fun e => e.eventType = t := by
    rw [List.filter_filter]
    exact List.filter_congr fun e _ => by rw [Bool.and_comm]
  rw [hsplit, hsplit, h.2]

inductive Effect (settings : Settings) (db : Db) (id : Uuid) (case : RecoveryCase) : Request → Db → Prop
  | none {q : Request} {db' : Db} (hf : db'.cases.find id = some case)
      (hs : eventsOf db'.audit id .paymentSuccess = eventsOf db.audit id .paymentSuccess)
      (hr : eventsOf db'.audit id .revenueRecovered = eventsOf db.audit id .revenueRecovered) : Effect settings db id case q db'
  | ordered {request : CreateOrderRequest} {order : OrderResult} {db' : Db} (ht : ¬ Terminal case)
      (ho : case.razorpayOrderId.filter (· ≠ "") = .none)
      (hf : db'.cases.find id = some (RazorpayCheckout.ordered order.orderId case)) (ha : db'.audit = db.audit) :
      Effect settings db id case (.createOrder request (.ok order)) db'
  | captured {q : Request} {payment : PaymentResult} {paymentId : String} {db' : Db}
      (ha : Authentic settings q payment) (hr : case.isRecovered = false) (hm : Matching case payment)
      (hf : db'.cases.find id = some (RazorpayCheckout.captured paymentId payment.amountPaise case))
      (hs : (eventsOf db'.audit id .paymentSuccess).length = (eventsOf db.audit id .paymentSuccess).length + 1)
      (he : (eventsOf db'.audit id .revenueRecovered).length = (eventsOf db.audit id .revenueRecovered).length + 1) :
      Effect settings db id case q db'

theorem serve_effect (settings : Settings) (q : Request) (hcase : db.cases.find id = some case) :
    Effect settings db id case q (serve settings db q) := by
  have h := serve_served settings db q
  generalize serve settings db q = db' at h ⊢
  cases h with
  | kept => exact .none hcase rfl rfl
  | @refused _ _ e he =>
      refine .none hcase ?_ ?_
      · rw [eventsOf_cons, if_neg (by simp [he])]
      · rw [eventsOf_cons, if_neg (by simp [he])]
  | @ordered _ order case0 hf ht ho =>
      by_cases hid : id = case0.id
      · subst hid
        obtain rfl := Option.some.inj (hcase.symm.trans hf)
        refine .ordered ht ho ?_ rfl
        rw [Table.find_update_self, hf, Option.map_some]
      · refine .none ?_ rfl rfl
        rw [Table.find_update_ne _ hid, hcase]
  | @captured _ payment case0 paymentId success recovered webhooks ha hf hr hm hs hc he =>
      by_cases hid : id = case0.id
      · subst hid
        obtain rfl := Option.some.inj (hcase.symm.trans hf)
        have hrow : (db.cases.update case.id (captured paymentId payment.amountPaise)
            (captured_id paymentId payment.amountPaise)).find case.id =
              some (captured paymentId payment.amountPaise case) := by
          rw [Table.find_update_self, hf, Option.map_some]
        refine .captured ha hr hm hrow ?_ ?_
        · rw [eventsOf_cons, if_neg (by simp [he.eventType]), eventsOf_cons, if_pos ⟨hc, hs⟩, List.length_cons]
        · rw [eventsOf_cons, if_pos ⟨he.recoveryCaseId, he.eventType⟩, eventsOf_cons, if_neg (by simp [hs]),
            List.length_cons]
      · refine .none ?_ ?_ ?_
        · rw [Table.find_update_ne _ hid, hcase]
        · rw [eventsOf_cons, if_neg (by simp [he.eventType]), eventsOf_cons, if_neg (by simp [hc, Ne.symm hid])]
        · rw [eventsOf_cons, if_neg (by simp [he.recoveryCaseId, Ne.symm hid]), eventsOf_cons,
            if_neg (by simp [hs])]

structure Inv (id : Uuid) (db : Db) (case : RecoveryCase) : Prop where
  row : db.cases.find id = some case
  amount : case.isRecovered = true → case.amountRecoveredPaise = case.amountAtRiskPaise
  events : if case.isRecovered then
      (eventsOf db.audit id .paymentSuccess).length = 1 ∧ (eventsOf db.audit id .revenueRecovered).length = 1
    else (eventsOf db.audit id .paymentSuccess).length = 0 ∧ (eventsOf db.audit id .revenueRecovered).length = 0

def Keeps (case case' : RecoveryCase) : Prop :=
  case.isRecovered = true → case'.isRecovered = true ∧ case'.amountAtRiskPaise = case.amountAtRiskPaise ∧
    case'.amountRecoveredPaise = case.amountRecoveredPaise ∧ case'.razorpayPaymentId = case.razorpayPaymentId

theorem Keeps.trans {a b c : RecoveryCase} (hab : Keeps a b) (hbc : Keeps b c) : Keeps a c := by
  intro ha
  obtain ⟨hb, h1, h2, h3⟩ := hab ha
  obtain ⟨hc, h4, h5, h6⟩ := hbc hb
  exact ⟨hc, h4.trans h1, h5.trans h2, h6.trans h3⟩

theorem inv_move {m : Move} (hi : Inv id db case) (h : step settings id db m = some db') :
    ∃ case', Inv id db' case' ∧ Keeps case case' := by
  cases m with
  | elsewhere db1 =>
      simp only [step] at h
      split at h
      · rename_i hsame
        cases h
        refine ⟨case, ⟨hsame.1.trans hi.row, hi.amount, ?_⟩, fun hr => ⟨hr, rfl, rfl, rfl⟩⟩
        rw [eventsOf_same hsame, eventsOf_same hsame]
        exact hi.events
      · cases h
  | request q =>
      obtain rfl : serve settings db q = db' := Option.some.inj h
      cases serve_effect settings q hi.row with
      | none hf hs hr =>
          refine ⟨case, ⟨hf, hi.amount, ?_⟩, fun hr => ⟨hr, rfl, rfl, rfl⟩⟩
          rw [hs, hr]
          exact hi.events
      | ordered ht _ hf ha =>
          refine ⟨_, ⟨hf, hi.amount, ?_⟩, fun hr => ⟨hr, rfl, rfl, rfl⟩⟩
          unfold eventsOf
          rw [ha]
          exact hi.events
      | captured _ hr hm hf hs he =>
          have hevents := hi.events
          rw [hr] at hevents
          refine ⟨_, ⟨hf, fun _ => hm.amount, ?_⟩, fun hrec => absurd (hr.symm.trans hrec) (by decide)⟩
          simp only [captured, if_true]
          exact ⟨by rw [hs, hevents.1], by rw [he, hevents.2]⟩

theorem inv_of_reach (hi : Inv id db case) (h : Reach (step settings id) Any db db') :
    ∃ case', Inv id db' case' ∧ Keeps case case' := by
  refine h.invariant (I := fun db' => ∃ case', Inv id db' case' ∧ Keeps case case')
    ⟨case, hi, fun hr => ⟨hr, rfl, rfl, rfl⟩⟩ fun db1 m db2 _ ⟨case1, hi1, hk⟩ _ hs => ?_
  obtain ⟨case2, hi2, hk2⟩ := inv_move hi1 hs
  exact ⟨case2, hi2, hk.trans hk2⟩

theorem Untouched.inv (h : Untouched db0 id) : ∃ case, Inv id db0 case := by
  obtain ⟨case, hf, hr⟩ := h.row
  refine ⟨case, hf, fun hrec => absurd (hr.symm.trans hrec) (by decide), ?_⟩
  rw [hr, h.success, h.recovered]
  exact ⟨rfl, rfl⟩

/-- Checkout soundness, over every run of requests that starts with an untouched
case. An order id can be set while there is none, or the empty one. -/
theorem checkout_sound (h0 : Untouched db0 id) :
    Sound settings db0 id fun orderId => orderId.filter (· ≠ "") = none := by
  obtain ⟨case0, hi0⟩ := h0.inv
  constructor
  · intro db q case case' _ hcase hcase' hr hr'
    cases serve_effect settings q hcase with
    | none hf =>
        obtain rfl := Option.some.inj (hf.symm.trans hcase')
        rw [hr] at hr'
        cases hr'
    | ordered _ _ hf =>
        obtain rfl := Option.some.inj (hf.symm.trans hcase')
        have hr' : case.isRecovered = true := hr'
        rw [hr] at hr'
        cases hr'
    | captured ha _ hm => exact ⟨_, ha, hm⟩
  · intro db db' case hreach hreach' hcase hr
    obtain ⟨case1, hi1, -⟩ := inv_of_reach hi0 hreach
    obtain rfl := Option.some.inj (hi1.row.symm.trans hcase)
    obtain ⟨case', hi', hk⟩ := inv_of_reach hi1 hreach'
    exact ⟨hi1.amount hr, case', hi'.row, hk hr⟩
  · intro db hreach
    obtain ⟨case, hi, -⟩ := inv_of_reach hi0 hreach
    have hevents := hi.events
    split at hevents <;> omega
  · intro db q case _ hcase
    cases serve_effect settings q hcase with
    | none hf => exact ⟨case, hf, .inr (.inl rfl)⟩
    | ordered _ ho hf => exact ⟨_, hf, .inr (.inr ⟨_, _, _, rfl, ho, rfl⟩)⟩
    | captured _ hr _ hf => exact ⟨_, hf, .inl ⟨rfl, hr⟩⟩

def openDb : Db := { cases := restrictedDb.cases }

theorem openDb_untouched : Untouched openDb sampleCase.id := ⟨⟨sampleCase, rfl, rfl⟩, rfl, rfl⟩

theorem checkout_sound_sample : Sound sampleSettings openDb sampleCase.id fun orderId => orderId.filter (· ≠ "") = none :=
  checkout_sound openDb_untouched

def orderRequest (orderId : String) : Request :=
  .createOrder { caseId := sampleCase.id.str, case_id_length := by decide +kernel } (.ok { sampleOrder with orderId := orderId })

/-- A provider that first gives an empty order id: the column is set twice. -/
theorem order_set_twice : ¬ ∀ settings db0 id, Untouched db0 id → Sound settings db0 id (· = none) := by
  intro h
  have hsound := h sampleSettings openDb sampleCase.id openDb_untouched
  have hrow : (serve sampleSettings openDb (orderRequest "")).cases.find sampleCase.id =
      some (ordered "" sampleCase) := by decide +kernel
  have hrow' : (serve sampleSettings (serve sampleSettings openDb (orderRequest ""))
      (orderRequest "order_1")).cases.find sampleCase.id = some (ordered "order_1" sampleCase) := by decide +kernel
  obtain ⟨case', hcase', hcases⟩ := hsound.unchanged _ (orderRequest "order_1") _
    (.single (a := .request (orderRequest "")) trivial rfl) hrow
  obtain rfl := Option.some.inj (hrow'.symm.trans hcase')
  rcases hcases with ⟨hr, -⟩ | hsame | ⟨_, _, _, -, hnone, -⟩
  · cases hr
  · exact absurd hsame (by decide)
  · cases hnone

end RevenueRescue.CheckoutSoundness
