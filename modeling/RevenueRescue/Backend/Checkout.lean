import RevenueRescue.Backend.RecoveryService

namespace RevenueRescue.RazorpayCheckout

open Enums Providers Models RecoveryService

structure HttpError where
  statusCode : Nat
  detail : String
  deriving DecidableEq

def serverError : HttpError := ⟨500, "Internal Server Error"⟩

/-- What the endpoints read of the configuration. The two signatures are the
HMACs under the configured secrets. -/
structure Settings where
  razorpayTestReady : Bool
  razorpayKeyId : String
  webhookConfigured : Bool
  checkoutSignature : (orderId paymentId : String) → String
  webhookSignature : (raw : String) → String

structure CreateOrderRequest where
  caseId : String
  case_id_length : 1 ≤ caseId.length ∧ caseId.length ≤ 64 := by decide

structure CreateOrderResponse where
  orderId : String
  amountPaise : Int
  currency : String
  keyId : String
  caseId : String
  provider : ProviderMode

structure VerifyPaymentRequest where
  razorpayPaymentId : String
  razorpayOrderId : String
  razorpaySignature : String
  caseId : Option String := none
  payment_id_length : 1 ≤ razorpayPaymentId.length ∧ razorpayPaymentId.length ≤ 128 := by decide
  order_id_length : 1 ≤ razorpayOrderId.length ∧ razorpayOrderId.length ≤ 128 := by decide
  signature_length : 64 ≤ razorpaySignature.length ∧ razorpaySignature.length ≤ 128 := by decide
  case_id_length : (caseId.getD "").length ≤ 64 := by decide

inductive VerifyStatus
  | recovered
  | alreadyVerified
  | pending
  | verificationFailed
  deriving DecidableEq

structure VerifyPaymentResponse where
  status : VerifyStatus
  caseId : Option String := none
  amountRecoveredPaise : Option Int := none
  message : Option String := none

/-- The JSON body of a webhook, as far as it is read: its `event`, and the `id`
and `order_id` of the payment entity where these are truthy, as texts. -/
structure WebhookBody where
  event : String := "unknown"
  paymentId : Option String := none
  orderId : Option String := none

structure WebhookRequest where
  signature : Option String
  eventId : Option String
  event : Option String
  raw : String
  body : Option WebhookBody

inductive WebhookStatus
  | duplicate
  | accepted
  deriving DecidableEq

/-- `hmac.compare_digest` on texts, which raises on one that is not ASCII. -/
def compareDigest (expected given : String) : Except HttpError Bool :=
  if expected.toList.all (·.val < 128) && given.toList.all (·.val < 128) then .ok (expected = given)
  else .error serverError

/-- `AuditService.record` on the session, which the caller commits. -/
def record (db : Db) (a : AuditArgs) : Except String Db :=
  (auditEvent a).map fun e => { db with audit := e :: db.audit }

def orServerError {α : Type} : Except String α → Except HttpError α
  | .ok a => .ok a
  | .error _ => .error serverError

def captured (paymentId : String) (amountPaise : Int) (case : RecoveryCase) : RecoveryCase :=
  { case with
    razorpayPaymentId := some paymentId
    amountRecoveredPaise := amountPaise
    status := .recovered
    isRecovered := true
    isStopped := true }

def ordered (orderId : String) (case : RecoveryCase) : RecoveryCase :=
  { case with razorpayOrderId := some orderId }

theorem captured_id (paymentId : String) (amountPaise : Int) (case : RecoveryCase) :
    (captured paymentId amountPaise case).id = case.id := rfl

theorem ordered_id (orderId : String) (case : RecoveryCase) : (ordered orderId case).id = case.id := rfl

def paymentIdTaken (db : Db) (case : RecoveryCase) (paymentId : String) : Bool :=
  db.cases.rows.any fun c => c.id ≠ case.id && c.razorpayPaymentId = some paymentId

def orderIdTaken (db : Db) (case : RecoveryCase) (orderId : String) : Bool :=
  db.cases.rows.any fun c => c.id ≠ case.id && c.razorpayOrderId = some orderId

def capturePayload (paymentId orderId source : String) (eventId : Option String) : AuditPayload :=
  .checkout ([("razorpay_order_id", orderId), ("razorpay_payment_id", paymentId),
    ("provider", "razorpay_test"), ("source", source)] ++
      (eventId.filter (· ≠ "")).toList.map fun e => ("razorpay_event_id", e))

/-- The tail of `_reconcile_captured_payment`: the row and its two events. -/
def recordCapture (db : Db) (case : RecoveryCase) (paymentId : String) (amountPaise : Int)
    (payload : AuditPayload) : Except String Db := do
  let cases := db.cases.update case.id (captured paymentId amountPaise) (captured_id paymentId amountPaise)
  let db := { db with cases := cases }
  let db ← record db {
    eventType := .paymentSuccess
    actor := .recoveryVerifier
    recoveryCaseId := some case.id.str
    amountPaise := some amountPaise
    currency := case.currency
    result := some "PROVIDER_CAPTURED"
    payload := some payload }
  record db {
    eventType := .revenueRecovered
    actor := .recoveryVerifier
    recoveryCaseId := some case.id.str
    amountPaise := some amountPaise
    currency := case.currency
    result := some "VERIFIED"
    reason := some (.text "Captured payment confirmed by Razorpay API")
    payload := some payload }

/-- `_reconcile_captured_payment` on the locked row, with what the provider
answers for the payment. -/
def reconcileCapturedPayment (db : Db) (case : RecoveryCase) (answer : Except String PaymentResult)
    (paymentId orderId source : String) (eventId : Option String) :
    Except HttpError (Db × VerifyPaymentResponse) :=
  if case.isRecovered then
    .ok (db, {
      status := .alreadyVerified
      caseId := some case.id.str
      amountRecoveredPaise := some case.amountRecoveredPaise
      message := some "Payment was already independently verified" })
  else
    match answer with
    | .error _ =>
        .ok (db, {
          status := .verificationFailed
          caseId := some case.id.str
          message := some "Provider verification failed" })
    | .ok payment =>
        if PyValue.get (payment.raw.getD []) "order_id" .none ≠ .str orderId then
          .error ⟨400, "Payment order ID mismatch"⟩
        else if payment.amountPaise ≠ case.amountAtRiskPaise then
          .error ⟨400, "Payment amount mismatch"⟩
        else if payment.currency.toUpper ≠ case.currency.toUpper then
          .error ⟨400, "Payment currency mismatch"⟩
        else if payment.status ≠ .success then
          .ok (db, {
            status := if payment.status = .pending then .pending else .verificationFailed
            caseId := some case.id.str
            message := some "Payment is not captured; revenue remains unrecovered" })
        else if paymentIdTaken db case paymentId then .error serverError
        else
          (orServerError (recordCapture db case paymentId payment.amountPaise
            (capturePayload paymentId orderId source eventId))).map fun db => (db, {
              status := .recovered
              caseId := some case.id.str
              amountRecoveredPaise := some payment.amountPaise
              message := some "Payment captured and independently verified by Razorpay" })

/-- `create_order` in its transaction; an error leaves nothing behind. -/
def createOrder (settings : Settings) (db : Db) (request : CreateOrderRequest)
    (answer : Except String OrderResult) : Except HttpError (Db × CreateOrderResponse) :=
  if !settings.razorpayTestReady then .error ⟨503, "Razorpay Test Mode is not configured"⟩
  else match Uuid.parse request.caseId with
  | none => .error ⟨400, "Invalid case_id"⟩
  | some id =>
      match db.cases.find id with
      | none => .error ⟨404, "Recovery case not found"⟩
      | some case =>
          if case.status ∈ [.recovered, .stopped, .escalated] ∨ case.isRecovered = true ∨
              case.isStopped = true then
            .error ⟨409, "Recovery case is terminal"⟩
          else
            match case.razorpayOrderId.filter (· ≠ "") with
            | some orderId =>
                .ok (db, {
                  orderId := orderId
                  amountPaise := case.amountAtRiskPaise
                  currency := case.currency
                  keyId := settings.razorpayKeyId
                  caseId := case.id.str
                  provider := .razorpayTest })
            | none =>
                match answer with
                | .error _ => .error ⟨502, "Razorpay order creation failed"⟩
                | .ok order =>
                    if orderIdTaken db case order.orderId then .error serverError
                    else
                      let cases := db.cases.update case.id (ordered order.orderId) (ordered_id order.orderId)
                      .ok ({ db with cases := cases }, {
                        orderId := order.orderId
                        amountPaise := order.amountPaise
                        currency := order.currency
                        keyId := settings.razorpayKeyId
                        caseId := case.id.str
                        provider := order.provider })

def findByOrder (db : Db) (orderId : String) : Option RecoveryCase :=
  db.cases.select fun c => c.razorpayOrderId = some orderId

/-- `verify_payment`. What it commits comes first: a rejected signature leaves
its event behind. -/
def verifyPayment (settings : Settings) (db : Db) (request : VerifyPaymentRequest)
    (answer : Except String PaymentResult) : Db × Except HttpError VerifyPaymentResponse :=
  if !settings.razorpayTestReady then (db, .error ⟨503, "Razorpay Test Mode is not configured"⟩)
  else match findByOrder db request.razorpayOrderId with
  | none => (db, .error ⟨404, "No recovery case found for this order"⟩)
  | some case =>
      if (request.caseId.filter (· ≠ "")).any (· ≠ case.id.str) then
        (db, .error ⟨400, "Case does not own this order"⟩)
      else match compareDigest
          (settings.checkoutSignature request.razorpayOrderId request.razorpayPaymentId)
          request.razorpaySignature with
      | .error e => (db, .error e)
      | .ok false =>
          match record db {
              eventType := .unauthorizedActionAttempt
              actor := .system
              recoveryCaseId := some case.id.str
              result := some "REJECTED"
              reason := some (.text "Invalid Razorpay Checkout signature") } with
          | .ok db' => (db', .error ⟨400, "Invalid payment signature"⟩)
          | .error _ => (db, .error serverError)
      | .ok true =>
          if case.isRecovered then
            if case.razorpayPaymentId ≠ some request.razorpayPaymentId then
              (db, .error ⟨400, "Payment does not match the verified case payment"⟩)
            else
              (db, .ok {
                status := .alreadyVerified
                caseId := some case.id.str
                amountRecoveredPaise := some case.amountRecoveredPaise
                message := some "Payment was already independently verified" })
          else
            match reconcileCapturedPayment db case answer request.razorpayPaymentId
                request.razorpayOrderId "checkout_callback" none with
            | .ok (db', response) => (db', .ok response)
            | .error e => (db, .error e)

/-- The part of `razorpay_webhook` behind the receipt. -/
def handleWebhook (db : Db) (eventType eventId : String) (body : WebhookBody)
    (answer : Except String PaymentResult) : Except HttpError Db :=
  match eventType, body.paymentId, body.orderId with
  | "payment.captured", some paymentId, some orderId =>
      match findByOrder db orderId with
      | some case =>
          (reconcileCapturedPayment db case answer paymentId orderId "webhook" (some eventId)).map
            Prod.fst
      | none => .ok db
  | _, _, _ => .ok db

def razorpayWebhook (settings : Settings) (db : Db) (request : WebhookRequest)
    (answer : Except String PaymentResult) : Except HttpError (Db × WebhookStatus) :=
  if !settings.webhookConfigured then .error ⟨503, "Webhook receiver is not configured"⟩
  else match request.signature.filter (· ≠ ""), request.eventId.filter (· ≠ "") with
  | some signature, some eventId =>
      match compareDigest (settings.webhookSignature request.raw) signature, request.body with
      | .error e, _ => .error e
      | .ok false, _ => .error ⟨400, "Invalid webhook signature"⟩
      | .ok true, none => .error ⟨400, "Malformed JSON payload"⟩
      | .ok true, some body =>
          let eventType := (request.event.filter (· ≠ "")).getD body.event
          match db.webhooks.insert ⟨eventId, eventType, true⟩ with
          | none => .ok (db, .duplicate)
          | some webhooks =>
              (handleWebhook { db with webhooks := webhooks } eventType eventId body answer).map
                fun db => (db, .accepted)
  | _, _ => .error ⟨400, "Missing Razorpay signature or event id"⟩

def Terminal (case : RecoveryCase) : Prop :=
  case.status ∈ [RecoveryCaseStatus.recovered, .stopped, .escalated] ∨ case.isRecovered = true ∨
    case.isStopped = true

structure Confirms (case : RecoveryCase) (amountPaise : Int) (e : AuditEvent) : Prop where
  recoveryCaseId : e.recoveryCaseId = some case.id
  eventType : e.eventType = .revenueRecovered
  amountPaise : e.amountPaise = some amountPaise
  currency : e.currency = case.currency

/-- What a checkout operation can do to the cases and the ledger: add events
that recover nothing, set the order of an open case, or recover a case that is
not recovered, with its event. The runs stay as they are. -/
inductive Change (db db' : Db) : Prop
  | ledger {added : List AuditEvent} (hk : db'.runs = db.runs) (hc : db'.cases = db.cases)
      (ha : db'.audit = added ++ db.audit) (hn : ∀ e ∈ added, e.eventType ≠ .revenueRecovered)
  | ordered {case : RecoveryCase} {orderId : String} (hk : db'.runs = db.runs)
      (hf : db.cases.find case.id = some case) (ht : ¬ Terminal case)
      (hc : db'.cases = db.cases.update case.id (ordered orderId) (ordered_id orderId))
      (ha : db'.audit = db.audit)
  | captured {case : RecoveryCase} {paymentId : String} {amountPaise : Int} {success recovered : AuditEvent}
      (hk : db'.runs = db.runs) (hf : db.cases.find case.id = some case) (hr : case.isRecovered = false)
      (hc : db'.cases = db.cases.update case.id (captured paymentId amountPaise) (captured_id paymentId amountPaise))
      (ha : db'.audit = recovered :: success :: db.audit) (hs : success.eventType = .paymentSuccess)
      (he : Confirms case amountPaise recovered)

variable {settings : Settings} {db db' : Db} {case : RecoveryCase}

theorem Change.refl (db : Db) : Change db db := .ledger rfl rfl (List.nil_append db.audit).symm (by simp)

theorem Change.runs (h : Change db db') : db'.runs = db.runs := by
  cases h with
  | ledger hk | ordered hk | captured hk => exact hk

theorem Change.row (h : Change db db') (id : Uuid) :
    (db'.cases.find id = db.cases.find id ∧ recoveredEvents db' id = recoveredEvents db id) ∨
    (∃ case orderId, db.cases.find id = some case ∧ ¬ Terminal case ∧
      db'.cases.find id = some (RazorpayCheckout.ordered orderId case) ∧
      recoveredEvents db' id = recoveredEvents db id) ∨
    ∃ case paymentId amountPaise e, db.cases.find id = some case ∧ case.isRecovered = false ∧
      db'.cases.find id = some (RazorpayCheckout.captured paymentId amountPaise case) ∧
      Confirms case amountPaise e ∧ recoveredEvents db' id = e :: recoveredEvents db id := by
  cases h with
  | @ledger added hk hc ha hn =>
      have hnone : added.filter (isRecoveryOf id) = [] := by
        apply List.filter_eq_nil_iff.mpr
        intro e he
        simp [isRecoveryOf, hn e he]
      exact .inl ⟨by rw [hc], by simp [recoveredEvents, ha, hnone]⟩
  | @ordered case orderId hk hf ht hc ha =>
      have hevents : recoveredEvents db' id = recoveredEvents db id := by rw [recoveredEvents, ha]; rfl
      by_cases hid : id = case.id
      · subst hid
        refine .inr (.inl ⟨case, orderId, hf, ht, ?_, hevents⟩)
        rw [hc, Table.find_update_self, hf, Option.map_some]
      · exact .inl ⟨by rw [hc, Table.find_update_ne _ hid], hevents⟩
  | @captured case paymentId amountPaise success recovered hk hf hr hc ha hs he =>
      have hsuccess : isRecoveryOf id success = false := by simp [isRecoveryOf, hs]
      by_cases hid : id = case.id
      · subst hid
        have hrec : isRecoveryOf case.id recovered = true := by
          simp [isRecoveryOf, he.recoveryCaseId, he.eventType]
        refine .inr (.inr ⟨case, paymentId, amountPaise, recovered, hf, hr, ?_, he, ?_⟩)
        · rw [hc, Table.find_update_self, hf, Option.map_some]
        · simp [recoveredEvents, ha, hrec, hsuccess]
      · have hrec : isRecoveryOf id recovered = false := by
          simp [isRecoveryOf, he.recoveryCaseId, Ne.symm hid]
        refine .inl ⟨by rw [hc, Table.find_update_ne _ hid], ?_⟩
        simp [recoveredEvents, ha, hrec, hsuccess]

inductive Request
  | createOrder (request : CreateOrderRequest) (answer : Except String OrderResult)
  | verifyPayment (request : VerifyPaymentRequest) (answer : Except String PaymentResult)
  | razorpayWebhook (request : WebhookRequest) (answer : Except String PaymentResult)

/-- The signature of the request is the HMAC, and the provider returned `payment` for it. -/
def Authentic (settings : Settings) : Request → PaymentResult → Prop
  | .createOrder _ _, _ => False
  | .verifyPayment request answer, payment =>
      compareDigest (settings.checkoutSignature request.razorpayOrderId request.razorpayPaymentId)
        request.razorpaySignature = .ok true ∧ answer = .ok payment
  | .razorpayWebhook request answer, payment =>
      (∃ signature, request.signature = some signature ∧
        compareDigest (settings.webhookSignature request.raw) signature = .ok true) ∧ answer = .ok payment

/-- The provider reports the payment as captured for the order, the amount and the currency of the case. -/
structure Matching (case : RecoveryCase) (payment : PaymentResult) : Prop where
  status : payment.status = .success
  order : ∃ orderId, case.razorpayOrderId = some orderId ∧
    PyValue.get (payment.raw.getD []) "order_id" .none = .str orderId
  amount : payment.amountPaise = case.amountAtRiskPaise
  currency : payment.currency.toUpper = case.currency.toUpper

/-- What a request can leave behind, each with what it has checked. -/
inductive Served (settings : Settings) (db : Db) : Request → Db → Prop
  | kept (q : Request) (webhooks : Table String ProviderWebhook ProviderWebhook.eventId) :
      Served settings db q { db with webhooks := webhooks }
  | refused (request : VerifyPaymentRequest) (answer : Except String PaymentResult) {e : AuditEvent}
      (he : e.eventType = .unauthorizedActionAttempt) :
      Served settings db (.verifyPayment request answer) { db with audit := e :: db.audit }
  | ordered {request : CreateOrderRequest} {order : OrderResult} {case : RecoveryCase}
      (hf : db.cases.find case.id = some case) (ht : ¬ Terminal case)
      (ho : case.razorpayOrderId.filter (· ≠ "") = none) :
      Served settings db (.createOrder request (.ok order))
        { db with cases := db.cases.update case.id (ordered order.orderId) (ordered_id order.orderId) }
  | captured {q : Request} {payment : PaymentResult} {case : RecoveryCase} {paymentId : String}
      {success recovered : AuditEvent} (webhooks : Table String ProviderWebhook ProviderWebhook.eventId)
      (ha : Authentic settings q payment) (hf : db.cases.find case.id = some case)
      (hr : case.isRecovered = false) (hm : Matching case payment)
      (hs : success.eventType = .paymentSuccess) (hc : success.recoveryCaseId = some case.id)
      (he : Confirms case payment.amountPaise recovered) :
      Served settings db q
        { db with
          cases := db.cases.update case.id (captured paymentId payment.amountPaise)
            (captured_id paymentId payment.amountPaise)
          webhooks := webhooks
          audit := recovered :: success :: db.audit }

theorem Served.unchanged (q : Request) : Served settings db q db := .kept q db.webhooks

theorem Served.change {q : Request} (h : Served settings db q db') : Change db db' := by
  cases h with
  | kept => exact .ledger rfl rfl (List.nil_append db.audit).symm (by simp)
  | refused _ _ he => exact .ledger rfl rfl (List.singleton_append (l := db.audit)).symm (by simp [he])
  | ordered hf ht => exact .ordered rfl hf ht rfl rfl
  | captured _ _ hf hr _ hs _ he => exact .captured rfl hf hr rfl rfl hs he

theorem recordCapture_ok {paymentId : String} {amountPaise : Int} {payload : AuditPayload}
    (h : recordCapture db case paymentId amountPaise payload = .ok db') :
    ∃ success recovered : AuditEvent, success.eventType = .paymentSuccess ∧
      success.recoveryCaseId = some case.id ∧ Confirms case amountPaise recovered ∧
      db' = { db with
        cases := db.cases.update case.id (captured paymentId amountPaise) (captured_id paymentId amountPaise)
        audit := recovered :: success :: db.audit } := by
  simp only [recordCapture, record, auditEvent_case case.id, Except.map, bind,
    Except.bind] at h
  cases h
  exact ⟨_, _, rfl, rfl, ⟨rfl, rfl, rfl, rfl⟩, rfl⟩

theorem reconcileCapturedPayment_served {q : Request} {answer : Except String PaymentResult}
    {paymentId orderId source : String} {eventId : Option String} {response : VerifyPaymentResponse}
    {webhooks : Table String ProviderWebhook ProviderWebhook.eventId}
    (hq : ∀ payment, answer = .ok payment → Authentic settings q payment)
    (hf : db.cases.find case.id = some case) (ho : case.razorpayOrderId = some orderId)
    (h : reconcileCapturedPayment { db with webhooks := webhooks } case answer paymentId orderId source eventId =
      .ok (db', response)) : Served settings db q db' := by
  unfold reconcileCapturedPayment at h
  by_cases hr : case.isRecovered = true
  · rw [if_pos hr] at h
    cases h
    exact .kept q webhooks
  · rw [if_neg hr] at h
    cases answer with
    | error e => cases h; exact .kept q webhooks
    | ok payment =>
        simp only at h
        -- The three checks of what the provider reports, then its status.
        split at h
        · cases h
        split at h
        · cases h
        split at h
        · cases h
        split at h
        · cases h
          exact .kept q webhooks
        split at h
        · cases h
        cases hc : recordCapture { db with webhooks := webhooks } case paymentId payment.amountPaise
            (capturePayload paymentId orderId source eventId) with
        | error e => rw [hc] at h; cases h
        | ok db1 =>
            rw [hc] at h
            cases h
            obtain ⟨success, recovered, hs, hid, he, rfl⟩ := recordCapture_ok hc
            rename_i horder hamount hcurrency hstatus _
            exact .captured webhooks (hq payment rfl) hf (Bool.eq_false_of_not_eq_true hr)
              ⟨not_not.mp hstatus, ⟨orderId, ho, not_not.mp horder⟩, not_not.mp hamount, not_not.mp hcurrency⟩
              hs hid he

theorem createOrder_served {request : CreateOrderRequest} {answer : Except String OrderResult}
    {response : CreateOrderResponse} (h : createOrder settings db request answer = .ok (db', response)) :
    Served settings db (.createOrder request answer) db' := by
  unfold createOrder at h
  split_ifs at h
  cases hid : Uuid.parse request.caseId with
  | none => simp [hid] at h
  | some id =>
      cases hf : db.cases.find id with
      | none => simp [hid, hf] at h
      | some case =>
          simp only [hid, hf] at h
          split_ifs at h with ht
          obtain rfl : case.id = id := Table.find_key hf
          split at h
          · cases h
            exact .unchanged _
          · cases answer with
            | error e => cases h
            | ok order =>
                simp only at h
                split_ifs at h
                cases h
                exact .ordered hf ht (by assumption)

theorem findByOrder_eq_some {orderId : String} (h : findByOrder db orderId = some case) :
    db.cases.find case.id = some case ∧ case.razorpayOrderId = some orderId := by
  obtain ⟨hf, ho⟩ := Table.find_of_select h
  exact ⟨hf, by simpa using ho⟩

theorem verifyPayment_served (settings : Settings) (db : Db) (request : VerifyPaymentRequest)
    (answer : Except String PaymentResult) :
    Served settings db (.verifyPayment request answer) (verifyPayment settings db request answer).1 := by
  unfold verifyPayment
  split
  · exact .unchanged _
  cases hf : findByOrder db request.razorpayOrderId with
  | none => exact .unchanged _
  | some case =>
      simp only
      split
      · exact .unchanged _
      split
      · exact .unchanged _
      · simp only [record, auditEvent_case case.id, Except.map]
        exact .refused request answer rfl
      by_cases hr : case.isRecovered = true
      · rw [if_pos hr]
        split <;> exact .unchanged _
      · rw [if_neg hr]
        obtain ⟨hcase, horder⟩ := findByOrder_eq_some hf
        split
        · rename_i hdigest _ _ _ h
          exact reconcileCapturedPayment_served 
            (fun payment ha => ⟨hdigest, ha⟩) hcase horder h
        · exact .unchanged _

theorem handleWebhook_served {q : Request} {eventType eventId : String} {body : WebhookBody}
    {answer : Except String PaymentResult} {webhooks : Table String ProviderWebhook ProviderWebhook.eventId}
    (hq : ∀ payment, answer = .ok payment → Authentic settings q payment)
    (h : handleWebhook { db with webhooks := webhooks } eventType eventId body answer = .ok db') :
    Served settings db q db' := by
  unfold handleWebhook at h
  split at h
  · rename_i paymentId orderId _ _
    cases hf : findByOrder { db with webhooks := webhooks } orderId with
    | none => rw [hf] at h; cases h; exact .kept q webhooks
    | some case =>
        rw [hf] at h
        obtain ⟨hcase, horder⟩ := findByOrder_eq_some hf
        cases hr : reconcileCapturedPayment { db with webhooks := webhooks } case answer paymentId orderId
            "webhook" (some eventId) with
        | error e => simp [hr, Except.map] at h
        | ok out =>
            simp only [hr, Except.map, Except.ok.injEq] at h
            subst h
            exact reconcileCapturedPayment_served hq hcase horder hr
  · cases h
    exact .kept q webhooks

theorem razorpayWebhook_served {request : WebhookRequest} {answer : Except String PaymentResult}
    {status : WebhookStatus} (h : razorpayWebhook settings db request answer = .ok (db', status)) :
    Served settings db (.razorpayWebhook request answer) db' := by
  unfold razorpayWebhook at h
  split_ifs at h
  split at h
  · rename_i signature eventId hsignature _
    split at h
    · cases h
    · cases h
    · cases h
    · rename_i body hdigest _
      have hauthentic (payment : PaymentResult) (ha : answer = .ok payment) :
          Authentic settings (.razorpayWebhook request answer) payment :=
        ⟨⟨signature, (Option.filter_eq_some_iff.mp hsignature).1, hdigest⟩, ha⟩
      cases hi : db.webhooks.insert ⟨eventId, (request.event.filter (· ≠ "")).getD body.event, true⟩ with
      | none => simp only [hi] at h; cases h; exact .unchanged _
      | some webhooks =>
          simp only [hi] at h
          cases hh : handleWebhook { db with webhooks := webhooks }
              ((request.event.filter (· ≠ "")).getD body.event) eventId body answer with
          | error e => rw [hh] at h; cases h
          | ok db1 =>
              rw [hh] at h
              cases h
              exact handleWebhook_served hauthentic hh
  · cases h

end RevenueRescue.RazorpayCheckout
