import RevenueRescue.Backend.Ledger

namespace RevenueRescue.CheckoutSignatures

open Enums Providers Models RecoveryService RazorpayCheckout RecoveryLedger Restrictions

def isHexDigit (c : Char) : Bool := decide (c ∈ "0123456789abcdef".toList)

def isAscii (text : String) : Bool := text.toList.all (·.val < 128)

/-- The `hexdigest` of `hmac` is a text of hexadecimal digits. -/
def HexDigests (settings : Settings) : Prop :=
  ∀ orderId paymentId, (settings.checkoutSignature orderId paymentId).toList.all isHexDigit = true

def expectedSignature (settings : Settings) (request : VerifyPaymentRequest) : String :=
  settings.checkoutSignature request.razorpayOrderId request.razorpayPaymentId

def unauthorized (db : Db) : List AuditEvent := db.audit.filter (·.eventType = .unauthorizedActionAttempt)

def invalidSignature : HttpError := ⟨400, "Invalid payment signature"⟩

/-- What `verify_payment` owes to a request for the order of a case: a wrong
signature is refused and leaves one event, a correct one is not taken for it. -/
structure Judged (settings : Settings) (db : Db) (case : RecoveryCase) (request : VerifyPaymentRequest)
    (answer : Except String PaymentResult) : Prop where
  refused : request.razorpaySignature ≠ expectedSignature settings request →
    ∃ e : AuditEvent, e.eventType = .unauthorizedActionAttempt ∧ e.recoveryCaseId = some case.id ∧
      verifyPayment settings db request answer = ({ db with audit := e :: db.audit }, .error invalidSignature)
  heard : request.razorpaySignature = expectedSignature settings request →
    unauthorized (verifyPayment settings db request answer).1 = unauthorized db ∧
      (verifyPayment settings db request answer).2 ≠ .error invalidSignature

/-- The request is for the order of the case, and names no other case. -/
structure Addressed (settings : Settings) (db : Db) (case : RecoveryCase) (request : VerifyPaymentRequest) : Prop where
  ready : settings.razorpayTestReady = true
  order : findByOrder db request.razorpayOrderId = some case
  owner : ∀ caseId ∈ request.caseId, caseId ≠ "" → caseId = case.id.str

variable {settings : Settings} {db db' : Db} {case : RecoveryCase} {request : VerifyPaymentRequest}
variable {answer : Except String PaymentResult} {response : VerifyPaymentResponse}

theorem compareDigest_ascii {expected given : String} (he : isAscii expected = true) (hg : isAscii given = true) :
    compareDigest expected given = .ok (decide (expected = given)) := by
  unfold isAscii at he hg
  rw [compareDigest, he, hg, Bool.and_self, if_pos rfl]

theorem compareDigest_foreign {expected given : String} (hg : isAscii given = false) :
    compareDigest expected given = .error serverError := by
  unfold isAscii at hg
  rw [compareDigest, hg, Bool.and_false, if_neg Bool.false_ne_true]

theorem isAscii_expected (h : HexDigests settings) (request : VerifyPaymentRequest) :
    isAscii (expectedSignature settings request) = true := by
  have hdigit : ∀ c ∈ "0123456789abcdef".toList, c.val < 128 := by decide
  refine List.all_eq_true.mpr fun c hc => decide_eq_true ?_
  exact hdigit c (of_decide_eq_true (List.all_eq_true.mp (h _ _) c hc))

theorem unauthorized_cons {e : AuditEvent} {events : List AuditEvent} (h : e.eventType ≠ .unauthorizedActionAttempt) :
    (e :: events).filter (·.eventType = .unauthorizedActionAttempt) =
      events.filter (·.eventType = .unauthorizedActionAttempt) :=
  List.filter_cons_of_neg (by simpa using h)

/-- Neither an event nor an answer of a refused signature. -/
def Silent (db : Db) : Except HttpError (Db × VerifyPaymentResponse) → Prop
  | .ok (db', _) => unauthorized db' = unauthorized db
  | .error e => e ≠ invalidSignature

theorem recordCapture_unauthorized {paymentId : String} {amountPaise : Int} {payload : AuditPayload}
    (h : recordCapture db case paymentId amountPaise payload = .ok db') : unauthorized db' = unauthorized db := by
  obtain ⟨success, recovered, hs, -, he, rfl⟩ := recordCapture_ok h
  have hrecovered : recovered.eventType ≠ .unauthorizedActionAttempt := by
    rw [he.eventType]
    decide
  have hsuccess : success.eventType ≠ .unauthorizedActionAttempt := by
    rw [hs]
    decide
  exact (unauthorized_cons hrecovered).trans (unauthorized_cons hsuccess)

theorem reconcile_silent (paymentId orderId source : String) (eventId : Option String) :
    Silent db (reconcileCapturedPayment db case answer paymentId orderId source eventId) := by
  have hother (detail : String) (h : detail ≠ "Invalid payment signature") : Silent db (.error ⟨400, detail⟩) :=
    fun he => h (congrArg HttpError.detail he)
  have hserver : Silent db (.error serverError) := fun he => absurd (congrArg HttpError.statusCode he) (by decide)
  unfold reconcileCapturedPayment
  by_cases hr : case.isRecovered = true
  · rw [if_pos hr]
    exact rfl
  · rw [if_neg hr]
    cases answer with
    | error e => exact rfl
    | ok payment =>
        dsimp only
        split
        · exact hother _ (by decide)
        split
        · exact hother _ (by decide)
        split
        · exact hother _ (by decide)
        split
        · exact rfl
        split
        · exact hserver
        cases hc : recordCapture db case paymentId payment.amountPaise
            (capturePayload paymentId orderId source eventId) with
        | error e => exact hserver
        | ok db1 => exact recordCapture_unauthorized hc

/-- The branches of `verify_payment` behind the comparison of the signatures. -/
theorem verifyPayment_addressed (h : Addressed settings db case request) (answer : Except String PaymentResult) :
    (compareDigest (expectedSignature settings request) request.razorpaySignature = .error serverError ∧
      verifyPayment settings db request answer = (db, .error serverError)) ∨
    (compareDigest (expectedSignature settings request) request.razorpaySignature = .ok false ∧
      ∃ e : AuditEvent, e.eventType = .unauthorizedActionAttempt ∧ e.recoveryCaseId = some case.id ∧
        verifyPayment settings db request answer = ({ db with audit := e :: db.audit }, .error invalidSignature)) ∨
    (compareDigest (expectedSignature settings request) request.razorpaySignature = .ok true ∧
      unauthorized (verifyPayment settings db request answer).1 = unauthorized db ∧
      (verifyPayment settings db request answer).2 ≠ .error invalidSignature) := by
  have howner : (request.caseId.filter (· ≠ "")).any (· ≠ case.id.str) = false := by
    have hown := h.owner
    cases hid : request.caseId with
    | none => rfl
    | some caseId =>
        by_cases he : caseId = ""
        · simp [he]
        · simp [hown caseId hid he]
  have herror {e : HttpError}
      (hd : compareDigest (settings.checkoutSignature request.razorpayOrderId request.razorpayPaymentId)
        request.razorpaySignature = .error e) : e = serverError := by
    unfold compareDigest at hd
    split at hd
    · cases hd
    · exact (Except.error.inj hd).symm
  unfold verifyPayment expectedSignature
  simp only [h.ready, Bool.not_true, Bool.false_eq_true, if_false, h.order, howner]
  cases hd : compareDigest (settings.checkoutSignature request.razorpayOrderId request.razorpayPaymentId)
      request.razorpaySignature with
  | error e =>
      obtain rfl := herror hd
      exact .inl ⟨rfl, rfl⟩
  | ok same =>
      cases same with
      | false =>
          simp only [record, auditEvent_case case.id, Except.map]
          exact .inr (.inl ⟨trivial, _, rfl, rfl, rfl⟩)
      | true =>
          refine .inr (.inr ⟨rfl, ?_⟩)
          by_cases hr : case.isRecovered = true
          · simp only [hr, if_true]
            split
            · exact ⟨rfl, fun he => absurd (congrArg HttpError.detail (Except.error.inj he)) (by decide)⟩
            · exact ⟨rfl, fun he => by cases he⟩
          · simp only [hr]
            have hsilent : Silent db (reconcileCapturedPayment db case answer request.razorpayPaymentId
                request.razorpayOrderId "checkout_callback" none) := reconcile_silent _ _ _ _
            cases hrec : reconcileCapturedPayment db case answer request.razorpayPaymentId request.razorpayOrderId
                "checkout_callback" none with
            | ok out =>
                rw [hrec] at hsilent
                exact ⟨hsilent, fun he => by cases he⟩
            | error e =>
                rw [hrec] at hsilent
                exact ⟨rfl, fun he => hsilent (Except.error.inj he)⟩

/-- Signatures: a request is judged as it should be exactly when its signature is ASCII. -/
theorem signature_judged_iff (hd : HexDigests settings) (h : Addressed settings db case request)
    (answer : Except String PaymentResult) :
    Judged settings db case request answer ↔ isAscii request.razorpaySignature = true := by
  have hexpected := isAscii_expected hd request
  constructor
  · intro hj
    by_contra hforeign
    have hdigest : compareDigest (expectedSignature settings request) request.razorpaySignature = .error serverError :=
      compareDigest_foreign (Bool.eq_false_of_not_eq_true hforeign)
    have hne : request.razorpaySignature ≠ expectedSignature settings request := fun he => hforeign (he ▸ hexpected)
    obtain ⟨e, -, -, hrefused⟩ := hj.refused hne
    rcases verifyPayment_addressed h answer with ⟨-, hv⟩ | ⟨hd', -⟩ | ⟨hd', -⟩
    · have hanswer := congrArg Prod.snd (hv.symm.trans hrefused)
      exact absurd (congrArg HttpError.statusCode (Except.error.inj hanswer)) (by decide)
    · rw [hdigest] at hd'
      cases hd'
    · rw [hdigest] at hd'
      cases hd'
  · intro hascii
    have hdigest := compareDigest_ascii hexpected hascii
    rcases verifyPayment_addressed h answer with ⟨hd', -⟩ | ⟨hd', hv⟩ | ⟨hd', hv⟩
    · rw [hdigest] at hd'
      cases hd'
    · rw [hdigest] at hd'
      have hne := of_decide_eq_false (Except.ok.inj hd')
      exact ⟨fun _ => hv, fun he => absurd he.symm hne⟩
    · rw [hdigest] at hd'
      have hsame := of_decide_eq_true (Except.ok.inj hd')
      exact ⟨fun hne => absurd hsame.symm hne, fun _ => hv⟩

def samplePaidDb : Db where
  cases := ⟨[{ sampleCase with razorpayOrderId := some "order_1" }], by decide⟩

def sampleVerification : VerifyPaymentRequest where
  razorpayPaymentId := "pay_1"
  razorpayOrderId := "order_1"
  razorpaySignature := String.ofList (List.replicate 64 'b')
  signature_length := by decide +kernel

def foreignVerification : VerifyPaymentRequest where
  razorpayPaymentId := "pay_1"
  razorpayOrderId := "order_1"
  razorpaySignature := String.ofList (List.replicate 64 'é')
  signature_length := by decide +kernel

theorem sampleSettings_hexDigests : HexDigests sampleSettings := by
  intro orderId paymentId
  change sampleDigest.toList.all isHexDigit = true
  decide +kernel

theorem sample_addressed {request : VerifyPaymentRequest} (ho : request.razorpayOrderId = "order_1")
    (hc : request.caseId = none) :
    Addressed sampleSettings samplePaidDb { sampleCase with razorpayOrderId := some "order_1" } request where
  ready := rfl
  order := by
    rw [ho]
    decide +kernel
  owner caseId hcase := by
    rw [hc] at hcase
    cases hcase

theorem signature_judged_iff_sample :
    Judged sampleSettings samplePaidDb { sampleCase with razorpayOrderId := some "order_1" } sampleVerification
      (.error "timeout") ↔ isAscii sampleVerification.razorpaySignature = true :=
  signature_judged_iff sampleSettings_hexDigests (sample_addressed rfl rfl) _

/-- Nothing is recorded of a signature that the comparison cannot take. -/
theorem signature_not_judged : ¬ ∀ settings db case request answer, HexDigests settings →
    Addressed settings db case request → Judged settings db case request answer := by
  intro h
  have hj := h sampleSettings samplePaidDb _ foreignVerification (.error "timeout") sampleSettings_hexDigests
    (sample_addressed rfl rfl)
  have hne : foreignVerification.razorpaySignature ≠ expectedSignature sampleSettings foreignVerification := by
    decide +kernel
  obtain ⟨e, -, -, hrefused⟩ := hj.refused hne
  have hraised : (verifyPayment sampleSettings samplePaidDb foreignVerification (.error "timeout")).2 =
      .error serverError := by
    have hdigest : compareDigest (expectedSignature sampleSettings foreignVerification)
        foreignVerification.razorpaySignature = .error serverError := compareDigest_foreign (by decide +kernel)
    have haddressed : Addressed sampleSettings samplePaidDb { sampleCase with razorpayOrderId := some "order_1" }
        foreignVerification := sample_addressed rfl rfl
    rcases verifyPayment_addressed haddressed (.error "timeout") with ⟨-, hv⟩ | ⟨hd, -⟩ | ⟨hd, -⟩
    · exact congrArg Prod.snd hv
    · rw [hdigest] at hd
      cases hd
    · rw [hdigest] at hd
      cases hd
  have hanswer := hraised.symm.trans (congrArg Prod.snd hrefused)
  exact absurd (congrArg HttpError.statusCode (Except.error.inj hanswer)) (by decide)

end RevenueRescue.CheckoutSignatures
