import RevenueRescue.Backend.CheckoutSoundness
import RevenueRescue.Providers.RazorpayTest

namespace RevenueRescue.WebhookReplay

open Enums Providers Models RecoveryService RazorpayCheckout CheckoutSoundness Restrictions RecoveryLedger

/-- A correctly signed `payment.captured` delivery for an order of a known case. -/
structure Delivery (settings : Settings) (db : Db) (request : WebhookRequest) (eventId orderId : String)
    (case : RecoveryCase) : Prop where
  configured : settings.webhookConfigured = true
  eventId : request.eventId.filter (· ≠ "") = some eventId
  signed : ∃ signature, request.signature.filter (· ≠ "") = some signature ∧
    compareDigest (settings.webhookSignature request.raw) signature = .ok true
  body : ∃ body paymentId, request.body = some body ∧
    (request.event.filter (· ≠ "")).getD body.event = "payment.captured" ∧
    body.paymentId = some paymentId ∧ body.orderId = some orderId
  known : findByOrder db orderId = some case

/-- The checks that answer a payment with an error, and not with a status. -/
def Mismatched (case : RecoveryCase) (orderId : String) (payment : PaymentResult) : Prop :=
  PyValue.get (payment.raw.getD []) "order_id" .none ≠ .str orderId ∨
    payment.amountPaise ≠ case.amountAtRiskPaise ∨ payment.currency.toUpper ≠ case.currency.toUpper

/-- The delivery is for a case that is recovered, or it is the first with its
event id and the provider has a definite answer for it. -/
def Definite (settings : Settings) (db : Db) : Request → Prop
  | .razorpayWebhook request answer =>
      ∀ eventId orderId case, Delivery settings db request eventId orderId case →
        case.isRecovered = true ∨ (db.webhooks.find eventId = none ∧
          ∃ payment, answer = .ok payment ∧ (Mismatched case orderId payment ∨ payment.status = .success))
  | _ => True

def Along (settings : Settings) (Q : Db → Request → Prop) : Db → List Request → Prop
  | _, [] => True
  | db, q :: qs => Q db q ∧ Along settings Q (serve settings db q) qs

variable {settings : Settings} {db db' : Db} {request : WebhookRequest} {answer : Except String PaymentResult}
variable {eventId orderId : String} {case : RecoveryCase} {status : WebhookStatus}

/-- A fetch that raises is answered 400, since the payment that stands for it
names no order; the rollback takes the receipt with it. -/
theorem definite_of_unavailable (hnone : ∀ eventId, request.eventId.filter (· ≠ "") = some eventId →
    db.webhooks.find eventId = none) (paymentId : String) :
    Definite settings db (.razorpayWebhook request (.ok (RazorpayTest.unavailable paymentId))) := by
  intro eventId orderId case hd
  exact .inr ⟨hnone eventId hd.eventId, _, rfl, .inl (.inl (by simp [RazorpayTest.unavailable, PyValue.get]))⟩

end RevenueRescue.WebhookReplay
