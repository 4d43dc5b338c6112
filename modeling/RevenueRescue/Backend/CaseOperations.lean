import RevenueRescue.Backend.RecoveryService
import RevenueRescue.Foundation.Column

namespace RevenueRescue.RecoveryService

open Enums PolicySchema AgentSchemas Models

def validPaymentFailure : FailureReason → Bool
  | .checkoutAbandoned | .other _ => false
  | _ => true

/-- An accepted event; `customerId` is the id that its customer text resolves to. -/
structure PaymentFailedEvent where
  idempotencyKey : String
  customerId : Uuid
  amountPaise : Int
  currency : String := "INR"
  failureReason : FailureReason
  amount_pos : 0 < amountPaise := by decide
  reason_valid : validPaymentFailure failureReason = true := by decide

structure CheckoutAbandonedEvent where
  idempotencyKey : String
  customerId : Uuid
  amountPaise : Int
  currency : String := "INR"
  amount_pos : 0 < amountPaise := by decide

def getCaseByIdempotencyKey (db : Db) (key : String) : Option RecoveryCase :=
  db.cases.select fun c => c.sourceEventKey = key

/-- `_get_or_create_customer_id`, on the id that the text resolves to. -/
def getOrCreateCustomer (db : Db) (id : Uuid) : Db :=
  match db.customers.insert { id := id } with
  | some customers => { db with customers := customers }
  | none => db

/-- The row that the columns of the table take of a case; `none` is the error of the flush.
A NUL in the key is an error of the lookup before it, with the same answer. -/
def stored (case : RecoveryCase) : Option RecoveryCase := do
  let amountAtRiskPaise ← Column.integer case.amountAtRiskPaise
  let currency ← Column.varchar 10 case.currency
  let sourceEventKey ← Column.varchar 128 case.sourceEventKey
  pure { case with
    amountAtRiskPaise := amountAtRiskPaise
    currency := currency
    sourceEventKey := sourceEventKey }

/-- The flush of a row, whose key is unique, and its record. -/
def createCase (db : Db) (case : RecoveryCase) (reason : String) : Option Db :=
  let db := getOrCreateCustomer db case.customerId
  if (getCaseByIdempotencyKey db case.sourceEventKey).isSome then none
  else match db.cases.insert case, auditEvent {
      eventType := .caseCreated
      actor := .riskDetector
      recoveryCaseId := some case.id.str
      amountPaise := some case.amountAtRiskPaise
      currency := case.currency
      result := some "CREATED"
      reason := some (.text reason) } with
  | some cases, .ok event => some { db with cases := cases, audit := event :: db.audit }
  | _, _ => none

def paymentFailureCase (id : Uuid) (event : PaymentFailedEvent) : RecoveryCase where
  id := id
  customerId := event.customerId
  scenario := .failedPayment
  failureReason := event.failureReason
  amountAtRiskPaise := event.amountPaise
  currency := event.currency
  sourceEventKey := event.idempotencyKey

def checkoutAbandonmentCase (id : Uuid) (event : CheckoutAbandonedEvent) : RecoveryCase where
  id := id
  customerId := event.customerId
  scenario := .checkoutAbandonment
  failureReason := .checkoutAbandoned
  amountAtRiskPaise := event.amountPaise
  currency := event.currency
  sourceEventKey := event.idempotencyKey

/-- `payment_failed` up to its first commit; `id` is the new key. A duplicate
changes nothing. -/
def createCaseFromPaymentFailure (db : Db) (id : Uuid) (event : PaymentFailedEvent) : Option Db :=
  if (getCaseByIdempotencyKey db event.idempotencyKey).isSome then some db
  else (stored (paymentFailureCase id event)).bind fun case =>
    createCase db case ("Payment failure: " ++ event.failureReason.value)

def createCaseFromCheckoutAbandonment (db : Db) (id : Uuid) (event : CheckoutAbandonedEvent) : Option Db :=
  if (getCaseByIdempotencyKey db event.idempotencyKey).isSome then some db
  else (stored (checkoutAbandonmentCase id event)).bind fun case => createCase db case "Checkout abandonment detected"

def startable (case : RecoveryCase) : Bool := !(case.isRecovered || case.isStopped)

/-- `start_agent_run` behind its gate, for a case as it was loaded. -/
def startAgentRun (db : Db) (case : RecoveryCase) (runId : Uuid) : Option Db :=
  match db.runs.insert { id := runId, recoveryCaseId := case.id }, auditEvent {
      eventType := .agentRunStarted
      actor := .recoveryAgent
      recoveryCaseId := some case.id.str
      agentRunId := some runId.str
      result := some "STARTED" } with
  | some runs, .ok event => some { db with runs := runs, audit := event :: db.audit }
  | _, _ => none

def escalated (reason : String) (case : RecoveryCase) : RecoveryCase :=
  { case with
    status := .escalated
    escalationReason := some (.text reason)
    isStopped := true }

/-- `escalate_case` and its commit, for a case as it was loaded. -/
def escalateCase (db : Db) (case : RecoveryCase) (reason : String) : Option Db :=
  match auditEvent {
      eventType := .escalated
      actor := .humanOperator
      recoveryCaseId := some case.id.str
      result := some "ESCALATED"
      reason := some (.text reason) } with
  | .ok event =>
      some { updateCase db case (escalated reason case) with audit := event :: db.audit }
  | .error _ => none

theorem stored_eq_some {case row : RecoveryCase} : stored case = some row ↔
    ∃ currency key, Column.varchar 10 case.currency = some currency ∧
      Column.varchar 128 case.sourceEventKey = some key ∧
      (-2147483648 ≤ case.amountAtRiskPaise ∧ case.amountAtRiskPaise < 2147483648) ∧
      row = { case with currency := currency, sourceEventKey := key } := by
  simp only [stored, Option.bind_eq_bind, Option.bind_eq_some_iff, Option.pure_def, Option.some.injEq,
    Column.integer_eq_some]
  constructor
  · rintro ⟨_, ⟨rfl, hamount⟩, currency, hcurrency, key, hkey, rfl⟩
    exact ⟨currency, key, hcurrency, hkey, hamount, rfl⟩
  · rintro ⟨currency, key, hcurrency, hkey, hamount, rfl⟩
    exact ⟨_, ⟨rfl, hamount⟩, currency, hcurrency, key, hkey, rfl⟩

/-- A row is stored as it is. -/
theorem stored_stored {case row : RecoveryCase} (h : stored case = some row) : stored row = some row := by
  obtain ⟨currency, key, hcurrency, hkey, hamount, rfl⟩ := stored_eq_some.mp h
  exact stored_eq_some.mpr ⟨_, _, Column.varchar_stored hcurrency, Column.varchar_stored hkey, hamount, rfl⟩

theorem stored_id {case row : RecoveryCase} (h : stored case = some row) : row.id = case.id := by
  obtain ⟨_, _, -, -, -, rfl⟩ := stored_eq_some.mp h
  rfl

theorem getOrCreateCustomer_eq (db : Db) (id : Uuid) :
    ∃ customers, getOrCreateCustomer db id = { db with customers := customers } := by
  unfold getOrCreateCustomer
  split
  · exact ⟨_, rfl⟩
  · exact ⟨db.customers, rfl⟩

theorem createCase_eq_some {db db' : Db} {case : RecoveryCase} {reason : String}
    (h : createCase db case reason = some db') :
    ∃ cases event, db.cases.insert case = some cases ∧ event.eventType = .caseCreated ∧
      db'.cases = cases ∧ db'.runs = db.runs ∧ db'.audit = event :: db.audit := by
  obtain ⟨customers, hcustomers⟩ := getOrCreateCustomer_eq db case.customerId
  simp only [createCase, hcustomers, auditEvent_case case.id] at h
  split at h
  · cases h
  · cases hi : db.cases.insert case with
    | none => simp [hi] at h
    | some cases =>
        simp only [hi, Option.some.injEq] at h
        subst h
        exact ⟨cases, _, rfl, rfl, rfl, rfl, rfl⟩

theorem createCaseFromPaymentFailure_eq_some {db db' : Db} {id : Uuid} {event : PaymentFailedEvent}
    (h : createCaseFromPaymentFailure db id event = some db') : db' = db ∨
      getCaseByIdempotencyKey db event.idempotencyKey = none ∧ ∃ row, stored (paymentFailureCase id event) = some row ∧
        createCase db row ("Payment failure: " ++ event.failureReason.value) = some db' := by
  unfold createCaseFromPaymentFailure at h
  split at h
  · exact .inl (Option.some.inj h).symm
  · rename_i hnew
    exact .inr ⟨by simpa using hnew, Option.bind_eq_some_iff.mp h⟩

theorem createCaseFromCheckoutAbandonment_eq_some {db db' : Db} {id : Uuid} {event : CheckoutAbandonedEvent}
    (h : createCaseFromCheckoutAbandonment db id event = some db') : db' = db ∨
      getCaseByIdempotencyKey db event.idempotencyKey = none ∧ ∃ row, stored (checkoutAbandonmentCase id event) = some row ∧
        createCase db row "Checkout abandonment detected" = some db' := by
  unfold createCaseFromCheckoutAbandonment at h
  split at h
  · exact .inl (Option.some.inj h).symm
  · rename_i hnew
    exact .inr ⟨by simpa using hnew, Option.bind_eq_some_iff.mp h⟩

theorem startAgentRun_eq_some {db db' : Db} {case : RecoveryCase} {runId : Uuid}
    (h : startAgentRun db case runId = some db') :
    ∃ runs event, db.runs.insert { id := runId, recoveryCaseId := case.id } = some runs ∧
      event.eventType = .agentRunStarted ∧
      db' = { db with runs := runs, audit := event :: db.audit } := by
  unfold startAgentRun at h
  split at h
  · rename_i runs event hr he
    cases h
    refine ⟨runs, event, hr, ?_, rfl⟩
    simp only [auditEvent, uuidArg_str, uuidArg_none] at he
    cases he
    rfl
  · cases h

theorem escalateCase_eq_some {db db' : Db} {case : RecoveryCase} {reason : String}
    (h : escalateCase db case reason = some db') :
    ∃ event, event.eventType = .escalated ∧
      db' = { updateCase db case (escalated reason case) with audit := event :: db.audit } := by
  unfold escalateCase at h
  simp only [auditEvent_case case.id, Option.some.injEq] at h
  exact ⟨_, rfl, h.symm⟩

end RevenueRescue.RecoveryService
