import RevenueRescue.Agents.Schemas
import RevenueRescue.Foundation.NetChange
import RevenueRescue.Foundation.Table
import RevenueRescue.Foundation.Uuid

namespace RevenueRescue.Models

open Enums PolicySchema AgentSchemas

structure Customer where
  id : Uuid
  segment : String := "standard"
  optedOutCommunication : Bool := false
  isSuspended : Bool := false

structure RecoveryCase where
  id : Uuid
  customerId : Uuid
  scenario : RecoveryScenario
  failureReason : FailureReason
  status : RecoveryCaseStatus := .detected
  amountAtRiskPaise : Int
  amountRecoveredPaise : Int := 0
  currency : String := "INR"
  retryCount : Int := 0
  communicationCount : Int := 0
  diagnosis : Option DiagnosisOutput := none
  strategy : Option StrategyOutput := none
  policyDecision : Option PolicyDecision := none
  isRecovered : Bool := false
  isStopped : Bool := false
  escalationReason : Option Reason := none
  razorpayOrderId : Option String := none
  razorpayPaymentId : Option String := none
  sourceEventKey : String
  deriving DecidableEq

inductive RunStatus
  | running
  | completed
  | error
  deriving DecidableEq

/-- The `node_trace` column: the records of the nodes, or their names alone. -/
inductive NodeTrace
  | records (log : List NodeExecutionRecord)
  | names (trace : List Node)
  deriving DecidableEq

structure AgentRun where
  id : Uuid
  recoveryCaseId : Uuid
  runStatus : RunStatus := .running
  nodeTrace : Option NodeTrace := none
  llmOutput : Option StrategyOutput := none
  error : Option String := none
  deriving DecidableEq

inductive AuditPayload
  | nodeTrace (trace : List Node)
  | checkout (entries : List (String × String))
  deriving DecidableEq

structure AuditEvent where
  recoveryCaseId : Option Uuid
  eventType : AuditEventType
  actor : ActorType
  transactionId : Option Uuid
  amountPaise : Option Int
  currency : String
  result : Option String
  reason : Option Reason
  agentRunId : Option Uuid
  payload : Option AuditPayload
  deriving DecidableEq

structure ProviderWebhook where
  eventId : String
  eventType : String
  processed : Bool := false
  deriving DecidableEq

/-- The committed rows. The ledger has its latest event first. -/
structure Db where
  customers : Table Uuid Customer Customer.id := Table.empty
  cases : Table Uuid RecoveryCase RecoveryCase.id := Table.empty
  runs : Table Uuid AgentRun AgentRun.id := Table.empty
  webhooks : Table String ProviderWebhook ProviderWebhook.eventId := Table.empty
  audit : List AuditEvent := []

variable (db : Db)

/-- The row after a unit of work that loaded it as `loaded` flushed `held`. -/
def mergeCase (loaded held stored : RecoveryCase) : RecoveryCase :=
  { stored with
    status := NetChange.flush loaded.status held.status stored.status
    amountRecoveredPaise := NetChange.flush loaded.amountRecoveredPaise held.amountRecoveredPaise
      stored.amountRecoveredPaise
    retryCount := NetChange.flush loaded.retryCount held.retryCount stored.retryCount
    communicationCount := NetChange.flush loaded.communicationCount held.communicationCount
      stored.communicationCount
    diagnosis := NetChange.flush loaded.diagnosis held.diagnosis stored.diagnosis
    strategy := NetChange.flush loaded.strategy held.strategy stored.strategy
    policyDecision := NetChange.flush loaded.policyDecision held.policyDecision stored.policyDecision
    isRecovered := NetChange.flush loaded.isRecovered held.isRecovered stored.isRecovered
    isStopped := NetChange.flush loaded.isStopped held.isStopped stored.isStopped
    escalationReason := NetChange.flush loaded.escalationReason held.escalationReason
      stored.escalationReason }

def mergeRun (loaded held stored : AgentRun) : AgentRun :=
  { stored with
    runStatus := NetChange.flush loaded.runStatus held.runStatus stored.runStatus
    nodeTrace := NetChange.flush loaded.nodeTrace held.nodeTrace stored.nodeTrace
    llmOutput := NetChange.flush loaded.llmOutput held.llmOutput stored.llmOutput
    error := NetChange.flush loaded.error held.error stored.error }

theorem mergeCase_id (loaded held stored : RecoveryCase) : (mergeCase loaded held stored).id = stored.id := rfl

theorem mergeRun_id (loaded held stored : AgentRun) : (mergeRun loaded held stored).id = stored.id := rfl

@[simp] theorem mergeCase_self (loaded stored : RecoveryCase) : mergeCase loaded loaded stored = stored := by
  simp [mergeCase]

def updateCase (loaded held : RecoveryCase) : Db :=
  { db with cases := db.cases.update loaded.id (mergeCase loaded held) (mergeCase_id loaded held) }

def updateRun (loaded held : AgentRun) : Db :=
  { db with runs := db.runs.update loaded.id (mergeRun loaded held) (mergeRun_id loaded held) }

def isRecoveryOf (caseId : Uuid) (e : AuditEvent) : Bool :=
  e.recoveryCaseId = some caseId && e.eventType = .revenueRecovered

def recoveredEvents (caseId : Uuid) : List AuditEvent := db.audit.filter (isRecoveryOf caseId)

end RevenueRescue.Models
