import RevenueRescue.Agents.Graph
import RevenueRescue.Backend.Statements

namespace RevenueRescue.RecoveryService

open Enums PolicySchema AgentSchemas RecoveryGraph Models

/-- `agent_run.node_trace`, with Python's `or`: an empty log counts as none. -/
def nodeTraceOf (state : AgentState) : NodeTrace :=
  if state.nodeObservationLog = [] then .names state.nodeTrace else .records state.nodeObservationLog

def revenueRecovered (caseId : Uuid) (v : VerificationResult) : AuditArgs where
  eventType := .revenueRecovered
  actor := .recoveryVerifier
  recoveryCaseId := some caseId.str
  amountPaise := some v.amountRecoveredPaise
  result := some "SUCCESS"
  reason := v.reason.map .text
  transactionId := v.transactionId

/-- The branch of `_apply_agent_result` that settles the status. -/
def settleStmts (caseId : Uuid) (state : AgentState) : List Stmt :=
  match state.caseIsRecovered, state.verificationResult with
  | true, some v =>
      [.amountRecovered v.amountRecoveredPaise, .status .recovered,
        .record (revenueRecovered caseId v)]
  | _, _ =>
      match state.escalationReason.filter Reason.truthy with
      | some reason =>
          [.status .escalated, .escalationReason reason,
            .record {
              eventType := .escalated
              actor := .policyEngine
              recoveryCaseId := some caseId.str
              result := some "ESCALATED"
              reason := some reason }]
      | none => if state.caseIsStopped then [.status .stopped] else []

def openingStmts (state : AgentState) : List Stmt :=
  [.runStatus .completed, .runNodeTrace (nodeTraceOf state), .runLlmOutput state.caseStrategy,
    .retryCount state.retryCount, .communicationCount state.communicationCount,
    .isRecovered state.caseIsRecovered, .isStopped state.caseIsStopped] ++
  (state.caseDiagnosis.map Stmt.diagnosis).toList ++
  (state.caseStrategy.map Stmt.strategy).toList ++
  (state.policyResult.map fun r => Stmt.policyDecision r.decision).toList

/-- `_apply_agent_result` on the final state of the graph. -/
def applyAgentResult (caseId : Uuid) (state : AgentState) : List Stmt :=
  openingStmts state ++ settleStmts caseId state ++
  [.flush,
    .recordGuarded {
      eventType := .agentRunCompleted
      actor := .recoveryAgent
      recoveryCaseId := some caseId.str
      result := some "COMPLETED"
      payload := some (.nodeTrace state.nodeTrace) }]

def agentRunErrorMaxChars : Nat := 2048

def truncateError (e : String) : String := String.ofList (e.toList.take agentRunErrorMaxChars)

/-- The `except` branch of the final attempt. -/
def errorStmts (caseId : Uuid) (e : String) : List Stmt :=
  [.runStatus .error, .runError (truncateError e), .flush,
    .record {
      eventType := .agentRunCompleted
      actor := .recoveryAgent
      recoveryCaseId := some caseId.str
      result := some "ERROR"
      reason := some (.text (truncateError e)) }]

def errorEvent (caseId : Uuid) (text : String) : AuditEvent where
  recoveryCaseId := some caseId
  eventType := .agentRunCompleted
  actor := .recoveryAgent
  transactionId := none
  amountPaise := none
  currency := "INR"
  result := some "ERROR"
  reason := some (.text text)
  agentRunId := none
  payload := none

theorem runStmts_errorStmts (caseId : Uuid) (e : String) (w : Work) :
    runStmts none (errorStmts caseId e) w = .done
      { run := { w.run with runStatus := .error, error := some (truncateError e) }
        case := w.case
        events := errorEvent caseId (truncateError e) :: w.events } := by
  simp only [errorStmts, runStmts, Stmt.exec, auditEvent_case caseId, Except.map]
  rfl

/-- What can go wrong from outside when an attempt ends: in a statement of
`_apply_agent_result`, somewhere in the `except` branch, and in the commit. -/
structure Faults where
  apply : Option (Nat × Failure) := none
  branch : Bool := false
  commit : Bool := false

inductive Outcome
  | committed (w : Work) (status : RunStatus)
  | rolledBack

def commit (faults : Faults) (w : Work) (status : RunStatus) : Outcome :=
  if faults.commit then .rolledBack else .committed w status

/-- From the end of the `try` body to the commit or rollback of the caller. -/
def conclude (finalAttempt : Bool) (faults : Faults) : Ended → Outcome
  | .done w => commit faults w .completed
  | .raised w e =>
      if finalAttempt && !faults.branch then
        match runStmts none (errorStmts w.case.id e) w with
        | .done w' => commit faults w' .error
        | _ => .rolledBack
      else .rolledBack
  | .poisoned => .rolledBack

def initialState (case : RecoveryCase) (agentRunId : Uuid) : AgentState :=
  makeInitialState {
    caseId := case.id.str
    agentRunId := agentRunId.str
    eventType := case.scenario.value
    failureReason := case.failureReason
    amountPaise := case.amountAtRiskPaise
    currency := case.currency
    customerId := case.customerId.str
    retryCount := case.retryCount
    communicationCount := case.communicationCount
    caseIsRecovered := case.isRecovered }

def loadAttempt (db : Db) (agentRunId : Uuid) : Option (AgentRun × RecoveryCase) :=
  (db.runs.find agentRunId).bind fun run =>
    if run.runStatus = .running then (db.cases.find run.recoveryCaseId).map fun case => (run, case)
    else none

theorem loadAttempt_eq_some {db : Db} {agentRunId : Uuid} {run : AgentRun} {case : RecoveryCase} :
    loadAttempt db agentRunId = some (run, case) ↔ db.runs.find agentRunId = some run ∧
      run.runStatus = .running ∧ db.cases.find run.recoveryCaseId = some case := by
  unfold loadAttempt
  cases db.runs.find agentRunId with
  | none => simp
  | some r =>
      simp only [Option.bind_some, Option.some.injEq]
      constructor
      · intro h
        split at h
        · obtain ⟨c, hc, he⟩ := Option.map_eq_some_iff.mp h
          cases he
          exact ⟨rfl, by assumption, hc⟩
        · cases h
      · rintro ⟨rfl, hr, hc⟩
        simp [hr, hc]

/-- How an attempt leaves its rows: the graph was not started or raised, or it
returned its final state. -/
def attemptEnded (case : RecoveryCase) (run : AgentRun) (faults : Faults) :
    Except Failure AgentState → Ended
  | .error (.exception e) => .raised ⟨run, case, []⟩ e
  | .error .database => .poisoned
  | .ok state => runStmts faults.apply (applyAgentResult case.id state) ⟨run, case, []⟩

def attemptOutcome (finalAttempt : Bool) (case : RecoveryCase) (run : AgentRun) (faults : Faults)
    (result : Except Failure AgentState) : Outcome :=
  conclude finalAttempt faults (attemptEnded case run faults result)

def commitWork (db : Db) (run : AgentRun) (case : RecoveryCase) (w : Work) : Db :=
  { updateCase (updateRun db run w.run) case w.case with audit := w.events ++ db.audit }

theorem find_run_commitWork (db : Db) (run : AgentRun) (case : RecoveryCase) (w : Work) (id : Uuid) :
    (commitWork db run case w).runs.find id =
      if id = run.id then (db.runs.find id).map (mergeRun run w.run) else db.runs.find id :=
  Table.find_update db.runs run.id id _ (mergeRun_id run w.run)

theorem find_case_commitWork (db : Db) (run : AgentRun) (case : RecoveryCase) (w : Work) (id : Uuid) :
    (commitWork db run case w).cases.find id =
      if id = case.id then (db.cases.find id).map (mergeCase case w.case) else db.cases.find id :=
  Table.find_update db.cases case.id id _ (mergeCase_id case w.case)

structure AttemptInput where
  policy : Except Failure PolicyConfig
  nodes : Nat → NodeInput
  faults : Faults := {}

/-- The `try` body up to `_apply_agent_result`. -/
def attemptResult (input : AttemptInput) (case : RecoveryCase) (run : AgentRun) :
    Except Failure AgentState :=
  match input.policy with
  | .error failure => .error failure
  | .ok policy =>
      match invoke policy recursionLimit input.nodes (initialState case run.id) with
      | .ok state => .ok state
      | .error e => .error (.exception e)

inductive CallResult
  | notFound
  | returned (status : RunStatus)
  | reraised
  deriving DecidableEq

/-- `execute_agent_run_in_new_session`, with nothing else going on. Without its
case a run fails for good: the event of the `except` branch would refer to a
case that is not there. -/
def executeAgentRun (db : Db) (agentRunId : Uuid) (finalAttempt : Bool) (input : AttemptInput) :
    Db × CallResult :=
  match db.runs.find agentRunId with
  | none => (db, .notFound)
  | some run =>
      if run.runStatus ≠ .running then (db, .returned run.runStatus)
      else match db.cases.find run.recoveryCaseId with
        | none => (db, .reraised)
        | some case =>
            match attemptOutcome finalAttempt case run input.faults (attemptResult input case run) with
            | .committed w status => (commitWork db run case w, .returned status)
            | .rolledBack => (db, .reraised)

theorem executeAgentRun_eq {db : Db} {agentRunId : Uuid} {run : AgentRun} {case : RecoveryCase}
    (h : loadAttempt db agentRunId = some (run, case)) (finalAttempt : Bool) (input : AttemptInput) :
    executeAgentRun db agentRunId finalAttempt input =
      match attemptOutcome finalAttempt case run input.faults (attemptResult input case run) with
      | .committed w status => (commitWork db run case w, .returned status)
      | .rolledBack => (db, .reraised) := by
  obtain ⟨hr, hs, hc⟩ := loadAttempt_eq_some.mp h
  simp only [executeAgentRun, hr, hs, hc, ne_eq, not_true_eq_false, if_false]

end RevenueRescue.RecoveryService
