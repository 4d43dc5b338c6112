import RevenueRescue.Agents.NodeUtils

namespace RevenueRescue.DeterministicNodes

open Enums PolicySchema PolicyEngine Providers AgentSchemas NodeUtils

/-- What a node does outside the graph state: a policy decision asked for, a
call to the payment provider with its answer, or a message to the customer. -/
inductive Effect
  | authorize (ctx : AuthorizationContext) (result : PolicyEvaluationResult)
  | retryPayment (request : RetryRequest) (answer : Except String RetryResult)
  | scheduleRetry (request : RetryRequest) (delayHours : PyValue) (answer : Except String RetryResult)
  | getPayment (paymentId : String) (answer : Except String PaymentResult)
  | sendMessage (strategy : RecoveryStrategy) (messageId : String)

structure NodeOutcome where
  effect : Option Effect := none
  result : Except String AgentState

def nodeRiskDetection (state : AgentState) : AgentState :=
  let traced := addTrace state .riskDetection
  if state.caseIsRecovered then
    { traced with
      caseIsStopped := true
      escalationReason := some (.text "Case already recovered — stopping") }
  else if state.paymentAlreadySucceeded then { traced with caseIsStopped := true }
  else if state.amountPaise ≤ 0 then
    { traced with error := some "Invalid amount — rejecting case", caseIsStopped := true }
  else traced

/-- `node_context_builder`; `none` when the scorer raised. -/
def nodeContextBuilder (state : AgentState) (evidence : Option QuantitativeEvidence) : AgentState :=
  let traced := addTrace state .contextBuilder
  match evidence with
  | some e =>
      { traced with
        mlProbability := some e.recoveryProbability
        mlExpectedValuePaise := some e.expectedValuePaise
        mlModelVersion := some e.modelVersion
        mlEvidence := some e
        ruleRetryDelayHours := some e.ruleBasedRetryDelayHours }
  | none => traced

def policyContext (state : AgentState) (strat : StrategyOutput) : AuthorizationContext where
  caseId := state.caseId
  actionType := strategyToActionType strat.recoveryStrategy
  amountPaise := state.amountPaise
  retryCount := state.retryCount
  communicationCount := state.communicationCount
  customerOptedOut := state.customerOptedOut
  customerSuspended := state.customerSuspended
  caseIsRecovered := state.caseIsRecovered
  paymentAlreadySucceeded := state.paymentAlreadySucceeded
  failureReason := state.failureReason
  hoursSinceLastAttempt := state.hoursSinceLastAttempt
  diagnosisConfidence := state.caseDiagnosis.map (·.diagnosisConfidence)
  checkoutTimeoutElapsed := state.checkoutTimeoutElapsed
  checkoutRecoveryMessageCount := state.checkoutRecoveryMessageCount

def nodePolicyCheck (state : AgentState) (policy : PolicyConfig) : NodeOutcome :=
  let traced := addTrace state .policyCheck
  match state.caseStrategy with
  | none =>
      -- The dict has a decision and a reason only; no reader asks for more.
      { result := .ok { traced with
          policyResult := some {
            allowed := false
            decision := .escalate
            reason := .text "No strategy available"
            policyId := ""
            policyVersion := 0 } } }
  | some strat =>
      let ctx := policyContext state strat
      let result := authorize policy ctx
      { effect := some (.authorize ctx result)
        result := .ok { traced with policyResult := some result } }

/-- The request of both retry calls. `payment_id` is no key of the graph state,
so the original payment id is always empty. -/
def retryRequest (state : AgentState) (strategy : RecoveryStrategy) : RetryRequest where
  caseId := state.caseId
  originalPaymentId := ""
  amountPaise := state.amountPaise
  currency := state.currency
  customerId := state.customerId
  idempotencyKey := state.caseId ++ "-" ++ strategy.value ++ "-" ++ toString (state.retryCount + 1)
  retryNumber := state.retryCount + 1
  failureReason := state.failureReason
  customerSegment := state.customerSegment

def scheduledDelay (strat : Option StrategyOutput) : PyValue :=
  PyValue.get ((strat.map (·.requestedAction)).getD []) "delay_hours" (.int 24)

def recordRetry (traced : AgentState) (r : RetryResult) : AgentState :=
  { traced with
    executionResult := some (.paymentRetry r.attemptId r.paymentId r.status r.failureReason r.amountPaise)
    retryCount := traced.retryCount + 1 }

def nodeActionExecution (state : AgentState) (answer : Except String RetryResult) (messageId : String) :
    NodeOutcome :=
  let traced := addTrace state .actionExecution
  let decision := state.policyResult.map (·.decision)
  if decision ≠ some .approved then
    { result := .ok { traced with
        executionResult := some (.blocked (state.policyResult.map (·.reason)) decision) } }
  else
    let strategy := (state.caseStrategy.map (·.recoveryStrategy)).getD .escalate
    match strategy with
    | .scheduleRetry =>
        { effect := some (.scheduleRetry (retryRequest state strategy)
            (scheduledDelay state.caseStrategy) answer)
          result := answer.map (recordRetry traced) }
    | .retryNow =>
        { effect := some (.retryPayment (retryRequest state strategy) answer)
          result := answer.map (recordRetry traced) }
    | .checkoutRecovery =>
        { effect := some (.sendMessage strategy messageId)
          result := .ok { traced with
            communicationCount := state.communicationCount + 1
            checkoutRecoveryMessageCount := state.checkoutRecoveryMessageCount + 1
            executionResult := some (.checkoutRecovery messageId) } }
    | .reminder | .paymentMethodUpdate =>
        { effect := some (.sendMessage strategy messageId)
          result := .ok { traced with
            communicationCount := state.communicationCount + 1
            executionResult := some (.communication strategy messageId) } }
    | .promiseToPay | .escalate =>
        { result := .ok { traced with executionResult := some (.noEffect strategy) } }

def nodeObservation (state : AgentState) : AgentState := addTrace state .observation

def paymentVerdict (transactionId : String) (payment : PaymentResult) (now : ℚ) : VerificationResult :=
  let isRecovered := payment.status = .success
  { verified := isRecovered
    outcome := if isRecovered then .recovered else .status payment.status
    transactionId := some transactionId
    amountRecoveredPaise := if isRecovered then payment.amountPaise else 0
    reason := some ("Payment status: " ++ payment.status.value)
    verifiedAt := some now }

def nodeVerification (state : AgentState) (answer : Except String PaymentResult) (now : ℚ) : NodeOutcome :=
  let traced := addTrace state .verification
  match state.executionResult with
  | none | some (.blocked _ _) =>
      { result := .ok { traced with
          verificationResult := some { verified := false, outcome := .notExecuted } } }
  | some (.checkoutRecovery _) =>
      { result := .ok { traced with
          verificationResult := some {
            verified := false
            outcome := .pendingWebhook
            reason := some "Awaiting webhook confirmation for checkout recovery"
            verifiedAt := some now } } }
  | some (.paymentRetry _ transactionId _ _ _) =>
      if transactionId = "" then
        { result := .ok { traced with
            verificationResult := some {
              verified := false
              outcome := .noTransaction
              reason := some "No transaction ID from payment retry"
              verifiedAt := some now } } }
      else
        { effect := some (.getPayment transactionId answer)
          result := answer.map fun payment =>
            let judged := { traced with
              verificationResult := some (paymentVerdict transactionId payment now) }
            if payment.status = .success then
              { judged with caseIsRecovered := true, caseIsStopped := true }
            else judged }
  | some (.communication _ _) | some (.noEffect _) =>
      { result := .ok { traced with
          verificationResult := some { verified := false, outcome := .communicationSent } } }

/-- Python's `a or b or ...` over reasons. -/
def firstTruthy (reasons : List (Option Reason)) (default : Reason) : Reason :=
  ((reasons.filterMap id).find? Reason.truthy).getD default

def nodeEscalation (state : AgentState) : AgentState :=
  { addTrace state .escalation with
    escalationReason := some (firstTruthy
      [state.escalationReason, state.policyResult.map (·.reason)] (.text "Escalation triggered"))
    caseIsStopped := true }

def nodeCompletion (state : AgentState) : AgentState :=
  let traced := addTrace state .completion
  match state.policyResult with
  | some result =>
      if result.decision = .denied ∧ state.caseIsRecovered = false then
        { traced with
          caseIsStopped := true
          escalationReason := some (firstTruthy [state.escalationReason] result.reason) }
      else traced
  | none => traced

def incrementReplan (state : AgentState) : AgentState :=
  { state with replanCount := state.replanCount + 1 }

end RevenueRescue.DeterministicNodes
