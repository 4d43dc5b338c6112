import RevenueRescue.Policies.Engine
import RevenueRescue.Providers.Base

namespace RevenueRescue.AgentSchemas

open Enums PolicySchema Providers

inductive Node
  | riskDetection
  | contextBuilder
  | diagnosis
  | strategy
  | policyCheck
  | actionExecution
  | observation
  | verification
  | escalation
  | completion
  | replan
  deriving DecidableEq

def Node.name : Node → String
  | .riskDetection => "risk_detection"
  | .contextBuilder => "context_builder"
  | .diagnosis => "diagnosis"
  | .strategy => "strategy"
  | .policyCheck => "policy_check"
  | .actionExecution => "action_execution"
  | .observation => "observation"
  | .verification => "verification"
  | .escalation => "escalation"
  | .completion => "completion"
  | .replan => "replan"

def validFailureCategory : FailureReason → Bool
  | .other _ => false
  | _ => true

structure DiagnosisOutput where
  diagnosis : String
  diagnosisConfidence : PyFloat
  failureCategory : FailureReason
  likelyCause : String
  isRecoverable : Bool
  recommendedStrategy : RecoveryStrategy
  needsHumanReview : Bool := false
  notes : String := ""
  confidence_bound : PyFloat.inUnit diagnosisConfidence = true := by decide
  category_valid : validFailureCategory failureCategory = true := by decide
  deriving DecidableEq

structure StrategyOutput where
  recoveryStrategy : RecoveryStrategy
  reason : String
  requestedAction : List (String × PyValue)
  expectedRecoveryPaise : Int
  confidence : PyFloat
  fallbackStrategy : Option String := none
  expected_bound : 0 ≤ expectedRecoveryPaise := by decide
  confidence_bound : PyFloat.inUnit confidence = true := by decide
  deriving DecidableEq

/-- What `get_quantitative_evidence` returns, as far as the graph reads it. -/
structure QuantitativeEvidence where
  recoveryProbability : PyFloat
  expectedValuePaise : PyFloat
  modelVersion : String
  ruleBasedRetryDelayHours : Int

/-- The `execution_result` dict, one constructor for each value of its `type`.
`blocked` is the dict with `executed` false; the others have it true. -/
inductive ExecutionResult
  | blocked (reason : Option Reason) (decision : Option PolicyDecision)
  | paymentRetry (attemptId transactionId : String) (outcome : PaymentStatus)
      (failureReason : Option String) (amountPaise : Int)
  | checkoutRecovery (messageId : String)
  | communication (strategy : RecoveryStrategy) (messageId : String)
  | noEffect (strategy : RecoveryStrategy)

inductive VerificationOutcome
  | notExecuted
  | pendingWebhook
  | noTransaction
  | recovered
  | status (s : PaymentStatus)
  | communicationSent
  deriving DecidableEq

/-- The `verification_result` dict. The two shortest ones hold only the first
two keys, and their readers use these defaults. -/
structure VerificationResult where
  verified : Bool
  outcome : VerificationOutcome
  transactionId : Option String := none
  amountRecoveredPaise : Int := 0
  reason : Option String := none
  verifiedAt : Option ℚ := none

structure NodeExecutionRecord where
  nodeName : Node
  runId : String
  deriving DecidableEq

/-- The graph state. A key that is absent from the dict reads as the same
default at every reader, so the record holds that default. -/
structure AgentState where
  caseId : String
  agentRunId : String
  eventType : String := "FAILED_PAYMENT"
  failureReason : FailureReason := .unknown
  amountPaise : Int := 0
  currency : String := "INR"
  customerId : String := "None"
  customerSegment : String := "standard"
  customerOptedOut : Bool := false
  customerSuspended : Bool := false
  retryCount : Int := 0
  communicationCount : Int := 0
  caseIsRecovered : Bool := false
  caseIsStopped : Bool := false
  paymentAlreadySucceeded : Bool := false
  hoursSinceLastAttempt : Option PyFloat := none
  checkoutTimeoutElapsed : Bool := false
  checkoutRecoveryMessageCount : Int := 0
  mlProbability : Option PyFloat := none
  mlExpectedValuePaise : Option PyFloat := none
  mlModelVersion : Option String := none
  mlEvidence : Option QuantitativeEvidence := none
  ruleRetryDelayHours : Option Int := none
  caseDiagnosis : Option DiagnosisOutput := none
  caseStrategy : Option StrategyOutput := none
  policyResult : Option PolicyEvaluationResult := none
  executionResult : Option ExecutionResult := none
  verificationResult : Option VerificationResult := none
  currentNode : Node := .riskDetection
  error : Option String := none
  escalationReason : Option Reason := none
  replanCount : Int := 0
  maxReplans : Int := 3
  nodeTrace : List Node := []
  nodeObservationLog : List NodeExecutionRecord := []

/-- The arguments of `make_initial_state` that a node reads, with its defaults. -/
structure InitialArgs where
  caseId : String
  agentRunId : String
  eventType : String
  failureReason : FailureReason
  amountPaise : Int
  customerId : String
  currency : String := "INR"
  customerSegment : String := "standard"
  customerOptedOut : Bool := false
  customerSuspended : Bool := false
  retryCount : Int := 0
  communicationCount : Int := 0
  caseIsRecovered : Bool := false
  paymentAlreadySucceeded : Bool := false
  hoursSinceLastAttempt : Option PyFloat := none
  checkoutTimeoutElapsed : Bool := false
  checkoutRecoveryMessageCount : Int := 0
  mlProbability : Option PyFloat := none
  mlExpectedValuePaise : Option PyFloat := none
  mlModelVersion : Option String := none
  mlEvidence : Option QuantitativeEvidence := none
  ruleRetryDelayHours : Option Int := none

def makeInitialState (a : InitialArgs) : AgentState where
  caseId := a.caseId
  agentRunId := a.agentRunId
  eventType := a.eventType
  failureReason := a.failureReason
  amountPaise := a.amountPaise
  currency := a.currency
  customerId := a.customerId
  customerSegment := a.customerSegment
  customerOptedOut := a.customerOptedOut
  customerSuspended := a.customerSuspended
  retryCount := a.retryCount
  communicationCount := a.communicationCount
  caseIsRecovered := a.caseIsRecovered
  paymentAlreadySucceeded := a.paymentAlreadySucceeded
  hoursSinceLastAttempt := a.hoursSinceLastAttempt
  checkoutTimeoutElapsed := a.checkoutTimeoutElapsed
  checkoutRecoveryMessageCount := a.checkoutRecoveryMessageCount
  mlProbability := a.mlProbability
  mlExpectedValuePaise := a.mlExpectedValuePaise
  mlModelVersion := a.mlModelVersion
  mlEvidence := a.mlEvidence
  ruleRetryDelayHours := a.ruleRetryDelayHours

end RevenueRescue.AgentSchemas
