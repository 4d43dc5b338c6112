import Mathlib.Logic.Basic

namespace RevenueRescue.Enums

/-- `FailureReason`. The agent state and the policy context type it `str`, so
`other` stands for a string outside the enumeration. -/
inductive FailureReason
  | insufficientFunds
  | expiredMethod
  | gatewayTemporary
  | bankDecline
  | authFailure
  | mandateFailure
  | subscriptionGrace
  | checkoutAbandoned
  | unknown
  | other (name : String)
  deriving DecidableEq

inductive RecoveryScenario
  | failedPayment
  | failedSubscription
  | checkoutAbandonment
  deriving DecidableEq

inductive RecoveryCaseStatus
  | detected
  | diagnosing
  | strategyProposed
  | policyCheck
  | actionExecution
  | waiting
  | verification
  | recovered
  | retryEligible
  | escalated
  | stopped
  | failed
  deriving DecidableEq

inductive RecoveryStrategy
  | retryNow
  | scheduleRetry
  | paymentMethodUpdate
  | reminder
  | checkoutRecovery
  | promiseToPay
  | escalate
  deriving DecidableEq

inductive PolicyDecision
  | approved
  | denied
  | escalate
  | stop
  deriving DecidableEq

inductive AuditEventType
  | caseCreated
  | paymentSuccess
  | revenueRecovered
  | escalated
  | agentRunStarted
  | agentRunCompleted
  | unauthorizedActionAttempt
  deriving DecidableEq

inductive ActorType
  | system
  | recoveryAgent
  | policyEngine
  | recoveryVerifier
  | humanOperator
  | riskDetector
  deriving DecidableEq

/-- The action names of the policy engine. `other` is a name that no strategy
maps to and no rule mentions. -/
inductive ActionType
  | retryPayment
  | scheduleRetry
  | requestPaymentMethodUpdate
  | sendPaymentReminder
  | sendCheckoutRecovery
  | createPromiseToPay
  | escalateToHuman
  | changeCommunicationChannel
  | other (name : String)
  deriving DecidableEq

def RecoveryCaseStatus.value : RecoveryCaseStatus → String
  | .detected => "DETECTED"
  | .diagnosing => "DIAGNOSING"
  | .strategyProposed => "STRATEGY_PROPOSED"
  | .policyCheck => "POLICY_CHECK"
  | .actionExecution => "ACTION_EXECUTION"
  | .waiting => "WAITING"
  | .verification => "VERIFICATION"
  | .recovered => "RECOVERED"
  | .retryEligible => "RETRY_ELIGIBLE"
  | .escalated => "ESCALATED"
  | .stopped => "STOPPED"
  | .failed => "FAILED"

def RecoveryScenario.value : RecoveryScenario → String
  | .failedPayment => "FAILED_PAYMENT"
  | .failedSubscription => "FAILED_SUBSCRIPTION"
  | .checkoutAbandonment => "CHECKOUT_ABANDONMENT"

def RecoveryStrategy.value : RecoveryStrategy → String
  | .retryNow => "RETRY_NOW"
  | .scheduleRetry => "SCHEDULE_RETRY"
  | .paymentMethodUpdate => "PAYMENT_METHOD_UPDATE"
  | .reminder => "REMINDER"
  | .checkoutRecovery => "CHECKOUT_RECOVERY"
  | .promiseToPay => "PROMISE_TO_PAY"
  | .escalate => "ESCALATE"

def FailureReason.value : FailureReason → String
  | .insufficientFunds => "INSUFFICIENT_FUNDS"
  | .expiredMethod => "EXPIRED_METHOD"
  | .gatewayTemporary => "GATEWAY_TEMPORARY"
  | .bankDecline => "BANK_DECLINE"
  | .authFailure => "AUTH_FAILURE"
  | .mandateFailure => "MANDATE_FAILURE"
  | .subscriptionGrace => "SUBSCRIPTION_GRACE"
  | .checkoutAbandoned => "CHECKOUT_ABANDONED"
  | .unknown => "UNKNOWN"
  | .other name => name

end RevenueRescue.Enums
