import RevenueRescue.Agents.Schemas

namespace RevenueRescue.NodeUtils

open Enums PolicySchema AgentSchemas

@[simp] def addTrace (state : AgentState) (node : Node) : AgentState :=
  { state with nodeTrace := state.nodeTrace ++ [node], currentNode := node }

/-- The `strategy_map` of `_fallback_diagnosis`, with its default confidences. -/
def fallbackTable : FailureReason → RecoveryStrategy × PyFloat
  | .insufficientFunds => (.scheduleRetry, .num (mkRat 75 100))
  | .expiredMethod => (.paymentMethodUpdate, .num (mkRat 60 100))
  | .gatewayTemporary => (.retryNow, .num (mkRat 85 100))
  | .bankDecline => (.scheduleRetry, .num (mkRat 55 100))
  | .authFailure => (.reminder, .num (mkRat 50 100))
  | .mandateFailure => (.scheduleRetry, .num (mkRat 65 100))
  | .subscriptionGrace => (.scheduleRetry, .num (mkRat 65 100))
  | .checkoutAbandoned => (.checkoutRecovery, .num (mkRat 55 100))
  | .unknown | .other _ => (.escalate, .num (mkRat 20 100))

/-- `_fallback_diagnosis`. The output is validated like any other, so a failure
reason outside the enumeration raises here. -/
def fallbackDiagnosis (failureReason : FailureReason) (mlProbability : Option PyFloat) :
    Except String DiagnosisOutput :=
  let strategy := (fallbackTable failureReason).1
  let confidence := if strategy ≠ .escalate then mlProbability.getD (fallbackTable failureReason).2
    else (fallbackTable failureReason).2
  if h : validFailureCategory failureReason = true then
    .ok {
      diagnosis := "fallback_" ++ failureReason.value.toLower
      diagnosisConfidence := PyFloat.clampRound confidence
      failureCategory := failureReason
      likelyCause := "Deterministic fallback for " ++ failureReason.value
      isRecoverable := strategy ≠ .escalate
      recommendedStrategy := strategy
      needsHumanReview := failureReason = .unknown
      notes := "FALLBACK_MODE"
      confidence_bound := PyFloat.clampRound_inUnit _
      category_valid := h }
  else .error ("Invalid failure_category: " ++ failureReason.value)

def isRetryStrategy (strategy : RecoveryStrategy) : Bool :=
  decide (strategy ∈ [RecoveryStrategy.retryNow, .scheduleRetry])

/-- `_fallback_strategy`. A negative amount fails the `ge=0` check of the output. -/
def fallbackStrategy (diag : DiagnosisOutput) (amountPaise delayHours : Int) :
    Except String StrategyOutput :=
  let strategy := diag.recommendedStrategy
  let delay := if isRetryStrategy strategy then delayHours else 0
  let expected := if strategy ≠ .escalate then amountPaise else 0
  if h : 0 ≤ expected then
    .ok {
      recoveryStrategy := strategy
      reason := "Deterministic fallback strategy for " ++ diag.failureCategory.value
      requestedAction := [("type", .str strategy.value), ("delay_hours", .int delay)]
      expectedRecoveryPaise := expected
      confidence := diag.diagnosisConfidence
      fallbackStrategy := some "ESCALATE"
      expected_bound := h
      confidence_bound := diag.confidence_bound }
  else .error "expected_recovery_paise: Input should be greater than or equal to 0"

theorem fallbackStrategy_ok {diag : DiagnosisOutput} {amountPaise delayHours : Int} {strat : StrategyOutput}
    (h : fallbackStrategy diag amountPaise delayHours = .ok strat) :
    strat.recoveryStrategy = diag.recommendedStrategy ∧ strat.confidence = diag.diagnosisConfidence ∧
      strat.requestedAction = [("type", .str strat.recoveryStrategy.value),
        ("delay_hours", .int (if isRetryStrategy strat.recoveryStrategy then delayHours else 0))] := by
  unfold fallbackStrategy at h
  by_cases hpos : 0 ≤ if diag.recommendedStrategy ≠ .escalate then amountPaise else 0
  · rw [dif_pos hpos] at h
    cases h
    exact ⟨rfl, rfl, rfl⟩
  · rw [dif_neg hpos] at h
    cases h

def strategyToActionType : RecoveryStrategy → ActionType
  | .retryNow => .retryPayment
  | .scheduleRetry => .scheduleRetry
  | .paymentMethodUpdate => .requestPaymentMethodUpdate
  | .reminder => .sendPaymentReminder
  | .checkoutRecovery => .sendCheckoutRecovery
  | .promiseToPay => .createPromiseToPay
  | .escalate => .escalateToHuman

/-- The policy engine counts a strategy as a retry exactly when the executor
makes a payment attempt for it. -/
theorem isRetry_strategyToActionType (strategy : RecoveryStrategy) :
    PolicyEngine.isRetry (strategyToActionType strategy) = isRetryStrategy strategy := by
  cases strategy <;> rfl

end RevenueRescue.NodeUtils
