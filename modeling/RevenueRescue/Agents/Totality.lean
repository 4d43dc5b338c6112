import RevenueRescue.Agents.LlmOutput

namespace RevenueRescue.LlmTotality

open Enums PolicySchema AgentSchemas NodeUtils LlmNodes LlmOutput PolicyService

/-- The arguments that `_fallback_diagnosis` gives to `DiagnosisOutput`. -/
def fallbackDiagnosisData (failureReason : FailureReason) (mlProbability : Option PyFloat) : Payload :=
  let strategy := (fallbackTable failureReason).1
  let confidence := if strategy ≠ .escalate then mlProbability.getD (fallbackTable failureReason).2
    else (fallbackTable failureReason).2
  [("diagnosis", .str ("fallback_" ++ failureReason.value.toLower)),
    ("diagnosis_confidence", .float (PyFloat.clampRound confidence)),
    ("failure_category", .str failureReason.value),
    ("likely_cause", .str ("Deterministic fallback for " ++ failureReason.value)),
    ("is_recoverable", .bool (strategy ≠ .escalate)),
    ("recommended_strategy", .str strategy.value),
    ("needs_human_review", .bool (failureReason = .unknown)),
    ("notes", .str "FALLBACK_MODE")]

/-- The arguments that `_fallback_strategy` gives to `StrategyOutput`. -/
def fallbackStrategyData (diag : DiagnosisOutput) (amountPaise delayHours : Int) : Payload :=
  let strategy := diag.recommendedStrategy
  let delay := if isRetryStrategy strategy then delayHours else 0
  [("recovery_strategy", .str strategy.value),
    ("reason", .str ("Deterministic fallback strategy for " ++ diag.failureCategory.value)),
    ("requested_action", .dict [("type", .str strategy.value), ("delay_hours", .int delay)]),
    ("expected_recovery_paise", .int (if strategy ≠ .escalate then amountPaise else 0)),
    ("confidence", .float diag.diagnosisConfidence),
    ("fallback_strategy", .str "ESCALATE")]

/-- The diagnosis passed the validation of `DiagnosisOutput`, on the object in
the reply or on the arguments of the fallback. -/
inductive DiagnosisPassed (p : Platform) (state : AgentState) (completion : Option Text) : DiagnosisOutput → Prop
  | reply {raw : Text} {data : Payload} {diag : DiagnosisOutput} (hc : completion = some raw)
      (hd : parseReply p raw = some (.dict data)) (hv : validateDiagnosis p.conversions data = some diag) :
      DiagnosisPassed p state completion diag
  | fallback {diag : DiagnosisOutput} (hr : diagnosisReply p completion = none)
      (hv : validateDiagnosis p.conversions (fallbackDiagnosisData state.failureReason state.mlProbability) =
        some diag) : DiagnosisPassed p state completion diag

/-- The strategy passed the validation of `StrategyOutput`, and may have its delay filled in after it. -/
inductive StrategyPassed (p : Platform) (state : AgentState) (completion : Option Text) (diag : DiagnosisOutput) :
    StrategyOutput → Prop
  | reply {raw : Text} {data : Payload} {strat : StrategyOutput} (hc : completion = some raw)
      (hd : parseReply p raw = some (.dict data)) (hv : validateStrategyOutput p.conversions data = some strat) :
      StrategyPassed p state completion diag (fillDelay strat (state.ruleRetryDelayHours.getD 24))
  | fallback {strat : StrategyOutput} (hr : strategyReply p completion = none)
      (hv : validateStrategyOutput p.conversions
        (fallbackStrategyData diag state.amountPaise (state.ruleRetryDelayHours.getD 24)) = some strat) :
      StrategyPassed p state completion diag strat

/-- The two LLM nodes on a state, whatever the LLM does. -/
structure Total (p : Platform) (state : AgentState) : Prop where
  diagnosis : ∀ completion, ∃ diag, DiagnosisPassed p state completion diag ∧
    diag.failureCategory ∈ failureCategories ∧ diag.recommendedStrategy ∈ strategies ∧
    nodeDiagnosis state (diagnosisReply p completion) =
      .ok { addTrace state .diagnosis with caseDiagnosis := some diag }
  strategy : ∀ completion, ∃ diag strat, StrategyPassed p state completion diag strat ∧
    acceptedDiagnosis state state.caseDiagnosis = .ok diag ∧ strat.recoveryStrategy ∈ strategies ∧
    (strat.recoveryStrategy = .retryNow ∨ strat.recoveryStrategy = .scheduleRetry →
      PyValue.contains strat.requestedAction "delay_hours" = true) ∧
    nodeStrategy state (strategyReply p completion) =
      .ok { addTrace state .strategy with caseStrategy := some strat }

variable {p : Platform} {state : AgentState} {failureReason : FailureReason} {diag : DiagnosisOutput}
variable {strat : StrategyOutput}

theorem mem_failureCategories (h : validFailureCategory failureReason = true) : failureReason ∈ failureCategories := by
  cases failureReason with
  | other name => cases h
  | _ => decide

theorem mem_strategies (strategy : RecoveryStrategy) : strategy ∈ strategies := by
  cases strategy <;> decide

theorem validateFailureCategory_value (h : validFailureCategory failureReason = true) :
    validateFailureCategory failureReason.value = some failureReason := by
  cases failureReason with
  | other name => cases h
  | _ => rfl

theorem validateStrategy_value (strategy : RecoveryStrategy) : validateStrategy strategy.value = some strategy := by
  cases strategy <;> rfl

/-- On valid arguments the constructor that `_fallback_diagnosis` calls accepts. -/
theorem fallbackDiagnosis_validated (c : Conversions) (h : validFailureCategory failureReason = true)
    (mlProbability : Option PyFloat) : ∃ diag, fallbackDiagnosis failureReason mlProbability = .ok diag ∧
      validateDiagnosis c (fallbackDiagnosisData failureReason mlProbability) = some diag := by
  unfold fallbackDiagnosis
  rw [dif_pos h]
  refine ⟨_, rfl, ?_⟩
  simp [validateDiagnosis, fallbackDiagnosisData, lookup, field, c.str_str, c.float_float, c.bool_bool,
    validateFailureCategory_value h, validateStrategy_value, PyFloat.clampRound_inUnit, h]

theorem fallbackStrategy_validated (c : Conversions) (diag : DiagnosisOutput) {amountPaise : Int} (h : 0 ≤ amountPaise)
    (delayHours : Int) : ∃ strat, fallbackStrategy diag amountPaise delayHours = .ok strat ∧
      validateStrategyOutput c (fallbackStrategyData diag amountPaise delayHours) = some strat := by
  have hexpected : 0 ≤ if diag.recommendedStrategy ≠ .escalate then amountPaise else 0 := by
    split <;> omega
  unfold fallbackStrategy
  rw [dif_pos hexpected]
  refine ⟨_, rfl, ?_⟩
  simp [validateStrategyOutput, fallbackStrategyData, lookup, field, asDict, optionalStr, c.str_str, c.float_float,
    c.int_int, validateStrategy_value, diag.confidence_bound]
  split <;> omega

theorem diagnosisReply_some {completion : Option Text} (h : diagnosisReply p completion = some diag) :
    DiagnosisPassed p state completion diag := by
  obtain ⟨raw, hraw, h⟩ := Option.bind_eq_some_iff.mp h
  obtain ⟨value, hvalue, h⟩ := Option.bind_eq_some_iff.mp h
  cases value with
  | dict data => exact .reply hraw hvalue h
  | _ => cases h

theorem strategyReply_some {completion : Option Text} (h : strategyReply p completion = some strat) :
    StrategyPassed p state completion diag (fillDelay strat (state.ruleRetryDelayHours.getD 24)) := by
  obtain ⟨raw, hraw, h⟩ := Option.bind_eq_some_iff.mp h
  obtain ⟨value, hvalue, h⟩ := Option.bind_eq_some_iff.mp h
  cases value with
  | dict data => exact .reply hraw hvalue h
  | _ => cases h

theorem fillDelay_contains (strat : StrategyOutput) (delayHours : Int)
    (h : isRetryStrategy (fillDelay strat delayHours).recoveryStrategy = true) :
    PyValue.contains (fillDelay strat delayHours).requestedAction "delay_hours" = true := by
  rw [fillDelay_strategy] at h
  unfold fillDelay
  rw [h, Bool.true_and]
  cases hc : PyValue.contains strat.requestedAction "delay_hours" with
  | true => simpa using hc
  | false => simp [PyValue.contains]

theorem accepted_total (hreason : validFailureCategory state.failureReason = true) (reply : Option DiagnosisOutput) :
    ∃ diag, acceptedDiagnosis state reply = .ok diag := by
  cases reply with
  | some diag => exact ⟨diag, rfl⟩
  | none =>
      obtain ⟨diag, hdiag, -⟩ := fallbackDiagnosis_validated strict hreason state.mlProbability
      exact ⟨diag, hdiag⟩

theorem diagnosis_total (hreason : validFailureCategory state.failureReason = true) (completion : Option Text) :
    ∃ diag, DiagnosisPassed p state completion diag ∧
      acceptedDiagnosis state (diagnosisReply p completion) = .ok diag := by
  cases hr : diagnosisReply p completion with
  | some diag => exact ⟨diag, diagnosisReply_some hr, rfl⟩
  | none =>
      obtain ⟨diag, hdiag, hv⟩ := fallbackDiagnosis_validated p.conversions hreason state.mlProbability
      exact ⟨diag, .fallback hr hv, hdiag⟩

theorem strategy_total (hamount : 0 < state.amountPaise) (diag : DiagnosisOutput) (completion : Option Text) :
    ∃ strat, StrategyPassed p state completion diag strat ∧
      acceptedStrategy state diag (strategyReply p completion) = .ok strat ∧
      (isRetryStrategy strat.recoveryStrategy = true →
        PyValue.contains strat.requestedAction "delay_hours" = true) := by
  cases hr : strategyReply p completion with
  | some strat => exact ⟨_, strategyReply_some hr, rfl, fillDelay_contains strat _⟩
  | none =>
      obtain ⟨strat, hstrat, hv⟩ := fallbackStrategy_validated p.conversions diag hamount.le
        (state.ruleRetryDelayHours.getD 24)
      refine ⟨strat, .fallback hr hv, hstrat, fun _ => ?_⟩
      rw [(fallbackStrategy_ok hstrat).2.2]
      rfl

/-- The LLM nodes never raise, and what they settle on passed its validation. -/
theorem llm_nodes_total (p : Platform) (hreason : validFailureCategory state.failureReason = true)
    (hamount : 0 < state.amountPaise) : Total p state where
  diagnosis completion := by
    obtain ⟨diag, hpassed, hdiag⟩ := diagnosis_total (p := p) hreason completion
    refine ⟨diag, hpassed, mem_failureCategories diag.category_valid, mem_strategies _, ?_⟩
    rw [nodeDiagnosis, hdiag]
    rfl
  strategy completion := by
    obtain ⟨diag, hdiag⟩ := accepted_total hreason state.caseDiagnosis
    obtain ⟨strat, hpassed, hstrat, hdelay⟩ := strategy_total (p := p) hamount diag completion
    refine ⟨diag, strat, hpassed, hdiag, mem_strategies _, fun hretry => hdelay ?_, ?_⟩
    · simpa [isRetryStrategy] using hretry
    · rw [nodeStrategy, hdiag, Except.bind, hstrat]
      rfl

def sampleState : AgentState where
  caseId := "case_1"
  agentRunId := "run_1"
  failureReason := .bankDecline
  amountPaise := 100000
  mlProbability := some .nan

theorem llm_nodes_total_sample : Total plainPlatform sampleState := llm_nodes_total plainPlatform rfl (by decide)

end RevenueRescue.LlmTotality
