import RevenueRescue.Agents.NodeUtils

namespace RevenueRescue.LlmNodes

open Enums PolicySchema AgentSchemas NodeUtils

/-- The diagnosis after the `try` of `node_diagnosis`. The reply is what the
completion, the cleaning, the JSON parse and the validation give together;
`none` is an exception in any of them. -/
def acceptedDiagnosis (state : AgentState) (reply : Option DiagnosisOutput) :
    Except String DiagnosisOutput :=
  match reply with
  | some diag => .ok diag
  | none => fallbackDiagnosis state.failureReason state.mlProbability

def nodeDiagnosis (state : AgentState) (reply : Option DiagnosisOutput) : Except String AgentState :=
  (acceptedDiagnosis state reply).map fun diag =>
    { addTrace state .diagnosis with caseDiagnosis := some diag }

def fillDelay (strat : StrategyOutput) (delayHours : Int) : StrategyOutput :=
  if isRetryStrategy strat.recoveryStrategy && !PyValue.contains strat.requestedAction "delay_hours" then
    { strat with requestedAction := strat.requestedAction ++ [("delay_hours", .int delayHours)] }
  else strat

def acceptedStrategy (state : AgentState) (diag : DiagnosisOutput) (reply : Option StrategyOutput) :
    Except String StrategyOutput :=
  let delayRecommendation := state.ruleRetryDelayHours.getD 24
  match reply with
  | some strat => .ok (fillDelay strat delayRecommendation)
  | none => fallbackStrategy diag state.amountPaise delayRecommendation

def nodeStrategy (state : AgentState) (reply : Option StrategyOutput) : Except String AgentState :=
  (acceptedDiagnosis state state.caseDiagnosis).bind fun diag =>
    (acceptedStrategy state diag reply).map fun strat =>
      { addTrace state .strategy with caseStrategy := some strat }

theorem fillDelay_strategy (strat : StrategyOutput) (delayHours : Int) :
    (fillDelay strat delayHours).recoveryStrategy = strat.recoveryStrategy := by
  unfold fillDelay
  split <;> rfl

theorem nodeDiagnosis_ok {state state' : AgentState} {reply : Option DiagnosisOutput}
    (h : nodeDiagnosis state reply = .ok state') :
    ∃ diag, acceptedDiagnosis state reply = .ok diag ∧
      state' = { addTrace state .diagnosis with caseDiagnosis := some diag } := by
  unfold nodeDiagnosis at h
  cases hd : acceptedDiagnosis state reply with
  | error e => rw [hd] at h; cases h
  | ok diag => rw [hd] at h; cases h; exact ⟨diag, rfl, rfl⟩

/-- What `node_strategy` settles on, from a diagnosis and a reply that it accepts. -/
theorem nodeStrategy_settles {state state' : AgentState} {reply : Option StrategyOutput}
    (h : nodeStrategy state reply = .ok state') :
    ∃ diag strat, acceptedDiagnosis state state.caseDiagnosis = .ok diag ∧
      acceptedStrategy state diag reply = .ok strat ∧
      state' = { addTrace state .strategy with caseStrategy := some strat } := by
  unfold nodeStrategy at h
  cases hd : acceptedDiagnosis state state.caseDiagnosis with
  | error e => rw [hd] at h; cases h
  | ok diag =>
      cases hs : acceptedStrategy state diag reply with
      | error e => rw [hd, Except.bind, hs] at h; cases h
      | ok strat => rw [hd, Except.bind, hs] at h; cases h; exact ⟨diag, strat, rfl, hs, rfl⟩

theorem nodeStrategy_ok {state state' : AgentState} {reply : Option StrategyOutput}
    (h : nodeStrategy state reply = .ok state') :
    ∃ strat, state' = { addTrace state .strategy with caseStrategy := some strat } := by
  obtain ⟨-, strat, -, -, hstate⟩ := nodeStrategy_settles h
  exact ⟨strat, hstate⟩

theorem nodeStrategy_reply {state : AgentState} {diag : DiagnosisOutput}
    (h : state.caseDiagnosis = some diag) (strat : StrategyOutput) :
    nodeStrategy state (some strat) = .ok { addTrace state .strategy with
      caseStrategy := some (fillDelay strat (state.ruleRetryDelayHours.getD 24)) } := by
  unfold nodeStrategy
  rw [h]
  rfl

end RevenueRescue.LlmNodes
