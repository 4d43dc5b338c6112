import RevenueRescue.Agents.Gate
import RevenueRescue.Agents.LlmOutput

namespace RevenueRescue.RetryDelays

open Enums PolicySchema PolicyEngine AgentSchemas NodeUtils DeterministicNodes LlmNodes LlmOutput
open RecoveryGraph GraphEffects PolicyGate PolicyService Machine Json

/-- What `ScheduleRetryInput` accepts as `delay_hours`. -/
def Validated (delay : PyValue) : Prop :=
  match delay with
  | .int n => 1 ≤ n ∧ n ≤ 168
  | _ => False

instance : DecidablePred Validated := fun delay => by
  unfold Validated
  split <;> infer_instance

/-- The reply of the LLM proposes a scheduled retry, or there is none and the diagnosis recommends one. -/
def Schedules (s : AgentState) : Option StrategyOutput → Prop
  | some strat => strat.recoveryStrategy = .scheduleRetry
  | none => ∃ diag, acceptedDiagnosis s s.caseDiagnosis = .ok diag ∧ diag.recommendedStrategy = .scheduleRetry

/-- The entry that the reply itself has, else the recommendation of the rules, else a day. -/
def proposedDelay (s : AgentState) (reply : Option StrategyOutput) : PyValue :=
  (reply.bind fun strat => lookup strat.requestedAction "delay_hours").getD
    (.int (s.ruleRetryDelayHours.getD 24))

def Permitted (policy : PolicyConfig) (s : AgentState) : Prop :=
  ∀ strat : StrategyOutput, strat.recoveryStrategy = .scheduleRetry → Permits policy (policyContext s strat)

/-- A scheduled retry that the policy is going to permit is proposed with a delay in the range. -/
def Bounded (policy : PolicyConfig) (r : Run) (w : NodeInput) : Prop :=
  r.next = .node .strategy → Schedules r.state w.strategy → Permitted policy r.state →
    Validated (proposedDelay r.state w.strategy)

variable {p : Platform} {policy : PolicyConfig} {limit : Nat} {s t : AgentState} {r r' : Run} {w : NodeInput}
variable {diag : DiagnosisOutput} {strat : StrategyOutput} {reply : Option StrategyOutput}

theorem lookup_append (kvs : Payload) {key : String} (h : lookup kvs key = none) (value : PyValue) :
    lookup (kvs ++ [(key, value)]) key = some value := by
  have hnone : kvs.find? (fun kv => kv.1 = key) = none := Option.map_eq_none_iff.mp h
  simp [lookup, List.find?_append, hnone]

end RevenueRescue.RetryDelays
