import RevenueRescue.Agents.Gate
import RevenueRescue.Agents.LlmOutput
import RevenueRescue.Policies.Pipeline

namespace RevenueRescue.ConfidenceGate

open Enums PolicySchema PolicyEngine AgentSchemas NodeUtils DeterministicNodes LlmNodes
open LlmOutput Json PolicyService PolicyPipeline PolicyGate

/-- A number from the threshold of the policy up to one. -/
def Confident (policy : PolicyConfig) (confidence : PyFloat) : Prop :=
  PyFloat.le policy.escalation.lowConfidenceThreshold confidence = true ∧
    PyFloat.le confidence (.ofInt 1) = true

def Approves (policy : PolicyConfig) (s : AgentState) : Prop :=
  ∃ t, (nodePolicyCheck s policy).result = .ok t ∧ t.policyResult.map (·.decision) = some .approved

/-- An approval of the policy check needs a diagnosis with enough confidence. -/
def FailsClosed (policy : PolicyConfig) (s : AgentState) : Prop :=
  Approves policy s → ∃ diag, s.caseDiagnosis = some diag ∧ Confident policy diag.diagnosisConfidence

variable {p : Platform} {completion : Option Text} {policy : PolicyConfig} {s t u : AgentState}
variable {diag : DiagnosisOutput} {strat : StrategyOutput}

/-- An action that the engine permits has a confidence that compares, as neither
the confidence nor the threshold can be NaN. -/
theorem confident_of_permits (hp : Permits policy (policyContext s strat)) (hd : s.caseDiagnosis = some diag) :
    Confident policy diag.diagnosisConfidence := by
  have hbelow : givenBelow (s.caseDiagnosis.map (·.diagnosisConfidence))
      policy.escalation.lowConfidenceThreshold = false := hp.confident
  rw [hd] at hbelow
  have hthreshold := PyFloat.ne_nan_of_inUnit policy.escalation.confidence_bound
  have hconfidence := PyFloat.ne_nan_of_inUnit diag.confidence_bound
  exact ⟨PyFloat.le_iff.mpr ⟨hbelow, hthreshold, hconfidence⟩, (PyFloat.inUnit_iff.mp diag.confidence_bound).2⟩

theorem permits_of_approves (h : Approves policy s) : ∃ strat, Permits policy (policyContext s strat) := by
  obtain ⟨t, ht, hdecision⟩ := h
  unfold nodePolicyCheck at ht
  cases hs : s.caseStrategy with
  | none =>
      rw [hs] at ht
      cases ht
      cases hdecision
  | some strat =>
      rw [hs] at ht
      cases ht
      exact ⟨strat, (authorize_approved_iff policy _).mp (Option.some.inj hdecision)⟩

/-- Low confidence fails closed on every text of the LLM: a text that names a
confidence which is no number from zero to one is no diagnosis, and the
fallback has a number of its own. -/
theorem confidence_closed (hd : nodeDiagnosis s (diagnosisReply p completion) = .ok t)
    (hu : u.caseDiagnosis = t.caseDiagnosis) : FailsClosed policy u := by
  obtain ⟨diag, -, rfl⟩ := nodeDiagnosis_ok hd
  intro happroved
  obtain ⟨strat, hpermits⟩ := permits_of_approves happroved
  exact ⟨diag, hu, confident_of_permits hpermits hu⟩

/-- A platform on which decimals are exact and nothing is converted. -/
def exactPlatform : Platform := ⟨⟨.num, 1000⟩, strict⟩

def nanReply : Text :=
  ["\x7b\"diagnosis\": \"timeout\", ", "\"diagnosis_confidence\": ", "NaN, ",
    "\"failure_category\": ", "\"GATEWAY_TEMPORARY\", ", "\"likely_cause\": \"outage\", ",
    "\"is_recoverable\": true, ", "\"recommended_strategy\": ", "\"RETRY_NOW\"\x7d"].flatMap String.toList

theorem nanReply_rejected : (diagnosisReply exactPlatform (some nanReply)).isNone = true := by decide +kernel

def diagnosedState : AgentState := ((nodeDiagnosis sampleState none).toOption).getD sampleState

theorem diagnosedState_eq :
    nodeDiagnosis sampleState (diagnosisReply exactPlatform (some nanReply)) = .ok diagnosedState := by
  rw [Option.isNone_iff_eq_none.mp nanReply_rejected]
  rfl

def proposedState : AgentState := { diagnosedState with caseStrategy := some (sampleStrategy .retryNow) }

theorem proposedState_approved : Approves samplePolicy proposedState := by
  refine ⟨_, rfl, ?_⟩
  decide +kernel

theorem confidence_closed_sample :
    ∃ diag, proposedState.caseDiagnosis = some diag ∧ Confident samplePolicy diag.diagnosisConfidence := by
  have hclosed : FailsClosed samplePolicy proposedState := confidence_closed diagnosedState_eq rfl
  exact hclosed proposedState_approved

end RevenueRescue.ConfidenceGate
