import RevenueRescue.Agents.DeterministicNodes
import RevenueRescue.Agents.LlmNodes
import RevenueRescue.Foundation.Machine

namespace RevenueRescue.RecoveryGraph

open Enums PolicySchema PolicyEngine Providers AgentSchemas NodeUtils DeterministicNodes LlmNodes Machine

def routeAfterRiskDetection (state : AgentState) : Node :=
  if state.caseIsStopped || state.error.any (· ≠ "") then .completion else .contextBuilder

def routeAfterPolicyCheck (state : AgentState) : Node :=
  let decision : Option PolicyDecision := state.policyResult.map (·.decision)
  match decision with
  | some .approved => .actionExecution
  | some .escalate | some .stop => .escalation
  | _ => .completion

def routeAfterVerification (state : AgentState) : Node :=
  if state.caseIsRecovered then .completion
  else if state.verificationResult.map (·.outcome) = some .communicationSent then
    if state.replanCount < state.maxReplans then .replan else .escalation
  else
    -- "Payment failed" in the source: every outcome other than the one above.
    if state.replanCount < state.maxReplans then .replan else .escalation

/-- The edges of `build_recovery_graph`; `none` is `END`. -/
def successor (node : Node) (state : AgentState) : Option Node :=
  match node with
  | .riskDetection => some (routeAfterRiskDetection state)
  | .contextBuilder => some .diagnosis
  | .diagnosis => some .strategy
  | .strategy => some .policyCheck
  | .policyCheck => some (routeAfterPolicyCheck state)
  | .actionExecution => some .observation
  | .observation => some .verification
  | .verification => some (routeAfterVerification state)
  | .replan => some .strategy
  | .escalation => some .completion
  | .completion => none

/-- What the world outside answers while one node runs: the scorer, the two LLM
replies, the payment provider and the clock. A node uses its own part of it.
`raised` is an exception before the node calls anything. -/
structure NodeInput where
  time : ℚ := 0
  raised : Option String := none
  evidence : Option QuantitativeEvidence := none
  diagnosis : Option DiagnosisOutput := none
  strategy : Option StrategyOutput := none
  retry : Except String RetryResult := .error "provider unavailable"
  payment : Except String PaymentResult := .error "provider unavailable"
  messageId : String := ""

def nodeFunction (policy : PolicyConfig) (node : Node) (state : AgentState) (w : NodeInput) : NodeOutcome :=
  match node with
  | .riskDetection => { result := .ok (nodeRiskDetection state) }
  | .contextBuilder => { result := .ok (nodeContextBuilder state w.evidence) }
  | .diagnosis => { result := nodeDiagnosis state w.diagnosis }
  | .strategy => { result := nodeStrategy state w.strategy }
  | .policyCheck => nodePolicyCheck state policy
  | .actionExecution => nodeActionExecution state w.retry w.messageId
  | .observation => { result := .ok (nodeObservation state) }
  | .verification => nodeVerification state w.payment w.time
  | .escalation => { result := .ok (nodeEscalation state) }
  | .completion => { result := .ok (nodeCompletion state) }
  | .replan => { result := .ok (incrementReplan state) }

/-- `_wrap_node` on a node that returned: its record joins the log, and its
name the trace when the node has not put it there (only `replan` has not). -/
@[simp] def wrapNode (node : Node) (state : AgentState) : AgentState :=
  { state with
    nodeObservationLog := state.nodeObservationLog ++ [⟨node, state.agentRunId⟩]
    nodeTrace := if node = .replan then state.nodeTrace ++ [node] else state.nodeTrace }

def runNode (policy : PolicyConfig) (node : Node) (state : AgentState) (w : NodeInput) : NodeOutcome :=
  match w.raised with
  | some e => { result := .error e }
  | none =>
      let out := nodeFunction policy node state w
      { out with result := out.result.map (wrapNode node) }

/-- One executed node: the state it saw, what it did outside, and the state it
left, or none when it raised. -/
structure Execution where
  node : Node
  time : ℚ
  before : AgentState
  effect : Option Effect
  after : Option AgentState

inductive Next
  | node (n : Node)
  | finished
  | raised (e : String)
  deriving DecidableEq

structure Run where
  next : Next
  state : AgentState
  trace : List Execution

def start (state : AgentState) : Run := ⟨.node .riskDetection, state, []⟩

def outOfSteps : Next := .raised "Recursion limit reached without hitting a stop condition"

/-- What follows the execution number `count`. LangGraph looks at its limit before
it looks for work, so a run whose last node is the `limit`-th gives up as well. -/
def advance (limit count : Nat) (node : Node) (state : AgentState) : Next :=
  match successor node state with
  | some n => .node n
  | none => if limit ≤ count then outOfSteps else .finished

/-- LangGraph runs one node in a superstep here, and no more than `limit`. -/
def step (policy : PolicyConfig) (limit : Nat) (r : Run) (w : NodeInput) : Option Run :=
  match r.next with
  | .node n =>
      if limit ≤ r.trace.length then
        some { r with next := outOfSteps }
      else
        let out := runNode policy n r.state w
        match out.result with
        | .ok state =>
            some ⟨advance limit (r.trace.length + 1) n state, state,
              ⟨n, w.time, r.state, out.effect, some state⟩ :: r.trace⟩
        | .error e => some ⟨.raised e, r.state, ⟨n, w.time, r.state, out.effect, none⟩ :: r.trace⟩
  | _ => none

/-- The default of LangGraph, since `invoke` is called without a config. -/
def recursionLimit : Nat := 25

def drive (policy : PolicyConfig) (limit : Nat) (nodes : Nat → NodeInput) : Nat → Run → Run
  | 0, r => r
  | fuel + 1, r =>
      match step policy limit r (nodes r.trace.length) with
      | some r' => drive policy limit nodes fuel r'
      | none => r

/-- `graph.invoke`. Its last case does not arise, as `drive_settled` says. -/
def invoke (policy : PolicyConfig) (limit : Nat) (nodes : Nat → NodeInput) (state : AgentState) :
    Except String AgentState :=
  let r := drive policy limit nodes (limit + 1) (start state)
  match r.next with
  | .finished => .ok r.state
  | .raised e => .error e
  | .node _ => .error ""

@[simp] theorem outOfSteps_ne_node {n : Node} : outOfSteps ≠ .node n := by
  unfold outOfSteps
  exact Next.noConfusion

@[simp] theorem advance_eq_node {limit count : Nat} {node n : Node} {state : AgentState} :
    advance limit count node state = .node n ↔ successor node state = some n := by
  unfold advance outOfSteps
  cases successor node state with
  | some m => simp
  | none => by_cases h : limit ≤ count <;> simp [h]

end RevenueRescue.RecoveryGraph
