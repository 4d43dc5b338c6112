import Mathlib.Data.List.Chain
import RevenueRescue.Agents.Accounting
import RevenueRescue.Agents.Outcome

namespace RevenueRescue.TraceIntegrity

open Enums PolicySchema PolicyEngine Providers AgentSchemas NodeUtils DeterministicNodes LlmNodes
open RecoveryGraph GraphEffects PolicyGate RecoveryCycle StepBudget RunAccounting RunOutcome Machine

/-- The compiled graph: its plain edges, and the targets of its routing functions. -/
def edges : Node → List Node
  | .riskDetection => [.completion, .contextBuilder]
  | .contextBuilder => [.diagnosis]
  | .diagnosis => [.strategy]
  | .strategy => [.policyCheck]
  | .policyCheck => [.actionExecution, .escalation, .completion]
  | .actionExecution => [.observation]
  | .observation => [.verification]
  | .verification => [.completion, .replan, .escalation]
  | .replan => [.strategy]
  | .escalation => [.completion]
  | .completion => []

/-- A path of the compiled graph from its entry point. -/
structure IsPath (nodes : List Node) : Prop where
  entry : nodes.head? = some .riskDetection
  chain : nodes.IsChain fun n m => m ∈ edges n

/-- The two records of a run, which the nodes and their wrapper write. -/
structure Traced (r : Run) : Prop where
  trace : r.state.nodeTrace = r.trace.reverse.map (·.node)
  log : r.state.nodeObservationLog.map (·.nodeName) = r.state.nodeTrace

def PathSoFar (r : Run) : Prop :=
  (∀ n, r.next = .node n → IsPath (r.state.nodeTrace ++ [n])) ∧
    (r.next = .finished → IsPath r.state.nodeTrace ∧ r.state.nodeTrace.getLast? = some .completion)

inductive Ending
  | verified
  | denied
  | escalated
  | rejected
  deriving DecidableEq

def Verifies (e : Execution) : Prop :=
  e.node = .verification ∧ ∃ t ∈ e.after, t.verificationResult.any (·.verified) = true

def Rejects (e : Execution) : Prop :=
  e.node = .riskDetection ∧ ∃ t ∈ e.after, t.caseIsStopped = true

/-- How a run came to its end. The state keeps the last policy decision. -/
def Ends (r : Run) : Ending → Prop
  | .verified => ∃ e ∈ r.trace, Verifies e
  | .denied => r.state.policyResult.map (·.decision) = some .denied
  | .escalated => .escalation ∈ r.state.nodeTrace
  | .rejected => ∃ e ∈ r.trace, Rejects e

/-- What a node that returns adds to the end of its run. -/
def Adds (n : Node) (u : AgentState) : Ending → Prop
  | .verified => n = .verification ∧ u.verificationResult.any (·.verified) = true
  | .denied => n = .policyCheck ∧ u.policyResult.map (·.decision) = some .denied
  | .escalated => n = .escalation
  | .rejected => n = .riskDetection ∧ u.caseIsStopped = true

def Undecided (r : Run) : Prop := ∀ ending, ¬ Ends r ending

variable {policy : PolicyConfig} {limit : Nat} {s t u : AgentState} {n m : Node} {w : NodeInput}
variable {effect : Option Effect} {r r' : Run} {args : InitialArgs} {ending : Ending}
variable {P : Run → NodeInput → Prop}

theorem successor_mem (h : successor n t = some m) : m ∈ edges n := by
  cases successor_edge h <;> simp [edges]

theorem wrapNode_nodeTrace (hu : Returns policy s w n effect u) :
    (wrapNode n u).nodeTrace = s.nodeTrace ++ [n] := by
  cases hu <;> rfl

theorem wrapNode_nodeObservationLog (hu : Returns policy s w n effect u) :
    (wrapNode n u).nodeObservationLog.map (·.nodeName) =
      s.nodeObservationLog.map (·.nodeName) ++ [n] := by
  cases hu <;> simp [recordRetry, incrementReplan]

theorem traced_of_reach (hs : s.nodeTrace = []) (hl : s.nodeObservationLog = [])
    (h : Reach (step policy limit) P (start s) r) (hr : ∀ e, r.next ≠ .raised e) : Traced r := by
  refine h.invariant (I := fun r => (∀ e, r.next ≠ .raised e) → Traced r)
    (fun _ => ⟨hs, by rw [show (start s).state = s from rfl, hs, hl, List.map_nil]⟩)
    (fun r w r' _ hi _ hstep => ?_) hr
  cases step_cases hstep with
  | gaveUp | raised => exact fun h => absurd rfl (h _)
  | returned hn _ _ hu =>
      intro _
      have htraced := hi (by simp [hn])
      constructor
      · rw [wrapNode_nodeTrace hu, htraced.trace, List.reverse_cons, List.map_append]
        rfl
      · rw [wrapNode_nodeTrace hu, wrapNode_nodeObservationLog hu, htraced.log]

theorem IsPath.snoc {nodes : List Node} (h : IsPath (nodes ++ [n])) (hm : m ∈ edges n) :
    IsPath (nodes ++ [n] ++ [m]) := by
  constructor
  · rw [List.head?_append, h.entry]
    rfl
  · apply h.chain.append (List.isChain_singleton m)
    intro a ha b hb
    simp only [List.getLast?_concat, List.head?_cons, Option.mem_some_iff] at ha hb
    subst ha hb
    exact hm

theorem path_of_reach (hs : s.nodeTrace = []) (h : Reach (step policy limit) P (start s) r) :
    PathSoFar r := by
  refine h.invariant (I := PathSoFar) ?_ fun r w r' _ hi _ hstep => ?_
  · refine ⟨fun n hn => ?_, by simp [start]⟩
    obtain rfl : Node.riskDetection = n := by simpa [start] using hn
    rw [show (start s).state.nodeTrace = [] from hs]
    exact ⟨rfl, List.isChain_singleton _⟩
  · cases step_cases hstep with
    | gaveUp => exact ⟨by simp, by simp [outOfSteps]⟩
    | raised => exact ⟨by simp, by simp⟩
    | returned hn _ _ hu =>
        have hpath := hi.1 _ hn
        refine ⟨fun m hm => ?_, fun hk => ?_⟩
        · have hedge := successor_mem (advance_eq_node.mp hm)
          simp only [wrapNode_nodeTrace hu]
          exact hpath.snoc hedge
        · obtain rfl := advance_finished hk
          simp only [wrapNode_nodeTrace hu]
          exact ⟨hpath, by simp⟩

theorem verified_iff_recovered {answer : Except String PaymentResult} {now : ℚ}
    (h : (nodeVerification s answer now).result = .ok u) (hs : s.caseIsRecovered = false) :
    u.verificationResult.any (·.verified) = true ↔ u.caseIsRecovered = true := by
  unfold nodeVerification at h
  cases he : s.executionResult with
  | none => rw [he] at h; cases h; simp [hs]
  | some result =>
      cases result with
      | blocked | checkoutRecovery | communication | noEffect =>
          rw [he] at h; cases h; simp [hs]
      | paymentRetry attempt tx outcome reason amount =>
          simp only [he] at h
          by_cases htx : tx = ""
          · rw [if_pos htx] at h; cases h; simp [hs]
          · rw [if_neg htx] at h
            cases answer with
            | error e => cases h
            | ok payment =>
                by_cases hp : payment.status = .success <;>
                  · simp only [Except.map, hp, if_true, if_false] at h
                    cases h
                    simp [paymentVerdict, hp, hs]

theorem policyResult_returned (hu : Returns policy s w n effect u) (hn : n ≠ .policyCheck) :
    u.policyResult = s.policyResult := by
  cases hu <;> first | rfl | exact absurd rfl hn

theorem not_denied_of_route (h : routeAfterPolicyCheck t = .escalation) :
    t.policyResult.map (·.decision) ≠ some .denied := by
  intro hd
  simp only [routeAfterPolicyCheck, hd] at h
  cases h

theorem ends_returned (hopen : Undecided r) (hu : Returns policy r.state w n effect u) {next : Next}
    {time : ℚ} : Ends ⟨next, wrapNode n u, ⟨n, time, r.state, effect, some (wrapNode n u)⟩ :: r.trace⟩
      ending ↔ Adds n u ending := by
  have hold := hopen ending
  cases ending with
  | verified =>
      simp only [Ends, List.exists_mem_cons_iff] at hold ⊢
      rw [or_iff_left hold]
      simp [Verifies, Adds]
  | denied =>
      by_cases hn : n = .policyCheck
      · simp [Ends, Adds, hn]
      · simpa [Ends, Adds, hn, policyResult_returned hu hn] using hold
  | escalated =>
      change Node.escalation ∈ (wrapNode n u).nodeTrace ↔ n = .escalation
      have hold : Node.escalation ∉ r.state.nodeTrace := hold
      rw [wrapNode_nodeTrace hu, List.mem_append, or_iff_right hold, List.mem_singleton, eq_comm]
  | rejected =>
      simp only [Ends, List.exists_mem_cons_iff] at hold ⊢
      rw [or_iff_left hold]
      simp [Rejects, Adds]

/-- The completion node does not change how the run has ended. -/
theorem ends_completed (hu : Returns policy r.state w .completion effect u) {next : Next} {time : ℚ} :
    Ends ⟨next, wrapNode .completion u,
      ⟨.completion, time, r.state, effect, some (wrapNode .completion u)⟩ :: r.trace⟩ ending ↔
      Ends r ending := by
  cases ending with
  | verified => simp [Ends, Verifies]
  | denied => simp [Ends, policyResult_returned hu]
  | escalated =>
      change Node.escalation ∈ (wrapNode .completion u).nodeTrace ↔ _
      rw [wrapNode_nodeTrace hu]
      simp [Ends]
  | rejected => simp [Ends, Rejects]

theorem adds_none (h : n = .contextBuilder ∨ n = .diagnosis ∨ n = .strategy ∨ n = .actionExecution ∨
    n = .observation ∨ n = .replan) : ¬ Adds n u ending := by
  rcases h with rfl | rfl | rfl | rfl | rfl | rfl <;> cases ending <;> simp [Adds]

theorem adds_policyCheck (h : u.policyResult.map (·.decision) ≠ some .denied) :
    ¬ Adds .policyCheck u ending := by
  cases ending with
  | denied => exact fun ha => h ha.2
  | verified | escalated | rejected => simp [Adds]

theorem adds_unique (ending : Ending) (h : Adds n u ending) : ∃! ending, Adds n u ending := by
  refine ⟨ending, h, fun other hother => ?_⟩
  cases ending <;> cases other <;> simp_all [Adds]

/-- Only the nodes in front of `completion` decide how a run ends. -/
theorem adds_edge (hh : Halting s n) (hu : Returns policy s w n effect u)
    (hf : (nodeFunction policy n s w).result = .ok u) (hm : successor n (wrapNode n u) = some m) :
    (m ≠ .completion → ∀ ending, ¬ Adds n u ending) ∧
      (m = .completion → ∃! ending, Adds n u ending) := by
  cases successor_edge hm with
  | rejected hstop =>
      refine ⟨fun h => absurd rfl h, fun _ => adds_unique .rejected ⟨rfl, ?_⟩⟩
      cases hu with
      | riskStopped => rfl
      | riskPassed => simp [hh.fresh rfl] at hstop
  | accepted hstop =>
      refine ⟨fun _ ending => ?_, by simp⟩
      cases ending <;> simp_all [Adds]
  | approved hd =>
      exact ⟨fun _ ending => adds_policyCheck fun h => absurd (hd.symm.trans h) (by decide), by simp⟩
  | referred hd =>
      have hroute := not_denied_of_route (Option.some.inj hm)
      exact ⟨fun _ ending => adds_policyCheck hroute, by simp⟩
  | refused hd =>
      refine ⟨fun h => absurd rfl h, fun _ => adds_unique .denied ⟨rfl, ?_⟩⟩
      cases hu with
      | policyMissing _ result hes => simp [hes] at hd
      | policyDecided => simpa using hd
  | recovered hr =>
      have hs : s.caseIsRecovered = false := hh.unresolved (by decide) (by decide)
      refine ⟨fun h => absurd rfl h, fun _ => adds_unique .verified ⟨rfl, ?_⟩⟩
      exact (verified_iff_recovered hf hs).mpr hr
  | again hr | exhausted hr =>
      have hs : s.caseIsRecovered = false := hh.unresolved (by decide) (by decide)
      have hv := (verified_iff_recovered hf hs).not.mpr (by simpa using hr)
      refine ⟨fun _ ending => ?_, by simp⟩
      cases ending <;> simp_all [Adds]
  | escalation => exact ⟨fun h => absurd rfl h, fun _ => adds_unique .escalated rfl⟩
  | contextBuilder | diagnosis | strategy | actionExecution | observation | replan =>
      exact ⟨fun _ ending => adds_none (by simp), by simp⟩

/-- A run has no ending before it comes to `completion`, and one from there on. -/
structure Decided (r : Run) : Prop where
  undecided : ∀ n, r.next = .node n → n ≠ .completion → Undecided r
  decided : r.next = .node .completion ∨ r.next = .finished → ∃! ending, Ends r ending

theorem decided_start (hs : s.nodeTrace = []) (hp : s.policyResult = none) : Decided (start s) := by
  refine ⟨fun n _ _ ending => ?_, by simp [start]⟩
  cases ending <;> simp [Ends, start, hs, hp]

theorem decided_of_reach (he : s.error = none) (hs : s.caseIsStopped = false) (ht : s.nodeTrace = [])
    (hp : s.policyResult = none) (h : Reach (step policy limit) P (start s) r) : Decided r := by
  refine h.invariant (I := Decided) (decided_start ht hp) fun r w r' hr hi _ hstep => ?_
  cases step_cases hstep with
  | gaveUp => exact ⟨by simp, by simp [outOfSteps]⟩
  | raised => exact ⟨by simp, by simp⟩
  | @returned n u effect hn _ _ hu hf =>
      have hhalting := (halting_of_reach he hs hr).1 n hn
      by_cases hc : n = .completion
      · subst hc
        refine ⟨fun m hm => ?_, fun _ => ?_⟩
        · cases edge_of_next hm
        · simpa only [ends_completed hu] using hi.decided (.inl hn)
      · have hopen := hi.undecided n hn hc
        refine ⟨fun m hm hmc ending => ?_, fun hnext => ?_⟩
        · rw [ends_returned hopen hu]
          exact (adds_edge hhalting hu hf (advance_eq_node.mp hm)).1 hmc ending
        · simp only [ends_returned hopen hu]
          rcases hnext with hm | hm
          · exact (adds_edge hhalting hu hf (advance_eq_node.mp hm)).2 rfl
          · exact absurd (advance_finished hm) hc

/-- Terminal states and trace integrity. -/
theorem run_ends (h : Reach (step policy limit) Any (start (makeInitialState args)) r)
    (hf : r.next = .finished) :
    r.state.caseIsStopped = true ∧
    (IsPath r.state.nodeTrace ∧ r.state.nodeTrace.getLast? = some .completion) ∧
    (r.state.nodeTrace = r.state.nodeObservationLog.map (·.nodeName) ∧
      r.state.nodeTrace = r.trace.reverse.map (·.node)) ∧
    ∃! ending, Ends r ending := by
  have htraced := traced_of_reach rfl rfl h (by simp [hf])
  exact ⟨stopped_of_finished rfl rfl h hf, (path_of_reach rfl h).2 hf,
    ⟨htraced.log.symm, htraced.trace⟩, (decided_of_reach rfl rfl rfl rfl h).decided (.inr hf)⟩

theorem run_ends_sample :
    repaidRun.state.caseIsStopped = true ∧
    (IsPath repaidRun.state.nodeTrace ∧ repaidRun.state.nodeTrace.getLast? = some .completion) ∧
    (repaidRun.state.nodeTrace = repaidRun.state.nodeObservationLog.map (·.nodeName) ∧
      repaidRun.state.nodeTrace = repaidRun.trace.reverse.map (·.node)) ∧
    ∃! ending, Ends repaidRun ending :=
  run_ends repaidRun_reach rfl

end RevenueRescue.TraceIntegrity
