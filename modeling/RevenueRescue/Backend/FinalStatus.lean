import RevenueRescue.Agents.Escalation
import RevenueRescue.Agents.TraceIntegrity
import RevenueRescue.Backend.Restrictions
import RevenueRescue.Backend.Settlement

namespace RevenueRescue.FinalStatus

open Enums PolicySchema PolicyEngine Providers AgentSchemas NodeUtils DeterministicNodes LlmNodes
open RecoveryGraph GraphEffects PolicyGate RecoveryCycle StepBudget RunAccounting RunOutcome
open TraceIntegrity EscalationEnd Models RecoveryService Restrictions Machine

/-- The row and the events of a run that has been applied tell how the run ended. -/
structure Reported (r : Run) (w : Work) : Prop where
  recovered : w.case.status = .recovered ↔ Ends r .verified
  escalated : w.case.status = .escalated ↔ Ends r .escalated
  event : (∃ e ∈ w.events, e.eventType = .escalated) ↔ Ends r .escalated
  stopped : w.case.status = .stopped ↔ Ends r .denied ∨ Ends r .rejected

/-- The branch of `_apply_agent_result` that a final state takes. -/
inductive Branch (t : AgentState) : RecoveryCaseStatus → Prop
  | recovered {v : VerificationResult} (hr : t.caseIsRecovered = true)
      (hv : t.verificationResult = some v) : Branch t .recovered
  | escalated {reason : Reason} (hr : t.caseIsRecovered = false)
      (he : t.escalationReason.filter Reason.truthy = some reason) : Branch t .escalated
  | stopped (hr : t.caseIsRecovered = false) (he : t.escalationReason = none)
      (hs : t.caseIsStopped = true) : Branch t .stopped

def isEscalation : Stmt → Bool
  | .record a => decide (a.eventType = .escalated)
  | _ => false

/-- What the state holds for an ending in front of the completion node. -/
def Prepared (t : AgentState) : Ending → Prop
  | .verified => t.caseIsRecovered = true ∧ t.verificationResult.isSome = true
  | .escalated => t.caseIsRecovered = false ∧ t.escalationReason.any Reason.truthy = true
  | .denied | .rejected => t.caseIsRecovered = false ∧ t.escalationReason = none

/-- A denied run is the one whose reason is filled in by the completion node. -/
def Concluded (t : AgentState) : Ending → Prop
  | .verified => t.caseIsRecovered = true ∧ t.verificationResult.isSome = true
  | .escalated | .denied => t.caseIsRecovered = false ∧ t.escalationReason.any Reason.truthy = true
  | .rejected => t.caseIsRecovered = false ∧ t.escalationReason = none

structure Reasoned (r : Run) : Prop where
  truthy : ∀ result, r.state.policyResult = some result → result.reason.truthy = true
  unresolved : ∀ n, r.next = .node n → n ≠ .completion →
    r.state.escalationReason = none ∧ r.state.caseIsRecovered = false
  prepared : r.next = .node .completion → ∀ ending, Ends r ending → Prepared r.state ending
  concluded : r.next = .finished → ∀ ending, Ends r ending → Concluded r.state ending

variable {policy : PolicyConfig} {limit : Nat} {s t u : AgentState} {n m : Node} {w : NodeInput}
variable {effect : Option Effect} {r r' : Run} {args : InitialArgs} {ending : Ending}
variable {P : Run → NodeInput → Prop} {case : RecoveryCase} {run : AgentRun} {work : Work}
variable {status : RecoveryCaseStatus}

theorem nodeRiskDetection_reason (hr : s.caseIsRecovered = false) :
    (nodeRiskDetection s).escalationReason = s.escalationReason ∧
      (nodeRiskDetection s).caseIsRecovered = false := by
  simp only [nodeRiskDetection, hr, Bool.false_eq_true, if_false]
  split
  · exact ⟨rfl, hr⟩
  · split
    · exact ⟨rfl, hr⟩
    · exact ⟨rfl, hr⟩

theorem escalationReason_returned (hu : Returns policy s w n effect u)
    (hn : n ≠ .riskDetection ∧ n ≠ .escalation ∧ n ≠ .completion) :
    u.escalationReason = s.escalationReason := by
  cases hu <;> first | rfl | simp at hn

theorem caseIsRecovered_returned (hu : Returns policy s w n effect u) (hn : n ≠ .verification) :
    u.caseIsRecovered = s.caseIsRecovered := by
  cases hu <;> first | rfl | exact absurd rfl hn

theorem truthy_returned (h : ∀ result, s.policyResult = some result → result.reason.truthy = true)
    (hu : Returns policy s w n effect u) (hf : (nodeFunction policy n s w).result = .ok u) :
    ∀ result, u.policyResult = some result → result.reason.truthy = true := by
  by_cases hn : n = .policyCheck
  · subst hn
    intro result hresult
    simp only [nodeFunction, nodePolicyCheck] at hf
    cases hs : s.caseStrategy with
    | none => rw [hs] at hf; cases hf; cases hresult; rfl
    | some strat => rw [hs] at hf; cases hf; cases hresult; exact authorize_reason policy _
  · rw [policyResult_returned hu hn]
    exact h

/-- The nodes that do not lead to completion leave the case as it was. -/
theorem unresolved_returned (hs : s.escalationReason = none ∧ s.caseIsRecovered = false)
    (hu : Returns policy s w n effect u) (hf : (nodeFunction policy n s w).result = .ok u)
    (hm : successor n (wrapNode n u) = some m) (hmc : m ≠ .completion) :
    u.escalationReason = none ∧ u.caseIsRecovered = false := by
  by_cases hn : n = .riskDetection
  · subst hn
    cases hf
    exact hs.1 ▸ nodeRiskDetection_reason hs.2
  · have hne : n ≠ .riskDetection ∧ n ≠ .escalation ∧ n ≠ .completion := by
      refine ⟨hn, fun h => ?_, fun h => ?_⟩
      · subst h
        cases hm
        exact hmc rfl
      · subst h
        cases hm
    refine ⟨(escalationReason_returned hu hne).trans hs.1, ?_⟩
    by_cases hv : n = .verification
    · subst hv
      cases successor_edge hm with
      | recovered => exact absurd rfl hmc
      | again hr | exhausted hr => exact hr
    · exact (caseIsRecovered_returned hu hv).trans hs.2

theorem prepared_returned (hs : s.escalationReason = none ∧ s.caseIsRecovered = false)
    (hu : Returns policy s w n effect u) (hf : (nodeFunction policy n s w).result = .ok u)
    (ha : Adds n u ending) : Prepared u ending := by
  cases ending with
  | verified =>
      obtain ⟨rfl, hv⟩ := ha
      refine ⟨(verified_iff_recovered hf hs.2).mp hv, ?_⟩
      obtain ⟨v, hv, -⟩ := (Option.any_eq_true _ _).mp hv
      simp [hv]
  | denied =>
      obtain ⟨rfl, -⟩ := ha
      exact ⟨(caseIsRecovered_returned hu (by decide)).trans hs.2,
        (escalationReason_returned hu (by decide)).trans hs.1⟩
  | escalated =>
      obtain rfl : n = .escalation := ha
      cases hf
      exact ⟨hs.2, firstTruthy_truthy _ rfl⟩
  | rejected =>
      obtain ⟨rfl, -⟩ := ha
      cases hf
      obtain ⟨hreason, hr⟩ := nodeRiskDetection_reason hs.2
      exact ⟨hr, hreason.trans hs.1⟩

theorem nodeCompletion_other (h : s.policyResult.map (·.decision) ≠ some .denied ∨ s.caseIsRecovered = true) :
    nodeCompletion s = addTrace s .completion := by
  unfold nodeCompletion
  cases hp : s.policyResult with
  | none => rfl
  | some result =>
      have hn : ¬ (result.decision = .denied ∧ s.caseIsRecovered = false) := by
        rintro ⟨hd, hr⟩
        rcases h with h | h
        · exact h (by rw [hp, Option.map_some, hd])
        · rw [hr] at h
          cases h
      simp only [if_neg hn]

theorem nodeCompletion_denied {result : PolicyEvaluationResult} (hp : s.policyResult = some result)
    (hd : result.decision = .denied) (hr : s.caseIsRecovered = false) :
    (nodeCompletion s).escalationReason = some (firstTruthy [s.escalationReason] result.reason) ∧
      (nodeCompletion s).caseIsRecovered = false := by
  simp [nodeCompletion, hp, hd, hr]

theorem concluded_returned (ht : ∀ result, s.policyResult = some result → result.reason.truthy = true)
    (hd : ending = .denied ↔ s.policyResult.map (·.decision) = some .denied)
    (h : Prepared s ending) : Concluded (nodeCompletion s) ending := by
  cases ending with
  | verified =>
      rw [nodeCompletion_other (.inr h.1)]
      exact h
  | denied =>
      obtain ⟨result, hp, hden⟩ := Option.map_eq_some_iff.mp (hd.mp rfl)
      obtain ⟨hreason, hr⟩ := nodeCompletion_denied hp hden h.1
      refine ⟨hr, ?_⟩
      rw [hreason]
      exact firstTruthy_truthy _ (ht result hp)
  | escalated | rejected =>
      rw [nodeCompletion_other (.inl fun h => by cases hd.mpr h)]
      exact h

theorem reasoned_of_reach (hr : args.caseIsRecovered = false)
    (h : Reach (step policy limit) P (start (makeInitialState args)) r) : Reasoned r := by
  refine h.invariant (I := Reasoned) ⟨by simp [start, makeInitialState], fun _ _ _ => ⟨rfl, hr⟩, nofun, nofun⟩
    fun r w r' hreach hi _ hstep => ?_
  have hdecided := decided_of_reach rfl rfl rfl rfl hreach
  cases step_cases hstep with
  | gaveUp => exact ⟨hi.truthy, by simp, by simp [outOfSteps], by simp [outOfSteps]⟩
  | raised => exact ⟨hi.truthy, by simp, by simp, by simp⟩
  | @returned n u effect hn _ _ hu hf =>
      have htruthy := truthy_returned hi.truthy hu hf
      refine ⟨htruthy, fun m hm hmc => ?_, fun hm ending he => ?_, fun hm ending he => ?_⟩
      · have hsucc := advance_eq_node.mp hm
        have hnc : n ≠ .completion := by
          rintro rfl
          cases hsucc
        have hunresolved := unresolved_returned (hi.unresolved n hn hnc) hu hf hsucc hmc
        exact hunresolved
      · have hnc : n ≠ .completion := by
          rintro rfl
          cases edge_of_next hm
        have hadds := (ends_returned (hdecided.undecided n hn hnc) hu).mp he
        have hprepared := prepared_returned (hi.unresolved n hn hnc) hu hf hadds
        cases ending <;> exact hprepared
      · obtain rfl := advance_finished hm
        rw [ends_completed hu] at he
        cases hf
        obtain ⟨only, -, hunique⟩ := hdecided.decided (.inl hn)
        refine concluded_returned hi.truthy ⟨?_, fun hd => ?_⟩ (hi.prepared hn ending he)
        · rintro rfl
          exact he
        · exact (hunique ending he).trans (hunique .denied hd).symm

theorem branch_of_finished (hr : args.caseIsRecovered = false)
    (h : Reach (step policy limit) P (start (makeInitialState args)) r) (hf : r.next = .finished)
    (he : Ends r ending) : Branch r.state (match ending with
      | .verified => .recovered
      | .denied | .escalated => .escalated
      | .rejected => .stopped) := by
  have hconcluded := (reasoned_of_reach hr h).concluded hf ending he
  cases ending with
  | verified =>
      obtain ⟨v, hv⟩ := Option.isSome_iff_exists.mp hconcluded.2
      exact .recovered hconcluded.1 hv
  | denied | escalated =>
      obtain ⟨reason, hreason, htruthy⟩ := (Option.any_eq_true _ _).mp hconcluded.2
      exact .escalated hconcluded.1 (by rw [hreason, Option.filter_some, if_pos htruthy])
  | rejected => exact .stopped hconcluded.1 hconcluded.2 (stopped_of_finished rfl rfl h hf)

theorem settleStmts_of_branch (h : Branch t status) (caseId : Uuid) :
    ∃ front rest, settleStmts caseId t = front ++ .status status :: rest ∧
      (∀ x ∈ front, sound x = true) ∧ (∀ x, .status x ∉ front ++ rest) := by
  cases h with
  | @recovered v hr hv =>
      exact ⟨[.amountRecovered v.amountRecoveredPaise], [.record (revenueRecovered caseId v)],
        by simp [settleStmts, hr, hv], by simp [sound], by simp⟩
  | escalated hr he =>
      exact ⟨[], (settleStmts caseId t).drop 1, by simp [settleStmts, hr, he], by simp,
        by simp [settleStmts, hr, he]⟩
  | stopped hr he hs => exact ⟨[], [], by simp [settleStmts, hr, he, hs], by simp, by simp⟩

theorem opening_sound {x : Stmt} (hx : x ∈ openingStmts t) : sound x = true ∧ ∀ y, x ≠ .status y := by
  have hopening := isOpening_of_mem hx
  cases x with
  | status | amountRecovered | escalationReason | flush | record | recordGuarded => cases hopening
  | _ => exact ⟨rfl, by simp⟩

theorem applied_status (h : Branch t status)
    (hw : work ∈ (runStmts none (applyAgentResult case.id t) ⟨run, case, []⟩).work) :
    work.case.status = status := by
  obtain ⟨front, rest, hsettle, hsound, hnone⟩ := settleStmts_of_branch h case.id
  rw [runStmts_work hw]
  refine foldl_sets (f := fun w => w.case.status) (s := .status status) (fun x hx w => ?_) ?_
    (fun _ => rfl) _
  · rcases apply_status x w with hsame | hset
    · exact .inl hsame
    · have hmem : x ∈ applyAgentResult case.id t := (carriedOut_sublist _ _).subset hx
      rw [hset] at hmem ⊢
      simp only [applyAgentResult, hsettle, List.mem_append, List.mem_cons, List.not_mem_nil, or_false,
        Stmt.status.injEq, reduceCtorEq] at hmem
      right
      rcases hmem with ho | hf | he | hr
      · exact absurd rfl ((opening_sound ho).2 _)
      · exact absurd (List.mem_append_left rest hf) (hnone _)
      · exact he
      · exact absurd (List.mem_append_right front hr) (hnone _)
  · have hsplit : applyAgentResult case.id t = (openingStmts t ++ front) ++ .status status ::
        (rest ++ (applyAgentResult case.id t).drop ((openingStmts t).length + (settleStmts case.id t).length)) := by
      simp [applyAgentResult, hsettle]
    rw [hsplit]
    apply mem_carriedOut _ rfl (by simp)
    intro x hx
    rcases List.mem_append.mp hx with hx | hx
    · exact (opening_sound hx).1
    · exact hsound x hx

def escalatedArgs (caseId : Uuid) (reason : Reason) : AuditArgs where
  eventType := .escalated
  actor := .policyEngine
  recoveryCaseId := some caseId.str
  result := some "ESCALATED"
  reason := some reason

theorem escalated_of_event {x : Stmt} {e : AuditEvent} (h : Branch t status)
    (hx : x ∈ applyAgentResult case.id t) (he : eventOf x = some e) (hty : e.eventType = .escalated) :
    status = .escalated := by
  have hrec : isEscalation x = true ∨ ∃ a, x = .recordGuarded a := by
    cases x with
    | record a => exact .inl (by simp [isEscalation, ← (auditEvent_ok (toOption_eq_some he)).2.1, hty])
    | recordGuarded a => exact .inr ⟨a, rfl⟩
    | _ => cases he
  simp only [applyAgentResult, List.mem_append, List.mem_cons, List.not_mem_nil, or_false] at hx
  rcases hx with (ho | hs) | rfl | rfl
  · have hopening := isOpening_of_mem ho
    cases x <;> first | cases he | cases hopening
  · cases h with
    | recovered hr hv =>
        simp only [settleStmts, hr, hv, List.mem_cons, List.not_mem_nil, or_false] at hs
        rcases hs with rfl | rfl | rfl <;> simp [isEscalation, revenueRecovered] at hrec
    | escalated => rfl
    | stopped hr hreason hstop =>
        simp only [settleStmts, hr, hreason, hstop, Option.filter_none, if_true, List.mem_singleton] at hs
        subst hs
        cases he
  · cases he
  · have hcompleted := (auditEvent_ok (toOption_eq_some he)).2.1
    rw [hty] at hcompleted
    cases hcompleted

theorem escalated_written {reason : Reason} (hr : t.caseIsRecovered = false)
    (he : t.escalationReason.filter Reason.truthy = some reason) :
    .record (escalatedArgs case.id reason) ∈ carriedOut none (applyAgentResult case.id t) := by
  have hsplit : applyAgentResult case.id t =
      (openingStmts t ++ [.status .escalated, .escalationReason reason]) ++
        .record (escalatedArgs case.id reason) ::
          (applyAgentResult case.id t).drop ((openingStmts t).length + 3) := by
    simp [applyAgentResult, settleStmts, hr, he, escalatedArgs]
  have hevent := auditEvent_case (a := escalatedArgs case.id reason) case.id rfl rfl rfl
  rw [hsplit]
  apply mem_carriedOut _ _ (by simp)
  · intro x hx
    rcases List.mem_append.mp hx with hx | hx
    · exact (opening_sound hx).1
    · simp only [List.mem_cons, List.not_mem_nil, or_false] at hx
      rcases hx with rfl | rfl <;> rfl
  · simp only [sound, hevent]
    rfl

theorem applied_event (h : Branch t status)
    (hw : work ∈ (runStmts none (applyAgentResult case.id t) ⟨run, case, []⟩).work) :
    (∃ e ∈ work.events, e.eventType = .escalated) ↔ status = .escalated := by
  rw [runStmts_work hw, foldl_events]
  simp only [List.append_nil, List.mem_reverse, List.mem_filterMap]
  constructor
  · rintro ⟨e, ⟨x, hx, he⟩, hty⟩
    exact escalated_of_event h ((carriedOut_sublist _ _).subset hx) he hty
  · rintro rfl
    cases h with
    | @escalated reason hr hreason =>
        have hevent := auditEvent_case (a := escalatedArgs case.id reason) case.id rfl rfl rfl
        exact ⟨_, ⟨_, escalated_written hr hreason, congrArg Except.toOption hevent⟩, rfl⟩

/-- The status matches the end of the run exactly when the run did not end with a denial. -/
theorem status_reported_iff (hr : args.caseIsRecovered = false)
    (h : Reach (step policy limit) Any (start (makeInitialState args)) r) (hf : r.next = .finished)
    (hw : work ∈ (runStmts none (applyAgentResult case.id r.state) ⟨run, case, []⟩).work) :
    Reported r work ↔ r.state.policyResult.map (·.decision) ≠ some .denied := by
  obtain ⟨ending, he, hunique⟩ := (decided_of_reach rfl rfl rfl rfl h).decided (.inr hf)
  have honly (other : Ending) : Ends r other ↔ other = ending :=
    ⟨hunique other, fun ho => ho ▸ he⟩
  have hbranch := branch_of_finished hr h hf he
  have hstatus := applied_status hbranch hw
  have hevent := applied_event hbranch hw
  have hdenied : r.state.policyResult.map (·.decision) = some .denied ↔ Ending.denied = ending :=
    honly .denied
  rw [Ne, hdenied]
  constructor
  · rintro hrep rfl
    have hwrong := (honly .escalated).mp (hrep.escalated.mp hstatus)
    cases hwrong
  · intro hne
    constructor <;> simp only [hstatus, hevent, honly] <;> cases ending <;> simp_all

/-- A checkout message is proposed before the checkout timeout, and denied. -/
def deniedRun : Run :=
  (exec (step samplePolicy recursionLimit) (start (initialState sampleCase sampleAgentRun.id))
    (sampleCycle .checkoutRecovery {})).getD (start sampleState)

theorem deniedRun_reach : Reach (step samplePolicy recursionLimit) Any
    (start (initialState sampleCase sampleAgentRun.id)) deniedRun :=
  reach_of_exec (sampleCycle .checkoutRecovery {}) rfl

def deniedWork : Work :=
  (runStmts none (applyAgentResult sampleCase.id deniedRun.state) ⟨sampleAgentRun, sampleCase, []⟩).work.getD
    ⟨sampleAgentRun, sampleCase, []⟩

theorem deniedWork_eq : (runStmts none (applyAgentResult sampleCase.id deniedRun.state)
    ⟨sampleAgentRun, sampleCase, []⟩).work = some deniedWork := by
  have hsome : (runStmts none (applyAgentResult sampleCase.id deniedRun.state)
      ⟨sampleAgentRun, sampleCase, []⟩).work.isSome = true := by decide +kernel
  obtain ⟨work, hwork⟩ := Option.isSome_iff_exists.mp hsome
  rw [deniedWork, hwork, Option.getD_some]

theorem status_reported_iff_sample :
    Reported deniedRun deniedWork ↔ deniedRun.state.policyResult.map (·.decision) ≠ some .denied :=
  status_reported_iff rfl deniedRun_reach rfl deniedWork_eq

theorem denial_escalated : ¬ ∀ policy args r case run work, args.caseIsRecovered = false →
    Reach (step policy recursionLimit) Any (start (makeInitialState args)) r → r.next = .finished →
    work ∈ (runStmts none (applyAgentResult case.id r.state) ⟨run, case, []⟩).work → Reported r work := by
  intro h
  have hreported := h samplePolicy _ deniedRun sampleCase sampleAgentRun deniedWork rfl deniedRun_reach rfl
    deniedWork_eq
  have hescalated : Node.escalation ∈ deniedRun.state.nodeTrace :=
    hreported.escalated.mp (by decide +kernel)
  exact absurd hescalated (by decide +kernel)

end RevenueRescue.FinalStatus
