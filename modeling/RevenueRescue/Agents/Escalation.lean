import RevenueRescue.Agents.Budget
import RevenueRescue.Agents.Outcome

namespace RevenueRescue.EscalationEnd

open Enums PolicySchema PolicyEngine Providers AgentSchemas NodeUtils DeterministicNodes
open LlmNodes RecoveryGraph GraphEffects PolicyGate RecoveryCycle PendingOutcome RunOutcome StepBudget Machine

/-- After a proposal: nothing more happens to the customer, and the run ends in
order, with a reason for the escalation, unless a node is made to raise. -/
def EndsEscalated (policy : PolicyConfig) (r : Run) : Prop :=
  (∀ r', Reach (step policy recursionLimit) Any r r' → calls acts r'.trace = calls acts r.trace) ∧
    ∀ r', Reach (step policy recursionLimit) (fun _ w => w.raised = none) r r' →
      (∀ n, r'.next ≠ .node n) →
        r'.next = .finished ∧ r'.state.escalationReason.any Reason.truthy = true

def general (s : AgentState) : Standing :=
  { standing s with retryCount := 0, communicationCount := 0, checkoutRecoveryMessageCount := 0 }

def isUncapped (strategy : RecoveryStrategy) : Bool :=
  decide (strategy ∈ [RecoveryStrategy.escalate, .promiseToPay, .paymentMethodUpdate])

variable {policy : PolicyConfig} {limit : Nat} {args : InitialArgs} {r r' : Run} {w : NodeInput}
variable {s t u : AgentState} {n m : Node} {effect : Option Effect} {trace : List Execution}

theorem permits_uncapped {strat strat' : StrategyOutput} (h : Permits policy (policyContext s strat))
    (hg : general t = general s) (hx : isUncapped strat'.recoveryStrategy = true) :
    Permits policy (policyContext t strat') := by
  have hin : inputs t = inputs s := congrArg Standing.inputs hg
  simp only [inputs, Inputs.mk.injEq] at hin
  obtain ⟨-, -, -, hreason, hamount, -, -, -, hopted, hsuspended, hpaid, -, -, -⟩ := hin
  have hrec : t.caseIsRecovered = s.caseIsRecovered := congrArg Standing.caseIsRecovered hg
  have hdiag : t.caseDiagnosis = s.caseDiagnosis := congrArg Standing.caseDiagnosis hg
  have hretry : isRetry (strategyToActionType strat'.recoveryStrategy) = false := by
    generalize strat'.recoveryStrategy = strategy at hx
    cases strategy <;> first | rfl | cases hx
  have hcapped : isCapped (strategyToActionType strat'.recoveryStrategy) = false := by
    generalize strat'.recoveryStrategy = strategy at hx
    cases strategy <;> first | rfl | cases hx
  have hcheckout : strategyToActionType strat'.recoveryStrategy ≠ .sendCheckoutRecovery := by
    generalize strat'.recoveryStrategy = strategy at hx
    cases strategy <;> first | decide | cases hx
  constructor
  · exact hrec.trans h.notRecovered
  · exact (congrArg _ hpaid).trans h.notPaid
  · exact (congrArg _ hopted).trans h.notOptedOut
  · exact (congrArg _ hsuspended).trans h.notSuspended
  · exact hamount.le.trans h.amount_le
  · exact h.amount_pos.trans_eq hamount.symm
  · intro hr
    exact absurd (hretry.symm.trans hr) (by decide)
  · intro hc
    exact absurd (hcapped.symm.trans hc) (by decide)
  · intro hc
    exact absurd hc hcheckout
  · intro hr
    exact absurd (hretry.symm.trans hr) (by decide)
  · intro hknown
    exact h.known ⟨hreason.symm.trans hknown.1, hknown.2⟩
  · simp only [policyContext, hdiag]
    exact h.confident

theorem general_returns (hu : Returns policy s w n effect u) (hn : isOpening n = false)
    (hr : u.caseIsRecovered = s.caseIsRecovered) : general u = general s := by
  cases hu with
  | riskStopped | riskPassed | contextBuilder | diagnosis => cases hn
  | recovered =>
      have hr : true = s.caseIsRecovered := hr
      simp only [general, standing, inputs, addTrace, ← hr]
  | _ => rfl

def isApproved (n : Node) : Bool := decide (n ∈ [Node.actionExecution, .observation, .verification, .replan])

/-- After the first approval of a run, an escalation would be approved as well. -/
def Admitted (policy : PolicyConfig) (s : AgentState) (n : Node) : Prop :=
  isRegular n = true → 0 < s.replanCount ∨ isApproved n = true →
    Permits policy (policyContext s (proposal .escalate))

theorem admitted_edge (hp : Placed trace.length s n) (h : Admitted policy s n) (hu : Returns policy s w n effect u)
    (he : Edge (wrapNode n u) n m) : Admitted policy (wrapNode n u) m := by
  have hkeep (hn : isOpening n = false) (hr : u.caseIsRecovered = s.caseIsRecovered)
      (hs : Permits policy (policyContext s (proposal .escalate))) :
      Permits policy (policyContext u (proposal .escalate)) :=
    permits_uncapped hs (general_returns hu hn hr) rfl
  intro hm hpast
  cases he with
  | rejected | refused | referred | recovered | exhausted | escalation => cases hm
  | accepted | contextBuilder | diagnosis =>
      have hzero : u.replanCount = 0 := (replanCount_returns hu (by decide)).trans (hp.opening rfl)
      rcases hpast with hpast | hpast
      · exact absurd hzero (Int.ne_of_gt hpast)
      · cases hpast
  | strategy =>
      have hsame : u.replanCount = s.replanCount := replanCount_returns hu (by decide)
      rcases hpast with hpast | hpast
      · exact hkeep rfl (by cases hu; rfl) (h rfl (.inl (hsame ▸ hpast)))
      · cases hpast
  | approved hd =>
      cases hu with
      | policyMissing _ result hr => simp [hr] at hd
      | policyDecided hs =>
          have happroved : (authorize policy (policyContext s _)).decision = .approved := Option.some.inj hd
          exact permits_uncapped ((authorize_approved_iff policy _).mp happroved) rfl rfl
  | again hf =>
      refine hkeep rfl ?_ (h rfl (.inr rfl))
      cases hu with
      | recovered => cases hf
      | unverified | unpaid => rfl
  | actionExecution | observation | replan =>
      refine hkeep rfl ?_ (h rfl (.inr rfl))
      cases hu <;> rfl

theorem admitted_of_reach (h : Reach (step policy limit) Any (start (makeInitialState args)) r)
    (hn : r.next = .node n) : Admitted policy r.state n := by
  refine h.invariant (I := fun r => ∀ n, r.next = .node n → Admitted policy r.state n) ?_ ?_ n hn
  · intro n hn _ hpast
    cases hn
    rcases hpast with hpast | hpast <;> cases hpast
  · intro r w r' hr hi _ hs m hm
    cases step_cases hs with
    | gaveUp | raised => cases hm
    | returned hn _ _ hu => exact admitted_edge (placed_of_reach hr hn).1 (hi _ hn) hu (edge_of_advance hm)

theorem authorize_reason (policy : PolicyConfig) (ctx : AuthorizationContext) :
    (authorize policy ctx).reason.truthy = true := by
  have rule {fires : Prop} [Decidable fires] {a b : PolicyEvaluationResult} (ha : a.reason.truthy = true)
      (hb : b.reason.truthy = true) : (if fires then a else b).reason.truthy = true := by
    split
    · exact ha
    · exact hb
  unfold authorize runPipeline
  repeat refine rule rfl ?_
  rfl

/-- Every decision of the engine states a reason, however its numbers are printed. -/
theorem authorize_states (fmt : FloatFormat) (policy : PolicyConfig) (ctx : AuthorizationContext) :
    (authorize policy ctx).reason.toText fmt ≠ "" :=
  (Reason.truthy_iff fmt _).mp (authorize_reason policy ctx)

theorem firstTruthy_truthy (reasons : List (Option Reason)) {default : Reason} (h : default.truthy = true) :
    (firstTruthy reasons default).truthy = true := by
  unfold firstTruthy
  cases hf : (reasons.filterMap id).find? Reason.truthy with
  | none => exact h
  | some reason => exact List.find?_some hf

def Refusing (r : Run) : Prop :=
  (r.next = .node .escalation ∧ r.trace.length ≤ 5) ∨
    (r.next = .node .completion ∧ r.trace.length ≤ 6 ∧ (r.state.escalationReason.any Reason.truthy = true ∨
      r.state.caseIsRecovered = false ∧ ∃ result, r.state.policyResult = some result ∧
        result.decision = .denied ∧ result.reason.truthy = true)) ∨
    (r.next = .finished ∧ r.state.escalationReason.any Reason.truthy = true)

theorem refusing_step (hi : Refusing r) (hw : w.raised = none) (h : step policy recursionLimit r w = some r') :
    Refusing r' := by
  rcases hi with ⟨hn, hlen⟩ | ⟨hn, hlen, hreason⟩ | ⟨hn, -⟩
  · have hu : (nodeFunction policy .escalation r.state w).result = .ok (nodeEscalation r.state) := rfl
    rw [step_returns hn (Nat.lt_of_le_of_lt hlen (by decide)) hw hu] at h
    cases h
    refine .inr (.inl ⟨rfl, Nat.succ_le_succ hlen, .inl ?_⟩)
    exact firstTruthy_truthy _ (by decide)
  · have hu : (nodeFunction policy .completion r.state w).result = .ok (nodeCompletion r.state) := rfl
    have hlt : r.trace.length + 1 < recursionLimit := Nat.lt_of_le_of_lt (Nat.succ_le_succ hlen) (by decide)
    rw [step_returns hn (Nat.lt_of_succ_lt hlt) hw hu] at h
    cases h
    refine .inr (.inr ⟨?_, ?_⟩)
    · simp only [advance, successor]
      rw [if_neg (not_le.mpr hlt)]
    · unfold nodeCompletion
      cases hp : r.state.policyResult with
      | none =>
          rcases hreason with hreason | ⟨-, result, hresult, -⟩
          · exact hreason
          · rw [hp] at hresult
            cases hresult
      | some result =>
          by_cases hd : result.decision = .denied ∧ r.state.caseIsRecovered = false
          · simp only [if_pos hd]
            rcases hreason with hreason | ⟨-, result', hresult, -, htruthy⟩
            · obtain ⟨reason, hr, htruthy⟩ := (Option.any_eq_true _ _).mp hreason
              simp [wrapNode, firstTruthy, hr, htruthy]
            · obtain rfl := Option.some.inj (hp.symm.trans hresult)
              exact firstTruthy_truthy _ htruthy
          · simp only [if_neg hd]
            rcases hreason with hreason | ⟨hr, result', hresult, hdenied, -⟩
            · exact hreason
            · obtain rfl := Option.some.inj (hp.symm.trans hresult)
              exact absurd ⟨hdenied, hr⟩ hd
  · rw [step_stopped (by simp [hn])] at h
    cases h

theorem refusing_of_step {strat : StrategyOutput} (hi : Placed r.trace.length r.state .policyCheck)
    (hzero : r.state.replanCount = 0) (hn : r.next = .node .policyCheck) (hs : r.state.caseStrategy = some strat)
    (hd : (authorize policy (policyContext r.state strat)).decision ≠ .approved)
    (hrec : (authorize policy (policyContext r.state strat)).decision = .denied → r.state.caseIsRecovered = false)
    (hw : w.raised = none) (h : step policy recursionLimit r w = some r') : Refusing r' := by
  have hlen : (r.trace.length : Int) = 4 := by
    have := hi.regular rfl
    rw [hzero] at this
    exact this
  have hlen : r.trace.length = 4 := by exact_mod_cast hlen
  have hu : (nodeFunction policy .policyCheck r.state w).result = .ok { addTrace r.state .policyCheck with
      policyResult := some (authorize policy (policyContext r.state strat)) } := by
    simp only [nodeFunction, nodePolicyCheck, hs]
  rw [step_returns hn (by rw [hlen]; decide) hw hu] at h
  cases h
  cases hdec : (authorize policy (policyContext r.state strat)).decision with
  | approved => exact absurd hdec hd
  | denied =>
      refine .inr (.inl ⟨?_, ?_, .inr ⟨hrec hdec, _, rfl, hdec, authorize_reason policy _⟩⟩)
      · simp [advance, successor, routeAfterPolicyCheck, hdec]
      · simp [hlen]
  | escalate | stop =>
      refine .inl ⟨?_, ?_⟩
      · simp [advance, successor, routeAfterPolicyCheck, hdec]
      · simp [hlen]

theorem notRecovered_of_denied {ctx : AuthorizationContext} (h : (authorize policy ctx).decision = .denied) :
    ctx.caseIsRecovered = false := by
  by_contra hr
  simp only [Bool.not_eq_false] at hr
  simp [authorize, runPipeline, hr, stop, reject] at h

theorem closing_of_refused {strat : StrategyOutput} (hn : r.next = .node .policyCheck)
    (hs : r.state.caseStrategy = some strat)
    (hd : (authorize policy (policyContext r.state strat)).decision ≠ .approved)
    (h : step policy limit r w = some r') : Closing r' ∧ calls acts r'.trace = calls acts r.trace := by
  have hnot {n : Node} (hn' : r.next = .node n) : n = .policyCheck := Next.node.inj (hn'.symm.trans hn)
  cases step_cases h with
  | gaveUp => exact ⟨by simp [Closing], rfl⟩
  | @raised n e effect hn' _ hsrc =>
      obtain rfl := hnot hn'
      refine ⟨by simp [Closing], ?_⟩
      cases effect with
      | none => simp
      | some x =>
          cases hsrc x rfl
          simp [acts, isPayment, isMessage]
  | returned hn' _ _ hu =>
      obtain rfl := hnot hn'
      cases hu with
      | policyMissing hnone =>
          rw [hnone] at hs
          cases hs
      | policyDecided hs' =>
          obtain rfl := Option.some.inj (hs.symm.trans hs')
          refine ⟨fun m hm => ?_, by simp [acts, isPayment, isMessage]⟩
          cases edge_of_next hm with
          | approved ha => exact absurd (Option.some.inj ha) hd
          | referred => exact .inl rfl
          | refused => exact .inr rfl

theorem endsEscalated_of_refused {strat : StrategyOutput}
    (h : Reach (step policy recursionLimit) Any (start (makeInitialState args)) r)
    (hn : r.next = .node .policyCheck) (hs : r.state.caseStrategy = some strat)
    (hx : isUncapped strat.recoveryStrategy = true)
    (hd : (authorize policy (policyContext r.state strat)).decision ≠ .approved) : EndsEscalated policy r := by
  have hplaced : Placed r.trace.length r.state .policyCheck := (placed_of_reach h hn).1
  have hzero : r.state.replanCount = 0 := by
    by_contra hne
    have hpos : 0 < r.state.replanCount := by have := hplaced.count; omega
    have hadmitted := admitted_of_reach h hn rfl (.inl hpos)
    exact hd ((authorize_approved_iff policy _).mpr (permits_uncapped hadmitted rfl hx))
  constructor
  · intro r' hr
    let I (x : Run) : Prop := x = r ∨ Closing x ∧ calls acts x.trace = calls acts r.trace
    have hI : I r' := by
      refine hr.invariant (.inl rfl) fun x w y _ hi _ hstep => .inr ?_
      rcases hi with rfl | ⟨hc, hcalls⟩
      · exact closing_of_refused hn hs hd hstep
      · exact ⟨(closing_step hc hstep).1, (closing_step hc hstep).2.trans hcalls⟩
    rcases hI with rfl | ⟨-, hcalls⟩
    · rfl
    · exact hcalls
  · intro r' hr hend
    have hI : r' = r ∨ Refusing r' := by
      refine hr.invariant (I := fun x => x = r ∨ Refusing x) (.inl rfl) fun x w y _ hi hw hstep => .inr ?_
      rcases hi with rfl | hi
      · exact refusing_of_step hplaced hzero hn hs hd notRecovered_of_denied hw hstep
      · exact refusing_step hi hw hstep
    rcases hI with rfl | ⟨hn', -⟩ | ⟨hn', -⟩ | hfinished
    · exact absurd hn (hend _)
    · exact absurd hn' (hend _)
    · exact absurd hn' (hend _)
    · exact hfinished

theorem reach_idle (policy : PolicyConfig) (limit : Nat) (trace : List Execution)
    (hd : s.policyResult.map (·.decision) = some .approved) (hx : executed s = .escalate)
    (hl : trace.length < limit) (time : ℚ) :
    ∃ t e, Reach (step policy limit) (At time) ⟨.node .actionExecution, s, trace⟩
        ⟨.node .observation, t, e :: trace⟩ ∧
      e.effect = none ∧ t.replanCount = s.replanCount ∧ standing t = standing s ∧
      t.executionResult = some (.noEffect .escalate) := by
  have hout : nodeFunction policy .actionExecution s { time := time } =
      { result := .ok { addTrace s .actionExecution with
          executionResult := some (.noEffect .escalate) } } := by
    unfold executed at hx
    simp only [nodeFunction, nodeActionExecution, hd, hx, ne_eq, not_true_eq_false, if_false]
  refine ⟨_, _, reach_step hl rfl (congrArg NodeOutcome.result hout) rfl, ?_, rfl, rfl, rfl⟩
  rw [hout]

theorem reach_misread (policy : PolicyConfig) (limit : Nat) (trace : List Execution)
    (he : s.executionResult = some (.noEffect .escalate)) (hr : s.caseIsRecovered = false)
    (hc : s.replanCount < s.maxReplans) (hl : trace.length < limit) (time : ℚ) :
    ∃ t e, Reach (step policy limit) (At time) ⟨.node .verification, s, trace⟩
        ⟨.node .replan, t, e :: trace⟩ ∧ e.effect = none ∧ standing t = standing s := by
  have hout : nodeFunction policy .verification s { time := time } =
      { result := .ok { addTrace s .verification with
          verificationResult := some { verified := false, outcome := .communicationSent } } } := by
    simp only [nodeFunction, nodeVerification, he]
  refine ⟨_, _, reach_step hl rfl (congrArg NodeOutcome.result hout) ?_, ?_, rfl⟩
  · simp [successor, routeAfterVerification, hr, hc]
  · rw [hout]

theorem reach_action_after {strat : StrategyOutput} {diag : DiagnosisOutput} (hn : r.next = .node .policyCheck)
    (hs : r.state.caseStrategy = some strat) (hx : strat.recoveryStrategy = .escalate)
    (ha : (authorize policy (policyContext r.state strat)).decision = .approved)
    (hdiag : r.state.caseDiagnosis = some diag) (hc : r.state.replanCount < r.state.maxReplans)
    (hl : r.trace.length + 8 ≤ limit) :
    ∃ r', Reach (step policy limit) Any r r' ∧ calls acts r.trace < calls acts r'.trace := by
  obtain ⟨next, s, trace⟩ := r
  obtain rfl : next = .node .policyCheck := hn
  have hl : trace.length + 8 ≤ limit := hl
  obtain ⟨t1, e1, h1, he1, hs1, hc1, hd1, hx1⟩ :=
    reach_actionExecution policy limit trace hs ha (by omega) 0
  obtain ⟨t2, e2, h2, he2, hc2, hs2, hres2⟩ :=
    reach_idle policy limit (e1 :: trace) hd1 (hx1.trans hx) (by simp only [List.length_cons]; omega) 0
  obtain ⟨t3, e3, h3, he3, hc3, hs3, hres3⟩ :=
    reach_verification policy limit (e2 :: e1 :: trace) t2 (by simp only [List.length_cons]; omega) 0
  have hst3 : standing t3 = standing s := hs3.trans (hs2.trans hs1)
  have hpermits : Permits policy (policyContext s strat) := (authorize_approved_iff policy _).mp ha
  have hrec : t3.caseIsRecovered = false := (congrArg Standing.caseIsRecovered hst3).trans hpermits.notRecovered
  have hmax : t3.maxReplans = s.maxReplans := congrArg (fun x => x.inputs.maxReplans) hst3
  have hleft : t3.replanCount < t3.maxReplans := by
    rw [hc3, hc2, hc1, hmax]
    exact hc
  obtain ⟨t4, e4, h4, he4, hs4⟩ := reach_misread policy limit (e3 :: e2 :: e1 :: trace) (hres3.trans hres2) hrec
    hleft (by simp only [List.length_cons]; omega) 0
  have hst4 : standing t4 = standing s := hs4.trans hst3
  have happroved : (authorize policy (policyContext t4 (proposal .paymentMethodUpdate))).decision = .approved := by
    rw [policyContext_congr hst4]
    exact (authorize_approved_iff policy _).mpr (permits_uncapped hpermits rfl rfl)
  obtain ⟨r', h5, hlt⟩ := reach_again (e4 :: e3 :: e2 :: e1 :: trace)
    ((congrArg Standing.caseDiagnosis hst4).trans hdiag) happroved rfl (by simp only [List.length_cons]; omega)
  refine ⟨r', ((((h1.trans h2).trans h3).trans h4).any).trans h5, ?_⟩
  simpa [he1, he2, he3, he4] using hlt

theorem completed_of_finished {P : Run → NodeInput → Prop} (h : Reach (step policy recursionLimit) P (start s) r)
    (hf : r.next = .finished) : Completed r := by
  have hends : r.trace.length ≤ recursionLimit ∧ (r.next = .finished → Completed r) := by
    refine h.invariant (I := fun r => r.trace.length ≤ recursionLimit ∧ (r.next = .finished → Completed r))
      ⟨Nat.zero_le _, nofun⟩ fun r w r' _ hi _ hs => ?_
    cases step_cases hs with
    | gaveUp => exact ⟨hi.1, by simp [outOfSteps]⟩
    | raised _ hl => exact ⟨hl, by simp⟩
    | returned _ hl =>
        refine ⟨hl, fun hend => ⟨hl, _, List.mem_cons_self, ?_, rfl⟩⟩
        exact advance_finished hend
  exact hends.2 hf

/-- Escalation proposals: the run ends in escalation exactly when the policy
engine refuses the proposal. An approved escalation is taken for a message that
was sent, and the run goes on. -/
theorem escalation_ends_iff {strat : StrategyOutput}
    (h : Reach (step policy recursionLimit) Any (start (makeInitialState args)) r)
    (hn : r.next = .node .policyCheck) (hs : r.state.caseStrategy = some strat)
    (hx : strat.recoveryStrategy = .escalate) :
    EndsEscalated policy r ↔ (authorize policy (policyContext r.state strat)).decision ≠ .approved := by
  refine ⟨fun hends ha => ?_, fun hd => endsEscalated_of_refused h hn hs (by rw [hx]; rfl) hd⟩
  have hplaced : Placed r.trace.length r.state .policyCheck := (placed_of_reach h hn).1
  have hlen := hplaced.regular rfl
  have hmax := hplaced.limit
  have hcount := hplaced.count
  simp only [place] at hlen
  by_cases hc : r.state.replanCount < r.state.maxReplans
  · have hdiag : r.state.caseDiagnosis.isSome = true := by
      simpa [isOpening] using (shape_of_reach h).diagnosed _ hn
    obtain ⟨diag, hdiag⟩ := Option.isSome_iff_exists.mp hdiag
    have hroom : r.trace.length + 8 ≤ recursionLimit := by
      unfold recursionLimit
      omega
    obtain ⟨r', hr, hlt⟩ := reach_action_after hn hs hx ha hdiag hc hroom
    exact absurd (hends.1 r' hr) (Nat.ne_of_gt hlt)
  · -- Without a replan left, the run does not even come to its end.
    have hroom : r.trace.length ≤ recursionLimit := by
      unfold recursionLimit
      omega
    let nodes (_ : Nat) : NodeInput := {}
    obtain ⟨r1, hs1⟩ := step_enabled policy recursionLimit hn (nodes r.trace.length)
    have hlate : ¬ InBudget policy r (nodes r.trace.length) :=
      fun hb => hb.1 hn ⟨not_lt.mp hc, strat, hs, ha⟩
    have hsame : drive policy recursionLimit nodes (recursionLimit + 1) r =
        drive policy recursionLimit nodes recursionLimit r1 := by
      rw [drive, hs1]
    have hreach : Reach (step policy recursionLimit) (fun _ w => w.raised = none) r
        (drive policy recursionLimit nodes (recursionLimit + 1) r) :=
      drive_reach_of (fun w => w.raised = none) nodes (fun _ => rfl) (recursionLimit + 1) r
    have hend := hends.2 _ hreach (drive_settled (by omega) hroom)
    have hcompleted : Completed (drive policy recursionLimit nodes (recursionLimit + 1) r) :=
      completed_of_finished (h.trans hreach.any) hend.1
    rw [hsame] at hcompleted
    exact not_completed_of_doomed (doomed_of_step h hlate hs1) nodes _ hcompleted

def escalatingRun : Run :=
  (exec (step samplePolicy recursionLimit) (start (makeInitialState sampleArgs))
    ((sampleCycle .escalate {}).take 4)).getD (start sampleState)

theorem escalatingRun_reach :
    Reach (step samplePolicy recursionLimit) Any (start (makeInitialState sampleArgs)) escalatingRun :=
  reach_of_exec ((sampleCycle .escalate {}).take 4) rfl

theorem escalation_ends_iff_sample : EndsEscalated samplePolicy escalatingRun ↔
    (authorize samplePolicy (policyContext escalatingRun.state
      (fillDelay (sampleStrategy .escalate) 24))).decision ≠ .approved :=
  escalation_ends_iff escalatingRun_reach rfl rfl rfl

def unescalatedInputs : List NodeInput :=
  [{}, {}, {}, {}, {}, { strategy := some (sampleStrategy .retryNow) }, {}, { retry := .ok failedRetry }]

def unescalatedRun : Run :=
  (exec (step samplePolicy recursionLimit) escalatingRun unescalatedInputs).getD (start sampleState)

theorem escalation_not_final : ¬ ∀ policy args r strat,
    Reach (step policy recursionLimit) Any (start (makeInitialState args)) r →
    r.next = .node .policyCheck → r.state.caseStrategy = some strat → strat.recoveryStrategy = .escalate →
    EndsEscalated policy r := by
  intro h
  have hends := h samplePolicy sampleArgs escalatingRun _ escalatingRun_reach rfl rfl rfl
  have hreach : Reach (step samplePolicy recursionLimit) Any escalatingRun unescalatedRun :=
    reach_of_exec unescalatedInputs rfl
  exact absurd (hends.1 _ hreach) (by decide +kernel)

end RevenueRescue.EscalationEnd
