import RevenueRescue.Agents.Effects

namespace RevenueRescue.RecoveryCycle

open Enums PolicySchema PolicyEngine Providers AgentSchemas NodeUtils DeterministicNodes LlmNodes
open RecoveryGraph GraphEffects Machine

/-- What a policy decision reads of the state, besides the proposed strategy. -/
structure Standing where
  inputs : Inputs
  retryCount : Int
  communicationCount : Int
  checkoutRecoveryMessageCount : Int
  caseIsRecovered : Bool
  caseDiagnosis : Option DiagnosisOutput

def standing (s : AgentState) : Standing :=
  ⟨inputs s, s.retryCount, s.communicationCount, s.checkoutRecoveryMessageCount, s.caseIsRecovered,
    s.caseDiagnosis⟩

/-- Every answer of the outside arrives at this time. -/
def At (time : ℚ) (_ : Run) (w : NodeInput) : Prop := w.time = time

variable {policy : PolicyConfig} {limit : Nat} {n : Node} {r : Run} {s t u : AgentState}
variable {w : NodeInput} {time : ℚ} {trace : List Execution}

theorem policyContext_congr (h : standing s = standing t) (strat : StrategyOutput) :
    policyContext s strat = policyContext t strat := by
  simp only [standing, inputs, Standing.mk.injEq, Inputs.mk.injEq] at h
  simp [policyContext, h]

theorem policyContext_strategy {a b : StrategyOutput} (h : a.recoveryStrategy = b.recoveryStrategy)
    (s : AgentState) : policyContext s a = policyContext s b := by
  simp [policyContext, h]

theorem step_returns (hn : r.next = .node n) (hl : r.trace.length < limit) (hw : w.raised = none)
    (hu : (nodeFunction policy n r.state w).result = .ok u) :
    step policy limit r w = some
      ⟨advance limit (r.trace.length + 1) n (wrapNode n u), wrapNode n u,
        ⟨n, w.time, r.state, (nodeFunction policy n r.state w).effect, some (wrapNode n u)⟩ ::
          r.trace⟩ := by
  simp only [step, hn, if_neg (not_le.mpr hl), runNode, hw, hu, Except.map]

theorem reach_step {m : Node} (hl : trace.length < limit) (hw : w.raised = none)
    (hu : (nodeFunction policy n s w).result = .ok u) (hm : successor n (wrapNode n u) = some m) :
    Reach (step policy limit) (At w.time) ⟨.node n, s, trace⟩
      ⟨.node m, wrapNode n u,
        ⟨n, w.time, s, (nodeFunction policy n s w).effect, some (wrapNode n u)⟩ :: trace⟩ := by
  have hs := step_returns (r := ⟨.node n, s, trace⟩) rfl hl hw hu
  rw [advance_eq_node.mpr hm] at hs
  exact .single rfl hs

variable (policy limit trace)

theorem reach_policyCheck {diag : DiagnosisOutput} (hd : s.caseDiagnosis = some diag)
    (hl : trace.length < limit) (strat : StrategyOutput) (time : ℚ) :
    ∃ t e, Reach (step policy limit) (At time) ⟨.node .strategy, s, trace⟩
        ⟨.node .policyCheck, t, e :: trace⟩ ∧
      e.effect = none ∧ standing t = standing s ∧ t.replanCount = s.replanCount ∧
      ∃ filled, t.caseStrategy = some filled ∧ filled.recoveryStrategy = strat.recoveryStrategy := by
  have hu : (nodeFunction policy .strategy s { time := time, strategy := some strat }).result =
      .ok { addTrace s .strategy with
        caseStrategy := some (fillDelay strat (s.ruleRetryDelayHours.getD 24)) } :=
    nodeStrategy_reply hd strat
  exact ⟨_, _, reach_step hl rfl hu rfl, rfl, rfl, rfl, _, rfl, fillDelay_strategy strat _⟩

theorem reach_actionExecution {strat : StrategyOutput} (hs : s.caseStrategy = some strat)
    (ha : (authorize policy (policyContext s strat)).decision = .approved) (hl : trace.length < limit)
    (time : ℚ) :
    ∃ t e, Reach (step policy limit) (At time) ⟨.node .policyCheck, s, trace⟩
        ⟨.node .actionExecution, t, e :: trace⟩ ∧
      e.effect.any acts = false ∧ standing t = standing s ∧ t.replanCount = s.replanCount ∧
      t.policyResult.map (·.decision) = some .approved ∧ executed t = strat.recoveryStrategy := by
  have hu : (nodeFunction policy .policyCheck s { time := time }).result =
      .ok { addTrace s .policyCheck with policyResult := some (authorize policy (policyContext s strat)) } := by
    simp only [nodeFunction, nodePolicyCheck, hs]
  have he : (nodeFunction policy .policyCheck s { time := time }).effect =
      some (.authorize (policyContext s strat) (authorize policy (policyContext s strat))) := by
    simp only [nodeFunction, nodePolicyCheck, hs]
  refine ⟨_, _, reach_step hl rfl hu ?_, ?_, rfl, rfl, congrArg some ha, ?_⟩
  · simp [successor, routeAfterPolicyCheck, ha]
  · rw [he]; rfl
  · simp [executed, hs]

theorem reach_approved {diag : DiagnosisOutput} {strat : StrategyOutput}
    (hd : s.caseDiagnosis = some diag) (ha : (authorize policy (policyContext s strat)).decision = .approved)
    (hl : trace.length + 1 < limit) (time : ℚ) :
    ∃ t e f, Reach (step policy limit) (At time) ⟨.node .strategy, s, trace⟩
        ⟨.node .actionExecution, t, e :: f :: trace⟩ ∧
      e.effect.any acts = false ∧ f.effect = none ∧ standing t = standing s ∧
      t.replanCount = s.replanCount ∧ t.policyResult.map (·.decision) = some .approved ∧
      executed t = strat.recoveryStrategy := by
  obtain ⟨t, f, h1, hf, hst, hrt, filled, hfilled, hname⟩ :=
    reach_policyCheck policy limit trace hd ((Nat.lt_succ_self _).trans hl) strat time
  have ha' : (authorize policy (policyContext t filled)).decision = .approved := by
    rw [policyContext_strategy hname, policyContext_congr hst]
    exact ha
  obtain ⟨u, e, h2, he, hsu, hru, hpu, hxu⟩ :=
    reach_actionExecution policy limit (f :: trace) hfilled ha' (by simpa using hl) time
  exact ⟨u, e, f, h1.trans h2, he, hf, hsu.trans hst, hru.trans hrt, hpu, hxu.trans hname⟩

def isAction (strategy : RecoveryStrategy) : Bool :=
  decide (strategy ≠ .promiseToPay ∧ strategy ≠ .escalate)

theorem isAction_of_carriesOut {strategy : RecoveryStrategy} {effect : Effect}
    (h : CarriesOut s strategy effect) : isAction strategy = true := by
  cases h with
  | scheduleRetry | retryNow => rfl
  | message id h => rcases h with rfl | rfl | rfl <;> rfl

theorem nodeActionExecution_acts (hd : s.policyResult.map (·.decision) = some .approved)
    (hx : isAction (executed s) = true) (answer : Except String RetryResult) (id : String) :
    (nodeActionExecution s answer id).effect.any acts = true := by
  unfold nodeActionExecution
  simp only [hd, ne_eq, not_true_eq_false, if_false]
  unfold executed at hx
  generalize (s.caseStrategy.map (·.recoveryStrategy)).getD .escalate = strategy at hx
  cases strategy with
  | promiseToPay | escalate => cases hx
  | _ => rfl

theorem reach_acted (hd : s.policyResult.map (·.decision) = some .approved)
    (hx : isAction (executed s) = true) (hl : trace.length < limit) (time : ℚ) :
    ∃ r e, Reach (step policy limit) (At time) ⟨.node .actionExecution, s, trace⟩ r ∧
      r.trace = e :: trace ∧ e.effect.any acts = true := by
  let w : NodeInput := { time := time }
  have hs : ∃ r, step policy limit ⟨.node .actionExecution, s, trace⟩ w = some r ∧
      ∃ after, r.trace = ⟨.actionExecution, time, s,
        (nodeFunction policy .actionExecution s w).effect, after⟩ :: trace := by
    simp only [step, if_neg (not_le.mpr hl), runNode, w]
    cases ((nodeFunction policy .actionExecution s w).result.map (wrapNode .actionExecution)) with
    | ok t => exact ⟨_, rfl, _, rfl⟩
    | error e => exact ⟨_, rfl, _, rfl⟩
  obtain ⟨r, hr, after, ht⟩ := hs
  exact ⟨r, _, .single (a := w) rfl hr, ht, nodeActionExecution_acts hd hx _ _⟩

theorem reach_contextBuilder (hr : s.caseIsRecovered = false) (hp : s.paymentAlreadySucceeded = false)
    (ha : 0 < s.amountPaise) (hst : s.caseIsStopped = false) (he : s.error = none)
    (hl : trace.length < limit) (time : ℚ) :
    ∃ t e, Reach (step policy limit) (At time) ⟨.node .riskDetection, s, trace⟩
        ⟨.node .contextBuilder, t, e :: trace⟩ ∧
      e.effect = none ∧ standing t = standing s ∧ t.replanCount = s.replanCount := by
  have hu : (nodeFunction policy .riskDetection s { time := time }).result =
      .ok (addTrace s .riskDetection) := by
    simp [nodeFunction, nodeRiskDetection, hr, hp, not_le.mpr ha]
  refine ⟨_, _, reach_step hl rfl hu ?_, rfl, rfl, rfl⟩
  simp [successor, routeAfterRiskDetection, hst, he]

theorem reach_diagnosis (s : AgentState) (hl : trace.length < limit) (time : ℚ) :
    ∃ t e, Reach (step policy limit) (At time) ⟨.node .contextBuilder, s, trace⟩
        ⟨.node .diagnosis, t, e :: trace⟩ ∧
      e.effect = none ∧ standing t = standing s ∧ t.replanCount = s.replanCount :=
  have hu : (nodeFunction policy .contextBuilder s { time := time }).result =
    .ok (addTrace s .contextBuilder) := rfl
  ⟨_, _, reach_step hl rfl hu rfl, rfl, rfl, rfl⟩

theorem reach_strategy (s : AgentState) (hl : trace.length < limit) (diag : DiagnosisOutput) (time : ℚ) :
    ∃ t e, Reach (step policy limit) (At time) ⟨.node .diagnosis, s, trace⟩
        ⟨.node .strategy, t, e :: trace⟩ ∧
      e.effect = none ∧ standing t = { standing s with caseDiagnosis := some diag } ∧
      t.replanCount = s.replanCount :=
  have hu : (nodeFunction policy .diagnosis s { time := time, diagnosis := some diag }).result =
    .ok { addTrace s .diagnosis with caseDiagnosis := some diag } := rfl
  ⟨_, _, reach_step hl rfl hu rfl, rfl, rfl, rfl⟩

/-- The opening of a run that gets to propose a strategy. -/
theorem reach_opening (hr : s.caseIsRecovered = false) (hp : s.paymentAlreadySucceeded = false)
    (ha : 0 < s.amountPaise) (hst : s.caseIsStopped = false) (he : s.error = none) (hl : 3 ≤ limit)
    (diag : DiagnosisOutput) (time : ℚ) :
    ∃ t trace, Reach (step policy limit) (At time) (start s) ⟨.node .strategy, t, trace⟩ ∧
      trace.length = 3 ∧ (∀ kind, calls kind trace = 0) ∧
      standing t = { standing s with caseDiagnosis := some diag } ∧ t.replanCount = s.replanCount := by
  obtain ⟨t1, e1, h1, he1, hs1, hc1⟩ :=
    reach_contextBuilder policy limit [] hr hp ha hst he
      (Nat.lt_of_lt_of_le (by decide) hl) time
  obtain ⟨t2, e2, h2, he2, hs2, hc2⟩ :=
    reach_diagnosis policy limit [e1] t1
      (Nat.lt_of_lt_of_le (by decide : 1 < 3) hl) time
  obtain ⟨t3, e3, h3, he3, hs3, hc3⟩ :=
    reach_strategy policy limit [e2, e1] t2
      (Nat.lt_of_lt_of_le (by decide : 2 < 3) hl) diag time
  refine ⟨t3, _, (h1.trans h2).trans h3, rfl, fun kind => ?_, ?_, hc3.trans (hc2.trans hc1)⟩
  · simp [he1, he2, he3]
  · rw [hs3, hs2, hs1]

def certainDiagnosis : DiagnosisOutput where
  diagnosis := "certain"
  diagnosisConfidence := .num 1
  failureCategory := .gatewayTemporary
  likelyCause := ""
  isRecoverable := true
  recommendedStrategy := .retryNow

def proposal (strategy : RecoveryStrategy) : StrategyOutput where
  recoveryStrategy := strategy
  reason := ""
  requestedAction := []
  expectedRecoveryPaise := 0
  confidence := .num 1

def isRetryNow : Effect → Bool
  | .retryPayment _ _ => true
  | _ => false

def failedRetry : RetryResult where
  attemptId := "a1"
  paymentId := "p1"
  status := .failed
  amountPaise := 0
  currency := "INR"
  provider := .simulation

def failedPayment : PaymentResult where
  paymentId := "p1"
  status := .failed
  amountPaise := 0
  currency := "INR"
  provider := .simulation

theorem reach_observation (hd : s.policyResult.map (·.decision) = some .approved)
    (hx : executed s = .retryNow) (hl : trace.length < limit) (time : ℚ) :
    ∃ t e, Reach (step policy limit) (At time) ⟨.node .actionExecution, s, trace⟩
        ⟨.node .observation, t, e :: trace⟩ ∧
      e.effect.any isRetryNow = true ∧ t.replanCount = s.replanCount ∧
      standing t = { standing s with retryCount := s.retryCount + 1 } ∧
      t.executionResult = some (.paymentRetry "a1" "p1" .failed none 0) := by
  have hout : nodeFunction policy .actionExecution s { time := time, retry := .ok failedRetry } =
      { effect := some (.retryPayment (retryRequest s .retryNow) (.ok failedRetry))
        result := .ok (recordRetry (addTrace s .actionExecution) failedRetry) } := by
    unfold executed at hx
    simp only [nodeFunction, nodeActionExecution, hd, hx, ne_eq, not_true_eq_false, if_false]
    rfl
  refine ⟨_, _, reach_step hl rfl (congrArg NodeOutcome.result hout) rfl, ?_, rfl, rfl, rfl⟩
  rw [hout]
  rfl

theorem reach_verification (s : AgentState) (hl : trace.length < limit) (time : ℚ) :
    ∃ t e, Reach (step policy limit) (At time) ⟨.node .observation, s, trace⟩
        ⟨.node .verification, t, e :: trace⟩ ∧
      e.effect = none ∧ t.replanCount = s.replanCount ∧ standing t = standing s ∧
      t.executionResult = s.executionResult :=
  have hu : (nodeFunction policy .observation s { time := time }).result =
    .ok (addTrace s .observation) := rfl
  ⟨_, _, reach_step hl rfl hu rfl, rfl, rfl, rfl, rfl⟩

theorem reach_replan {a : String} {o : PaymentStatus} {m : Int}
    (he : s.executionResult = some (.paymentRetry a "p1" o none m)) (hr : s.caseIsRecovered = false)
    (hc : s.replanCount < s.maxReplans) (hl : trace.length < limit) (time : ℚ) :
    ∃ t e, Reach (step policy limit) (At time) ⟨.node .verification, s, trace⟩
        ⟨.node .replan, t, e :: trace⟩ ∧
      e.effect.any isRetryNow = false ∧ t.replanCount = s.replanCount ∧ standing t = standing s := by
  have hout : nodeFunction policy .verification s { time := time, payment := .ok failedPayment } =
      { effect := some (.getPayment "p1" (.ok failedPayment))
        result := .ok { addTrace s .verification with
          verificationResult := some (paymentVerdict "p1" failedPayment time) } } := by
    simp only [nodeFunction, nodeVerification, he]
    rfl
  refine ⟨_, _, reach_step hl rfl (congrArg NodeOutcome.result hout) ?_, ?_, rfl, rfl⟩
  · simp [successor, routeAfterVerification, hr, hc]
  · rw [hout]
    rfl

theorem reach_replanned (s : AgentState) (hl : trace.length < limit) (time : ℚ) :
    ∃ t e, Reach (step policy limit) (At time) ⟨.node .replan, s, trace⟩
        ⟨.node .strategy, t, e :: trace⟩ ∧
      e.effect = none ∧ standing t = standing s :=
  have hu : (nodeFunction policy .replan s { time := time }).result = .ok (incrementReplan s) := rfl
  ⟨_, _, reach_step hl rfl hu rfl, rfl, rfl⟩

theorem reach_retried (hd : s.policyResult.map (·.decision) = some .approved)
    (hx : executed s = .retryNow) (hr : s.caseIsRecovered = false) (hc : s.replanCount < s.maxReplans)
    (hl : trace.length + 3 < limit) (time : ℚ) :
    ∃ t trace', Reach (step policy limit) (At time) ⟨.node .actionExecution, s, trace⟩
        ⟨.node .strategy, t, trace'⟩ ∧ trace'.length = trace.length + 4 ∧
      calls isRetryNow trace' = calls isRetryNow trace + 1 ∧
      standing t = { standing s with retryCount := s.retryCount + 1 } := by
  obtain ⟨t1, e1, h1, he1, hc1, hs1, hx1⟩ :=
    reach_observation policy limit trace hd hx (by omega) time
  obtain ⟨t2, e2, h2, he2, hc2, hs2, hx2⟩ :=
    reach_verification policy limit (e1 :: trace) t1
      (by simp only [List.length_cons]; omega) time
  have hmax : t2.maxReplans = s.maxReplans :=
    congrArg (fun x => x.inputs.maxReplans) (hs2.trans hs1)
  have hrec : t2.caseIsRecovered = false :=
    (congrArg Standing.caseIsRecovered (hs2.trans hs1)).trans hr
  obtain ⟨t3, e3, h3, he3, hc3, hs3⟩ :=
    reach_replan policy limit (e2 :: e1 :: trace) (hx2.trans hx1) hrec
      (by omega) (by simp only [List.length_cons]; omega) time
  obtain ⟨t4, e4, h4, he4, hs4⟩ :=
    reach_replanned policy limit (e3 :: e2 :: e1 :: trace) t3
      (by simp only [List.length_cons]; omega) time
  refine ⟨t4, _, ((h1.trans h2).trans h3).trans h4, rfl, ?_, ?_⟩
  · simp [he1, he2, he3, he4]
  · rw [hs4, hs3, hs2, hs1]

end RevenueRescue.RecoveryCycle
