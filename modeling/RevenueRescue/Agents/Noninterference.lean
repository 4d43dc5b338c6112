import RevenueRescue.Agents.Gate

namespace RevenueRescue.Noninterference

open Enums PolicySchema PolicyEngine Providers AgentSchemas NodeUtils DeterministicNodes LlmNodes RecoveryGraph
open GraphEffects PolicyGate Machine

inductive Call
  | retryPayment (request : RetryRequest)
  | scheduleRetry (request : RetryRequest) (delayHours : PyValue)
  | getPayment (paymentId : String)

/-- An effect without its answer. -/
inductive Observed
  | decision (ctx : AuthorizationContext) (result : PolicyEvaluationResult)
  | call (c : Call)
  | message (strategy : RecoveryStrategy)

def observe : Effect → Observed
  | .authorize ctx result => .decision ctx result
  | .retryPayment request _ => .call (.retryPayment request)
  | .scheduleRetry request delayHours _ => .call (.scheduleRetry request delayHours)
  | .getPayment paymentId _ => .call (.getPayment paymentId)
  | .sendMessage strategy _ => .message strategy

def Observed.call? : Observed → Option Call
  | .call c => some c
  | _ => none

def history (trace : List Execution) : List Call :=
  trace.filterMap fun e => (e.effect.map observe).bind Observed.call?

/-- A provider whose answers are a function of the calls made to it, the one to
be answered first. -/
structure Provider where
  retry : List Call → Except String RetryResult
  payment : List Call → Except String PaymentResult

def Answers (provider : Provider) (past : List Call) : Effect → Prop
  | .retryPayment request answer => answer = provider.retry (.retryPayment request :: past)
  | .scheduleRetry request delayHours answer => answer = provider.retry (.scheduleRetry request delayHours :: past)
  | .getPayment paymentId answer => answer = provider.payment (.getPayment paymentId :: past)
  | _ => True

def Answered (provider : Provider) : List Execution → Prop
  | [] => True
  | e :: trace => (∀ x, e.effect = some x → Answers provider (history trace) x) ∧ Answered provider trace

/-- What later nodes may take from a strategy. -/
def proposal (strat : StrategyOutput) : RecoveryStrategy × Option PyValue :=
  (strat.recoveryStrategy,
    if strat.recoveryStrategy = .scheduleRetry then some (scheduledDelay (some strat)) else none)

def confidence? (s : AgentState) : Option PyFloat := s.caseDiagnosis.map (·.diagnosisConfidence)

def proposal? (s : AgentState) : Option (RecoveryStrategy × Option PyValue) := s.caseStrategy.map proposal

def Agrees (e e' : Execution) : Prop :=
  match e.node with
  | .diagnosis => e.after.map confidence? = e'.after.map confidence?
  | .strategy => e.after.map proposal? = e'.after.map proposal?
  | _ => True

def withoutMessageId : ExecutionResult → ExecutionResult
  | .checkoutRecovery _ => .checkoutRecovery ""
  | .communication strategy _ => .communication strategy ""
  | result => result

def withoutTime (v : VerificationResult) : VerificationResult := { v with verifiedAt := none }

/-- States that differ in the texts of the LLM, in message ids and in times only. -/
inductive Alike (s : AgentState) : AgentState → Prop
  | intro (d : Option DiagnosisOutput) (st : Option StrategyOutput) (x : Option ExecutionResult)
      (v : Option VerificationResult)
      (hd : s.caseDiagnosis.map (·.diagnosisConfidence) = d.map (·.diagnosisConfidence))
      (hst : s.caseStrategy.map proposal = st.map proposal)
      (hx : s.executionResult.map withoutMessageId = x.map withoutMessageId)
      (hv : s.verificationResult.map withoutTime = v.map withoutTime) :
      Alike s { s with caseDiagnosis := d, caseStrategy := st, executionResult := x, verificationResult := v }

theorem Alike.refl (s : AgentState) : Alike s s := .intro _ _ _ _ rfl rfl rfl rfl

theorem Alike.symm {s t : AgentState} (h : Alike s t) : Alike t s := by
  cases h with
  | intro d st x v hd hst hx hv =>
      exact .intro (s := { s with caseDiagnosis := d, caseStrategy := st, executionResult := x, verificationResult := v })
        s.caseDiagnosis s.caseStrategy s.executionResult s.verificationResult hd.symm hst.symm hx.symm hv.symm

inductive AlikeResult : Except String AgentState → Except String AgentState → Prop
  | ok {s t : AgentState} (h : Alike s t) : AlikeResult (.ok s) (.ok t)
  | error (e : String) : AlikeResult (.error e) (.error e)

structure AlikeOutcome (o o' : NodeOutcome) : Prop where
  observed : o.effect.map observe = o'.effect.map observe
  result : AlikeResult o.result o'.result

variable {policy : PolicyConfig} {s t : AgentState} {w w' : NodeInput} {provider : Provider} {past : List Call}

theorem Alike.addTrace (h : Alike s t) (n : Node) : Alike (addTrace s n) (addTrace t n) := by
  cases h with
  | intro d st x v hd hst hx hv => exact .intro (s := NodeUtils.addTrace s n) d st x v hd hst hx hv

theorem Alike.setDiagnosis (h : Alike s t) {d d' : Option DiagnosisOutput}
    (hd : d.map (·.diagnosisConfidence) = d'.map (·.diagnosisConfidence)) :
    Alike { s with caseDiagnosis := d } { t with caseDiagnosis := d' } := by
  cases h with
  | intro _ st x v _ hst hx hv => exact .intro (s := { s with caseDiagnosis := d }) d' st x v hd hst hx hv

theorem Alike.setStrategy (h : Alike s t) {st st' : Option StrategyOutput} (hst : st.map proposal = st'.map proposal) :
    Alike { s with caseStrategy := st } { t with caseStrategy := st' } := by
  cases h with
  | intro d _ x v hd _ hx hv => exact .intro (s := { s with caseStrategy := st }) d st' x v hd hst hx hv

theorem Alike.setPolicyResult (h : Alike s t) (result : Option PolicyEvaluationResult) :
    Alike { s with policyResult := result } { t with policyResult := result } := by
  cases h with
  | intro d st x v hd hst hx hv => exact .intro (s := { s with policyResult := result }) d st x v hd hst hx hv

theorem Alike.setExecution (h : Alike s t) {x x' : Option ExecutionResult}
    (hx : x.map withoutMessageId = x'.map withoutMessageId) :
    Alike { s with executionResult := x } { t with executionResult := x' } := by
  cases h with
  | intro d st _ v hd hst _ hv => exact .intro (s := { s with executionResult := x }) d st x' v hd hst hx hv

theorem Alike.setVerification (h : Alike s t) {v v' : Option VerificationResult}
    (hv : v.map withoutTime = v'.map withoutTime) :
    Alike { s with verificationResult := v } { t with verificationResult := v' } := by
  cases h with
  | intro d st x _ hd hst hx _ => exact .intro (s := { s with verificationResult := v }) d st x v' hd hst hx hv

theorem Alike.setRecovered (h : Alike s t) :
    Alike { s with caseIsRecovered := true, caseIsStopped := true }
      { t with caseIsRecovered := true, caseIsStopped := true } := by
  cases h with
  | intro d st x v hd hst hx hv => exact .intro (s := { s with caseIsRecovered := true, caseIsStopped := true }) d st x v hd hst hx hv

theorem Alike.messaged (h : Alike s t) :
    Alike { s with communicationCount := s.communicationCount + 1 }
      { t with communicationCount := t.communicationCount + 1 } := by
  cases h with
  | intro d st x v hd hst hx hv =>
      exact .intro (s := { s with communicationCount := s.communicationCount + 1 }) d st x v hd hst hx hv

theorem Alike.resumed (h : Alike s t) :
    Alike { s with checkoutRecoveryMessageCount := s.checkoutRecoveryMessageCount + 1 }
      { t with checkoutRecoveryMessageCount := t.checkoutRecoveryMessageCount + 1 } := by
  cases h with
  | intro d st x v hd hst hx hv =>
      exact .intro (s := { s with checkoutRecoveryMessageCount := s.checkoutRecoveryMessageCount + 1 }) d st x v
        hd hst hx hv

theorem Alike.diagnoses (h : Alike s t) :
    s.caseDiagnosis.map (·.diagnosisConfidence) = t.caseDiagnosis.map (·.diagnosisConfidence) := by
  cases h
  assumption

theorem Alike.strategies (h : Alike s t) : s.caseStrategy.map proposal = t.caseStrategy.map proposal := by
  cases h
  assumption

theorem Alike.executions (h : Alike s t) :
    s.executionResult.map withoutMessageId = t.executionResult.map withoutMessageId := by
  cases h
  assumption

theorem nodeRiskDetection_alike (h : Alike s t) : Alike (nodeRiskDetection s) (nodeRiskDetection t) := by
  cases h with
  | intro d st x v hd hst hx hv =>
      simp only [nodeRiskDetection]
      split
      · exact .intro d st x v hd hst hx hv
      split
      · exact .intro d st x v hd hst hx hv
      split
      · exact .intro d st x v hd hst hx hv
      · exact .intro d st x v hd hst hx hv

theorem nodeContextBuilder_alike (h : Alike s t) (evidence : Option QuantitativeEvidence) :
    Alike (nodeContextBuilder s evidence) (nodeContextBuilder t evidence) := by
  cases h with
  | intro d st x v hd hst hx hv =>
      cases evidence with
      | none => exact .intro d st x v hd hst hx hv
      | some e => exact .intro d st x v hd hst hx hv

theorem nodeEscalation_alike (h : Alike s t) : Alike (nodeEscalation s) (nodeEscalation t) := by
  cases h with
  | intro d st x v hd hst hx hv => exact .intro d st x v hd hst hx hv

theorem nodeCompletion_alike (h : Alike s t) : Alike (nodeCompletion s) (nodeCompletion t) := by
  cases h with
  | intro d st x v hd hst hx hv =>
      simp only [nodeCompletion]
      split
      · split
        · exact .intro d st x v hd hst hx hv
        · exact Alike.addTrace (.intro d st x v hd hst hx hv) .completion
      · exact Alike.addTrace (.intro d st x v hd hst hx hv) .completion

theorem wrapNode_alike (h : Alike s t) (n : Node) : Alike (wrapNode n s) (wrapNode n t) := by
  cases h with
  | intro d st x v hd hst hx hv => exact .intro d st x v hd hst hx hv

theorem acceptedDiagnosis_error {reply : Option DiagnosisOutput} {e : String}
    (h : acceptedDiagnosis s reply = .error e) : fallbackDiagnosis s.failureReason s.mlProbability = .error e := by
  cases reply with
  | none => exact h
  | some diag => cases h

theorem acceptedStrategy_error {diag : DiagnosisOutput} {reply : Option StrategyOutput} {e : String}
    (h : acceptedStrategy s diag reply = .error e) :
    e = "expected_recovery_paise: Input should be greater than or equal to 0" := by
  cases reply with
  | some strat => cases h
  | none =>
      unfold acceptedStrategy fallbackStrategy at h
      dsimp only at h
      by_cases hx : 0 ≤ (if diag.recommendedStrategy ≠ .escalate then s.amountPaise else 0)
      · rw [dif_pos hx] at h
        cases h
      · rw [dif_neg hx] at h
        cases h
        rfl

theorem Alike.fallback (h : Alike s t) : fallbackDiagnosis t.failureReason t.mlProbability =
    fallbackDiagnosis s.failureReason s.mlProbability := by
  cases h
  rfl

theorem nodeDiagnosis_alike (h : Alike s t) (reply reply' : Option DiagnosisOutput)
    (hagree : (nodeDiagnosis s reply).toOption.map confidence? = (nodeDiagnosis t reply').toOption.map confidence?) :
    AlikeResult (nodeDiagnosis s reply) (nodeDiagnosis t reply') := by
  unfold nodeDiagnosis at hagree ⊢
  cases ha : acceptedDiagnosis s reply with
  | error e =>
      cases ha' : acceptedDiagnosis t reply' with
      | error e' =>
          have he := (h.fallback.symm.trans (acceptedDiagnosis_error ha')).symm.trans (acceptedDiagnosis_error ha)
          cases he
          exact .error _
      | ok diag' =>
          rw [ha, ha'] at hagree
          cases hagree
  | ok diag =>
      cases ha' : acceptedDiagnosis t reply' with
      | error e' =>
          rw [ha, ha'] at hagree
          cases hagree
      | ok diag' =>
          rw [ha, ha'] at hagree
          exact .ok ((h.addTrace .diagnosis).setDiagnosis (Option.some.inj hagree))

theorem Alike.diagnosis_error (h : Alike s t) {e : String} (ha : acceptedDiagnosis s s.caseDiagnosis = .error e) :
    acceptedDiagnosis t t.caseDiagnosis = .error e := by
  have hd := h.diagnoses
  cases hs : s.caseDiagnosis with
  | some diag =>
      rw [hs] at ha
      cases ha
  | none =>
      rw [hs] at ha hd
      rw [Option.map_eq_none_iff.mp hd.symm]
      exact h.fallback.trans ha

theorem nodeStrategy_alike (h : Alike s t) (reply reply' : Option StrategyOutput)
    (hagree : (nodeStrategy s reply).toOption.map proposal? = (nodeStrategy t reply').toOption.map proposal?) :
    AlikeResult (nodeStrategy s reply) (nodeStrategy t reply') := by
  unfold nodeStrategy at hagree ⊢
  cases ha : acceptedDiagnosis s s.caseDiagnosis with
  | error e =>
      rw [h.diagnosis_error ha]
      exact .error e
  | ok diag =>
      cases ha' : acceptedDiagnosis t t.caseDiagnosis with
      | error e =>
          rw [h.symm.diagnosis_error ha'] at ha
          cases ha
      | ok diag' =>
          rw [ha, ha'] at hagree
          simp only [Except.bind] at hagree ⊢
          cases hb : acceptedStrategy s diag reply with
          | error e =>
              cases hb' : acceptedStrategy t diag' reply' with
              | error e' =>
                  rw [acceptedStrategy_error hb, acceptedStrategy_error hb']
                  exact .error _
              | ok strat' =>
                  rw [hb, hb'] at hagree
                  cases hagree
          | ok strat =>
              cases hb' : acceptedStrategy t diag' reply' with
              | error e' =>
                  rw [hb, hb'] at hagree
                  cases hagree
              | ok strat' =>
                  rw [hb, hb'] at hagree
                  exact .ok ((h.addTrace .strategy).setStrategy (Option.some.inj hagree))

theorem policyContext_alike (h : Alike s t) {strat strat' : StrategyOutput} (hp : proposal strat = proposal strat') :
    policyContext s strat = policyContext t strat' := by
  have haction : strat.recoveryStrategy = strat'.recoveryStrategy := congrArg Prod.fst hp
  cases h with
  | intro d st x v hd hst hx hv =>
      unfold policyContext
      rw [hd, haction]

theorem nodePolicyCheck_alike (h : Alike s t) : AlikeOutcome (nodePolicyCheck s policy) (nodePolicyCheck t policy) := by
  have hp := h.strategies
  unfold nodePolicyCheck
  cases hs : s.caseStrategy with
  | none =>
      rw [hs] at hp
      rw [Option.map_eq_none_iff.mp hp.symm]
      exact ⟨rfl, .ok ((h.addTrace .policyCheck).setPolicyResult _)⟩
  | some strat =>
      rw [hs] at hp
      obtain ⟨strat', hs', hp'⟩ := Option.map_eq_some_iff.mp hp.symm
      rw [hs']
      dsimp only
      rw [policyContext_alike h hp'.symm]
      exact ⟨rfl, .ok ((h.addTrace .policyCheck).setPolicyResult _)⟩

theorem retryRequest_alike (h : Alike s t) (strategy : RecoveryStrategy) :
    retryRequest s strategy = retryRequest t strategy := by
  cases h
  rfl

theorem Alike.recordRetry (h : Alike s t) (r : RetryResult) : Alike (recordRetry s r) (recordRetry t r) := by
  cases h with
  | intro d st x v hd hst hx hv =>
      exact .intro (s := DeterministicNodes.recordRetry s r) d st _ v hd hst rfl hv

theorem Alike.decision (h : Alike s t) : s.policyResult = t.policyResult := by
  cases h
  rfl

theorem Alike.executed (h : Alike s t) :
    (s.caseStrategy.map (·.recoveryStrategy)).getD .escalate = (t.caseStrategy.map (·.recoveryStrategy)).getD .escalate ∧
      ((s.caseStrategy.map (·.recoveryStrategy)).getD .escalate = .scheduleRetry →
        scheduledDelay s.caseStrategy = scheduledDelay t.caseStrategy) := by
  have hp := h.strategies
  cases hs : s.caseStrategy with
  | none =>
      rw [hs] at hp
      rw [Option.map_eq_none_iff.mp hp.symm]
      exact ⟨rfl, fun _ => rfl⟩
  | some strat =>
      rw [hs] at hp
      obtain ⟨strat', hs', hp'⟩ := Option.map_eq_some_iff.mp hp.symm
      have haction : strat'.recoveryStrategy = strat.recoveryStrategy := congrArg Prod.fst hp'
      have hdelay := congrArg Prod.snd hp'
      rw [hs']
      refine ⟨haction.symm, fun hschedule => ?_⟩
      have hschedule : strat.recoveryStrategy = .scheduleRetry := hschedule
      simp only [proposal, haction, hschedule, if_true] at hdelay
      exact (Option.some.inj hdelay).symm

theorem map_recordRetry_alike (h : Alike s t) (answer : Except String RetryResult) :
    AlikeResult (answer.map (recordRetry s)) (answer.map (recordRetry t)) := by
  cases answer with
  | error e => exact .error e
  | ok r => exact .ok (h.recordRetry r)

theorem nodeActionExecution_alike (h : Alike s t) {answer answer' : Except String RetryResult} {id id' : String}
    (ha : ∀ x, (nodeActionExecution s answer id).effect = some x → Answers provider past x)
    (ha' : ∀ x, (nodeActionExecution t answer' id').effect = some x → Answers provider past x) :
    AlikeOutcome (nodeActionExecution s answer id) (nodeActionExecution t answer' id') := by
  have htraced := h.addTrace .actionExecution
  obtain ⟨hstrategy, hdelay⟩ := h.executed
  unfold nodeActionExecution at ha ha' ⊢
  rw [← h.decision] at ha' ⊢
  by_cases hd : s.policyResult.map (·.decision) = some .approved
  · simp only [hd, ne_eq, not_true_eq_false, if_false, ← hstrategy] at ha ha' ⊢
    cases hs : (s.caseStrategy.map (·.recoveryStrategy)).getD .escalate <;> simp only [hs] at ha ha' ⊢
    case retryNow =>
      rw [← retryRequest_alike h] at ha' ⊢
      have hanswer : answer = answer' := (ha _ rfl).trans (ha' _ rfl).symm
      subst hanswer
      exact ⟨rfl, map_recordRetry_alike htraced answer⟩
    case scheduleRetry =>
      rw [← retryRequest_alike h, ← hdelay hs] at ha' ⊢
      have hanswer : answer = answer' := (ha _ rfl).trans (ha' _ rfl).symm
      subst hanswer
      exact ⟨rfl, map_recordRetry_alike htraced answer⟩
    case checkoutRecovery => exact ⟨rfl, .ok (htraced.messaged.resumed.setExecution rfl)⟩
    case reminder => exact ⟨rfl, .ok (htraced.messaged.setExecution rfl)⟩
    case paymentMethodUpdate => exact ⟨rfl, .ok (htraced.messaged.setExecution rfl)⟩
    case promiseToPay => exact ⟨rfl, .ok (htraced.setExecution rfl)⟩
    case escalate => exact ⟨rfl, .ok (htraced.setExecution rfl)⟩
  · rw [if_pos hd, if_pos hd]
    exact ⟨rfl, .ok (htraced.setExecution rfl)⟩

theorem paymentVerdict_alike (transactionId : String) (payment : PaymentResult) (now now' : ℚ) :
    (some (paymentVerdict transactionId payment now)).map withoutTime =
      (some (paymentVerdict transactionId payment now')).map withoutTime :=
  rfl

theorem nodeVerification_alike (h : Alike s t) {answer answer' : Except String PaymentResult} {now now' : ℚ}
    (ha : ∀ x, (nodeVerification s answer now).effect = some x → Answers provider past x)
    (ha' : ∀ x, (nodeVerification t answer' now').effect = some x → Answers provider past x) :
    AlikeOutcome (nodeVerification s answer now) (nodeVerification t answer' now') := by
  have htraced := h.addTrace .verification
  have hx := h.executions
  unfold nodeVerification at ha ha' ⊢
  cases hs : s.executionResult with
  | none =>
      rw [hs] at hx
      rw [Option.map_eq_none_iff.mp hx.symm]
      exact ⟨rfl, .ok (htraced.setVerification rfl)⟩
  | some result =>
      rw [hs] at hx ha
      obtain ⟨result', ht, hr⟩ := Option.map_eq_some_iff.mp hx.symm
      rw [ht] at ha' ⊢
      cases result with
      | blocked reason decision =>
          cases result' <;> cases hr
          exact ⟨rfl, .ok (htraced.setVerification rfl)⟩
      | checkoutRecovery messageId =>
          cases result' <;> cases hr
          exact ⟨rfl, .ok (htraced.setVerification rfl)⟩
      | communication strategy messageId =>
          cases result' <;> cases hr
          exact ⟨rfl, .ok (htraced.setVerification rfl)⟩
      | noEffect strategy =>
          cases result' <;> cases hr
          exact ⟨rfl, .ok (htraced.setVerification rfl)⟩
      | paymentRetry attemptId transactionId outcome failureReason amountPaise =>
          cases result' <;> cases hr
          dsimp only at ha ha' ⊢
          by_cases htx : transactionId = ""
          · rw [if_pos htx, if_pos htx]
            exact ⟨rfl, .ok (htraced.setVerification rfl)⟩
          · rw [if_neg htx] at ha ha'
            rw [if_neg htx, if_neg htx]
            have hanswer : answer = answer' := (ha _ rfl).trans (ha' _ rfl).symm
            subst hanswer
            refine ⟨rfl, ?_⟩
            cases answer with
            | error e => exact .error e
            | ok payment =>
                have hjudged := htraced.setVerification (paymentVerdict_alike transactionId payment now now')
                by_cases hp : payment.status = .success
                · simp only [Except.map, hp, if_true]
                  exact .ok hjudged.setRecovered
                · simp only [Except.map, hp, if_false]
                  exact .ok hjudged

theorem incrementReplan_alike (h : Alike s t) : Alike (incrementReplan s) (incrementReplan t) := by
  cases h with
  | intro d st x v hd hst hx hv => exact .intro (s := incrementReplan s) d st x v hd hst hx hv

def after (o : NodeOutcome) : Option AgentState := o.result.toOption

/-- One node does the same in both runs, whichever node it is. -/
theorem nodeFunction_alike (h : Alike s t) (n : Node) (he : w.evidence = w'.evidence)
    (ha : ∀ x, (nodeFunction policy n s w).effect = some x → Answers provider past x)
    (ha' : ∀ x, (nodeFunction policy n t w').effect = some x → Answers provider past x)
    (hdiag : n = .diagnosis → (after (nodeFunction policy n s w)).map confidence? =
      (after (nodeFunction policy n t w')).map confidence?)
    (hstrat : n = .strategy → (after (nodeFunction policy n s w)).map proposal? =
      (after (nodeFunction policy n t w')).map proposal?) :
    AlikeOutcome (nodeFunction policy n s w) (nodeFunction policy n t w') := by
  cases n with
  | riskDetection => exact ⟨rfl, .ok (nodeRiskDetection_alike h)⟩
  | contextBuilder => exact ⟨rfl, .ok (he ▸ nodeContextBuilder_alike h w.evidence)⟩
  | diagnosis => exact ⟨rfl, nodeDiagnosis_alike h w.diagnosis w'.diagnosis (hdiag rfl)⟩
  | strategy => exact ⟨rfl, nodeStrategy_alike h w.strategy w'.strategy (hstrat rfl)⟩
  | policyCheck => exact nodePolicyCheck_alike h
  | actionExecution => exact nodeActionExecution_alike h ha ha'
  | observation => exact ⟨rfl, .ok (h.addTrace .observation)⟩
  | verification => exact nodeVerification_alike h ha ha'
  | escalation => exact ⟨rfl, .ok (nodeEscalation_alike h)⟩
  | completion => exact ⟨rfl, .ok (nodeCompletion_alike h)⟩
  | replan => exact ⟨rfl, .ok (incrementReplan_alike h)⟩

theorem AlikeResult.wrap {x y : Except String AgentState} (h : AlikeResult x y) (n : Node) :
    AlikeResult (x.map (wrapNode n)) (y.map (wrapNode n)) := by
  cases h with
  | ok h => exact .ok (wrapNode_alike h n)
  | error e => exact .error e

theorem runNode_alike (h : Alike s t) (n : Node) (hraised : w.raised = w'.raised) (he : w.evidence = w'.evidence)
    (ha : ∀ x, (runNode policy n s w).effect = some x → Answers provider past x)
    (ha' : ∀ x, (runNode policy n t w').effect = some x → Answers provider past x)
    (hdiag : n = .diagnosis → (after (runNode policy n s w)).map confidence? =
      (after (runNode policy n t w')).map confidence?)
    (hstrat : n = .strategy → (after (runNode policy n s w)).map proposal? =
      (after (runNode policy n t w')).map proposal?) :
    AlikeOutcome (runNode policy n s w) (runNode policy n t w') := by
  unfold runNode at *
  rw [← hraised] at *
  cases hr : w.raised with
  | some e => exact ⟨rfl, .error e⟩
  | none =>
      simp only [hr] at ha ha' hdiag hstrat ⊢
      have hout : AlikeOutcome (nodeFunction policy n s w) (nodeFunction policy n t w') := by
        refine nodeFunction_alike h n he ha ha' (fun hn => ?_) fun hn => ?_
        · have hd := hdiag hn
          revert hd
          unfold after
          cases (nodeFunction policy n s w).result <;> cases (nodeFunction policy n t w').result <;> exact id
        · have hd := hstrat hn
          revert hd
          unfold after
          cases (nodeFunction policy n s w).result <;> cases (nodeFunction policy n t w').result <;> exact id
      exact ⟨hout.observed, hout.result.wrap n⟩

theorem successor_alike (h : Alike s t) (n : Node) : successor n s = successor n t := by
  cases h with
  | intro d st x v hd hst hx hv =>
      cases n with
      | verification => simp only [successor, routeAfterVerification, ite_self]
      | _ => rfl

/-- Two runs that nobody outside can tell apart. -/
structure Same (r r' : Run) : Prop where
  next : r.next = r'.next
  path : r.trace.map (·.node) = r'.trace.map (·.node)
  observed : r.trace.map (fun e => e.effect.map observe) = r'.trace.map fun e => e.effect.map observe
  state : Alike r.state r'.state

theorem history_eq (trace : List Execution) :
    history trace = (trace.map fun e => e.effect.map observe).filterMap fun o => o.bind Observed.call? := by
  rw [List.filterMap_map]
  rfl

theorem Same.history {r r' : Run} (h : Same r r') : history r.trace = history r'.trace := by
  rw [history_eq, history_eq, h.observed]

theorem Same.count {r r' : Run} (h : Same r r') : r.trace.length = r'.trace.length := by
  simpa using congrArg List.length h.path

theorem step_node {limit : Nat} {r u : Run} {n : Node} (hn : r.next = .node n) (hl : ¬ limit ≤ r.trace.length)
    (h : step policy limit r w = some u) :
    u.trace = ⟨n, w.time, r.state, (runNode policy n r.state w).effect, after (runNode policy n r.state w)⟩ :: r.trace ∧
      ((∃ state, (runNode policy n r.state w).result = .ok state ∧ u.state = state ∧
          u.next = advance limit (r.trace.length + 1) n state) ∨
        ∃ e, (runNode policy n r.state w).result = .error e ∧ u.state = r.state ∧ u.next = .raised e) := by
  simp only [step, hn, if_neg hl] at h
  unfold after
  cases hres : (runNode policy n r.state w).result with
  | ok state =>
      rw [hres] at h
      cases h
      exact ⟨rfl, .inl ⟨state, rfl, rfl, rfl⟩⟩
  | error e =>
      rw [hres] at h
      cases h
      exact ⟨rfl, .inr ⟨e, rfl, rfl, rfl⟩⟩

/-- Executions at the same place that agree when they are of the same node. -/
def AgreeAt (trace trace' : List Execution) : Prop :=
  ∀ (k : Nat) e e', trace.reverse[k]? = some e → trace'.reverse[k]? = some e' → e.node = e'.node → Agrees e e'

theorem AgreeAt.head {e e' : Execution} {trace trace' : List Execution} (h : AgreeAt (e :: trace) (e' :: trace'))
    (hlen : trace.length = trace'.length) (hn : e.node = e'.node) : Agrees e e' :=
  h trace.length e e' (by simp) (by simp [hlen]) hn

theorem step_same {limit : Nat} {r r' u u' : Run} (h : Same r r') (hraised : w.raised = w'.raised)
    (he : w.evidence = w'.evidence) (hs : step policy limit r w = some u) (hs' : step policy limit r' w' = some u')
    (ha : Answered provider u.trace) (ha' : Answered provider u'.trace) (hagree : AgreeAt u.trace u'.trace) :
    Same u u' := by
  cases hn : r.next with
  | finished => simp [step, hn] at hs
  | raised e => simp [step, hn] at hs
  | node n =>
      have hn' : r'.next = .node n := h.next ▸ hn
      by_cases hl : limit ≤ r.trace.length
      · have hl' : limit ≤ r'.trace.length := h.count ▸ hl
        simp only [step, hn, if_pos hl] at hs
        simp only [step, hn', if_pos hl'] at hs'
        cases hs
        cases hs'
        exact ⟨rfl, h.path, h.observed, h.state⟩
      · have hl' : ¬ limit ≤ r'.trace.length := h.count ▸ hl
        obtain ⟨htrace, hcases⟩ := step_node hn hl hs
        obtain ⟨htrace', hcases'⟩ := step_node hn' hl' hs'
        rw [htrace] at ha hagree
        rw [htrace'] at ha' hagree
        have hhead := hagree.head h.count rfl
        have hout : AlikeOutcome (runNode policy n r.state w) (runNode policy n r'.state w') := by
          refine runNode_alike h.state n hraised he ha.1 ?_ ?_ ?_
          · rw [h.history]
            exact ha'.1
          · rintro rfl
            exact hhead
          · rintro rfl
            exact hhead
        have hpath : u.trace.map (·.node) = u'.trace.map (·.node) := by
          rw [htrace, htrace', List.map_cons, List.map_cons, h.path]
        have hobserved : u.trace.map (fun e => e.effect.map observe) = u'.trace.map fun e => e.effect.map observe := by
          rw [htrace, htrace', List.map_cons, List.map_cons, h.observed, hout.observed]
        rcases hcases with ⟨state, hok, hstate, hnext⟩ | ⟨e, herr, hstate, hnext⟩
        · rcases hcases' with ⟨state', hok', hstate', hnext'⟩ | ⟨e', herr', -, -⟩
          · have hres := hout.result
            rw [hok, hok'] at hres
            cases hres with
            | ok halike =>
                refine ⟨?_, hpath, hobserved, by rwa [hstate, hstate']⟩
                rw [hnext, hnext', advance, advance, successor_alike halike, h.count]
          · have hres := hout.result
            rw [hok, herr'] at hres
            cases hres
        · rcases hcases' with ⟨state', hok', -, -⟩ | ⟨e', herr', hstate', hnext'⟩
          · have hres := hout.result
            rw [herr, hok'] at hres
            cases hres
          · have hres := hout.result
            rw [herr, herr'] at hres
            cases hres
            exact ⟨hnext.trans hnext'.symm, hpath, hobserved, by rw [hstate, hstate']; exact h.state⟩

theorem trace_grows {P : Run → NodeInput → Prop} {limit : Nat} {r u : Run} (h : Reach (step policy limit) P r u) :
    ∃ later, u.trace = later ++ r.trace := by
  refine h.invariant (I := fun u => ∃ later, u.trace = later ++ r.trace) ⟨[], rfl⟩ fun _ _ _ _ hi _ hs => ?_
  obtain ⟨later, hlater⟩ := hi
  cases step_cases hs with
  | gaveUp => exact ⟨later, hlater⟩
  | raised | returned => exact ⟨_ :: later, congrArg _ hlater⟩

theorem Answered.earlier {later trace : List Execution} (h : Answered provider (later ++ trace)) :
    Answered provider trace := by
  induction later with
  | nil => exact h
  | cons e later ih => exact ih h.2

theorem AgreeAt.earlier {later later' trace trace' : List Execution} (h : AgreeAt (later ++ trace) (later' ++ trace')) :
    AgreeAt trace trace' := by
  intro k e e' hk hk'
  refine h k e e' ?_ ?_
  · rw [List.reverse_append, List.getElem?_append_left (List.getElem?_eq_some_iff.mp hk).1, hk]
  · rw [List.reverse_append, List.getElem?_append_left (List.getElem?_eq_some_iff.mp hk').1, hk']

theorem drive_same {limit fuel : Nat} {nodes nodes' : Nat → NodeInput} {r r' : Run} (h : Same r r')
    (hraised : ∀ k, (nodes k).raised = (nodes' k).raised) (he : ∀ k, (nodes k).evidence = (nodes' k).evidence)
    (ha : Answered provider (drive policy limit nodes fuel r).trace)
    (ha' : Answered provider (drive policy limit nodes' fuel r').trace)
    (hagree : AgreeAt (drive policy limit nodes fuel r).trace (drive policy limit nodes' fuel r').trace) :
    Same (drive policy limit nodes fuel r) (drive policy limit nodes' fuel r') := by
  induction fuel generalizing r r' with
  | zero => exact h
  | succ fuel ih =>
      cases hn : r.next with
      | finished | raised =>
          have hstopped : ∀ n, r.next ≠ .node n := by simp [hn]
          rw [drive_stopped _ hstopped, drive_stopped _ (h.next ▸ hstopped)]
          exact h
      | node n =>
          obtain ⟨u, hu⟩ := step_enabled policy limit hn (nodes r.trace.length)
          obtain ⟨u', hu'⟩ := step_enabled policy limit (h.next ▸ hn) (nodes' r'.trace.length)
          simp only [drive, hu, hu'] at ha ha' hagree ⊢
          have hreach : Reach (step policy limit) Any u (drive policy limit nodes fuel u) := drive_reach nodes fuel u
          have hreach' : Reach (step policy limit) Any u' (drive policy limit nodes' fuel u') :=
            drive_reach nodes' fuel u'
          obtain ⟨later, hlater⟩ := trace_grows hreach
          obtain ⟨later', hlater'⟩ := trace_grows hreach'
          have hsame : Same u u' := by
            refine step_same h ?_ ?_ hu hu' (hlater ▸ ha).earlier (hlater' ▸ ha').earlier ?_
            · rw [h.count]
              exact hraised _
            · rw [h.count]
              exact he _
            · rw [hlater, hlater'] at hagree
              exact hagree.earlier
          exact ih hsame ha ha' hagree

/-- The same path, policy decisions, provider calls, messages and end. -/
structure SameConduct (r r' : Run) : Prop where
  path : r.trace.map (·.node) = r'.trace.map (·.node)
  conduct : r.trace.map (fun e => e.effect.map observe) = r'.trace.map fun e => e.effect.map observe
  next : r.next = r'.next
  retryCount : r.state.retryCount = r'.state.retryCount
  communicationCount : r.state.communicationCount = r'.state.communicationCount
  checkoutRecoveryMessageCount : r.state.checkoutRecoveryMessageCount = r'.state.checkoutRecoveryMessageCount
  replanCount : r.state.replanCount = r'.state.replanCount
  policyResult : r.state.policyResult = r'.state.policyResult
  verification : r.state.verificationResult.map withoutTime = r'.state.verificationResult.map withoutTime
  escalationReason : r.state.escalationReason = r'.state.escalationReason
  caseIsRecovered : r.state.caseIsRecovered = r'.state.caseIsRecovered
  caseIsStopped : r.state.caseIsStopped = r'.state.caseIsStopped

theorem Same.conduct {r r' : Run} (h : Same r r') : SameConduct r r' := by
  obtain ⟨hnext, hpath, hobserved, hstate⟩ := h
  obtain ⟨next, state, trace⟩ := r
  obtain ⟨next', state', trace'⟩ := r'
  cases hstate with
  | intro d st x v hd hst hx hv => exact ⟨hpath, hobserved, hnext, rfl, rfl, rfl, rfl, rfl, hv, rfl, rfl, rfl⟩

/-- Two runs from one state, with any texts of the LLM: while the diagnoses agree
on their confidence, and the strategies on the strategy and a scheduled delay,
nobody can tell the runs apart. -/
theorem llm_noninterference (policy : PolicyConfig) (limit fuel : Nat) (provider : Provider) (s : AgentState)
    (nodes nodes' : Nat → NodeInput) (hraised : ∀ k, (nodes k).raised = (nodes' k).raised)
    (hevidence : ∀ k, (nodes k).evidence = (nodes' k).evidence)
    (ha : Answered provider (drive policy limit nodes fuel (start s)).trace)
    (ha' : Answered provider (drive policy limit nodes' fuel (start s)).trace)
    (hagree : AgreeAt (drive policy limit nodes fuel (start s)).trace (drive policy limit nodes' fuel (start s)).trace) :
    SameConduct (drive policy limit nodes fuel (start s)) (drive policy limit nodes' fuel (start s)) :=
  (drive_same ⟨rfl, rfl, rfl, .refl s⟩ hraised hevidence ha ha' hagree).conduct

theorem runNode_answers {n : Node} {x : Effect} (h : (runNode policy n s w).effect = some x) (past : List Call) :
    Answers ⟨fun _ => w.retry, fun _ => w.payment⟩ past x := by
  have hx := runNode_effect h
  cases n with
  | policyCheck =>
      simp only [nodeFunction, nodePolicyCheck] at hx
      split at hx
      · cases hx
      · cases hx
        trivial
  | actionExecution =>
      simp only [nodeFunction, nodeActionExecution] at hx
      split at hx
      · cases hx
      · split at hx <;> cases hx <;> first | rfl | trivial
  | verification =>
      simp only [nodeFunction, nodeVerification] at hx
      split at hx
      · cases hx
      · cases hx
      · cases hx
      · split at hx
        · cases hx
        · cases hx
          rfl
      · cases hx
      · cases hx
  | riskDetection | contextBuilder | diagnosis | strategy | observation | escalation | completion | replan => cases hx

theorem answered_of_const {limit : Nat} (nodes : Nat → NodeInput) {retry : Except String RetryResult}
    {payment : Except String PaymentResult} (hr : ∀ k, (nodes k).retry = retry)
    (hp : ∀ k, (nodes k).payment = payment) (fuel : Nat) :
    Answered ⟨fun _ => retry, fun _ => payment⟩ (drive policy limit nodes fuel (start s)).trace := by
  have hreach : Reach (step policy limit) (fun _ w => w.retry = retry ∧ w.payment = payment) (start s)
      (drive policy limit nodes fuel (start s)) :=
    drive_reach_of (fun w => w.retry = retry ∧ w.payment = payment) nodes (fun k => ⟨hr k, hp k⟩) fuel (start s)
  refine hreach.invariant (I := fun r => Answered ⟨fun _ => retry, fun _ => payment⟩ r.trace)
    (by exact trivial) fun r w u _ hi hP hs => ?_
  cases hn : r.next with
  | finished => simp [step, hn] at hs
  | raised e => simp [step, hn] at hs
  | node n =>
      by_cases hl : limit ≤ r.trace.length
      · simp only [step, hn, if_pos hl] at hs
        cases hs
        exact hi
      · rw [(step_node hn hl hs).1]
        obtain ⟨rfl, rfl⟩ := hP
        exact ⟨fun x hx => runNode_answers hx _, hi⟩

instance (e e' : Execution) : Decidable (Agrees e e') := by
  unfold Agrees
  split <;> infer_instance

theorem agreeAt_of_zip {trace trace' : List Execution}
    (h : ((trace.reverse.zip trace'.reverse).all fun p => decide (Agrees p.1 p.2)) = true) : AgreeAt trace trace' := by
  intro k e e' hk hk' _
  have hmem : (e, e') ∈ trace.reverse.zip trace'.reverse := by
    refine List.mem_of_getElem? (i := k) ?_
    rw [List.getElem?_zip_eq_some]
    exact ⟨hk, hk'⟩
  exact of_decide_eq_true (List.all_eq_true.mp h _ hmem)

def sampleProvider : Provider where
  retry := fun _ => .ok {
    attemptId := "attempt"
    paymentId := "payment"
    status := .success
    amountPaise := 100000
    currency := "INR"
    provider := .simulation }
  payment := fun _ => .ok {
    paymentId := "payment"
    status := .success
    amountPaise := 100000
    currency := "INR"
    provider := .simulation }

def retryNodes (text : String) (expected : Nat) : Nat → NodeInput := fun _ =>
  { diagnosis := some { sampleDiagnosis with diagnosis := text, isRecoverable := false }
    strategy := some { sampleStrategy .retryNow with
      reason := text
      requestedAction := [("claimed", .str text)]
      expectedRecoveryPaise := expected
      expected_bound := Int.natCast_nonneg expected }
    retry := sampleProvider.retry []
    payment := sampleProvider.payment [] }

theorem retryNodes_answered (text : String) (expected : Nat) :
    Answered sampleProvider
      (drive samplePolicy recursionLimit (retryNodes text expected) (recursionLimit + 1) (start sampleState)).trace :=
  answered_of_const (retryNodes text expected) (fun _ => rfl) (fun _ => rfl) (recursionLimit + 1)

theorem llm_noninterference_sample :
    SameConduct (drive samplePolicy recursionLimit (retryNodes "paid" 100000) (recursionLimit + 1) (start sampleState))
      (drive samplePolicy recursionLimit (retryNodes "" 0) (recursionLimit + 1) (start sampleState)) :=
  llm_noninterference samplePolicy recursionLimit (recursionLimit + 1) sampleProvider sampleState
    (retryNodes "paid" 100000) (retryNodes "" 0) (fun _ => rfl) (fun _ => rfl) (retryNodes_answered "paid" 100000)
    (retryNodes_answered "" 0) (agreeAt_of_zip (by decide +kernel))

end RevenueRescue.Noninterference
