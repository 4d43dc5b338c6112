import RevenueRescue.Agents.Graph

namespace RevenueRescue.GraphEffects

open Enums PolicySchema PolicyEngine Providers AgentSchemas NodeUtils DeterministicNodes LlmNodes
open RecoveryGraph Machine

def isPayment : Effect → Bool
  | .retryPayment _ _ | .scheduleRetry _ _ _ => true
  | _ => false

/-- What the provider says of a payment that it takes. -/
def retryAnswer : Effect → Option RetryResult
  | .retryPayment _ (.ok r) | .scheduleRetry _ _ (.ok r) => some r
  | _ => none

def isMessage : Effect → Bool
  | .sendMessage _ _ => true
  | _ => false

def acts (effect : Effect) : Bool := isPayment effect || isMessage effect

def Acting (e : Execution) : Prop := e.effect.any acts = true

instance (e : Execution) : Decidable (Acting e) := inferInstanceAs (Decidable (_ = true))

/-- How many executions of a trace had an effect of a kind. -/
def calls (kind : Effect → Bool) (trace : List Execution) : Nat :=
  trace.countP fun e => e.effect.any kind

@[simp] theorem calls_nil (kind : Effect → Bool) : calls kind [] = 0 := rfl

@[simp] theorem calls_cons (kind : Effect → Bool) (e : Execution) (trace : List Execution) :
    calls kind (e :: trace) = calls kind trace + (if e.effect.any kind then 1 else 0) :=
  List.countP_cons ..

theorem calls_le {kind kind' : Effect → Bool} (h : ∀ x, kind x = true → kind' x = true)
    (trace : List Execution) : calls kind trace ≤ calls kind' trace := by
  refine List.countP_mono_left fun e _ he => ?_
  cases hx : e.effect with
  | none => rw [hx] at he; cases he
  | some x => rw [hx] at he; exact h x he

theorem acting_iff {e : Execution} : Acting e ↔ ∃ effect, e.effect = some effect ∧ acts effect = true := by
  unfold Acting
  cases e.effect <;> simp

/-- What the graph is given and no node writes. -/
structure Inputs where
  caseId : String
  agentRunId : String
  eventType : String
  failureReason : FailureReason
  amountPaise : Int
  currency : String
  customerId : String
  customerSegment : String
  customerOptedOut : Bool
  customerSuspended : Bool
  paymentAlreadySucceeded : Bool
  hoursSinceLastAttempt : Option PyFloat
  checkoutTimeoutElapsed : Bool
  maxReplans : Int

def inputs (s : AgentState) : Inputs where
  caseId := s.caseId
  agentRunId := s.agentRunId
  eventType := s.eventType
  failureReason := s.failureReason
  amountPaise := s.amountPaise
  currency := s.currency
  customerId := s.customerId
  customerSegment := s.customerSegment
  customerOptedOut := s.customerOptedOut
  customerSuspended := s.customerSuspended
  paymentAlreadySucceeded := s.paymentAlreadySucceeded
  hoursSinceLastAttempt := s.hoursSinceLastAttempt
  checkoutTimeoutElapsed := s.checkoutTimeoutElapsed
  maxReplans := s.maxReplans

variable {policy : PolicyConfig} {limit : Nat} {n : Node} {s t : AgentState} {w : NodeInput}

theorem runNode_ok (h : (runNode policy n s w).result = .ok t) :
    ∃ u, (nodeFunction policy n s w).result = .ok u ∧ t = wrapNode n u ∧
      (runNode policy n s w).effect = (nodeFunction policy n s w).effect := by
  unfold runNode at h ⊢
  cases hw : w.raised with
  | some e => rw [hw] at h; cases h
  | none =>
      simp only [hw] at h ⊢
      cases hr : (nodeFunction policy n s w).result with
      | error e => rw [hr] at h; cases h
      | ok u => rw [hr] at h; cases h; exact ⟨u, rfl, rfl, trivial⟩

theorem runNode_effect {effect : Effect} (h : (runNode policy n s w).effect = some effect) :
    (nodeFunction policy n s w).effect = some effect := by
  unfold runNode at h
  cases hw : w.raised with
  | some e => rw [hw] at h; cases h
  | none => rw [hw] at h; exact h

/-- The edges, each with what the routing functions read to take it. -/
inductive Edge (t : AgentState) : Node → Node → Prop
  | rejected (h : t.caseIsStopped = true ∨ t.error.any (· ≠ "") = true) : Edge t .riskDetection .completion
  | accepted (h : t.caseIsStopped = false) : Edge t .riskDetection .contextBuilder
  | contextBuilder : Edge t .contextBuilder .diagnosis
  | diagnosis : Edge t .diagnosis .strategy
  | strategy : Edge t .strategy .policyCheck
  | approved (h : t.policyResult.map (·.decision) = some .approved) : Edge t .policyCheck .actionExecution
  | referred (h : t.policyResult.map (·.decision) ≠ some .approved) : Edge t .policyCheck .escalation
  | refused (h : t.policyResult.map (·.decision) = none ∨ t.policyResult.map (·.decision) = some .denied) :
      Edge t .policyCheck .completion
  | actionExecution : Edge t .actionExecution .observation
  | observation : Edge t .observation .verification
  | recovered (h : t.caseIsRecovered = true) : Edge t .verification .completion
  | again (h : t.caseIsRecovered = false) (hc : t.replanCount < t.maxReplans) :
      Edge t .verification .replan
  | exhausted (h : t.caseIsRecovered = false) (hc : t.maxReplans ≤ t.replanCount) :
      Edge t .verification .escalation
  | replan : Edge t .replan .strategy
  | escalation : Edge t .escalation .completion

theorem routeAfterPolicyCheck_edge : Edge t .policyCheck (routeAfterPolicyCheck t) := by
  unfold routeAfterPolicyCheck
  generalize hd : t.policyResult.map (·.decision) = decision
  cases decision with
  | none => exact .refused (.inl hd)
  | some d =>
      cases d with
      | approved => exact .approved hd
      | denied => exact .refused (.inr hd)
      | escalate | stop => exact .referred (by simp [hd])

theorem routeAfterVerification_edge : Edge t .verification (routeAfterVerification t) := by
  unfold routeAfterVerification
  by_cases hr : t.caseIsRecovered = true
  · rw [if_pos hr]; exact .recovered hr
  · rw [if_neg hr]
    simp only [Bool.not_eq_true] at hr
    by_cases hc : t.replanCount < t.maxReplans
    · simp only [if_pos hc, ite_self]; exact .again hr hc
    · simp only [if_neg hc, ite_self]; exact .exhausted hr (not_lt.mp hc)

theorem successor_edge {m : Node} (h : successor n t = some m) : Edge t n m := by
  cases n with
  | riskDetection =>
      cases h
      unfold routeAfterRiskDetection
      by_cases hs : (t.caseIsStopped || t.error.any (· ≠ "")) = true
      · rw [if_pos hs]
        exact .rejected (by simpa using hs)
      · rw [if_neg hs]
        exact .accepted (by simp only [Bool.or_eq_true, not_or] at hs; simpa using hs.1)
  | contextBuilder => cases h; exact .contextBuilder
  | diagnosis => cases h; exact .diagnosis
  | strategy => cases h; exact .strategy
  | policyCheck => cases h; exact routeAfterPolicyCheck_edge
  | actionExecution => cases h; exact .actionExecution
  | observation => cases h; exact .observation
  | verification => cases h; exact routeAfterVerification_edge
  | escalation => cases h; exact .escalation
  | completion => cases h
  | replan => cases h; exact .replan

theorem edge_of_advance {count : Nat} {m : Node} (h : advance limit count n t = .node m) : Edge t n m :=
  successor_edge (advance_eq_node.mp h)

theorem edge_of_next {count : Nat} {m : Node} {trace : List Execution}
    (h : (Run.mk (advance limit count n t) t trace).next = .node m) : Edge t n m := edge_of_advance h

def executed (s : AgentState) : RecoveryStrategy :=
  (s.caseStrategy.map (·.recoveryStrategy)).getD .escalate

/-- What each node can do outside and to the state, when it returns. -/
inductive Returns (policy : PolicyConfig) (s : AgentState) (w : NodeInput) :
    Node → Option Effect → AgentState → Prop
  | riskStopped {reason : Option Reason} {error : Option String}
      (h : s.caseIsRecovered = true ∨ s.paymentAlreadySucceeded = true ∨ s.amountPaise ≤ 0) :
      Returns policy s w .riskDetection none { addTrace s .riskDetection with
        caseIsStopped := true, escalationReason := reason, error := error }
  | riskPassed (hr : s.caseIsRecovered = false) (hp : s.paymentAlreadySucceeded = false)
      (ha : 0 < s.amountPaise) :
      Returns policy s w .riskDetection none (addTrace s .riskDetection)
  | contextBuilder {p v : Option PyFloat} {m : Option String} {e : Option QuantitativeEvidence}
      {d : Option Int} :
      Returns policy s w .contextBuilder none { addTrace s .contextBuilder with
        mlProbability := p, mlExpectedValuePaise := v, mlModelVersion := m, mlEvidence := e,
        ruleRetryDelayHours := d }
  | diagnosis (diag : DiagnosisOutput) :
      Returns policy s w .diagnosis none { addTrace s .diagnosis with caseDiagnosis := some diag }
  | strategy (strat : StrategyOutput) :
      Returns policy s w .strategy none { addTrace s .strategy with caseStrategy := some strat }
  | policyMissing (h : s.caseStrategy = none) (result : PolicyEvaluationResult)
      (hd : result.decision = .escalate) :
      Returns policy s w .policyCheck none { addTrace s .policyCheck with policyResult := some result }
  | policyDecided {strat : StrategyOutput} (h : s.caseStrategy = some strat) :
      Returns policy s w .policyCheck
        (some (.authorize (policyContext s strat) (authorize policy (policyContext s strat))))
        { addTrace s .policyCheck with
          policyResult := some (authorize policy (policyContext s strat)) }
  | blocked (h : s.policyResult.map (·.decision) ≠ some .approved) (result : ExecutionResult) :
      Returns policy s w .actionExecution none { addTrace s .actionExecution with
        executionResult := some result }
  | scheduled (h : s.policyResult.map (·.decision) = some .approved) (hs : executed s = .scheduleRetry)
      {r : RetryResult} (hr : w.retry = .ok r) :
      Returns policy s w .actionExecution
        (some (.scheduleRetry (retryRequest s .scheduleRetry) (scheduledDelay s.caseStrategy) w.retry))
        (recordRetry (addTrace s .actionExecution) r)
  | retried (h : s.policyResult.map (·.decision) = some .approved) (hs : executed s = .retryNow)
      {r : RetryResult} (hr : w.retry = .ok r) :
      Returns policy s w .actionExecution (some (.retryPayment (retryRequest s .retryNow) w.retry))
        (recordRetry (addTrace s .actionExecution) r)
  | resumed (h : s.policyResult.map (·.decision) = some .approved) (hs : executed s = .checkoutRecovery) :
      Returns policy s w .actionExecution (some (.sendMessage .checkoutRecovery w.messageId))
        { addTrace s .actionExecution with
          communicationCount := s.communicationCount + 1
          checkoutRecoveryMessageCount := s.checkoutRecoveryMessageCount + 1
          executionResult := some (.checkoutRecovery w.messageId) }
  | messaged (h : s.policyResult.map (·.decision) = some .approved) {strategy : RecoveryStrategy}
      (hs : executed s = strategy) (hm : strategy = .reminder ∨ strategy = .paymentMethodUpdate) :
      Returns policy s w .actionExecution (some (.sendMessage strategy w.messageId))
        { addTrace s .actionExecution with
          communicationCount := s.communicationCount + 1
          executionResult := some (.communication strategy w.messageId) }
  | noEffect (h : s.policyResult.map (·.decision) = some .approved)
      (hs : executed s = .promiseToPay ∨ executed s = .escalate) :
      Returns policy s w .actionExecution none { addTrace s .actionExecution with
        executionResult := some (.noEffect (executed s)) }
  | observation : Returns policy s w .observation none (addTrace s .observation)
  | unverified (h : ∀ a tx o f m, s.executionResult = some (.paymentRetry a tx o f m) → tx = "")
      (v : VerificationResult) :
      Returns policy s w .verification none { addTrace s .verification with
        verificationResult := some v }
  | unpaid {a tx : String} {o : PaymentStatus} {f : Option String} {m : Int} {payment : PaymentResult}
      (h : s.executionResult = some (.paymentRetry a tx o f m)) (htx : tx ≠ "")
      (hp : w.payment = .ok payment) (hs : payment.status ≠ .success) :
      Returns policy s w .verification (some (.getPayment tx w.payment)) { addTrace s .verification with
        verificationResult := some (paymentVerdict tx payment w.time) }
  | recovered {a tx : String} {o : PaymentStatus} {f : Option String} {m : Int} {payment : PaymentResult}
      (h : s.executionResult = some (.paymentRetry a tx o f m)) (htx : tx ≠ "")
      (hp : w.payment = .ok payment) (hs : payment.status = .success) :
      Returns policy s w .verification (some (.getPayment tx w.payment)) { addTrace s .verification with
        verificationResult := some (paymentVerdict tx payment w.time)
        caseIsRecovered := true
        caseIsStopped := true }
  | escalation {reason : Reason} :
      Returns policy s w .escalation none { addTrace s .escalation with
        escalationReason := some reason, caseIsStopped := true }
  | completion {stopped : Bool} {reason : Option Reason}
      (h : s.caseIsStopped = true ∨
        (s.policyResult.map (·.decision) = some .denied ∧ s.caseIsRecovered = false) → stopped = true) :
      Returns policy s w .completion none { addTrace s .completion with
        caseIsStopped := stopped, escalationReason := reason }
  | replan : Returns policy s w .replan none (incrementReplan s)

theorem nodeRiskDetection_returns :
    Returns policy s w .riskDetection none (nodeRiskDetection s) := by
  unfold nodeRiskDetection
  split
  · exact .riskStopped (.inl ‹_›)
  · split
    · exact .riskStopped (.inr (.inl ‹_›))
    · split
      · exact .riskStopped (.inr (.inr ‹_›))
      · exact .riskPassed (by simpa using ‹¬ s.caseIsRecovered = true›) (by simpa using ‹¬ s.paymentAlreadySucceeded = true›) (by omega)

theorem nodeContextBuilder_returns :
    Returns policy s w .contextBuilder none (nodeContextBuilder s w.evidence) := by
  unfold nodeContextBuilder
  cases w.evidence with
  | some e => exact .contextBuilder
  | none => exact .contextBuilder

theorem nodeCompletion_returns : Returns policy s w .completion none (nodeCompletion s) := by
  unfold nodeCompletion
  cases hp : s.policyResult with
  | some result =>
      by_cases h : result.decision = .denied ∧ s.caseIsRecovered = false
      · simp only [if_pos h]; exact .completion fun _ => rfl
      · simp only [if_neg h]
        exact .completion fun hs => hs.resolve_right fun hd => h (by simpa [hp] using hd)
  | none => exact .completion fun hs => hs.resolve_right (by simp [hp])

theorem nodePolicyCheck_returns (h : (nodePolicyCheck s policy).result = .ok t) :
    Returns policy s w .policyCheck (nodePolicyCheck s policy).effect t := by
  unfold nodePolicyCheck at h ⊢
  cases hc : s.caseStrategy with
  | none => rw [hc] at h; cases h; exact .policyMissing hc _ rfl
  | some strat => rw [hc] at h; cases h; exact .policyDecided hc

theorem nodeActionExecution_returns (h : (nodeActionExecution s w.retry w.messageId).result = .ok t) :
    Returns policy s w .actionExecution (nodeActionExecution s w.retry w.messageId).effect t := by
  unfold nodeActionExecution at h ⊢
  by_cases hd : s.policyResult.map (·.decision) = some .approved
  · simp only [hd, ne_eq, not_true_eq_false, if_false] at h ⊢
    cases hs : (s.caseStrategy.map (·.recoveryStrategy)).getD .escalate <;> simp only [hs] at h ⊢
    case retryNow =>
      cases hr : w.retry with
      | error e => rw [hr] at h; cases h
      | ok r => rw [hr] at h; cases h; exact hr ▸ .retried hd hs hr
    case scheduleRetry =>
      cases hr : w.retry with
      | error e => rw [hr] at h; cases h
      | ok r => rw [hr] at h; cases h; exact hr ▸ .scheduled hd hs hr
    case checkoutRecovery => cases h; exact .resumed hd hs
    case reminder => cases h; exact .messaged hd hs (.inl rfl)
    case paymentMethodUpdate => cases h; exact .messaged hd hs (.inr rfl)
    case promiseToPay => cases h; exact hs ▸ .noEffect hd (.inl hs)
    case escalate => cases h; exact hs ▸ .noEffect hd (.inr hs)
  · rw [if_pos hd] at h ⊢
    cases h
    exact .blocked hd _

theorem nodeVerification_returns (h : (nodeVerification s w.payment w.time).result = .ok t) :
    Returns policy s w .verification (nodeVerification s w.payment w.time).effect t := by
  unfold nodeVerification at h ⊢
  cases he : s.executionResult with
  | none => rw [he] at h; cases h; exact .unverified (by simp [he]) _
  | some r =>
      cases r with
      | blocked a b | checkoutRecovery m | communication a b | noEffect a =>
          rw [he] at h; cases h; exact .unverified (by simp [he]) _
      | paymentRetry a tx o f m =>
          simp only [he] at h ⊢
          by_cases htx : tx = ""
          · rw [if_pos htx] at h ⊢
            cases h
            exact .unverified (fun _ _ _ _ _ hx => by rw [he] at hx; cases hx; exact htx) _
          · rw [if_neg htx] at h ⊢
            cases hw : w.payment with
            | error e => rw [hw] at h; cases h
            | ok payment =>
                rw [hw] at h
                by_cases hp : payment.status = .success
                · simp only [Except.map, hp, if_true] at h
                  cases h
                  exact hw ▸ .recovered he htx hw hp
                · simp only [Except.map, hp, if_false] at h
                  cases h
                  exact hw ▸ .unpaid he htx hw hp

theorem nodeFunction_returns (h : (nodeFunction policy n s w).result = .ok t) :
    Returns policy s w n (nodeFunction policy n s w).effect t := by
  cases n with
  | riskDetection => cases h; exact nodeRiskDetection_returns
  | contextBuilder => cases h; exact nodeContextBuilder_returns
  | diagnosis =>
      obtain ⟨diag, -, rfl⟩ := nodeDiagnosis_ok h
      exact .diagnosis diag
  | strategy =>
      obtain ⟨strat, rfl⟩ := nodeStrategy_ok h
      exact .strategy strat
  | policyCheck => exact nodePolicyCheck_returns h
  | actionExecution => exact nodeActionExecution_returns h
  | observation => cases h; exact .observation
  | verification => exact nodeVerification_returns h
  | escalation => cases h; exact .escalation
  | completion => cases h; exact nodeCompletion_returns
  | replan => cases h; exact .replan

theorem Returns.inputs_eq {effect : Option Effect} (h : Returns policy s w n effect t) :
    inputs t = inputs s := by
  cases h <;> rfl

theorem Returns.counts {effect : Option Effect} (h : Returns policy s w n effect t) :
    t.retryCount = s.retryCount + (if effect.any isPayment then 1 else 0) ∧
      t.communicationCount = s.communicationCount + (if effect.any isMessage then 1 else 0) := by
  cases h <;> simp [recordRetry, incrementReplan, isPayment, isMessage]

/-- The effects that the executor has for a strategy. -/
inductive CarriesOut (s : AgentState) : RecoveryStrategy → Effect → Prop
  | scheduleRetry (answer : Except String RetryResult) :
      CarriesOut s .scheduleRetry
        (.scheduleRetry (retryRequest s .scheduleRetry) (scheduledDelay s.caseStrategy) answer)
  | retryNow (answer : Except String RetryResult) :
      CarriesOut s .retryNow (.retryPayment (retryRequest s .retryNow) answer)
  | message {strategy : RecoveryStrategy} (id : String)
      (h : strategy = .checkoutRecovery ∨ strategy = .reminder ∨ strategy = .paymentMethodUpdate) :
      CarriesOut s strategy (.sendMessage strategy id)

theorem nodeActionExecution_effect {answer : Except String RetryResult} {id : String} {effect : Effect}
    (h : (nodeActionExecution s answer id).effect = some effect) :
    s.policyResult.map (·.decision) = some .approved ∧ CarriesOut s (executed s) effect := by
  unfold nodeActionExecution at h
  by_cases hd : s.policyResult.map (·.decision) = some .approved
  · refine ⟨hd, ?_⟩
    simp only [hd, ne_eq, not_true_eq_false, if_false] at h
    unfold executed
    cases hs : (s.caseStrategy.map (·.recoveryStrategy)).getD .escalate <;> simp only [hs] at h
    case retryNow => cases h; exact .retryNow answer
    case scheduleRetry => cases h; exact .scheduleRetry answer
    case checkoutRecovery => cases h; exact .message id (by simp)
    case reminder => cases h; exact .message id (by simp)
    case paymentMethodUpdate => cases h; exact .message id (by simp)
    case promiseToPay => cases h
    case escalate => cases h
  · rw [if_pos hd] at h
    cases h

/-- Where an effect comes from: the node that has it, and the state it saw. -/
inductive Source (policy : PolicyConfig) (s : AgentState) (w : NodeInput) : Node → Effect → Prop
  | authorize {strat : StrategyOutput} (h : s.caseStrategy = some strat) :
      Source policy s w .policyCheck
        (.authorize (policyContext s strat) (authorize policy (policyContext s strat)))
  | carriesOut {effect : Effect} (h : s.policyResult.map (·.decision) = some .approved)
      (hc : CarriesOut s (executed s) effect) : Source policy s w .actionExecution effect
  | getPayment (id : String) : Source policy s w .verification (.getPayment id w.payment)

theorem nodeFunction_effect {effect : Effect} (h : (nodeFunction policy n s w).effect = some effect) :
    Source policy s w n effect := by
  cases n with
  | policyCheck =>
      unfold nodeFunction nodePolicyCheck at h
      cases hc : s.caseStrategy with
      | none => rw [hc] at h; cases h
      | some strat => rw [hc] at h; cases h; exact .authorize hc
  | actionExecution =>
      obtain ⟨hd, hc⟩ := nodeActionExecution_effect h
      exact .carriesOut hd hc
  | verification =>
      unfold nodeFunction nodeVerification at h
      cases he : s.executionResult with
      | none => rw [he] at h; cases h
      | some r =>
          cases r with
          | paymentRetry a tx o f m =>
              simp only [he] at h
              split at h
              · cases h
              · cases h; exact .getPayment tx
          | blocked a b | checkoutRecovery m | communication a b | noEffect a =>
              rw [he] at h; cases h
  | riskDetection | contextBuilder | diagnosis | strategy | observation | escalation | completion
  | replan => cases h

/-- Only the executor acts, and only on a stored approval. -/
theorem Source.acts {effect : Effect} (h : Source policy s w n effect) (ha : acts effect = true) :
    n = .actionExecution ∧ s.policyResult.map (·.decision) = some .approved ∧
      CarriesOut s (executed s) effect := by
  cases h with
  | authorize _ => cases ha
  | carriesOut hd hc => exact ⟨rfl, hd, hc⟩
  | getPayment id => cases ha

inductive Stepped (policy : PolicyConfig) (limit : Nat) (r : Run) (w : NodeInput) : Run → Prop
  | gaveUp {n : Node} (hn : r.next = .node n) (hl : limit ≤ r.trace.length) :
      Stepped policy limit r w { r with next := outOfSteps }
  | raised {n : Node} {e : String} {effect : Option Effect} (hn : r.next = .node n)
      (hl : r.trace.length < limit) (hs : ∀ x, effect = some x → Source policy r.state w n x)
      (hf : (runNode policy n r.state w).result = .error e) :
      Stepped policy limit r w
        ⟨.raised e, r.state, ⟨n, w.time, r.state, effect, none⟩ :: r.trace⟩
  | returned {n : Node} {u : AgentState} {effect : Option Effect} (hn : r.next = .node n)
      (hl : r.trace.length < limit) (hs : ∀ x, effect = some x → Source policy r.state w n x)
      (hu : Returns policy r.state w n effect u) (hf : (nodeFunction policy n r.state w).result = .ok u) :
      Stepped policy limit r w
        ⟨advance limit (r.trace.length + 1) n (wrapNode n u), wrapNode n u,
          ⟨n, w.time, r.state, effect, some (wrapNode n u)⟩ :: r.trace⟩

theorem step_cases {r r' : Run} (h : step policy limit r w = some r') : Stepped policy limit r w r' := by
  unfold step at h
  cases hn : r.next with
  | finished => simp [hn] at h
  | raised e => simp [hn] at h
  | node n =>
      simp only [hn] at h
      by_cases hl : limit ≤ r.trace.length
      · rw [if_pos hl] at h
        cases h
        exact .gaveUp hn hl
      · rw [if_neg hl] at h
        have hs : ∀ x, (runNode policy n r.state w).effect = some x → Source policy r.state w n x :=
          fun x hx => nodeFunction_effect (runNode_effect hx)
        cases hr : (runNode policy n r.state w).result with
        | ok state =>
            simp only [hr, Option.some.injEq] at h
            obtain ⟨u, hf, rfl, he⟩ := runNode_ok hr
            subst h
            exact .returned hn (not_le.mp hl) hs (he ▸ nodeFunction_returns hf) hf
        | error e =>
            simp only [hr, Option.some.injEq] at h
            subst h
            exact .raised hn (not_le.mp hl) hs hr

theorem step_progress {r r' : Run} (h : step policy limit r w = some r') :
    (r'.trace.length = r.trace.length + 1 ∧ r.trace.length < limit) ∨ ∀ n, r'.next ≠ .node n := by
  cases step_cases h with
  | gaveUp => exact .inr (by simp)
  | raised => exact .inr (by simp)
  | returned _ hl => exact .inl ⟨rfl, hl⟩

theorem step_stopped {r : Run} (h : ∀ n, r.next ≠ .node n) (w : NodeInput) : step policy limit r w = none := by
  unfold step
  cases hn : r.next with
  | node n => exact absurd hn (h n)
  | finished | raised => rfl

theorem step_enabled (policy : PolicyConfig) (limit : Nat) {r : Run} (hn : r.next = .node n)
    (w : NodeInput) : ∃ r', step policy limit r w = some r' := by
  simp only [step, hn]
  split
  · exact ⟨_, rfl⟩
  · split <;> exact ⟨_, rfl⟩

theorem drive_stopped {nodes : Nat → NodeInput} (fuel : Nat) {r : Run} (h : ∀ n, r.next ≠ .node n) :
    drive policy limit nodes fuel r = r := by
  cases fuel with
  | zero => rfl
  | succ fuel => simp only [drive, step_stopped h]

/-- The graph always comes to an end: no cycle of replans outlasts the limit. -/
theorem drive_settled {nodes : Nat → NodeInput} {fuel : Nat} {r : Run}
    (h : limit < r.trace.length + fuel) (hl : r.trace.length ≤ limit) :
    ∀ n, (drive policy limit nodes fuel r).next ≠ .node n := by
  induction fuel generalizing r with
  | zero => omega
  | succ fuel ih =>
      intro n hn
      cases hnext : r.next with
      | finished | raised => rw [drive_stopped _ (by simp [hnext]), hnext] at hn; cases hn
      | node m =>
          obtain ⟨r', hs⟩ := step_enabled policy limit hnext
            (nodes r.trace.length)
          simp only [drive, hs] at hn
          rcases step_progress hs with ⟨hlen, hlt⟩ | hend
          · exact ih (by omega) (by omega) n hn
          · rw [drive_stopped _ hend] at hn
            exact hend n hn

theorem drive_reach_of (Q : NodeInput → Prop) (nodes : Nat → NodeInput) (hQ : ∀ i, Q (nodes i)) (fuel : Nat)
    (r : Run) : Reach (step policy limit) (fun _ w => Q w) r (drive policy limit nodes fuel r) := by
  induction fuel generalizing r with
  | zero => exact .refl
  | succ fuel ih =>
      unfold drive
      cases hs : step policy limit r (nodes r.trace.length) with
      | none => exact .refl
      | some r' => exact (Reach.single (hQ _) hs).trans (ih r')

theorem drive_reach (nodes : Nat → NodeInput) (fuel : Nat) (r : Run) :
    Reach (step policy limit) Any r (drive policy limit nodes fuel r) :=
  (drive_reach_of (fun _ => True) nodes (fun _ => trivial) fuel r).any

/-- What `invoke` returns is the state of a finished run. -/
theorem invoke_ok {nodes : Nat → NodeInput} (h : invoke policy limit nodes s = .ok t) :
    ∃ r, Reach (step policy limit) Any (start s) r ∧ r.next = .finished ∧ r.state = t := by
  refine ⟨_, drive_reach nodes (limit + 1) (start s), ?_⟩
  cases hn : (drive policy limit nodes (limit + 1) (start s)).next with
  | finished => simp only [invoke, hn, Except.ok.injEq] at h; exact ⟨rfl, h⟩
  | raised e => simp only [invoke, hn, reduceCtorEq] at h
  | node n => exact absurd hn (drive_settled (by simp [start]) (by simp [start]) n)

theorem times_of_reach {P : Run → NodeInput → Prop} {Q : ℚ → Prop} {r r' : Run}
    (h : Reach (step policy limit) P r r') (hPQ : ∀ r w, P r w → Q w.time)
    (hr : ∀ e ∈ r.trace, Q e.time) : ∀ e ∈ r'.trace, Q e.time := by
  refine h.invariant (I := fun r' => ∀ e ∈ r'.trace, Q e.time) hr fun r w r' _ hi hP hs => ?_
  cases step_cases hs with
  | gaveUp => exact hi
  | raised | returned => exact List.forall_mem_cons.mpr ⟨hPQ r w hP, hi⟩

theorem Returns.recovered_mono {effect : Option Effect} (h : Returns policy s w n effect t)
    (hr : s.caseIsRecovered = true) : t.caseIsRecovered = true := by
  cases h <;> first | exact hr | rfl

theorem inputs_of_reach {P : Run → NodeInput → Prop} {r r' : Run}
    (h : Reach (step policy limit) P r r') : inputs r'.state = inputs r.state := by
  refine h.invariant (I := fun r' => inputs r'.state = inputs r.state) rfl fun _ _ _ _ hi _ hs => ?_
  cases step_cases hs with
  | gaveUp | raised => exact hi
  | returned _ _ _ hu => exact hu.inputs_eq.trans hi

theorem recovered_of_reach {P : Run → NodeInput → Prop} {r r' : Run}
    (h : Reach (step policy limit) P r r') (hr : r.state.caseIsRecovered = true) :
    r'.state.caseIsRecovered = true := by
  refine h.invariant (I := fun r' => r'.state.caseIsRecovered = true) hr fun _ _ _ _ hi _ hs => ?_
  cases step_cases hs with
  | gaveUp | raised => exact hi
  | returned _ _ _ hu => exact hu.recovered_mono hi

/-- Nothing but the end of the run is left. -/
def Closing (r : Run) : Prop := ∀ n, r.next = .node n → n = .escalation ∨ n = .completion

theorem closing_step {r r' : Run} (hc : Closing r) (h : step policy limit r w = some r') :
    Closing r' ∧ calls acts r'.trace = calls acts r.trace := by
  have quiet {n : Node} {effect : Option Effect} (hn : r.next = .node n)
      (hs : ∀ x, effect = some x → Source policy r.state w n x) : effect = none := by
    cases effect with
    | none => rfl
    | some x => rcases hc n hn with rfl | rfl <;> cases hs x rfl
  cases step_cases h with
  | gaveUp hn hl => exact ⟨by simp [Closing], rfl⟩
  | raised hn hl hs => exact ⟨by simp [Closing], by simp [quiet hn hs]⟩
  | returned hn hl hs hu =>
      refine ⟨fun m hm => ?_, by simp [quiet hn hs]⟩
      have he := edge_of_advance hm
      rcases hc _ hn with rfl | rfl
      · cases he; exact .inr rfl
      · cases he

theorem closing_reach {P : Run → NodeInput → Prop} {r r' : Run} (hc : Closing r)
    (h : Reach (step policy limit) P r r') :
    Closing r' ∧ calls acts r'.trace = calls acts r.trace :=
  h.invariant (I := fun r' => Closing r' ∧ calls acts r'.trace = calls acts r.trace) ⟨hc, rfl⟩
    fun _ _ _ _ hi _ hs => ⟨(closing_step hi.1 hs).1, (closing_step hi.1 hs).2.trans hi.2⟩

end RevenueRescue.GraphEffects
