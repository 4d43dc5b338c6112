import RevenueRescue.Agents.Noninterference
import RevenueRescue.Foundation.Tandem
import RevenueRescue.Policies.Tightening

namespace RevenueRescue.TightenedRuns

open Enums PolicySchema PolicyEngine Providers AgentSchemas NodeUtils DeterministicNodes LlmNodes RecoveryGraph
open GraphEffects PolicyTightening

/-- The effects that somebody outside notices: all but the decisions of the policy engine. -/
def external : Effect → Bool
  | .authorize _ _ => false
  | _ => true

def contact (e : Execution) : Option Effect := e.effect.filter external

def contacts (trace : List Execution) : List Effect := trace.filterMap contact

/-- What the world outside can know of a run: the nodes, which ask the LLM and the
scorer, and what was said to the provider and to the customer. -/
def seen (trace : List Execution) : List (Node × Option Effect) := trace.map fun e => (e.node, contact e)

/-- The LLM, the scorer, the provider and the clock, as one answer to what has happened so far. -/
abbrev World := List (Node × Option Effect) → NodeInput

def inhabit (policy : PolicyConfig) (limit : Nat) (world : World) (r : Run) : Option Run :=
  step policy limit r (world (seen r.trace))

def runIn (policy : PolicyConfig) (limit : Nat) (world : World) (fuel : Nat) (s : AgentState) : Run :=
  Tandem.settle (inhabit policy limit world) fuel (start s)

/-- What the router, the executor and the closing nodes read of a policy result. -/
def ruling (result : PolicyEvaluationResult) : PolicyDecision × Reason := (result.decision, result.reason)

def ruled (x : Option PolicyEvaluationResult) (s : AgentState) : AgentState := { s with policyResult := x }

/-- States that differ in the policy that a ruling names only. -/
inductive Similar (s : AgentState) : AgentState → Prop
  | intro (x : Option PolicyEvaluationResult) (h : s.policyResult.map ruling = x.map ruling) : Similar s (ruled x s)

structure Together (r r' : Run) : Prop where
  next : r.next = r'.next
  story : seen r.trace = seen r'.trace
  state : Similar r.state r'.state

/-- `r'` has done no more than `r` outside. -/
structure Within (r' r : Run) : Prop where
  outside : contacts r'.trace <:+ contacts r.trace
  retryCount : r'.state.retryCount ≤ r.state.retryCount
  communicationCount : r'.state.communicationCount ≤ r.state.communicationCount
  checkoutMessages : r'.state.checkoutRecoveryMessageCount ≤ r.state.checkoutRecoveryMessageCount
  recovered : r'.state.caseIsRecovered = true → r.state.caseIsRecovered = true

structure Parted (r r' : Run) : Prop where
  closing : Closing r'
  within : Within r' r

variable {policy p q : PolicyConfig} {limit : Nat} {world : World} {s t u : AgentState} {w : NodeInput} {n : Node}
  {r r' v : Run}

theorem Similar.refl (s : AgentState) : Similar s s := .intro s.policyResult rfl

theorem Similar.decision (h : Similar s t) :
    s.policyResult.map (·.decision) = t.policyResult.map (·.decision) := by
  cases h with
  | intro x hx => simpa [Option.map_map, Function.comp_def, ruling, ruled] using congrArg (Option.map Prod.fst) hx

theorem Similar.reason (h : Similar s t) : s.policyResult.map (·.reason) = t.policyResult.map (·.reason) := by
  cases h with
  | intro x hx => simpa [Option.map_map, Function.comp_def, ruling, ruled] using congrArg (Option.map Prod.snd) hx

theorem contacts_eq (trace : List Execution) : contacts trace = (seen trace).filterMap Prod.snd := by
  rw [seen, List.filterMap_map]
  rfl

theorem Together.within (h : Together r r') : Within r' r := by
  have hcontacts : contacts r'.trace = contacts r.trace := by rw [contacts_eq, contacts_eq, h.story]
  obtain ⟨next, state, trace⟩ := r
  obtain ⟨next', state', trace'⟩ := r'
  cases h.state with
  | intro x hx => exact ⟨hcontacts ▸ List.suffix_rfl, le_rfl, le_rfl, le_rfl, id⟩

inductive SimilarResult : Except String AgentState → Except String AgentState → Prop
  | ok {s t : AgentState} (h : Similar s t) : SimilarResult (.ok s) (.ok t)
  | error (e : String) : SimilarResult (.error e) (.error e)

structure SimilarOutcome (o o' : NodeOutcome) : Prop where
  effect : o.effect = o'.effect
  result : SimilarResult o.result o'.result

theorem Similar.congr (h : Similar s t) {f : AgentState → AgentState} (hf : ∀ x, f (ruled x s) = ruled x (f s))
    (hs : (f s).policyResult = s.policyResult) : Similar (f s) (f t) := by
  cases h with
  | intro x hx =>
      rw [hf]
      exact .intro x (hs ▸ hx)

theorem Similar.map {α : Type} (h : Similar s t) (answer : Except String α) {f : AgentState → α → AgentState}
    (hf : ∀ a x, f (ruled x s) a = ruled x (f s a)) (hs : ∀ a, (f s a).policyResult = s.policyResult) :
    SimilarResult (answer.map (f s)) (answer.map (f t)) := by
  cases answer with
  | error e => exact .error e
  | ok a => exact .ok (h.congr (f := fun s => f s a) (hf a) (hs a))

theorem nodeRiskDetection_similar (h : Similar s t) : Similar (nodeRiskDetection s) (nodeRiskDetection t) := by
  refine h.congr (fun x => ?_) ?_
  · simp only [nodeRiskDetection, apply_ite (ruled x)]
    rfl
  · simp only [nodeRiskDetection, apply_ite AgentState.policyResult, addTrace, ite_self]

theorem nodeContextBuilder_similar (h : Similar s t) (evidence : Option QuantitativeEvidence) :
    Similar (nodeContextBuilder s evidence) (nodeContextBuilder t evidence) := by
  cases evidence with
  | none => exact h.congr (f := fun s => nodeContextBuilder s none) (fun _ => rfl) rfl
  | some e => exact h.congr (f := fun s => nodeContextBuilder s (some e)) (fun _ => rfl) rfl

theorem nodeDiagnosis_similar (h : Similar s t) (reply : Option DiagnosisOutput) :
    SimilarResult (nodeDiagnosis s reply) (nodeDiagnosis t reply) := by
  have haccepted : acceptedDiagnosis t reply = acceptedDiagnosis s reply := by
    cases h
    rfl
  unfold nodeDiagnosis
  rw [haccepted]
  exact h.map (acceptedDiagnosis s reply)
    (f := fun s diag => { addTrace s .diagnosis with caseDiagnosis := some diag }) (fun _ _ => rfl) fun _ => rfl

theorem nodeStrategy_similar (h : Similar s t) (reply : Option StrategyOutput) :
    SimilarResult (nodeStrategy s reply) (nodeStrategy t reply) := by
  have hdiag : acceptedDiagnosis t t.caseDiagnosis = acceptedDiagnosis s s.caseDiagnosis := by
    cases h
    rfl
  have haccepted (diag : DiagnosisOutput) : acceptedStrategy t diag reply = acceptedStrategy s diag reply := by
    cases h
    rfl
  unfold nodeStrategy
  rw [hdiag]
  cases acceptedDiagnosis s s.caseDiagnosis with
  | error e => exact .error e
  | ok diag =>
      simp only [Except.bind, haccepted]
      exact h.map (acceptedStrategy s diag reply)
        (f := fun s strat => { addTrace s .strategy with caseStrategy := some strat }) (fun _ _ => rfl) fun _ => rfl

theorem nodeActionExecution_similar (h : Similar s t) (answer : Except String RetryResult) (id : String) :
    SimilarOutcome (nodeActionExecution s answer id) (nodeActionExecution t answer id) := by
  have hdecision := h.decision
  have hreason := h.reason
  unfold nodeActionExecution
  rw [← hdecision, ← hreason]
  by_cases hd : s.policyResult.map (·.decision) = some .approved
  · have hstrategy : t.caseStrategy = s.caseStrategy := by
      cases h
      rfl
    have hrequest (strategy : RecoveryStrategy) : retryRequest t strategy = retryRequest s strategy := by
      cases h
      rfl
    simp only [hd, ne_eq, not_true_eq_false, if_false, hstrategy]
    generalize (s.caseStrategy.map (·.recoveryStrategy)).getD .escalate = strategy
    cases strategy with
    | scheduleRetry | retryNow =>
        simp only [hrequest]
        exact ⟨rfl, h.map answer (f := fun s => recordRetry (addTrace s .actionExecution)) (fun _ _ => rfl) fun _ => rfl⟩
    | checkoutRecovery | reminder | paymentMethodUpdate | promiseToPay | escalate =>
        refine ⟨rfl, .ok ?_⟩
        cases h with
        | intro x hx => exact .intro x hx
  · rw [if_pos hd, if_pos hd]
    refine ⟨rfl, .ok ?_⟩
    cases h with
    | intro x hx => exact .intro x hx

theorem nodeVerification_similar (h : Similar s t) (answer : Except String PaymentResult) (now : ℚ) :
    SimilarOutcome (nodeVerification s answer now) (nodeVerification t answer now) := by
  have hresult : t.executionResult = s.executionResult := by
    cases h
    rfl
  have hjudged (v : VerificationResult) : Similar { addTrace s .verification with verificationResult := some v }
      { addTrace t .verification with verificationResult := some v } :=
    h.congr (f := fun s => { addTrace s .verification with verificationResult := some v }) (fun _ => rfl) rfl
  unfold nodeVerification
  rw [hresult]
  split
  · exact ⟨rfl, .ok (hjudged _)⟩
  · exact ⟨rfl, .ok (hjudged _)⟩
  · exact ⟨rfl, .ok (hjudged _)⟩
  · split
    · exact ⟨rfl, .ok (hjudged _)⟩
    · refine ⟨rfl, ?_⟩
      cases answer with
      | error e => exact .error e
      | ok payment =>
          by_cases hp : payment.status = .success
          · simp only [Except.map, hp, if_true]
            exact .ok ((hjudged _).congr (f := fun s => { s with caseIsRecovered := true, caseIsStopped := true })
              (fun _ => rfl) rfl)
          · simp only [Except.map, hp, if_false]
            exact .ok (hjudged _)
  · exact ⟨rfl, .ok (hjudged _)⟩
  · exact ⟨rfl, .ok (hjudged _)⟩

theorem nodeEscalation_similar (h : Similar s t) : Similar (nodeEscalation s) (nodeEscalation t) := by
  have hreason := h.reason
  cases h with
  | intro x hx =>
      have hrule : nodeEscalation (ruled x s) = ruled x (nodeEscalation s) := by
        simp only [nodeEscalation, ruled, addTrace] at hreason ⊢
        rw [hreason]
      rw [hrule]
      exact .intro x hx

theorem nodeCompletion_similar (h : Similar s t) : Similar (nodeCompletion s) (nodeCompletion t) := by
  cases h with
  | intro x hx =>
      have hrule : nodeCompletion (ruled x s) = ruled x (nodeCompletion s) := by
        cases hs : s.policyResult with
        | none =>
            rw [hs] at hx
            obtain rfl : x = none := by simpa using hx.symm
            simp only [nodeCompletion, hs]
            rfl
        | some result =>
            rw [hs] at hx
            obtain ⟨result', rfl, hr⟩ := Option.map_eq_some_iff.mp hx.symm
            have hdecision : result'.decision = result.decision := congrArg Prod.fst hr
            have hreason : result'.reason = result.reason := congrArg Prod.snd hr
            simp only [nodeCompletion, hs, ruled, hdecision, hreason, addTrace]
            split <;> rfl
      have hkept : (nodeCompletion s).policyResult = s.policyResult := by
        unfold nodeCompletion
        split
        · split <;> rfl
        · rfl
      rw [hrule]
      exact .intro x (hkept ▸ hx)

theorem nodeFunction_similar (h : Similar s t) (n : Node) (hn : n ≠ .policyCheck) (w : NodeInput) :
    SimilarOutcome (nodeFunction p n s w) (nodeFunction q n t w) := by
  cases n with
  | riskDetection => exact ⟨rfl, .ok (nodeRiskDetection_similar h)⟩
  | contextBuilder => exact ⟨rfl, .ok (nodeContextBuilder_similar h w.evidence)⟩
  | diagnosis => exact ⟨rfl, nodeDiagnosis_similar h w.diagnosis⟩
  | strategy => exact ⟨rfl, nodeStrategy_similar h w.strategy⟩
  | policyCheck => exact absurd rfl hn
  | actionExecution => exact nodeActionExecution_similar h w.retry w.messageId
  | observation => exact ⟨rfl, .ok (h.congr (f := nodeObservation) (fun _ => rfl) rfl)⟩
  | verification => exact nodeVerification_similar h w.payment w.time
  | escalation => exact ⟨rfl, .ok (nodeEscalation_similar h)⟩
  | completion => exact ⟨rfl, .ok (nodeCompletion_similar h)⟩
  | replan => exact ⟨rfl, .ok (h.congr (f := incrementReplan) (fun _ => rfl) rfl)⟩

theorem SimilarResult.wrap {x y : Except String AgentState} (h : SimilarResult x y) (n : Node) :
    SimilarResult (x.map (wrapNode n)) (y.map (wrapNode n)) := by
  cases h with
  | ok h => exact .ok (h.congr (f := wrapNode n) (fun _ => rfl) rfl)
  | error e => exact .error e

theorem runNode_similar (h : Similar s t) (n : Node) (hn : n ≠ .policyCheck) (w : NodeInput) :
    SimilarOutcome (runNode p n s w) (runNode q n t w) := by
  unfold runNode
  cases w.raised with
  | some e => exact ⟨rfl, .error e⟩
  | none =>
      have hout := nodeFunction_similar (p := p) (q := q) h n hn w
      exact ⟨hout.effect, hout.result.wrap n⟩

theorem successor_similar (h : Similar s t) (n : Node) : successor n s = successor n t := by
  have hdecision := h.decision
  cases n with
  | policyCheck => simp only [successor, routeAfterPolicyCheck, hdecision]
  | _ =>
      cases h
      rfl

theorem authorize_reason (p : PolicyConfig) (ctx : AuthorizationContext)
    (h : (authorize p ctx).decision = .approved) : (authorize p ctx).reason = .text "All policy checks passed" := by
  have hrule {fires : Prop} [Decidable fires] {decision : PolicyDecision} {reason : Reason} {code : Violation}
      {rest : PolicyEvaluationResult} (hd : decision ≠ .approved)
      (hrest : rest.decision = .approved → rest.reason = .text "All policy checks passed")
      (h : (if fires then reject p decision reason code else rest).decision = .approved) :
      (if fires then reject p decision reason code else rest).reason = .text "All policy checks passed" := by
    obtain ⟨hf, hr⟩ := (rule_approved_iff (reject_ne_approved p hd reason code)).mp h
    rw [if_neg hf]
    exact hrest hr
  revert h
  unfold authorize runPipeline
  iterate 14 refine hrule (by decide) ?_
  exact fun _ => rfl

theorem worse_refl (ctx : AuthorizationContext) : Worse ctx ctx where
  action := rfl
  amount := rfl
  failureReason := rfl
  retries := le_rfl
  messages := le_rfl
  checkoutMessages := le_rfl
  confidence := fun x hx => ⟨x, hx, .inl rfl⟩
  hours := fun x hx => ⟨x, hx, .inl rfl⟩
  optedOut := id
  suspended := id
  recovered := id
  paid := id
  timeout := id

/-- Both engines rule on the same request: they rule alike, or the stricter one does not approve. -/
theorem ruling_of_stricter (hs : Stricter p q) (ctx : AuthorizationContext) :
    ruling (authorize p ctx) = ruling (authorize q ctx) ∨ (authorize q ctx).decision ≠ .approved := by
  by_cases hq : (authorize q ctx).decision = .approved
  · have hp : (authorize p ctx).decision = .approved :=
      (authorize_approved_iff p ctx).mpr (permits_of_permits hs (worse_refl ctx) ((authorize_approved_iff q ctx).mp hq))
    exact .inl (by simp only [ruling, hp, hq, authorize_reason p ctx hp, authorize_reason q ctx hq])
  · exact .inr hq

theorem nodePolicyCheck_ruled (h : Similar s t) (hs : Stricter p q) :
    (nodePolicyCheck s p).effect.filter external = none ∧ (nodePolicyCheck t q).effect.filter external = none ∧
      ∃ u x, (nodePolicyCheck s p).result = .ok u ∧ (nodePolicyCheck t q).result = .ok (ruled x u) ∧
        (u.policyResult.map ruling = x.map ruling ∨ x.map (·.decision) ≠ some .approved) := by
  cases h with
  | intro y hy =>
      have hkept : (ruled y s).caseStrategy = s.caseStrategy := rfl
      unfold nodePolicyCheck
      rw [hkept]
      cases s.caseStrategy with
      | none => exact ⟨rfl, rfl, _, _, rfl, rfl, .inl rfl⟩
      | some strat =>
          refine ⟨rfl, rfl, _, some (authorize q (policyContext s strat)), rfl, rfl, ?_⟩
          rcases ruling_of_stricter hs (policyContext s strat) with hr | hr
          · exact .inl (by simp only [Option.map_some, hr])
          · exact .inr (by simpa using hr)

theorem runNode_ruled (h : Similar s t) (hs : Stricter p q) (w : NodeInput) :
    (runNode p .policyCheck s w).effect.filter external = none ∧
      (runNode q .policyCheck t w).effect.filter external = none ∧
      ((∃ e, (runNode p .policyCheck s w).result = .error e ∧ (runNode q .policyCheck t w).result = .error e) ∨
        ∃ u x, (runNode p .policyCheck s w).result = .ok u ∧ (runNode q .policyCheck t w).result = .ok (ruled x u) ∧
          (u.policyResult.map ruling = x.map ruling ∨ x.map (·.decision) ≠ some .approved)) := by
  unfold runNode
  cases w.raised with
  | some e => exact ⟨rfl, rfl, .inl ⟨e, rfl, rfl⟩⟩
  | none =>
      obtain ⟨he, he', u, x, hu, hu', hx⟩ := nodePolicyCheck_ruled h hs
      refine ⟨he, he', .inr ⟨wrapNode .policyCheck u, x, ?_, ?_, hx⟩⟩
      · simp only [nodeFunction, hu, Except.map]
      · simp only [nodeFunction, hu', Except.map]
        rfl

theorem Within.refl (r : Run) : Within r r := ⟨List.suffix_rfl, le_rfl, le_rfl, le_rfl, id⟩

theorem Within.trans {r₁ r₂ r₃ : Run} (h : Within r₁ r₂) (h' : Within r₂ r₃) : Within r₁ r₃ where
  outside := h.outside.trans h'.outside
  retryCount := h.retryCount.trans h'.retryCount
  communicationCount := h.communicationCount.trans h'.communicationCount
  checkoutMessages := h.checkoutMessages.trans h'.checkoutMessages
  recovered := h'.recovered ∘ h.recovered

/-- A step takes nothing back. -/
theorem step_within (h : step policy limit r w = some v) : Within r v := by
  have hgrows (e : Execution) : contacts r.trace <:+ contacts (e :: r.trace) := by
    unfold contacts
    rw [List.filterMap_cons]
    split
    · exact List.suffix_rfl
    · exact List.suffix_cons _ _
  cases step_cases h with
  | gaveUp => exact ⟨List.suffix_rfl, le_rfl, le_rfl, le_rfl, id⟩
  | raised => exact ⟨hgrows _, le_rfl, le_rfl, le_rfl, id⟩
  | returned _ _ _ hu =>
      refine ⟨hgrows _, ?_, ?_, ?_, fun hr => hu.recovered_mono hr⟩
      all_goals cases hu <;> simp [recordRetry, incrementReplan]

/-- A closing run does nothing outside any more. -/
theorem closing_within (hc : Closing r) (h : step policy limit r w = some v) : Within v r := by
  have quiet {n : Node} {effect : Option Effect} (hn : r.next = .node n)
      (hs : ∀ x, effect = some x → Source policy r.state w n x) : effect = none := by
    cases effect with
    | none => rfl
    | some x => rcases hc n hn with rfl | rfl <;> cases hs x rfl
  cases step_cases h with
  | gaveUp => exact ⟨List.suffix_rfl, le_rfl, le_rfl, le_rfl, id⟩
  | raised hn _ hs =>
      obtain rfl := quiet hn hs
      exact ⟨List.suffix_rfl, le_rfl, le_rfl, le_rfl, id⟩
  | returned hn _ hs hu =>
      obtain rfl := quiet hn hs
      rcases hc _ hn with rfl | rfl
      · cases hu
        exact ⟨List.suffix_rfl, le_rfl, le_rfl, le_rfl, id⟩
      · cases hu
        exact ⟨List.suffix_rfl, le_rfl, le_rfl, le_rfl, id⟩

theorem closing_of_refused {count : Nat} (hx : u.policyResult.map (·.decision) ≠ some .approved)
    (hr : r.next = advance limit count .policyCheck u) : Closing r := by
  intro m hm
  rw [hr] at hm
  cases edge_of_advance hm with
  | approved ha => exact absurd ha hx
  | referred => exact .inl rfl
  | refused => exact .inr rfl

theorem seen_cons {e e' : Execution} {trace trace' : List Execution} (hn : e.node = e'.node)
    (he : contact e = contact e') (h : seen trace = seen trace') : seen (e :: trace) = seen (e' :: trace') := by
  unfold seen at h ⊢
  rw [List.map_cons, List.map_cons, h, hn, he]

/-- One node of both runs, on the same answer from outside. -/
theorem node_together (hs : Stricter p q) (h : Together r r') (hn : r.next = .node n) (hl : ¬ limit ≤ r.trace.length)
    {u u' : Run} (hu : step p limit r w = some u) (hu' : step q limit r' w = some u') :
    Together u u' ∨ Parted u u' := by
  have hcount : r'.trace.length = r.trace.length := by simpa [seen] using (congrArg List.length h.story).symm
  obtain ⟨ht, hr⟩ := Noninterference.step_node hn hl hu
  obtain ⟨ht', hr'⟩ := Noninterference.step_node (h.next ▸ hn) (hcount ▸ hl) hu'
  by_cases hp : n = .policyCheck
  · subst hp
    obtain ⟨he, he', hresult⟩ := runNode_ruled h.state hs w
    have hstory : seen u.trace = seen u'.trace := by
      rw [ht, ht']
      exact seen_cons rfl (he.trans he'.symm) h.story
    rcases hresult with ⟨e, herr, herr'⟩ | ⟨v, x, hok, hok', hx⟩
    · rw [herr] at hr
      rw [herr'] at hr'
      obtain ⟨_, hc, -⟩ | ⟨_, hc, hus, hun⟩ := hr <;> cases hc
      obtain ⟨_, hc', -⟩ | ⟨_, hc', hus', hun'⟩ := hr' <;> cases hc'
      exact .inl ⟨hun.trans hun'.symm, hstory, hus ▸ hus' ▸ h.state⟩
    · rw [hok] at hr
      rw [hok'] at hr'
      obtain ⟨_, hc, hus, hun⟩ | ⟨_, hc, -⟩ := hr <;> cases hc
      obtain ⟨_, hc', hus', hun'⟩ | ⟨_, hc', -⟩ := hr' <;> cases hc'
      rcases hx with hx | hx
      · have hstate : Similar v (ruled x v) := .intro x hx
        refine .inl ⟨?_, hstory, hus ▸ hus' ▸ hstate⟩
        rw [hun, hun', hcount]
        unfold advance
        rw [successor_similar hstate .policyCheck]
      · refine .inr ⟨closing_of_refused (u := ruled x v) hx hun', ?_, ?_, ?_, ?_, ?_⟩
        · have hsame : contacts u'.trace = contacts u.trace := by rw [contacts_eq, contacts_eq, hstory]
          exact hsame ▸ List.suffix_rfl
        all_goals simp [hus, hus', ruled]
  · have hout := runNode_similar (p := p) (q := q) h.state n hp w
    have hstory : seen u.trace = seen u'.trace := by
      rw [ht, ht']
      exact seen_cons rfl (congrArg (Option.filter external) hout.effect) h.story
    left
    rcases hr with ⟨state, hok, hus, hun⟩ | ⟨e, herr, hus, hun⟩
    · rcases hr' with ⟨state', hok', hus', hun'⟩ | ⟨e', herr', -, -⟩
      · have hresult := hout.result
        rw [hok, hok'] at hresult
        cases hresult with
        | ok hstate =>
            refine ⟨?_, hstory, hus ▸ hus' ▸ hstate⟩
            rw [hun, hun', hcount]
            unfold advance
            rw [successor_similar hstate n]
      · have hresult := hout.result
        rw [hok, herr'] at hresult
        cases hresult
    · rcases hr' with ⟨state', hok', -, -⟩ | ⟨e', herr', hus', hun'⟩
      · have hresult := hout.result
        rw [herr, hok'] at hresult
        cases hresult
      · have hresult := hout.result
        rw [herr, herr'] at hresult
        cases hresult
        exact ⟨hun.trans hun'.symm, hstory, hus ▸ hus' ▸ h.state⟩

/-- One step of both runs, on the same answer from outside. -/
theorem step_together (hs : Stricter p q) (h : Together r r') (w : NodeInput) :
    (step p limit r w = none ∧ step q limit r' w = none) ∨
      ∃ u u', step p limit r w = some u ∧ step q limit r' w = some u' ∧ (Together u u' ∨ Parted u u') := by
  cases hn : r.next with
  | finished | raised =>
      have hstopped : ∀ n, r.next ≠ .node n := by simp [hn]
      exact .inl ⟨step_stopped hstopped w, step_stopped (h.next ▸ hstopped) w⟩
  | node n =>
      have hn' : r'.next = .node n := h.next ▸ hn
      obtain ⟨u, hu⟩ := step_enabled p limit hn w
      obtain ⟨u', hu'⟩ := step_enabled q limit hn' w
      refine .inr ⟨u, u', hu, hu', ?_⟩
      by_cases hl : limit ≤ r.trace.length
      · have hcount : r'.trace.length = r.trace.length := by simpa [seen] using (congrArg List.length h.story).symm
        simp only [step, hn, if_pos hl] at hu
        simp only [step, hn', hcount, if_pos hl] at hu'
        cases hu
        cases hu'
        exact .inl ⟨rfl, h.story, h.state⟩
      · exact node_together hs h hn hl hu hu'

theorem pair (hs : Stricter p q) (limit : Nat) (world : World) :
    Tandem.Pair (inhabit p limit world) (inhabit q limit world) Together Parted where
  both s t h := by
    unfold inhabit
    rw [← h.story]
    exact step_together hs h _
  left s s' t h hstep := ⟨h.closing, h.within.trans (step_within hstep)⟩
  right s t t' h hstep := ⟨(closing_step h.closing hstep).1, (closing_within h.closing hstep).trans h.within⟩

section Driven

variable (policy limit world) (s : AgentState) (k : Nat)

theorem runIn_succ : runIn policy limit world (k + 1) s =
    (inhabit policy limit world (runIn policy limit world k s)).getD (runIn policy limit world k s) :=
  Tandem.settle_succ k

theorem runIn_stopped (h : ∀ n, (runIn policy limit world k s).next ≠ .node n) :
    runIn policy limit world (k + 1) s = runIn policy limit world k s := by
  rw [runIn_succ, inhabit, step_stopped h, Option.getD_none]

theorem runIn_length :
    (∀ n, (runIn policy limit world k s).next ≠ .node n) ∨ (runIn policy limit world k s).trace.length = k := by
  induction k with
  | zero => exact .inr rfl
  | succ k ih =>
      by_cases hstopped : ∀ n, (runIn policy limit world k s).next ≠ .node n
      · rw [runIn_stopped policy limit world s k hstopped]
        exact .inl hstopped
      · obtain ⟨n, hn⟩ := not_forall_not.mp hstopped
        obtain ⟨v, hv⟩ := step_enabled policy limit hn (world (seen (runIn policy limit world k s).trace))
        rw [runIn_succ, inhabit, hv, Option.getD_some]
        rcases step_progress hv with ⟨hlen, -⟩ | hend
        · exact .inr (hlen.trans (congrArg (· + 1) (ih.resolve_left hstopped)))
        · exact .inl hend

/-- A run in a world is a run of the graph, on what the world answers. -/
theorem runIn_eq_drive (fuel : Nat) :
    drive policy limit (fun i => world (seen (runIn policy limit world i s).trace)) fuel
      (runIn policy limit world k s) = runIn policy limit world (k + fuel) s := by
  induction fuel generalizing k with
  | zero => rfl
  | succ fuel ih =>
      rw [← Nat.add_assoc, Nat.add_right_comm, ← ih (k + 1)]
      by_cases hstopped : ∀ n, (runIn policy limit world k s).next ≠ .node n
      · rw [runIn_stopped policy limit world s k hstopped, drive_stopped _ hstopped, drive_stopped _ hstopped]
      · obtain ⟨n, hn⟩ := not_forall_not.mp hstopped
        obtain ⟨v, hv⟩ := step_enabled policy limit hn (world (seen (runIn policy limit world k s).trace))
        have hlen := (runIn_length policy limit world s k).resolve_left hstopped
        rw [drive, hlen, hv, runIn_succ, inhabit, hv, Option.getD_some]

end Driven

/-- A stricter policy never does more: in the same world, its run is the run of
the laxer policy up to a decision, and from there on it does nothing outside. -/
theorem tightening_shortens (hs : Stricter p q) (world : World) (limit fuel : Nat) (s : AgentState) :
    Within (runIn q limit world fuel s) (runIn p limit world fuel s) := by
  have hstart : Together (start s) (start s) := ⟨rfl, rfl, .refl s⟩
  rcases (pair hs limit world).settle hstart fuel with h | h
  · exact h.within
  · exact h.within

theorem single_bounds : (0 : Int) ≤ 1 ∧ (1 : Int) ≤ 10 := by decide

def singleRetry : PolicyConfig :=
  { PolicyGate.samplePolicy with
    limits := { PolicyGate.samplePolicy.limits with maxRetries := 1, maxRetries_bounds := single_bounds } }

theorem singleRetry_stricter : Stricter PolicyGate.samplePolicy singleRetry := by
  constructor <;> first | exact le_rfl | exact id | exact .inl rfl | decide

/-- A provider that takes every payment on and never settles one. -/
def unsettledWorld : World := fun _ =>
  { diagnosis := some PolicyGate.sampleDiagnosis
    strategy := some (PolicyGate.sampleStrategy .retryNow)
    retry := .ok {
      attemptId := "attempt"
      paymentId := "payment"
      status := .pending
      amountPaise := 100000
      currency := "INR"
      provider := .simulation }
    payment := .ok {
      paymentId := "payment"
      status := .pending
      amountPaise := 100000
      currency := "INR"
      provider := .simulation } }

theorem tightening_shortens_sample :
    Within (runIn singleRetry recursionLimit unsettledWorld (recursionLimit + 1) PolicyGate.sampleState)
      (runIn PolicyGate.samplePolicy recursionLimit unsettledWorld (recursionLimit + 1) PolicyGate.sampleState) :=
  tightening_shortens singleRetry_stricter unsettledWorld recursionLimit (recursionLimit + 1) PolicyGate.sampleState

end RevenueRescue.TightenedRuns
