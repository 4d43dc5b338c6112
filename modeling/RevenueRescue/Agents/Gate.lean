import RevenueRescue.Agents.Cycle
import RevenueRescue.Foundation.History

namespace RevenueRescue.PolicyGate

open Enums PolicySchema PolicyEngine Providers AgentSchemas NodeUtils DeterministicNodes
open RecoveryGraph GraphEffects RecoveryCycle Machine History

/-- The effect is what `strat` asks for, with the amount and the counters of the context. -/
def Uses (ctx : AuthorizationContext) (strat : StrategyOutput) (after : Option AgentState) :
    Effect → Prop
  | .retryPayment request _ =>
      strat.recoveryStrategy = .retryNow ∧ request.amountPaise = ctx.amountPaise ∧
        request.retryNumber = ctx.retryCount + 1
  | .scheduleRetry request delayHours _ =>
      strat.recoveryStrategy = .scheduleRetry ∧ delayHours = scheduledDelay (some strat) ∧
        request.amountPaise = ctx.amountPaise ∧ request.retryNumber = ctx.retryCount + 1
  | .sendMessage strategy _ =>
      strat.recoveryStrategy = strategy ∧
        ∀ state ∈ after, state.communicationCount = ctx.communicationCount + 1
  | _ => False

/-- One cycle: `proposal` left a strategy, the policy engine approved it in
`check`, and `e` carries it out on the values that the engine saw. -/
def Gated (policy : PolicyConfig) (e check proposal : Execution) : Prop :=
  proposal.node = .strategy ∧ check.node = .policyCheck ∧ e.node = .actionExecution ∧
    ∃ strat ctx effect,
      proposal.after.map (·.caseStrategy) = some (some strat) ∧
      check.effect = some (.authorize ctx (authorize policy ctx)) ∧
      (authorize policy ctx).decision = .approved ∧
      ctx.actionType = strategyToActionType strat.recoveryStrategy ∧
      ctx.amountPaise = e.before.amountPaise ∧
      ctx.retryCount = e.before.retryCount ∧
      ctx.communicationCount = e.before.communicationCount ∧
      e.before.caseStrategy = some strat ∧
      e.effect = some effect ∧ Uses ctx strat e.after effect

def Refused (e : Execution) : Prop :=
  e.node = .policyCheck ∧ ∃ state ∈ e.after, state.policyResult.map (·.decision) ≠ some .approved

def Allowed (policy : PolicyConfig) (e : Execution) (past : List Execution) : Prop :=
  Acting e →
    (∃ check proposal rest, past = check :: proposal :: rest ∧ Gated policy e check proposal) ∧
      ∀ f ∈ past, ¬ Refused f

def Proposed (r : Run) : Prop :=
  ∃ proposal rest, r.trace = proposal :: rest ∧ proposal.node = .strategy ∧
    proposal.after.map (·.caseStrategy) = some r.state.caseStrategy

/-- The two latest executions proposed the strategy of the state and had it
approved on the values of the state. -/
def Approved (policy : PolicyConfig) (r : Run) : Prop :=
  ∃ check proposal rest strat, r.trace = check :: proposal :: rest ∧
    proposal.node = .strategy ∧ check.node = .policyCheck ∧
    proposal.after.map (·.caseStrategy) = some (some strat) ∧ r.state.caseStrategy = some strat ∧
    r.state.policyResult.map (·.decision) = some .approved ∧
    check.effect = some (.authorize (policyContext r.state strat)
      (authorize policy (policyContext r.state strat))) ∧
    (authorize policy (policyContext r.state strat)).decision = .approved

structure Inv (policy : PolicyConfig) (r : Run) : Prop where
  allowed : Throughout (Allowed policy) r.trace
  proposed : r.next = .node .policyCheck → Proposed r
  approved : r.next = .node .actionExecution → Approved policy r
  closing : (∃ e ∈ r.trace, Refused e) → Closing r

variable {policy : PolicyConfig} {limit : Nat} {state : AgentState} {r r' run : Run} {w : NodeInput}

theorem inv_start : Inv policy (start state) :=
  ⟨trivial, nofun, nofun, by simp [start]⟩

theorem uses_of_carriesOut {s : AgentState} {strat : StrategyOutput} {effect : Effect}
    {after : Option AgentState} (h : CarriesOut s strat.recoveryStrategy effect)
    (hs : s.caseStrategy = some strat)
    (hc : isMessage effect = true → ∀ t ∈ after, t.communicationCount = s.communicationCount + 1) :
    Uses (policyContext s strat) strat after effect := by
  generalize hr : strat.recoveryStrategy = strategy at h
  cases h with
  | scheduleRetry answer => exact ⟨hr, by rw [hs], rfl, rfl⟩
  | retryNow answer => exact ⟨hr, rfl, rfl⟩
  | message id hm => exact ⟨hr, hc rfl⟩

theorem allowed_of_inv {n : Node} {effect : Option Effect} {after : Option AgentState}
    (hi : Inv policy r) (hn : r.next = .node n)
    (hs : ∀ x, effect = some x → Source policy r.state w n x)
    (hc : effect.any isMessage = true →
      ∀ t ∈ after, t.communicationCount = r.state.communicationCount + 1) :
    Allowed policy ⟨n, w.time, r.state, effect, after⟩ r.trace := by
  intro ha
  obtain ⟨x, hx, hacts⟩ := acting_iff.mp ha
  obtain rfl : effect = some x := hx
  obtain ⟨rfl, -, hcarry⟩ := (hs x rfl).acts hacts
  obtain ⟨check, proposal, rest, strat, ht, hp, hk, hps, hst, -, hck, hd⟩ := hi.approved hn
  have hex : executed r.state = strat.recoveryStrategy := by simp [executed, hst]
  refine ⟨⟨check, proposal, rest, ht, hp, hk, rfl, strat, _, x, hps, hck, hd, rfl, rfl, rfl, rfl,
    hst, rfl, uses_of_carriesOut (hex ▸ hcarry) hst hc⟩, fun f hf hr => ?_⟩
  rcases hi.closing ⟨f, hf, hr⟩ _ hn with h | h <;> cases h

theorem closing_edge {n m : Node} {effect : Option Effect} {s t : AgentState} (he : Edge t n m)
    (hr : Refused ⟨n, w.time, s, effect, some t⟩) : m = .escalation ∨ m = .completion := by
  obtain ⟨hn, state, hst, hd⟩ := hr
  obtain rfl : n = .policyCheck := hn
  cases hst
  cases he with
  | approved ha => exact absurd ha hd
  | referred _ => exact .inl rfl
  | refused _ => exact .inr rfl

theorem inv_step (hi : Inv policy r) (h : step policy limit r w = some r') : Inv policy r' := by
  cases step_cases h with
  | gaveUp hn hl => exact ⟨hi.allowed, by simp, by simp, by simp [Closing]⟩
  | raised hn hl hs =>
      exact ⟨⟨allowed_of_inv hi hn hs (by simp), hi.allowed⟩, by simp, by simp, by simp [Closing]⟩
  | @returned n u effect hn hl hs hu =>
      refine ⟨⟨allowed_of_inv hi hn hs fun hm t ht => ?_, hi.allowed⟩, fun hk => ?_, fun hk => ?_,
        fun hclosed m hm => ?_⟩
      · cases ht
        simpa [hm] using hu.counts.2
      · cases edge_of_advance hk with
        | strategy => exact ⟨_, _, rfl, rfl, rfl⟩
      · cases edge_of_advance hk with
        | approved hd =>
            obtain ⟨proposal, rest, hpt, hpn, hpa⟩ := hi.proposed hn
            cases hu with
            | policyMissing _ result hes => simp [hes] at hd
            | @policyDecided strat hst =>
                exact ⟨_, proposal, rest, strat, by rw [hpt], hpn, rfl, by rw [hpa, hst], hst, hd,
                  rfl, Option.some.inj hd⟩
      · obtain ⟨e, hmem, href⟩ := hclosed
        rcases List.mem_cons.mp hmem with rfl | hmem
        · exact closing_edge (edge_of_advance hm) href
        · exact (closing_step (hi.closing ⟨e, hmem, href⟩) h).1 m hm

theorem inv_of_reach (h : Reach (step policy limit) Any (start state) run) : Inv policy run :=
  h.invariant inv_start fun _ _ _ _ hi _ hs => inv_step hi hs

theorem acting_permitted {n : Node} {x : Effect} (hi : Inv policy r) (hn : r.next = .node n)
    (hs : Source policy r.state w n x) (hx : acts x = true) :
    n = .actionExecution ∧ ∃ strat, r.state.caseStrategy = some strat ∧
      CarriesOut r.state strat.recoveryStrategy x ∧ Permits policy (policyContext r.state strat) := by
  obtain ⟨rfl, -, hc⟩ := hs.acts hx
  obtain ⟨_, _, _, strat, -, -, -, -, hst, -, -, hd⟩ := hi.approved hn
  have hex : executed r.state = strat.recoveryStrategy := by simp [executed, hst]
  exact ⟨rfl, strat, hst, hex ▸ hc, (authorize_approved_iff policy _).mp hd⟩

theorem payment_permitted {n : Node} {x : Effect} (hi : Inv policy r) (hn : r.next = .node n)
    (hs : Source policy r.state w n x) (hx : isPayment x = true) :
    n = .actionExecution ∧ r.state.retryCount < policy.limits.maxRetries := by
  obtain ⟨rfl, strat, -, hc, hp⟩ := acting_permitted hi hn hs (by simp [acts, hx])
  refine ⟨rfl, hp.retries ?_⟩
  change isRetry (strategyToActionType strat.recoveryStrategy) = true
  rw [isRetry_strategyToActionType]
  generalize strat.recoveryStrategy = strategy at hc
  cases hc with
  | scheduleRetry | retryNow => rfl
  | message => cases hx

/-- Policy gate: whatever the provider is asked for and whatever is sent comes
right after the approval of the strategy that it carries out, and nothing of
the kind comes after a decision other than an approval. -/
theorem action_execution_gated (h : Reach (step policy limit) Any (start state) run)
    {post past : List Execution} {e : Execution} (ht : run.trace = post ++ e :: past) (ha : Acting e) :
    (∃ check proposal rest, past = check :: proposal :: rest ∧ Gated policy e check proposal) ∧
      ∀ f ∈ past, ¬ Refused f :=
  (inv_of_reach h).allowed.split ht ha

def sampleDiagnosis : DiagnosisOutput :=
  { certainDiagnosis with diagnosis := "gateway timeout", likelyCause := "temporary outage" }

def sampleStrategy (strategy : RecoveryStrategy) : StrategyOutput :=
  { proposal strategy with reason := "proposed" }

def samplePolicy : PolicyConfig := { merchantDefault with policyId := "default" }

def sampleState : AgentState where
  caseId := "c"
  agentRunId := "r"
  failureReason := .gatewayTemporary
  amountPaise := 100000

def sampleCycle (strategy : RecoveryStrategy) (w : NodeInput) : List NodeInput :=
  [{}, {}, { diagnosis := some sampleDiagnosis }, { strategy := some (sampleStrategy strategy) }, {}, w]

def sampleRun : Run :=
  (exec (step samplePolicy recursionLimit) (start sampleState) (sampleCycle .retryNow {})).getD
    (start sampleState)

theorem sampleRun_reach : Reach (step samplePolicy recursionLimit) Any (start sampleState) sampleRun :=
  reach_of_exec (sampleCycle .retryNow {}) rfl

theorem sampleRun_acts : ∃ e past, sampleRun.trace = e :: past ∧ Acting e := ⟨_, _, rfl, rfl⟩

theorem action_execution_gated_sample :
    ∃ e past, sampleRun.trace = e :: past ∧
      (∃ check proposal rest, past = check :: proposal :: rest ∧
        Gated samplePolicy e check proposal) ∧ ∀ f ∈ past, ¬ Refused f := by
  obtain ⟨e, past, ht, ha⟩ := sampleRun_acts
  have ht' : sampleRun.trace = [] ++ e :: past := ht
  exact ⟨e, past, ht, action_execution_gated sampleRun_reach ht' ha⟩

end RevenueRescue.PolicyGate
