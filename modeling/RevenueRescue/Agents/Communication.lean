import RevenueRescue.Agents.Gate

namespace RevenueRescue.CommunicationCap

open Enums PolicySchema PolicyEngine Providers AgentSchemas NodeUtils DeterministicNodes
open RecoveryGraph GraphEffects PolicyGate Machine

/-- The executor is entered with the one message strategy that the policy
engine does not count, when the cap is already reached. -/
def AtCap (policy : PolicyConfig) (e : Execution) : Prop :=
  e.node = .actionExecution ∧ executed e.before = .paymentMethodUpdate ∧
    policy.communication.maxMessagesPerCase ≤ e.before.communicationCount

def visited (r : Run) : List AgentState := r.state :: r.trace.map (·.before)

variable {policy : PolicyConfig} {limit : Nat} {state : AgentState} {r r' run : Run} {w : NodeInput}

theorem below_cap {ctx : AuthorizationContext} (hp : Permits policy ctx) {s : AgentState} {id : String}
    {strategy message : RecoveryStrategy} (ha : ctx.actionType = strategyToActionType strategy)
    (hc : CarriesOut s strategy (.sendMessage message id)) (hs : strategy ≠ .paymentMethodUpdate) :
    ctx.communicationCount < policy.communication.maxMessagesPerCase := by
  refine hp.messages ?_
  rw [ha]
  cases hc with
  | message _ hm =>
      rcases hm with rfl | rfl | rfl
      · rfl
      · rfl
      · exact absurd rfl hs

theorem message_of_update {s u : AgentState} {effect : Option Effect}
    (hu : Returns policy s w .actionExecution effect u)
    (hd : s.policyResult.map (·.decision) = some .approved) (hs : executed s = .paymentMethodUpdate) :
    effect.any isMessage = true := by
  cases hu with
  | blocked h result => exact absurd hd h
  | scheduled _ hx _ => rw [hs] at hx; cases hx
  | retried _ hx _ => rw [hs] at hx; cases hx
  | resumed _ hx => rfl
  | messaged _ hx _ => rfl
  | noEffect _ hx => rw [hs] at hx; rcases hx with hx | hx <;> cases hx

structure Counted (policy : PolicyConfig) (state : AgentState) (r : Run) : Prop where
  between : ∀ s ∈ visited r, state.communicationCount ≤ s.communicationCount ∧
    s.communicationCount ≤ r.state.communicationCount
  capped : r.state.communicationCount ≤
      max state.communicationCount policy.communication.maxMessagesPerCase ↔
    ∀ e ∈ r.trace, e.after.isSome = true → ¬ AtCap policy e

theorem counted_start : Counted policy state (start state) :=
  ⟨by simp [visited, start], by simp [start]⟩

theorem capped_message {strat : StrategyOutput} (hst : r.state.caseStrategy = some strat) {x : Effect}
    (hx : isMessage x = true) (hc : CarriesOut r.state strat.recoveryStrategy x)
    (hp : Permits policy (policyContext r.state strat))
    (hle : state.communicationCount ≤ r.state.communicationCount) {after : Option AgentState}
    {effect : Option Effect} :
    r.state.communicationCount + 1 ≤
        max state.communicationCount policy.communication.maxMessagesPerCase ↔
      ¬ AtCap policy ⟨.actionExecution, w.time, r.state, effect, after⟩ ∧
        r.state.communicationCount ≤
          max state.communicationCount policy.communication.maxMessagesPerCase := by
  constructor
  · intro h
    refine ⟨fun hcap => ?_, by omega⟩
    have hm : policy.communication.maxMessagesPerCase ≤ r.state.communicationCount := hcap.2.2
    omega
  · rintro ⟨hcap, -⟩
    have hlt : r.state.communicationCount < policy.communication.maxMessagesPerCase := by
      by_cases hs : strat.recoveryStrategy = .paymentMethodUpdate
      · by_contra hge
        exact hcap ⟨rfl, by simp [executed, hst, hs], not_lt.mp hge⟩
      · cases x with
        | sendMessage strategy id => exact below_cap hp rfl hc hs
        | _ => cases hx
    omega

theorem counted_step (hi : Inv policy r) (hc : Counted policy state r)
    (h : step policy limit r w = some r') : Counted policy state r' := by
  have hle := (hc.between r.state (by simp [visited])).1
  cases step_cases h with
  | gaveUp hn hl => exact ⟨hc.between, hc.capped⟩
  | raised hn hl hs =>
      refine ⟨fun s hs => hc.between s ?_, ?_⟩
      · simpa [visited] using hs
      · simpa using hc.capped
  | @returned n u effect hn hl hs hu =>
      have hcount : (wrapNode n u).communicationCount =
          r.state.communicationCount + (if effect.any isMessage then 1 else 0) := hu.counts.2
      refine ⟨fun s hs => ?_, ?_⟩
      · rcases List.mem_cons.mp hs with rfl | hs
        · refine ⟨?_, le_rfl⟩
          simp only [hcount]; split <;> omega
        · have := hc.between s (by simpa [visited] using hs)
          simp only [hcount]; split <;> omega
      · rw [List.forall_mem_cons, ← hc.capped]
        simp only [hcount, Option.isSome_some, true_implies]
        by_cases hm : effect.any isMessage = true
        · obtain ⟨x, rfl, hx⟩ : ∃ x, effect = some x ∧ isMessage x = true := by
            cases effect with
            | none => cases hm
            | some x => exact ⟨x, rfl, hm⟩
          obtain ⟨rfl, strat, hst, hcarry, hp⟩ := acting_permitted hi hn (hs x rfl) (by simp [acts, hx])
          simpa [hx] using capped_message hst hx hcarry hp hle
        · rw [if_neg hm, add_zero]
          refine (and_iff_right fun hcap => hm ?_).symm
          obtain ⟨hnode, hupd, -⟩ := hcap
          obtain rfl : n = .actionExecution := hnode
          obtain ⟨_, _, _, _, -, -, -, -, -, hd, -⟩ := hi.approved hn
          exact message_of_update hu hd hupd

theorem counted_of_reach (h : Reach (step policy limit) Any (start state) run) :
    Counted policy state run :=
  h.invariant counted_start fun _ _ _ hr hc _ hs => counted_step (inv_of_reach hr) hc hs

/-- Communication cap: in a run the count stays within the cap, or within what
it started from, exactly as long as no executor that returns was entered at
the cap with `PAYMENT_METHOD_UPDATE`. -/
theorem communication_capped_iff (h : Reach (step policy limit) Any (start state) run) :
    (∀ s ∈ visited run, s.communicationCount ≤
        max state.communicationCount policy.communication.maxMessagesPerCase) ↔
      ∀ e ∈ run.trace, e.after.isSome = true → ¬ AtCap policy e := by
  have hc := counted_of_reach h
  rw [← hc.capped]
  exact ⟨fun hall => hall _ (by simp [visited]), fun hle s hs => ((hc.between s hs).2).trans hle⟩

def cappedRun : Run :=
  (exec (step samplePolicy recursionLimit) (start { sampleState with communicationCount := 3 })
    (sampleCycle .paymentMethodUpdate {})).getD (start sampleState)

theorem cappedRun_reach : Reach (step samplePolicy recursionLimit) Any
    (start { sampleState with communicationCount := 3 }) cappedRun :=
  reach_of_exec (sampleCycle .paymentMethodUpdate {}) rfl

theorem communication_capped_iff_sample :
    (∀ s ∈ visited cappedRun, s.communicationCount ≤ max 3 3) ↔
      ∀ e ∈ cappedRun.trace, e.after.isSome = true → ¬ AtCap samplePolicy e :=
  communication_capped_iff cappedRun_reach

theorem communication_cap_exceeded :
    ¬ ∀ run, Reach (step samplePolicy recursionLimit) Any
        (start { sampleState with communicationCount := 3 }) run →
      ∀ s ∈ visited run, s.communicationCount ≤
        max 3 samplePolicy.communication.maxMessagesPerCase := by
  intro h
  have := h cappedRun cappedRun_reach cappedRun.state (by simp [visited])
  exact absurd this (by decide)

end RevenueRescue.CommunicationCap
