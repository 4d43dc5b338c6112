import RevenueRescue.Agents.Gate
import RevenueRescue.Backend.Ledger

namespace RevenueRescue.RetryCap

open Enums PolicySchema AgentSchemas DeterministicNodes RecoveryGraph GraphEffects
open Models RecoveryService RazorpayCheckout RecoverySystem RecoveryLedger PolicyGate RunAtomicity Machine

def callsFor (id : Uuid) (sys : Sys) : Nat := sys.log.countP (isPaymentCall id)

def paying (r : Run) (w : NodeInput) : Bool :=
  decide (r.next = .node .actionExecution ∧ w.raised = none ∧
    r.state.policyResult.map (·.decision) = some .approved ∧
    (executed r.state = .retryNow ∨ executed r.state = .scheduleRetry))

def inForce (limits : RetryLimits) : Op → Bool
  | .executeLoadCase _ (.ok policy) => policy.limits.maxRetries = limits.maxRetries
  | _ => true

/-- No attempt asks for a payment with a retry count that is behind the calls
that the case has had. -/
def upToDate (id : Uuid) (sys : Sys) : Op → Bool
  | .executeNode sid w =>
      match sys.sessions sid with
      | some (.attempt a) =>
          !(decide (a.case.id = id) && paying a.graph w) || decide (callsFor id sys ≤ a.graph.state.retryCount)
      | _ => true
  | _ => true

def InForce (limits : RetryLimits) (_ : Sys) (op : Op) : Prop := inForce limits op = true

/-- The limits are in force, and every payment attempt counts from an up to date count. -/
def Counted (limits : RetryLimits) (id : Uuid) (sys : Sys) (op : Op) : Prop :=
  InForce limits sys op ∧ upToDate id sys op = true

variable {settings : Settings} {sys sys' : Sys} {op : Op} {id : Uuid} {limits : RetryLimits}
variable {policy : PolicyConfig} {r : Run} {w : NodeInput} {n : Node} {x : Effect}

theorem paying_of_source (hn : r.next = .node n) (hw : w.raised = none)
    (hs : Source policy r.state w n x) (hx : isPayment x = true) : paying r w = true := by
  obtain ⟨rfl, hd, hc⟩ := hs.acts (by simp [acts, hx])
  refine decide_eq_true ⟨hn, hw, hd, ?_⟩
  generalize executed r.state = strategy at hc
  cases hc with
  | scheduleRetry => exact .inr rfl
  | retryNow => exact .inl rfl
  | message => cases hx

theorem isPaymentCall_effect (caseId : Uuid) (x : Effect) :
    isPaymentCall id (.effect caseId x) = (decide (caseId = id) && isPayment x) := by
  cases x <;> simp [isPaymentCall, isPayment]

structure Inv (limits : RetryLimits) (id : Uuid) (sys : Sys) : Prop where
  policies : ∀ sid a, sys.sessions sid = some (.attempt a) →
    a.policy.limits.maxRetries = limits.maxRetries
  calls : (callsFor id sys : Int) ≤ limits.maxRetries
  running : Running sys

theorem policies_step (hi : Inv limits id sys) (h : step settings sys op = some sys')
    (hc : Counted limits id sys op) {sid : Nat} {a : Attempt} (hs : sys'.sessions sid = some (.attempt a)) :
    a.policy.limits.maxRetries = limits.maxRetries := by
  have hchange := session_change h sid
  rw [hs] at hchange
  generalize hsession : some (Session.attempt a) = session at hchange
  cases hchange with
  | kept => exact hi.policies sid a hsession.symm
  | loadedCase _ hop =>
      cases hsession
      subst hop
      exact of_decide_eq_true hc.1
  | @advanced b _ _ _ hold => cases hsession; exact hi.policies sid b hold
  | closed | starting | escalating | loadedRun | failing => cases hsession

/-- A call is made below the cap: the policy has compared the cap with a count
that covers all calls so far. -/
theorem calls_step (hi : Inv limits id sys) (h : step settings sys op = some sys')
    (hc : Counted limits id sys op) : (callsFor id sys' : Int) ≤ limits.maxRetries := by
  have hlog := log_change h
  have hcalls := hi.calls
  unfold callsFor at hcalls ⊢
  generalize sys'.log = log at hlog
  cases hlog with
  | kept => exact hcalls
  | settled => simpa [isPaymentCall] using hcalls
  | @effects sid a w graph hop hs hg =>
      rcases newEffects_step hg with hnone | ⟨n, x, hone, hn, hw, hsource⟩
      · simpa [hnone] using hcalls
      · by_cases hx : a.case.id = id ∧ isPayment x = true
        · have hlt := (payment_permitted (inv_of_reach (hi.running sid a hs)) hn hsource hx.2).2
          rw [hi.policies sid a hs] at hlt
          have hle : (callsFor id sys : Int) ≤ a.graph.state.retryCount := by
            subst hop
            simpa [upToDate, hs, hx.1, paying_of_source hn hw hsource hx.2] using hc.2
          have hone' : isPaymentCall id (.effect a.case.id x) = true := by
            rw [isPaymentCall_effect]
            simp [hx]
          rw [hone, List.map_singleton, List.singleton_append, List.countP_cons_of_pos hone']
          unfold callsFor at hle
          omega
        · have hother : ¬ isPaymentCall id (.effect a.case.id x) = true := by
            rw [isPaymentCall_effect]
            simpa using hx
          rw [hone, List.map_singleton, List.singleton_append, List.countP_cons_of_neg hother]
          exact hcalls

theorem inv_step (hi : Inv limits id sys) (h : step settings sys op = some sys')
    (hc : Counted limits id sys op) : Inv limits id sys' where
  policies _ _ hs := policies_step hi h hc hs
  calls := calls_step hi h hc
  running := running_step hi.running h

variable {customers : Table Uuid Customer Customer.id}

theorem inv_init (limits : RetryLimits) (id : Uuid) : Inv limits id (init customers) where
  policies sid a hs := by
    rw [init_sessions] at hs
    cases hs
  calls := limits.maxRetries_bounds.1
  running := running_init

/-- Retry cap: over all attempts together a case has no more payment attempts
than the policy allows, as long as no attempt counts from a stale count. -/
theorem retries_capped (h : Reach (step settings) (Counted limits id) (init customers) sys) :
    (callsFor id sys : Int) ≤ limits.maxRetries := by
  have hi : Inv limits id sys := by
    refine h.invariant (inv_init limits id) ?_
    intro t op u _ hi hc hs
    exact inv_step hi hs hc
  exact hi.calls

def counted (limits : RetryLimits) (id : Uuid) (sys : Sys) (op : Op) : Bool :=
  inForce limits op && upToDate id sys op

theorem counted_sound (h : counted limits id sys op = true) : Counted limits id sys op :=
  Bool.and_eq_true_iff.mp h

def oneCallOps : List Op :=
  startedOps ++ attemptOps 0 (.ofDigit 3) true samplePolicy recoveringNodes {}

def oneCallSys : Sys :=
  (execIf (step sampleSettings) (counted samplePolicy.limits (.ofDigit 1)) (init Table.empty) oneCallOps).getD
    (init Table.empty)

theorem retries_capped_sample :
    callsFor (.ofDigit 1) oneCallSys = 1 ∧
      (callsFor (.ofDigit 1) oneCallSys : Int) ≤ samplePolicy.limits.maxRetries := by
  have hdone : (execIf (step sampleSettings) (counted samplePolicy.limits (.ofDigit 1)) (init Table.empty)
      oneCallOps).isSome = true := by decide +kernel
  exact ⟨by decide +kernel, retries_capped (reach_of_execIf oneCallOps (fun _ _ => counted_sound) hdone)⟩

def oncePolicy : PolicyConfig :=
  { merchantDefault with
    policyId := "once"
    limits := { merchantDefault.limits with maxRetries := 1, maxRetries_bounds := by decide } }

/-- Two workers execute the same run, as a redelivered task has it. -/
def redeliveredOps : List Op :=
  startedOps ++
    [.executeLoadRun 0 (.ofDigit 3) false, .executeLoadCase 0 (.ok oncePolicy),
      .executeLoadRun 1 (.ofDigit 3) false, .executeLoadCase 1 (.ok oncePolicy)] ++
    (sampleCycle .retryNow { retry := .ok simulatedRetry }).map (.executeNode 0) ++
    (sampleCycle .retryNow { retry := .ok simulatedRetry }).map (.executeNode 1)

def redeliveredSys : Sys :=
  (execIf (step sampleSettings) (fun _ => inForce oncePolicy.limits) (init Table.empty) redeliveredOps).getD
    (init Table.empty)

theorem retries_not_capped : ¬ ∀ (limits : RetryLimits) id sys,
    Reach (step sampleSettings) (InForce limits) (init Table.empty) sys →
    (callsFor id sys : Int) ≤ limits.maxRetries := by
  intro h
  have hdone : (execIf (step sampleSettings) (fun _ => inForce oncePolicy.limits) (init Table.empty)
      redeliveredOps).isSome = true := by decide +kernel
  have hcalls : callsFor (.ofDigit 1) redeliveredSys = 2 := by decide +kernel
  have hle := h oncePolicy.limits (.ofDigit 1) redeliveredSys
    (reach_of_execIf redeliveredOps (fun _ _ h => h) hdone)
  rw [hcalls] at hle
  exact absurd hle (by decide)

end RevenueRescue.RetryCap
