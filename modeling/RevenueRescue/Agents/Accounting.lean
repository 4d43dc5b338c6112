import RevenueRescue.Agents.Budget

namespace RevenueRescue.RunAccounting

open Enums PolicySchema PolicyEngine Providers AgentSchemas NodeUtils DeterministicNodes
open RecoveryGraph GraphEffects PolicyGate RecoveryCycle StepBudget Machine History

def isCheckoutMessage : Effect → Bool
  | .sendMessage strategy _ => decide (strategy = .checkoutRecovery)
  | _ => false

def paymentRequest : Effect → Option RetryRequest
  | .retryPayment request _ | .scheduleRetry request _ _ => some request
  | _ => none

/-- A payment call carries the number of the attempt, counted from the start of the case. -/
def Numbered (s : AgentState) (e : Execution) (past : List Execution) : Prop :=
  ∀ request, e.effect.bind paymentRequest = some request →
    request.retryNumber = s.retryCount + (calls isPayment past + 1)

/-- The counters of a state are those of `s` and what a trace adds to them. -/
structure Tallies (s t : AgentState) (trace : List Execution) : Prop where
  retries : t.retryCount = s.retryCount + calls isPayment trace
  messages : t.communicationCount = s.communicationCount + calls isMessage trace
  checkouts : t.checkoutRecoveryMessageCount =
    s.checkoutRecoveryMessageCount + calls isCheckoutMessage trace

variable {policy : PolicyConfig} {limit : Nat} {s t u : AgentState} {n : Node} {w : NodeInput}
variable {effect : Option Effect} {trace : List Execution} {r r' : Run} {args : InitialArgs}
variable {P : Run → NodeInput → Prop}

theorem Returns.checkout_count (h : Returns policy s w n effect t) :
    t.checkoutRecoveryMessageCount =
      s.checkoutRecoveryMessageCount + (if effect.any isCheckoutMessage then 1 else 0) := by
  cases h with
  | messaged _ _ hm => rcases hm with rfl | rfl <;> simp [isCheckoutMessage]
  | _ => simp [recordRetry, incrementReplan, isCheckoutMessage]

theorem tallies_returned (h : Tallies s t trace) (hu : Returns policy t w n effect u) {time : ℚ}
    {before : AgentState} {after : Option AgentState} :
    Tallies s (wrapNode n u) (⟨n, time, before, effect, after⟩ :: trace) := by
  obtain ⟨hr, hm⟩ := hu.counts
  have hc := Returns.checkout_count hu
  have hretries := h.retries
  have hmessages := h.messages
  have hcheckouts := h.checkouts
  constructor
  · simp only [calls_cons, wrapNode, hr]
    split <;> omega
  · simp only [calls_cons, wrapNode, hm]
    split <;> omega
  · simp only [calls_cons, wrapNode, hc]
    split <;> omega

theorem isPayment_of_request {x : Effect} {request : RetryRequest} (h : paymentRequest x = some request) :
    isPayment x = true := by
  cases x <;> first | rfl | cases h

theorem request_number {x : Effect} {request : RetryRequest} (hs : Source policy s w n x)
    (h : paymentRequest x = some request) : request.retryNumber = s.retryCount + 1 := by
  obtain ⟨-, -, hc⟩ := hs.acts (by simp [acts, isPayment_of_request h])
  generalize executed s = strategy at hc
  cases hc with
  | scheduleRetry | retryNow => cases h; rfl
  | message => cases h

theorem numbered_of_source (ht : Tallies s r.state r.trace) {after : Option AgentState}
    (hs : ∀ x, effect = some x → Source policy r.state w n x) :
    Numbered s ⟨n, w.time, r.state, effect, after⟩ r.trace := by
  intro request hreq
  obtain ⟨x, hx, hreq⟩ := Option.bind_eq_some_iff.mp hreq
  rw [request_number (hs x hx) hreq, ht.retries]
  omega

/-- As long as no node raises, the counters are what the trace says; and every
payment call has its number. -/
structure Accounted (s : AgentState) (r : Run) : Prop where
  tallies : (∀ e, r.next ≠ .raised e) → Tallies s r.state r.trace
  numbered : Throughout (Numbered s) r.trace

theorem accounted_step (hi : Accounted s r) (h : step policy limit r w = some r') : Accounted s r' := by
  have live {n : Node} (hn : r.next = .node n) : Tallies s r.state r.trace :=
    hi.tallies (by simp [hn])
  cases step_cases h with
  | gaveUp hn hl => exact ⟨fun h => absurd rfl (h _), hi.numbered⟩
  | raised hn hl hs =>
      exact ⟨fun h => absurd rfl (h _), numbered_of_source (live hn) hs, hi.numbered⟩
  | returned hn hl hs hu =>
      exact ⟨fun _ => tallies_returned (live hn) hu, numbered_of_source (live hn) hs, hi.numbered⟩

theorem accounted_of_reach (h : Reach (step policy limit) P (start s) r) : Accounted s r := by
  refine h.invariant (I := Accounted s) ⟨fun _ => ?_, trivial⟩ fun _ _ _ _ hi _ hs => accounted_step hi hs
  exact ⟨by simp [start], by simp [start], by simp [start]⟩

/-- The payment calls of a run stay below the cap, or there are none. -/
theorem payments_capped (h : Reach (step policy limit) Any (start s) r) :
    calls isPayment r.trace = 0 ∨
      s.retryCount + calls isPayment r.trace ≤ policy.limits.maxRetries := by
  refine h.invariant (I := fun r => calls isPayment r.trace = 0 ∨
    s.retryCount + calls isPayment r.trace ≤ policy.limits.maxRetries) (.inl rfl) fun r w r' hr hcap _ hs => ?_
  have capped {n : Node} {effect : Option Effect} {after : Option AgentState} (hn : r.next = .node n)
      (hsrc : ∀ x, effect = some x → Source policy r.state w n x) :
      calls isPayment (⟨n, w.time, r.state, effect, after⟩ :: r.trace) = 0 ∨
        s.retryCount + calls isPayment (⟨n, w.time, r.state, effect, after⟩ :: r.trace) ≤
          policy.limits.maxRetries := by
    rw [calls_cons]
    cases hx : effect.any isPayment with
    | false => simpa using hcap
    | true =>
        obtain ⟨x, rfl, hpay⟩ := (Option.any_eq_true isPayment effect).mp hx
        have hbelow := (payment_permitted (inv_of_reach hr) hn (hsrc x rfl) hpay).2
        have hcount := ((accounted_of_reach hr).tallies (by simp [hn])).retries
        right
        simp only [if_true]
        omega
  cases step_cases hs with
  | gaveUp => exact hcap
  | raised hn _ hsrc => exact capped hn hsrc
  | returned hn _ hsrc => exact capped hn hsrc

/-- The replans of a state are within its limit, with one to spare in front of `replan`. -/
structure Replans (t : AgentState) (next : Next) : Prop where
  bounded : t.replanCount ≤ t.maxReplans
  spare : next = .node .replan → t.replanCount < t.maxReplans

theorem replanCount_returned (hu : Returns policy s w n effect u) :
    u.replanCount = s.replanCount + (if n = .replan then 1 else 0) ∧ u.maxReplans = s.maxReplans := by
  refine ⟨?_, congrArg Inputs.maxReplans hu.inputs_eq⟩
  cases hu <;> simp [recordRetry, incrementReplan]

theorem replans_returned (h : Replans s (.node n)) (hu : Returns policy s w n effect u) {count : Nat} :
    Replans (wrapNode n u) (advance limit count n (wrapNode n u)) := by
  obtain ⟨hcount, hmax⟩ := replanCount_returned hu
  constructor
  · have := h.bounded
    simp only [wrapNode, hcount, hmax]
    split
    case isTrue hn => have := h.spare (by rw [hn]); omega
    case isFalse => omega
  · intro hnext
    cases edge_of_advance hnext with
    | again _ hlt => exact hlt

theorem replans_of_reach (hs : Replans s (.node .riskDetection))
    (h : Reach (step policy limit) P (start s) r) :
    Replans r.state r.next ∧ ∀ e ∈ r.trace, e.before.replanCount ≤ e.before.maxReplans := by
  refine h.invariant (I := fun r => Replans r.state r.next ∧
    ∀ e ∈ r.trace, e.before.replanCount ≤ e.before.maxReplans) ⟨hs, by simp [start]⟩
    fun r w r' _ hi _ hstep => ?_
  cases step_cases hstep with
  | gaveUp => exact ⟨⟨hi.1.bounded, by simp⟩, hi.2⟩
  | raised => exact ⟨⟨hi.1.bounded, by simp⟩, List.forall_mem_cons.mpr ⟨hi.1.bounded, hi.2⟩⟩
  | returned hn _ _ hu =>
      exact ⟨replans_returned (hn ▸ hi.1) hu, List.forall_mem_cons.mpr ⟨hi.1.bounded, hi.2⟩⟩

theorem replans_initial (args : InitialArgs) : Replans (makeInitialState args) (.node .riskDetection) :=
  ⟨by simp [makeInitialState], by simp⟩

/-- Run accounting: the counters of a completed run say what it did, its
payment calls are numbered and capped, and no replan exceeds the limit. -/
theorem run_accounted (h : Reach (step policy limit) Any (start (makeInitialState args)) r)
    (hf : r.next = .finished) :
    (r.state.retryCount - args.retryCount = calls isPayment r.trace ∧
      (calls isPayment r.trace : Int) ≤ max 0 (policy.limits.maxRetries - args.retryCount)) ∧
    r.state.communicationCount - args.communicationCount = calls isMessage r.trace ∧
    r.state.checkoutRecoveryMessageCount - args.checkoutRecoveryMessageCount =
      calls isCheckoutMessage r.trace ∧
    (∀ later e past request, r.trace = later ++ e :: past → e.effect.bind paymentRequest = some request →
      request.retryNumber = args.retryCount + (calls isPayment past + 1)) ∧
    r.state.replanCount ≤ r.state.maxReplans ∧
    ∀ e ∈ r.trace, e.before.replanCount ≤ e.before.maxReplans := by
  obtain ⟨htallies, hnumbered⟩ := accounted_of_reach h
  obtain ⟨hretries, hmessages, hcheckouts⟩ := htallies (by simp [hf])
  obtain ⟨hreplans, hbefore⟩ := replans_of_reach (replans_initial args) h
  have hcap := payments_capped h
  simp only [makeInitialState] at hretries hmessages hcheckouts hcap
  refine ⟨⟨by omega, by omega⟩, by omega, by omega, ?_, hreplans.bounded, hbefore⟩
  intro later e past request ht hreq
  exact hnumbered.split ht request hreq

def repaidInputs : List NodeInput :=
  sampleCycle .retryNow { retry := .ok failedRetry } ++
    [({} : NodeInput), { payment := .ok { failedPayment with status := .success, amountPaise := 100000 } }, {}]

/-- One cycle in which the retried payment succeeds. -/
def repaidRun : Run :=
  (exec (step samplePolicy recursionLimit) (start (makeInitialState sampleArgs)) repaidInputs).getD
    (start sampleState)

theorem repaidRun_reach :
    Reach (step samplePolicy recursionLimit) Any (start (makeInitialState sampleArgs)) repaidRun :=
  reach_of_exec repaidInputs rfl

theorem run_accounted_sample :
    (repaidRun.state.retryCount - sampleArgs.retryCount = calls isPayment repaidRun.trace ∧
      (calls isPayment repaidRun.trace : Int) ≤
        max 0 (samplePolicy.limits.maxRetries - sampleArgs.retryCount)) ∧
    repaidRun.state.communicationCount - sampleArgs.communicationCount =
      calls isMessage repaidRun.trace ∧
    repaidRun.state.checkoutRecoveryMessageCount - sampleArgs.checkoutRecoveryMessageCount =
      calls isCheckoutMessage repaidRun.trace ∧
    (∀ later e past request, repaidRun.trace = later ++ e :: past →
      e.effect.bind paymentRequest = some request →
      request.retryNumber = sampleArgs.retryCount + (calls isPayment past + 1)) ∧
    repaidRun.state.replanCount ≤ repaidRun.state.maxReplans ∧
    ∀ e ∈ repaidRun.trace, e.before.replanCount ≤ e.before.maxReplans :=
  run_accounted repaidRun_reach rfl

end RevenueRescue.RunAccounting
