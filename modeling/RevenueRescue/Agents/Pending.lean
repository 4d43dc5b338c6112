import RevenueRescue.Agents.Cycle
import RevenueRescue.Agents.Gate

namespace RevenueRescue.PendingOutcome

open Enums PolicySchema PolicyEngine Providers AgentSchemas NodeUtils DeterministicNodes
open RecoveryGraph GraphEffects PolicyGate RecoveryCycle Machine

/-- The outcomes that leave it open whether the customer pays. -/
def isPending (v : VerificationResult) : Bool :=
  decide (v.outcome = .status .pending ∨ v.outcome = .pendingWebhook)

def JustPending (r : Run) : Prop :=
  ∃ e past state v, r.trace = e :: past ∧ e.node = .verification ∧ e.after = some state ∧
    state.verificationResult = some v ∧ isPending v = true

/-- Why nothing can happen to the customer any more: no replan is left, the
step limit comes first, or the policy engine would approve no action. -/
def Final (policy : PolicyConfig) (limit : Nat) (r : Run) : Prop :=
  r.state.maxReplans ≤ r.state.replanCount ∨ limit < r.trace.length + 4 ∨
    ∀ strat : StrategyOutput, isAction strat.recoveryStrategy = true →
      (authorize policy (policyContext r.state strat)).decision ≠ .approved

def isOpening (n : Node) : Bool :=
  decide (n ∈ [Node.riskDetection, .contextBuilder, .diagnosis])

/-- How far a run must have come since its latest verification to be at a node. -/
def rank : Node → Nat
  | .strategy => 1
  | .policyCheck => 2
  | .actionExecution => 3
  | _ => 0

variable {policy : PolicyConfig} {limit : Nat} {state s t u : AgentState} {n m : Node}
variable {base r r' run : Run} {w : NodeInput} {effect : Option Effect}

theorem edge_rank (h : Edge t n m) : rank m ≤ rank n + 1 := by
  cases h <;> decide

theorem edge_opening (h : Edge t n m) (hn : isOpening n = false) : isOpening m = false := by
  cases h <;> first | rfl | cases hn

structure Shape (limit : Nat) (r : Run) : Prop where
  diagnosed : ∀ n, r.next = .node n → isOpening n = true ∨ n = .completion ∨
    r.state.caseDiagnosis.isSome = true
  latest : ∀ e past t, r.trace = e :: past → e.after = some t → t = r.state ∧
    (r.next = advance limit r.trace.length e.node t ∨
      limit ≤ r.trace.length ∧ ∀ n, r.next ≠ .node n)

theorem returns_diagnosed (hu : Returns policy s w n effect u) (he : Edge (wrapNode n u) n m)
    (hs : isOpening n = true ∨ n = .completion ∨ s.caseDiagnosis.isSome = true) :
    isOpening m = true ∨ m = .completion ∨ (wrapNode n u).caseDiagnosis.isSome = true := by
  cases hu with
  | riskStopped | riskPassed =>
      cases he
      · exact .inr (.inl rfl)
      · exact .inl rfl
  | contextBuilder => cases he; exact .inl rfl
  | diagnosis diag => exact .inr (.inr rfl)
  | completion => cases he
  | _ =>
      rcases hs with hs | hs | hs
      · cases hs
      · cases hs
      · exact .inr (.inr hs)

theorem shape_step (hi : Shape limit r) (h : step policy limit r w = some r') : Shape limit r' := by
  cases step_cases h with
  | gaveUp hn hl =>
      exact ⟨by simp, fun e past t ht ha => ⟨(hi.latest e past t ht ha).1, .inr ⟨hl, by simp⟩⟩⟩
  | raised hn hl hs =>
      refine ⟨by simp, fun e past t ht ha => ?_⟩
      cases ht
      cases ha
  | returned hn hl hs hu =>
      refine ⟨fun m hm => ?_, fun e past t ht ha => ?_⟩
      · exact returns_diagnosed hu (edge_of_advance hm) (hi.diagnosed _ hn)
      · cases ht
        cases ha
        exact ⟨rfl, .inl rfl⟩

theorem shape_of_reach (h : Reach (step policy limit) Any (start state) run) : Shape limit run :=
  h.invariant ⟨fun n hn => by cases hn; exact .inl rfl, by simp [start]⟩ fun _ _ _ _ hi _ hs => shape_step hi hs

theorem returns_standing (hu : Returns policy s w n effect u) (hn : isOpening n = false)
    (he : effect.any acts = false) :
    standing u = standing s ∨ (n = .verification ∧ u.caseIsRecovered = true) := by
  cases hu with
  | scheduled | retried | resumed | messaged => cases he
  | recovered => exact .inr ⟨rfl, rfl⟩
  | riskStopped | riskPassed | contextBuilder | diagnosis => cases hn
  | _ => exact .inl rfl

theorem quiet_below_limit (hb : ∀ n, base.next = .node n → rank n = 0)
    (hl : limit < base.trace.length + 4) (h : Reach (step policy limit) Any base run) :
    calls acts run.trace = calls acts base.trace := by
  let I (r : Run) : Prop := calls acts r.trace = calls acts base.trace ∧
    ∀ n, r.next = .node n → base.trace.length + rank n ≤ r.trace.length
  have quiet {r : Run} {w : NodeInput} {n : Node} {effect : Option Effect} (hi : I r)
      (hn : r.next = .node n) (hlt : r.trace.length < limit)
      (hs : ∀ x, effect = some x → Source policy r.state w n x) : effect.any acts = false := by
    cases effect with
    | none => rfl
    | some x =>
        by_contra hx
        obtain ⟨rfl, -, -⟩ := (hs x rfl).acts (by simpa using hx)
        have := hi.2 _ hn
        simp only [rank] at this
        omega
  refine (h.invariant (I := I) ⟨rfl, fun n hn => by simp [hb n hn]⟩ fun r w r' _ hi _ hs => ?_).1
  cases step_cases hs with
  | gaveUp hn hlt => exact ⟨hi.1, by simp⟩
  | raised hn hlt hsrc => exact ⟨by simp [quiet hi hn hlt hsrc, hi.1], by simp⟩
  | returned hn hlt hsrc hu =>
      refine ⟨by simp [quiet hi hn hlt hsrc, hi.1], fun m hm => ?_⟩
      have := edge_rank (edge_of_advance hm)
      have := hi.2 _ hn
      simp only [List.length_cons]
      omega

theorem quiet_refused (hr : Reach (step policy limit) Any (start state) base)
    (hb : ∀ n, base.next = .node n → isOpening n = false)
    (href : ∀ strat : StrategyOutput, isAction strat.recoveryStrategy = true →
      (authorize policy (policyContext base.state strat)).decision ≠ .approved)
    (h : Reach (step policy limit) Any base run) :
    calls acts run.trace = calls acts base.trace := by
  let I (r : Run) : Prop := calls acts r.trace = calls acts base.trace ∧
    (Closing r ∨ standing r.state = standing base.state ∧ ∀ n, r.next = .node n → isOpening n = false)
  refine (h.invariant (I := I) ⟨rfl, .inr ⟨rfl, hb⟩⟩ fun r w r' hreach hi _ hs => ?_).1
  rcases hi with ⟨hcalls, hcl | ⟨hst, hop⟩⟩
  · have := closing_step hcl hs
    exact ⟨this.2.trans hcalls, .inl this.1⟩
  · have quiet {n : Node} {effect : Option Effect} (hn : r.next = .node n)
        (hsrc : ∀ x, effect = some x → Source policy r.state w n x) : effect.any acts = false := by
      cases effect with
      | none => rfl
      | some x =>
          by_contra hx
          obtain ⟨-, strat, -, hc, hp⟩ :=
            acting_permitted (inv_of_reach (hr.trans hreach)) hn (hsrc x rfl) (by simpa using hx)
          rw [policyContext_congr hst] at hp
          exact href strat (isAction_of_carriesOut hc) ((authorize_approved_iff policy _).mpr hp)
    cases step_cases hs with
    | gaveUp hn hlt => exact ⟨hcalls, .inl (by simp [Closing])⟩
    | raised hn hlt hsrc => exact ⟨by simp [quiet hn hsrc, hcalls], .inl (by simp [Closing])⟩
    | @returned n u effect hn hlt hsrc hu =>
        refine ⟨by simp [quiet hn hsrc, hcalls], ?_⟩
        rcases returns_standing hu (hop n hn) (quiet hn hsrc) with he | ⟨rfl, hrec⟩
        · exact .inr ⟨he.trans hst, fun m hm =>
            edge_opening (edge_of_advance hm) (hop n hn)⟩
        · refine .inl fun m hm => ?_
          have hm : advance limit (r.trace.length + 1) .verification (wrapNode .verification u) = .node m := hm
          cases edge_of_advance hm with
          | recovered _ => exact .inr rfl
          | again hf _ => exact absurd (hf.symm.trans hrec) (by decide)
          | exhausted hf _ => exact .inl rfl

theorem justPending_next (hr : Reach (step policy limit) Any (start state) r) (hp : JustPending r) :
    r.next = advance limit r.trace.length .verification r.state ∨
      limit ≤ r.trace.length ∧ ∀ n, r.next ≠ .node n := by
  obtain ⟨e, past, t, v, ht, hnode, ha, -, -⟩ := hp
  obtain ⟨rfl, hnext⟩ := (shape_of_reach hr).latest e past t ht ha
  rwa [hnode] at hnext

theorem reach_again {diag : DiagnosisOutput} {strat : StrategyOutput} (trace : List Execution)
    (hd : s.caseDiagnosis = some diag) (ha : (authorize policy (policyContext s strat)).decision = .approved)
    (hx : isAction strat.recoveryStrategy = true) (hl : trace.length + 4 ≤ limit) :
    ∃ r', Reach (step policy limit) Any ⟨.node .replan, s, trace⟩ r' ∧
      calls acts trace < calls acts r'.trace := by
  obtain ⟨t, e, h0, he, hst⟩ := reach_replanned policy limit trace s (by omega) 0
  have hd' : t.caseDiagnosis = some diag := (congrArg Standing.caseDiagnosis hst).trans hd
  obtain ⟨u, f, g, h1, hf, hg, -, -, hdu, hxu⟩ := reach_approved policy limit (e :: trace) hd'
    (by rwa [policyContext_congr hst] : (authorize policy (policyContext t strat)).decision = .approved)
    (by simp only [List.length_cons]; omega) 0
  obtain ⟨r', k, h2, htr, hk⟩ := reach_acted policy limit (f :: g :: e :: trace)
    hdu (hxu.symm ▸ hx) (by simp only [List.length_cons]; omega) 0
  exact ⟨r', ((h0.trans h1).trans h2).any, by simp [htr, hk, he, hf, hg]⟩

/-- Pending outcome: the rest of the run leaves the customer alone, whatever
the LLM proposes, exactly when it has no way on to an action. -/
theorem pending_final_iff (hr : Reach (step policy limit) Any (start state) run)
    (hp : JustPending run) :
    (∀ run', Reach (step policy limit) Any run run' →
      calls acts run'.trace = calls acts run.trace) ↔ Final policy limit run := by
  have hnext := justPending_next hr hp
  constructor
  · intro hquiet
    by_contra hf
    simp only [Final, not_or, not_le, not_lt, not_forall, not_not] at hf
    obtain ⟨hc, hl, strat, hx, ha⟩ := hf
    -- An approval says that the case is not recovered, so the router replans.
    have hrec : run.state.caseIsRecovered = false :=
      ((authorize_approved_iff policy _).mp ha).notRecovered
    have hn : run.next = .node .replan := by
      rcases hnext with h | h
      · rw [h, advance_eq_node]
        simp [successor, routeAfterVerification, hrec, hc]
      · omega
    have hdiag : run.state.caseDiagnosis.isSome = true := by
      rcases (shape_of_reach hr).diagnosed _ hn with h | h | h
      · cases h
      · cases h
      · exact h
    obtain ⟨diag, hd⟩ := Option.isSome_iff_exists.mp hdiag
    obtain ⟨r', hreach, hlt⟩ := reach_again run.trace hd ha hx hl
    rw [← hn] at hreach
    exact absurd (hquiet r' hreach) (Nat.ne_of_gt hlt)
  · intro hf run' h
    have hedge : ∀ n, run.next = .node n → Edge run.state .verification n := by
      intro n hn
      rcases hnext with h | ⟨-, h⟩
      · exact edge_of_advance (h ▸ hn)
      · exact absurd hn (h n)
    rcases hf with hc | hl | href
    · refine (closing_reach (fun n hn => ?_) h).2
      cases hedge n hn with
      | recovered _ => exact .inr rfl
      | again _ hlt => omega
      | exhausted _ _ => exact .inl rfl
    · refine quiet_below_limit (fun n hn => ?_) hl h
      cases hedge n hn <;> rfl
    · refine quiet_refused hr (fun n hn => ?_) href h
      cases hedge n hn <;> rfl

def pendingRetry : RetryResult where
  attemptId := "a1"
  paymentId := "p1"
  status := .pending
  amountPaise := 100000
  currency := "INR"
  provider := .razorpayTest

def pendingPayment : PaymentResult where
  paymentId := "p1"
  status := .pending
  amountPaise := 100000
  currency := "INR"
  provider := .razorpayTest

def pendingInputs : List NodeInput :=
  sampleCycle .retryNow { retry := .ok pendingRetry } ++
    [({} : NodeInput), { payment := .ok pendingPayment }]

def pendingRun : Run :=
  (exec (step samplePolicy recursionLimit) (start sampleState) pendingInputs).getD (start sampleState)

theorem pendingRun_reach :
    Reach (step samplePolicy recursionLimit) Any (start sampleState) pendingRun :=
  reach_of_exec pendingInputs rfl

theorem pendingRun_pending : JustPending pendingRun := ⟨_, _, _, _, rfl, rfl, rfl, rfl, rfl⟩

theorem pending_final_iff_sample :
    (∀ run', Reach (step samplePolicy recursionLimit) Any pendingRun run' →
      calls acts run'.trace = calls acts pendingRun.trace) ↔
        Final samplePolicy recursionLimit pendingRun :=
  pending_final_iff pendingRun_reach pendingRun_pending

def retriedRun : Run :=
  (exec (step samplePolicy recursionLimit) pendingRun
    [{}, { strategy := some (sampleStrategy .retryNow) }, {}, { retry := .ok pendingRetry }]).getD
    (start sampleState)

theorem pending_retried : ¬ ∀ run run',
    Reach (step samplePolicy recursionLimit) Any (start sampleState) run → JustPending run →
    Reach (step samplePolicy recursionLimit) Any run run' →
    calls acts run'.trace = calls acts run.trace := by
  intro h
  have hreach : Reach (step samplePolicy recursionLimit) Any pendingRun retriedRun :=
    reach_of_exec ([{}, { strategy := some (sampleStrategy .retryNow) }, {},
      { retry := .ok pendingRetry }]) rfl
  exact absurd (h _ _ pendingRun_reach pendingRun_pending hreach) (by decide +kernel)

end RevenueRescue.PendingOutcome
