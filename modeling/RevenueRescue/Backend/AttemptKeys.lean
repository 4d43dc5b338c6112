import RevenueRescue.Agents.Accounting
import RevenueRescue.Backend.Atomicity

namespace RevenueRescue.AttemptKeys

open Enums PolicySchema AgentSchemas Providers DeterministicNodes RecoveryGraph GraphEffects RunAccounting
open Machine Models RecoveryService PolicyGate Restrictions RunAtomicity

def idempotencyKey (caseId : String) (strategy : RecoveryStrategy) (number : Int) : String :=
  caseId ++ "-" ++ strategy.value ++ "-" ++ toString number

/-- The keys of the payment calls of a trace, the first call first. -/
def keys (trace : List Execution) : List String :=
  trace.reverse.filterMap fun e => (e.effect.bind paymentRequest).map RetryRequest.idempotencyKey

/-- The strategies that the state had at the payment calls of a trace. -/
def proposals (trace : List Execution) : List RecoveryStrategy :=
  trace.reverse.filterMap fun e => (e.effect.bind paymentRequest).map fun _ => executed e.before

/-- Entries at the same place are equal, as far as both lists go. -/
def Agree {α : Type} (xs ys : List α) : Prop := ∀ (k : Nat) x y, xs[k]? = some x → ys[k]? = some y → x = y

/-- What an attempt does, from the rows that it loads to the last node that it executes. -/
def attemptTrace (db : Db) (agentRunId : Uuid) (input : AttemptInput) : List Execution :=
  match loadAttempt db agentRunId, input.policy with
  | some (run, case), .ok policy =>
      (drive policy recursionLimit input.nodes (recursionLimit + 1) (start (initialState case run.id))).trace
  | _, _ => []

variable {policy policy' : PolicyConfig} {limit : Nat} {s t : AgentState} {n : Node} {w : NodeInput} {r r' : Run}
variable {effect : Option Effect} {trace : List Execution} {strategy strategy' : RecoveryStrategy}

theorem keys_cons (e : Execution) (trace : List Execution) :
    keys (e :: trace) = keys trace ++ ((e.effect.bind paymentRequest).map RetryRequest.idempotencyKey).toList := by
  rw [keys, List.reverse_cons, List.filterMap_append, List.filterMap_cons, ← keys]
  cases (e.effect.bind paymentRequest).map RetryRequest.idempotencyKey <;> rfl

theorem proposals_cons (e : Execution) (trace : List Execution) :
    proposals (e :: trace) =
      proposals trace ++ ((e.effect.bind paymentRequest).map fun _ => executed e.before).toList := by
  rw [proposals, List.reverse_cons, List.filterMap_append, List.filterMap_cons, ← proposals]
  cases (e.effect.bind paymentRequest).map fun _ => executed e.before <;> rfl

theorem request_key {x : Effect} {request : RetryRequest} (hs : Source policy t w n x)
    (h : paymentRequest x = some request) :
    request.idempotencyKey = idempotencyKey t.caseId (executed t) (t.retryCount + 1) ∧
      (executed t = .retryNow ∨ executed t = .scheduleRetry) := by
  obtain ⟨-, -, hc⟩ := hs.acts (by simp [acts, isPayment_of_request h])
  generalize executed t = strategy at hc
  cases hc with
  | scheduleRetry => cases h; exact ⟨rfl, .inr rfl⟩
  | retryNow => cases h; exact ⟨rfl, .inl rfl⟩
  | message => cases h

/-- The key of a payment call is made of the case, the strategy of the state
and the number of the call, counted on from the case. -/
structure Keyed (s : AgentState) (trace : List Execution) : Prop where
  keys : keys trace =
    (proposals trace).mapIdx fun k strategy => idempotencyKey s.caseId strategy (s.retryCount + (k + 1))
  count : (proposals trace).length = calls isPayment trace
  retries : ∀ strategy ∈ proposals trace, strategy = .retryNow ∨ strategy = .scheduleRetry

theorem isPayment_iff {x : Effect} : isPayment x = (paymentRequest x).isSome := by
  cases x <;> rfl

theorem keyed_cons (hk : Keyed s trace) (hn : t.retryCount = s.retryCount + calls isPayment trace)
    (hc : t.caseId = s.caseId) (hs : ∀ x, effect = some x → Source policy t w n x) (time : ℚ)
    (after : Option AgentState) : Keyed s (⟨n, time, t, effect, after⟩ :: trace) := by
  have hpayment : effect.any isPayment = (effect.bind paymentRequest).isSome := by
    cases effect with
    | none => rfl
    | some x => exact isPayment_iff
  cases hreq : effect.bind paymentRequest with
  | none =>
      rw [hreq] at hpayment
      constructor
      · rw [keys_cons, proposals_cons, hreq]
        simpa using hk.keys
      · rw [proposals_cons, hreq, calls_cons, hpayment]
        simpa using hk.count
      · rw [proposals_cons, hreq]
        simpa using hk.retries
  | some request =>
      rw [hreq] at hpayment
      obtain ⟨x, hx, hx'⟩ := Option.bind_eq_some_iff.mp hreq
      obtain ⟨hkey, hretry⟩ := request_key (hs x hx) hx'
      constructor
      · rw [keys_cons, proposals_cons, hreq, hk.keys]
        simp [List.mapIdx_append, hkey, hc, hn, hk.count, add_assoc]
      · rw [proposals_cons, hreq, calls_cons, hpayment]
        simp [hk.count]
      · rw [proposals_cons, hreq]
        simp only [Option.map_some, Option.toList_some, List.mem_append, List.mem_singleton]
        rintro strategy (h | rfl)
        · exact hk.retries strategy h
        · exact hretry

theorem keyed_of_reach (h : Reach (step policy limit) Any (start s) r) : Keyed s r.trace := by
  have hstart : Accounted s (start s) :=
    accounted_of_reach (.refl : Reach (step policy limit) Any (start s) (start s))
  have hinv : Accounted s r ∧ inputs r.state = inputs s ∧ Keyed s r.trace := by
    refine h.invariant (I := fun r => Accounted s r ∧ inputs r.state = inputs s ∧ Keyed s r.trace) ?_ ?_
    · exact ⟨hstart, rfl, rfl, rfl, by simp [proposals, start]⟩
    · rintro r w r' hr ⟨ha, hi, hk⟩ _ hs
      refine ⟨accounted_step ha hs, (inputs_of_reach (Reach.single (P := Any) trivial hs)).trans hi, ?_⟩
      have hcase : r.state.caseId = s.caseId := congrArg Inputs.caseId hi
      cases step_cases hs with
      | gaveUp => exact hk
      | raised hn _ hsrc => exact keyed_cons hk (ha.tallies (by simp [hn])).retries hcase hsrc _ _
      | returned hn _ hsrc => exact keyed_cons hk (ha.tallies (by simp [hn])).retries hcase hsrc _ _
  exact hinv.2.2

theorem idempotencyKey_inj {caseId : String} {number : Int} (h : strategy = .retryNow ∨ strategy = .scheduleRetry)
    (h' : strategy' = .retryNow ∨ strategy' = .scheduleRetry) :
    idempotencyKey caseId strategy number = idempotencyKey caseId strategy' number ↔ strategy = strategy' := by
  constructor
  · intro he
    have hvalue : strategy.value = strategy'.value := by
      simpa [idempotencyKey, String.ext_iff] using he
    rcases h with rfl | rfl <;> rcases h' with rfl | rfl
    all_goals first | rfl | exact absurd hvalue (by decide)
  · rintro rfl
    rfl

theorem agree_mapIdx {α β : Type} {xs ys : List α} {f : Nat → α → β}
    (hf : ∀ x ∈ xs, ∀ y ∈ ys, ∀ k, f k x = f k y ↔ x = y) : Agree (xs.mapIdx f) (ys.mapIdx f) ↔ Agree xs ys := by
  constructor
  · intro h k x y hx hy
    refine (hf x (List.mem_of_getElem? hx) y (List.mem_of_getElem? hy) k).mp (h k _ _ ?_ ?_)
    · rw [List.getElem?_mapIdx, hx, Option.map_some]
    · rw [List.getElem?_mapIdx, hy, Option.map_some]
  · intro h k a b ha hb
    rw [List.getElem?_mapIdx] at ha hb
    obtain ⟨x, hx, rfl⟩ := Option.map_eq_some_iff.mp ha
    obtain ⟨y, hy, rfl⟩ := Option.map_eq_some_iff.mp hb
    rw [h k x y hx hy]

theorem Keyed.agree_iff {trace' : List Execution} (h : Keyed s trace) (h' : Keyed s trace') :
    Agree (AttemptKeys.keys trace) (AttemptKeys.keys trace') ↔ Agree (proposals trace) (proposals trace') := by
  rw [h.keys, h'.keys]
  exact agree_mapIdx fun x hx y hy k => idempotencyKey_inj (h.retries x hx) (h'.retries y hy)

theorem keyed_nil (s : AgentState) : Keyed s [] := ⟨rfl, rfl, by simp [proposals]⟩

theorem attemptTrace_keyed {db : Db} {agentRunId : Uuid} {run : AgentRun} {case : RecoveryCase}
    (h : loadAttempt db agentRunId = some (run, case)) (input : AttemptInput) :
    Keyed (initialState case run.id) (attemptTrace db agentRunId input) := by
  unfold attemptTrace
  rw [h]
  cases input.policy with
  | error failure => exact keyed_nil _
  | ok policy => exact keyed_of_reach (drive_reach input.nodes (recursionLimit + 1) _)

theorem attemptTrace_unloaded {db : Db} {agentRunId : Uuid} (h : loadAttempt db agentRunId = none)
    (input : AttemptInput) : attemptTrace db agentRunId input = [] := by
  unfold attemptTrace
  rw [h]

theorem executeAgentRun_reraised {db : Db} {agentRunId : Uuid} {finalAttempt : Bool} {input : AttemptInput}
    (h : (executeAgentRun db agentRunId finalAttempt input).2 = .reraised) :
    (executeAgentRun db agentRunId finalAttempt input).1 = db := by
  unfold executeAgentRun at h ⊢
  cases hrun : db.runs.find agentRunId with
  | none => rfl
  | some run =>
      simp only [hrun] at h ⊢
      split at h
      · cases h
      · rename_i hrunning
        rw [if_neg hrunning]
        cases hcase : db.cases.find run.recoveryCaseId with
        | none => rfl
        | some case =>
            simp only [hcase] at h ⊢
            cases hout : attemptOutcome finalAttempt case run input.faults (attemptResult input case run) with
            | committed w status => rw [hout] at h; cases h
            | rolledBack => rfl

/-- Keys across attempts: after an attempt that failed, the payment calls of
the next one carry the same keys exactly when they are for the same strategies. -/
theorem keys_stable_iff {db : Db} {agentRunId : Uuid} {finalAttempt : Bool} {input : AttemptInput}
    (hf : (executeAgentRun db agentRunId finalAttempt input).2 = .reraised) (input' : AttemptInput) :
    Agree (keys (attemptTrace db agentRunId input))
        (keys (attemptTrace (executeAgentRun db agentRunId finalAttempt input).1 agentRunId input')) ↔
      Agree (proposals (attemptTrace db agentRunId input))
        (proposals (attemptTrace (executeAgentRun db agentRunId finalAttempt input).1 agentRunId input')) := by
  rw [executeAgentRun_reraised hf]
  cases h : loadAttempt db agentRunId with
  | none =>
      rw [attemptTrace_unloaded h, attemptTrace_unloaded h]
      simp [Agree, keys, proposals]
  | some loaded => exact (attemptTrace_keyed h input).agree_iff (attemptTrace_keyed h input')

def retryDb : Db := { restrictedDb with customers := Table.empty }

/-- The provider takes the payment call and reports success. The audit does not
take its transaction id, so that the end of the attempt raises. -/
def succeedingInput (strategy : RecoveryStrategy) : AttemptInput where
  policy := .ok samplePolicy
  nodes i := (sampleCycle strategy { retry := .ok simulatedRetry } ++
    [({} : NodeInput), { payment := .ok simulatedPayment }, {}]).getD i {}

theorem succeedingInput_reraised :
    (executeAgentRun retryDb (.ofDigit 3) false (succeedingInput .retryNow)).2 = .reraised := by
  decide +kernel

theorem keys_stable_sample :
    Agree (keys (attemptTrace retryDb (.ofDigit 3) (succeedingInput .retryNow)))
      (keys (attemptTrace (executeAgentRun retryDb (.ofDigit 3) false (succeedingInput .retryNow)).1 (.ofDigit 3)
        (succeedingInput .retryNow))) := by
  refine (keys_stable_iff succeedingInput_reraised (succeedingInput .retryNow)).mpr fun k x y hx hy => ?_
  have hsame : proposals (attemptTrace retryDb (.ofDigit 3) (succeedingInput .retryNow)) =
      proposals (attemptTrace (executeAgentRun retryDb (.ofDigit 3) false (succeedingInput .retryNow)).1 (.ofDigit 3)
        (succeedingInput .retryNow)) := by
    decide +kernel
  rw [hsame, hy] at hx
  exact (Option.some.inj hx).symm

theorem keys_not_stable : ¬ ∀ db agentRunId input input',
    (executeAgentRun db agentRunId false input).2 = .reraised →
      Agree (keys (attemptTrace db agentRunId input))
        (keys (attemptTrace (executeAgentRun db agentRunId false input).1 agentRunId input')) := by
  intro h
  have hkeys := h retryDb (.ofDigit 3) (succeedingInput .retryNow) (succeedingInput .scheduleRetry)
    succeedingInput_reraised 0 (idempotencyKey (Uuid.ofDigit 1).str .retryNow 1)
    (idempotencyKey (Uuid.ofDigit 1).str .scheduleRetry 1) (by decide +kernel) (by decide +kernel)
  exact absurd hkeys (by decide +kernel)

end RevenueRescue.AttemptKeys
