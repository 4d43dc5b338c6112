import RevenueRescue.Agents.Budget
import RevenueRescue.Backend.RecoveryService

namespace RevenueRescue.RecoverySoundness

open Enums PolicySchema PolicyEngine Providers AgentSchemas NodeUtils DeterministicNodes
open RecoveryGraph GraphEffects PolicyGate RecoveryCycle StepBudget RecoveryService Machine

def foundPaid (e : Execution) : Option (String × PaymentResult) :=
  match e.effect with
  | some (.getPayment tx (.ok payment)) => if payment.status = .success then some (tx, payment) else none
  | _ => none

def LastRetry (trace : List Execution) (tx : String) : Prop :=
  ∃ e, trace.find? (fun e => e.effect.any isPayment) = some e ∧
    e.before.policyResult.map (·.decision) = some .approved ∧
      ∃ r ∈ e.effect.bind retryAnswer, r.paymentId = tx

def Fetched (trace : List Execution) (tx : String) (payment : PaymentResult) : Prop :=
  ∃ later e past, trace = later ++ e :: past ∧ foundPaid e = some (tx, payment) ∧
    LastRetry past tx ∧ calls isPayment later = 0

/-- A recovery stands on a payment that was fetched and is the one the case
waits for, and that is the amount that gets recorded. -/
def SoundRecovery (args : InitialArgs) (r : Run) : Prop :=
  r.state.caseIsRecovered = true → ∃ tx payment, Fetched r.trace tx payment ∧
    payment.amountPaise = args.amountPaise ∧ payment.currency = args.currency ∧
    ∀ caseId n, Stmt.amountRecovered n ∈ applyAgentResult caseId r.state → n = args.amountPaise

/-- Every payment that the provider reports as successful has the amount and the currency of the case. -/
def PaymentsMatch (args : InitialArgs) (trace : List Execution) : Prop :=
  ∀ e ∈ trace, ∀ tx payment, foundPaid e = some (tx, payment) →
    payment.amountPaise = args.amountPaise ∧ payment.currency = args.currency

structure Grounded (r : Run) : Prop where
  executed : ∀ a tx o f m, r.state.executionResult = some (.paymentRetry a tx o f m) → LastRetry r.trace tx
  unpaid : r.state.caseIsRecovered = false → r.trace.filterMap foundPaid = []
  paid : r.state.caseIsRecovered = true → (∀ n, r.next = .node n → n = .completion) ∧
    ∃ tx payment time, r.trace.filterMap foundPaid = [(tx, payment)] ∧ Fetched r.trace tx payment ∧
      r.state.verificationResult = some (paymentVerdict tx payment time)

variable {policy : PolicyConfig} {limit : Nat} {args : InitialArgs} {r r' : Run} {w : NodeInput}
variable {s u : AgentState} {n m : Node} {e : Execution} {trace : List Execution} {tx : String}

theorem lastRetry_cons (he : e.effect.any isPayment = false) (h : LastRetry trace tx) :
    LastRetry (e :: trace) tx := by
  obtain ⟨f, hf, hd, hr⟩ := h
  exact ⟨f, by rw [List.find?_cons, he]; exact hf, hd, hr⟩

theorem fetched_cons {payment : PaymentResult} (he : e.effect.any isPayment = false)
    (h : Fetched trace tx payment) : Fetched (e :: trace) tx payment := by
  obtain ⟨later, f, past, rfl, hf, hl, hc⟩ := h
  exact ⟨e :: later, f, past, rfl, hf, hl, by rw [calls_cons, hc, he]; rfl⟩

theorem grounded_quiet {next : Next} {effect : Option Effect} {after : Option AgentState} (h : Grounded r)
    (hp : effect.any isPayment = false) (hfound : foundPaid ⟨n, w.time, r.state, effect, after⟩ = none)
    (hx : ∀ a tx o f m, u.executionResult = some (.paymentRetry a tx o f m) →
      r.state.executionResult = some (.paymentRetry a tx o f m))
    (hr : u.caseIsRecovered = r.state.caseIsRecovered)
    (hv : u.caseIsRecovered = true → u.verificationResult = r.state.verificationResult)
    (hn : u.caseIsRecovered = true → ∀ n, next = .node n → n = .completion) :
    Grounded ⟨next, u, ⟨n, w.time, r.state, effect, after⟩ :: r.trace⟩ := by
  refine ⟨fun a tx o f m hu => ?_, fun hu => ?_, fun hu => ⟨hn hu, ?_⟩⟩
  · exact lastRetry_cons hp (h.executed a tx o f m (hx a tx o f m hu))
  · rw [List.filterMap_cons, hfound]
    exact h.unpaid (hr ▸ hu)
  · obtain ⟨-, tx, payment, time, hlist, hfetched, hver⟩ := h.paid (hr ▸ hu)
    refine ⟨tx, payment, time, ?_, fetched_cons hp hfetched, (hv hu).trans hver⟩
    rw [List.filterMap_cons, hfound]
    exact hlist

theorem grounded_retry {next : Next} {effect : Effect} {answer : RetryResult} (h : Grounded r)
    (hopen : r.state.caseIsRecovered = false) (hd : r.state.policyResult.map (·.decision) = some .approved)
    (hp : isPayment effect = true) (ha : retryAnswer effect = some answer) :
    Grounded ⟨next, wrapNode .actionExecution (recordRetry (addTrace r.state .actionExecution) answer),
      ⟨.actionExecution, w.time, r.state, some effect,
        some (wrapNode .actionExecution (recordRetry (addTrace r.state .actionExecution) answer))⟩ :: r.trace⟩ := by
  refine ⟨fun a tx o f m hu => ?_, fun _ => ?_, fun hu => ?_⟩
  · refine ⟨_, List.find?_cons_of_pos hp, hd, answer, ha, ?_⟩
    simp only [wrapNode, recordRetry, Option.some.injEq, ExecutionResult.paymentRetry.injEq] at hu
    exact hu.2.1
  · rw [List.filterMap_cons_none]
    · exact h.unpaid hopen
    · cases effect with
      | getPayment => cases hp
      | _ => rfl
  · have hu : r.state.caseIsRecovered = true := hu
    rw [hopen] at hu
    cases hu

theorem grounded_paid {next : Next} {a : String} {o : PaymentStatus} {f : Option String} {amount : Int}
    {payment : PaymentResult} {after : Option AgentState} (h : Grounded r)
    (hopen : r.state.caseIsRecovered = false)
    (hx : r.state.executionResult = some (.paymentRetry a tx o f amount)) (hs : payment.status = .success)
    (hu : u.caseIsRecovered = true) (hux : u.executionResult = r.state.executionResult)
    (huv : u.verificationResult = some (paymentVerdict tx payment w.time))
    (hn : ∀ n, next = .node n → n = .completion) :
    Grounded ⟨next, u, ⟨.verification, w.time, r.state, some (.getPayment tx (.ok payment)), after⟩ :: r.trace⟩ := by
  have hretry : LastRetry r.trace tx := h.executed a tx o f amount hx
  have hfound : foundPaid ⟨.verification, w.time, r.state, some (.getPayment tx (.ok payment)), after⟩ =
      some (tx, payment) := by simp [foundPaid, hs]
  refine ⟨fun a tx o f m he => ?_, fun hfalse => ?_, fun _ => ⟨hn, tx, payment, w.time, ?_, ?_, huv⟩⟩
  · exact lastRetry_cons rfl (h.executed a tx o f m (hux ▸ he))
  · have hfalse : u.caseIsRecovered = false := hfalse
    rw [hu] at hfalse
    cases hfalse
  · rw [List.filterMap_cons, hfound, h.unpaid hopen]
  · exact ⟨[], _, r.trace, rfl, hfound, hretry, rfl⟩

theorem grounded_returned {effect : Option Effect} (h : Grounded r) (hi : Inv policy r) (hn : r.next = .node n)
    (hu : Returns policy r.state w n effect u) :
    Grounded ⟨advance limit (r.trace.length + 1) n (wrapNode n u), wrapNode n u,
      ⟨n, w.time, r.state, effect, some (wrapNode n u)⟩ :: r.trace⟩ := by
  by_cases hrec : r.state.caseIsRecovered = true
  · -- Only the completion follows a recovery.
    obtain rfl := (h.paid hrec).1 n hn
    cases hu
    exact grounded_quiet h rfl rfl (fun _ _ _ _ _ => id) rfl (fun _ => rfl) fun _ m hm => by
      cases edge_of_advance hm
  · have hopen : r.state.caseIsRecovered = false := Bool.eq_false_of_not_eq_true hrec
    have hclosed {s : AgentState} {m : Next} (hs : s.caseIsRecovered = r.state.caseIsRecovered) :
        s.caseIsRecovered = true → ∀ n, m = .node n → n = .completion :=
      fun ht => absurd (hs.symm.trans ht) hrec
    have hsame {s : AgentState} (hs : s.caseIsRecovered = r.state.caseIsRecovered) :
        s.caseIsRecovered = true → s.verificationResult = r.state.verificationResult :=
      fun ht => absurd (hs.symm.trans ht) hrec
    cases hu with
    | scheduled hd _ hr => exact grounded_retry h hopen hd rfl (by rw [hr]; rfl)
    | retried hd _ hr => exact grounded_retry h hopen hd rfl (by rw [hr]; rfl)
    | blocked hd =>
        obtain ⟨_, _, _, _, -, -, -, -, -, happroved, -⟩ := hi.approved hn
        exact absurd happroved hd
    | recovered hx _ hp hs =>
        rw [hp]
        refine grounded_paid h hopen hx hs rfl rfl rfl fun m hm => ?_
        cases edge_of_advance hm with
        | recovered => rfl
        | again hf | exhausted hf => cases hf
    | unpaid _ _ hp hs =>
        rw [hp]
        refine grounded_quiet h rfl ?_ (fun _ _ _ _ _ => id) rfl (hsame rfl) (hclosed rfl)
        simp [foundPaid, hs]
    | resumed | messaged | noEffect =>
        exact grounded_quiet h rfl rfl (by simp) rfl (hsame rfl) (hclosed rfl)
    | _ => exact grounded_quiet h rfl rfl (fun _ _ _ _ _ => id) rfl (hsame rfl) (hclosed rfl)

theorem grounded_of_reach (hs : args.caseIsRecovered = false)
    (h : Reach (step policy limit) Any (start (makeInitialState args)) r) (hr : ∀ e, r.next ≠ .raised e) :
    Grounded r := by
  refine h.invariant (I := fun r => (∀ e, r.next ≠ .raised e) → Grounded r) (fun _ => ?_) ?_ hr
  · refine ⟨nofun, fun _ => rfl, fun htrue => ?_⟩
    have htrue : args.caseIsRecovered = true := htrue
    rw [hs] at htrue
    cases htrue
  · intro r w r' hreach hi _ hstep hlive
    cases step_cases hstep with
    | gaveUp => exact absurd rfl (hlive _)
    | raised => exact absurd rfl (hlive _)
    | returned hn _ _ hu =>
        exact grounded_returned (hi (by simp [hn])) (inv_of_reach hreach) hn hu

theorem amountRecovered_mem {caseId : Uuid} {v : VerificationResult} {amount : Int}
    (hr : s.caseIsRecovered = true) (hv : s.verificationResult = some v) :
    Stmt.amountRecovered amount ∈ applyAgentResult caseId s ↔ amount = v.amountRecoveredPaise := by
  have hopening : Stmt.amountRecovered amount ∉ openingStmts s := by
    simp [openingStmts]
  simp only [applyAgentResult, settleStmts, hr, hv, List.mem_append, hopening, false_or]
  simp

theorem foundPaid_success {payment : PaymentResult} (h : foundPaid e = some (tx, payment)) :
    payment.status = .success := by
  unfold foundPaid at h
  split at h
  · split at h
    · cases h
      assumption
    · cases h
  · cases h

/-- Recovery soundness: a run that ends is sound exactly when every payment that
the provider reported as successful in it has the amount and the currency of the
case. The graph itself compares neither. -/
theorem recovery_sound_iff (hs : args.caseIsRecovered = false)
    (h : Reach (step policy recursionLimit) Any (start (makeInitialState args)) r) (hf : r.next = .finished) :
    SoundRecovery args r ↔ PaymentsMatch args r.trace := by
  have hg : Grounded r := grounded_of_reach hs h (by simp [hf])
  constructor
  · intro hsound e he tx payment hfound
    have hmem : (tx, payment) ∈ r.trace.filterMap foundPaid := List.mem_filterMap.mpr ⟨e, he, hfound⟩
    by_cases hrec : r.state.caseIsRecovered = true
    · obtain ⟨-, tx0, payment0, _, hlist, -⟩ := hg.paid hrec
      obtain ⟨tx1, payment1, ⟨later, f, past, htrace, hfound1, -⟩, ha, hc, -⟩ := hsound hrec
      have hmem1 : (tx1, payment1) ∈ r.trace.filterMap foundPaid :=
        List.mem_filterMap.mpr ⟨f, by simp [htrace], hfound1⟩
      -- There is one such payment in the run.
      rw [hlist, List.mem_singleton] at hmem hmem1
      obtain ⟨rfl, rfl⟩ := Prod.mk.inj (hmem.trans hmem1.symm)
      exact ⟨ha, hc⟩
    · rw [hg.unpaid (Bool.eq_false_of_not_eq_true hrec)] at hmem
      cases hmem
  · intro hmatch hrec
    obtain ⟨-, tx, payment, time, -, hfetched, hver⟩ := hg.paid hrec
    have hfound : ∃ e ∈ r.trace, foundPaid e = some (tx, payment) := by
      obtain ⟨later, e, past, htrace, hfound, -⟩ := hfetched
      exact ⟨e, by simp [htrace], hfound⟩
    obtain ⟨e, he, hfound⟩ := hfound
    obtain ⟨ha, hc⟩ := hmatch e he tx payment hfound
    have hsuccess := foundPaid_success hfound
    refine ⟨tx, payment, hfetched, ha, hc, fun caseId n hn => ?_⟩
    rw [amountRecovered_mem hrec hver] at hn
    rw [hn, ← ha]
    simp [paymentVerdict, hsuccess]

/-- A provider that reports one paisa as the success of a retry for 100000. -/
def shortPayment : PaymentResult := { failedPayment with status := .success, amountPaise := 1 }

def shortInputs : List NodeInput :=
  sampleCycle .retryNow { retry := .ok failedRetry } ++
    [({} : NodeInput), { payment := .ok shortPayment }, {}]

def shortRun : Run :=
  (exec (step samplePolicy recursionLimit) (start (makeInitialState sampleArgs)) shortInputs).getD
    (start sampleState)

theorem shortRun_reach :
    Reach (step samplePolicy recursionLimit) Any (start (makeInitialState sampleArgs)) shortRun :=
  reach_of_exec shortInputs rfl

theorem recovery_sound_iff_sample :
    SoundRecovery sampleArgs shortRun ↔ PaymentsMatch sampleArgs shortRun.trace :=
  recovery_sound_iff rfl shortRun_reach rfl

theorem recovery_unsound : ¬ ∀ policy args r, args.caseIsRecovered = false →
    Reach (step policy recursionLimit) Any (start (makeInitialState args)) r → r.next = .finished →
    SoundRecovery args r := by
  intro h
  obtain ⟨tx, payment, ⟨later, e, past, htrace, hfound, -⟩, ha, -⟩ :=
    h samplePolicy sampleArgs shortRun rfl shortRun_reach rfl rfl
  have hshort : ∀ e ∈ shortRun.trace, ∀ x ∈ foundPaid e, x.2.amountPaise = 1 := by decide +kernel
  have hone : payment.amountPaise = 1 := hshort e (by simp [htrace]) _ hfound
  rw [hone] at ha
  cases ha

end RevenueRescue.RecoverySoundness
