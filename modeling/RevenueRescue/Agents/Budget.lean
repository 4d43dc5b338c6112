import RevenueRescue.Agents.Pending

namespace RevenueRescue.StepBudget

open Enums PolicySchema PolicyEngine Providers AgentSchemas NodeUtils DeterministicNodes LlmNodes
open RecoveryGraph GraphEffects PolicyGate RecoveryCycle PendingOutcome Machine

/-- Neither the provider nor anything else that a node calls raises. The LLM
may give any reply, or none that can be used. -/
def Answers (w : NodeInput) : Prop :=
  w.raised = none ∧ (∃ r, w.retry = .ok r) ∧ ∃ payment, w.payment = .ok payment

/-- `RecoveryAgent.run` on what `make_initial_state` builds. -/
def agentRun (policy : PolicyConfig) (args : InitialArgs) (nodes : Nat → NodeInput) (fuel : Nat) : Run :=
  drive policy recursionLimit nodes fuel (start (makeInitialState args))

/-- The completion node is among the executed ones, which are no more than the limit. -/
def Completed (r : Run) : Prop :=
  r.trace.length ≤ recursionLimit ∧ ∃ e ∈ r.trace, e.node = .completion ∧ e.after.isSome = true

instance (r : Run) : Decidable (Completed r) := inferInstanceAs (Decidable (_ ∧ _))

/-- The policy engine approves the proposal of a state that has no replan left. -/
def LateApproval (policy : PolicyConfig) (s : AgentState) : Prop :=
  s.maxReplans ≤ s.replanCount ∧
    ∃ strat, s.caseStrategy = some strat ∧ (authorize policy (policyContext s strat)).decision = .approved

/-- What one step must keep to: no approval without a replan left, and no
fallback diagnosis for a failure reason outside the enumeration. -/
def InBudget (policy : PolicyConfig) (r : Run) (w : NodeInput) : Prop :=
  (r.next = .node .policyCheck → ¬ LateApproval policy r.state) ∧
    (r.next = .node .diagnosis → w.diagnosis = none → validFailureCategory r.state.failureReason = true)

/-- The number of executions before a node in a run without replans. -/
def place : Node → Nat
  | .riskDetection => 0
  | .contextBuilder => 1
  | .diagnosis => 2
  | .strategy => 3
  | .policyCheck => 4
  | .actionExecution => 5
  | .observation => 6
  | .verification => 7
  | .replan => 8
  | .escalation => 9
  | .completion => 10

def isRegular (n : Node) : Bool := decide (n ≠ .escalation ∧ n ≠ .completion)

/-- Where a run is when it comes to a node after `len` executions: six for each replan. -/
structure Placed (len : Nat) (s : AgentState) (n : Node) : Prop where
  limit : s.maxReplans = 3
  count : 0 ≤ s.replanCount ∧ s.replanCount ≤ 3
  opening : isOpening n = true → s.replanCount = 0
  replan : n = .replan → s.replanCount < 3
  funded : n ≠ .riskDetection → n ≠ .completion → 0 < s.amountPaise
  regular : isRegular n = true → (len : Int) = place n + 6 * s.replanCount

variable {policy : PolicyConfig} {limit len : Nat} {s u : AgentState} {n m : Node} {w : NodeInput}
variable {r r' : Run} {effect : Option Effect} {args : InitialArgs} {nodes : Nat → NodeInput}

theorem replanCount_returns (hu : Returns policy s w n effect u) (hn : n ≠ .replan) :
    u.replanCount = s.replanCount := by
  cases hu with
  | replan => exact absurd rfl hn
  | _ => rfl

theorem funded_returns (hu : Returns policy s w n effect u) (he : Edge (wrapNode n u) n m)
    (h : n ≠ .riskDetection → n ≠ .completion → 0 < s.amountPaise) (hm : m ≠ .completion) :
    0 < u.amountPaise := by
  have hamount : u.amountPaise = s.amountPaise := congrArg Inputs.amountPaise hu.inputs_eq
  rw [hamount]
  cases he with
  | rejected | refused | recovered | escalation => exact absurd rfl hm
  | accepted hs =>
      cases hu with
      | riskStopped => cases hs
      | riskPassed _ _ ha => exact ha
  | _ => exact h (by decide) (by decide)

theorem placed_edge (h : Placed len s n) (hu : Returns policy s w n effect u)
    (he : Edge (wrapNode n u) n m) : Placed (len + 1) (wrapNode n u) m := by
  have hmax : (wrapNode n u).maxReplans = 3 := (congrArg Inputs.maxReplans hu.inputs_eq).trans h.limit
  have hfunded (_ : m ≠ .riskDetection) (hm : m ≠ .completion) : 0 < u.amountPaise :=
    funded_returns hu he h.funded hm
  have hcount := h.count
  by_cases hn : n = .replan
  · subst hn
    have hlt := h.replan rfl
    have hlen := h.regular rfl
    cases hu
    cases he
    refine ⟨hmax, ?_, nofun, nofun, hfunded, fun _ => ?_⟩
    · simp only [wrapNode, incrementReplan]
      omega
    · simp only [wrapNode, incrementReplan, place, Nat.cast_add] at hlen ⊢
      omega
  · have hsame : u.replanCount = s.replanCount := replanCount_returns hu hn
    refine ⟨hmax, ?_, fun hm => ?_, fun hm => ?_, hfunded, fun hm => ?_⟩ <;>
      simp only [wrapNode, hsame]
    · exact hcount
    · 
      cases he <;> first | exact h.opening rfl | cases hm
    · subst hm
      cases he with
      | again _ hlt =>
          rw [hmax] at hlt
          exact hsame ▸ hlt
    · cases he with
      | rejected | refused | referred | recovered | exhausted | escalation => cases hm
      | replan => exact absurd rfl hn
      | _ =>
          have hlen := h.regular rfl
          simp only [place] at hlen ⊢
          push_cast at hlen ⊢
          omega

/-- Every run of the agent is placed, and completes with its last node only. -/
theorem placed_of_reach {P : Run → NodeInput → Prop}
    (h : Reach (step policy limit) P (start (makeInitialState args)) r) (hn : r.next = .node n) :
    Placed r.trace.length r.state n ∧ ∀ e ∈ r.trace, e.node ≠ .completion := by
  refine h.invariant (I := fun r => ∀ n, r.next = .node n →
    Placed r.trace.length r.state n ∧ ∀ e ∈ r.trace, e.node ≠ .completion) ?_ ?_ n hn
  · intro n hn
    cases hn
    exact ⟨⟨rfl, by simp [start, makeInitialState], fun _ => rfl, nofun, by simp, fun _ => rfl⟩, by simp [start]⟩
  · intro r w r' _ hi _ hs m hm
    cases step_cases hs with
    | gaveUp | raised => cases hm
    | returned hn _ _ hu =>
        obtain ⟨hplaced, hopen⟩ := hi _ hn
        have he := edge_of_advance hm
        refine ⟨placed_edge hplaced hu he, List.forall_mem_cons.mpr ⟨?_, hopen⟩⟩
        rintro rfl
        cases he

theorem nodeStrategy_answers {diag : DiagnosisOutput} (hd : s.caseDiagnosis = some diag)
    (hpos : 0 < s.amountPaise) (reply : Option StrategyOutput) : ∃ u, nodeStrategy s reply = .ok u := by
  cases reply with
  | some strat => exact ⟨_, nodeStrategy_reply hd strat⟩
  | none =>
      have hexpected : 0 ≤ if diag.recommendedStrategy ≠ .escalate then s.amountPaise else 0 := by
        split <;> omega
      simp only [nodeStrategy, acceptedDiagnosis, acceptedStrategy, fallbackStrategy, hd, Except.bind]
      rw [dif_pos hexpected]
      exact ⟨_, rfl⟩

theorem nodeActionExecution_answers (r : RetryResult) (id : String) :
    ∃ u, (nodeActionExecution s (.ok r) id).result = .ok u := by
  unfold nodeActionExecution
  by_cases hd : s.policyResult.map (·.decision) = some .approved
  · simp only [hd, ne_eq, not_true_eq_false, if_false]
    cases (s.caseStrategy.map (·.recoveryStrategy)).getD .escalate <;> exact ⟨_, rfl⟩
  · rw [if_pos hd]
    exact ⟨_, rfl⟩

theorem nodeVerification_answers (payment : PaymentResult) (now : ℚ) :
    ∃ u, (nodeVerification s (.ok payment) now).result = .ok u := by
  unfold nodeVerification
  cases s.executionResult with
  | none => exact ⟨_, rfl⟩
  | some r =>
      cases r with
      | paymentRetry a tx o f m =>
          by_cases htx : tx = ""
          · simp only [if_pos htx]
            exact ⟨_, rfl⟩
          · simp only [if_neg htx]
            exact ⟨_, rfl⟩
      | blocked a b | checkoutRecovery a | communication a b | noEffect a => exact ⟨_, rfl⟩

theorem runNode_answers (hw : Answers w) (hn : n = .diagnosis → w.diagnosis = none →
      validFailureCategory s.failureReason = true)
    (hs : n = .strategy → s.caseDiagnosis.isSome = true ∧ 0 < s.amountPaise) :
    ∃ t, (runNode policy n s w).result = .ok t := by
  obtain ⟨hraised, ⟨r, hr⟩, payment, hp⟩ := hw
  have hfunction : ∃ u, (nodeFunction policy n s w).result = .ok u := by
    cases n with
    | diagnosis =>
        cases hd : w.diagnosis with
        | some diag => simp [nodeFunction, nodeDiagnosis, acceptedDiagnosis, hd, Except.map]
        | none =>
            simp [nodeFunction, nodeDiagnosis, acceptedDiagnosis, fallbackDiagnosis, hd, hn rfl hd, Except.map]
    | strategy =>
        obtain ⟨hdiag, hpos⟩ := hs rfl
        obtain ⟨diag, hd⟩ := Option.isSome_iff_exists.mp hdiag
        exact nodeStrategy_answers hd hpos w.strategy
    | policyCheck =>
        simp only [nodeFunction, nodePolicyCheck]
        cases s.caseStrategy <;> exact ⟨_, rfl⟩
    | actionExecution =>
        simp only [nodeFunction, hr]
        exact nodeActionExecution_answers r w.messageId
    | verification =>
        simp only [nodeFunction, hp]
        exact nodeVerification_answers payment w.time
    | riskDetection | contextBuilder | observation | escalation | completion | replan => exact ⟨_, rfl⟩
  obtain ⟨u, hu⟩ := hfunction
  exact ⟨wrapNode n u, by simp only [runNode, hraised, hu, Except.map]⟩

/-- The way after a policy check without a replan left is never the executor's, so
the run comes to its end with the limit not yet reached. -/
structure Timely (len : Nat) (s : AgentState) (n : Node) : Prop where
  acting : n = .actionExecution ∨ n = .observation ∨ n = .verification → s.replanCount < 3
  escalation : n = .escalation → len ≤ 23
  completion : n = .completion → len ≤ 24

theorem Timely.length_lt (h : Timely len s n) (hp : Placed len s n) : len < recursionLimit := by
  unfold recursionLimit
  have hcount := hp.count
  cases n with
  | escalation => exact Nat.lt_of_le_of_lt (h.escalation rfl) (by decide)
  | completion => exact Nat.lt_of_le_of_lt (h.completion rfl) (by decide)
  | actionExecution | observation | verification =>
      have := h.acting (by simp)
      have := hp.regular rfl
      simp only [place] at this
      omega
  | replan =>
      have := hp.replan rfl
      have := hp.regular rfl
      simp only [place] at this
      omega
  | _ =>
      have := hp.regular rfl
      simp only [place] at this
      omega

theorem timely_edge (h : Timely len s n) (hp : Placed len s n) (hb : n = .policyCheck → ¬ LateApproval policy s)
    (hu : Returns policy s w n effect u) (he : Edge (wrapNode n u) n m) :
    Timely (len + 1) (wrapNode n u) m := by
  have hcount := hp.count
  cases he with
  | approved hd =>
      refine ⟨fun _ => ?_, nofun, nofun⟩
      by_contra hlate
      cases hu with
      | policyMissing _ result hr => simp [hr] at hd
      | policyDecided hs =>
          refine hb rfl ⟨?_, _, hs, by simpa using hd⟩
          rw [hp.limit]
          exact not_lt.mp hlate
  | referred | refused =>
      have := hp.regular rfl
      simp only [place] at this
      exact ⟨by simp, fun _ => by omega, fun _ => by omega⟩
  | actionExecution | observation =>
      refine ⟨fun _ => ?_, nofun, nofun⟩
      exact (replanCount_returns hu (by decide)).trans_lt (h.acting (by simp))
  | recovered | exhausted =>
      have := h.acting (by simp)
      have := hp.regular rfl
      simp only [place] at this
      exact ⟨by simp, fun _ => by omega, fun _ => by omega⟩
  | rejected =>
      have := hp.regular rfl
      have := hp.opening rfl
      simp only [place] at *
      exact ⟨by simp, nofun, fun _ => by omega⟩
  | escalation =>
      have := h.escalation rfl
      exact ⟨by simp, nofun, fun _ => by omega⟩
  | _ => exact ⟨by simp, nofun, nofun⟩

theorem completed_of_reach (h : Reach (step policy recursionLimit) (fun r w => Answers w ∧ InBudget policy r w)
      (start (makeInitialState args)) r) :
    (∀ n, r.next = .node n → Timely r.trace.length r.state n) ∧ ((∀ n, r.next ≠ .node n) → Completed r) := by
  refine h.invariant (I := fun r => (∀ n, r.next = .node n → Timely r.trace.length r.state n) ∧
    ((∀ n, r.next ≠ .node n) → Completed r)) ⟨?_, fun hn => absurd rfl (hn .riskDetection)⟩ ?_
  · intro n hn
    cases hn
    exact ⟨by simp, nofun, nofun⟩
  · intro r w r' hr hi ⟨hw, hb⟩ hs
    cases step_cases hs with
    | gaveUp hn hl =>
        have hlt := (hi.1 _ hn).length_lt (placed_of_reach hr hn).1
        exact absurd hl (not_le.mpr hlt)
    | @raised n _ _ hn _ _ hf =>
        have hplaced := (placed_of_reach hr hn).1
        have hdiag : n = .strategy → r.state.caseDiagnosis.isSome = true ∧ 0 < r.state.amountPaise := by
          rintro rfl
          exact ⟨by simpa [isOpening] using (shape_of_reach hr.any).diagnosed _ hn, hplaced.funded nofun nofun⟩
        obtain ⟨t, ht⟩ : ∃ t, (runNode policy n r.state w).result = .ok t :=
          runNode_answers hw (fun hd => hb.2 (hd ▸ hn)) hdiag
        rw [ht] at hf
        cases hf
    | @returned n u _ hn hl _ hu =>
        refine ⟨fun m hm => ?_, fun hend => ⟨hl, ?_⟩⟩
        · exact timely_edge (hi.1 n hn) (placed_of_reach hr hn).1 (fun hp => hb.1 (hp ▸ hn)) hu (edge_of_advance hm)
        · refine ⟨_, List.mem_cons_self, ?_, rfl⟩
          -- Only the completion node has no edge on.
          by_contra hne
          cases hsucc : successor n (wrapNode n u) with
          | some m => exact hend m (advance_eq_node.mpr hsucc)
          | none => cases n <;> first | exact hne rfl | cases hsucc

def Doomed (r : Run) : Prop :=
  (∀ e ∈ r.trace, e.node ≠ .completion) ∧ ∀ n, r.next = .node n →
    n = .actionExecution ∧ 23 ≤ r.trace.length ∨ n = .observation ∧ 24 ≤ r.trace.length ∨
      n = .verification ∧ 25 ≤ r.trace.length

theorem doomed_step (hd : Doomed r) (h : step policy recursionLimit r w = some r') : Doomed r' := by
  obtain ⟨hopen, hnext⟩ := hd
  cases step_cases h with
  | gaveUp => exact ⟨hopen, by simp⟩
  | raised hn =>
      refine ⟨List.forall_mem_cons.mpr ⟨?_, hopen⟩, by simp⟩
      rcases hnext _ hn with ⟨rfl, -⟩ | ⟨rfl, -⟩ | ⟨rfl, -⟩ <;> nofun
  | returned hn hl =>
      refine ⟨List.forall_mem_cons.mpr ⟨?_, hopen⟩, fun m hm => ?_⟩
      · rcases hnext _ hn with ⟨rfl, -⟩ | ⟨rfl, -⟩ | ⟨rfl, -⟩ <;> nofun
      · have he := edge_of_advance hm
        rcases hnext _ hn with ⟨rfl, hlen⟩ | ⟨rfl, hlen⟩ | ⟨rfl, hlen⟩
        · cases he
          exact .inr (.inl ⟨rfl, Nat.succ_le_succ hlen⟩)
        · cases he
          exact .inr (.inr ⟨rfl, Nat.succ_le_succ hlen⟩)
        · exact absurd hlen (not_le.mpr hl)

theorem not_completed_of_doomed (hd : Doomed r) (nodes : Nat → NodeInput) (fuel : Nat) :
    ¬ Completed (drive policy recursionLimit nodes fuel r) := by
  have hdoomed : Doomed (drive policy recursionLimit nodes fuel r) :=
    (drive_reach nodes fuel r).invariant hd fun _ _ _ _ hi _ hs => doomed_step hi hs
  rintro ⟨-, e, he, hc, -⟩
  exact hdoomed.1 e he hc

theorem doomed_of_step (hr : Reach (step policy recursionLimit) Any (start (makeInitialState args)) r)
    (hb : ¬ InBudget policy r w) (h : step policy recursionLimit r w = some r') : Doomed r' := by
  rw [InBudget, not_and_or] at hb
  simp only [Classical.not_imp, not_not, Bool.not_eq_true] at hb
  rcases hb with ⟨hn, hlate, strat, hs, ha⟩ | ⟨hn, hnone, hinvalid⟩
  · obtain ⟨hplaced, hopen⟩ := placed_of_reach hr hn
    have hlen := hplaced.regular rfl
    have hmax := hplaced.limit
    simp only [place] at hlen
    cases step_cases h with
    | gaveUp => exact ⟨hopen, by simp⟩
    | raised hn' =>
        obtain rfl := Next.node.inj (hn.symm.trans hn')
        exact ⟨List.forall_mem_cons.mpr ⟨nofun, hopen⟩, by simp⟩
    | @returned _ u _ hn' hl _ hu =>
        obtain rfl := Next.node.inj (hn.symm.trans hn')
        refine ⟨List.forall_mem_cons.mpr ⟨nofun, hopen⟩, fun m hm => .inl ?_⟩
        have hm : advance recursionLimit (r.trace.length + 1) .policyCheck (wrapNode .policyCheck u) = .node m := hm
        have he := edge_of_advance hm
        cases hu with
        | policyMissing hnone => rw [hnone] at hs; cases hs
        | policyDecided hs' =>
            obtain rfl := Option.some.inj (hs.symm.trans hs')
            cases he with
            | approved => exact ⟨rfl, by simp only [List.length_cons]; omega⟩
            | referred hne => exact absurd (congrArg some ha) hne
            | refused hne => simp [ha] at hne
  · obtain ⟨-, hopen⟩ := placed_of_reach hr hn
    cases step_cases h with
    | gaveUp => exact ⟨hopen, by simp⟩
    | raised hn' =>
        obtain rfl := Next.node.inj (hn.symm.trans hn')
        exact ⟨List.forall_mem_cons.mpr ⟨nofun, hopen⟩, by simp⟩
    | returned hn' _ _ _ hf =>
        obtain rfl := Next.node.inj (hn.symm.trans hn')
        simp [nodeFunction, nodeDiagnosis, acceptedDiagnosis, fallbackDiagnosis, hnone, hinvalid, Except.map] at hf

theorem drive_add (j k : Nat) (r : Run) :
    drive policy limit nodes (j + k) r = drive policy limit nodes k (drive policy limit nodes j r) := by
  induction j generalizing r with
  | zero => rw [Nat.zero_add]; rfl
  | succ j ih =>
      rw [Nat.succ_add]
      cases hs : step policy limit r (nodes r.trace.length) with
      | none =>
          have hstop : ∀ fuel, drive policy limit nodes (fuel + 1) r = r := by
            intro fuel
            simp only [drive, hs]
          rw [hstop, hstop]
          cases k with
          | zero => rfl
          | succ k => exact (hstop k).symm
      | some r' =>
          simp only [drive, hs]
          exact ih r'

theorem drive_reach_along {Q : Run → NodeInput → Prop} (fuel : Nat) (r : Run)
    (hQ : ∀ k, Q (drive policy limit nodes k r) (nodes (drive policy limit nodes k r).trace.length)) :
    Reach (step policy limit) Q r (drive policy limit nodes fuel r) := by
  induction fuel generalizing r with
  | zero => exact .refl
  | succ fuel ih =>
      unfold drive
      cases hs : step policy limit r (nodes r.trace.length) with
      | none => exact .refl
      | some r' =>
          refine (Reach.single (hQ 0) hs).trans (ih r' fun k => ?_)
          have hk := hQ (k + 1)
          simp only [drive, hs] at hk
          exact hk

/-- Step budget: the run of the agent completes exactly when the policy engine
never approves a proposal after the last replan, and the failure reason is one of
the enumeration if the LLM's diagnosis cannot be used. -/
theorem completes_iff (policy : PolicyConfig) (args : InitialArgs) (nodes : Nat → NodeInput)
    (hw : ∀ i, Answers (nodes i)) :
    Completed (agentRun policy args nodes (recursionLimit + 1)) ↔
      ∀ k, InBudget policy (agentRun policy args nodes k) (nodes (agentRun policy args nodes k).trace.length) := by
  have hend (n : Node) : (agentRun policy args nodes (recursionLimit + 1)).next ≠ .node n :=
    drive_settled (by simp [start]) (by simp [start]) n
  constructor
  · intro hc k
    by_contra hb
    -- The run that leaves its budget after `k` steps ends where the whole run ends.
    have hsame : drive policy recursionLimit nodes (recursionLimit + 1) (agentRun policy args nodes k) =
        agentRun policy args nodes (recursionLimit + 1) := by
      unfold agentRun at hend ⊢
      rw [← drive_add, Nat.add_comm, drive_add, drive_stopped _ hend]
    obtain ⟨n, hn⟩ : ∃ n, (agentRun policy args nodes k).next = .node n := by
      by_contra hnone
      exact hb ⟨fun h => absurd ⟨_, h⟩ hnone, fun h => absurd ⟨_, h⟩ hnone⟩
    obtain ⟨r', hs⟩ := step_enabled policy recursionLimit hn (nodes (agentRun policy args nodes k).trace.length)
    have hdoomed : Doomed r' := doomed_of_step (drive_reach nodes k _) hb hs
    rw [← hsame, drive, hs] at hc
    exact not_completed_of_doomed hdoomed nodes recursionLimit hc
  · intro hb
    have hreach : Reach (step policy recursionLimit) (fun r w => Answers w ∧ InBudget policy r w)
        (start (makeInitialState args)) (agentRun policy args nodes (recursionLimit + 1)) :=
      drive_reach_along _ _ fun k => ⟨hw _, hb k⟩
    exact (completed_of_reach hreach).2 hend

def sampleArgs : InitialArgs where
  caseId := "c"
  agentRunId := "r"
  eventType := "FAILED_PAYMENT"
  failureReason := .gatewayTemporary
  amountPaise := 100000
  customerId := "u"

/-- An LLM that asks for a new payment method in every cycle. No cap applies to that. -/
def insistent : NodeInput where
  diagnosis := some certainDiagnosis
  strategy := some (proposal .paymentMethodUpdate)
  retry := .ok failedRetry
  payment := .ok failedPayment

theorem insistent_answers (_ : Nat) : Answers insistent := ⟨rfl, ⟨_, rfl⟩, _, rfl⟩

theorem completes_iff_sample :
    Completed (agentRun samplePolicy sampleArgs (fun _ => insistent) (recursionLimit + 1)) ↔
      ∀ k, InBudget samplePolicy (agentRun samplePolicy sampleArgs (fun _ => insistent) k) insistent :=
  completes_iff samplePolicy sampleArgs (fun _ => insistent) insistent_answers

theorem run_exceeds_budget : ¬ ∀ policy args nodes, (∀ i, Answers (nodes i)) →
    Completed (agentRun policy args nodes (recursionLimit + 1)) := by
  intro h
  have hcompleted := h samplePolicy sampleArgs (fun _ => insistent) insistent_answers
  exact absurd hcompleted (by decide +kernel)

end RevenueRescue.StepBudget
