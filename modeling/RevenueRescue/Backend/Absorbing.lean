import RevenueRescue.Agents.Outcome
import RevenueRescue.Backend.Ledger

namespace RevenueRescue.RecoveredAbsorbing

open Enums AgentSchemas DeterministicNodes RecoveryGraph GraphEffects RecoveryCycle RunOutcome
open Models RecoveryService RazorpayCheckout RecoverySystem RecoveryLedger PolicyGate Machine

def actsFor (id : Uuid) : Entry → Bool
  | .effect caseId x => decide (caseId = id) && acts x
  | .settled _ _ => false

/-- Since `sys0` the case with that row has stayed as it was recovered, and
nothing was tried or sent for it. -/
def Absorbed (sys0 : Sys) (recovered : RecoveryCase) (sys : Sys) : Prop :=
  (∃ row, sys.db.cases.find recovered.id = some row ∧ row.status = .recovered ∧ row.isRecovered = true ∧
    row.isStopped = recovered.isStopped ∧ row.amountRecoveredPaise = recovered.amountRecoveredPaise ∧
    row.razorpayPaymentId = recovered.razorpayPaymentId) ∧
  sys.log.filter (actsFor recovered.id) = sys0.log.filter (actsFor recovered.id)

/-- What an attempt would settle leaves the stored row as it is. -/
def Settles (loaded stored : RecoveryCase) (state : AgentState) : Prop :=
  ∀ s ∈ settleStmts loaded.id state,
    (∀ status, s = .status status → status = loaded.status ∨ status = .recovered) ∧
    ∀ n, s = .amountRecovered n → n = loaded.amountRecoveredPaise ∨ n = stored.amountRecoveredPaise

/-- No attempt on the case is about to act on an approval it got before, an
attempt that ends does not get to settle another status or amount, and nobody
escalates the case. -/
structure Undisturbed (id : Uuid) (sys : Sys) (op : Op) : Prop where
  node : ∀ sid a w, op = .executeNode sid w → sys.sessions sid = some (.attempt a) → a.case.id = id →
    a.graph.next = .node .actionExecution → w.raised = none →
    a.graph.state.policyResult.map (·.decision) = some .approved → isAction (executed a.graph.state) = false
  finish : ∀ sid faults session run case finalAttempt state stored, op = .executeFinish sid faults →
    sys.sessions sid = some session → session.ended = some (run, case, finalAttempt, .ok state) →
    case.id = id → sys.db.cases.find id = some stored →
    attemptOutcome finalAttempt case run faults (.ok state) = .rolledBack ∨
      (∃ k f, faults.apply = some (k, f) ∧ k ≤ (openingStmts state).length) ∨ Settles case stored state
  escalate : ∀ sid case reason, op = .escalateCommit sid → sys.sessions sid = some (.escalating case reason) →
    case.id = id → case.status = .escalated

variable {settings : Settings} {sys sys' sys0 : Sys} {op : Op} {case stored row recovered : RecoveryCase}
variable {id : Uuid} {run : AgentRun} {finalAttempt : Bool} {faults : Faults} {w : Work}
variable {result : Except Failure AgentState} {state : AgentState} {status : RunStatus} {sid : Nat}
variable {session : Session}

theorem committed_flags (hr : Running sys) (hs : sys.sessions sid = some session)
    (he : session.ended = some (run, case, finalAttempt, result))
    (ho : attemptOutcome finalAttempt case run faults result = .committed w status) :
    (w.case.isRecovered = case.isRecovered ∨ w.case.isRecovered = true) ∧
      (w.case.isStopped = case.isStopped ∨ w.case.isStopped = true) := by
  cases result with
  | error f =>
      rcases committed_value apply_isRecovered ho with h1 | h1
      · rcases committed_value apply_isStopped ho with h2 | h2
        · exact ⟨.inl h1, .inl h2⟩
        · cases h2
      · cases h1
  | ok state =>
      obtain ⟨a, rfl, rfl, rfl, -, hfin, rfl⟩ := ended_ok he
      have hreach := hr sid a hs
      constructor
      · rcases committed_value apply_isRecovered ho with h | h
        · exact .inl h
        · obtain ⟨_, hstate, hconf⟩ := written_conforms h
          cases hstate
          cases hl : a.case.isRecovered with
          | true => exact .inr (hconf.trans (recovered_of_reach hreach hl))
          | false =>
              cases hw : w.case.isRecovered
              · exact .inl rfl
              · exact .inr rfl
      · rcases committed_value apply_isStopped ho with h | h
        · exact .inl h
        · obtain ⟨_, hstate, hconf⟩ := written_conforms h
          cases hstate
          exact .inr (hconf.trans (stopped_of_finished rfl rfl hreach hfin))

theorem flush_mono {loaded held stored : Bool} (h : held = loaded ∨ held = true) (hs : stored = true) :
    NetChange.flush loaded held stored = true := by
  rcases h with rfl | rfl
  · rw [NetChange.flush_unchanged, hs]
  · rw [hs, NetChange.flush_held]

theorem flags_kept (hr : Running sys) (h : step settings sys op = some sys')
    (hf : sys.db.cases.find id = some row) : ∃ row', sys'.db.cases.find id = some row' ∧
      (row.isRecovered = true → row'.isRecovered = true) ∧ (row.isStopped = true → row'.isStopped = true) := by
  obtain ⟨added, hrow, -⟩ := row_change h id
  generalize sys'.db.cases.find id = next at hrow
  cases hrow with
  | kept => exact ⟨row, hf, fun h => h, fun h => h⟩
  | created hnone => rw [hf] at hnone; cases hnone
  | ordered hf' => cases hf.symm.trans hf'; exact ⟨_, rfl, fun h => h, fun h => h⟩
  | captured hf' => cases hf.symm.trans hf'; exact ⟨_, rfl, fun _ => rfl, fun _ => rfl⟩
  | @finished sid session run case finalAttempt result faults w status hop hs he ho hid =>
      obtain ⟨hrec, hstop⟩ := committed_flags hr hs he ho
      rw [hf]
      exact ⟨mergeCase case w.case row, rfl, flush_mono hrec, flush_mono hstop⟩
  | @escalated sid case reason hop hs hid =>
      rw [hf]
      refine ⟨mergeCase case (escalated reason case) row, rfl, fun h => ?_, flush_mono (.inr rfl)⟩
      simpa [mergeCase, escalated] using h

/-- A recovered status comes with the stop flag, and what a session loaded as
stopped is stopped. -/
structure Inv (sys : Sys) : Prop where
  stopped : ∀ id row, sys.db.cases.find id = some row → row.status = .recovered → row.isStopped = true
  loaded : ∀ sid session case, sys.sessions sid = some session → session.case? = some case →
    ∃ row, sys.db.cases.find case.id = some row ∧ (case.isStopped = true → row.isStopped = true)
  running : Running sys

theorem finish_stopped (hi : Inv sys) (hs : sys.sessions sid = some session)
    (he : session.ended = some (run, case, finalAttempt, result))
    (ho : attemptOutcome finalAttempt case run faults result = .committed w status)
    (hf : sys.db.cases.find case.id = some row) (hrow : (mergeCase case w.case row).status = .recovered) :
    (mergeCase case w.case row).isStopped = true := by
  have hflags := (committed_flags hi.running hs he ho).2
  by_cases hw : w.case.status = case.status
  · have hold : row.status = .recovered := by simpa [mergeCase, hw] using hrow
    exact flush_mono hflags (hi.stopped _ _ hf hold)
  · rcases committed_value apply_status ho with h | h
    · exact absurd h hw
    · cases result with
      | error f => cases h
      | ok state =>
          obtain ⟨a, rfl, rfl, rfl, -, hfin, rfl⟩ := ended_ok he
          have hstop := isStopped_of_settled (stopped_of_finished rfl rfl (hi.running sid a hs) hfin) ho h
          obtain ⟨row', hf', hloaded⟩ := hi.loaded sid _ _ hs rfl
          cases hf.symm.trans hf'
          -- Either the flag is new, or the loaded row had it, and so has the stored one.
          cases hl : a.case.isStopped with
          | true => exact flush_mono (.inr hstop) (hloaded hl)
          | false => simp [mergeCase, hstop, hl, NetChange.flush]

theorem inv_step (hi : Inv sys) (h : step settings sys op = some sys') : Inv sys' where
  stopped id row' hf' hst := by
    obtain ⟨added, hrow, -⟩ := row_change h id
    rw [hf'] at hrow
    generalize hnext : some row' = next at hrow
    cases hrow with
    | kept => exact hi.stopped id row' hnext.symm hst
    | created _ _ _ _ hd => cases hnext; rw [hd] at hst; cases hst
    | @ordered case orderId hf => cases hnext; exact hi.stopped id case hf hst
    | captured => cases hnext; rfl
    | finished hop hs he ho hid =>
        subst hid
        obtain ⟨row, hf, rfl⟩ := Option.map_eq_some_iff.mp hnext.symm
        exact finish_stopped hi hs he ho hf hst
    | @escalated sid case reason hop hs hid =>
        obtain ⟨row, hf, rfl⟩ := Option.map_eq_some_iff.mp hnext.symm
        refine flush_mono (.inr rfl) (hi.stopped id row hf ?_)
        by_cases hl : case.status = .escalated
        · simpa [mergeCase, escalated, hl] using hst
        · have hesc : (mergeCase case (escalated reason case) row).status = .escalated :=
            NetChange.flush_changed (Ne.symm hl) row.status
          rw [hesc] at hst
          cases hst
  loaded sid session case hs hcase := by
    obtain ⟨row, hf, hstop⟩ : ∃ row, sys.db.cases.find case.id = some row ∧
        (case.isStopped = true → row.isStopped = true) := by
      rcases case_change h hs hcase with hf | ⟨old, ho, hc⟩
      · exact ⟨case, hf, fun h => h⟩
      · exact hi.loaded sid old case ho hc
    obtain ⟨row', hf', -, hkept⟩ := flags_kept hi.running h hf
    exact ⟨row', hf', fun hl => hkept (hstop hl)⟩
  running := running_step hi.running h

variable {customers : Table Uuid Customer Customer.id} {P : Sys → Op → Prop}

theorem inv_of_reach (h : Reach (step settings) P (init customers) sys) : Inv sys := by
  refine h.invariant (I := Inv) ⟨?_, ?_, running_init⟩
    fun _ _ _ _ hi _ hs => inv_step hi hs
  · intro id row hf
    rw [init_rows] at hf
    cases hf
  · intro sid session case hs
    rw [init_sessions] at hs
    cases hs

theorem finish_settled (ho : attemptOutcome finalAttempt case run faults (.ok state) = .committed w status)
    (hst : row.status = .recovered)
    (hc : (∃ k f, faults.apply = some (k, f) ∧ k ≤ (openingStmts state).length) ∨ Settles case row state) :
    (mergeCase case w.case row).status = .recovered ∧
      (mergeCase case w.case row).amountRecoveredPaise = row.amountRecoveredPaise := by
  have hsettled (s : Stmt) (hs : s ∈ written case faults (.ok state)) (hn : isOpening s = false)
      (hf : s ≠ .flush) (hg : isGuarded s = false) : Settles case row state ∧ s ∈ settleStmts case.id state := by
    rcases hc with ⟨k, f, hfault, hk⟩ | hc
    · rw [opening_of_written hfault hk hs] at hn
      cases hn
    · rcases settle_of_written hs hn with h | h | h
      · exact ⟨hc, h⟩
      · exact absurd h hf
      · rw [hg] at h
        cases h
  constructor
  · rcases committed_value apply_status ho with h | h
    · simpa [mergeCase, h] using hst
    · obtain ⟨hc, hs⟩ := hsettled _ h rfl (by simp) rfl
      rcases (hc _ hs).1 _ rfl with hx | hx
      · simpa [mergeCase, hx] using hst
      · simp [mergeCase, hx, hst]
  · rcases committed_value apply_amountRecovered ho with h | h
    · simp [mergeCase, h]
    · obtain ⟨hc, hs⟩ := hsettled _ h rfl (by simp) rfl
      rcases (hc _ hs).2 _ rfl with hx | hx <;> simp [mergeCase, hx]

theorem row_absorbed (h : step settings sys op = some sys') (hc : Undisturbed id sys op)
    (hf : sys.db.cases.find id = some row) (hst : row.status = .recovered) (hr : row.isRecovered = true) :
    ∃ row', sys'.db.cases.find id = some row' ∧ row'.status = .recovered ∧
      row'.amountRecoveredPaise = row.amountRecoveredPaise ∧ row'.razorpayPaymentId = row.razorpayPaymentId := by
  obtain ⟨added, hrow, -⟩ := row_change h id
  generalize sys'.db.cases.find id = next at hrow
  cases hrow with
  | kept => exact ⟨row, hf, hst, rfl, rfl⟩
  | created hnone => rw [hf] at hnone; cases hnone
  | ordered hf' ht => cases hf.symm.trans hf'; exact absurd (.inr (.inl hr)) ht
  | captured hf' hopen => cases hf.symm.trans hf'; rw [hr] at hopen; cases hopen
  | @finished sid session run case finalAttempt result faults w status hop hs he ho hid =>
      rw [hf]
      have hkept : (mergeCase case w.case row).status = .recovered ∧
          (mergeCase case w.case row).amountRecoveredPaise = row.amountRecoveredPaise := by
        cases result with
        | error f =>
            obtain ⟨hcase, -⟩ := committed_work ho
            rw [hcase]
            exact ⟨by simpa [written] using hst, by simp [written]⟩
        | ok state =>
            rcases hc.finish sid faults session run case finalAttempt state row hop hs he hid hf with h | h
            · rw [ho] at h
              cases h
            · exact finish_settled ho hst h
      exact ⟨_, rfl, hkept.1, hkept.2, rfl⟩
  | @escalated sid case reason hop hs hid =>
      rw [hf]
      have hl := hc.escalate sid case reason hop hs hid
      refine ⟨_, rfl, ?_, ?_, rfl⟩
      · simpa [mergeCase, escalated, hl] using hst
      · simp [mergeCase, escalated]

theorem log_absorbed (h : step settings sys op = some sys') (hc : Undisturbed id sys op) :
    sys'.log.filter (actsFor id) = sys.log.filter (actsFor id) := by
  have hlog := log_change h
  generalize sys'.log = log at hlog
  cases hlog with
  | kept => rfl
  | settled => rfl
  | @effects sid a w graph hop hs hg =>
      rcases newEffects_step hg with hnone | ⟨n, x, hone, hn, hw, hsource⟩
      · rw [hnone]
        rfl
      · rw [hone]
        refine List.filter_cons_of_neg fun hacts => ?_
        simp only [actsFor, Bool.and_eq_true, decide_eq_true_eq] at hacts
        obtain ⟨rfl, hd, hcarries⟩ := hsource.acts hacts.2
        have hquiet := hc.node sid a w hop hs hacts.1 hn hw hd
        rw [isAction_of_carriesOut hcarries] at hquiet
        cases hquiet

/-- RECOVERED is absorbing: from any reachable state, while nothing disturbs the
case, a recovered case keeps what it was recovered with, and is left alone. -/
theorem recovered_absorbing (h0 : Reach (step settings) Any (init customers) sys0)
    (hf : sys0.db.cases.find recovered.id = some recovered) (hst : recovered.status = .recovered)
    (hr : recovered.isRecovered = true) (h : Reach (step settings) (Undisturbed recovered.id) sys0 sys) :
    Absorbed sys0 recovered sys := by
  have hinv {t : Sys} (h : Reach (step settings) (Undisturbed recovered.id) sys0 t) : Inv t :=
    inv_of_reach (h0.trans h.any)
  have hstopped := (hinv .refl).stopped _ _ hf hst
  refine h.invariant (I := Absorbed sys0 recovered) ⟨⟨recovered, hf, hst, hr, rfl, rfl, rfl⟩, rfl⟩
    fun sys op sys' hreach habs hc hs => ?_
  obtain ⟨⟨row, hrow, hrs, hrr, hstop, hamount, hpayment⟩, hlog⟩ := habs
  obtain ⟨row', hrow', hrs', hamount', hpayment'⟩ := row_absorbed hs hc hrow hrs hrr
  obtain ⟨row'', hrow'', hrr', hstop'⟩ := flags_kept (hinv hreach).running hs hrow
  cases hrow'.symm.trans hrow''
  have hstop : row'.isStopped = recovered.isStopped := by
    rw [hstopped] at hstop ⊢
    exact hstop' hstop
  exact ⟨⟨row', hrow', hrs', hrr' hrr, hstop, hamount'.trans hamount, hpayment'.trans hpayment⟩,
    (log_absorbed hs hc).trans hlog⟩

def harmlessOps : List Op :=
  [.razorpayWebhook captureRequest (.ok capturedPayment), .escalateLoad 0 (.ofDigit 1) "review", .lost 0]

def harmlessSys : Sys := (exec (step sampleSettings) capturedSys harmlessOps).getD capturedSys

theorem recovered_absorbing_sample : Absorbed capturedSys capturedRow harmlessSys := by
  have hdone : (exec (step sampleSettings) capturedSys harmlessOps).isSome = true := by decide +kernel
  refine recovered_absorbing capturedSys_reach (by decide +kernel) rfl rfl
    (reach_getD _ (fun op hop sys => ?_) hdone)
  simp only [harmlessOps, List.mem_cons, List.not_mem_nil, or_false] at hop
  rcases hop with rfl | rfl | rfl <;>
    exact ⟨(fun _ _ _ h => by cases h), (fun _ _ _ _ _ _ _ _ h => by cases h), (fun _ _ _ h => by cases h)⟩

/-- A case that the webhook has recovered while a run for it was waiting. -/
def waitingSys : Sys :=
  (exec (step sampleSettings) (init Table.empty) (startedOps ++ captureOps)).getD (init Table.empty)

def lateOps : List Op := attemptOps 0 (.ofDigit 3) true samplePolicy [{}, {}] {}

def lateSys : Sys := (exec (step sampleSettings) waitingSys lateOps).getD waitingSys

theorem recovered_not_absorbing : ¬ ∀ sys0 recovered sys,
    Reach (step sampleSettings) Any (init Table.empty) sys0 →
    sys0.db.cases.find recovered.id = some recovered → recovered.status = .recovered →
    recovered.isRecovered = true → Reach (step sampleSettings) Any sys0 sys → Absorbed sys0 recovered sys := by
  intro h
  have h0 : Reach (step sampleSettings) Any (init Table.empty) waitingSys :=
    reach_getD _ (fun _ _ _ => trivial) (by decide +kernel)
  have h1 : Reach (step sampleSettings) Any waitingSys lateSys :=
    reach_getD _ (fun _ _ _ => trivial) (by decide +kernel)
  have hrow : waitingSys.db.cases.find (.ofDigit 1) = some capturedRow := by decide +kernel
  have hlate : ∃ row ∈ lateSys.db.cases.find (.ofDigit 1), row.status = .escalated := by decide +kernel
  obtain ⟨⟨row, hf, hs, -⟩, -⟩ := h waitingSys capturedRow lateSys h0 hrow rfl rfl h1
  obtain ⟨row', hf', hs'⟩ := hlate
  cases hf.symm.trans hf'
  rw [hs] at hs'
  cases hs'

end RevenueRescue.RecoveredAbsorbing
