import RevenueRescue.Agents.Gate
import RevenueRescue.Backend.Restrictions

namespace RevenueRescue.RunAtomicity

open Enums PolicySchema AgentSchemas Providers RecoveryGraph PolicyGate Models RecoveryService Restrictions

/-- The place of the statement whose exception ends a block, if one does. -/
def raisesAt : Option (Nat × Failure) → List Stmt → Option Nat
  | _, [] => none
  | some (0, .database), _ :: _ => none
  | some (0, .exception _), .recordGuarded _ :: rest => (raisesAt none rest).map (· + 1)
  | some (0, .exception _), _ :: _ => some 0
  | some (k + 1, f), s :: rest =>
      if sound s then (raisesAt (some (k, f)) rest).map (· + 1) else some 0
  | none, s :: rest => if sound s then (raisesAt none rest).map (· + 1) else some 0

def markedError (db : Db) (run : AgentRun) (text : String) : Db :=
  { db with
    runs := db.runs.update run.id (fun r => { r with runStatus := .error, error := some text })
      fun _ => rfl
    audit := errorEvent run.recoveryCaseId text :: db.audit }

/-- What a call may leave behind when it fails. -/
def Atomic (db : Db) (run : AgentRun) (out : Db × CallResult) : Prop :=
  (out.2 = .reraised → out.1 = db) ∧
    (out.2 = .returned .error → out.1 = db ∨ ∃ text, out.1 = markedError db run text)

/-- The final attempt is stopped by an exception after `_apply_agent_result`
has put the node trace into the run, and the `except` branch goes through. -/
def Spoiled (finalAttempt : Bool) (case : RecoveryCase) (run : AgentRun) (input : AttemptInput) : Prop :=
  finalAttempt = true ∧ input.faults.branch = false ∧ input.faults.commit = false ∧
    ∃ state k, attemptResult input case run = .ok state ∧
      raisesAt input.faults.apply (applyAgentResult case.id state) = some k ∧ 2 ≤ k

variable {db : Db} {runId : Uuid} {run : AgentRun} {case : RecoveryCase} {finalAttempt : Bool}
variable {input : AttemptInput} {w : Work} {fault : Option (Nat × Failure)}

theorem runStmts_raised_iff (fault : Option (Nat × Failure)) (stmts : List Stmt) (w : Work) :
    (∃ w' e, runStmts fault stmts w = .raised w' e) ↔ (raisesAt fault stmts).isSome = true := by
  induction stmts generalizing fault w with
  | nil =>
      rcases fault with _ | ⟨k, f⟩ <;> simp [runStmts, raisesAt]
  | cons s rest ih =>
      have hstep (fault fault' : Option (Nat × Failure))
          (hok : ∀ w1, s.exec w = .ok w1 → runStmts fault (s :: rest) w = runStmts fault' rest w1)
          (herror : ∀ e, s.exec w = .error e → runStmts fault (s :: rest) w = .raised w e) :
          (∃ w' e, runStmts fault (s :: rest) w = .raised w' e) ↔
          (if sound s then (raisesAt fault' rest).map (· + 1) else some 0).isSome = true := by
        cases hs : sound s with
        | true =>
            obtain ⟨w1, hw1⟩ := exec_of_sound hs w
            simp [hok w1 hw1, ih]
        | false =>
            obtain ⟨e, he⟩ := exec_of_not_sound hs w
            simp [herror e he]
      rcases fault with _ | ⟨_ | k, f⟩
      · exact hstep none none (fun w1 h => by simp [runStmts, h]) fun e h => by simp [runStmts, h]
      · cases f with
        | database => simp [runStmts, raisesAt]
        | exception e =>
            cases s with
            | recordGuarded a => simp [runStmts, raisesAt, ih]
            | _ => simp [runStmts, raisesAt]
      · exact hstep (some (k + 1, f)) (some (k, f)) (fun w1 h => by simp [runStmts, h]) fun e h => by simp [runStmts, h]

theorem apply_nodeTrace (s : Stmt) (ht : w.run.nodeTrace.isSome = true) :
    (s.apply w).run.nodeTrace.isSome = true := by
  cases s with
  | record a => rw [apply_record]; exact ht
  | recordGuarded a => rw [apply_recordGuarded]; exact ht
  | runNodeTrace trace => rfl
  | _ => exact ht

theorem early_raise {state : AgentState} {e : String} {k : Nat}
    (h : runStmts fault (applyAgentResult case.id state) ⟨run, case, []⟩ = .raised w e)
    (hk : raisesAt fault (applyAgentResult case.id state) = some k) (hlt : k < 2) :
    w.case = case ∧ w.events = [] ∧ ∃ status, w.run = { run with runStatus := status } := by
  rcases fault with _ | ⟨_ | _ | n, f⟩
  · simp [applyAgentResult, openingStmts, raisesAt, sound] at hk
    omega
  · cases f with
    | database => simp [applyAgentResult, openingStmts, raisesAt] at hk
    | exception x =>
        simp only [applyAgentResult, openingStmts, List.cons_append, runStmts] at h
        cases h
        exact ⟨rfl, rfl, run.runStatus, rfl⟩
  · cases f with
    | database => simp [applyAgentResult, openingStmts, raisesAt, sound] at hk
    | exception x =>
        simp only [applyAgentResult, openingStmts, List.cons_append, runStmts, Stmt.exec] at h
        cases h
        exact ⟨rfl, rfl, .completed, rfl⟩
  · simp [applyAgentResult, openingStmts, raisesAt, sound] at hk
    omega

theorem late_raise {state : AgentState} {e : String} {k : Nat}
    (h : runStmts fault (applyAgentResult case.id state) ⟨run, case, []⟩ = .raised w e)
    (hk : raisesAt fault (applyAgentResult case.id state) = some k) (hle : 2 ≤ k) :
    w.run.nodeTrace.isSome = true := by
  have hkeeps (fault' : Option (Nat × Failure)) {stmts : List Stmt} {w1 : Work}
      (hr : runStmts fault' stmts w1 = .raised w e) (h1 : w1.run.nodeTrace.isSome = true) :
      w.run.nodeTrace.isSome = true :=
    have hw : w ∈ (runStmts fault' stmts w1).work := by rw [hr]; rfl
    runStmts_keeps (P := fun w => w.run.nodeTrace.isSome = true)
      (fun s _ _ ht => apply_nodeTrace s ht) h1 hw
  rcases fault with _ | ⟨_ | _ | n, f⟩
  · simp only [applyAgentResult, openingStmts, List.cons_append, runStmts, Stmt.exec] at h
    exact hkeeps none h rfl
  · cases f with
    | database => simp [applyAgentResult, openingStmts, raisesAt] at hk
    | exception x =>
        simp only [applyAgentResult, openingStmts, List.cons_append, raisesAt, Option.some.injEq] at hk
        omega
  · cases f with
    | database => simp [applyAgentResult, openingStmts, raisesAt, sound] at hk
    | exception x =>
        simp [applyAgentResult, openingStmts, raisesAt, sound] at hk
        omega
  · simp only [applyAgentResult, openingStmts, List.cons_append, runStmts, Stmt.exec] at h
    exact hkeeps (some (n, f)) h rfl

theorem conclude_raised (w : Work) (e : String) :
    conclude finalAttempt input.faults (.raised w e) =
      if finalAttempt = true ∧ input.faults.branch = false ∧ input.faults.commit = false then
        .committed { run := { w.run with runStatus := .error, error := some (truncateError e) }
                     case := w.case
                     events := errorEvent w.case.id (truncateError e) :: w.events } .error
      else .rolledBack := by
  simp only [conclude, runStmts_errorStmts, commit]
  cases finalAttempt <;> cases input.faults.branch <;> cases input.faults.commit <;> simp

theorem commitWork_markedError (hload : loadAttempt db runId = some (run, case)) (text : String) :
    commitWork db run case
      ⟨{ run with runStatus := .error, error := some text }, case, [errorEvent case.id text]⟩ =
      markedError db run text := by
  obtain ⟨hr, -, hc⟩ := loadAttempt_eq_some.mp hload
  have hid : run.id = runId := Table.find_key hr
  have hcases : db.cases.update case.id (mergeCase case case) (mergeCase_id case case) = db.cases :=
    Table.update_eq_self fun r _ => mergeCase_self case r
  have hruns : db.runs.update run.id (mergeRun run { run with runStatus := .error, error := some text })
        (mergeRun_id run _) =
      db.runs.update run.id (fun r => { r with runStatus := .error, error := some text })
        fun _ => rfl := by
    refine Table.update_congr fun r hf => ?_
    obtain rfl : run = r := Option.some.inj (hr.symm.trans (hid ▸ hf))
    simp [mergeRun]
  have hcase : case.id = run.recoveryCaseId := Table.find_key hc
  simp only [commitWork, updateCase, updateRun, markedError, hcases, hruns, List.singleton_append]
  rw [hcase]

theorem commitWork_not_atomic (hload : loadAttempt db runId = some (run, case))
    (hfresh : run.nodeTrace = none) (ht : w.run.nodeTrace.isSome = true) :
    commitWork db run case w ≠ db ∧ ∀ text, commitWork db run case w ≠ markedError db run text := by
  obtain ⟨hr, -, -⟩ := loadAttempt_eq_some.mp hload
  have hid : run.id = runId := Table.find_key hr
  have hfind : (commitWork db run case w).runs.find run.id = some (mergeRun run w.run run) := by
    rw [find_run_commitWork, if_pos rfl, hid, hr, Option.map_some]
  have htrace : (mergeRun run w.run run).nodeTrace = w.run.nodeTrace := by simp [mergeRun]
  constructor
  · intro h
    rw [h, hid, hr, Option.some.injEq] at hfind
    rw [← htrace, ← hfind, hfresh] at ht
    cases ht
  · intro text h
    have hmarked : (markedError db run text).runs.find run.id =
        some { run with runStatus := .error, error := some text } := by
      simp [markedError, hid, hr]
    rw [h, hmarked, Option.some.injEq] at hfind
    rw [← htrace, ← hfind] at ht
    exact absurd ht (by simp [hfresh])

/-- Whatever stops an attempt that is not spoiled, it has changed at most the
status of its run by then. -/
theorem raised_unspoiled {e : String} (hns : ¬ Spoiled finalAttempt case run input)
    (hfinal : finalAttempt = true ∧ input.faults.branch = false ∧ input.faults.commit = false)
    (h : attemptEnded case run input.faults (attemptResult input case run) = .raised w e) :
    w.case = case ∧ w.events = [] ∧ ∃ status, w.run = { run with runStatus := status } := by
  cases hres : attemptResult input case run with
  | error failure =>
      rw [hres] at h
      cases failure with
      | exception x => cases h; exact ⟨rfl, rfl, run.runStatus, rfl⟩
      | database => cases h
  | ok state =>
      rw [hres] at h
      obtain ⟨k, hk⟩ := Option.isSome_iff_exists.mp
        ((runStmts_raised_iff input.faults.apply (applyAgentResult case.id state) ⟨run, case, []⟩).mp
          ⟨w, e, h⟩)
      refine early_raise h hk (not_le.mp fun hle => hns ?_)
      exact ⟨hfinal.1, hfinal.2.1, hfinal.2.2, state, k, hres, hk, hle⟩

theorem not_atomic_of_spoiled (hload : loadAttempt db runId = some (run, case))
    (hfresh : run.nodeTrace = none) (h : Spoiled finalAttempt case run input) :
    ¬ Atomic db run (executeAgentRun db runId finalAttempt input) := by
  obtain ⟨hfinal, hbranch, hcommit, state, k, hres, hk, hle⟩ := h
  obtain ⟨w, e, hw⟩ := (runStmts_raised_iff input.faults.apply (applyAgentResult case.id state)
    ⟨run, case, []⟩).mpr (by rw [hk]; rfl)
  have hend : attemptEnded case run input.faults (attemptResult input case run) = .raised w e := by
    rw [hres]; exact hw
  have htrace : w.run.nodeTrace.isSome = true := late_raise hw hk hle
  rw [executeAgentRun_eq hload, attemptOutcome, hend, conclude_raised, if_pos ⟨hfinal, hbranch, hcommit⟩]
  rintro ⟨-, hA⟩
  obtain ⟨hdb, hmark⟩ := commitWork_not_atomic hload hfresh
    (w := { run := { w.run with runStatus := .error, error := some (truncateError e) }
            case := w.case
            events := errorEvent w.case.id (truncateError e) :: w.events }) htrace
  rcases hA rfl with h | ⟨text, h⟩
  · exact hdb h
  · exact hmark text h

theorem atomic_of_unspoiled (hload : loadAttempt db runId = some (run, case))
    (h : ¬ Spoiled finalAttempt case run input) :
    Atomic db run (executeAgentRun db runId finalAttempt input) := by
  rw [executeAgentRun_eq hload, attemptOutcome]
  cases hend : attemptEnded case run input.faults (attemptResult input case run) with
  | done w =>
      simp only [conclude, commit]
      cases input.faults.commit <;> simp [Atomic]
  | poisoned => simp [conclude, Atomic]
  | raised w e =>
      rw [conclude_raised]
      by_cases hfinal : finalAttempt = true ∧ input.faults.branch = false ∧ input.faults.commit = false
      · obtain ⟨hcase, hevents, status, hrun⟩ := raised_unspoiled h hfinal hend
        rw [if_pos hfinal, hcase, hevents, hrun]
        exact ⟨nofun, fun _ => .inr ⟨_, commitWork_markedError hload _⟩⟩
      · simp [if_neg hfinal, Atomic]

/-- Failure atomicity: a call that fails leaves the case and the ledger alone,
but for the mark of the failed run, exactly when no exception reaches the final
attempt after the node trace. -/
theorem failure_atomic_iff (hload : loadAttempt db runId = some (run, case))
    (hfresh : run.nodeTrace = none) :
    Atomic db run (executeAgentRun db runId finalAttempt input) ↔
      ¬ Spoiled finalAttempt case run input :=
  ⟨fun hA h => not_atomic_of_spoiled hload hfresh h hA, atomic_of_unspoiled hload⟩

def simulatedRetry : RetryResult where
  attemptId := "ATT-01234567"
  paymentId := "TXN-0123456789AB"
  status := .success
  amountPaise := 100000
  currency := "INR"
  provider := .simulation

def simulatedPayment : PaymentResult where
  paymentId := "TXN-0123456789AB"
  status := .success
  amountPaise := 100000
  currency := "INR"
  provider := .simulation

def recoveringNodes : List NodeInput :=
  sampleCycle .retryNow { retry := .ok simulatedRetry } ++
    [({} : NodeInput), { payment := .ok simulatedPayment }, {}]

def recoveringInput : AttemptInput where
  policy := .ok samplePolicy
  nodes := fun i => recoveringNodes.getD i {}

theorem failure_atomic_iff_sample :
    Atomic restrictedDb sampleAgentRun (executeAgentRun restrictedDb (.ofDigit 3) true recoveringInput) ↔
      ¬ Spoiled true sampleCase sampleAgentRun recoveringInput :=
  failure_atomic_iff restrictedDb_load rfl

def recoveredState : AgentState :=
  match attemptResult recoveringInput sampleCase sampleAgentRun with
  | .ok state => state
  | .error _ => sampleState

theorem recoveredState_eq : attemptResult recoveringInput sampleCase sampleAgentRun = .ok recoveredState := rfl

theorem recoveredState_raises :
    raisesAt none (applyAgentResult sampleCase.id recoveredState) = some 12 := by
  decide +kernel

theorem failure_not_atomic :
    ¬ Atomic restrictedDb sampleAgentRun
      (executeAgentRun restrictedDb (.ofDigit 3) true recoveringInput) :=
  not_atomic_of_spoiled restrictedDb_load rfl
    ⟨rfl, rfl, rfl, recoveredState, 12, recoveredState_eq, recoveredState_raises, by decide⟩

end RevenueRescue.RunAtomicity
