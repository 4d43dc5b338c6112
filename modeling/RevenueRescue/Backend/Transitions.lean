import RevenueRescue.Agents.Effects
import RevenueRescue.Backend.Settlement
import RevenueRescue.Backend.System

namespace RevenueRescue.RecoverySystem

open Enums PolicySchema AgentSchemas DeterministicNodes RecoveryGraph GraphEffects
open Models RecoveryService RazorpayCheckout Machine

variable {settings : Settings} {sys sys' : Sys} {op : Op} {sid : Nat} {id : Uuid}

inductive SessionChange (sys : Sys) (op : Op) (sid : Nat) : Option Session → Prop
  | kept : SessionChange sys op sid (sys.sessions sid)
  | closed : SessionChange sys op sid none
  | starting {case : RecoveryCase} (h : sys.db.cases.find case.id = some case) :
      SessionChange sys op sid (some (.starting case))
  | escalating {case : RecoveryCase} {reason : String} (h : sys.db.cases.find case.id = some case) :
      SessionChange sys op sid (some (.escalating case reason))
  | loadedRun {run : AgentRun} {finalAttempt : Bool} (running : run.runStatus = .running)
      (h : sys.db.runs.find run.id = some run) :
      SessionChange sys op sid (some (.loadedRun run finalAttempt running))
  | failing {run : AgentRun} {case : RecoveryCase} {finalAttempt : Bool} {e : String}
      (running : run.runStatus = .running) (hs : sys.sessions sid = some (.loadedRun run finalAttempt running))
      (h : sys.db.cases.find case.id = some case) :
      SessionChange sys op sid (some (.failing run case finalAttempt e running))
  | loadedCase {run : AgentRun} {case : RecoveryCase} {policy : PolicyConfig} {finalAttempt : Bool}
      (running : run.runStatus = .running) (hop : op = .executeLoadCase sid (.ok policy))
      (hs : sys.sessions sid = some (.loadedRun run finalAttempt running))
      (h : sys.db.cases.find run.recoveryCaseId = some case) :
      SessionChange sys op sid (some (.attempt (begin run case policy finalAttempt running)))
  | advanced {a : Attempt} {w : NodeInput} {graph : Run} (hop : op = .executeNode sid w)
      (hs : sys.sessions sid = some (.attempt a))
      (h : RecoveryGraph.step a.policy recursionLimit a.graph w = some graph) :
      SessionChange sys op sid (some (.attempt { a with graph := graph }))

theorem SessionChange.update {s : Option Session} {n : Nat} (h : n = sid → SessionChange sys op sid s) :
    SessionChange sys op sid (Function.update sys.sessions n s sid) := by
  by_cases hn : sid = n
  · subst hn
    rw [Function.update_self]
    exact h rfl
  · rw [Function.update_of_ne hn]
    exact .kept

inductive LogChange (sys : Sys) (op : Op) : List Entry → Prop
  | kept : LogChange sys op sys.log
  | settled {caseId : Uuid} {paymentId : String} (hop : op = .settle caseId paymentId)
      (h : sys.log.any (isPaymentCall caseId) = true) :
      LogChange sys op (.settled caseId paymentId :: sys.log)
  | effects {sid : Nat} {a : Attempt} {w : NodeInput} {graph : Run} (hop : op = .executeNode sid w)
      (hs : sys.sessions sid = some (.attempt a))
      (h : RecoveryGraph.step a.policy recursionLimit a.graph w = some graph) :
      LogChange sys op ((newEffects a.graph graph).map (.effect a.case.id) ++ sys.log)

/-- What one step can do to one case and to its recoveries. -/
inductive RowChange (sys : Sys) (op : Op) (id : Uuid) : Option RecoveryCase → List AuditEvent → Prop
  | kept : RowChange sys op id (sys.db.cases.find id) []
  | created {case : RecoveryCase} (hf : sys.db.cases.find id = none) (hid : case.id = id)
      (hr : case.isRecovered = false) (ha : case.amountRecoveredPaise = 0)
      (hs : case.status = .detected) : RowChange sys op id (some case) []
  | ordered {case : RecoveryCase} {orderId : String} (hf : sys.db.cases.find id = some case)
      (ht : ¬ Terminal case) : RowChange sys op id (some (ordered orderId case)) []
  | captured {case : RecoveryCase} {paymentId : String} {amountPaise : Int} {e : AuditEvent}
      (hf : sys.db.cases.find id = some case) (hr : case.isRecovered = false)
      (he : Confirms case amountPaise e) :
      RowChange sys op id (some (captured paymentId amountPaise case)) [e]
  | finished {sid : Nat} {session : Session} {run : AgentRun} {case : RecoveryCase}
      {finalAttempt : Bool} {result : Except Failure AgentState} {faults : Faults} {w : Work}
      {status : RunStatus} (hop : op = .executeFinish sid faults) (hs : sys.sessions sid = some session)
      (he : session.ended = some (run, case, finalAttempt, result))
      (ho : attemptOutcome finalAttempt case run faults result = .committed w status)
      (hid : case.id = id) :
      RowChange sys op id ((sys.db.cases.find id).map (mergeCase case w.case))
        (w.events.filter (isRecoveryOf id))
  | escalated {sid : Nat} {case : RecoveryCase} {reason : String} (hop : op = .escalateCommit sid)
      (hs : sys.sessions sid = some (.escalating case reason)) (hid : case.id = id) :
      RowChange sys op id ((sys.db.cases.find id).map (mergeCase case (escalated reason case))) []

def Rows (sys : Sys) (op : Op) (id : Uuid) (db' : Db) : Prop :=
  ∃ added, RowChange sys op id (db'.cases.find id) added ∧
    recoveredEvents db' id = added ++ recoveredEvents sys.db id

theorem rows_of_eq {db' : Db} (hc : db'.cases.find id = sys.db.cases.find id)
    (ha : recoveredEvents db' id = recoveredEvents sys.db id) : Rows sys op id db' :=
  ⟨[], hc ▸ .kept, ha⟩

theorem rows_of_change {db' : Db} (h : Change sys.db db') : Rows sys op id db' := by
  rcases h.row id with ⟨hc, ha⟩ | ⟨case, orderId, hf, ht, hc, ha⟩ | ⟨case, paymentId, amount, e, hf, hr, hc, he, ha⟩
  · exact rows_of_eq hc ha
  · exact ⟨[], hc ▸ .ordered hf ht, ha⟩
  · exact ⟨[e], hc ▸ .captured hf hr he, ha⟩

theorem rows_of_create {db' : Db} {case : RecoveryCase} {reason : String}
    (h : createCase sys.db case reason = some db') (hr : case.isRecovered = false)
    (ham : case.amountRecoveredPaise = 0) (hs : case.status = .detected) : Rows sys op id db' := by
  obtain ⟨cases, event, hi, he, hc, -, ha⟩ := createCase_eq_some h
  have hevents : recoveredEvents db' id = recoveredEvents sys.db id := by
    simp [recoveredEvents, ha, isRecoveryOf, he]
  refine ⟨[], ?_, hevents⟩
  rw [hc, Table.find_insert hi]
  split
  · rename_i hid
    exact .created (hid ▸ Table.find_none_of_insert hi) hid hr ham hs
  · exact .kept

def RunsKept (sys : Sys) (db' : Db) : Prop :=
  ∀ id run, db'.runs.find id = some run → run.runStatus = .running →
    sys.db.runs.find id = some run ∨ run.nodeTrace = none

theorem runsKept_of_eq {db' : Db} (h : db'.runs = sys.db.runs) : RunsKept sys db' := by
  intro id run hf _
  exact .inl (h ▸ hf)

inductive Stepped (sys : Sys) (op : Op) : Sys → Prop
  | wrote {db' : Db} (hrows : ∀ id, Rows sys op id db') (hruns : RunsKept sys db') :
      Stepped sys op { sys with db := db' }
  | opened {n : Nat} {session : Session} (hn : op.sid = some n)
      (hs : SessionChange sys op n (some session)) : Stepped sys op (sys.put n (some session))
  | committed {n : Nat} {db' : Db} (hn : op.sid = some n) (hrows : ∀ id, Rows sys op id db')
      (hruns : RunsKept sys db') : Stepped sys op (sys.commit n db')
  | closed {n : Nat} (hn : op.sid = some n) : Stepped sys op (sys.put n none)
  | advanced {n : Nat} {a : Attempt} {w : NodeInput} {graph : Run} (hop : op = .executeNode n w)
      (hs : sys.sessions n = some (.attempt a))
      (h : RecoveryGraph.step a.policy recursionLimit a.graph w = some graph) :
      Stepped sys op { sys.put n (some (.attempt { a with graph := graph })) with
        log := (newEffects a.graph graph).map (.effect a.case.id) ++ sys.log }
  | settled {caseId : Uuid} {paymentId : String} (hop : op = .settle caseId paymentId)
      (h : sys.log.any (isPaymentCall caseId) = true) :
      Stepped sys op { sys with log := .settled caseId paymentId :: sys.log }

theorem openSession_eq_some {n : Nat} {session : Session} (h : sys.openSession n session = some sys') :
    sys' = sys.put n (some session) := by
  unfold Sys.openSession at h
  split at h
  · cases h
    rfl
  · cases h

theorem ended_running {session : Session} {run : AgentRun} {case : RecoveryCase} {finalAttempt : Bool}
    {result : Except Failure AgentState} (h : session.ended = some (run, case, finalAttempt, result)) :
    run.runStatus = .running := by
  cases session with
  | failing _ _ _ _ running => cases h; exact running
  | attempt a =>
      simp only [Session.ended] at h
      split at h <;> cases h <;> exact a.running
  | starting | loadedRun | escalating => cases h

theorem stepped_of_finish {n : Nat} {faults : Faults}
    (h : step settings sys (.executeFinish n faults) = some sys') :
    Stepped sys (.executeFinish n faults) sys' := by
  simp only [step] at h
  cases hs : sys.sessions n with
  | none => simp [hs] at h
  | some session =>
      cases he : session.ended with
      | none => simp [hs, he] at h
      | some attempt =>
          obtain ⟨run, case, finalAttempt, result⟩ := attempt
          simp only [hs, Option.bind_some, he] at h
          cases ho : attemptOutcome finalAttempt case run faults result with
          | rolledBack => simp only [ho, Option.some.injEq] at h; subst h; exact .closed rfl
          | committed w status =>
              simp only [ho, Option.some.injEq] at h
              subst h
              refine .committed rfl (fun id => ?_) (fun id r hf hrun => ?_)
              · have hfind := find_case_commitWork sys.db run case w id
                have hevents : recoveredEvents (commitWork sys.db run case w) id =
                    w.events.filter (isRecoveryOf id) ++ recoveredEvents sys.db id :=
                  List.filter_append ..
                by_cases hid : case.id = id
                · refine ⟨_, ?_, hevents⟩
                  rw [hfind, if_pos hid.symm]
                  exact .finished rfl hs he ho hid
                · rw [if_neg (Ne.symm hid)] at hfind
                  rw [committed_recoveries ho id, if_neg (Ne.symm hid)] at hevents
                  exact rows_of_eq hfind hevents
              · rw [find_run_commitWork] at hf
                split at hf
                · -- The run of the attempt is not running any more.
                  obtain ⟨stored, -, rfl⟩ := Option.map_eq_some_iff.mp hf
                  have hne : w.run.runStatus ≠ run.runStatus :=
                    ended_running he ▸ (committed_work ho).2.1
                  have hstatus : (mergeRun run w.run stored).runStatus = w.run.runStatus :=
                    NetChange.flush_changed hne _
                  exact absurd (hstatus.symm.trans hrun) (committed_work ho).2.1
                · exact .inl hf

theorem stepped_of_escalate {n : Nat} (h : step settings sys (.escalateCommit n) = some sys') :
    Stepped sys (.escalateCommit n) sys' := by
  simp only [step] at h
  split at h
  · rename_i case reason hs
    obtain ⟨db, hdb, rfl⟩ := Option.map_eq_some_iff.mp h
    obtain ⟨event, he, rfl⟩ := escalateCase_eq_some hdb
    refine .committed rfl (fun id => ?_) (runsKept_of_eq rfl)
    have hfind := Table.find_update sys.db.cases case.id id _ (mergeCase_id case (escalated reason case))
    refine ⟨[], ?_, by simp [recoveredEvents, isRecoveryOf, he]⟩
    change RowChange sys _ id ((updateCase sys.db case (escalated reason case)).cases.find id) []
    rw [updateCase, hfind]
    by_cases hid : id = case.id
    · rw [if_pos hid]
      exact .escalated rfl hs hid.symm
    · rw [if_neg hid]
      exact .kept
  · cases h

theorem stepped_of_start {n : Nat} {runId : Uuid} (h : step settings sys (.startCommit n runId) = some sys') :
    Stepped sys (.startCommit n runId) sys' := by
  simp only [step] at h
  split at h
  · obtain ⟨db, hdb, rfl⟩ := Option.map_eq_some_iff.mp h
    obtain ⟨runs, event, hi, he, rfl⟩ := startAgentRun_eq_some hdb
    refine .committed rfl (fun id => rows_of_eq rfl (by simp [recoveredEvents, isRecoveryOf, he])) ?_
    intro id run hf _
    rw [Table.find_insert hi] at hf
    split at hf
    · cases hf; exact .inr rfl
    · exact .inl hf
  · cases h

theorem stepped_of_create {case : RecoveryCase} {reason : String} {db : Db}
    (h : createCase sys.db case reason = some db) (hr : case.isRecovered = false)
    (ha : case.amountRecoveredPaise = 0) (hs : case.status = .detected) :
    Stepped sys op { sys with db := db } := by
  refine .wrote (fun id => rows_of_create h hr ha hs) ?_
  obtain ⟨_, _, -, -, -, hk, -⟩ := createCase_eq_some h
  exact runsKept_of_eq hk

theorem stepped_of_change {db : Db} (h : Change sys.db db) : Stepped sys op { sys with db := db } :=
  .wrote (fun _ => rows_of_change h) (runsKept_of_eq h.runs)

theorem step_cases (h : step settings sys op = some sys') : Stepped sys op sys' := by
  cases op with
  | paymentFailed newId event =>
      obtain ⟨db, hdb, rfl⟩ := Option.map_eq_some_iff.mp h
      rcases createCaseFromPaymentFailure_eq_some hdb with rfl | ⟨-, row, hrow, hcreate⟩
      · exact stepped_of_change (.refl _)
      · obtain ⟨_, _, -, -, -, rfl⟩ := stored_eq_some.mp hrow
        exact stepped_of_create hcreate rfl rfl rfl
  | checkoutAbandoned newId event =>
      obtain ⟨db, hdb, rfl⟩ := Option.map_eq_some_iff.mp h
      rcases createCaseFromCheckoutAbandonment_eq_some hdb with rfl | ⟨-, row, hrow, hcreate⟩
      · exact stepped_of_change (.refl _)
      · obtain ⟨_, _, -, -, -, rfl⟩ := stored_eq_some.mp hrow
        exact stepped_of_create hcreate rfl rfl rfl
  | startLoad n caseId =>
      simp only [step] at h
      cases hf : sys.db.cases.find caseId with
      | none => rw [hf] at h; cases h
      | some case =>
          rw [hf] at h
          simp only at h
          split at h
          · rw [openSession_eq_some h]
            exact .opened rfl (.starting (Table.find_key hf ▸ hf))
          · cases h
  | startCommit n runId => exact stepped_of_start h
  | executeLoadRun n runId finalAttempt =>
      simp only [step] at h
      cases hf : sys.db.runs.find runId with
      | none => rw [hf] at h; cases h
      | some run =>
          rw [hf] at h
          simp only at h
          split at h
          · rw [openSession_eq_some h]
            exact .opened rfl (.loadedRun _ (Table.find_key hf ▸ hf))
          · cases h
  | executeLoadCase n policy =>
      simp only [step] at h
      split at h
      · rename_i run finalAttempt running hs
        obtain ⟨case, hf, rfl⟩ := Option.map_eq_some_iff.mp h
        cases policy with
        | ok policy => exact .opened rfl (.loadedCase running rfl hs hf)
        | error e => exact .opened rfl (.failing running hs (Table.find_key hf ▸ hf))
      · cases h
  | executeNode n w =>
      simp only [step] at h
      split at h
      · rename_i a hs
        obtain ⟨graph, hg, rfl⟩ := Option.map_eq_some_iff.mp h
        exact .advanced rfl hs hg
      · cases h
  | executeFinish n faults => exact stepped_of_finish h
  | lost n => cases h; exact .closed rfl
  | escalateLoad n caseId reason =>
      simp only [step] at h
      cases hf : sys.db.cases.find caseId with
      | none => rw [hf] at h; cases h
      | some case =>
          rw [hf] at h
          rw [openSession_eq_some h]
          exact .opened rfl (.escalating (Table.find_key hf ▸ hf))
  | escalateCommit n => exact stepped_of_escalate h
  | createOrder request answer =>
      simp only [step] at h
      split at h
      · rename_i db _ ho
        cases h
        exact stepped_of_change (createOrder_served ho).change
      · cases h
  | verifyPayment request answer =>
      cases h
      exact stepped_of_change (verifyPayment_served settings sys.db request answer).change
  | razorpayWebhook request answer =>
      simp only [step] at h
      split at h
      · rename_i db _ ho
        cases h
        exact stepped_of_change (razorpayWebhook_served ho).change
      · cases h
  | settle caseId paymentId =>
      simp only [step] at h
      split at h <;> cases h
      exact .settled rfl (by assumption)

theorem session_change (h : step settings sys op = some sys') (sid : Nat) :
    SessionChange sys op sid (sys'.sessions sid) := by
  cases step_cases h with
  | wrote => exact .kept
  | opened _ hs => exact .update fun hn => hn ▸ hs
  | committed | closed => exact .update fun _ => .closed
  | advanced hop hs hg => exact .update fun hn => hn ▸ .advanced hop hs hg
  | settled => exact .kept

theorem sessions_kept (h : step settings sys op = some sys') (hn : op.sid ≠ some sid) :
    sys'.sessions sid = sys.sessions sid := by
  cases step_cases h with
  | wrote | settled => rfl
  | opened hop | committed hop | closed hop =>
      refine Function.update_of_ne ?_ _ _
      rintro rfl
      exact hn hop
  | advanced hop =>
      refine Function.update_of_ne ?_ _ _
      rintro rfl
      exact hn (hop ▸ rfl)

theorem case_change (h : step settings sys op = some sys') {session : Session} {case : RecoveryCase}
    (hs : sys'.sessions sid = some session) (hcase : session.case? = some case) :
    sys.db.cases.find case.id = some case ∨
      ∃ old, sys.sessions sid = some old ∧ old.case? = some case := by
  have hchange := session_change h sid
  rw [hs] at hchange
  generalize hsession : some session = s at hchange
  cases hchange with
  | kept => exact .inr ⟨session, hsession.symm, hcase⟩
  | closed => cases hsession
  | starting hf | escalating hf | failing _ _ hf => cases hsession; cases hcase; exact .inl hf
  | loadedCase _ _ _ hf => cases hsession; cases hcase; exact .inl (Table.find_key hf ▸ hf)
  | loadedRun => cases hsession; cases hcase
  | @advanced a w graph _ ho _ => cases hsession; exact .inr ⟨.attempt a, ho, hcase⟩

theorem log_change (h : step settings sys op = some sys') : LogChange sys op sys'.log := by
  cases step_cases h with
  | wrote | opened | committed | closed => exact .kept
  | advanced hop hs hg => exact .effects hop hs hg
  | settled hop hp => exact .settled hop hp

section Effects

variable {policy : PolicyConfig} {limit : Nat} {r r' : Run} {w : NodeInput}

theorem effect_step (h : RecoveryGraph.step policy limit r w = some r') :
    newEffects r r' = [] ∨ ∃ n x, newEffects r r' = [x] ∧ r.next = .node n ∧ w.raised = none ∧
      (nodeFunction policy n r.state w).effect = some x ∧
      ∀ u, (nodeFunction policy n r.state w).result = .ok u →
        r'.next = advance limit (r.trace.length + 1) n (wrapNode n u) ∧ r'.state = wrapNode n u := by
  unfold RecoveryGraph.step at h
  cases hn : r.next with
  | finished | raised => simp [hn] at h
  | node n =>
      simp only [hn] at h
      have hnew (next : Next) (state : AgentState) (after : Option AgentState) (effect : Option Effect) :
          newEffects r ⟨next, state, ⟨n, w.time, r.state, effect, after⟩ :: r.trace⟩ = effect.toList := by
        cases effect <;> simp [newEffects]
      split at h
      · cases h
        exact .inl (by simp [newEffects])
      · cases hw : w.raised with
        | some e =>
            simp only [runNode, hw, Option.some.injEq] at h
            subst h
            exact .inl (hnew _ _ _ none)
        | none =>
            cases he : (nodeFunction policy n r.state w).effect with
            | none =>
                refine .inl ?_
                simp only [runNode, hw, he] at h
                split at h <;> cases h <;> exact hnew _ _ _ none
            | some x =>
                refine .inr ⟨n, x, ?_, rfl, rfl, he, fun u hu => ?_⟩
                · simp only [runNode, hw, he] at h
                  split at h <;> cases h <;> exact hnew _ _ _ (some x)
                · simp only [runNode, hw, hu, Except.map, Option.some.injEq] at h
                  subst h
                  exact ⟨rfl, rfl⟩

theorem newEffects_step (h : RecoveryGraph.step policy limit r w = some r') :
    newEffects r r' = [] ∨ ∃ n x, newEffects r r' = [x] ∧ r.next = .node n ∧ w.raised = none ∧
      Source policy r.state w n x := by
  rcases effect_step h with hnone | ⟨n, x, hone, hn, hw, he, -⟩
  · exact .inl hnone
  · exact .inr ⟨n, x, hone, hn, hw, nodeFunction_effect he⟩

end Effects

/-- What one step can do to one case and to its recoveries. -/
theorem row_change (h : step settings sys op = some sys') (id : Uuid) : Rows sys op id sys'.db := by
  cases step_cases h with
  | wrote hrows | committed _ hrows => exact hrows id
  | opened | closed | advanced | settled => exact rows_of_eq rfl rfl

theorem isSome_of_row {db' : Db} (h : Rows sys op id db') (hf : (sys.db.cases.find id).isSome = true) :
    (db'.cases.find id).isSome = true := by
  obtain ⟨added, hrow, -⟩ := h
  generalize db'.cases.find id = row at hrow
  cases hrow with
  | kept => exact hf
  | finished | escalated => simpa using hf
  | created | ordered | captured => rfl

theorem ended_ok {session : Session} {run : AgentRun} {case : RecoveryCase} {finalAttempt : Bool}
    {state : AgentState} (h : session.ended = some (run, case, finalAttempt, .ok state)) :
    ∃ a, session = .attempt a ∧ a.run = run ∧ a.case = case ∧ a.finalAttempt = finalAttempt ∧
      a.graph.next = .finished ∧ a.graph.state = state := by
  cases session with
  | attempt a =>
      simp only [Session.ended] at h
      split at h
      · rename_i hn
        cases h
        exact ⟨a, rfl, rfl, rfl, rfl, hn, rfl⟩
      · cases h
      · cases h
  | starting | loadedRun | failing | escalating => cases h

theorem ended_case {session : Session} {run : AgentRun} {case : RecoveryCase} {finalAttempt : Bool}
    {result : Except Failure AgentState} (h : session.ended = some (run, case, finalAttempt, result)) :
    session.case? = some case := by
  cases session with
  | attempt a =>
      simp only [Session.ended] at h
      split at h <;> cases h <;> rfl
  | failing => cases h; rfl
  | starting | loadedRun | escalating => cases h

def Running (sys : Sys) : Prop :=
  ∀ sid a, sys.sessions sid = some (.attempt a) →
    Reach (RecoveryGraph.step a.policy recursionLimit) Any (start (initialState a.case a.run.id)) a.graph

theorem running_step (hr : Running sys) (h : step settings sys op = some sys') : Running sys' := by
  intro sid a hs
  have hc := session_change h sid
  rw [hs] at hc
  generalize hsession : some (Session.attempt a) = session at hc
  cases hc with
  | kept => exact hr sid a hsession.symm
  | loadedCase => cases hsession; exact .refl
  | @advanced b w graph hop hold hg => cases hsession; exact .tail (hr sid b hold) trivial hg
  | closed | starting | escalating | loadedRun | failing => cases hsession

def init (customers : Table Uuid Customer Customer.id) : Sys := { db := { customers := customers } }

variable {customers : Table Uuid Customer Customer.id} {P : Sys → Op → Prop}

theorem init_sessions (sid : Nat) : (init customers).sessions sid = none := rfl

theorem init_rows (id : Uuid) : (init customers).db.cases.find id = none := rfl

theorem running_init : Running (init customers) := by
  intro sid a hs
  rw [init_sessions] at hs
  cases hs

theorem running_of_reach (h : Reach (step settings) P (init customers) sys) : Running sys :=
  h.invariant running_init fun _ _ _ _ hr _ hs => running_step hr hs

theorem runs_change (h : step settings sys op = some sys') : RunsKept sys sys'.db := by
  cases step_cases h with
  | wrote _ hruns | committed _ _ hruns => exact hruns
  | opened | closed | advanced | settled => exact runsKept_of_eq rfl

/-- A running run has no node trace. -/
theorem fresh_of_reach (h : Reach (step settings) P (init customers) sys) {run : AgentRun}
    (hf : sys.db.runs.find id = some run) (hr : run.runStatus = .running) : run.nodeTrace = none := by
  refine h.invariant (I := fun sys => ∀ id run, sys.db.runs.find id = some run →
    run.runStatus = .running → run.nodeTrace = none) (fun id run hf => ?_)
    (fun s op t _ hi _ hs id run hf hr => ?_) id run hf hr
  · cases hf
  · rcases runs_change hs id run hf hr with h | h
    · exact hi id run h hr
    · exact h

end RevenueRescue.RecoverySystem
