import RevenueRescue.Backend.Trail

namespace RevenueRescue.Progress

open PolicySchema DeterministicNodes Models RazorpayCheckout RecoveryService RecoverySystem AuditTrail Machine
open RecoveryGraph (NodeInput recursionLimit drive start invoke)

/-- What a worker does that executes a run with nothing in between. -/
def aloneOps (sid : Nat) (runId : Uuid) (finalAttempt : Bool) (policy : Except String PolicyConfig)
    (inputs : Nat → NodeInput) (k : Nat) (faults : Faults) : List Op :=
  [.executeLoadRun sid runId finalAttempt, .executeLoadCase sid policy] ++
    ((List.range k).map fun i => .executeNode sid (inputs i)) ++ [.executeFinish sid faults]

/-- The same, as one call of `execute_agent_run` sees it. -/
def aloneInput (policy : Except String PolicyConfig) (inputs : Nat → NodeInput) (faults : Faults) : AttemptInput where
  policy := policy.mapError .exception
  nodes := inputs
  faults := faults

/-- A state in which no more happened than the execution of one run of a case. -/
structure Executed (sys : Sys) (run : AgentRun) (db : Db) (sys' : Sys) : Prop where
  db : sys'.db = db
  sessions : sys'.sessions = sys.sessions
  log : ∃ effects : List Effect, sys'.log = effects.map (.effect run.recoveryCaseId) ++ sys.log
  audit : ∃ events, sys'.db.audit = events ++ sys.db.audit ∧ ∀ e ∈ events, e.recoveryCaseId = some run.recoveryCaseId
  runs : ∀ id, id ≠ run.id → sys'.db.runs.find id = sys.db.runs.find id
  cases : ∀ id, id ≠ run.recoveryCaseId → sys'.db.cases.find id = sys.db.cases.find id

variable {settings : Settings} {sys sys' : Sys} {sid : Nat} {runId : Uuid} {run : AgentRun} {case : RecoveryCase}
  {finalAttempt : Bool} {policy : Except String PolicyConfig} {inputs : Nat → NodeInput} {faults : Faults}

theorem put_put (sys : Sys) (sid : Nat) (session session' : Option Session) :
    (sys.put sid session).put sid session' = sys.put sid session' := by
  simp only [Sys.put, Function.update_idem]

theorem put_eq_self {session : Option Session} (h : sys.sessions sid = session) : sys.put sid session = sys := by
  rw [Sys.put, ← h, Function.update_eq_self]

theorem put_sessions (sys : Sys) (sid : Nat) (session : Option Session) : (sys.put sid session).sessions sid = session :=
  Function.update_self ..

/-- The nodes of an attempt, until its graph stops. -/
theorem exec_nodes (settings : Settings) (inputs : Nat → NodeInput) (fuel : Nat) {a : Attempt} (hs : sys.sessions sid = some (.attempt a))
    (hl : a.graph.trace.length ≤ recursionLimit) (hfuel : recursionLimit < a.graph.trace.length + fuel) :
    ∃ k ≤ fuel, ∃ effects : List Effect,
      exec (step settings) sys ((List.range' a.graph.trace.length k).map fun i => .executeNode sid (inputs i)) =
        some { sys.put sid (some (.attempt { a with graph := drive a.policy recursionLimit inputs fuel a.graph })) with
          log := effects.map (.effect a.case.id) ++ sys.log } := by
  induction fuel generalizing sys a with
  | zero => omega
  | succ fuel ih =>
      by_cases hnode : ∃ n, a.graph.next = .node n
      · obtain ⟨n, hn⟩ := hnode
        obtain ⟨graph, hgraph⟩ :=
          GraphEffects.step_enabled a.policy recursionLimit hn (inputs a.graph.trace.length)
        have hstep : step settings sys (.executeNode sid (inputs a.graph.trace.length)) =
            some { sys.put sid (some (.attempt { a with graph := graph })) with
              log := (newEffects a.graph graph).map (.effect a.case.id) ++ sys.log } := by
          simp only [step, hs, hgraph, Option.map_some]
        have hdrive : drive a.policy recursionLimit inputs (fuel + 1) a.graph =
            drive a.policy recursionLimit inputs fuel graph := by
          rw [drive, hgraph]
        rcases GraphEffects.step_progress hgraph with ⟨hlen, hlt⟩ | hstop
        · have hopen : ({ sys.put sid (some (.attempt { a with graph := graph })) with
              log := (newEffects a.graph graph).map (.effect a.case.id) ++ sys.log } : Sys).sessions sid =
                some (.attempt { a with graph := graph }) := put_sessions ..
          obtain ⟨k, hk, effects, hexec⟩ := ih hopen (by simp only; omega) (by simp only; omega)
          refine ⟨k + 1, by omega, effects ++ newEffects a.graph graph, ?_⟩
          rw [List.range'_succ, List.map_cons, exec, hstep, Option.bind_some, hdrive]
          simp only [hlen] at hexec
          rw [hexec]
          simp only [Sys.put, Function.update_idem, List.map_append, List.append_assoc]
        · refine ⟨1, by omega, newEffects a.graph graph, ?_⟩
          rw [List.range'_one, List.map_singleton, exec, hstep, hdrive, GraphEffects.drive_stopped _ hstop]
          rfl
      · have hstop : ∀ n, a.graph.next ≠ .node n := fun n hn => hnode ⟨n, hn⟩
        refine ⟨0, Nat.zero_le _, [], ?_⟩
        rw [GraphEffects.drive_stopped _ hstop, put_eq_self hs]
        rfl

/-- The session when its case is loaded, and the policy or what came in its place. -/
def opened (run : AgentRun) (case : RecoveryCase) (finalAttempt : Bool) (running : run.runStatus = .running) :
    Except String PolicyConfig → Session
  | .ok policy => .attempt (begin run case policy finalAttempt running)
  | .error e => .failing run case finalAttempt e running

theorem exec_loads (hf : sys.db.runs.find runId = some run) (hs : run.runStatus = .running)
    (hc : sys.db.cases.find run.recoveryCaseId = some case) (hfree : sys.sessions sid = none) :
    exec (step settings) sys [.executeLoadRun sid runId finalAttempt, .executeLoadCase sid policy] =
      some (sys.put sid (some (opened run case finalAttempt hs policy))) := by
  have hload : step settings sys (.executeLoadRun sid runId finalAttempt) =
      some (sys.put sid (some (.loadedRun run finalAttempt hs))) := by
    simp only [step, hf, hs, dif_pos, Sys.openSession, hfree]
    rfl
  have hcase : step settings (sys.put sid (some (.loadedRun run finalAttempt hs))) (.executeLoadCase sid policy) =
      some (sys.put sid (some (opened run case finalAttempt hs policy))) := by
    simp only [step, put_sessions]
    have hfind : (sys.put sid (some (.loadedRun run finalAttempt hs))).db.cases.find run.recoveryCaseId = some case := hc
    rw [hfind]
    cases policy <;> simp only [Option.map_some, put_put, opened]
  rw [exec, hload, Option.bind_some, exec, hcase]
  rfl

/-- A stopped graph is what `invoke` ends with. -/
theorem ended_attempt (policy : PolicyConfig) (inputs : Nat → NodeInput) (faults : Faults)
    (running : run.runStatus = .running) :
    (Session.attempt { begin run case policy finalAttempt running with
        graph := drive policy recursionLimit inputs (recursionLimit + 1) (start (initialState case run.id)) }).ended =
      some (run, case, finalAttempt, attemptResult (aloneInput (.ok policy) inputs faults) case run) := by
  have hstop : ∀ n, (drive policy recursionLimit inputs (recursionLimit + 1) (start (initialState case run.id))).next ≠
      .node n := GraphEffects.drive_settled (Nat.lt_of_lt_of_le (Nat.lt_succ_self _) (Nat.le_add_left _ _)) (Nat.zero_le _)
  simp only [Session.ended, attemptResult, aloneInput, Except.mapError, invoke]
  cases hnext : (drive policy recursionLimit inputs (recursionLimit + 1) (start (initialState case run.id))).next with
  | node n => exact absurd hnext (hstop n)
  | finished | raised => rfl

/-- The end of an attempt is that of the call, and its session is closed. -/
theorem exec_finish {session : Session} (hf : sys.db.runs.find runId = some run) (hs : run.runStatus = .running)
    (hc : sys.db.cases.find run.recoveryCaseId = some case) (hfree : sys.sessions sid = none) (log : List Entry)
    (hended : session.ended = some (run, case, finalAttempt, attemptResult (aloneInput policy inputs faults) case run)) :
    exec (step settings) { sys.put sid (some session) with log := log } [.executeFinish sid faults] =
      some { sys with
        db := (executeAgentRun sys.db runId finalAttempt (aloneInput policy inputs faults)).1
        log := log } := by
  have hclosed : Function.update (Function.update sys.sessions sid (some session)) sid none = sys.sessions := by
    rw [Function.update_idem, ← hfree, Function.update_eq_self]
  have hinput : (aloneInput policy inputs faults).faults = faults := rfl
  rw [executeAgentRun_eq (loadAttempt_eq_some.mpr ⟨hf, hs, hc⟩), exec, hinput]
  simp only [step, Sys.put, Function.update_self, Option.bind_some, hended]
  cases attemptOutcome finalAttempt case run faults (attemptResult (aloneInput policy inputs faults) case run) with
  | committed w status => simp only [Sys.commit, Sys.put, hclosed, Option.bind_some, exec]
  | rolledBack => simp only [hclosed, Option.bind_some, exec]

theorem exec_alone (hf : sys.db.runs.find runId = some run) (hs : run.runStatus = .running)
    (hc : sys.db.cases.find run.recoveryCaseId = some case) (hfree : sys.sessions sid = none) :
    ∃ k ≤ recursionLimit + 1, ∃ effects : List Effect,
      exec (step settings) sys (aloneOps sid runId finalAttempt policy inputs k faults) =
        some { sys with
          db := (executeAgentRun sys.db runId finalAttempt (aloneInput policy inputs faults)).1
          log := effects.map (.effect case.id) ++ sys.log } := by
  cases policy with
  | error e =>
      refine ⟨0, Nat.zero_le _, [], ?_⟩
      rw [aloneOps, exec_append, exec_append, exec_loads hf hs hc hfree, Option.bind_some]
      exact exec_finish hf hs hc hfree sys.log rfl
  | ok policy =>
      have hopen : (sys.put sid (some (.attempt (begin run case policy finalAttempt hs)))).sessions sid =
          some (.attempt (begin run case policy finalAttempt hs)) := put_sessions ..
      obtain ⟨k, hk, effects, hnodes⟩ :=
        exec_nodes settings inputs (recursionLimit + 1) hopen (Nat.zero_le _)
          (Nat.lt_of_lt_of_le (Nat.lt_succ_self _) (Nat.le_add_left _ _))
      refine ⟨k, hk, effects, ?_⟩
      rw [aloneOps, exec_append, exec_append, exec_loads hf hs hc hfree, Option.bind_some, List.range_eq_range']
      simp only at hnodes ⊢
      change exec (step settings) (sys.put sid (some (opened run case finalAttempt hs (.ok policy))))
        ((List.range' 0 k).map fun i => .executeNode sid (inputs i)) = _ at hnodes
      rw [hnodes, Option.bind_some, put_put]
      exact exec_finish hf hs hc hfree _ (ended_attempt policy inputs faults hs)

/-- The database of a call of `execute_agent_run` for a run that is on. -/
inductive Called (db : Db) (run : AgentRun) (case : RecoveryCase) : Db → Prop
  | committed {w : Work} (hs : w.run.runStatus ≠ .running) (he : ∀ e ∈ w.events, FromAttempt case.id e) :
      Called db run case (commitWork db run case w)
  | rolledBack : Called db run case db

theorem executeAgentRun_called {db : Db} (hload : loadAttempt db runId = some (run, case)) (finalAttempt : Bool)
    (input : AttemptInput) : Called db run case (executeAgentRun db runId finalAttempt input).1 := by
  rw [executeAgentRun_eq hload]
  cases ho : attemptOutcome finalAttempt case run input.faults (attemptResult input case run) with
  | committed w status => exact .committed (committed_work ho).2.1 (committed_events ho)
  | rolledBack => exact .rolledBack

theorem Called.executed {db' : Db} (h : Called sys.db run case db') (hid : case.id = run.recoveryCaseId)
    (effects : List Effect) :
    Executed sys run db' { sys with db := db', log := effects.map (.effect case.id) ++ sys.log } := by
  refine ⟨rfl, rfl, ⟨effects, by rw [hid]⟩, ?_, fun id hne => ?_, fun id hne => ?_⟩
  · cases h with
    | @committed w hs he => exact ⟨w.events, rfl, fun e hmem => hid ▸ (he e hmem).recoveryCaseId⟩
    | rolledBack => exact ⟨[], rfl, fun e hmem => absurd hmem List.not_mem_nil⟩
  · cases h with
    | committed hs he => exact (find_run_commitWork ..).trans (if_neg hne)
    | rolledBack => rfl
  · cases h with
    | committed hs he => exact (find_case_commitWork ..).trans (if_neg (hid ▸ hne))
    | rolledBack => rfl

/-- Statements that nothing fails from outside do not lose the session. -/
theorem runStmts_unpoisoned (stmts : List Stmt) (w : Work) : runStmts none stmts w ≠ .poisoned := by
  induction stmts generalizing w with
  | nil => exact Ended.noConfusion
  | cons s stmts ih =>
      rw [runStmts]
      cases s.exec w with
      | ok w' => exact ih w'
      | error e => exact Ended.noConfusion

/-- The final attempt commits when the database does. -/
theorem attemptOutcome_final (policy : Except String PolicyConfig) (inputs : Nat → NodeInput) (case : RecoveryCase)
    (run : AgentRun) : ∃ w status,
      attemptOutcome true case run {} (attemptResult (aloneInput policy inputs {}) case run) = .committed w status := by
  have hraised (w : Work) (e : String) : ∃ w' status, conclude true {} (.raised w e) = .committed w' status := by
    simp only [conclude, runStmts_errorStmts]
    exact ⟨_, _, rfl⟩
  have hended : attemptEnded case run {} (attemptResult (aloneInput policy inputs {}) case run) ≠ .poisoned := by
    cases policy with
    | error e => exact Ended.noConfusion
    | ok policy =>
        unfold attemptResult aloneInput
        simp only [Except.mapError]
        cases invoke policy recursionLimit inputs (initialState case run.id) with
        | ok state => exact runStmts_unpoisoned _ _
        | error e => exact Ended.noConfusion
  rw [attemptOutcome]
  cases h : attemptEnded case run {} (attemptResult (aloneInput policy inputs {}) case run) with
  | done w => exact ⟨w, .completed, rfl⟩
  | raised w e => exact hraised w e
  | poisoned => exact absurd h hended

theorem ended_of_commit {db db' : Db} {w : Work} (hf : db.runs.find run.id = some run) (hs : run.runStatus = .running)
    (hw : w.run.runStatus ≠ .running) (hdb : db' = commitWork db run case w) :
    ∃ run', db'.runs.find run.id = some run' ∧ run'.runStatus ≠ .running := by
  have hstatus : (mergeRun run w.run run).runStatus = w.run.runStatus := NetChange.flush_changed (hs ▸ hw) _
  refine ⟨mergeRun run w.run run, ?_, hstatus ▸ hw⟩
  rw [hdb, find_run_commitWork, if_pos rfl, hf]
  rfl

/-- Sessions are opened one at a time. -/
theorem exists_free {customers : Table Uuid Customer Customer.id}
    (h : Reach (step settings) Any (init customers) sys) : ∃ n, ∀ sid, n ≤ sid → sys.sessions sid = none := by
  refine h.invariant (I := fun sys => ∃ n, ∀ sid, n ≤ sid → sys.sessions sid = none) ⟨0, fun sid _ => init_sessions sid⟩
    fun s op t _ ⟨n, hn⟩ _ hstep => ?_
  refine ⟨max n ((op.sid.map (· + 1)).getD 0), fun sid hsid => ?_⟩
  rw [sessions_kept hstep, hn sid (le_trans (le_max_left _ _) hsid)]
  intro hop
  rw [hop] at hsid
  simp only [Option.map_some, Option.getD_some] at hsid
  omega

/-- A run that is on can be finished, whatever has happened: from any reached state a free session that executes it
alone ends within the limit of the graph, with what one call of `execute_agent_run` gives, and nothing else is touched;
after the final attempt the run has ended, if the database works. -/
theorem run_finishes {customers : Table Uuid Customer Customer.id}
    (h : Reach (step settings) Any (init customers) sys) (hf : sys.db.runs.find runId = some run)
    (hs : run.runStatus = .running) :
    (∃ sid, sys.sessions sid = none) ∧
      ∀ sid, sys.sessions sid = none → ∀ finalAttempt policy inputs faults, ∃ k ≤ recursionLimit + 1, ∃ sys',
        exec (step settings) sys (aloneOps sid runId finalAttempt policy inputs k faults) = some sys' ∧
          Executed sys run (executeAgentRun sys.db runId finalAttempt (aloneInput policy inputs faults)).1 sys' ∧
          (finalAttempt = true → faults = {} →
            ∃ run', sys'.db.runs.find runId = some run' ∧ run'.runStatus ≠ .running) := by
  obtain ⟨n, hn⟩ := exists_free h
  refine ⟨⟨n, hn n le_rfl⟩, fun sid hfree finalAttempt policy inputs faults => ?_⟩
  obtain ⟨case, hc⟩ := Option.isSome_iff_exists.mp ((ledger_accounts h).owned runId run hf)
  obtain rfl : run.id = runId := Table.find_key hf
  have hid : case.id = run.recoveryCaseId := Table.find_key hc
  have hload := loadAttempt_eq_some.mpr ⟨hf, hs, hc⟩
  obtain ⟨k, hk, effects, hexec⟩ := exec_alone hf hs hc hfree
  refine ⟨k, hk, _, hexec, ?_, ?_⟩
  · exact (executeAgentRun_called hload finalAttempt (aloneInput policy inputs faults)).executed hid effects
  · rintro rfl rfl
    obtain ⟨w, status, hcommitted⟩ := attemptOutcome_final policy inputs case run
    have hfaults : (aloneInput policy inputs {}).faults = {} := rfl
    have hdb : (executeAgentRun sys.db run.id true (aloneInput policy inputs {})).1 = commitWork sys.db run case w := by
      rw [executeAgentRun_eq hload, hfaults, hcommitted]
    exact ended_of_commit hf hs (committed_work hcommitted).2.1 hdb

/-- A worker is lost in the middle of a run. -/
def interruptedOps : List Op :=
  RecoveryLedger.startedOps ++
    [.executeLoadRun 1 (.ofDigit 3) false, .executeLoadCase 1 (.ok PolicyGate.samplePolicy), .executeNode 1 {}, .lost 1]

def interruptedSys : Sys :=
  (exec (step RecoveryLedger.sampleSettings) (init Table.empty) interruptedOps).getD (init Table.empty)

def interruptedRun : AgentRun := { id := .ofDigit 3, recoveryCaseId := .ofDigit 1 }

theorem run_finishes_sample : ∃ k ≤ recursionLimit + 1, ∃ sys',
    exec (step RecoveryLedger.sampleSettings) interruptedSys
        (aloneOps 1 (.ofDigit 3) true (.ok PolicyGate.samplePolicy) (fun _ => {}) k {}) = some sys' ∧
      ∃ run', sys'.db.runs.find (.ofDigit 3) = some run' ∧ run'.runStatus ≠ .running := by
  have hreach : Reach (step RecoveryLedger.sampleSettings) Any (init Table.empty) interruptedSys :=
    reach_getD _ (fun _ _ _ => trivial) (by decide +kernel)
  have hrun : interruptedSys.db.runs.find (.ofDigit 3) = some interruptedRun := rfl
  obtain ⟨k, hk, sys', hexec, -, hended⟩ := (run_finishes hreach hrun rfl).2 1 rfl true
    (.ok PolicyGate.samplePolicy) (fun _ => {}) {}
  exact ⟨k, hk, sys', hexec, hended rfl rfl⟩

end RevenueRescue.Progress
