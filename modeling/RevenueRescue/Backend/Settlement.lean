import RevenueRescue.Backend.RecoveryService

namespace RevenueRescue.RecoveryService

open Enums PolicySchema AgentSchemas Models

/-- The statements of `_apply_agent_result` that take effect in an attempt. -/
def written (case : RecoveryCase) (faults : Faults) : Except Failure AgentState → List Stmt
  | .ok state => carriedOut faults.apply (applyAgentResult case.id state)
  | .error _ => []

def Conforms (caseId : Uuid) (state : AgentState) : Stmt → Prop
  | .runStatus status => status = .completed
  | .isRecovered b => b = state.caseIsRecovered
  | .isStopped b => b = state.caseIsStopped
  | .amountRecovered n =>
      state.caseIsRecovered = true ∧ ∃ v ∈ state.verificationResult, n = v.amountRecoveredPaise
  | .record a =>
      a.recoveryCaseId = some caseId.str ∧ (a.eventType = .revenueRecovered →
        state.caseIsRecovered = true ∧ ∃ v ∈ state.verificationResult, a = revenueRecovered caseId v)
  | .recordGuarded a => a.recoveryCaseId = some caseId.str ∧ a.eventType = .agentRunCompleted
  | _ => True

variable {caseId : Uuid} {state : AgentState} {case : RecoveryCase} {run : AgentRun} {faults : Faults}
variable {result : Except Failure AgentState} {finalAttempt : Bool} {w : Work} {s : Stmt}
variable {status : RunStatus}

theorem settleStmts_conforms (hs : s ∈ settleStmts caseId state) : Conforms caseId state s := by
  unfold settleStmts at hs
  split at hs
  · rename_i v hr hv
    simp only [List.mem_cons, List.not_mem_nil, or_false] at hs
    rcases hs with rfl | rfl | rfl
    · exact ⟨hr, v, hv, rfl⟩
    · trivial
    · exact ⟨rfl, fun _ => ⟨hr, v, hv, rfl⟩⟩
  · split at hs
    · simp only [List.mem_cons, List.not_mem_nil, or_false] at hs
      rcases hs with rfl | rfl | rfl
      · trivial
      · trivial
      · exact ⟨rfl, nofun⟩
    · split at hs
      · obtain rfl := List.mem_singleton.mp hs
        trivial
      · cases hs

theorem openingStmts_conforms (hs : s ∈ openingStmts state) : Conforms caseId state s := by
  simp only [openingStmts, List.mem_append, List.mem_cons, List.not_mem_nil, or_false,
    Option.mem_toList, Option.map_eq_some_iff] at hs
  rcases hs with ((h | ⟨d, -, rfl⟩) | ⟨d, -, rfl⟩) | ⟨d, -, rfl⟩
  · rcases h with rfl | rfl | rfl | rfl | rfl | rfl | rfl <;> trivial
  · trivial
  · trivial
  · trivial

theorem applyAgentResult_conforms (hs : s ∈ applyAgentResult caseId state) : Conforms caseId state s := by
  simp only [applyAgentResult, List.mem_append, List.mem_cons, List.not_mem_nil, or_false] at hs
  rcases hs with (h | h) | rfl | rfl
  · exact openingStmts_conforms h
  · exact settleStmts_conforms h
  · trivial
  · exact ⟨rfl, rfl⟩

theorem written_ok : written case faults (.ok state) =
    carriedOut faults.apply (applyAgentResult case.id state) := rfl

theorem written_conforms (hs : s ∈ written case faults result) :
    ∃ state, result = .ok state ∧ Conforms case.id state s := by
  cases result with
  | error f => cases hs
  | ok state => exact ⟨state, rfl, applyAgentResult_conforms ((carriedOut_sublist _ _).subset hs)⟩

theorem apply_ids (s : Stmt) (w : Work) : (s.apply w).case.id = w.case.id := by
  cases s with
  | record a => rw [apply_record]
  | recordGuarded a => rw [apply_recordGuarded]
  | _ => rfl

theorem apply_isRecovered (s : Stmt) (w : Work) :
    (s.apply w).case.isRecovered = w.case.isRecovered ∨ s = .isRecovered (s.apply w).case.isRecovered := by
  cases s with
  | record a => rw [apply_record]; exact .inl rfl
  | recordGuarded a => rw [apply_recordGuarded]; exact .inl rfl
  | isRecovered b => exact .inr rfl
  | _ => exact .inl rfl

theorem apply_amountRecovered (s : Stmt) (w : Work) :
    (s.apply w).case.amountRecoveredPaise = w.case.amountRecoveredPaise ∨
      s = .amountRecovered (s.apply w).case.amountRecoveredPaise := by
  cases s with
  | record a => rw [apply_record]; exact .inl rfl
  | recordGuarded a => rw [apply_recordGuarded]; exact .inl rfl
  | amountRecovered n => exact .inr rfl
  | _ => exact .inl rfl

theorem apply_isStopped (s : Stmt) (w : Work) :
    (s.apply w).case.isStopped = w.case.isStopped ∨ s = .isStopped (s.apply w).case.isStopped := by
  cases s with
  | record a => rw [apply_record]; exact .inl rfl
  | recordGuarded a => rw [apply_recordGuarded]; exact .inl rfl
  | isStopped b => exact .inr rfl
  | _ => exact .inl rfl

theorem apply_status (s : Stmt) (w : Work) :
    (s.apply w).case.status = w.case.status ∨ s = .status (s.apply w).case.status := by
  cases s with
  | record a => rw [apply_record]; exact .inl rfl
  | recordGuarded a => rw [apply_recordGuarded]; exact .inl rfl
  | status x => exact .inr rfl
  | _ => exact .inl rfl

theorem done_completed (h : runStmts faults.apply (applyAgentResult case.id state) ⟨run, case, []⟩ = .done w) :
    w.run.runStatus = .completed := by
  have hmem : Stmt.runStatus .completed ∈ carriedOut faults.apply (applyAgentResult case.id state) := by
    generalize faults.apply = fault at h
    rcases fault with _ | ⟨_ | k, _ | _⟩
    · exact List.mem_cons_self
    · cases h
    · cases h
    · exact List.mem_cons_self
    · exact List.mem_cons_self
  have hw : w ∈ (runStmts faults.apply (applyAgentResult case.id state) ⟨run, case, []⟩).work := by
    rw [h]; rfl
  rw [runStmts_work hw]
  refine foldl_sets (f := fun w => w.run.runStatus) (fun s hs w => ?_) hmem (fun _ => rfl) _
  have hc := applyAgentResult_conforms ((carriedOut_sublist _ _).subset hs)
  cases s with
  | runStatus status => exact .inr hc
  | record a => rw [apply_record]; exact .inl rfl
  | recordGuarded a => rw [apply_recordGuarded]; exact .inl rfl
  | _ => exact .inl rfl

/-- What an attempt commits: the case as the statements that took effect left
it, their events, and at most the event of the `except` branch. Its run is no
longer running. -/
theorem committed_work (h : attemptOutcome finalAttempt case run faults result = .committed w status) :
    w.case = ((written case faults result).foldl Stmt.apply ⟨run, case, []⟩).case ∧
      w.run.runStatus ≠ .running ∧
      ∃ extra, w.events = extra ++ ((written case faults result).filterMap eventOf).reverse ∧
        ∀ e ∈ extra, ∃ text, e = errorEvent case.id text := by
  have hwork {w0 : Work} (h0 : w0 ∈ (attemptEnded case run faults result).work) :
      w0 = (written case faults result).foldl Stmt.apply ⟨run, case, []⟩ := by
    cases result with
    | ok state => exact runStmts_work h0
    | error f => cases f with
      | exception e => simpa [attemptEnded, Ended.work, written, eq_comm] using h0
      | database => cases h0
  unfold attemptOutcome at h
  cases hend : attemptEnded case run faults result with
  | poisoned => rw [hend] at h; cases h
  | done w0 =>
      have h0 : w0 = _ := hwork (by rw [hend]; rfl)
      rw [hend] at h
      simp only [conclude, commit] at h
      split at h
      · cases h
      · cases h
        refine ⟨congrArg Work.case h0, ?_, [], ?_, by simp⟩
        · cases result with
          | ok state => rw [done_completed hend]; decide
          | error f => cases f <;> cases hend
        · rw [h0, foldl_events]
          simp
  | raised w0 e =>
      have h0 : w0 = _ := hwork (by rw [hend]; rfl)
      have hid : w0.case.id = case.id := by
        rw [h0]
        exact List.foldlRecOn (written case faults result) Stmt.apply (b := ⟨run, case, []⟩)
          (motive := fun w => w.case.id = case.id) rfl fun w hw s _ => (apply_ids s w).trans hw
      rw [hend] at h
      simp only [conclude, runStmts_errorStmts, commit] at h
      split at h
      · split at h
        · cases h
        · cases h
          have hcase : w0.case = _ := congrArg Work.case h0
          refine ⟨hcase, by simp, [errorEvent case.id (truncateError e)], ?_, ?_⟩
          · change errorEvent w0.case.id (truncateError e) :: w0.events = _
            rw [hid, h0, foldl_events]
            simp
          · exact fun e he => ⟨_, List.mem_singleton.mp he⟩
      · cases h

theorem committed_value {β : Type} {f : RecoveryCase → β} {assign : β → Stmt}
    (hf : ∀ s w, f (Stmt.apply w s).case = f w.case ∨ s = assign (f (Stmt.apply w s).case))
    (h : attemptOutcome finalAttempt case run faults result = .committed w status) :
    f w.case = f case ∨ assign (f w.case) ∈ written case faults result := by
  rw [(committed_work h).1]
  refine List.foldlRecOn (written case faults result) Stmt.apply (b := ⟨run, case, []⟩)
    (motive := fun w => f w.case = f case ∨ assign (f w.case) ∈ written case faults result) (.inl rfl)
    fun w hw s hs => ?_
  rcases hf s w with h | h
  · rw [h]
    exact hw
  · exact .inr (h ▸ hs)

def isOpening : Stmt → Bool
  | .amountRecovered _ | .status _ | .escalationReason _ | .flush | .record _ | .recordGuarded _ => false
  | _ => true

theorem isOpening_of_mem (hs : s ∈ openingStmts state) : isOpening s = true := by
  simp only [openingStmts, List.mem_append, List.mem_cons, List.not_mem_nil, or_false,
    Option.mem_toList, Option.map_eq_some_iff] at hs
  rcases hs with ((h | ⟨d, -, rfl⟩) | ⟨d, -, rfl⟩) | ⟨d, -, rfl⟩
  · rcases h with rfl | rfl | rfl | rfl | rfl | rfl | rfl <;> rfl
  · rfl
  · rfl
  · rfl

theorem isGuarded_of_isOpening (h : isOpening s = true) : isGuarded s = false := by
  cases s with
  | recordGuarded a => cases h
  | _ => rfl

theorem isRecovered_mem_openingStmts (state : AgentState) :
    Stmt.isRecovered state.caseIsRecovered ∈ openingStmts state := by
  simp [openingStmts]

theorem opening_written {rest : List Stmt} {fault : Option (Nat × Failure)} {t : Stmt}
    (ht : t ∈ carriedOut fault (openingStmts state ++ rest)) (hn : isOpening t = false) :
    ∀ s ∈ openingStmts state, s ∈ carriedOut fault (openingStmts state ++ rest) :=
  carriedOut_front (fun _ hs => isGuarded_of_isOpening (isOpening_of_mem hs)) ht fun hm => by
    rw [isOpening_of_mem hm] at hn
    cases hn

theorem isRecovered_written {n : Int} (h : .amountRecovered n ∈ written case faults (.ok state)) :
    .isRecovered true ∈ written case faults (.ok state) := by
  obtain ⟨_, hstate, hr, -⟩ := written_conforms h
  cases hstate
  have hmem := isRecovered_mem_openingStmts state
  rw [hr] at hmem
  rw [written_ok, applyAgentResult, List.append_assoc] at h ⊢
  exact opening_written h rfl _ hmem

theorem settle_of_written (hs : s ∈ written case faults (.ok state)) (hn : isOpening s = false) :
    s ∈ settleStmts case.id state ∨ s = .flush ∨ isGuarded s = true := by
  have hmem := (carriedOut_sublist _ _).subset hs
  simp only [applyAgentResult, List.mem_append, List.mem_cons, List.not_mem_nil, or_false] at hmem
  rcases hmem with (h | h) | h | h
  · rw [isOpening_of_mem h] at hn
    cases hn
  · exact .inl h
  · exact .inr (.inl h)
  · exact .inr (.inr (by rw [h]; rfl))

theorem isStopped_of_settled {x : RecoveryCaseStatus} (hst : state.caseIsStopped = true)
    (h : attemptOutcome finalAttempt case run faults (.ok state) = .committed w status)
    (hx : .status x ∈ written case faults (.ok state)) : w.case.isStopped = true := by
  have hmem : Stmt.isStopped true ∈ written case faults (.ok state) := by
    have hmem : Stmt.isStopped state.caseIsStopped ∈ openingStmts state := by simp [openingStmts]
    rw [written_ok, applyAgentResult, List.append_assoc] at hx ⊢
    exact opening_written hx rfl _ (hst ▸ hmem)
  rw [(committed_work h).1]
  refine foldl_sets (f := fun w => w.case.isStopped) (fun s hs w => ?_) hmem (fun _ => rfl) _
  rcases apply_isStopped s w with h | h
  · exact .inl h
  · obtain ⟨_, hstate, hconf⟩ := written_conforms (h ▸ hs)
    cases hstate
    exact .inr (hconf.trans hst)

theorem opening_of_written {k : Nat} {f : Failure} (hf : faults.apply = some (k, f))
    (hk : k ≤ (openingStmts state).length) (hs : s ∈ written case faults (.ok state)) :
    isOpening s = true := by
  have hsettle (t : Stmt) (ht : t ∈ settleStmts case.id state) : isGuarded t = false := by
    cases t with
    | recordGuarded a =>
        unfold settleStmts at ht
        split at ht
        · simp at ht
        · split at ht
          · simp at ht
          · split at ht <;> simp at ht
    | _ => rfl
  have hg : ∀ t ∈ openingStmts state ++ (settleStmts case.id state ++ [Stmt.flush]), isGuarded t = false := by
    intro t ht
    simp only [List.mem_append, List.mem_singleton] at ht
    rcases ht with ht | ht | rfl
    · exact isGuarded_of_isOpening (isOpening_of_mem ht)
    · exact hsettle t ht
    · rfl
  have hsplit : applyAgentResult case.id state =
      (openingStmts state ++ (settleStmts case.id state ++ [Stmt.flush])) ++
        (applyAgentResult case.id state).drop
          (openingStmts state ++ (settleStmts case.id state ++ [Stmt.flush])).length := by
    simp [applyAgentResult]
  rw [written_ok, hsplit, hf] at hs
  have htake := carriedOut_stopped hg (by simp only [List.length_append, List.length_singleton]; omega) hs
  rw [List.take_append_of_le_length hk] at htake
  exact isOpening_of_mem (List.mem_of_mem_take htake)

def isRecoveryStmt : Stmt → Bool
  | .record a => a.eventType = .revenueRecovered
  | _ => false

def recoveryFront (state : AgentState) (v : VerificationResult) : List Stmt :=
  openingStmts state ++ [.amountRecovered v.amountRecoveredPaise, .status .recovered]

/-- The places of `is_recovered` and of the record of a recovery in `_apply_agent_result`. -/
def flagAt : Nat := 5

def recordAt (state : AgentState) : Nat := (openingStmts state).length + 2

theorem applyAgentResult_split (caseId : Uuid) {v : VerificationResult} (hr : state.caseIsRecovered = true)
    (hv : state.verificationResult = some v) : ∃ rest,
      applyAgentResult caseId state = recoveryFront state v ++ .record (revenueRecovered caseId v) :: rest := by
  refine ⟨(applyAgentResult caseId state).drop ((openingStmts state).length + 3), ?_⟩
  simp [applyAgentResult, settleStmts, hr, hv, recoveryFront]

theorem recoveryFront_plain {v : VerificationResult} (hs : s ∈ recoveryFront state v) :
    sound s = true ∧ isGuarded s = false ∧ isRecoveryStmt s = false := by
  rcases List.mem_append.mp hs with hs | hs
  · have hs := isOpening_of_mem hs
    cases s with
    | record a | recordGuarded a => cases hs
    | _ => exact ⟨rfl, rfl, rfl⟩
  · simp only [List.mem_cons, List.not_mem_nil, or_false] at hs
    rcases hs with rfl | rfl <;> exact ⟨rfl, rfl, rfl⟩

theorem amountRecovered_written {v : VerificationResult} (hr : state.caseIsRecovered = true)
    (hv : state.verificationResult = some v)
    (h : .record (revenueRecovered case.id v) ∈ written case faults (.ok state)) :
    .amountRecovered v.amountRecoveredPaise ∈ written case faults (.ok state) := by
  obtain ⟨rest, hsplit⟩ := applyAgentResult_split case.id hr hv
  rw [written_ok, hsplit] at h ⊢
  refine carriedOut_front (fun s hs => (recoveryFront_plain hs).2.1) h (fun hm => ?_) _ (by simp [recoveryFront])
  cases (recoveryFront_plain hm).2.2

theorem sound_revenueRecovered (caseId : Uuid) (v : VerificationResult) :
    sound (.record (revenueRecovered caseId v)) = (uuidArg v.transactionId).isOk := by
  simp only [sound, auditEvent, revenueRecovered, uuidArg_str, uuidArg_none]
  cases uuidArg v.transactionId <;> rfl

theorem record_written {v : VerificationResult} (hr : state.caseIsRecovered = true)
    (hv : state.verificationResult = some v) (hu : (uuidArg v.transactionId).isOk = true)
    (hf : ∀ k f, faults.apply = some (k, f) → recordAt state < k) :
    .record (revenueRecovered case.id v) ∈ written case faults (.ok state) := by
  have hlen : (recoveryFront state v).length = recordAt state := List.length_append
  obtain ⟨rest, hsplit⟩ := applyAgentResult_split case.id hr hv
  rw [written_ok, hsplit]
  exact mem_carriedOut (fun s hs => (recoveryFront_plain hs).1)
    ((sound_revenueRecovered case.id v).trans hu) (hlen ▸ hf)

theorem flag_not_written {k : Nat} {f : Failure} (hf : faults.apply = some (k, f)) (hk : k ≤ flagAt)
    (b : Bool) : .isRecovered b ∉ written case faults (.ok state) := by
  intro hmem
  have hlen : flagAt < (openingStmts state).length := by
    simp only [openingStmts, flagAt, List.length_append, List.length_cons]
    omega
  rw [written_ok, applyAgentResult, List.append_assoc, hf] at hmem
  have htake := carriedOut_stopped (fun s hs => isGuarded_of_isOpening (isOpening_of_mem hs))
    (Nat.lt_of_le_of_lt hk hlen) hmem
  have hfive : Stmt.isRecovered b ∈ (openingStmts state).take flagAt :=
    List.take_subset_take_left _ hk htake
  simp [openingStmts, flagAt] at hfive

theorem auditEvent_ok {a : AuditArgs} {e : AuditEvent} (h : auditEvent a = .ok e) :
    uuidArg a.recoveryCaseId = .ok e.recoveryCaseId ∧ e.eventType = a.eventType ∧
      e.amountPaise = a.amountPaise ∧ e.currency = a.currency := by
  unfold auditEvent at h
  cases hc : uuidArg a.recoveryCaseId with
  | error x => rw [hc] at h; cases h
  | ok c =>
      cases ht : uuidArg a.transactionId with
      | error x => rw [hc, ht] at h; cases h
      | ok t =>
          cases hr : uuidArg a.agentRunId with
          | error x => rw [hc, ht, hr] at h; cases h
          | ok r => rw [hc, ht, hr] at h; cases h; exact ⟨rfl, rfl, rfl, rfl⟩

theorem toOption_eq_some {a : AuditArgs} {e : AuditEvent} (h : (auditEvent a).toOption = some e) :
    auditEvent a = .ok e := by
  cases ha : auditEvent a with
  | ok e' => rw [ha] at h; cases h; rfl
  | error x => rw [ha] at h; cases h

theorem isRecoveryOf_event {e : AuditEvent} (hs : Conforms case.id state s) (he : eventOf s = some e)
    (id : Uuid) : isRecoveryOf id e = (decide (id = case.id) && isRecoveryStmt s) := by
  cases s with
  | record a =>
      have hs : a.recoveryCaseId = some case.id.str := hs.1
      obtain ⟨hid, htype, -, -⟩ := auditEvent_ok (toOption_eq_some he)
      rw [hs, uuidArg_str] at hid
      simp [isRecoveryOf, isRecoveryStmt, ← Except.ok.inj hid, htype, eq_comm]
  | recordGuarded a =>
      obtain ⟨-, htype, -, -⟩ := auditEvent_ok (toOption_eq_some he)
      have hs : a.eventType = .agentRunCompleted := hs.2
      simp [isRecoveryOf, isRecoveryStmt, htype, hs]
  | _ => cases he

theorem filter_events {l : List Stmt} (hl : ∀ s ∈ l, Conforms case.id state s) (id : Uuid) :
    (l.filterMap eventOf).filter (isRecoveryOf id) =
      if id = case.id then (l.filter isRecoveryStmt).filterMap eventOf else [] := by
  induction l with
  | nil => simp
  | cons s l ih =>
      have ih := ih fun s hs => hl s (List.mem_cons_of_mem _ hs)
      cases he : eventOf s with
      | none =>
          rw [List.filterMap_cons_none he, ih]
          cases hr : isRecoveryStmt s <;> simp [hr, he]
      | some e =>
          have hrec := isRecoveryOf_event (hl s List.mem_cons_self) he id
          rw [List.filterMap_cons_some he, List.filter_cons, hrec, ih]
          by_cases hid : id = case.id
          · cases hr : isRecoveryStmt s <;> simp [hid, hr, he]
          · simp [hid]

theorem applyAgentResult_recovery {v : VerificationResult} (hr : state.caseIsRecovered = true)
    (hv : state.verificationResult = some v) :
    (applyAgentResult caseId state).filter isRecoveryStmt = [.record (revenueRecovered caseId v)] := by
  have hopening : (openingStmts state).filter isRecoveryStmt = [] :=
    List.filter_eq_nil_iff.mpr fun s hs h => by
      have hs := isOpening_of_mem hs
      cases s with
      | record a => cases hs
      | _ => cases h
  simp [applyAgentResult, settleStmts, hr, hv, hopening, isRecoveryStmt, revenueRecovered]

theorem committed_recoveries (h : attemptOutcome finalAttempt case run faults result = .committed w status)
    (id : Uuid) :
    w.events.filter (isRecoveryOf id) = if id = case.id then
      (((written case faults result).filter isRecoveryStmt).filterMap eventOf).reverse else [] := by
  obtain ⟨-, -, extra, hevents, hextra⟩ := committed_work h
  have hnone : extra.filter (isRecoveryOf id) = [] :=
    List.filter_eq_nil_iff.mpr fun e he => by
      obtain ⟨text, rfl⟩ := hextra e he
      simp [isRecoveryOf, errorEvent]
  rw [hevents, List.filter_append, hnone, List.nil_append, List.filter_reverse]
  cases result with
  | error f => simp [written]
  | ok state =>
      have hall : ∀ s ∈ written case faults (.ok state), Conforms case.id state s := fun s hs => by
        obtain ⟨_, hstate, hc⟩ := written_conforms hs
        cases hstate
        exact hc
      rw [filter_events hall id]
      split <;> rfl

theorem committed_recovered {v : VerificationResult} (hr : state.caseIsRecovered = true)
    (hv : state.verificationResult = some v)
    (h : attemptOutcome finalAttempt case run faults (.ok state) = .committed w status)
    (hw : .record (revenueRecovered case.id v) ∈ written case faults (.ok state)) :
    ∃ e, w.events.filter (isRecoveryOf case.id) = [e] ∧ e.amountPaise = some v.amountRecoveredPaise ∧
      e.currency = "INR" := by
  have hsub : ((written case faults (.ok state)).filter isRecoveryStmt).Sublist
      [.record (revenueRecovered case.id v)] := by
    rw [← applyAgentResult_recovery hr hv, written_ok]
    exact (carriedOut_sublist _ _).filter _
  have hfilter : (written case faults (.ok state)).filter isRecoveryStmt =
      [.record (revenueRecovered case.id v)] := by
    rcases List.sublist_singleton.mp hsub with h | h
    · exact absurd (List.mem_filter.mpr ⟨hw, rfl⟩) (by rw [h]; simp)
    · exact h
  have hsound : sound (.record (revenueRecovered case.id v)) = true := carriedOut_sound hw
  obtain ⟨e, he⟩ : ∃ e, auditEvent (revenueRecovered case.id v) = .ok e := by
    change (auditEvent (revenueRecovered case.id v)).isOk = true at hsound
    cases ha : auditEvent (revenueRecovered case.id v) with
    | ok e => exact ⟨e, rfl⟩
    | error x => rw [ha] at hsound; cases hsound
  obtain ⟨-, -, hamount, hcurrency⟩ := auditEvent_ok he
  refine ⟨e, ?_, hamount, hcurrency⟩
  rw [committed_recoveries h, if_pos rfl, hfilter]
  simp [eventOf, he, Except.toOption]

end RevenueRescue.RecoveryService
