import RevenueRescue.Backend.Ledger
import RevenueRescue.Backend.Writes
import RevenueRescue.Foundation.History

namespace RevenueRescue.AuditTrail

open Enums PolicySchema Models RecoveryService RazorpayCheckout RecoverySystem Machine History

/-- What later writes leave of a case: all that its event said, a recovery and
its payment, and an order that names something. -/
structure Persists (case case' : RecoveryCase) : Prop where
  customerId : case'.customerId = case.customerId
  scenario : case'.scenario = case.scenario
  failureReason : case'.failureReason = case.failureReason
  amountAtRiskPaise : case'.amountAtRiskPaise = case.amountAtRiskPaise
  currency : case'.currency = case.currency
  sourceEventKey : case'.sourceEventKey = case.sourceEventKey
  isRecovered : case.isRecovered = true → case'.isRecovered = true
  razorpayPaymentId : case.isRecovered = true → case'.razorpayPaymentId = case.razorpayPaymentId
  razorpayOrderId : ∀ orderId, case.razorpayOrderId = some orderId → orderId ≠ "" →
    case'.razorpayOrderId = some orderId

structure Continues (db db' : Db) : Prop where
  audit : db.audit <:+ db'.audit
  cases : ∀ id case, db.cases.find id = some case → ∃ case', db'.cases.find id = some case' ∧ Persists case case'
  runs : ∀ id run, db.runs.find id = some run → ∃ run', db'.runs.find id = some run' ∧
    run'.recoveryCaseId = run.recoveryCaseId ∧ (run.runStatus ≠ .running → run'.runStatus ≠ .running)

variable {settings : Settings} {db db' : Db} {sys sys' : Sys} {op : Op} {case held stored : RecoveryCase}
  {run : AgentRun} {id : Uuid} {e : AuditEvent}

theorem Persists.refl (case : RecoveryCase) : Persists case case :=
  ⟨rfl, rfl, rfl, rfl, rfl, rfl, id, fun _ => rfl, fun _ h _ => h⟩

theorem Persists.trans {a b c : RecoveryCase} (h : Persists a b) (h' : Persists b c) : Persists a c where
  customerId := h'.customerId.trans h.customerId
  scenario := h'.scenario.trans h.scenario
  failureReason := h'.failureReason.trans h.failureReason
  amountAtRiskPaise := h'.amountAtRiskPaise.trans h.amountAtRiskPaise
  currency := h'.currency.trans h.currency
  sourceEventKey := h'.sourceEventKey.trans h.sourceEventKey
  isRecovered := h'.isRecovered ∘ h.isRecovered
  razorpayPaymentId hr := (h'.razorpayPaymentId (h.isRecovered hr)).trans (h.razorpayPaymentId hr)
  razorpayOrderId orderId ho hne := h'.razorpayOrderId orderId (h.razorpayOrderId orderId ho hne) hne

theorem persists_merge (hr : case.isRecovered = true → held.isRecovered = true) (stored : RecoveryCase) :
    Persists stored (mergeCase case held stored) := by
  refine ⟨rfl, rfl, rfl, rfl, rfl, rfl, fun hs => ?_, fun _ => rfl, fun _ ho _ => ho⟩
  change NetChange.flush case.isRecovered held.isRecovered stored.isRecovered = true
  unfold NetChange.flush
  split
  · exact hs
  · rename_i hne
    cases hc : case.isRecovered with
    | true => exact hr hc
    | false => simpa [hc] using hne

theorem persists_ordered {orderId : String} (ho : Orderless case) : Persists case (ordered orderId case) := by
  refine ⟨rfl, rfl, rfl, rfl, rfl, rfl, id, fun _ => rfl, fun other hother hne => ?_⟩
  simp [Orderless, hother, hne] at ho

theorem persists_captured {paymentId : String} {amountPaise : Int} (hr : case.isRecovered = false) :
    Persists case (captured paymentId amountPaise case) :=
  ⟨rfl, rfl, rfl, rfl, rfl, rfl, fun _ => rfl, fun h => by simp [hr] at h, fun _ h _ => h⟩

theorem continues_cases {f : RecoveryCase → RecoveryCase} {key : Uuid} (hf : ∀ c, (f c).id = c.id)
    (hp : ∀ c, db.cases.find key = some c → Persists c (f c)) (h : db.cases.find id = some case) :
    ∃ case', (db.cases.update key f hf).find id = some case' ∧ Persists case case' := by
  rw [Table.find_update]
  split
  · rename_i hid
    rw [h]
    exact ⟨f case, rfl, hp case (hid ▸ h)⟩
  · exact ⟨case, h, .refl case⟩

theorem runs_kept (hr : db'.runs = db.runs) : ∀ k run, db.runs.find k = some run → ∃ run',
    db'.runs.find k = some run' ∧ run'.recoveryCaseId = run.recoveryCaseId ∧
      (run.runStatus ≠ .running → run'.runStatus ≠ .running) :=
  fun _ run hf => ⟨run, hr ▸ hf, rfl, id⟩

theorem Continues.same (h : db'.cases = db.cases) (hr : db'.runs = db.runs) (ha : db.audit <:+ db'.audit) :
    Continues db db' :=
  ⟨ha, fun _ case hf => ⟨case, h ▸ hf, .refl case⟩, runs_kept hr⟩

theorem written_continues {subject : Option Uuid} (h : Written db subject db') : Continues db db' := by
  refine ⟨?_, fun key case hc => ?_, fun key run hf => written_runs h key hf⟩
  · cases h with
    | kept | ordered => exact List.suffix_rfl
    | created | started | refused | escalated => exact List.suffix_cons _ _
    | captured => exact ⟨[_, _], rfl⟩
    | @finished loaded case w => exact ⟨w.events, rfl⟩
  · cases h with
    | kept | started | refused => exact ⟨case, hc, .refl case⟩
    | created customers hi =>
        refine ⟨case, ?_, .refl case⟩
        rw [Table.find_insert hi]
        split
        · rename_i hid
          rw [← hid, Table.find_none_of_insert hi] at hc
          cases hc
        · exact hc
    | @ordered held orderId hf ho ht =>
        refine continues_cases (ordered_id orderId) (fun c hfind => ?_) hc
        rw [hf] at hfind
        cases hfind
        exact persists_ordered ho
    | @captured held orderId paymentId success recovered webhooks _ hf hr =>
        refine continues_cases (captured_id paymentId held.amountAtRiskPaise) (fun c hfind => ?_) hc
        rw [hf] at hfind
        cases hfind
        exact persists_captured hr
    | @escalated loaded reason =>
        have hkept (c : RecoveryCase) : Persists c (mergeCase loaded (RecoveryService.escalated reason loaded) c) := by
          refine persists_merge ?_ c
          exact fun h => h
        exact continues_cases (mergeCase_id loaded _) (fun c _ => hkept c) hc
    | @finished loaded held w _ _ hr => exact continues_cases (mergeCase_id held w.case) (fun c _ => persists_merge hr c) hc

theorem Continues.trans {a b c : Db} (h : Continues a b) (h' : Continues b c) : Continues a c where
  audit := h.audit.trans h'.audit
  cases k case hf := by
    obtain ⟨case', hf', hp⟩ := h.cases k case hf
    obtain ⟨case'', hf'', hp'⟩ := h'.cases k case' hf'
    exact ⟨case'', hf'', hp.trans hp'⟩
  runs k run hf := by
    obtain ⟨run', hf', hid, hs⟩ := h.runs k run hf
    obtain ⟨run'', hf'', hid', hs'⟩ := h'.runs k run' hf'
    exact ⟨run'', hf'', hid'.trans hid, hs' ∘ hs⟩

/-- An invariant of the database holds in every reached state when every write keeps it. -/
theorem db_invariant {customers : Table Uuid Customer Customer.id} {I : Db → Prop} (h0 : I { customers := customers })
    (hw : ∀ db subject db', I db → Written db subject db' → I db')
    (h : Reach (step settings) Any (init customers) sys) : I sys.db :=
  h.invariant (I := fun sys => I sys.db) h0 fun _ _ _ hr hi _ hs =>
    hw _ _ _ hi (step_written (sound_of_reach hr) hs)

/-- Nothing is taken back: from any reached state on, whatever happens, the
ledger only grows, no case and no run is lost, none of them changes what it is
about, and no run starts again. -/
theorem history_kept {customers : Table Uuid Customer Customer.id}
    (h : Reach (step settings) Any (init customers) sys) (h' : Reach (step settings) Any sys sys') :
    Continues sys.db sys'.db :=
  (h'.invariant (I := fun sys' => Sound sys' ∧ Continues sys.db sys'.db)
    ⟨sound_of_reach h, .same rfl rfl List.suffix_rfl⟩ fun _ _ _ _ hi _ hs =>
      ⟨sound_step hi.1 hs, hi.2.trans (written_continues (step_written hi.1 hs))⟩).2

def secondFailure : PaymentFailedEvent := { RecoveryLedger.sampleFailure with idempotencyKey := "evt_2" }

def laterSys : Sys :=
  (exec (step RecoveryLedger.sampleSettings) RecoveryLedger.capturedSys
    [.paymentFailed (.ofDigit 4) secondFailure, .escalateLoad 0 (.ofDigit 1) "reviewed",
      .escalateCommit 0]).getD RecoveryLedger.capturedSys

theorem laterSys_reach : Reach (step RecoveryLedger.sampleSettings) Any RecoveryLedger.capturedSys laterSys :=
  reach_getD _ (fun _ _ _ => trivial) (by decide +kernel)

theorem history_kept_sample : Continues RecoveryLedger.capturedSys.db laterSys.db :=
  history_kept RecoveryLedger.capturedSys_reach laterSys_reach

def isCreation (caseId : Uuid) (e : AuditEvent) : Bool :=
  e.eventType = .caseCreated && e.recoveryCaseId = some caseId

def isStart (runId : Uuid) (e : AuditEvent) : Bool :=
  e.eventType = .agentRunStarted && e.agentRunId = some runId

/-- An event is the creation of its case, or comes after it. -/
def AfterCreation (e : AuditEvent) (past : List AuditEvent) : Prop :=
  ∃ caseId, e.recoveryCaseId = some caseId ∧ (isCreation caseId e = true ∨ ∃ c ∈ past, isCreation caseId c = true)

/-- The ledger tells which cases and runs there are. -/
structure Accounted (db : Db) : Prop where
  opened : Throughout AfterCreation db.audit
  creations : ∀ id, db.audit.countP (isCreation id) = if (db.cases.find id).isSome then 1 else 0
  starts : ∀ id, db.audit.countP (isStart id) = if (db.runs.find id).isSome then 1 else 0
  begun : ∀ e ∈ db.audit, e.eventType = .agentRunStarted → ∃ run, db.runs.find run.id = some run ∧
    e.agentRunId = some run.id ∧ e.recoveryCaseId = some run.recoveryCaseId
  owned : ∀ id run, db.runs.find id = some run → (db.cases.find run.recoveryCaseId).isSome = true

theorem isCreation_other (h : e.eventType ≠ .caseCreated) (id : Uuid) : isCreation id e = false := by
  simp [isCreation, h]

theorem isStart_other (h : e.eventType ≠ .agentRunStarted) (id : Uuid) : isStart id e = false := by
  simp [isStart, h]

/-- An event that is about a case that is there, and neither creates nor starts anything. -/
structure Later (db : Db) (e : AuditEvent) : Prop where
  named : ∃ caseId, e.recoveryCaseId = some caseId ∧ (db.cases.find caseId).isSome = true
  notCreation : e.eventType ≠ .caseCreated
  notStart : e.eventType ≠ .agentRunStarted

theorem Accounted.created (h : Accounted db) (hf : (db.cases.find id).isSome = true) :
    ∃ c ∈ db.audit, isCreation id c = true := by
  refine List.countP_pos_iff.mp ?_
  rw [h.creations, if_pos hf]
  exact Nat.one_pos

theorem afterCreation_later {past : List AuditEvent} (h : Accounted db) (he : Later db e) (hp : db.audit <:+ past) :
    AfterCreation e past := by
  obtain ⟨caseId, hid, hf⟩ := he.named
  obtain ⟨c, hc, hcreation⟩ := h.created hf
  exact ⟨caseId, hid, .inr ⟨c, hp.subset hc, hcreation⟩⟩

/-- Later events change none of the accounts. -/
theorem accounted_later (h : Accounted db) (added : List AuditEvent) (ha : db'.audit = added ++ db.audit)
    (hl : ∀ e ∈ added, Later db e) (hcases : ∀ id, (db'.cases.find id).isSome = (db.cases.find id).isSome)
    (hruns : ∀ id, (db'.runs.find id).map (·.recoveryCaseId) = (db.runs.find id).map (·.recoveryCaseId)) :
    Accounted db' := by
  have hrun {id : Uuid} {run : AgentRun} (hf : db'.runs.find id = some run) :
      ∃ old, db.runs.find id = some old ∧ old.recoveryCaseId = run.recoveryCaseId := by
    have := hruns id
    rw [hf] at this
    exact Option.map_eq_some_iff.mp this.symm
  refine ⟨?_, fun id => ?_, fun id => ?_, fun e he ht => ?_, fun id run hf => ?_⟩
  · rw [ha]
    clear hruns hcases ha hrun
    induction added with
    | nil => exact h.opened
    | cons e added ih =>
        exact ⟨afterCreation_later h (hl e List.mem_cons_self) (List.suffix_append _ _),
          ih fun e he => hl e (List.mem_cons_of_mem _ he)⟩
  · have hnone : added.countP (isCreation id) = 0 :=
      List.countP_eq_zero.mpr fun e he => by simp [isCreation_other (hl e he).notCreation]
    rw [ha, List.countP_append, hnone, Nat.zero_add, h.creations, hcases]
  · have hnone : added.countP (isStart id) = 0 :=
      List.countP_eq_zero.mpr fun e he => by simp [isStart_other (hl e he).notStart]
    have hsome : (db'.runs.find id).isSome = (db.runs.find id).isSome := by
      simpa using congrArg Option.isSome (hruns id)
    rw [ha, List.countP_append, hnone, Nat.zero_add, h.starts, hsome]
  · rw [ha] at he
    rcases List.mem_append.mp he with he | he
    · exact absurd ht (hl e he).notStart
    · obtain ⟨run, hf, hr, hc⟩ := h.begun e he ht
      have := hruns run.id
      rw [hf] at this
      obtain ⟨new, hnew, hsame⟩ := Option.map_eq_some_iff.mp this
      refine ⟨new, ?_, ?_, ?_⟩
      · rw [Table.find_key hnew, hnew]
      · rw [Table.find_key hnew, hr]
      · rw [hsame, hc]
  · obtain ⟨old, hold, hsame⟩ := hrun hf
    rw [hcases, ← hsame]
    exact h.owned id old hold

theorem isSome_update {f : RecoveryCase → RecoveryCase} {key : Uuid} (hf : ∀ c, (f c).id = c.id) (id : Uuid) :
    ((db.cases.update key f hf).find id).isSome = (db.cases.find id).isSome := by
  rw [Table.find_update]
  split <;> simp

theorem written_accounted {subject : Option Uuid} (h : Accounted db) (hw : Written db subject db') : Accounted db' := by
  cases hw with
  | kept => exact accounted_later h [] rfl (by simp) (fun _ => rfl) fun _ => rfl
  | @created case event cases customers hi ho hp hr he hc =>
      have hfind := Table.find_insert hi
      have hfresh := Table.find_none_of_insert hi
      have hgrows (id : Uuid) (hsome : (db.cases.find id).isSome = true) : (cases.find id).isSome = true := by
        rw [hfind]
        split
        · rfl
        · exact hsome
      refine ⟨⟨⟨case.id, hc, .inl (by simp [isCreation, he, hc])⟩, h.opened⟩, fun id => ?_, fun id => ?_,
        fun e hmem ht => ?_, fun id run hf => hgrows _ (h.owned id run hf)⟩
      · have hone : isCreation id event = decide (case.id = id) := by simp [isCreation, he, hc]
        rw [List.countP_cons, h.creations, hone, hfind]
        by_cases hid : case.id = id
        · subst hid
          simp [hfresh]
        · simp [hid]
      · rw [List.countP_cons, h.starts, isStart_other (by rw [he]; decide)]
        rfl
      · rcases List.mem_cons.mp hmem with rfl | hmem
        · rw [he] at ht
          cases ht
        · exact h.begun e hmem ht
  | @started run event runs hi hf hs he hc hr =>
      have hfind := Table.find_insert hi
      have hfresh := Table.find_none_of_insert hi
      obtain ⟨c, hmem, hcreation⟩ := h.created hf
      refine ⟨⟨⟨run.recoveryCaseId, hc, .inr ⟨c, hmem, hcreation⟩⟩, h.opened⟩, fun id => ?_, fun id => ?_,
        fun e hmem ht => ?_, fun id other hother => ?_⟩
      · rw [List.countP_cons, h.creations, isCreation_other (by rw [he]; decide)]
        rfl
      · have hone : isStart id event = decide (run.id = id) := by simp [isStart, he, hr]
        rw [List.countP_cons, h.starts, hone, hfind]
        by_cases hid : run.id = id
        · subst hid
          simp [hfresh]
        · simp [hid]
      · rcases List.mem_cons.mp hmem with rfl | hmem
        · exact ⟨run, by rw [hfind, if_pos rfl], hr, hc⟩
        · obtain ⟨old, hold, hid, hcase⟩ := h.begun e hmem ht
          refine ⟨old, ?_, hid, hcase⟩
          rw [hfind, if_neg]
          · exact hold
          · intro heq
            rw [← heq, hfresh] at hold
            cases hold
      · rw [hfind] at hother
        split at hother
        · cases hother
          exact hf
        · exact h.owned id other hother
  | @refused case event hf he hc =>
      refine accounted_later h [event] rfl ?_ (fun _ => rfl) fun _ => rfl
      rintro e he'
      obtain rfl := List.mem_singleton.mp he'
      exact ⟨⟨case.id, hc, by rw [hf]; rfl⟩, by rw [he]; decide, by rw [he]; decide⟩
  | @ordered case orderId hf ho ht =>
      exact accounted_later h [] rfl (by simp) (isSome_update (ordered_id orderId)) fun _ => rfl
  | @captured case orderId paymentId success recovered webhooks _ hf hr ho ht he =>
      refine accounted_later h [recovered, success] rfl ?_
        (isSome_update (captured_id paymentId case.amountAtRiskPaise)) fun _ => rfl
      have hsome : (db.cases.find case.id).isSome = true := by rw [hf]; rfl
      simp only [List.mem_cons, List.not_mem_nil, or_false, forall_eq_or_imp, forall_eq]
      exact ⟨⟨⟨case.id, he.recoveredCase, hsome⟩, by rw [he.recoveredType]; decide, by rw [he.recoveredType]; decide⟩,
        ⟨case.id, he.successCase, hsome⟩, by rw [he.successType]; decide, by rw [he.successType]; decide⟩
  | @escalated loaded reason event hf he hc =>
      refine accounted_later h [event] rfl ?_ (isSome_update (mergeCase_id loaded _)) fun _ => rfl
      rintro e he'
      obtain rfl := List.mem_singleton.mp he'
      exact ⟨⟨loaded.id, hc, hf⟩, by rw [he]; decide, by rw [he]; decide⟩
  | @finished loaded case w hf _ hr hs hw he =>
      refine accounted_later h w.events rfl (fun e hmem => ?_)
        (isSome_update (mergeCase_id case w.case)) fun id => ?_
      · obtain ⟨hcase, htype, -⟩ := he e hmem
        refine ⟨⟨case.id, hcase, hf⟩, ?_, ?_⟩ <;> rcases htype with h | h | h <;> rw [h] <;> decide
      · rw [find_run_commitWork]
        split
        · rw [Option.map_map]
          rfl
        · rfl

/-- In every reached state the ledger accounts for every case and every run: a
case has one creation event, in front of all others about it, a run has one
start event, with its case, and there are no such events beyond these. -/
theorem ledger_accounts {customers : Table Uuid Customer Customer.id}
    (h : Reach (step settings) Any (init customers) sys) : Accounted sys.db := by
  refine db_invariant ⟨trivial, fun id => rfl, fun id => rfl, ?_, ?_⟩ (fun _ _ _ => written_accounted) h
  · simp
  · intro id run hf
    cases hf

theorem ledger_accounts_sample : Accounted RecoveryLedger.capturedSys.db :=
  ledger_accounts RecoveryLedger.capturedSys_reach

end RevenueRescue.AuditTrail
