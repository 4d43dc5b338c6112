import RevenueRescue.Backend.Transitions

namespace RevenueRescue.RecoverySystem

open Enums PolicySchema Providers AgentSchemas DeterministicNodes RecoveryGraph GraphEffects
open Models RecoveryService RazorpayCheckout Machine

/-- The events that an attempt adds: its ending, and at most a recovery or an escalation. -/
structure FromAttempt (caseId : Uuid) (e : AuditEvent) : Prop where
  recoveryCaseId : e.recoveryCaseId = some caseId
  eventType : e.eventType = .revenueRecovered ∨ e.eventType = .escalated ∨ e.eventType = .agentRunCompleted
  payload : ∀ entries, e.payload ≠ some (.checkout entries)

/-- The order of a case is open to be set: there is none, or an empty one. -/
def Orderless (case : RecoveryCase) : Prop := case.razorpayOrderId.filter (· ≠ "") = none

/-- The two events of a capture. -/
structure Capture (case : RecoveryCase) (orderId paymentId : String) (success recovered : AuditEvent) : Prop where
  successType : success.eventType = .paymentSuccess
  successCase : success.recoveryCaseId = some case.id
  recoveredType : recovered.eventType = .revenueRecovered
  recoveredCase : recovered.recoveryCaseId = some case.id
  amountPaise : recovered.amountPaise = some case.amountAtRiskPaise
  currency : recovered.currency = case.currency
  payload : ∃ source eventId, recovered.payload = some (capturePayload paymentId orderId source eventId)

/-- Everything that one step about a case can write, and what it has looked at before. -/
inductive Written (db : Db) : Option Uuid → Db → Prop
  | kept (subject : Option Uuid) (webhooks : Table String ProviderWebhook ProviderWebhook.eventId)
      (hw : ∀ receipt, webhooks.find receipt = none → db.webhooks.find receipt = none) :
      Written db subject { db with webhooks := webhooks }
  | created {case : RecoveryCase} {event : AuditEvent} {cases : Table Uuid RecoveryCase RecoveryCase.id}
      (customers : Table Uuid Customer Customer.id) (hi : db.cases.insert case = some cases)
      (ho : case.razorpayOrderId = none) (hp : case.razorpayPaymentId = none) (hr : case.isRecovered = false)
      (he : event.eventType = .caseCreated) (hc : event.recoveryCaseId = some case.id) :
      Written db (some case.id) { db with customers := customers, cases := cases, audit := event :: db.audit }
  | started {run : AgentRun} {event : AuditEvent} {runs : Table Uuid AgentRun AgentRun.id}
      (hi : db.runs.insert run = some runs) (hf : (db.cases.find run.recoveryCaseId).isSome = true)
      (hs : run.runStatus = .running) (he : event.eventType = .agentRunStarted)
      (hc : event.recoveryCaseId = some run.recoveryCaseId) (hr : event.agentRunId = some run.id) :
      Written db (some run.recoveryCaseId) { db with runs := runs, audit := event :: db.audit }
  | refused {case : RecoveryCase} {event : AuditEvent} (hf : db.cases.find case.id = some case)
      (he : event.eventType = .unauthorizedActionAttempt) (hc : event.recoveryCaseId = some case.id) :
      Written db (some case.id) { db with audit := event :: db.audit }
  | ordered {case : RecoveryCase} {orderId : String} (hf : db.cases.find case.id = some case)
      (ho : Orderless case) (ht : orderIdTaken db case orderId = false) :
      Written db (some case.id)
        { db with cases := db.cases.update case.id (ordered orderId) (ordered_id orderId) }
  | captured {case : RecoveryCase} {orderId paymentId : String} {success recovered : AuditEvent}
      (webhooks : Table String ProviderWebhook ProviderWebhook.eventId)
      (hw : ∀ receipt, webhooks.find receipt = none → db.webhooks.find receipt = none)
      (hf : db.cases.find case.id = some case) (hr : case.isRecovered = false)
      (ho : case.razorpayOrderId = some orderId) (ht : paymentIdTaken db case paymentId = false)
      (he : Capture case orderId paymentId success recovered) :
      Written db (some case.id)
        { db with
          cases := db.cases.update case.id (captured paymentId case.amountAtRiskPaise)
            (captured_id paymentId case.amountAtRiskPaise)
          webhooks := webhooks
          audit := recovered :: success :: db.audit }
  | escalated {case : RecoveryCase} {reason : String} {event : AuditEvent}
      (hf : (db.cases.find case.id).isSome = true) (he : event.eventType = .escalated)
      (hc : event.recoveryCaseId = some case.id) :
      Written db (some case.id)
        { updateCase db case (escalated reason case) with audit := event :: db.audit }
  | finished {run : AgentRun} {case : RecoveryCase} {w : Work}
      (hf : (db.cases.find case.id).isSome = true)
      (ho : ∃ stored, db.runs.find run.id = some stored ∧ stored.recoveryCaseId = case.id)
      (hr : case.isRecovered = true → w.case.isRecovered = true)
      (hs : w.run.runStatus ≠ .running) (hw : run.runStatus = .running)
      (he : ∀ e ∈ w.events, FromAttempt case.id e) : Written db (some case.id) (commitWork db run case w)

theorem Written.unchanged (db : Db) (subject : Option Uuid) : Written db subject db :=
  .kept subject db.webhooks fun _ h => h

def Session.caseId : Session → Uuid
  | .starting case | .failing _ case _ _ _ | .escalating case _ => case.id
  | .loadedRun run _ _ => run.recoveryCaseId
  | .attempt a => a.case.id

def Session.run? : Session → Option AgentRun
  | .starting _ | .escalating _ _ => none
  | .loadedRun run _ _ | .failing run _ _ _ _ => some run
  | .attempt a => some a.run

/-- The case that a step is about. -/
def subject (sys : Sys) : Op → Option Uuid
  | .paymentFailed id _ | .checkoutAbandoned id _ | .startLoad _ id | .escalateLoad _ id _ | .settle id _ => some id
  | .executeLoadRun _ runId _ => (sys.db.runs.find runId).map AgentRun.recoveryCaseId
  | .startCommit sid _ | .executeLoadCase sid _ | .executeNode sid _ | .executeFinish sid _ | .lost sid
  | .escalateCommit sid => (sys.sessions sid).map Session.caseId
  | .createOrder request _ => Uuid.parse request.caseId
  | .verifyPayment request _ => (findByOrder sys.db request.razorpayOrderId).map RecoveryCase.id
  | .razorpayWebhook request _ =>
      ((request.body.bind WebhookBody.orderId).bind (findByOrder sys.db)).map RecoveryCase.id

variable {settings : Settings} {db db' : Db} {sys sys' : Sys} {op : Op} {case : RecoveryCase} {run : AgentRun}
  {s : Stmt} {w : Work} {faults : Faults} {state : AgentState} {caseId : Uuid} {finalAttempt : Bool}
  {result : Except Failure AgentState} {status : RunStatus}

section Attempts

def Reports (caseId : Uuid) : Stmt → Prop
  | .record a => a.recoveryCaseId = some caseId.str ∧ a.payload = none ∧
      (a.eventType = .revenueRecovered ∨ a.eventType = .escalated)
  | .recordGuarded a => a.recoveryCaseId = some caseId.str ∧ (∃ trace, a.payload = some (.nodeTrace trace)) ∧
      a.eventType = .agentRunCompleted
  | _ => True

theorem settleStmts_reports (hs : s ∈ settleStmts caseId state) : Reports caseId s := by
  unfold settleStmts at hs
  split at hs
  · simp only [List.mem_cons, List.not_mem_nil, or_false] at hs
    rcases hs with rfl | rfl | rfl
    · trivial
    · trivial
    · exact ⟨rfl, rfl, .inl rfl⟩
  · split at hs
    · simp only [List.mem_cons, List.not_mem_nil, or_false] at hs
      rcases hs with rfl | rfl | rfl
      · trivial
      · trivial
      · exact ⟨rfl, rfl, .inr rfl⟩
    · split at hs
      · obtain rfl := List.mem_singleton.mp hs
        trivial
      · cases hs

theorem applyAgentResult_reports (hs : s ∈ applyAgentResult caseId state) : Reports caseId s := by
  simp only [applyAgentResult, List.mem_append, List.mem_cons, List.not_mem_nil, or_false] at hs
  rcases hs with (h | h) | rfl | rfl
  · have hopening := isOpening_of_mem h
    cases s with
    | record a | recordGuarded a => cases hopening
    | _ => trivial
  · exact settleStmts_reports h
  · trivial
  · exact ⟨rfl, ⟨_, rfl⟩, rfl⟩

theorem auditEvent_payload {a : AuditArgs} {e : AuditEvent} (h : auditEvent a = .ok e) : e.payload = a.payload := by
  unfold auditEvent at h
  cases hc : uuidArg a.recoveryCaseId with
  | error x => rw [hc] at h; cases h
  | ok c =>
      cases ht : uuidArg a.transactionId with
      | error x => rw [hc, ht] at h; cases h
      | ok t =>
          cases hr : uuidArg a.agentRunId with
          | error x => rw [hc, ht, hr] at h; cases h
          | ok r => rw [hc, ht, hr] at h; cases h; rfl

theorem fromAttempt_of_reports {e : AuditEvent} (hs : Reports caseId s) (he : eventOf s = some e) :
    FromAttempt caseId e := by
  cases s with
  | record a =>
      obtain ⟨hcase, hpayload, htype⟩ := hs
      have hok := toOption_eq_some he
      obtain ⟨hid, heq, -, -⟩ := auditEvent_ok hok
      rw [hcase, uuidArg_str] at hid
      refine ⟨(Except.ok.inj hid).symm, ?_, fun entries => ?_⟩
      · rw [heq]
        exact htype.elim .inl fun h => .inr (.inl h)
      · rw [auditEvent_payload hok, hpayload]
        exact nofun
  | recordGuarded a =>
      obtain ⟨hcase, ⟨trace, hpayload⟩, htype⟩ := hs
      have hok := toOption_eq_some he
      obtain ⟨hid, heq, -, -⟩ := auditEvent_ok hok
      rw [hcase, uuidArg_str] at hid
      refine ⟨(Except.ok.inj hid).symm, .inr (.inr (heq.trans htype)), fun entries => ?_⟩
      rw [auditEvent_payload hok, hpayload]
      exact fun h => by cases h
  | _ => cases he

theorem committed_events (h : attemptOutcome finalAttempt case run faults result = .committed w status) :
    ∀ e ∈ w.events, FromAttempt case.id e := by
  obtain ⟨-, -, extra, hevents, hextra⟩ := committed_work h
  intro e he
  rw [hevents] at he
  rcases List.mem_append.mp he with he | he
  · obtain ⟨text, rfl⟩ := hextra e he
    exact ⟨rfl, .inr (.inr rfl), fun entries => nofun⟩
  · obtain ⟨s, hs, hev⟩ := List.mem_filterMap.mp (List.mem_reverse.mp he)
    cases result with
    | error f => cases hs
    | ok state => exact fromAttempt_of_reports (applyAgentResult_reports ((carriedOut_sublist _ _).subset hs)) hev

/-- A recovery that the attempt had loaded stays. -/
theorem committed_recovered_kept
    (hr : ∀ state, result = .ok state → case.isRecovered = true → state.caseIsRecovered = true)
    (h : attemptOutcome finalAttempt case run faults result = .committed w status)
    (hc : case.isRecovered = true) : w.case.isRecovered = true := by
  have hvalue : w.case.isRecovered = case.isRecovered ∨ .isRecovered w.case.isRecovered ∈ written case faults result :=
    committed_value apply_isRecovered h
  rcases hvalue with hk | hk
  · exact hk.trans hc
  · obtain ⟨state, rfl, hconf⟩ := written_conforms hk
    exact (hconf : _ = state.caseIsRecovered).trans (hr state rfl hc)

end Attempts

section Requests

variable {orderId paymentId source : String} {eventId : Option String} {answer : Except String PaymentResult}

theorem recordCapture_capture {payload : AuditPayload} {amountPaise : Int}
    (h : recordCapture db case paymentId amountPaise payload = .ok db') :
    ∃ success recovered : AuditEvent, success.eventType = .paymentSuccess ∧ success.recoveryCaseId = some case.id ∧
      recovered.eventType = .revenueRecovered ∧ recovered.recoveryCaseId = some case.id ∧
      recovered.amountPaise = some amountPaise ∧ recovered.currency = case.currency ∧
      recovered.payload = some payload ∧
      db' = { db with
        cases := db.cases.update case.id (captured paymentId amountPaise) (captured_id paymentId amountPaise)
        audit := recovered :: success :: db.audit } := by
  simp only [recordCapture, record, auditEvent_case case.id, Except.map, bind, Except.bind] at h
  cases h
  exact ⟨_, _, rfl, rfl, rfl, rfl, rfl, rfl, rfl, rfl⟩

theorem reconcileCapturedPayment_written {response : VerifyPaymentResponse}
    {webhooks : Table String ProviderWebhook ProviderWebhook.eventId}
    (hw : ∀ receipt, webhooks.find receipt = none → db.webhooks.find receipt = none)
    (hf : db.cases.find case.id = some case) (ho : case.razorpayOrderId = some orderId)
    (h : reconcileCapturedPayment { db with webhooks := webhooks } case answer paymentId orderId source eventId =
      .ok (db', response)) : Written db (some case.id) db' := by
  unfold reconcileCapturedPayment at h
  by_cases hr : case.isRecovered = true
  · rw [if_pos hr] at h
    cases h
    exact .kept _ webhooks hw
  · rw [if_neg hr] at h
    cases answer with
    | error e =>
        cases h
        exact .kept _ webhooks hw
    | ok payment =>
        simp only at h
        split at h
        · cases h
        split at h
        · cases h
        split at h
        · cases h
        split at h
        · cases h
          exact .kept _ webhooks hw
        split at h
        · cases h
        rename_i hamount _ _ htaken
        cases hc : recordCapture { db with webhooks := webhooks } case paymentId payment.amountPaise
            (capturePayload paymentId orderId source eventId) with
        | error e => rw [hc] at h; cases h
        | ok db1 =>
            rw [hc] at h
            cases h
            rw [not_not.mp hamount] at hc
            obtain ⟨success, recovered, hs, hsc, hrt, hrc, ha, hcur, hp, rfl⟩ := recordCapture_capture hc
            exact .captured webhooks hw hf (Bool.eq_false_of_not_eq_true hr) ho (Bool.eq_false_of_not_eq_true htaken)
              ⟨hs, hsc, hrt, hrc, ha, hcur, source, eventId, hp⟩

theorem createOrder_written {request : CreateOrderRequest} {answer : Except String OrderResult}
    {response : CreateOrderResponse} (h : createOrder settings db request answer = .ok (db', response)) :
    Written db (Uuid.parse request.caseId) db' := by
  unfold createOrder at h
  split_ifs at h
  cases hid : Uuid.parse request.caseId with
  | none => simp [hid] at h
  | some id =>
      cases hf : db.cases.find id with
      | none => simp [hid, hf] at h
      | some case =>
          simp only [hid, hf] at h
          split_ifs at h
          obtain rfl : case.id = id := Table.find_key hf
          split at h
          · cases h
            exact .unchanged db _
          · rename_i horder
            cases answer with
            | error e => cases h
            | ok order =>
                simp only at h
                split_ifs at h with htaken
                cases h
                exact .ordered hf horder (Bool.eq_false_of_not_eq_true htaken)

theorem verifyPayment_written (settings : Settings) (db : Db) (request : VerifyPaymentRequest)
    (answer : Except String PaymentResult) :
    Written db ((findByOrder db request.razorpayOrderId).map RecoveryCase.id)
      (verifyPayment settings db request answer).1 := by
  unfold verifyPayment
  split
  · exact .unchanged db _
  cases hf : findByOrder db request.razorpayOrderId with
  | none => exact .unchanged db _
  | some case =>
      obtain ⟨hcase, horder⟩ := findByOrder_eq_some hf
      simp only
      split
      · exact .unchanged db _
      split
      · exact .unchanged db _
      · simp only [record, auditEvent_case case.id, Except.map]
        exact .refused hcase rfl rfl
      by_cases hr : case.isRecovered = true
      · rw [if_pos hr]
        split <;> exact .unchanged db _
      · rw [if_neg hr]
        split
        · rename_i h
          exact reconcileCapturedPayment_written (fun _ h => h) hcase horder h
        · exact .unchanged db _

theorem handleWebhook_written {eventType receipt : String} {body : WebhookBody}
    {webhooks : Table String ProviderWebhook ProviderWebhook.eventId}
    (hw : ∀ receipt, webhooks.find receipt = none → db.webhooks.find receipt = none)
    (h : handleWebhook { db with webhooks := webhooks } eventType receipt body answer = .ok db') :
    Written db ((body.orderId.bind (findByOrder db)).map RecoveryCase.id) db' := by
  unfold handleWebhook at h
  split at h
  · rename_i paymentId orderId _ horder
    cases hf : findByOrder { db with webhooks := webhooks } orderId with
    | none => rw [hf] at h; cases h; exact .kept _ webhooks hw
    | some case =>
        rw [hf] at h
        obtain ⟨hcase, hid⟩ := findByOrder_eq_some hf
        have hfound : findByOrder db orderId = some case := hf
        cases hr : reconcileCapturedPayment { db with webhooks := webhooks } case answer paymentId orderId
            "webhook" (some receipt) with
        | error e => simp [hr, Except.map] at h
        | ok out =>
            simp only [hr, Except.map, Except.ok.injEq] at h
            subst h
            rw [horder, Option.bind_some, hfound]
            exact reconcileCapturedPayment_written hw hcase hid hr
  · cases h
    exact .kept _ webhooks hw

theorem find_none_before {t t' : Table String ProviderWebhook ProviderWebhook.eventId} {r : ProviderWebhook}
    (h : t.insert r = some t') (receipt : String) (hf : t'.find receipt = none) : t.find receipt = none := by
  rw [Table.find_insert h] at hf
  split at hf
  · cases hf
  · exact hf

theorem razorpayWebhook_written {request : WebhookRequest} {status : WebhookStatus}
    (h : razorpayWebhook settings db request answer = .ok (db', status)) :
    Written db (((request.body.bind WebhookBody.orderId).bind (findByOrder db)).map RecoveryCase.id) db' := by
  unfold razorpayWebhook at h
  split_ifs at h
  split at h
  · rename_i signature eventId _ _
    split at h
    · cases h
    · cases h
    · cases h
    · rename_i body _ hbody
      cases hi : db.webhooks.insert ⟨eventId, (request.event.filter (· ≠ "")).getD body.event, true⟩ with
      | none => simp only [hi] at h; cases h; exact .unchanged db _
      | some webhooks =>
          simp only [hi] at h
          cases hh : handleWebhook { db with webhooks := webhooks }
              ((request.event.filter (· ≠ "")).getD body.event) eventId body answer with
          | error e => rw [hh] at h; cases h
          | ok db1 =>
              rw [hh] at h
              cases h
              rw [hbody, Option.bind_some]
              exact handleWebhook_written (find_none_before hi) hh
  · cases h

end Requests

theorem createCase_written {reason : String} (ho : case.razorpayOrderId = none) (hp : case.razorpayPaymentId = none)
    (hr : case.isRecovered = false) (h : createCase db case reason = some db') : Written db (some case.id) db' := by
  obtain ⟨customers, hcustomers⟩ := getOrCreateCustomer_eq db case.customerId
  simp only [createCase, hcustomers, auditEvent_case case.id] at h
  split at h
  · cases h
  · cases hi : db.cases.insert case with
    | none => simp only [hi] at h; cases h
    | some cases =>
        simp only [hi, Option.some.injEq] at h
        subst h
        exact .created customers hi ho hp hr rfl rfl

theorem startAgentRun_written {runId : Uuid} (hf : (db.cases.find case.id).isSome = true)
    (h : startAgentRun db case runId = some db') : Written db (some case.id) db' := by
  unfold startAgentRun at h
  split at h
  · rename_i runs event hi he
    cases h
    simp only [auditEvent, uuidArg_str, uuidArg_none] at he
    cases he
    exact .started hi hf rfl rfl rfl rfl
  · cases h

theorem escalateCase_written {reason : String} (hf : (db.cases.find case.id).isSome = true)
    (h : escalateCase db case reason = some db') : Written db (some case.id) db' := by
  unfold escalateCase at h
  simp only [auditEvent_case case.id, Option.some.injEq] at h
  subst h
  exact .escalated hf rfl rfl

/-- The rows that sessions hold are of cases that are there. -/
def Loaded (sys : Sys) : Prop :=
  ∀ sid session case, sys.sessions sid = some session → session.case? = some case →
    (sys.db.cases.find case.id).isSome = true

theorem loaded_step (hl : Loaded sys) (h : step settings sys op = some sys') : Loaded sys' := by
  intro sid session case hs hcase
  rcases case_change h hs hcase with hf | ⟨old, ho, hc⟩
  · exact isSome_of_row (row_change h case.id) (by rw [hf]; rfl)
  · exact isSome_of_row (row_change h case.id) (hl sid old case ho hc)

/-- The runs that sessions hold are those of their cases. -/
def Owned (sys : Sys) : Prop :=
  ∀ sid session run, sys.sessions sid = some session → session.run? = some run →
    ∃ stored, sys.db.runs.find run.id = some stored ∧ stored.recoveryCaseId = session.caseId

/-- What the sessions hold is of this database. -/
structure Sound (sys : Sys) : Prop where
  loaded : Loaded sys
  running : Running sys
  owned : Owned sys

theorem ended_held {session : Session} (h : session.ended = some (run, case, finalAttempt, result)) :
    session.run? = some run ∧ session.caseId = case.id := by
  cases session with
  | attempt a =>
      simp only [Session.ended] at h
      split at h <;> cases h <;> exact ⟨rfl, rfl⟩
  | failing =>
      cases h
      exact ⟨rfl, rfl⟩
  | starting | loadedRun | escalating => cases h

theorem executeFinish_written (hi : Sound sys) {sid : Nat}
    (h : step settings sys (.executeFinish sid faults) = some sys') :
    Written sys.db ((sys.sessions sid).map Session.caseId) sys'.db := by
  simp only [step] at h
  cases hs : sys.sessions sid with
  | none => simp [hs] at h
  | some session =>
      cases he : session.ended with
      | none => simp [hs, he] at h
      | some attempt =>
          obtain ⟨run, case, finalAttempt, result⟩ := attempt
          obtain ⟨hrun, hid⟩ := ended_held he
          simp only [hs, Option.bind_some, he] at h
          cases ho : attemptOutcome finalAttempt case run faults result with
          | rolledBack =>
              simp only [ho, Option.some.injEq] at h
              subst h
              exact .unchanged sys.db _
          | committed w status =>
              simp only [ho, Option.some.injEq] at h
              subst h
              rw [Option.map_some, hid]
              refine .finished (hi.loaded sid session case hs (ended_case he)) (hid ▸ hi.owned sid session run hs hrun)
                (committed_recovered_kept ?_ ho) (committed_work ho).2.1 (ended_running he) (committed_events ho)
              rintro state rfl hc
              obtain ⟨a, rfl, rfl, rfl, -, -, rfl⟩ := ended_ok he
              exact GraphEffects.recovered_of_reach (hi.running sid a hs) hc

/-- One step of any operation, as what it writes. -/
theorem step_written (hi : Sound sys) (h : step settings sys op = some sys') :
    Written sys.db (subject sys op) sys'.db := by
  cases op with
  | paymentFailed newId event =>
      obtain ⟨db, hdb, rfl⟩ := Option.map_eq_some_iff.mp h
      rcases createCaseFromPaymentFailure_eq_some hdb with rfl | ⟨-, row, hrow, hcreate⟩
      · exact .unchanged sys.db _
      · obtain ⟨_, _, -, -, -, rfl⟩ := stored_eq_some.mp hrow
        exact createCase_written rfl rfl rfl hcreate
  | checkoutAbandoned newId event =>
      obtain ⟨db, hdb, rfl⟩ := Option.map_eq_some_iff.mp h
      rcases createCaseFromCheckoutAbandonment_eq_some hdb with rfl | ⟨-, row, hrow, hcreate⟩
      · exact .unchanged sys.db _
      · obtain ⟨_, _, -, -, -, rfl⟩ := stored_eq_some.mp hrow
        exact createCase_written rfl rfl rfl hcreate
  | startCommit sid runId =>
      simp only [step] at h
      split at h
      · rename_i case hs
        obtain ⟨db, hdb, rfl⟩ := Option.map_eq_some_iff.mp h
        rw [subject, hs]
        exact startAgentRun_written (hi.loaded sid _ case hs rfl) hdb
      · cases h
  | escalateCommit sid =>
      simp only [step] at h
      split at h
      · rename_i case reason hs
        obtain ⟨db, hdb, rfl⟩ := Option.map_eq_some_iff.mp h
        rw [subject, hs]
        exact escalateCase_written (hi.loaded sid _ case hs rfl) hdb
      · cases h
  | executeFinish sid faults => exact executeFinish_written hi h
  | createOrder request answer =>
      simp only [step] at h
      split at h
      · rename_i db _ ho
        cases h
        exact createOrder_written ho
      · cases h
  | verifyPayment request answer =>
      cases h
      exact verifyPayment_written settings sys.db request answer
  | razorpayWebhook request answer =>
      simp only [step] at h
      split at h
      · rename_i db _ ho
        cases h
        exact razorpayWebhook_written ho
      · cases h
  | startLoad sid caseId =>
      simp only [step] at h
      split at h
      · split at h
        · rw [openSession_eq_some h]
          exact .unchanged sys.db _
        · cases h
      · cases h
  | executeLoadRun sid runId finalAttempt =>
      simp only [step] at h
      split at h
      · split at h
        · rw [openSession_eq_some h]
          exact .unchanged sys.db _
        · cases h
      · cases h
  | executeLoadCase sid policy =>
      simp only [step] at h
      split at h
      · obtain ⟨case, -, rfl⟩ := Option.map_eq_some_iff.mp h
        cases policy <;> exact .unchanged sys.db _
      · cases h
  | executeNode sid w =>
      simp only [step] at h
      split at h
      · obtain ⟨graph, -, rfl⟩ := Option.map_eq_some_iff.mp h
        exact .unchanged sys.db _
      · cases h
  | lost sid =>
      cases h
      exact .unchanged sys.db _
  | escalateLoad sid caseId reason =>
      simp only [step] at h
      split at h
      · rw [openSession_eq_some h]
        exact .unchanged sys.db _
      · cases h
  | settle caseId paymentId =>
      simp only [step] at h
      split at h
      · cases h
        exact .unchanged sys.db _
      · cases h

/-- A run keeps its case. -/
theorem written_runs {subject : Option Uuid} (h : Written db subject db') (key : Uuid) {run : AgentRun}
    (hf : db.runs.find key = some run) :
    ∃ run', db'.runs.find key = some run' ∧ run'.recoveryCaseId = run.recoveryCaseId ∧
      (run.runStatus ≠ .running → run'.runStatus ≠ .running) := by
  cases h with
  | kept | created | refused | ordered | captured | escalated => exact ⟨run, hf, rfl, id⟩
  | started hi =>
      refine ⟨run, ?_, rfl, id⟩
      rw [Table.find_insert hi]
      split
      · rename_i hid
        rw [← hid, Table.find_none_of_insert hi] at hf
        cases hf
      · exact hf
  | @finished loaded case w _ _ _ hs hw =>
      rw [find_run_commitWork]
      split
      · refine ⟨mergeRun loaded w.run run, by rw [hf]; rfl, rfl, fun _ => ?_⟩
        -- The flush sets the status: it was running when it was loaded.
        have hstatus : (mergeRun loaded w.run run).runStatus = w.run.runStatus :=
          NetChange.flush_changed (hw ▸ hs) _
        exact hstatus ▸ hs
      · exact ⟨run, hf, rfl, id⟩

theorem openSession_free {sid : Nat} {session : Session} (h : sys.openSession sid session = some sys') :
    sys.sessions sid = none := by
  unfold Sys.openSession at h
  split at h
  · assumption
  · cases h

/-- The session of an operation is of the case that the operation is about, before it and behind it. -/
theorem subject_session {sid : Nat} (h : step settings sys op = some sys') (hsid : op.sid = some sid)
    {session : Session} (hs : sys.sessions sid = some session ∨ sys'.sessions sid = some session) :
    subject sys op = some session.caseId := by
  have hclosed (hs : sys.sessions sid = some session ∨ none = some session) :
      (sys.sessions sid).map Session.caseId = some session.caseId := by
    rcases hs with hs | hs
    · rw [hs, Option.map_some]
    · cases hs
  have hopened {new : Session} (h : sys.openSession sid new = some sys') : session = new := by
    have hnew : sys'.sessions sid = some new := by
      rw [openSession_eq_some h]
      exact Function.update_self ..
    rcases hs with hs | hs
    · rw [openSession_free h] at hs
      cases hs
    · exact Option.some.inj (hs.symm.trans hnew)
  cases op with
  | paymentFailed | checkoutAbandoned | createOrder | verifyPayment | razorpayWebhook | settle => cases hsid
  | startLoad n caseId =>
      cases hsid
      simp only [step] at h
      split at h
      · rename_i case hf
        split at h
        · rw [hopened h]
          exact congrArg some (Table.find_key hf).symm
        · cases h
      · cases h
  | escalateLoad n caseId reason =>
      cases hsid
      simp only [step] at h
      split at h
      · rename_i case hf
        rw [hopened h]
        exact congrArg some (Table.find_key hf).symm
      · cases h
  | executeLoadRun n runId final =>
      cases hsid
      simp only [step] at h
      split at h
      · rename_i run hf
        split at h
        · rw [hopened h, subject, hf]
          rfl
        · cases h
      · cases h
  | executeLoadCase n policy =>
      cases hsid
      simp only [step] at h
      split at h
      · rename_i run final running hold
        obtain ⟨case, hf, rfl⟩ := Option.map_eq_some_iff.mp h
        rw [subject, hold]
        have hid : case.id = run.recoveryCaseId := Table.find_key hf
        rw [hold] at hs
        cases policy <;> simp only [Sys.put, Function.update_self, Option.some.injEq] at hs <;>
          rcases hs with rfl | rfl
        · rfl
        · exact congrArg some hid.symm
        · rfl
        · exact congrArg some hid.symm
      · cases h
  | executeNode n w =>
      cases hsid
      simp only [step] at h
      split at h
      · rename_i a hold
        obtain ⟨graph, -, rfl⟩ := Option.map_eq_some_iff.mp h
        rw [subject, hold]
        rw [hold] at hs
        simp only [Sys.put, Function.update_self, Option.some.injEq] at hs
        rcases hs with rfl | rfl <;> rfl
      · cases h
  | startCommit n runId =>
      cases hsid
      simp only [step] at h
      split at h
      · obtain ⟨db, -, rfl⟩ := Option.map_eq_some_iff.mp h
        simp only [Sys.commit, Sys.put, Function.update_self] at hs
        exact hclosed hs
      · cases h
  | escalateCommit n =>
      cases hsid
      simp only [step] at h
      split at h
      · obtain ⟨db, -, rfl⟩ := Option.map_eq_some_iff.mp h
        simp only [Sys.commit, Sys.put, Function.update_self] at hs
        exact hclosed hs
      · cases h
  | executeFinish n faults =>
      cases hsid
      simp only [step] at h
      split at h
      · split at h
        · cases h
          simp only [Sys.commit, Sys.put, Function.update_self] at hs
          exact hclosed hs
        · cases h
          simp only [Sys.put, Function.update_self] at hs
          exact hclosed hs
      · cases h
  | lost n =>
      cases hsid
      cases h
      simp only [Sys.put, Function.update_self] at hs
      exact hclosed hs

/-- The session of an operation holds a run of its case. -/
theorem opened_owned {sid : Nat} {session : Session} (ho : Owned sys) (h : step settings sys op = some sys')
    (hs : sys'.sessions sid = some session) (hrun : session.run? = some run) :
    ∃ stored, sys.db.runs.find run.id = some stored ∧ stored.recoveryCaseId = session.caseId := by
  by_cases hsid : op.sid = some sid
  · have hsubject := subject_session h hsid (.inr hs)
    have hheld {old : Session} (hold : sys.sessions sid = some old) (hr : old.run? = some run) :
        ∃ stored, sys.db.runs.find run.id = some stored ∧ stored.recoveryCaseId = session.caseId := by
      obtain ⟨stored, hf, hid⟩ := ho sid old run hold hr
      exact ⟨stored, hf, hid.trans (Option.some.inj ((subject_session h hsid (.inl hold)).symm.trans hsubject))⟩
    have hchange := session_change h sid
    rw [hs] at hchange
    generalize hsession : some session = s at hchange
    cases hchange with
    | kept => exact hheld hsession.symm hrun
    | closed => cases hsession
    | starting | escalating =>
        cases hsession
        cases hrun
    | loadedRun _ hf =>
        cases hsession
        cases hrun
        exact ⟨_, hf, rfl⟩
    | failing _ hold | loadedCase _ _ hold | advanced _ hold =>
        cases hsession
        cases hrun
        exact hheld hold rfl
  · rw [sessions_kept h hsid] at hs
    exact ho sid session run hs hrun

theorem sound_step (hi : Sound sys) (h : step settings sys op = some sys') : Sound sys' := by
  refine ⟨loaded_step hi.loaded h, running_step hi.running h, fun sid session run hs hrun => ?_⟩
  obtain ⟨stored, hf, hid⟩ := opened_owned hi.owned h hs hrun
  obtain ⟨later, hf', hid', -⟩ := written_runs (step_written hi h) run.id hf
  exact ⟨later, hf', hid'.trans hid⟩

theorem sound_init (customers : Table Uuid Customer Customer.id) : Sound (init customers) := by
  refine ⟨fun sid session case hs => ?_, running_init, fun sid session run hs => ?_⟩
  all_goals
    rw [init_sessions] at hs
    cases hs

theorem sound_of_reach {customers : Table Uuid Customer Customer.id}
    (h : Reach (step settings) Any (init customers) sys) : Sound sys :=
  h.invariant (sound_init customers) fun _ _ _ _ hi _ hs => sound_step hi hs

end RevenueRescue.RecoverySystem
