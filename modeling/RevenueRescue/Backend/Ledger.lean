import RevenueRescue.Agents.Outcome
import RevenueRescue.Backend.Atomicity
import RevenueRescue.Backend.Transitions

namespace RevenueRescue.RecoveryLedger

open Enums Providers AgentSchemas RecoveryGraph RunOutcome PolicyGate RunAtomicity
open Models RecoveryService RazorpayCheckout RecoverySystem Machine

/-- What the ledger is for: a case is open, or an amount was recovered for it once. -/
inductive Standing
  | unsettled
  | recovered (amountPaise : Int) (currency : String)

inductive Standing.Step : Standing → Standing → Prop
  | stay (s : Standing) : Step s s
  | recover (amountPaise : Int) (currency : String) : Step .unsettled (.recovered amountPaise currency)

def Represents (row : Option RecoveryCase) (events : List AuditEvent) : Standing → Prop
  | .unsettled => events = [] ∧ ∀ case, row = some case →
      case.isRecovered = false ∧ case.amountRecoveredPaise = 0
  | .recovered amountPaise currency => ∃ case e, row = some case ∧ events = [e] ∧
      case.isRecovered = true ∧ case.amountRecoveredPaise = amountPaise ∧ case.currency = currency ∧
      e.amountPaise = some amountPaise ∧ e.currency = currency

/-- A case is recovered exactly when the ledger has one event for it, over the
same amount and currency. -/
def Agrees (db : Db) (case : RecoveryCase) : Prop :=
  case.isRecovered = true ↔ ∃ e, recoveredEvents db case.id = [e] ∧
    e.amountPaise = some case.amountRecoveredPaise ∧ e.currency = case.currency

/-- An attempt that has verified a payment for a case it had loaded as open,
and that is not rolled back, is stopped before it assigns `is_recovered`, or it
gets past the record of the recovery, in front of a row in the default currency
that nobody else has recovered. -/
def Recorded (sys : Sys) (op : Op) : Prop :=
  ∀ sid faults session run case finalAttempt state v, op = .executeFinish sid faults →
    sys.sessions sid = some session → session.ended = some (run, case, finalAttempt, .ok state) →
    case.isRecovered = false → state.caseIsRecovered = true → state.verificationResult = some v →
    attemptOutcome finalAttempt case run faults (.ok state) ≠ .rolledBack →
      (∃ k f, faults.apply = some (k, f) ∧ k ≤ flagAt) ∨
      ((uuidArg v.transactionId).isOk = true ∧
        (∀ k f, faults.apply = some (k, f) → recordAt state < k) ∧
        ∀ stored, sys.db.cases.find case.id = some stored →
          stored.isRecovered = false ∧ stored.currency = "INR")

variable {settings : Settings} {sys sys' : Sys} {op : Op} {case stored : RecoveryCase} {id : Uuid}
variable {row : Option RecoveryCase} {events : List AuditEvent} {run : AgentRun} {finalAttempt : Bool}
variable {faults : Faults} {result : Except Failure AgentState} {state : AgentState} {w : Work}
variable {status : RunStatus} {st : Standing}

theorem Represents.agrees {db : Db} (h : Represents (some case) (recoveredEvents db case.id) st) :
    Agrees db case := by
  cases st with
  | unsettled =>
      obtain ⟨he, hcase⟩ := h
      simp [Agrees, he, (hcase case rfl).1]
  | recovered amount currency =>
      obtain ⟨case', e, hcase, he, hr, rfl, rfl, ham, hcur⟩ := h
      cases hcase
      exact iff_of_true hr ⟨e, he, ham, hcur⟩

theorem Represents.open_row (h : Represents (some case) events st) (hr : case.isRecovered = false) :
    st = .unsettled ∧ events = [] ∧ case.amountRecoveredPaise = 0 := by
  cases st with
  | unsettled => exact ⟨rfl, h.1, (h.2 case rfl).2⟩
  | recovered amount currency =>
      obtain ⟨case', e, hcase, -, hr', -⟩ := h
      cases hcase
      rw [hr] at hr'
      cases hr'

theorem Represents.congr (h : Represents (some case) events st) (hr : stored.isRecovered = case.isRecovered)
    (ha : stored.amountRecoveredPaise = case.amountRecoveredPaise) (hc : stored.currency = case.currency) :
    Represents (some stored) events st := by
  cases st with
  | unsettled =>
      refine ⟨h.1, fun case' hcase => ?_⟩
      cases hcase
      rw [hr, ha]
      exact h.2 case rfl
  | recovered amount currency =>
      obtain ⟨case', e, hcase, he, h1, h2, h3, h4⟩ := h
      cases hcase
      exact ⟨stored, e, rfl, he, hr.trans h1, ha.trans h2, hc.trans h3, h4⟩

structure Inv (sys : Sys) : Prop where
  standing : ∀ id, ∃ st, Represents (sys.db.cases.find id) (recoveredEvents sys.db id) st
  loaded : ∀ sid session case, sys.sessions sid = some session → session.case? = some case →
    (sys.db.cases.find case.id).isSome = true ∧
      (case.isRecovered = false → case.amountRecoveredPaise = 0)
  running : Running sys

theorem kept_of_written (h : attemptOutcome finalAttempt case run faults result = .committed w status)
    (hflag : ∀ b, .isRecovered b ∈ written case faults result → b = case.isRecovered)
    (hamount : ∀ n, .amountRecovered n ∉ written case faults result)
    (hrecord : ∀ s ∈ written case faults result, isRecoveryStmt s = false) :
    w.case.isRecovered = case.isRecovered ∧
      w.case.amountRecoveredPaise = case.amountRecoveredPaise ∧
      ∀ id, w.events.filter (isRecoveryOf id) = [] := by
  have hnone : (written case faults result).filter isRecoveryStmt = [] :=
    List.filter_eq_nil_iff.mpr fun s hs => by simp [hrecord s hs]
  refine ⟨?_, ?_, fun id => ?_⟩
  · rcases committed_value apply_isRecovered h with h | h
    · exact h
    · exact hflag _ h
  · rcases committed_value apply_amountRecovered h with h | h
    · exact h
    · exact absurd h (hamount _)
  · rw [committed_recoveries h, hnone]
    simp

theorem kept_of_unflagged (h : attemptOutcome finalAttempt case run faults (.ok state) = .committed w status)
    (hflag : ∀ b, .isRecovered b ∈ written case faults (.ok state) → b = case.isRecovered)
    (hfree : state.caseIsRecovered = true → ∀ v, state.verificationResult = some v →
      .isRecovered true ∉ written case faults (.ok state)) :
    w.case.isRecovered = case.isRecovered ∧
      w.case.amountRecoveredPaise = case.amountRecoveredPaise ∧
      ∀ id, w.events.filter (isRecoveryOf id) = [] := by
  have hamount (n : Int) : .amountRecovered n ∉ written case faults (.ok state) := by
    intro hn
    obtain ⟨_, hstate, hr, v, hv, -⟩ := written_conforms hn
    cases hstate
    exact hfree hr v hv (isRecovered_written hn)
  refine kept_of_written h hflag hamount fun s hs => Bool.eq_false_iff.mpr fun hrec => ?_
  obtain ⟨_, hstate, hconf⟩ := written_conforms hs
  cases hstate
  cases s with
  | record a =>
      obtain ⟨hr, v, hv, rfl⟩ := hconf.2 (by simpa [isRecoveryStmt] using hrec)
      exact hamount _ (amountRecovered_written hr hv hs)
  | _ => cases hrec

theorem recovered_of_written {v : VerificationResult} (hr : state.caseIsRecovered = true)
    (hv : state.verificationResult = some v)
    (h : attemptOutcome finalAttempt case run faults (.ok state) = .committed w status)
    (hw : .record (revenueRecovered case.id v) ∈ written case faults (.ok state)) :
    w.case.isRecovered = true ∧ w.case.amountRecoveredPaise = v.amountRecoveredPaise := by
  have hamount := amountRecovered_written hr hv hw
  have hconf {s : Stmt} (hs : s ∈ written case faults (.ok state)) : Conforms case.id state s := by
    obtain ⟨_, hstate, hc⟩ := written_conforms hs
    cases hstate
    exact hc
  rw [(committed_work h).1]
  constructor
  · refine foldl_sets (f := fun w => w.case.isRecovered) (fun s hs w => ?_) (isRecovered_written hamount)
      (fun _ => rfl) _
    rcases apply_isRecovered s w with h | h
    · exact .inl h
    · exact .inr ((h ▸ hconf hs : Conforms case.id state (.isRecovered _)).trans hr)
  · refine foldl_sets (f := fun w => w.case.amountRecoveredPaise) (fun s hs w => ?_) hamount
      (fun _ => rfl) _
    rcases apply_amountRecovered s w with h | h
    · exact .inl h
    · obtain ⟨-, v', hv', hn⟩ : Conforms case.id state (.amountRecovered _) := h ▸ hconf hs
      rw [hv] at hv'
      cases hv'
      exact .inr hn

theorem finish_cases {sid : Nat} {session : Session} (hi : Inv sys)
    (hs : sys.sessions sid = some session) (he : session.ended = some (run, case, finalAttempt, result))
    (ho : attemptOutcome finalAttempt case run faults result = .committed w status)
    (hc : Recorded sys (.executeFinish sid faults)) :
    (w.case.isRecovered = case.isRecovered ∧ w.case.amountRecoveredPaise = case.amountRecoveredPaise ∧
      ∀ id, w.events.filter (isRecoveryOf id) = []) ∨
    ∃ state v, result = .ok state ∧ case.isRecovered = false ∧ state.caseIsRecovered = true ∧
      state.verificationResult = some v ∧
      .record (revenueRecovered case.id v) ∈ written case faults (.ok state) ∧
      ∀ stored, sys.db.cases.find case.id = some stored →
        stored.isRecovered = false ∧ stored.currency = "INR" := by
  cases result with
  | error f => exact .inl (kept_of_written ho (by simp [written]) (by simp [written]) (by simp [written]))
  | ok state =>
      obtain ⟨a, rfl, rfl, rfl, -, -, rfl⟩ := ended_ok he
      have hreach := hi.running sid a hs
      have hflag (b : Bool) (hb : .isRecovered b ∈ written a.case faults (.ok a.graph.state)) :
          b = a.graph.state.caseIsRecovered := by
        obtain ⟨_, hstate, hconf⟩ := written_conforms hb
        cases hstate
        exact hconf
      cases hl : a.case.isRecovered with
      | true =>
          -- The graph stopped at once, and has verified nothing.
          have hr := GraphEffects.recovered_of_reach hreach hl
          have hv := unverified_of_reach hl rfl hreach
          refine .inl (hl ▸ kept_of_unflagged ho (fun b hb => ?_) fun _ v hv' => ?_)
          · rw [hflag b hb, hr, hl]
          · rw [hv] at hv'
            cases hv'
      | false =>
          cases hr : a.graph.state.caseIsRecovered with
          | false =>
              refine .inl (hl ▸ kept_of_unflagged ho (fun b hb => ?_) fun hr' => ?_)
              · rw [hflag b hb, hr, hl]
              · rw [hr] at hr'
                cases hr'
          | true =>
              obtain ⟨v, hv⟩ := verified_of_reach hl hreach hr
              rcases hc sid faults _ _ _ _ _ v rfl hs he hl hr hv (by rw [ho]; simp) with
                ⟨k, f, hf, hk⟩ | ⟨hu, hf, hstored⟩
              · refine .inl (hl ▸ kept_of_unflagged ho (fun b hb => ?_) fun _ _ _ hb => ?_)
                · exact absurd hb (flag_not_written hf hk b)
                · exact flag_not_written hf hk true hb
              · exact .inr ⟨_, v, rfl, rfl, hr, hv, record_written hr hv hu hf, hstored⟩

theorem finish_represents {sid : Nat} {session : Session} (hi : Inv sys)
    (hs : sys.sessions sid = some session) (he : session.ended = some (run, case, finalAttempt, result))
    (ho : attemptOutcome finalAttempt case run faults result = .committed w status)
    (hc : Recorded sys (.executeFinish sid faults))
    (hst : Represents (sys.db.cases.find case.id) events st) :
    ∃ st', Standing.Step st st' ∧ Represents ((sys.db.cases.find case.id).map (mergeCase case w.case))
      (w.events.filter (isRecoveryOf case.id) ++ events) st' := by
  obtain ⟨hsome, hloaded⟩ := hi.loaded sid session case hs (ended_case he)
  obtain ⟨stored, hstored⟩ := Option.isSome_iff_exists.mp hsome
  rw [hstored] at hst ⊢
  rcases finish_cases hi hs he ho hc with ⟨hr, ha, hn⟩ | ⟨state, v, rfl, hl, hr, hv, hw, hopen⟩
  · refine ⟨st, .stay st, ?_⟩
    rw [hn, List.nil_append]
    exact hst.congr (by simp [mergeCase, hr]) (by simp [mergeCase, ha]) rfl
  · obtain ⟨hro, hcur⟩ := hopen stored hstored
    obtain ⟨rfl, rfl, hso⟩ := hst.open_row hro
    obtain ⟨e, hevents, hamount, hcurrency⟩ := committed_recovered hr hv ho hw
    obtain ⟨hwr, hwa⟩ := recovered_of_written hr hv ho hw
    refine ⟨.recovered v.amountRecoveredPaise "INR", .recover _ _,
      mergeCase case w.case stored, e, rfl, by rw [hevents]; rfl, ?_, ?_, hcur, hamount, hcurrency⟩
    · simp [mergeCase, hwr, hl, hro]
    · -- The row and what was loaded of it had no amount yet.
      simp [mergeCase, hwa, hloaded hl, hso]

/-- One step takes the standing of every case at most from open to recovered. -/
theorem ledger_refines (hi : Inv sys) (h : step settings sys op = some sys') (hc : Recorded sys op)
    (hst : Represents (sys.db.cases.find id) (recoveredEvents sys.db id) st) :
    ∃ st', Standing.Step st st' ∧ Represents (sys'.db.cases.find id) (recoveredEvents sys'.db id) st' := by
  obtain ⟨added, hrow, hevents⟩ := row_change h id
  rw [hevents]
  generalize sys'.db.cases.find id = row at hrow
  cases hrow with
  | kept => exact ⟨st, .stay st, hst⟩
  | created hf _ hr ha =>
      rw [hf] at hst
      cases st with
      | unsettled =>
          refine ⟨.unsettled, .stay _, hst.1, fun case' hcase => ?_⟩
          cases hcase
          exact ⟨hr, ha⟩
      | recovered amount currency =>
          obtain ⟨_, _, hnone, -⟩ := hst
          cases hnone
  | ordered hf => exact ⟨st, .stay st, (hf ▸ hst).congr rfl rfl rfl⟩
  | @captured case paymentId amount e hf hr he =>
      rw [hf] at hst
      obtain ⟨rfl, hnone, -⟩ := hst.open_row hr
      exact ⟨.recovered amount case.currency, .recover _ _, RazorpayCheckout.captured paymentId amount case, e,
        rfl, by rw [hnone]; rfl, rfl, rfl, rfl, he.amountPaise, he.currency⟩
  | finished hop hs he ho hid =>
      subst hop hid
      exact finish_represents hi hs he ho hc hst
  | @escalated sid case reason hop hs hid =>
      subst hid
      refine ⟨st, .stay st, ?_⟩
      obtain ⟨stored, hstored⟩ := Option.isSome_iff_exists.mp (hi.loaded sid _ case hs rfl).1
      rw [hstored] at hst ⊢
      exact hst.congr (by simp [mergeCase, escalated]) (by simp [mergeCase, escalated]) rfl

theorem loaded_step (hi : Inv sys) (h : step settings sys op = some sys') {sid : Nat} {session : Session}
    (hs : sys'.sessions sid = some session) (hcase : session.case? = some case) :
    (sys'.db.cases.find case.id).isSome = true ∧
      (case.isRecovered = false → case.amountRecoveredPaise = 0) := by
  have hrow := row_change h case.id
  rcases case_change h hs hcase with hf | ⟨old, ho, hc⟩
  · obtain ⟨st, hst⟩ := hi.standing case.id
    rw [hf] at hst
    exact ⟨isSome_of_row hrow (by rw [hf]; rfl), fun hr => (hst.open_row hr).2.2⟩
  · obtain ⟨hsome, hzero⟩ := hi.loaded sid old case ho hc
    exact ⟨isSome_of_row hrow hsome, hzero⟩

theorem inv_step (hi : Inv sys) (h : step settings sys op = some sys') (hc : Recorded sys op) : Inv sys' where
  standing id := by
    obtain ⟨st, hst⟩ := hi.standing id
    obtain ⟨st', -, hst'⟩ := ledger_refines hi h hc hst
    exact ⟨st', hst'⟩
  loaded _ _ _ hs hcase := loaded_step hi h hs hcase
  running := running_step hi.running h

variable {customers : Table Uuid Customer Customer.id}

theorem inv_of_reach (h : Reach (step settings) Recorded (init customers) sys) : Inv sys := by
  refine h.invariant (I := Inv) ⟨fun id => ⟨.unsettled, ?_⟩, ?_, ?_⟩
    fun _ _ _ _ hi hc hs => inv_step hi hs hc
  · exact ⟨rfl, by simp [init_rows]⟩
  · intro sid session case hs
    rw [init_sessions] at hs
    cases hs
  · exact running_init

/-- Recovery ledger agreement, in every run that records what it recovers. -/
theorem ledger_agrees (h : Reach (step settings) Recorded (init customers) sys)
    (hf : sys.db.cases.find id = some case) : Agrees sys.db case := by
  obtain ⟨st, hst⟩ := (inv_of_reach h).standing id
  obtain rfl : case.id = id := Table.find_key hf
  rw [hf] at hst
  exact hst.agrees

def sampleDigest : String := String.ofList (List.replicate 64 'a')

def sampleSettings : Settings where
  razorpayTestReady := true
  razorpayKeyId := "rzp_test_1"
  webhookConfigured := true
  checkoutSignature := fun _ _ => sampleDigest
  webhookSignature := fun _ => sampleDigest

def sampleFailure : PaymentFailedEvent where
  idempotencyKey := "evt_1"
  customerId := .ofDigit 2
  amountPaise := 100000
  failureReason := .gatewayTemporary

def sampleOrder : OrderResult where
  orderId := "order_1"
  amountPaise := 100000
  currency := "INR"
  provider := .razorpayTest

def capturedPayment : PaymentResult where
  paymentId := "pay_1"
  status := .success
  amountPaise := 100000
  currency := "INR"
  provider := .razorpayTest
  raw := some [("order_id", .str "order_1")]

def captureRequest : WebhookRequest where
  signature := some sampleDigest
  eventId := some "whk_1"
  event := some "payment.captured"
  raw := "payment.captured pay_1 order_1"
  body := some { event := "payment.captured", paymentId := some "pay_1", orderId := some "order_1" }

def captureOps : List Op :=
  [.createOrder { caseId := (Uuid.ofDigit 1).str } (.ok sampleOrder),
    .razorpayWebhook captureRequest (.ok capturedPayment)]

def capturedSys : Sys :=
  (exec (step sampleSettings) (init Table.empty) (.paymentFailed (.ofDigit 1) sampleFailure :: captureOps)).getD
    (init Table.empty)

def capturedRow : RecoveryCase :=
  RazorpayCheckout.captured "pay_1" 100000
    (ordered "order_1" (paymentFailureCase (.ofDigit 1) sampleFailure))

theorem capturedSys_recorded : Reach (step sampleSettings) Recorded (init Table.empty) capturedSys := by
  have hdone : (exec (step sampleSettings) (init Table.empty)
      (.paymentFailed (.ofDigit 1) sampleFailure :: captureOps)).isSome = true := by decide +kernel
  refine reach_getD _ (fun op hop sys => ?_) hdone
  simp only [captureOps, List.mem_cons, List.not_mem_nil, or_false] at hop
  rcases hop with rfl | rfl | rfl <;> exact fun _ _ _ _ _ _ _ _ h => by cases h

theorem capturedSys_reach : Reach (step sampleSettings) Any (init Table.empty) capturedSys :=
  capturedSys_recorded.any

theorem ledger_agrees_sample : Agrees capturedSys.db capturedRow :=
  ledger_agrees capturedSys_recorded
    (show capturedSys.db.cases.find (.ofDigit 1) = some capturedRow by decide +kernel)

def startedOps : List Op :=
  [.paymentFailed (.ofDigit 1) sampleFailure, .startLoad 0 (.ofDigit 1), .startCommit 0 (.ofDigit 3)]

/-- The final attempt recovers the case by a retry of the simulator. -/
def unrecordedSys : Sys :=
  (exec (step sampleSettings) (init Table.empty)
    (startedOps ++ attemptOps 0 (.ofDigit 3) true samplePolicy recoveringNodes {})).getD (init Table.empty)

theorem unrecorded_done : (exec (step sampleSettings) (init Table.empty)
    (startedOps ++ attemptOps 0 (.ofDigit 3) true samplePolicy recoveringNodes {})).isSome = true := by
  decide +kernel

theorem ledger_disagrees : ¬ ∀ sys id case, Reach (step sampleSettings) Any (init Table.empty) sys →
    sys.db.cases.find id = some case → Agrees sys.db case := by
  intro h
  have hreach : Reach (step sampleSettings) Any (init Table.empty) unrecordedSys :=
    reach_getD _ (fun _ _ _ => trivial) unrecorded_done
  have hrow : ∃ case ∈ unrecordedSys.db.cases.find (.ofDigit 1), case.isRecovered = true ∧
      recoveredEvents unrecordedSys.db case.id = [] := by
    decide +kernel
  obtain ⟨case, hf, hr, he⟩ := hrow
  obtain ⟨e, hevents, -⟩ := (h _ _ _ hreach hf).mp hr
  rw [he] at hevents
  cases hevents

end RevenueRescue.RecoveryLedger
