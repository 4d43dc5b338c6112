import RevenueRescue.Backend.RetryCap
import RevenueRescue.Foundation.History

namespace RevenueRescue.NoDoubleCollection

open Enums PolicySchema Providers AgentSchemas NodeUtils DeterministicNodes RecoveryGraph GraphEffects
open Models RecoveryService RazorpayCheckout RecoverySystem RecoveryLedger PolicyGate RunAtomicity
open RetryCap Machine History

/-- The provider has a successful payment that an attempt for the case made. -/
def isSuccess (id : Uuid) : Entry → Bool
  | .effect caseId x => decide (caseId = id) && (retryAnswer x).any fun r => decide (r.status = .success)
  | .settled caseId _ => decide (caseId = id)

def recordsSuccess (paymentId : String) : Entry → Bool
  | .effect _ x => (retryAnswer x).any fun r => decide (r.paymentId = paymentId ∧ r.status = .success)
  | .settled _ p => decide (p = paymentId)

def Collected (id : Uuid) (log : List Entry) : Prop := log.any (isSuccess id) = true

/-- No payment is asked for after one has succeeded. -/
def CollectsOnce (id : Uuid) (sys : Sys) : Prop :=
  Throughout (fun e past => isPaymentCall id e = true → ¬ Collected id past) sys.log

/-- `get_payment` reports what the provider has recorded. -/
def honest (id : Uuid) (sys : Sys) : Op → Bool
  | .executeNode sid w =>
      match sys.sessions sid, w.payment with
      | some (.attempt a), .ok payment =>
          match a.graph.state.executionResult with
          | some (.paymentRetry _ paymentId _ _ _) =>
              decide (a.case.id = id → a.graph.next = .node .verification →
                (payment.status = .success ↔ sys.log.any (recordsSuccess paymentId) = true))
          | _ => true
      | _, _ => true
  | _ => true

/-- The runs of the case come one after the other, with an honest provider. -/
structure Sequence (id : Uuid) (sys : Sys) (op : Op) : Prop where
  alone : ∀ sid policy run finalAttempt running sid' a, op = .executeLoadCase sid (.ok policy) →
    sys.sessions sid = some (.loadedRun run finalAttempt running) → run.recoveryCaseId = id →
    sys.sessions sid' = some (.attempt a) → a.case.id ≠ id
  honest : honest id sys op = true

def Awaits (paymentId : String) (r : Run) : Prop :=
  (r.next = .node .observation ∨ r.next = .node .verification) ∧ paymentId ≠ "" ∧
    ∃ attemptId outcome reason amount,
      r.state.executionResult = some (.paymentRetry attemptId paymentId outcome reason amount)

def named (id : Uuid) (sys : Sys) : Op → Bool
  | .executeNode sid w =>
      match sys.sessions sid, w.retry with
      | some (.attempt a), .ok r =>
          !(decide (a.case.id = id) && paying a.graph w && decide (r.status = .success)) ||
            decide (r.paymentId ≠ "")
      | _, _ => true
  | _ => true

/-- No success gets lost: an attempt that starts after one finds the case
recovered, a success comes with its payment id, and a payment settles while its
attempt has still to verify it, or when no attempt on the case has work left. -/
structure NothingLost (id : Uuid) (sys : Sys) (op : Op) : Prop extends Sequence id sys op where
  load : ∀ sid policy run finalAttempt running case, op = .executeLoadCase sid (.ok policy) →
    sys.sessions sid = some (.loadedRun run finalAttempt running) → run.recoveryCaseId = id →
    Collected id sys.log → sys.db.cases.find id = some case → case.isRecovered = true
  named : named id sys op = true
  settle : ∀ paymentId sid a, op = .settle id paymentId → sys.sessions sid = some (.attempt a) →
    a.case.id = id →
    Awaits paymentId a.graph ∨ a.graph.state.caseIsRecovered = true ∨ Closing a.graph

def Safe (log : List Entry) (r : Run) : Prop :=
  r.state.caseIsRecovered = true ∨
    (∃ paymentId, Awaits paymentId r ∧ log.any (recordsSuccess paymentId) = true) ∨ Closing r

variable {settings : Settings} {sys sys' : Sys} {op : Op} {id : Uuid} {policy : PolicyConfig}
variable {limit : Nat} {r r' : Run} {s : AgentState} {w : NodeInput} {n : Node} {x : Effect}
variable {log log' : List Entry}

theorem Safe.mono (h : Safe log r) (hl : ∀ e ∈ log, e ∈ log') : Safe log' r := by
  rcases h with h | ⟨paymentId, ha, hr⟩ | h
  · exact .inl h
  · obtain ⟨e, he, hx⟩ := List.any_eq_true.mp hr
    exact .inr (.inl ⟨paymentId, ha, List.any_eq_true.mpr ⟨e, hl e he, hx⟩⟩)
  · exact .inr (.inr h)

theorem Safe.quiet (h : Safe log r) (hi : PolicyGate.Inv policy r) (hn : r.next = .node n)
    (hs : Source policy r.state w n x) : isPayment x = false := by
  refine Bool.eq_false_iff.mpr fun hx => ?_
  obtain ⟨rfl, strat, -, -, hp⟩ := acting_permitted hi hn hs (by simp [acts, hx])
  rcases h with h | ⟨paymentId, ⟨hnext, -⟩, -⟩ | h
  · have hopen : r.state.caseIsRecovered = false := hp.notRecovered
    rw [h] at hopen
    cases hopen
  · rw [hn] at hnext
    simp at hnext
  · have hnode := h _ hn
    simp at hnode

theorem Safe.step (h : Safe log r) (hs : RecoveryGraph.step policy limit r w = some r')
    (hw : ∀ payment attemptId paymentId outcome reason amount, w.payment = .ok payment →
      r.next = .node .verification →
      r.state.executionResult = some (.paymentRetry attemptId paymentId outcome reason amount) →
      log.any (recordsSuccess paymentId) = true → payment.status = .success) : Safe log r' := by
  rcases h with h | ⟨paymentId, ⟨hnext, hid, attemptId, outcome, reason, amount, he⟩, hr⟩ | h
  · exact .inl (recovered_of_reach (.single trivial hs : Reach _ Any _ _) h)
  · cases GraphEffects.step_cases hs with
    | gaveUp => exact .inr (.inr (by simp [Closing]))
    | raised => exact .inr (.inr (by simp [Closing]))
    | @returned n u effect hn hl hsrc hu =>
        rcases hnext with hnext | hnext
        · obtain rfl : Node.observation = n := by simpa [hn, eq_comm] using hnext
          cases hu
          refine .inr (.inl ⟨paymentId, ⟨.inr ?_, hid, attemptId, outcome, reason, amount, he⟩, hr⟩)
          simp [successor]
        · obtain rfl : Node.verification = n := by simpa [hn, eq_comm] using hnext
          cases hu with
          | unverified hno => exact absurd (hno _ _ _ _ _ he) hid
          | @unpaid _ tx _ _ _ payment htx hne hp hst =>
              cases he.symm.trans htx
              exact absurd (hw payment _ _ _ _ _ hp hnext he hr) hst
          | recovered => exact .inl rfl
  · exact .inr (.inr (closing_step h hs).1)

theorem nodeActionExecution_paid (answer : Except String RetryResult) (id : String) {a : RetryResult}
    (h : (nodeActionExecution s answer id).effect = some x) (ha : retryAnswer x = some a) :
    answer = .ok a ∧ (nodeActionExecution s answer id).result = .ok (recordRetry (addTrace s .actionExecution) a) := by
  unfold nodeActionExecution at h ⊢
  by_cases hd : s.policyResult.map (·.decision) = some .approved
  · simp only [hd, ne_eq, not_true_eq_false, if_false] at h ⊢
    have hpaid {request : RetryRequest} (hx : x = .retryPayment request answer ∨
        ∃ delay, x = .scheduleRetry request delay answer) : answer = .ok a := by
      cases answer with
      | error e => rcases hx with rfl | ⟨delay, rfl⟩ <;> cases ha
      | ok b => rcases hx with rfl | ⟨delay, rfl⟩ <;> cases ha <;> rfl
    cases hs : (s.caseStrategy.map (·.recoveryStrategy)).getD .escalate <;> simp only [hs] at h ⊢
    case retryNow =>
      cases h
      obtain rfl := hpaid (.inl rfl)
      exact ⟨rfl, rfl⟩
    case scheduleRetry =>
      cases h
      obtain rfl := hpaid (.inr ⟨_, rfl⟩)
      exact ⟨rfl, rfl⟩
    case checkoutRecovery | reminder | paymentMethodUpdate => cases h; cases ha
    case promiseToPay | escalate => cases h
  · rw [if_pos hd] at h
    cases h

theorem awaits_of_paid {a : RetryResult} (hs : RecoveryGraph.step policy limit r w = some r')
    (hx : newEffects r r' = [x]) (ha : retryAnswer x = some a) (hne : a.paymentId ≠ "") :
    w.retry = .ok a ∧ Awaits a.paymentId r' := by
  rcases effect_step hs with hnone | ⟨n, y, hone, hn, hw, he, hafter⟩
  · rw [hnone] at hx
    cases hx
  · obtain rfl : x = y := by simpa [hone, eq_comm] using hx
    have hn' : n = .actionExecution := by
      refine ((nodeFunction_effect he).acts ?_).1
      cases x with
      | retryPayment | scheduleRetry => rfl
      | authorize | getPayment | sendMessage => cases ha
    subst hn'
    obtain ⟨hretry, hresult⟩ := nodeActionExecution_paid w.retry w.messageId he ha
    obtain ⟨hnext, hstate⟩ := hafter _ hresult
    refine ⟨hretry, .inl ?_, hne, a.attemptId, a.status, a.failureReason, a.amountPaise, ?_⟩
    · rw [hnext]
      simp [successor]
    · rw [hstate]
      rfl

structure Inv (id : Uuid) (sys : Sys) : Prop where
  once : CollectsOnce id sys
  safe : Collected id sys.log → ∀ sid a, sys.sessions sid = some (.attempt a) → a.case.id = id →
    Safe sys.log a.graph
  alone : ∀ sid sid' a b, sys.sessions sid = some (.attempt a) → sys.sessions sid' = some (.attempt b) →
    a.case.id = id → b.case.id = id → sid = sid'
  running : Running sys

variable {sid : Nat} {a : Attempt}

theorem reported_of_honest (h : Sequence id sys (.executeNode sid w)) (hs : sys.sessions sid = some (.attempt a))
    (hid : a.case.id = id) {payment : PaymentResult} {attemptId paymentId : String} {outcome : PaymentStatus}
    {reason : Option String} {amount : Int} (hp : w.payment = .ok payment)
    (hn : a.graph.next = .node .verification)
    (he : a.graph.state.executionResult = some (.paymentRetry attemptId paymentId outcome reason amount))
    (hr : sys.log.any (recordsSuccess paymentId) = true) : payment.status = .success := by
  have hh := h.honest
  simp only [honest, hs, hp, he, decide_eq_true_eq] at hh
  exact (hh hid hn).mpr hr

theorem attempt_change (h : step settings sys op = some sys') (hs : sys'.sessions sid = some (.attempt a)) :
    (∃ b, sys.sessions sid = some (.attempt b) ∧ b.case.id = a.case.id) ∨
    ∃ policy run finalAttempt running, op = .executeLoadCase sid (.ok policy) ∧
      sys.sessions sid = some (.loadedRun run finalAttempt running) ∧ run.recoveryCaseId = a.case.id := by
  have hc := session_change h sid
  rw [hs] at hc
  generalize hsession : some (Session.attempt a) = session at hc
  cases hc with
  | kept => exact .inl ⟨a, hsession.symm, rfl⟩
  | @advanced b w graph hop hold hg => cases hsession; exact .inl ⟨b, hold, rfl⟩
  | loadedCase running hop hold hf =>
      cases hsession
      exact .inr ⟨_, _, _, running, hop, hold, (Table.find_key hf).symm⟩
  | closed | starting | escalating | loadedRun | failing => cases hsession

theorem alone_step (hi : Inv id sys) (h : step settings sys op = some sys') (hc : Sequence id sys op)
    {sid' : Nat} {b : Attempt} (ha : sys'.sessions sid = some (.attempt a))
    (hb : sys'.sessions sid' = some (.attempt b)) (hida : a.case.id = id) (hidb : b.case.id = id) :
    sid = sid' := by
  rcases attempt_change h ha with ⟨a0, ha0, hcase⟩ | ⟨policy, run, fa, running, hop, hload, hcase⟩
  · rcases attempt_change h hb with ⟨b0, hb0, hcase'⟩ | ⟨policy, run, fa, running, hop, hload, hcase'⟩
    · exact hi.alone sid sid' a0 b0 ha0 hb0 (hcase.trans hida) (hcase'.trans hidb)
    · exact absurd (hcase.trans hida)
        (hc.alone sid' policy run fa running sid a0 hop hload (hcase'.trans hidb) ha0)
  · rcases attempt_change h hb with ⟨b0, hb0, hcase'⟩ | ⟨policy', run', fa', running', hop', -, -⟩
    · exact absurd (hcase'.trans hidb)
        (hc.alone sid policy run fa running sid' b0 hop hload (hcase.trans hida) hb0)
    · rw [hop] at hop'
      cases hop'
      rfl

theorem once_step (hi : Inv id sys) (h : step settings sys op = some sys') : CollectsOnce id sys' := by
  have hlog := log_change h
  have honce := hi.once
  unfold CollectsOnce at honce ⊢
  generalize sys'.log = log at hlog
  cases hlog with
  | kept => exact honce
  | settled => exact ⟨by simp [isPaymentCall], honce⟩
  | @effects sid a w graph hop hs hg =>
      rcases newEffects_step hg with hnone | ⟨n, x, hone, hn, -, hsource⟩
      · rw [hnone]
        exact honce
      · rw [hone]
        refine ⟨fun hcall hcollected => ?_, honce⟩
        rw [isPaymentCall_effect, Bool.and_eq_true, decide_eq_true_eq] at hcall
        have hsafe := hi.safe hcollected sid a hs hcall.1
        have hquiet := hsafe.quiet (inv_of_reach (hi.running sid a hs)) hn hsource
        rw [hcall.2] at hquiet
        cases hquiet

theorem safe_other (hi : Inv id sys) (hl : ∀ e ∈ sys.log, e ∈ log') (hc : Collected id sys.log)
    (hs : sys.sessions sid = some (.attempt a)) (hid : a.case.id = id) : Safe log' a.graph :=
  (hi.safe hc sid a hs hid).mono hl

theorem sessions_put (n : Nat) (s : Option Session) :
    (sys.put n s).sessions sid = if sid = n then s else sys.sessions sid := by
  simp [Sys.put, Function.update_apply]

theorem safe_opened (hi : Inv id sys) (hc : NothingLost id sys op) {n : Nat} {session : Session}
    (hchange : SessionChange sys op n (some session)) (hcol : Collected id sys.log)
    (hs : (sys.put n (some session)).sessions sid = some (.attempt a)) (hid : a.case.id = id) :
    Safe sys.log a.graph := by
  rw [sessions_put] at hs
  split at hs
  · generalize hsession : some session = s at hchange
    rw [hsession] at hs
    cases hchange with
    | kept => exact hi.safe hcol n a hs hid
    | loadedCase running hop hold hf =>
        cases hs
        have hkey := Table.find_key hf
        exact .inl (hc.load _ _ _ _ running _ hop hold (hkey.symm.trans hid) hcol
          (by rw [← hid]; exact hkey ▸ hf))
    | @advanced b w graph hop hold hg =>
        cases hs
        subst hop
        refine (hi.safe hcol n b hold hid).step hg ?_
        intro payment attemptId paymentId outcome reason amount hp hn he hr
        exact reported_of_honest hc.toSequence hold hid hp hn he hr
    | closed | starting | escalating | loadedRun | failing => cases hs
  · exact hi.safe hcol sid a hs hid

theorem isPayment_of_retryAnswer {r : RetryResult} (h : retryAnswer x = some r) : isPayment x = true := by
  cases x with
  | retryPayment | scheduleRetry => rfl
  | authorize | getPayment | sendMessage => cases h

theorem safe_of_success (hc : NothingLost id sys (.executeNode sid w)) {graph : Run}
    (hs : sys.sessions sid = some (.attempt a)) (hid : a.case.id = id)
    (hg : RecoveryGraph.step a.policy recursionLimit a.graph w = some graph)
    (hx : newEffects a.graph graph = [x]) {r : RetryResult} (hr : retryAnswer x = some r)
    (hst : r.status = .success) (hl : .effect id x ∈ log) : Safe log graph := by
  have hne : r.paymentId ≠ "" := by
    rcases effect_step hg with hnone | ⟨n, y, hone, hn, hw, he, -⟩
    · rw [hnone] at hx
      cases hx
    · obtain rfl : x = y := by simpa [hone, eq_comm] using hx
      have hpaying := paying_of_source hn hw (nodeFunction_effect he) (isPayment_of_retryAnswer hr)
      intro hempty
      have hretry : w.retry = .ok r := by
        have hact := ((nodeFunction_effect he).acts (by simp [acts, isPayment_of_retryAnswer hr])).1
        subst hact
        exact (nodeActionExecution_paid w.retry w.messageId he hr).1
      have hnamed := hc.named
      simp [named, hs, hretry, hid, hpaying, hst, hempty] at hnamed
  obtain ⟨-, hawaits⟩ := awaits_of_paid hg hx hr hne
  refine .inr (.inl ⟨r.paymentId, hawaits, List.any_eq_true.mpr ⟨_, hl, ?_⟩⟩)
  simp [recordsSuccess, hr, hst]

theorem safe_advanced (hi : Inv id sys) {n : Nat} {b : Attempt} {graph : Run}
    (hc : NothingLost id sys (.executeNode n w)) (hold : sys.sessions n = some (.attempt b))
    (hg : RecoveryGraph.step b.policy recursionLimit b.graph w = some graph)
    (hl : log = (newEffects b.graph graph).map (.effect b.case.id) ++ sys.log) (hcol : Collected id log)
    (hs : (sys.put n (some (.attempt { b with graph := graph }))).sessions sid = some (.attempt a))
    (hid : a.case.id = id) : Safe log a.graph := by
  have hmono : ∀ e ∈ sys.log, e ∈ log := by
    intro e he
    rw [hl]
    exact List.mem_append_right _ he
  rw [sessions_put] at hs
  by_cases hbefore : Collected id sys.log
  · split at hs
    · cases hs
      refine ((hi.safe hbefore n b hold hid).step hg ?_).mono hmono
      intro payment attemptId paymentId outcome reason amount hp hn he hr
      exact reported_of_honest hc.toSequence hold hid hp hn he hr
    · exact safe_other hi hmono hbefore hs hid
  · -- The success is the answer to this step.
    rcases newEffects_step hg with hnone | ⟨_, x, hone, -⟩
    · rw [hl, hnone] at hcol
      exact absurd hcol hbefore
    · rw [hone] at hl
      have hsuccess : isSuccess id (.effect b.case.id x) = true := by
        rw [hl] at hcol
        simpa [Collected, hbefore] using (Bool.or_eq_true_iff.mp hcol).resolve_right hbefore
      simp only [isSuccess, Bool.and_eq_true, decide_eq_true_eq, Option.any_eq_true] at hsuccess
      obtain ⟨hb, r, hr, hst⟩ := hsuccess
      split at hs
      · cases hs
        exact safe_of_success hc hold hid hg hone hr hst (by rw [hl, ← hb]; simp)
      · exact absurd (hi.alone sid n a b hs hold hid hb) (by assumption)

theorem safe_step (hi : Inv id sys) (h : step settings sys op = some sys') (hc : NothingLost id sys op)
    (hcol : Collected id sys'.log) (hs : sys'.sessions sid = some (.attempt a)) (hid : a.case.id = id) :
    Safe sys'.log a.graph := by
  cases RecoverySystem.step_cases h with
  | wrote => exact hi.safe hcol sid a hs hid
  | opened _ hchange =>
      have hsafe : Safe sys.log a.graph := safe_opened hi hc hchange hcol hs hid
      exact hsafe
  | @committed n =>
      refine hi.safe hcol sid a ?_ hid
      have hs : (sys.put n none).sessions sid = some (.attempt a) := hs
      rw [sessions_put] at hs
      split at hs
      · cases hs
      · exact hs
  | @closed n =>
      refine hi.safe hcol sid a ?_ hid
      rw [sessions_put] at hs
      split at hs
      · cases hs
      · exact hs
  | advanced hop hold hg =>
      subst hop
      exact safe_advanced hi hc hold hg rfl hcol hs hid
  | @settled caseId paymentId hop hcalled =>
      by_cases hcase : caseId = id
      · subst hcase
        rcases hc.settle paymentId sid a hop hs hid with ha | hr | hclosing
        · refine .inr (.inl ⟨paymentId, ha, List.any_eq_true.mpr ⟨_, List.mem_cons_self, ?_⟩⟩)
          simp [recordsSuccess]
        · exact .inl hr
        · exact .inr (.inr hclosing)
      · have hbefore : Collected id sys.log := by
          simpa [Collected, isSuccess, hcase] using hcol
        exact safe_other hi (fun e he => List.mem_cons_of_mem _ he) hbefore hs hid

theorem inv_step (hi : Inv id sys) (h : step settings sys op = some sys') (hc : NothingLost id sys op) :
    Inv id sys' where
  once := once_step hi h
  safe hcol _ _ hs hid := safe_step hi h hc hcol hs hid
  alone _ _ _ _ ha hb hida hidb := alone_step hi h hc.toSequence ha hb hida hidb
  running := running_step hi.running h

variable {customers : Table Uuid Customer Customer.id}

theorem inv_init (id : Uuid) : Inv id (init customers) where
  once := trivial
  safe h := by cases h
  alone sid _ a _ ha := by
    rw [init_sessions] at ha
    cases ha
  running := running_init

/-- No double collection: in runs of a case that come one after the other, no
payment is asked for after one has succeeded, as long as no success gets lost. -/
theorem collects_once (h : Reach (step settings) (NothingLost id) (init customers) sys) : CollectsOnce id sys := by
  have hi : Inv id sys := by
    refine h.invariant (inv_init id) ?_
    intro t op u _ hi hc hs
    exact inv_step hi hs hc
  exact hi.once

def solo (op : Op) : Bool := op.sid.all fun sid => decide (sid = 0)

theorem solo_sessions {P : Sys → Op → Prop} (hP : ∀ sys op, P sys op → solo op = true)
    (h : Reach (step settings) P (init customers) sys) (hn : sid ≠ 0) : sys.sessions sid = none := by
  refine h.invariant (I := fun sys => sys.sessions sid = none) (init_sessions sid) ?_
  intro t op u _ hi hc hs
  rw [sessions_kept hs, hi]
  intro hsid
  have hsolo := hP t op hc
  simp [solo, hsid, hn] at hsolo

theorem sequence_of_solo {P : Sys → Op → Prop} (hsolo : ∀ sys op, P sys op → solo op = true)
    (hhonest : ∀ sys op, P sys op → honest id sys op = true)
    (h : Reach (step settings) P (init customers) sys) (hc : P sys op) : Sequence id sys op where
  alone n policy run fa running sid' a hop hload hid ha := by
    have hn : n = 0 := by
      have hs := hsolo sys op hc
      rw [hop] at hs
      simpa [solo, Op.sid] using hs
    by_cases hs : sid' = 0
    · rw [hn] at hload
      rw [hs] at ha
      cases hload.symm.trans ha
    · rw [solo_sessions hsolo h hs] at ha
      cases ha
  honest := hhonest sys op hc

def findsRecovered (id : Uuid) (sys : Sys) : Op → Bool
  | .executeLoadCase _ _ => !sys.log.any (isSuccess id) || (sys.db.cases.find id).all (·.isRecovered)
  | .settle _ _ => false
  | _ => true

def nothingLost (id : Uuid) (sys : Sys) (op : Op) : Bool :=
  solo op && honest id sys op && named id sys op && findsRecovered id sys op

theorem nothingLost_sound (h : nothingLost id sys op = true)
    (hr : Reach (step settings) (fun sys op => nothingLost id sys op = true) (init customers) sys) :
    NothingLost id sys op where
  toSequence := by
    refine sequence_of_solo (fun sys op h => ?_) (fun sys op h => ?_) hr h
    · simp only [nothingLost, Bool.and_eq_true] at h
      exact h.1.1.1
    · simp only [nothingLost, Bool.and_eq_true] at h
      exact h.1.1.2
  load sid policy run fa running case hop hload hid hcol hf := by
    subst hop
    simp only [nothingLost, Bool.and_eq_true] at h
    have hcol : sys.log.any (isSuccess id) = true := hcol
    simpa [findsRecovered, hcol, hf] using h.2
  named := by
    simp only [nothingLost, Bool.and_eq_true] at h
    exact h.1.2
  settle paymentId sid a hop hs hid := by
    subst hop
    simp [nothingLost, findsRecovered] at h

def collectingNodes : List NodeInput :=
  sampleCycle .retryNow { retry := .ok { simulatedRetry with paymentId := (Uuid.ofDigit 7).str } } ++
    [({} : NodeInput), { payment := .ok { simulatedPayment with paymentId := (Uuid.ofDigit 7).str } }, {}]

def collectOps : List Op :=
  startedOps ++ [.startLoad 0 (.ofDigit 1), .startCommit 0 (.ofDigit 4)] ++
    attemptOps 0 (.ofDigit 3) true samplePolicy collectingNodes {} ++
    attemptOps 0 (.ofDigit 4) true samplePolicy [{}, {}] {}

def collectedSys : Sys :=
  (execIf (step sampleSettings) (nothingLost (.ofDigit 1)) (init Table.empty) collectOps).getD (init Table.empty)

theorem collects_once_sample :
    Collected (.ofDigit 1) collectedSys.log ∧ CollectsOnce (.ofDigit 1) collectedSys := by
  have hdone : (execIf (step sampleSettings) (nothingLost (.ofDigit 1)) (init Table.empty)
      collectOps).isSome = true := by decide +kernel
  have hreach : Reach (step sampleSettings) (fun sys op => nothingLost (.ofDigit 1) sys op = true)
      (init Table.empty) collectedSys := reach_of_execIf collectOps (fun _ _ h => h) hdone
  have hcollected : collectedSys.log.any (isSuccess (.ofDigit 1)) = true := by decide +kernel
  exact ⟨hcollected, collects_once (hreach.upgrade fun _ _ hr h => nothingLost_sound h hr)⟩

/-- The first attempt of a queued run collects and is rolled back; the next one pays again. -/
def twiceOps : List Op :=
  startedOps ++ attemptOps 0 (.ofDigit 3) false samplePolicy recoveringNodes {} ++
    attemptOps 0 (.ofDigit 3) false samplePolicy recoveringNodes {}

def inOrder (sys : Sys) (op : Op) : Bool := solo op && honest (.ofDigit 1) sys op

def twiceSys : Sys :=
  (execIf (step sampleSettings) inOrder (init Table.empty) twiceOps).getD (init Table.empty)

theorem collects_twice : ¬ ∀ id sys, Reach (step sampleSettings) (Sequence id) (init Table.empty) sys →
    CollectsOnce id sys := by
  intro h
  have hdone : (execIf (step sampleSettings) inOrder (init Table.empty) twiceOps).isSome = true := by
    decide +kernel
  have hreach : Reach (step sampleSettings) (fun sys op => inOrder sys op = true) (init Table.empty) twiceSys :=
    reach_of_execIf twiceOps (fun _ _ h => h) hdone
  have hsequence : Reach (step sampleSettings) (Sequence (.ofDigit 1)) (init Table.empty) twiceSys :=
    hreach.upgrade fun _ _ hr h => sequence_of_solo
      (fun _ _ h => (Bool.and_eq_true_iff.mp h).1) (fun _ _ h => (Bool.and_eq_true_iff.mp h).2) hr h
  -- The second call is the latest entry but one.
  have hcall : ∃ e ∈ (twiceSys.log.drop 1).head?, isPaymentCall (.ofDigit 1) e = true := by decide +kernel
  have hpast : (twiceSys.log.drop 1).tail.any (isSuccess (.ofDigit 1)) = true := by decide +kernel
  obtain ⟨e, he, hcall⟩ := hcall
  obtain ⟨past, hlog⟩ := List.head?_eq_some_iff.mp he
  rw [hlog] at hpast
  have hsplit : twiceSys.log = twiceSys.log.take 1 ++ e :: past := by
    rw [← hlog, List.take_append_drop]
  have honce : CollectsOnce (.ofDigit 1) twiceSys := h _ _ hsequence
  exact honce.split hsplit hcall hpast

end RevenueRescue.NoDoubleCollection
