import RevenueRescue.Backend.Models

namespace RevenueRescue.RecoveryService

open Enums PolicySchema AgentSchemas Models

/-- The arguments of `AuditService.record` that a caller passes, with their defaults. -/
structure AuditArgs where
  eventType : AuditEventType
  actor : ActorType
  recoveryCaseId : Option String := none
  transactionId : Option String := none
  amountPaise : Option Int := none
  currency : String := "INR"
  result : Option String := none
  reason : Option Reason := none
  agentRunId : Option String := none
  payload : Option AuditPayload := none

/-- `uuid.UUID(x) if x else None`. -/
def uuidArg : Option String → Except String (Option Uuid)
  | none => .ok none
  | some s =>
      if s = "" then .ok none
      else match Uuid.parse s with
        | some u => .ok (some u)
        | none => .error "badly formed hexadecimal UUID string"

@[simp] theorem uuidArg_none : uuidArg none = .ok none := rfl

@[simp] theorem uuidArg_str (u : Uuid) : uuidArg (some u.str) = .ok (some u) := by
  simp [uuidArg, Uuid.str_ne_empty]

/-- The event that `record` adds. A bad id raises before anything is added. -/
def auditEvent (a : AuditArgs) : Except String AuditEvent := do
  let caseId ← uuidArg a.recoveryCaseId
  let transactionId ← uuidArg a.transactionId
  let runId ← uuidArg a.agentRunId
  return {
    recoveryCaseId := caseId
    eventType := a.eventType
    actor := a.actor
    transactionId := transactionId
    amountPaise := a.amountPaise
    currency := a.currency
    result := a.result
    reason := a.reason
    agentRunId := runId
    payload := a.payload }

theorem auditEvent_case {a : AuditArgs} (caseId : Uuid) (hc : a.recoveryCaseId = some caseId.str)
    (ht : a.transactionId = none) (hr : a.agentRunId = none) :
    auditEvent a = .ok {
      recoveryCaseId := some caseId
      eventType := a.eventType
      actor := a.actor
      transactionId := none
      amountPaise := a.amountPaise
      currency := a.currency
      result := a.result
      reason := a.reason
      agentRunId := none
      payload := a.payload } := by
  simp only [auditEvent, hc, ht, hr, uuidArg_str, uuidArg_none]
  rfl

/-- What one session holds of an attempt: its two rows, and the events it added. -/
structure Work where
  run : AgentRun
  case : RecoveryCase
  events : List AuditEvent := []

/-- The statements of `_apply_agent_result` and of the `except` branch. -/
inductive Stmt
  | runStatus (status : RunStatus)
  | runNodeTrace (trace : NodeTrace)
  | runLlmOutput (output : Option StrategyOutput)
  | runError (text : String)
  | retryCount (n : Int)
  | communicationCount (n : Int)
  | isRecovered (b : Bool)
  | isStopped (b : Bool)
  | diagnosis (d : DiagnosisOutput)
  | strategy (s : StrategyOutput)
  | policyDecision (d : PolicyDecision)
  | amountRecovered (n : Int)
  | status (s : RecoveryCaseStatus)
  | escalationReason (r : Reason)
  | flush
  | record (a : AuditArgs)
  /-- A `record` inside its own `try`, whose exception is logged only. -/
  | recordGuarded (a : AuditArgs)

def Stmt.exec (w : Work) : Stmt → Except String Work
  | .runStatus s => .ok { w with run := { w.run with runStatus := s } }
  | .runNodeTrace trace => .ok { w with run := { w.run with nodeTrace := some trace } }
  | .runLlmOutput output => .ok { w with run := { w.run with llmOutput := output } }
  | .runError text => .ok { w with run := { w.run with error := some text } }
  | .retryCount n => .ok { w with case := { w.case with retryCount := n } }
  | .communicationCount n => .ok { w with case := { w.case with communicationCount := n } }
  | .isRecovered b => .ok { w with case := { w.case with isRecovered := b } }
  | .isStopped b => .ok { w with case := { w.case with isStopped := b } }
  | .diagnosis d => .ok { w with case := { w.case with diagnosis := some d } }
  | .strategy s => .ok { w with case := { w.case with strategy := some s } }
  | .policyDecision d => .ok { w with case := { w.case with policyDecision := some d } }
  | .amountRecovered n => .ok { w with case := { w.case with amountRecoveredPaise := n } }
  | .status s => .ok { w with case := { w.case with status := s } }
  | .escalationReason r => .ok { w with case := { w.case with escalationReason := some r } }
  | .flush => .ok w
  | .record a => (auditEvent a).map fun e => { w with events := e :: w.events }
  | .recordGuarded a =>
      match auditEvent a with
      | .ok e => .ok { w with events := e :: w.events }
      | .error _ => .ok w

theorem exec_record {w : Work} {a : AuditArgs} {e : AuditEvent} (h : auditEvent a = .ok e) :
    Stmt.exec w (.record a) = .ok { w with events := e :: w.events } := by
  simp only [Stmt.exec, h, Except.map]

theorem exec_record_error {w : Work} {a : AuditArgs} {x : String} (h : auditEvent a = .error x) :
    Stmt.exec w (.record a) = .error x := by
  simp only [Stmt.exec, h, Except.map]

/-- How a statement can fail from outside: it raises in Python, or the
database refuses it, after which the session can only roll back. -/
inductive Failure
  | exception (e : String)
  | database
  deriving DecidableEq

def sound : Stmt → Bool
  | .record a => (auditEvent a).isOk
  | _ => true

def Stmt.apply (w : Work) (s : Stmt) : Work :=
  match s.exec w with
  | .ok w' => w'
  | .error _ => w

def eventOf : Stmt → Option AuditEvent
  | .record a | .recordGuarded a => (auditEvent a).toOption
  | _ => none

variable {s : Stmt} {w w' : Work} {stmts : List Stmt} {fault : Option (Nat × Failure)}

theorem exec_of_sound (h : sound s = true) (w : Work) : ∃ w', s.exec w = .ok w' := by
  cases s with
  | record a =>
      have h : (auditEvent a).isOk = true := h
      cases ha : auditEvent a with
      | ok e => exact ⟨_, exec_record ha⟩
      | error e => rw [ha] at h; cases h
  | recordGuarded a =>
      cases ha : auditEvent a <;> simp only [Stmt.exec, ha] <;> exact ⟨_, rfl⟩
  | _ => exact ⟨_, rfl⟩

theorem exec_of_not_sound (h : sound s = false) (w : Work) : ∃ e, s.exec w = .error e := by
  cases s with
  | record a =>
      have h : (auditEvent a).isOk = false := h
      cases ha : auditEvent a with
      | ok e => rw [ha] at h; cases h
      | error e => exact ⟨e, exec_record_error ha⟩
  | _ => cases h

@[simp] theorem apply_record (a : AuditArgs) (w : Work) :
    Stmt.apply w (.record a) = { w with events := (auditEvent a).toOption.toList ++ w.events } := by
  cases h : auditEvent a with
  | ok e => simp [Stmt.apply, exec_record h, Except.toOption]
  | error x => simp [Stmt.apply, exec_record_error h, Except.toOption]

@[simp] theorem apply_recordGuarded (a : AuditArgs) (w : Work) :
    Stmt.apply w (.recordGuarded a) = { w with events := (auditEvent a).toOption.toList ++ w.events } := by
  cases h : auditEvent a <;> simp [Stmt.apply, Stmt.exec, h, Except.toOption]

theorem apply_events (w : Work) (s : Stmt) : (s.apply w).events = (eventOf s).toList ++ w.events := by
  cases s with
  | record a => rw [apply_record]; rfl
  | recordGuarded a => rw [apply_recordGuarded]; rfl
  | _ => rfl

inductive Ended
  | done (w : Work)
  | raised (w : Work) (e : String)
  | poisoned

/-- Run statements until one fails. A `fault` names the statement that fails
from outside; a swallowed exception skips its statement. -/
def runStmts : Option (Nat × Failure) → List Stmt → Work → Ended
  | _, [], w => .done w
  | some (0, .database), _ :: _, _ => .poisoned
  | some (0, .exception _), .recordGuarded _ :: rest, w => runStmts none rest w
  | some (0, .exception e), _ :: _, w => .raised w e
  | some (k + 1, f), s :: rest, w =>
      match s.exec w with
      | .ok w' => runStmts (some (k, f)) rest w'
      | .error e => .raised w e
  | none, s :: rest, w =>
      match s.exec w with
      | .ok w' => runStmts none rest w'
      | .error e => .raised w e

def Ended.work : Ended → Option Work
  | .done w | .raised w _ => some w
  | .poisoned => none

/-- The statements that take effect before a block ends. -/
def carriedOut : Option (Nat × Failure) → List Stmt → List Stmt
  | _, [] => []
  | some (0, .database), _ :: _ => []
  | some (0, .exception _), .recordGuarded _ :: rest => carriedOut none rest
  | some (0, .exception _), _ :: _ => []
  | some (k + 1, f), s :: rest => if sound s then s :: carriedOut (some (k, f)) rest else []
  | none, s :: rest => if sound s then s :: carriedOut none rest else []

/-- A block leaves what the statements that took effect leave. -/
theorem runStmts_work (h : w' ∈ (runStmts fault stmts w).work) :
    w' = (carriedOut fault stmts).foldl Stmt.apply w := by
  induction stmts generalizing fault w with
  | nil => rcases fault with _ | ⟨k, f⟩ <;> simpa [runStmts, Ended.work, carriedOut, eq_comm] using h
  | cons s rest ih =>
      have hstep (fault' : Option (Nat × Failure))
          (h : w' ∈ Ended.work (match s.exec w with
            | .ok w1 => runStmts fault' rest w1
            | .error e => Ended.raised w e)) :
          w' = (if sound s then s :: carriedOut fault' rest else []).foldl Stmt.apply w := by
        cases hs : sound s with
        | true =>
            obtain ⟨w1, hw1⟩ := exec_of_sound hs w
            have happ : s.apply w = w1 := by simp only [Stmt.apply, hw1]
            rw [hw1] at h
            rw [if_pos rfl, List.foldl_cons, happ]
            exact ih h
        | false =>
            obtain ⟨e, he⟩ := exec_of_not_sound hs w
            rw [he] at h
            simpa [Ended.work, eq_comm] using h
      rcases fault with _ | ⟨_ | k, f⟩
      · exact hstep none h
      · cases f with
        | database => simp [runStmts, Ended.work] at h
        | exception e =>
            cases s with
            | recordGuarded a => exact ih h
            | _ => simpa [runStmts, Ended.work, carriedOut, eq_comm] using h
      · exact hstep (some (k, f)) h

theorem carriedOut_sublist (fault : Option (Nat × Failure)) (stmts : List Stmt) :
    (carriedOut fault stmts).Sublist stmts := by
  induction stmts generalizing fault with
  | nil => simp [carriedOut]
  | cons s rest ih =>
      have hstep (fault' : Option (Nat × Failure)) :
          (if sound s then s :: carriedOut fault' rest else []).Sublist (s :: rest) := by
        split
        · exact (ih fault').cons_cons s
        · exact List.nil_sublist _
      rcases fault with _ | ⟨_ | k, f⟩
      · exact hstep none
      · cases f with
        | database => exact List.nil_sublist _
        | exception e =>
            cases s with
            | recordGuarded a => exact (ih none).cons _
            | _ => exact List.nil_sublist _
      · exact hstep (some (k, f))

theorem carriedOut_sound (h : s ∈ carriedOut fault stmts) : sound s = true := by
  induction stmts generalizing fault with
  | nil => simp [carriedOut] at h
  | cons x rest ih =>
      have hstep (fault' : Option (Nat × Failure))
          (h : s ∈ if sound x then x :: carriedOut fault' rest else []) : sound s = true := by
        cases hx : sound x with
        | false => simp [hx] at h
        | true =>
            rw [if_pos hx] at h
            rcases List.mem_cons.mp h with rfl | h
            · exact hx
            · exact ih h
      rcases fault with _ | ⟨_ | k, f⟩
      · exact hstep none h
      · cases f with
        | database => simp [carriedOut] at h
        | exception e =>
            cases x with
            | recordGuarded a => exact ih h
            | _ => simp [carriedOut] at h
      · exact hstep (some (k, f)) h

theorem runStmts_keeps {P : Work → Prop} (hP : ∀ s ∈ carriedOut fault stmts, ∀ w, P w → P (s.apply w))
    (h : P w) (hw : w' ∈ (runStmts fault stmts w).work) : P w' := by
  rw [runStmts_work hw]
  exact List.foldlRecOn _ _ h fun w hw s hs => hP s hs w hw

theorem foldl_sets {β : Type} {f : Work → β} {b : β} {l : List Stmt}
    (hP : ∀ s ∈ l, ∀ w, f (s.apply w) = f w ∨ f (s.apply w) = b) (hs : s ∈ l)
    (hset : ∀ w, f (s.apply w) = b) (w : Work) : f (l.foldl Stmt.apply w) = b := by
  induction l generalizing w with
  | nil => cases hs
  | cons x l ih =>
      have hrest : ∀ s ∈ l, ∀ w, f (s.apply w) = f w ∨ f (s.apply w) = b :=
        fun s hs => hP s (List.mem_cons_of_mem x hs)
      rw [List.foldl_cons]
      rcases List.mem_cons.mp hs with rfl | hs
      · exact List.foldlRecOn l Stmt.apply (motive := fun w => f w = b) (hset w) fun w hw s hs =>
          (hrest s hs w).elim (fun h => h.trans hw) id
      · exact ih hrest hs _

theorem foldl_events (l : List Stmt) (w : Work) :
    (l.foldl Stmt.apply w).events = (l.filterMap eventOf).reverse ++ w.events := by
  induction l generalizing w with
  | nil => rfl
  | cons s l ih =>
      rw [List.foldl_cons, ih, apply_events]
      cases h : eventOf s <;> simp [h]

def isGuarded : Stmt → Bool
  | .recordGuarded _ => true
  | _ => false

theorem carriedOut_front {t : Stmt} {front rest : List Stmt} (hg : ∀ s ∈ front, isGuarded s = false)
    (ht : t ∈ carriedOut fault (front ++ rest)) (hn : t ∉ front) :
    ∀ s ∈ front, s ∈ carriedOut fault (front ++ rest) := by
  induction front generalizing fault with
  | nil => simp
  | cons x front ih =>
      have hg' : ∀ s ∈ front, isGuarded s = false := fun s hs => hg s (List.mem_cons_of_mem x hs)
      simp only [List.mem_cons, not_or] at hn
      have hstep (fault' : Option (Nat × Failure))
          (ht : t ∈ if sound x then x :: carriedOut fault' (front ++ rest) else []) :
          ∀ s ∈ x :: front, s ∈ if sound x then x :: carriedOut fault' (front ++ rest) else [] := by
        cases hx : sound x with
        | false => simp [hx] at ht
        | true =>
            simp only [hx, if_true, List.mem_cons, hn.1, false_or] at ht
            rw [if_pos rfl]
            exact List.forall_mem_cons.mpr
              ⟨List.mem_cons_self, fun s hs => List.mem_cons_of_mem x (ih hg' ht hn.2 s hs)⟩
      rcases fault with _ | ⟨_ | k, f⟩
      · exact hstep none ht
      · cases f with
        | database => simp [carriedOut] at ht
        | exception e =>
            cases x with
            | recordGuarded a => exact absurd (hg (.recordGuarded a) List.mem_cons_self) (by simp [isGuarded])
            | _ => simp [carriedOut] at ht
      · exact hstep (some (k, f)) ht

/-- A statement takes effect when all in front of it do and nothing fails by then. -/
theorem mem_carriedOut {t : Stmt} {front rest : List Stmt} (hs : ∀ s ∈ front, sound s = true)
    (ht : sound t = true) (hf : ∀ k f, fault = some (k, f) → front.length < k) :
    t ∈ carriedOut fault (front ++ t :: rest) := by
  induction front generalizing fault with
  | nil =>
      rcases fault with _ | ⟨_ | k, f⟩
      · simp [carriedOut, ht]
      · exact absurd (hf 0 f rfl) (Nat.not_lt_zero _)
      · simp [carriedOut, ht]
  | cons x front ih =>
      have hx : sound x = true := hs x List.mem_cons_self
      have ih := @ih
      rcases fault with _ | ⟨_ | k, f⟩
      · simp only [List.cons_append, carriedOut, hx, if_true]
        exact List.mem_cons_of_mem x (ih (fun s h => hs s (List.mem_cons_of_mem x h)) nofun)
      · exact absurd (hf 0 f rfl) (Nat.not_lt_zero _)
      · simp only [List.cons_append, carriedOut, hx, if_true]
        refine List.mem_cons_of_mem x (ih (fun s h => hs s (List.mem_cons_of_mem x h)) ?_)
        intro j g hj
        cases hj
        exact Nat.lt_of_succ_lt_succ (hf _ _ rfl)

theorem carriedOut_stopped {k : Nat} {f : Failure} {front rest : List Stmt}
    (hg : ∀ s ∈ front, isGuarded s = false) (hk : k < front.length)
    (hs : s ∈ carriedOut (some (k, f)) (front ++ rest)) : s ∈ front.take k := by
  induction front generalizing k with
  | nil => cases hk
  | cons x front ih =>
      cases k with
      | zero =>
          cases f with
          | database => cases hs
          | exception e =>
              cases x with
              | recordGuarded a => cases hg _ List.mem_cons_self
              | _ => cases hs
      | succ k =>
          simp only [List.cons_append, carriedOut] at hs
          split at hs
          · rw [List.take_succ_cons]
            rcases List.mem_cons.mp hs with rfl | hs
            · exact List.mem_cons_self
            · exact List.mem_cons_of_mem x
                (ih (fun s h => hg s (List.mem_cons_of_mem x h)) (Nat.lt_of_succ_lt_succ hk) hs)
          · cases hs

end RevenueRescue.RecoveryService
