import RevenueRescue.Backend.Trail
import RevenueRescue.Foundation.Restriction

namespace RevenueRescue.Isolation

open Enums PolicySchema Providers AgentSchemas DeterministicNodes
open Models RecoveryService RazorpayCheckout RecoverySystem Machine Table

def Entry.caseId : Entry → Uuid
  | .effect caseId _ | .settled caseId _ => caseId

/-- `part` is what the database has of one case. It can have missed webhooks of other cases. -/
structure Part (caseId : Uuid) (db part : Db) : Prop where
  cases : Restricts (fun case => case.id = caseId) db.cases part.cases
  runs : Restricts (fun run => run.recoveryCaseId = caseId) db.runs part.runs
  audit : part.audit = db.audit.filter fun e => e.recoveryCaseId = some caseId
  webhooks : ∀ receipt, db.webhooks.find receipt = none → part.webhooks.find receipt = none

/-- `solo` is what the system has of one case: its rows, its part of the ledger, its sessions and what they did outside. -/
structure Solo (caseId : Uuid) (sys solo : Sys) : Prop where
  db : Part caseId sys.db solo.db
  sessions : ∀ sid, solo.sessions sid = (sys.sessions sid).filter fun session => session.caseId = caseId
  log : solo.log = sys.log.filter fun x => Entry.caseId x = caseId

variable {settings : Settings} {db db' part : Db} {sys sys' solo : Sys} {op : Op} {case : RecoveryCase}
  {run : AgentRun} {caseId : Uuid} {sid : Nat} {session : Session}

section Others

end Others

section Own

theorem Part.find {id : Uuid} (h : Part caseId db part) (hid : case.id = caseId) (hf : db.cases.find id = some case) :
    part.cases.find id = some case :=
  h.cases.find_of_mem (decide_eq_true hid) hf

theorem Part.findByOrder {orderId : String} (h : Part caseId db part) (hid : case.id = caseId)
    (hf : RazorpayCheckout.findByOrder db orderId = some case) : RazorpayCheckout.findByOrder part orderId = some case :=
  h.cases.select (decide_eq_true hid) hf

theorem Part.update {f : RecoveryCase → RecoveryCase} {key : Uuid} (h : Part caseId db part) (hf : ∀ c, (f c).id = c.id) :
    Restricts (fun case => case.id = caseId) (db.cases.update key f hf) (part.cases.update key f hf) :=
  h.cases.update hf fun c => by rw [hf]

variable {answer : Except String PaymentResult} {paymentId orderId source : String} {eventId : Option String}

theorem Solo.held (h : Solo caseId sys solo) (hid : session.caseId = caseId) (hs : sys.sessions sid = some session) :
    solo.sessions sid = some session := by
  rw [h.sessions, hs]
  exact Option.filter_some_pos (decide_eq_true hid)

theorem Solo.free (h : Solo caseId sys solo) (hs : sys.sessions sid = none) : solo.sessions sid = none := by
  rw [h.sessions, hs]
  rfl

theorem Solo.wrote (h : Solo caseId sys solo) (hp : Part caseId db part) :
    Solo caseId { sys with db := db } { solo with db := part } := ⟨hp, h.sessions, h.log⟩

/-- The same step of the same session here and there. -/
theorem Solo.advance {new : Option Session} {entries : List Entry} (h : Solo caseId sys solo) (hp : Part caseId db part)
    (hs : ∀ session ∈ new, session.caseId = caseId) (he : ∀ x ∈ entries, Entry.caseId x = caseId) :
    Solo caseId { sys.put sid new with db := db, log := entries ++ sys.log }
      { solo.put sid new with db := part, log := entries ++ solo.log } := by
  refine ⟨hp, fun n => ?_, ?_⟩
  · simp only [Sys.put]
    by_cases hn : n = sid
    · subst hn
      rw [Function.update_self, Function.update_self]
      cases new with
      | none => rfl
      | some session =>
          have hown : decide (session.caseId = caseId) = true := decide_eq_true (hs session rfl)
          rw [Option.filter_some, if_pos hown]
    · rw [Function.update_of_ne hn, Function.update_of_ne hn]
      exact h.sessions n
  · have hall : entries.filter (fun x => Entry.caseId x = caseId) = entries :=
      List.filter_eq_self.mpr fun x hx => by simpa using he x hx
    rw [List.filter_append, hall, h.log]

theorem Solo.moved {new : Option Session} (h : Solo caseId sys solo) (hp : Part caseId db part)
    (hs : ∀ session ∈ new, session.caseId = caseId) :
    Solo caseId { sys.put sid new with db := db } { solo.put sid new with db := part } := by
  have hnone : ∀ x ∈ ([] : List Entry), Entry.caseId x = caseId := fun _ hx => by cases hx
  exact h.advance hp hs hnone

theorem Solo.closed (h : Solo caseId sys solo) (hp : Part caseId db part) :
    Solo caseId (sys.commit sid db) (solo.commit sid part) :=
  h.moved hp fun _ hs => by cases hs

theorem Solo.opened (h : Solo caseId sys solo) (hid : session.caseId = caseId)
    (hs : sys.openSession sid session = some sys') :
    ∃ solo', solo.openSession sid session = some solo' ∧ Solo caseId sys' solo' := by
  have hfree := h.free (openSession_free hs)
  refine ⟨solo.put sid (some session), by rw [Sys.openSession, hfree]; rfl, ?_⟩
  rw [openSession_eq_some hs]
  exact h.moved h.db fun _ hs => by cases hs; exact hid

end Own

/-- What a run has left of one case is what a run of its own steps leaves, without the others. -/
def Replayed (settings : Settings) (caseId : Uuid) (solo : Sys) (ops : List Op) (sys' : Sys) : Prop :=
  ∃ own solo', own.Sublist ops ∧ Along (step settings) (fun sys op => subject sys op = some caseId) solo own ∧
    exec (step settings) solo own = some solo' ∧ Solo caseId sys' solo'

theorem Replayed.skip {ops : List Op} (op : Op) (h : Replayed settings caseId solo ops sys') :
    Replayed settings caseId solo (op :: ops) sys' := by
  obtain ⟨own, solo', hsub, halong, hexec, hsolo⟩ := h
  exact ⟨own, solo', hsub.cons op, halong, hexec, hsolo⟩

theorem Replayed.take {ops : List Op} {solo1 : Sys} (hid : subject solo op = some caseId)
    (hs : step settings solo op = some solo1) (h : Replayed settings caseId solo1 ops sys') :
    Replayed settings caseId solo (op :: ops) sys' := by
  obtain ⟨own, solo', hsub, halong, hexec, hsolo⟩ := h
  refine ⟨op :: own, solo', hsub.cons_cons op, ⟨hid, fun t ht => ?_⟩, ?_, hsolo⟩
  · rw [hs] at ht
    cases ht
    exact halong
  · rw [exec, hs, Option.bind_some]
    exact hexec

end RevenueRescue.Isolation
