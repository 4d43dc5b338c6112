import RevenueRescue.Backend.CaseOperations
import RevenueRescue.Backend.Checkout

namespace RevenueRescue.RecoverySystem

open PolicySchema Providers AgentSchemas DeterministicNodes RecoveryGraph
open Models RecoveryService RazorpayCheckout

/-- `execute_agent_run` inside its graph, with the rows as it loaded them. -/
structure Attempt where
  run : AgentRun
  case : RecoveryCase
  policy : PolicyConfig
  finalAttempt : Bool
  graph : Run
  running : run.runStatus = .running

def begin (run : AgentRun) (case : RecoveryCase) (policy : PolicyConfig) (finalAttempt : Bool)
    (running : run.runStatus = .running) : Attempt :=
  ⟨run, case, policy, finalAttempt, start (initialState case run.id), running⟩

/-- A database session in the middle of an operation that locks nothing. -/
inductive Session
  | starting (case : RecoveryCase)
  | loadedRun (run : AgentRun) (finalAttempt : Bool) (running : run.runStatus = .running)
  | failing (run : AgentRun) (case : RecoveryCase) (finalAttempt : Bool) (e : String)
      (running : run.runStatus = .running)
  | attempt (a : Attempt)
  | escalating (case : RecoveryCase) (reason : String)

/-- What happened outside for a case: an effect of the graph, or a payment of
a retry that the provider settled later. -/
inductive Entry
  | effect (caseId : Uuid) (x : Effect)
  | settled (caseId : Uuid) (paymentId : String)

structure Sys where
  db : Db := {}
  sessions : Nat → Option Session := fun _ => none
  log : List Entry := []

/-- The operations, in the pieces that other sessions can come between. A run
can be executed by any worker at any time and any number of times, as inline
execution, a queue with redelivery and retries by a task queue have it. -/
inductive Op
  | paymentFailed (id : Uuid) (event : PaymentFailedEvent)
  | checkoutAbandoned (id : Uuid) (event : CheckoutAbandonedEvent)
  | startLoad (sid : Nat) (caseId : Uuid)
  | startCommit (sid : Nat) (runId : Uuid)
  | executeLoadRun (sid : Nat) (runId : Uuid) (finalAttempt : Bool)
  | executeLoadCase (sid : Nat) (policy : Except String PolicyConfig)
  | executeNode (sid : Nat) (w : NodeInput)
  | executeFinish (sid : Nat) (faults : Faults)
  /-- The process or its connection is gone, with what it had not committed. -/
  | lost (sid : Nat)
  | escalateLoad (sid : Nat) (caseId : Uuid) (reason : String)
  | escalateCommit (sid : Nat)
  | createOrder (request : CreateOrderRequest) (answer : Except String OrderResult)
  | verifyPayment (request : VerifyPaymentRequest) (answer : Except String PaymentResult)
  | razorpayWebhook (request : WebhookRequest) (answer : Except String PaymentResult)
  | settle (caseId : Uuid) (paymentId : String)

def Op.sid : Op → Option Nat
  | .startLoad sid _ | .startCommit sid _ | .executeLoadRun sid _ _ | .executeLoadCase sid _
  | .executeNode sid _ | .executeFinish sid _ | .lost sid | .escalateLoad sid _ _ | .escalateCommit sid =>
      some sid
  | _ => none

def Session.case? : Session → Option RecoveryCase
  | .starting case | .failing _ case _ _ _ | .escalating case _ => some case
  | .attempt a => some a.case
  | .loadedRun _ _ _ => none

def Session.ended : Session → Option (AgentRun × RecoveryCase × Bool × Except Failure AgentState)
  | .failing run case finalAttempt e _ => some (run, case, finalAttempt, .error (.exception e))
  | .attempt a =>
      match a.graph.next with
      | .finished => some (a.run, a.case, a.finalAttempt, .ok a.graph.state)
      | .raised e => some (a.run, a.case, a.finalAttempt, .error (.exception e))
      | .node _ => none
  | _ => none

def newEffects (before after : Run) : List Effect :=
  (after.trace.take (after.trace.length - before.trace.length)).filterMap (·.effect)

def isPaymentCall (caseId : Uuid) : Entry → Bool
  | .effect id (.retryPayment _ _) | .effect id (.scheduleRetry _ _ _) => id = caseId
  | _ => false

namespace Sys

variable (sys : Sys)

def openSession (sid : Nat) (session : Session) : Option Sys :=
  match sys.sessions sid with
  | none => some { sys with sessions := Function.update sys.sessions sid (some session) }
  | some _ => none

def put (sid : Nat) (session : Option Session) : Sys :=
  { sys with sessions := Function.update sys.sessions sid session }

def commit (sid : Nat) (db : Db) : Sys :=
  { sys.put sid none with db := db }

end Sys

/-- One step. `none` is an operation that is not enabled, or that rolls back
without a trace. -/
def step (settings : Settings) (sys : Sys) : Op → Option Sys
  | .paymentFailed id event =>
      (createCaseFromPaymentFailure sys.db id event).map fun db => { sys with db := db }
  | .checkoutAbandoned id event =>
      (createCaseFromCheckoutAbandonment sys.db id event).map fun db => { sys with db := db }
  | .startLoad sid caseId =>
      match sys.db.cases.find caseId with
      | some case => if startable case then sys.openSession sid (.starting case) else none
      | none => none
  | .startCommit sid runId =>
      match sys.sessions sid with
      | some (.starting case) => (startAgentRun sys.db case runId).map (sys.commit sid)
      | _ => none
  | .executeLoadRun sid runId finalAttempt =>
      match sys.db.runs.find runId with
      | some run =>
          if running : run.runStatus = .running then
            sys.openSession sid (.loadedRun run finalAttempt running)
          else none
      | none => none
  | .executeLoadCase sid policy =>
      match sys.sessions sid with
      | some (.loadedRun run finalAttempt running) =>
          (sys.db.cases.find run.recoveryCaseId).map fun case =>
            match policy with
            | .ok policy => sys.put sid (some (.attempt (begin run case policy finalAttempt running)))
            | .error e => sys.put sid (some (.failing run case finalAttempt e running))
      | _ => none
  | .executeNode sid w =>
      match sys.sessions sid with
      | some (.attempt a) =>
          (RecoveryGraph.step a.policy recursionLimit a.graph w).map fun graph =>
            { sys.put sid (some (.attempt { a with graph := graph })) with
              log := (newEffects a.graph graph).map (.effect a.case.id) ++ sys.log }
      | _ => none
  | .executeFinish sid faults =>
      match (sys.sessions sid).bind Session.ended with
      | some (run, case, finalAttempt, result) =>
          match attemptOutcome finalAttempt case run faults result with
          | .committed w _ => some (sys.commit sid (commitWork sys.db run case w))
          | .rolledBack => some (sys.put sid none)
      | none => none
  | .lost sid => some (sys.put sid none)
  | .escalateLoad sid caseId reason =>
      match sys.db.cases.find caseId with
      | some case => sys.openSession sid (.escalating case reason)
      | none => none
  | .escalateCommit sid =>
      match sys.sessions sid with
      | some (.escalating case reason) => (escalateCase sys.db case reason).map (sys.commit sid)
      | _ => none
  | .createOrder request answer =>
      match createOrder settings sys.db request answer with
      | .ok (db, _) => some { sys with db := db }
      | .error _ => none
  | .verifyPayment request answer =>
      some { sys with db := (verifyPayment settings sys.db request answer).1 }
  | .razorpayWebhook request answer =>
      match razorpayWebhook settings sys.db request answer with
      | .ok (db, _) => some { sys with db := db }
      | .error _ => none
  | .settle caseId paymentId =>
      if sys.log.any (isPaymentCall caseId) then
        some { sys with log := .settled caseId paymentId :: sys.log }
      else none

/-- The operations of one attempt with nothing in between. -/
def attemptOps (sid : Nat) (runId : Uuid) (finalAttempt : Bool) (policy : PolicyConfig)
    (nodes : List NodeInput) (faults : Faults) : List Op :=
  .executeLoadRun sid runId finalAttempt :: .executeLoadCase sid (.ok policy) ::
    nodes.map (.executeNode sid) ++ [.executeFinish sid faults]

end RevenueRescue.RecoverySystem
