import RevenueRescue.Backend.CaseOperations
import RevenueRescue.Foundation.Machine
import RevenueRescue.Foundation.Parties

namespace RevenueRescue.Ingestion

open Enums Machine Models RecoveryService

inductive Event
  | paymentFailed (e : PaymentFailedEvent)
  | checkoutAbandoned (e : CheckoutAbandonedEvent)

namespace Event

def idempotencyKey : Event → String
  | paymentFailed e => e.idempotencyKey
  | checkoutAbandoned e => e.idempotencyKey

def customerId : Event → Uuid
  | paymentFailed e => e.customerId
  | checkoutAbandoned e => e.customerId

def case (id customerId : Uuid) : Event → RecoveryCase
  | paymentFailed e => paymentFailureCase id { e with customerId := customerId }
  | checkoutAbandoned e => checkoutAbandonmentCase id { e with customerId := customerId }

def reason : Event → String
  | paymentFailed e => "Payment failure: " ++ e.failureReason.value
  | checkoutAbandoned _ => "Checkout abandonment detected"

def amountPaise : Event → Int
  | paymentFailed e => e.amountPaise
  | checkoutAbandoned e => e.amountPaise

def currency : Event → String
  | paymentFailed e => e.currency
  | checkoutAbandoned e => e.currency

/-- A delivery of the event under another key. -/
def withKey (key : String) : Event → Event
  | paymentFailed e => paymentFailed { e with idempotencyKey := key }
  | checkoutAbandoned e => checkoutAbandoned { e with idempotencyKey := key }

theorem withKey_key (key : String) (e : Event) : (e.withKey key).idempotencyKey = key := by
  cases e <;> rfl

theorem amount_pos (e : Event) : 0 < e.amountPaise := by
  cases e with
  | paymentFailed e => exact e.amount_pos
  | checkoutAbandoned e => exact e.amount_pos

theorem case_id (id customerId : Uuid) (e : Event) : (e.case id customerId).id = id := by
  cases e <;> rfl

theorem case_key (id customerId : Uuid) (e : Event) :
    (e.case id customerId).sourceEventKey = e.idempotencyKey := by
  cases e <;> rfl

theorem case_amount (id customerId : Uuid) (e : Event) : (e.case id customerId).amountAtRiskPaise = e.amountPaise := by
  cases e <;> rfl

theorem case_currency (id customerId : Uuid) (e : Event) : (e.case id customerId).currency = e.currency := by
  cases e <;> rfl

theorem startable_stored {id customerId : Uuid} {e : Event} {row : RecoveryCase}
    (h : stored (e.case id customerId) = some row) : startable row = true := by
  obtain ⟨_, _, -, -, -, rfl⟩ := stored_eq_some.mp h
  cases e <;> rfl

end Event

inductive Answer
  | accepted (caseId : Uuid) (agentRunId : Option Uuid)
  | duplicate (caseId : Uuid)
  | internalError
  deriving DecidableEq

/-- How far a request has come. `stub` says that it has inserted its customer,
and the rows it holds are those of its own session. -/
inductive Phase
  | received
  | unmatched
  | unknownCustomer
  | newCustomer
  | resolved (customerId : Uuid) (stub : Bool)
  | inserted (case : RecoveryCase) (stub : Bool)
  | created (case : RecoveryCase)
  | started (case : RecoveryCase) (runId : Uuid)
  | running (case : RecoveryCase) (runId : Uuid)
  | answered (answer : Answer)
  /-- The process or its connection is gone, with what it had not committed. -/
  | lost
  deriving DecidableEq

structure Request where
  event : Event
  phase : Phase := .received

/-- The unique e-mail column of the customers, before it is hashed. -/
structure Email where
  email : String
  customerId : Uuid

structure Store where
  db : Db := {}
  emails : Table String Email Email.email := Table.empty
  dispatched : List Uuid := []

structure State extends Store where
  requests : List Request := []

/-- The e-mail of the synthetic customer with this id. -/
def stubEmail (id : Uuid) : String :=
  "synthetic-" ++ String.ofList ((id.digits.take 8).map Uuid.hexDigit) ++ "@synthetic.invalid"

def Request.holdsEmail (email : String) (r : Request) : Bool :=
  match r.phase with
  | .resolved _ true | .inserted _ true => stubEmail r.event.customerId = email
  | _ => false

def Request.holdsCase (key : String) (id : Uuid) (r : Request) : Bool :=
  match r.phase with
  | .inserted case _ => case.sourceEventKey = key || case.id = id
  | _ => false

def Request.holdsRun (id : Uuid) (r : Request) : Bool :=
  match r.phase with
  | .started _ runId => runId = id
  | _ => false

/-- The next statement of a request; `id` is the key of the row it inserts, if
it inserts one. An `INSERT` fails for a value that its column does not take,
waits while another session holds the value it needs, which is `none` here, and
fails once the value is committed. -/
def advance (s : State) (id : Uuid) (event : Event) : Phase → Option (Store × Phase)
  | .received =>
      match getCaseByIdempotencyKey s.db event.idempotencyKey with
      | some existing => some (s.toStore, .answered (.duplicate existing.id))
      | none => some (s.toStore, .unmatched)
  | .unmatched =>
      if (s.db.customers.find event.customerId).isSome then
        some (s.toStore, .resolved event.customerId false)
      else some (s.toStore, .unknownCustomer)
  | .unknownCustomer =>
      match s.emails.find (stubEmail event.customerId) with
      | some existing => some (s.toStore, .resolved existing.customerId false)
      | none => some (s.toStore, .newCustomer)
  | .newCustomer =>
      if s.requests.any (Request.holdsEmail (stubEmail event.customerId)) then none
      else if (s.db.customers.find event.customerId).isSome ||
          (s.emails.find (stubEmail event.customerId)).isSome then
        some (s.toStore, .answered .internalError)
      else some (s.toStore, .resolved event.customerId true)
  | .resolved customerId stub =>
      match stored (event.case id customerId) with
      | none => some (s.toStore, .answered .internalError)
      | some row =>
          if s.requests.any (Request.holdsCase row.sourceEventKey id) || (s.db.cases.find id).isSome then none
          else if (getCaseByIdempotencyKey s.db row.sourceEventKey).isSome then
            some (s.toStore, .answered .internalError)
          else some (s.toStore, .inserted row stub)
  | .inserted case stub =>
      (createCase s.db case event.reason).map fun db =>
        ({ s.toStore with
            db := db
            emails := if stub then (s.emails.insert ⟨stubEmail event.customerId, event.customerId⟩).getD s.emails
              else s.emails },
          .created case)
  | .created case =>
      -- The session keeps the row as it wrote it, so the gate reads that one.
      if (s.db.cases.find case.id).isSome && startable case then
        if s.requests.any (Request.holdsRun id) || (s.db.runs.find id).isSome then none
        else some (s.toStore, .started case id)
      else some (s.toStore, .answered (.accepted case.id none))
  | .started case runId =>
      (startAgentRun s.db case runId).map fun db => ({ s.toStore with db := db }, .running case runId)
  | .running case runId =>
      some ({ s.toStore with dispatched := runId :: s.dispatched }, .answered (.accepted case.id (some runId)))
  | .answered _ | .lost => none

inductive Label
  | receive (event : Event)
  | run (i : Nat) (id : Uuid)
  | fail (i : Nat)

def Phase.over : Phase → Bool
  | .answered _ | .lost => true
  | _ => false

def step (s : State) : Label → Option State
  | .receive event => some { s with requests := s.requests ++ [{ event := event }] }
  | .run i id =>
      match s.requests[i]? with
      | some r => (advance s id r.event r.phase).map fun out =>
          ⟨out.1, s.requests.set i { r with phase := out.2 }⟩
      | none => none
  | .fail i =>
      match s.requests[i]? with
      | some r => if r.phase.over then none
          else some { s with requests := s.requests.set i { r with phase := .lost } }
      | none => none

inductive Advance (s : State) (id : Uuid) (event : Event) : Phase → Store → Phase → Prop
  | duplicate (existing) (h : getCaseByIdempotencyKey s.db event.idempotencyKey = some existing) :
      Advance s id event .received s.toStore (.answered (.duplicate existing.id))
  | unmatched (h : getCaseByIdempotencyKey s.db event.idempotencyKey = none) :
      Advance s id event .received s.toStore .unmatched
  | known : Advance s id event .unmatched s.toStore (.resolved event.customerId false)
  | unknown (h : s.db.customers.find event.customerId = none) :
      Advance s id event .unmatched s.toStore .unknownCustomer
  | byEmail (customerId) : Advance s id event .unknownCustomer s.toStore (.resolved customerId false)
  | newCustomer (h : s.emails.find (stubEmail event.customerId) = none) :
      Advance s id event .unknownCustomer s.toStore .newCustomer
  | customerTaken (h : s.db.customers.find event.customerId ≠ none ∨
        s.emails.find (stubEmail event.customerId) ≠ none) :
      Advance s id event .newCustomer s.toStore (.answered .internalError)
  | insertCustomer : Advance s id event .newCustomer s.toStore (.resolved event.customerId true)
  | unstorable (customerId) (stub) (h : stored (event.case id customerId) = none) :
      Advance s id event (.resolved customerId stub) s.toStore (.answered .internalError)
  | keyTaken (customerId) (stub) (row) (hrow : stored (event.case id customerId) = some row)
      (h : getCaseByIdempotencyKey s.db row.sourceEventKey ≠ none) :
      Advance s id event (.resolved customerId stub) s.toStore (.answered .internalError)
  | insertCase (customerId) (stub) (row) (hrow : stored (event.case id customerId) = some row)
      (hfree : s.db.cases.find id = none) (hlock : ∀ r ∈ s.requests, r.holdsCase row.sourceEventKey id = false)
      (h : getCaseByIdempotencyKey s.db row.sourceEventKey = none) :
      Advance s id event (.resolved customerId stub) s.toStore (.inserted row stub)
  | commitCase (case) (stub) (db) (emails) (h : createCase s.db case event.reason = some db) :
      Advance s id event (.inserted case stub) { s.toStore with db := db, emails := emails } (.created case)
  | unstarted (case) (h : s.db.cases.find case.id = none ∨ startable case = false) :
      Advance s id event (.created case) s.toStore (.answered (.accepted case.id none))
  | startRun (case) (h : startable case = true) (hfree : s.db.runs.find id = none)
      (hlock : ∀ r ∈ s.requests, r.holdsRun id = false) :
      Advance s id event (.created case) s.toStore (.started case id)
  | commitRun (case) (runId) (db) (h : startAgentRun s.db case runId = some db) :
      Advance s id event (.started case runId) { s.toStore with db := db } (.running case runId)
  | dispatch (case) (runId) :
      Advance s id event (.running case runId) { s.toStore with dispatched := runId :: s.dispatched }
        (.answered (.accepted case.id (some runId)))

theorem advance_some {s : State} {id : Uuid} {event : Event} {p q : Phase} {store : Store}
    (h : advance s id event p = some (store, q)) : Advance s id event p store q := by
  cases p with
  | received =>
      simp only [advance] at h
      split at h
      · rename_i existing hk
        cases h
        exact .duplicate existing hk
      · rename_i hk
        cases h
        exact .unmatched hk
  | unmatched =>
      simp only [advance] at h
      split at h
      · cases h
        exact .known
      · rename_i hc
        cases h
        exact .unknown (by simpa using hc)
  | unknownCustomer =>
      simp only [advance] at h
      split at h
      · cases h
        exact .byEmail _
      · rename_i he
        cases h
        exact .newCustomer he
  | newCustomer =>
      simp only [advance] at h
      split at h
      · cases h
      split at h
      · rename_i hc
        cases h
        refine .customerTaken ?_
        simpa only [Bool.or_eq_true, Option.isSome_iff_ne_none] using hc
      · cases h
        exact .insertCustomer
  | resolved customerId stub =>
      simp only [advance] at h
      split at h
      · rename_i hrow
        cases h
        exact .unstorable customerId stub hrow
      rename_i row hrow
      split at h
      · cases h
      rename_i hfree
      simp only [Bool.or_eq_true, not_or, Bool.not_eq_true, List.any_eq_false, Option.isSome_eq_false_iff,
        Option.isNone_iff_eq_none] at hfree
      split at h
      · rename_i hk
        cases h
        exact .keyTaken customerId stub row hrow (Option.isSome_iff_ne_none.mp hk)
      · rename_i hk
        cases h
        exact .insertCase customerId stub row hrow hfree.2 hfree.1 (by simpa using hk)
  | inserted case stub =>
      obtain ⟨db, hdb, hout⟩ := Option.map_eq_some_iff.mp h
      cases hout
      exact .commitCase case stub db _ hdb
  | created case =>
      simp only [advance] at h
      split at h
      · rename_i hgate
        simp only [Bool.and_eq_true] at hgate
        split at h
        · cases h
        · rename_i hfree
          simp only [Bool.or_eq_true, not_or, Bool.not_eq_true, List.any_eq_false, Option.isSome_eq_false_iff,
            Option.isNone_iff_eq_none] at hfree
          cases h
          exact .startRun case hgate.2 hfree.2 hfree.1
      · rename_i hgate
        cases h
        refine .unstarted case ?_
        by_cases hf : s.db.cases.find case.id = none
        · exact .inl hf
        · refine .inr (Bool.eq_false_of_not_eq_true fun hs => hgate ?_)
          simp [Option.isSome_iff_ne_none, hf, hs]
  | started case runId =>
      obtain ⟨db, hdb, hout⟩ := Option.map_eq_some_iff.mp h
      cases hout
      exact .commitRun case runId db hdb
  | running case runId =>
      cases h
      exact .dispatch case runId
  | answered _ | lost => cases h

inductive Step (s : State) : Label → State → Prop
  | receive (event : Event) : Step s (.receive event) { s with requests := s.requests ++ [{ event := event }] }
  | run {i : Nat} {id : Uuid} {r : Request} {store : Store} {q : Phase} (hr : s.requests[i]? = some r)
      (h : Advance s id r.event r.phase store q) :
      Step s (.run i id) ⟨store, s.requests.set i { r with phase := q }⟩
  | fail {i : Nat} {r : Request} (hr : s.requests[i]? = some r) (h : r.phase.over = false) :
      Step s (.fail i) { s with requests := s.requests.set i { r with phase := .lost } }

theorem step_some {s s' : State} {a : Label} (h : step s a = some s') : Step s a s' := by
  cases a with
  | receive event =>
      cases h
      exact .receive event
  | run i id =>
      simp only [step] at h
      split at h
      · rename_i r hr
        obtain ⟨out, hout, hs⟩ := Option.map_eq_some_iff.mp h
        subst hs
        exact .run hr (advance_some hout)
      · cases h
  | fail i =>
      simp only [step] at h
      split at h
      · rename_i r hr
        split at h
        · cases h
        · rename_i hover
          cases h
          exact .fail hr (Bool.eq_false_of_not_eq_true hover)
      · cases h

/-- A request that has inserted its case holds the key of the row: it is free, and
no other request has inserted a row with it. -/
structure Locked (s : State) : Prop where
  row : ∀ (i : Nat) r case stub, s.requests[i]? = some r → r.phase = .inserted case stub →
    ∃ id customerId, stored (r.event.case id customerId) = some case
  free : ∀ (i : Nat) r case stub, s.requests[i]? = some r → r.phase = .inserted case stub →
    getCaseByIdempotencyKey s.db case.sourceEventKey = none
  apart : ∀ (i j : Nat) r r' case stub case' stub', i ≠ j → s.requests[i]? = some r → s.requests[j]? = some r' →
    r.phase = .inserted case stub → r'.phase = .inserted case' stub' → case.sourceEventKey ≠ case'.sourceEventKey

theorem locked_start {s : State} (h : s.requests = []) : Locked s := by
  refine ⟨?_, ?_, ?_⟩ <;> simp [h]

theorem lookup_createCase {db db' : Db} {case : RecoveryCase} {reason key : String}
    (h : createCase db case reason = some db') (hne : case.sourceEventKey ≠ key) :
    getCaseByIdempotencyKey db' key = getCaseByIdempotencyKey db key := by
  obtain ⟨cases, _, hi, -, hcases, -, -⟩ := createCase_eq_some h
  rw [getCaseByIdempotencyKey, getCaseByIdempotencyKey, Table.select, Table.select, hcases, Table.insert_rows hi,
    List.find?_cons_of_neg (by simpa using hne)]

theorem Step.quiet {s s' : State} {a : Label} (h : Step s a s') (ha : ∀ i id, a ≠ .run i id) :
    s'.db = s.db ∧ ∀ (i : Nat) r, s'.requests[i]? = some r →
      s.requests[i]? = some r ∨ r.phase = .received ∨ r.phase = .lost := by
  cases h with
  | receive event =>
      refine ⟨rfl, fun i r hi => ?_⟩
      rcases Parties.join_cases hi with rfl | hi
      · exact .inr (.inl rfl)
      · exact .inl hi
  | run => exact (ha _ _ rfl).elim
  | fail hr _ =>
      refine ⟨rfl, fun i r hi => ?_⟩
      rcases Parties.set_cases hi with ⟨-, rfl⟩ | ⟨-, hi⟩
      · exact .inr (.inr rfl)
      · exact .inl hi

theorem Advance.cases_eq {s : State} {id : Uuid} {event : Event} {p q : Phase} {store : Store}
    (h : Advance s id event p store q) (hp : ∀ case stub, p ≠ .inserted case stub) :
    store.db.cases = s.db.cases := by
  cases h with
  | commitCase case stub => exact (hp case stub rfl).elim
  | commitRun _ _ db hdb =>
      obtain ⟨_, _, -, -, rfl⟩ := startAgentRun_eq_some hdb
      rfl
  | _ => rfl

theorem Advance.inserted {s : State} {id : Uuid} {event : Event} {p q : Phase} {store : Store} {case : RecoveryCase}
    {stub : Bool} (h : Advance s id event p store q) (hq : q = .inserted case stub) :
    (∃ customerId, stored (event.case id customerId) = some case) ∧
      getCaseByIdempotencyKey store.db case.sourceEventKey = none ∧
      ∀ r ∈ s.requests, r.holdsCase case.sourceEventKey id = false := by
  cases h with
  | insertCase customerId _ row hrow _ hlock hnone =>
      cases hq
      exact ⟨⟨customerId, hrow⟩, hnone, hlock⟩
  | _ => cases hq

theorem key_ne_of_holdsCase {key : String} {id : Uuid} {r : Request} {case : RecoveryCase} {stub : Bool}
    (h : r.holdsCase key id = false) (hp : r.phase = .inserted case stub) : case.sourceEventKey ≠ key := by
  simp only [Request.holdsCase, hp, Bool.or_eq_false_iff, decide_eq_false_iff_not] at h
  exact h.1

theorem locked_step {s s' : State} {a : Label} (h : Locked s) (hs : step s a = some s') : Locked s' := by
  by_cases ha : ∃ i id, a = .run i id
  · obtain ⟨k, id, rfl⟩ := ha
    cases step_some hs with
    | @run _ _ x store q hx hadv =>
      refine ⟨?_, ?_, ?_⟩
      · intro i r case stub hi hp
        rcases Parties.set_cases hi with ⟨rfl, rfl⟩ | ⟨-, hi⟩
        · exact ⟨id, (hadv.inserted hp).1⟩
        · exact h.row i r case stub hi hp
      · intro i r case stub hi hp
        rcases Parties.set_cases hi with ⟨rfl, rfl⟩ | ⟨hne, hi⟩
        · exact (hadv.inserted hp).2.1
        · have hfree := h.free i r case stub hi hp
          by_cases hcommit : ∃ case stub, x.phase = .inserted case stub
          · -- The key of the case that is committed is not the one that this request holds.
            obtain ⟨case', stub', hx'⟩ := hcommit
            have hkeys := h.apart k i x r case' stub' case stub (Ne.symm hne) hx hi hx' hp
            rw [hx'] at hadv
            cases hadv with
            | commitCase _ _ db emails hdb => exact (lookup_createCase hdb hkeys).trans hfree
          · have hcases := hadv.cases_eq fun case stub hp' => hcommit ⟨case, stub, hp'⟩
            rw [getCaseByIdempotencyKey, hcases]
            exact hfree
      · intro i j r r' case stub case' stub' hne hi hj hp hp'
        rcases Parties.set_cases hi with ⟨rfl, rfl⟩ | ⟨-, hold⟩
        · rcases Parties.set_cases hj with ⟨rfl, -⟩ | ⟨-, hold'⟩
          · exact absurd rfl hne
          · exact (key_ne_of_holdsCase ((hadv.inserted hp).2.2 r' (List.mem_of_getElem? hold')) hp').symm
        · rcases Parties.set_cases hj with ⟨rfl, rfl⟩ | ⟨-, hold'⟩
          · exact key_ne_of_holdsCase ((hadv.inserted hp').2.2 r (List.mem_of_getElem? hold)) hp
          · exact h.apart i j r r' case stub case' stub' hne hold hold' hp hp'
  · obtain ⟨hdb, hquiet⟩ := (step_some hs).quiet fun i id he => ha ⟨i, id, he⟩
    have old {i : Nat} {r : Request} {case : RecoveryCase} {stub : Bool} (hi : s'.requests[i]? = some r)
        (hp : r.phase = .inserted case stub) : s.requests[i]? = some r := by
      rcases hquiet i r hi with hr | hr | hr
      · exact hr
      · cases hp.symm.trans hr
      · cases hp.symm.trans hr
    exact
      { row := fun i r case stub hi hp => h.row i r case stub (old hi hp) hp
        free := fun i r case stub hi hp => hdb ▸ h.free i r case stub (old hi hp) hp
        apart := fun i j r r' case stub case' stub' hne hi hj hp hp' =>
          h.apart i j r r' case stub case' stub' hne (old hi hp) (old hj hp') hp hp' }

/-- The database changes as the operations change it that take the request in
one piece, with the key and the currency that the columns took of it. -/
theorem step_db {s s' : State} {a : Label} (h : Locked s) (hs : step s a = some s') :
    s'.db = s.db ∨ (∃ id e, createCaseFromPaymentFailure s.db id e = some s'.db) ∨
      (∃ id e, createCaseFromCheckoutAbandonment s.db id e = some s'.db) ∨
      ∃ case runId, startAgentRun s.db case runId = some s'.db := by
  cases step_some hs with
  | receive | fail => exact .inl rfl
  | @run i id r store q hr hadv =>
      obtain ⟨event, phase⟩ := r
      cases hadv with
      | commitCase row stub db emails hdb =>
          have hfree : getCaseByIdempotencyKey s.db row.sourceEventKey = none := h.free i _ row stub hr rfl
          obtain ⟨caseId, customerId, hcase⟩ := h.row i _ row stub hr rfl
          have hrow : stored (event.case caseId customerId) = some row := hcase
          have hself := stored_stored hrow
          obtain ⟨currency, key, -, -, -, rfl⟩ := stored_eq_some.mp hrow
          cases event with
          | paymentFailed e =>
              refine .inr (.inl ⟨caseId,
                { e with customerId := customerId, currency := currency, idempotencyKey := key }, ?_⟩)
              have hkey : getCaseByIdempotencyKey s.db key = none := hfree
              rw [createCaseFromPaymentFailure, if_neg (by simp [hkey])]
              exact Option.bind_eq_some_iff.mpr ⟨_, hself, hdb⟩
          | checkoutAbandoned e =>
              refine .inr (.inr (.inl ⟨caseId,
                { e with customerId := customerId, currency := currency, idempotencyKey := key }, ?_⟩))
              have hkey : getCaseByIdempotencyKey s.db key = none := hfree
              rw [createCaseFromCheckoutAbandonment, if_neg (by simp [hkey])]
              exact Option.bind_eq_some_iff.mpr ⟨_, hself, hdb⟩
      | commitRun case runId db hdb => exact .inr (.inr (.inr ⟨case, runId, hdb⟩))
      | _ => exact .inl rfl

/-- A delivery whose key has a case is answered as a duplicate, whatever that case has been through. -/
theorem redelivered {s : State} {event : Event} {case : RecoveryCase} (id : Uuid)
    (h : getCaseByIdempotencyKey s.db event.idempotencyKey = some case) :
    exec step s [.receive event, .run s.requests.length id] =
      some { s with requests := s.requests ++ [⟨event, .answered (.duplicate case.id)⟩] } := by
  simp [exec, step, advance, h]

def sampleEvent : Event :=
  .paymentFailed {
    idempotencyKey := "evt_1"
    customerId := Uuid.ofDigit 1
    amountPaise := 50000
    failureReason := .gatewayTemporary
    reason_valid := Eq.refl true }

def whole (i : Nat) (caseId runId : Uuid) : List Label :=
  [.run i caseId, .run i caseId, .run i caseId, .run i caseId, .run i caseId, .run i caseId, .run i runId,
    .run i runId, .run i runId]

def endOf (labels : List Label) : State := (exec step {} labels).getD {}

end RevenueRescue.Ingestion
