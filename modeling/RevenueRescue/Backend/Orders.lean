import RevenueRescue.Backend.CheckoutSoundness
import RevenueRescue.Foundation.Parties
import RevenueRescue.Providers.RazorpayTest

namespace RevenueRescue.OrderCreation

open Enums Providers Models RecoveryService RazorpayCheckout RecoverySystem Machine

/-- What `create_order` comes to before it calls the provider: an answer, or
the locked row of a case that has no order. -/
inductive Opening
  | answered (answer : Except HttpError CreateOrderResponse)
  | calling (case : RecoveryCase)

def openOrder (settings : Settings) (db : Db) (request : CreateOrderRequest) : Opening :=
  if !settings.razorpayTestReady then .answered (.error ⟨503, "Razorpay Test Mode is not configured"⟩)
  else match Uuid.parse request.caseId with
  | none => .answered (.error ⟨400, "Invalid case_id"⟩)
  | some id =>
      match db.cases.find id with
      | none => .answered (.error ⟨404, "Recovery case not found"⟩)
      | some case =>
          if case.status ∈ [.recovered, .stopped, .escalated] ∨ case.isRecovered = true ∨
              case.isStopped = true then
            .answered (.error ⟨409, "Recovery case is terminal"⟩)
          else
            match case.razorpayOrderId.filter (· ≠ "") with
            | some orderId =>
                .answered (.ok {
                  orderId := orderId
                  amountPaise := case.amountAtRiskPaise
                  currency := case.currency
                  keyId := settings.razorpayKeyId
                  caseId := case.id.str
                  provider := .razorpayTest })
            | none => .calling case

def orderRequest (case : RecoveryCase) : RazorpayTest.OrderRequest where
  amountPaise := case.amountAtRiskPaise
  currency := case.currency
  caseId := case.id.str
  customerId := case.customerId.str
  notes := [("failure_reason", case.failureReason.value), ("scenario", case.scenario.value)]

/-- The case with its new order. -/
def orderedCases (cases : Table Uuid RecoveryCase RecoveryCase.id) (id : Uuid) (orderId : String) :
    Table Uuid RecoveryCase RecoveryCase.id :=
  cases.update id (ordered orderId) (ordered_id orderId)

/-- The commit of the new order and the answer. -/
def closeOrder (settings : Settings) (db : Db) (case : RecoveryCase) (order : OrderResult) :
    Except HttpError (Db × CreateOrderResponse) :=
  if orderIdTaken db case order.orderId then .error serverError
  else
    .ok ({ db with cases := orderedCases db.cases case.id order.orderId }, {
      orderId := order.orderId
      amountPaise := order.amountPaise
      currency := order.currency
      keyId := settings.razorpayKeyId
      caseId := case.id.str
      provider := order.provider })

/-- Where a request stands: before the lock of the row, under the lock before
and after the call of the provider, or answered. -/
inductive Phase
  | waiting (request : CreateOrderRequest)
  | calling (request : CreateOrderRequest) (case : RecoveryCase)
  | committing (request : CreateOrderRequest) (case : RecoveryCase) (order : OrderResult)
  | done (request : CreateOrderRequest) (answer : Except HttpError CreateOrderResponse)

def Phase.held : Phase → Option RecoveryCase
  | .calling _ case | .committing _ case _ => some case
  | .waiting _ | .done _ _ => none

/-- A call of `order.create`, with the stored row of the case at that moment. -/
structure Call where
  data : RazorpayTest.OrderData
  row : Option RecoveryCase

/-- The rest of the system, with the requests for orders that came in. -/
structure Sys where
  base : RecoverySystem.Sys := {}
  requests : List Phase := []
  calls : List Call := []

inductive Op
  | arrive (request : CreateOrderRequest)
  | lock (i : Nat)
  | call (i : Nat) (client : Option RazorpayTest.Client)
  /-- The commit; `answered` is false when the order is stored and the request fails after that. -/
  | commit (i : Nat) (answered : Bool)
  | lost (i : Nat)
  | other (op : RecoverySystem.Op)

namespace Sys

variable (sys : Sys)

def put (i : Nat) (phase : Phase) : Sys := { sys with requests := sys.requests.set i phase }

def locked (id : Uuid) : Bool := sys.requests.any fun phase => phase.held.any (·.id = id)

/-- No locked row is written by another transaction. -/
def Respects (db : Db) : Prop :=
  ∀ phase ∈ sys.requests, ∀ case ∈ phase.held, db.cases.find case.id = sys.base.db.cases.find case.id

instance (db : Db) : Decidable (sys.Respects db) := inferInstanceAs (Decidable (∀ phase ∈ sys.requests, _))

end Sys

def isCreateOrder : RecoverySystem.Op → Bool
  | .createOrder _ _ => true
  | _ => false

def step (settings : Settings) (sys : Sys) : Op → Option Sys
  | .arrive request => some { sys with requests := sys.requests ++ [.waiting request] }
  | .lock i =>
      match sys.requests[i]? with
      | some (.waiting request) =>
          if (Uuid.parse request.caseId).any sys.locked then none
          else
            match openOrder settings sys.base.db request with
            | .answered answer => some (sys.put i (.done request answer))
            | .calling case => some (sys.put i (.calling request case))
      | _ => none
  | .call i client =>
      match sys.requests[i]? with
      | some (.calling request case) =>
          let data := RazorpayTest.orderData (orderRequest case)
          let calls := client.toList.map (fun _ => ⟨data, sys.base.db.cases.find case.id⟩) ++ sys.calls
          match RazorpayTest.createOrder client (orderRequest case) with
          | .ok order => some { sys.put i (.committing request case order) with calls := calls }
          | .error _ =>
              some { sys.put i (.done request (.error ⟨502, "Razorpay order creation failed"⟩)) with calls := calls }
      | _ => none
  | .commit i answered =>
      match sys.requests[i]? with
      | some (.committing request case order) =>
          match closeOrder settings sys.base.db case order with
          | .ok (db, response) =>
              some { sys.put i (.done request (if answered then .ok response else .error serverError)) with
                base := { sys.base with db := db } }
          | .error e => some (sys.put i (.done request (.error e)))
      | _ => none
  | .lost i =>
      match sys.requests[i]? with
      | some (.waiting request) | some (.calling request _) | some (.committing request _ _) =>
          some (sys.put i (.done request (.error serverError)))
      | _ => none
  | .other op =>
      if isCreateOrder op then none
      else (RecoverySystem.step settings sys.base op).bind fun base =>
        if sys.Respects base.db then some { sys with base := base } else none

/-- A provider never gives an order the empty id. -/
def NamesOrders (_ : Sys) : Op → Prop
  | .call _ client => ∀ c ∈ client, ∀ data orderId, c.createOrder data = .ok orderId → orderId ≠ ""
  | _ => True

/-- No request is under way, and no stored order has the empty id. -/
structure Start (sys : Sys) : Prop where
  requests : sys.requests = []
  calls : sys.calls = []
  named : ∀ id case, sys.base.db.cases.find id = some case → case.razorpayOrderId ≠ some ""

/-- The answer to a request is the order of its case. -/
structure Answers (db : Db) (request : CreateOrderRequest) (response : CreateOrderResponse)
    (case : RecoveryCase) : Prop where
  request : Uuid.parse request.caseId = some case.id
  row : db.cases.find case.id = some case
  orderId : case.razorpayOrderId = some response.orderId
  amount : response.amountPaise = case.amountAtRiskPaise
  currency : response.currency = case.currency

/-- One order for a case, over every run of requests and of the rest of the system. -/
structure OneOrder (settings : Settings) (sys0 : Sys) : Prop where
  answers : ∀ sys request response, Reach (step settings) NamesOrders sys0 sys →
    .done request (.ok response) ∈ sys.requests → ∃ case, Answers sys.base.db request response case
  same : ∀ sys request request' response response', Reach (step settings) NamesOrders sys0 sys →
    .done request (.ok response) ∈ sys.requests → .done request' (.ok response') ∈ sys.requests →
    Uuid.parse request.caseId = Uuid.parse request'.caseId → response.orderId = response'.orderId
  kept : ∀ sys sys' case orderId, Reach (step settings) NamesOrders sys0 sys →
    Reach (step settings) NamesOrders sys sys' → sys.base.db.cases.find case.id = some case →
    case.razorpayOrderId = some orderId →
    ∃ case', sys'.base.db.cases.find case.id = some case' ∧ case'.razorpayOrderId = some orderId ∧
      case'.amountAtRiskPaise = case.amountAtRiskPaise ∧ case'.currency = case.currency
  calls : ∀ sys call, Reach (step settings) NamesOrders sys0 sys → call ∈ sys.calls →
    ∃ case, call.row = some case ∧ ¬ Terminal case ∧ call.data = RazorpayTest.orderData (orderRequest case)
  /-- A request that gets a fresh order from the provider stores it and answers with it. -/
  placed : ∀ (sys : Sys) (i : Nat) request case client orderId, Reach (step settings) NamesOrders sys0 sys →
    sys.requests[i]? = some (.calling request case) →
    client.createOrder (RazorpayTest.orderData (orderRequest case)) = .ok orderId → orderId ≠ "" →
    orderIdTaken sys.base.db case orderId = false →
    ∃ sys' response case', exec (step settings) sys [.call i (some client), .commit i true] = some sys' ∧
      sys'.requests[i]? = some (.done request (.ok response)) ∧ response.orderId = orderId ∧
      Answers sys'.base.db request response case'

variable {settings : Settings} {sys sys' sys0 : Sys} {db db' : Db} {case : RecoveryCase} {id : Uuid}
variable {request : CreateOrderRequest} {response : CreateOrderResponse} {order : OrderResult} {op : Op}

/-- A request whose case is open and has no order. -/
structure Vacant (settings : Settings) (db : Db) (request : CreateOrderRequest) (case : RecoveryCase) : Prop where
  ready : settings.razorpayTestReady = true
  request : Uuid.parse request.caseId = some case.id
  row : db.cases.find case.id = some case
  unsettled : ¬ Terminal case
  orderId : case.razorpayOrderId.filter (· ≠ "") = none

theorem openOrder_calling (h : openOrder settings db request = .calling case) : Vacant settings db request case := by
  unfold openOrder at h
  split at h
  · cases h
  rename_i hready
  cases hid : Uuid.parse request.caseId with
  | none => simp [hid] at h
  | some id =>
      cases hf : db.cases.find id with
      | none => simp [hid, hf] at h
      | some row =>
          simp only [hid, hf] at h
          split at h
          · cases h
          rename_i hopen
          split at h
          · cases h
          rename_i horder
          cases h
          obtain rfl := Table.find_key hf
          exact ⟨by simpa using hready, hid, hf, hopen, horder⟩

theorem openOrder_answered (h : openOrder settings db request = .answered (.ok response)) :
    ∃ case, Answers db request response case := by
  unfold openOrder at h
  split at h
  · cases h
  cases hid : Uuid.parse request.caseId with
  | none => simp [hid] at h
  | some id =>
      cases hf : db.cases.find id with
      | none => simp [hid, hf] at h
      | some row =>
          simp only [hid, hf] at h
          split at h
          · cases h
          split at h
          · rename_i horder
            cases h
            obtain rfl := Table.find_key hf
            exact ⟨row, hid, hf, (Option.filter_eq_some_iff.mp horder).1, rfl, rfl⟩
          · cases h

theorem closeOrder_ok (h : closeOrder settings db case order = .ok (db', response)) :
    db' = { db with cases := db.cases.update case.id (ordered order.orderId) (ordered_id order.orderId) } ∧
      response.orderId = order.orderId ∧ response.amountPaise = order.amountPaise ∧
      response.currency = order.currency := by
  unfold closeOrder at h
  split at h
  · cases h
  · cases h
    exact ⟨rfl, rfl, rfl, rfl⟩

/-- With the row locked, the parts of `create_order` come to what it does in one piece. -/
theorem createOrder_vacant (h : Vacant settings db request case) (order : OrderResult) :
    createOrder settings db request (.ok order) = closeOrder settings db case order := by
  have hterminal : ¬ (case.status ∈ [RecoveryCaseStatus.recovered, .stopped, .escalated] ∨ case.isRecovered = true ∨
      case.isStopped = true) := h.unsettled
  simp only [createOrder, h.ready, Bool.not_true, Bool.false_eq_true, if_false, h.request, h.row, if_neg hterminal,
    h.orderId, closeOrder, orderedCases]

structure SameOrder (case case' : RecoveryCase) : Prop where
  orderId : case'.razorpayOrderId = case.razorpayOrderId
  amount : case'.amountAtRiskPaise = case.amountAtRiskPaise
  currency : case'.currency = case.currency

/-- A change of the cases that leaves every order as it is, and adds none. -/
structure SameOrders (db db' : Db) : Prop where
  kept : ∀ id case, db.cases.find id = some case → ∃ case', db'.cases.find id = some case' ∧ SameOrder case case'
  fresh : ∀ id case', db.cases.find id = none → db'.cases.find id = some case' → case'.razorpayOrderId = none

theorem SameOrders.of_cases (h : db'.cases = db.cases) : SameOrders db db' where
  kept id case hf := ⟨case, h ▸ hf, rfl, rfl, rfl⟩
  fresh id case' hf hf' := by
    rw [h, hf] at hf'
    cases hf'

theorem SameOrders.of_update {id : Uuid} {f : RecoveryCase → RecoveryCase} (hf : ∀ case, (f case).id = case.id)
    (h : db'.cases = db.cases.update id f hf) (hsame : ∀ case, SameOrder case (f case)) : SameOrders db db' where
  kept id' case hfind := by
    rw [h, Table.find_update, hfind]
    split
    · exact ⟨f case, rfl, hsame case⟩
    · exact ⟨case, rfl, rfl, rfl, rfl⟩
  fresh id' case' hnone hfind := by
    rw [h, Table.find_update, hnone] at hfind
    split at hfind <;> cases hfind

theorem SameOrders.of_insert {cases : Table Uuid RecoveryCase RecoveryCase.id} (hi : db.cases.insert case = some cases)
    (h : db'.cases = cases) (hnone : case.razorpayOrderId = none) : SameOrders db db' where
  kept id row hf := by
    rw [h, Table.find_insert hi]
    split
    · rename_i hid
      have hnew := Table.find_none_of_insert hi
      rw [hid, hf] at hnew
      cases hnew
    · exact ⟨row, hf, rfl, rfl, rfl⟩
  fresh id row hf hf' := by
    rw [h, Table.find_insert hi, hf] at hf'
    split at hf'
    · cases hf'
      exact hnone
    · cases hf'

theorem sameOrders_of_served {q : Request} (h : Served settings db q db')
    (hq : ∀ request answer, q ≠ .createOrder request answer) : SameOrders db db' := by
  cases h with
  | kept | refused => exact .of_cases rfl
  | ordered => exact absurd rfl (hq _ _)
  | captured => exact .of_update (captured_id _ _) rfl fun _ => ⟨rfl, rfl, rfl⟩

theorem sameOrders_of_create {reason : String} (h : createCase db case reason = some db')
    (hnone : case.razorpayOrderId = none) : SameOrders db db' := by
  obtain ⟨cases, event, hi, -, hc, -, -⟩ := createCase_eq_some h
  exact .of_insert hi hc hnone

/-- Only `create_order` writes an order, and nothing writes the amount or the currency of a case. -/
theorem sameOrders_step {base base' : RecoverySystem.Sys} {op : RecoverySystem.Op} (hop : isCreateOrder op = false)
    (h : RecoverySystem.step settings base op = some base') : SameOrders base.db base'.db := by
  cases op with
  | paymentFailed newId event =>
      obtain ⟨db, hdb, rfl⟩ := Option.map_eq_some_iff.mp h
      rcases createCaseFromPaymentFailure_eq_some hdb with rfl | ⟨-, row, hrow, hcreate⟩
      · exact .of_cases rfl
      · obtain ⟨_, _, -, -, -, rfl⟩ := stored_eq_some.mp hrow
        exact sameOrders_of_create hcreate rfl
  | checkoutAbandoned newId event =>
      obtain ⟨db, hdb, rfl⟩ := Option.map_eq_some_iff.mp h
      rcases createCaseFromCheckoutAbandonment_eq_some hdb with rfl | ⟨-, row, hrow, hcreate⟩
      · exact .of_cases rfl
      · obtain ⟨_, _, -, -, -, rfl⟩ := stored_eq_some.mp hrow
        exact sameOrders_of_create hcreate rfl
  | startCommit n runId =>
      simp only [RecoverySystem.step] at h
      split at h
      · obtain ⟨db, hdb, rfl⟩ := Option.map_eq_some_iff.mp h
        obtain ⟨runs, event, -, -, rfl⟩ := startAgentRun_eq_some hdb
        exact .of_cases rfl
      · cases h
  | executeFinish n faults =>
      simp only [RecoverySystem.step] at h
      split at h
      · split at h
        · cases h
          exact .of_update (mergeCase_id _ _) rfl fun _ => ⟨rfl, rfl, rfl⟩
        · cases h
          exact .of_cases rfl
      · cases h
  | escalateCommit n =>
      simp only [RecoverySystem.step] at h
      split at h
      · obtain ⟨db, hdb, rfl⟩ := Option.map_eq_some_iff.mp h
        obtain ⟨event, -, rfl⟩ := escalateCase_eq_some hdb
        exact .of_update (mergeCase_id _ _) rfl fun _ => ⟨rfl, rfl, rfl⟩
      · cases h
  | createOrder => cases hop
  | verifyPayment request answer =>
      cases h
      exact sameOrders_of_served (verifyPayment_served settings base.db request answer) fun _ _ h => Request.noConfusion h
  | razorpayWebhook request answer =>
      simp only [RecoverySystem.step] at h
      split at h
      · rename_i ho
        cases h
        exact sameOrders_of_served (razorpayWebhook_served ho) fun _ _ h => Request.noConfusion h
      · cases h
  | startLoad n caseId =>
      simp only [RecoverySystem.step] at h
      split at h
      · split at h
        · rw [openSession_eq_some h]
          exact .of_cases rfl
        · cases h
      · cases h
  | executeLoadRun n runId finalAttempt =>
      simp only [RecoverySystem.step] at h
      split at h
      · split at h
        · rw [openSession_eq_some h]
          exact .of_cases rfl
        · cases h
      · cases h
  | executeLoadCase n policy =>
      simp only [RecoverySystem.step] at h
      split at h
      · obtain ⟨case, -, rfl⟩ := Option.map_eq_some_iff.mp h
        cases policy <;> exact .of_cases rfl
      · cases h
  | executeNode n w =>
      simp only [RecoverySystem.step] at h
      split at h
      · obtain ⟨graph, -, rfl⟩ := Option.map_eq_some_iff.mp h
        exact .of_cases rfl
      · cases h
  | lost n =>
      cases h
      exact .of_cases rfl
  | escalateLoad n caseId reason =>
      simp only [RecoverySystem.step] at h
      split at h
      · rw [openSession_eq_some h]
        exact .of_cases rfl
      · cases h
  | settle caseId paymentId =>
      simp only [RecoverySystem.step] at h
      split at h <;> cases h
      exact .of_cases rfl

def Named (db : Db) : Prop := ∀ id case, db.cases.find id = some case → case.razorpayOrderId ≠ some ""

/-- A change of the cases that leaves every order that there is, and names those that it adds. -/
structure Grows (db db' : Db) : Prop where
  kept : ∀ id case, db.cases.find id = some case → ∃ case', db'.cases.find id = some case' ∧
    case'.amountAtRiskPaise = case.amountAtRiskPaise ∧ case'.currency = case.currency ∧
    ∀ orderId, orderId ≠ "" → case.razorpayOrderId = some orderId → case'.razorpayOrderId = some orderId
  named : Named db → Named db'

theorem Grows.refl (db : Db) : Grows db db := ⟨fun _ case hf => ⟨case, hf, rfl, rfl, fun _ _ h => h⟩, fun h => h⟩

theorem Grows.trans {a b c : Db} (hab : Grows a b) (hbc : Grows b c) : Grows a c where
  kept id case hf := by
    obtain ⟨case1, hf1, hamount1, hcurrency1, horder1⟩ := hab.kept id case hf
    obtain ⟨case2, hf2, hamount2, hcurrency2, horder2⟩ := hbc.kept id case1 hf1
    exact ⟨case2, hf2, hamount2.trans hamount1, hcurrency2.trans hcurrency1,
      fun orderId hne h => horder2 orderId hne (horder1 orderId hne h)⟩
  named h := hbc.named (hab.named h)

theorem SameOrders.grows (h : SameOrders db db') : Grows db db' where
  kept id case hf := by
    obtain ⟨case', hf', hsame⟩ := h.kept id case hf
    exact ⟨case', hf', hsame.amount, hsame.currency, fun _ _ ho => hsame.orderId.trans ho⟩
  named hn id case' hf' := by
    cases hf : db.cases.find id with
    | none =>
        rw [h.fresh id case' hf hf']
        nofun
    | some case =>
        obtain ⟨row, hrow, hsame⟩ := h.kept id case hf
        obtain rfl := Option.some.inj (hrow.symm.trans hf')
        rw [hsame.orderId]
        exact hn id case hf

/-- What the provider answers for a case. -/
structure Placed (case : RecoveryCase) (order : OrderResult) : Prop where
  named : order.orderId ≠ ""
  amount : order.amountPaise = case.amountAtRiskPaise
  currency : order.currency = case.currency

theorem closeOrder_grows (hv : Vacant settings db request case) (hp : Placed case order)
    (h : closeOrder settings db case order = .ok (db', response)) : Grows db db' := by
  obtain ⟨rfl, -⟩ := closeOrder_ok h
  constructor
  · intro id row hf
    dsimp only
    rw [Table.find_update, hf]
    split
    · rename_i hid
      refine ⟨ordered order.orderId row, rfl, rfl, rfl, fun orderId hne ho => ?_⟩
      -- The row is the one that has no order yet.
      obtain rfl := Option.some.inj ((hid ▸ hf).symm.trans hv.row)
      have hnone := hv.orderId
      rw [ho] at hnone
      simp [hne] at hnone
    · exact ⟨row, rfl, rfl, rfl, fun _ _ ho => ho⟩
  · intro hn id row hf
    dsimp only at hf
    rw [Table.find_update] at hf
    split at hf
    · obtain ⟨old, -, rfl⟩ := Option.map_eq_some_iff.mp hf
      exact fun ho => hp.named (Option.some.inj ho)
    · exact hn id row hf

theorem closeOrder_answers (hv : Vacant settings db request case) (hp : Placed case order)
    (h : closeOrder settings db case order = .ok (db', response)) :
    Answers db' request response (ordered order.orderId case) := by
  obtain ⟨rfl, horder, hamount, hcurrency⟩ := closeOrder_ok h
  refine ⟨hv.request, ?_, congrArg some horder.symm, hamount.trans hp.amount, hcurrency.trans hp.currency⟩
  have hrow := Table.find_update_self db.cases case.id (ordered order.orderId) (ordered_id order.orderId)
  rw [hv.row] at hrow
  exact hrow

def Sound (settings : Settings) (db : Db) : Phase → Prop
  | .waiting _ | .done _ (.error _) => True
  | .calling request case => Vacant settings db request case
  | .committing request case order => Vacant settings db request case ∧ Placed case order
  | .done request (.ok response) => ∃ case, Answers db request response case

theorem Vacant.mono (h : Vacant settings db request case) (hrow : db'.cases.find case.id = db.cases.find case.id) :
    Vacant settings db' request case :=
  ⟨h.ready, h.request, hrow.trans h.row, h.unsettled, h.orderId⟩

theorem Answers.mono (h : Answers db request response case) (hn : Named db) (hg : Grows db db') :
    ∃ case', Answers db' request response case' := by
  obtain ⟨case', hf, hamount, hcurrency, horder⟩ := hg.kept _ _ h.row
  have hid : case'.id = case.id := Table.find_key hf
  have hne : response.orderId ≠ "" := fun he => hn _ _ h.row (he ▸ h.orderId)
  exact ⟨case', hid ▸ h.request, hid ▸ hf, horder _ hne h.orderId, h.amount.trans hamount.symm,
    h.currency.trans hcurrency.symm⟩

theorem Sound.mono {phase : Phase} (hs : Sound settings db phase) (hn : Named db) (hg : Grows db db')
    (hrow : ∀ case, phase.held = some case → db'.cases.find case.id = db.cases.find case.id) :
    Sound settings db' phase := by
  cases phase with
  | waiting request => trivial
  | calling request case => exact Vacant.mono hs (hrow case rfl)
  | committing request case order => exact ⟨hs.1.mono (hrow case rfl), hs.2⟩
  | done request answer =>
      cases answer with
      | error e => trivial
      | ok response =>
          obtain ⟨case, h⟩ := hs
          exact h.mono hn hg

structure Called (call : Call) (case : RecoveryCase) : Prop where
  row : call.row = some case
  unsettled : ¬ Terminal case
  data : call.data = RazorpayTest.orderData (orderRequest case)

/-- Each request stands as its phase says, and no two hold the row of one case. -/
structure Inv (settings : Settings) (sys : Sys) : Prop where
  named : Named sys.base.db
  sound : ∀ (j : Nat) phase, sys.requests[j]? = some phase → Sound settings sys.base.db phase
  alone : ∀ (i j : Nat) p q case case', sys.requests[i]? = some p → sys.requests[j]? = some q → p.held = some case →
    q.held = some case' → case.id = case'.id → i = j
  calls : ∀ call ∈ sys.calls, ∃ case, Called call case

/-- No other request than the one at `i` holds the row that it holds in `phase`. -/
def Alone (sys : Sys) (i : Nat) (phase : Phase) : Prop :=
  ∀ (j : Nat) q case case', j ≠ i → sys.requests[j]? = some q → q.held = some case → phase.held = some case' →
    case.id ≠ case'.id

theorem Inv.held_alone {i : Nat} {p phase : Phase} (hi : Inv settings sys) (hp : sys.requests[i]? = some p)
    (hheld : ∀ case, phase.held = some case → p.held = some case) : Alone sys i phase := by
  intro j q case case' hne hq hcase hcase' hid
  exact hne (hi.alone j i q p case case' hq hp hcase (hheld case' hcase') hid)

theorem alone_of_unlocked {i : Nat} {phase : Phase}
    (hfree : ∀ case, phase.held = some case → sys.locked case.id = false) : Alone sys i phase := by
  intro j q case case' _ hq hcase hcase' hid
  have hnone := List.any_eq_false.mp (hfree case' hcase') q (List.mem_of_getElem? hq)
  simp [hcase, hid] at hnone

/-- The request at `i` goes on, and writes at most the row that it holds. -/
theorem inv_next {i : Nat} {p phase : Phase} {calls : List Call} (hi : Inv settings sys) (hp : sys.requests[i]? = some p)
    (hg : Grows sys.base.db db') (hrow : ∀ (j : Nat) q case, j ≠ i → sys.requests[j]? = some q → q.held = some case →
      db'.cases.find case.id = sys.base.db.cases.find case.id)
    (hs : Sound settings db' phase) (ha : Alone sys i phase) (hcalls : ∀ call ∈ calls, ∃ case, Called call case) :
    Inv settings { base := { sys.base with db := db' }, requests := sys.requests.set i phase, calls := calls } where
  named := hg.named hi.named
  sound j q hq := by
    rcases Parties.set_cases hq with ⟨rfl, rfl⟩ | ⟨hne, hold⟩
    · exact hs
    · exact (hi.sound j q hold).mono hi.named hg (hrow j q · hne hold)
  alone j k p' q case case' hp' hq hcase hcase' hid := by
    rcases Parties.set_cases hp' with ⟨rfl, rfl⟩ | ⟨hj, hold⟩
    · rcases Parties.set_cases hq with ⟨rfl, rfl⟩ | ⟨hk, hold'⟩
      · rfl
      · exact absurd hid.symm (ha k q case' case hk hold' hcase' hcase)
    · rcases Parties.set_cases hq with ⟨rfl, rfl⟩ | ⟨hk, hold'⟩
      · exact absurd hid (ha j p' case case' hj hold hcase hcase')
      · exact hi.alone j k p' q case case' hold hold' hcase hcase' hid
  calls := hcalls

theorem inv_put {i : Nat} {p phase : Phase} (hi : Inv settings sys) (hp : sys.requests[i]? = some p)
    (hs : Sound settings sys.base.db phase) (ha : Alone sys i phase) : Inv settings (sys.put i phase) :=
  inv_next hi hp (.refl _) (fun _ _ _ _ _ _ => rfl) hs ha hi.calls

theorem placed_of_ok {client : Option RazorpayTest.Client}
    (hn : ∀ c ∈ client, ∀ data orderId, c.createOrder data = .ok orderId → orderId ≠ "")
    (h : RazorpayTest.createOrder client (orderRequest case) = .ok order) : Placed case order := by
  obtain ⟨hamount, hcurrency⟩ := RazorpayTest.createOrder_ok h
  refine ⟨?_, hamount, hcurrency⟩
  unfold RazorpayTest.createOrder at h
  split at h
  · cases h
  · rename_i c
    split at h
    · rename_i orderId ho
      cases h
      exact hn c rfl _ _ ho
    · cases h

theorem called_of_mem {client : Option RazorpayTest.Client} {call : Call} (hv : Vacant settings sys.base.db request case)
    (hc : ∀ call ∈ sys.calls, ∃ case, Called call case)
    (h : call ∈ client.toList.map (fun _ => (⟨RazorpayTest.orderData (orderRequest case),
      sys.base.db.cases.find case.id⟩ : Call)) ++ sys.calls) : ∃ case, Called call case := by
  rcases List.mem_append.mp h with hnew | hold
  · obtain ⟨_, -, rfl⟩ := List.mem_map.mp hnew
    exact ⟨case, hv.row, hv.unsettled, rfl⟩
  · exact hc call hold

theorem alone_done (sys : Sys) (i : Nat) (request : CreateOrderRequest) (answer : Except HttpError CreateOrderResponse) :
    Alone sys i (.done request answer) := by
  intro _ _ _ _ _ _ _ hcase'
  cases hcase'

theorem inv_refused {i : Nat} {p : Phase} (hi : Inv settings sys) (hp : sys.requests[i]? = some p)
    (request : CreateOrderRequest) (e : HttpError) : Inv settings (sys.put i (.done request (.error e))) :=
  inv_put hi hp trivial (alone_done sys i request _)

theorem inv_arrive (hi : Inv settings sys) (request : CreateOrderRequest) :
    Inv settings { sys with requests := sys.requests ++ [.waiting request] } where
  named := hi.named
  sound j phase hj := by
    rcases Parties.join_cases hj with rfl | hold
    · trivial
    · exact hi.sound j phase hold
  alone i j p q case case' hp hq hcase hcase' hid := by
    rcases Parties.join_cases hp with rfl | hp
    · cases hcase
    rcases Parties.join_cases hq with rfl | hq
    · cases hcase'
    exact hi.alone i j p q case case' hp hq hcase hcase' hid
  calls := hi.calls

theorem inv_lock {i : Nat} (hi : Inv settings sys) (h : step settings sys (.lock i) = some sys') :
    Inv settings sys' ∧ sys'.base = sys.base := by
  simp only [step] at h
  split at h
  · rename_i request hp
    split at h
    · cases h
    rename_i hfree
    split at h
    · rename_i answer ho
      obtain rfl := Option.some.inj h
      refine ⟨inv_put hi hp ?_ (alone_done sys i request _), rfl⟩
      cases answer with
      | error e => trivial
      | ok response => exact openOrder_answered ho
    · rename_i case ho
      obtain rfl := Option.some.inj h
      have hv := openOrder_calling ho
      rw [hv.request, Option.any_some, Bool.not_eq_true] at hfree
      refine ⟨inv_put hi hp hv (alone_of_unlocked fun case' hcase' => ?_), rfl⟩
      cases hcase'
      exact hfree
  · cases h

theorem inv_call {i : Nat} {client : Option RazorpayTest.Client} (hi : Inv settings sys)
    (hn : NamesOrders sys (.call i client)) (h : step settings sys (.call i client) = some sys') :
    Inv settings sys' ∧ sys'.base = sys.base := by
  simp only [step] at h
  split at h
  · rename_i request case hp
    have hv : Vacant settings sys.base.db request case := hi.sound i _ hp
    have hcalls : ∀ call ∈ client.toList.map (fun _ => (⟨RazorpayTest.orderData (orderRequest case),
        sys.base.db.cases.find case.id⟩ : Call)) ++ sys.calls, ∃ case, Called call case :=
      fun _ hcall => called_of_mem hv hi.calls hcall
    split at h
    · rename_i order ho
      obtain rfl := Option.some.inj h
      exact ⟨inv_next hi hp (.refl _) (fun _ _ _ _ _ _ => rfl) ⟨hv, placed_of_ok hn ho⟩
        (hi.held_alone hp fun _ h => h) hcalls, rfl⟩
    · obtain rfl := Option.some.inj h
      exact ⟨inv_next hi hp (.refl _) (fun _ _ _ _ _ _ => rfl) trivial (alone_done sys i request _) hcalls, rfl⟩
  · cases h

theorem inv_commit {i : Nat} {answered : Bool} (hi : Inv settings sys)
    (h : step settings sys (.commit i answered) = some sys') :
    Inv settings sys' ∧ Grows sys.base.db sys'.base.db := by
  simp only [step] at h
  split at h
  · rename_i request case order hp
    obtain ⟨hv, hplaced⟩ : Sound settings sys.base.db (.committing request case order) := hi.sound i _ hp
    split at h
    · rename_i db response ho
      obtain rfl := Option.some.inj h
      have hg := closeOrder_grows hv hplaced ho
      have halone : Alone sys i (.committing request case order) := hi.held_alone hp fun _ h => h
      refine ⟨inv_next hi hp hg (fun j q case' hne hq hcase' => ?_) ?_ (alone_done sys i request _) hi.calls, hg⟩
      · obtain ⟨rfl, -⟩ := closeOrder_ok ho
        exact Table.find_update_ne _ (halone j q case' case hne hq hcase' rfl) _ (ordered_id _)
      · cases answered with
        | false => trivial
        | true => exact ⟨_, closeOrder_answers hv hplaced ho⟩
    · obtain rfl := Option.some.inj h
      exact ⟨inv_refused hi hp request _, .refl _⟩
  · cases h

theorem inv_lost {i : Nat} (hi : Inv settings sys) (h : step settings sys (.lost i) = some sys') :
    Inv settings sys' ∧ sys'.base = sys.base := by
  simp only [step] at h
  split at h
  · obtain rfl := Option.some.inj h
    exact ⟨inv_refused hi (by assumption) _ _, rfl⟩
  · obtain rfl := Option.some.inj h
    exact ⟨inv_refused hi (by assumption) _ _, rfl⟩
  · obtain rfl := Option.some.inj h
    exact ⟨inv_refused hi (by assumption) _ _, rfl⟩
  · cases h

theorem inv_other {op : RecoverySystem.Op} (hi : Inv settings sys) (h : step settings sys (.other op) = some sys') :
    Inv settings sys' ∧ Grows sys.base.db sys'.base.db := by
  simp only [step] at h
  split at h
  · cases h
  rename_i hop
  obtain ⟨base, hbase, h⟩ := Option.bind_eq_some_iff.mp h
  split at h
  · rename_i hrespects
    obtain rfl := Option.some.inj h
    have hg := (sameOrders_step (Bool.eq_false_of_not_eq_true hop) hbase).grows
    refine ⟨⟨hg.named hi.named, fun j phase hj => ?_, hi.alone, hi.calls⟩, hg⟩
    exact (hi.sound j phase hj).mono hi.named hg fun case hcase =>
      hrespects phase (List.mem_of_getElem? hj) case hcase
  · cases h

theorem inv_step (hi : Inv settings sys) (hn : NamesOrders sys op) (h : step settings sys op = some sys') :
    Inv settings sys' ∧ Grows sys.base.db sys'.base.db := by
  have hsame {sys' : Sys} (h : Inv settings sys' ∧ sys'.base = sys.base) :
      Inv settings sys' ∧ Grows sys.base.db sys'.base.db := ⟨h.1, h.2 ▸ .refl _⟩
  cases op with
  | arrive request =>
      obtain rfl := Option.some.inj h
      exact ⟨inv_arrive hi request, .refl _⟩
  | lock i => exact hsame (inv_lock hi h)
  | call i client => exact hsame (inv_call hi hn h)
  | commit i answered => exact inv_commit hi h
  | lost i => exact hsame (inv_lost hi h)
  | other op => exact inv_other hi h

theorem inv_start (h0 : Start sys) : Inv settings sys where
  named := h0.named
  sound j phase hj := by
    rw [h0.requests] at hj
    cases hj
  alone i j p q case case' hp := by
    rw [h0.requests] at hp
    cases hp
  calls call hcall := by
    rw [h0.calls] at hcall
    cases hcall

theorem inv_of_reach (hi : Inv settings sys) (h : Reach (step settings) NamesOrders sys sys') :
    Inv settings sys' ∧ Grows sys.base.db sys'.base.db := by
  refine h.invariant (I := fun sys' => Inv settings sys' ∧ Grows sys.base.db sys'.base.db) ⟨hi, .refl _⟩
    fun t op u _ ⟨ht, hg⟩ hn hs => ?_
  obtain ⟨hu, hgu⟩ := inv_step ht hn hs
  exact ⟨hu, hg.trans hgu⟩

theorem placed_run {i : Nat} {client : RazorpayTest.Client} {orderId : String} (hi : Inv settings sys)
    (hp : sys.requests[i]? = some (.calling request case))
    (ho : client.createOrder (RazorpayTest.orderData (orderRequest case)) = .ok orderId) (hne : orderId ≠ "")
    (hfresh : orderIdTaken sys.base.db case orderId = false) :
    ∃ sys' response case', exec (step settings) sys [.call i (some client), .commit i true] = some sys' ∧
      sys'.requests[i]? = some (.done request (.ok response)) ∧ response.orderId = orderId ∧
      Answers sys'.base.db request response case' := by
  have hv : Vacant settings sys.base.db request case := hi.sound i _ hp
  obtain ⟨order, horder, hid⟩ : ∃ order, RazorpayTest.createOrder (some client) (orderRequest case) = .ok order ∧
      order.orderId = orderId := by
    simp only [RazorpayTest.createOrder, ho]
    exact ⟨_, rfl, rfl⟩
  have hplaced : Placed case order := by
    obtain ⟨hamount, hcurrency⟩ := RazorpayTest.createOrder_ok horder
    exact ⟨hid ▸ hne, hamount, hcurrency⟩
  obtain ⟨db, response, hclose⟩ : ∃ db response, closeOrder settings sys.base.db case order = .ok (db, response) := by
    rw [closeOrder, hid, hfresh]
    exact ⟨_, _, rfl⟩
  have hcommitting : (sys.requests.set i (.committing request case order))[i]? = some (.committing request case order) :=
    Parties.set_self hp
  have hdone : ((sys.requests.set i (.committing request case order)).set i (.done request (.ok response)))[i]? =
      some (.done request (.ok response)) := Parties.set_self hcommitting
  refine ⟨{ base := { sys.base with db := db }, requests := _, calls := ?calls }, response, _, ?run, hdone,
    (closeOrder_ok hclose).2.1.trans hid, closeOrder_answers hv hplaced hclose⟩
  case run =>
    simp only [exec, step, hp, horder, Sys.put, Option.bind_some, hcommitting, hclose, if_true]
    rfl

/-- One order per case, with any number of requests, failures of the provider
and other transactions in any order. -/
theorem one_order (h0 : Start sys0) : OneOrder settings sys0 := by
  have hinv {sys : Sys} (h : Reach (step settings) NamesOrders sys0 sys) : Inv settings sys :=
    (inv_of_reach (inv_start h0) h).1
  have hanswers {sys : Sys} {request : CreateOrderRequest} {response : CreateOrderResponse}
      (h : Reach (step settings) NamesOrders sys0 sys) (hd : .done request (.ok response) ∈ sys.requests) :
      ∃ case, Answers sys.base.db request response case := by
    obtain ⟨j, hj⟩ := List.mem_iff_getElem?.mp hd
    exact (hinv h).sound j _ hj
  refine ⟨fun _ _ _ h hd => hanswers h hd, ?_, ?_, ?_, fun _ _ _ _ _ _ h hp ho hne hfresh =>
    placed_run (hinv h) hp ho hne hfresh⟩
  · intro sys request request' response response' h hd hd' hsame
    obtain ⟨case, ha⟩ := hanswers h hd
    obtain ⟨case', ha'⟩ := hanswers h hd'
    have hid : case.id = case'.id := Option.some.inj (ha.request.symm.trans (hsame.trans ha'.request))
    obtain rfl := Option.some.inj (ha.row.symm.trans (hid ▸ ha'.row))
    exact Option.some.inj (ha.orderId.symm.trans ha'.orderId)
  · intro sys sys' case orderId h h' hf ho
    have hne : orderId ≠ "" := fun he => (hinv h).named _ _ hf (he ▸ ho)
    obtain ⟨case', hf', hamount, hcurrency, horder⟩ := (inv_of_reach (hinv h) h').2.kept _ _ hf
    exact ⟨case', hf', horder _ hne ho, hamount, hcurrency⟩
  · intro sys call h hcall
    obtain ⟨case, hc⟩ := (hinv h).calls call hcall
    exact ⟨case, hc.row, hc.unsettled, hc.data⟩

/-- A step is nothing to the rest of the system, or one step of it: a commit is `create_order` in one piece. -/
theorem base_step (hi : Inv settings sys) (hn : NamesOrders sys op) (h : step settings sys op = some sys') :
    sys'.base = sys.base ∨ ∃ op', RecoverySystem.step settings sys.base op' = some sys'.base := by
  cases op with
  | arrive request =>
      obtain rfl := Option.some.inj h
      exact .inl rfl
  | lock i => exact .inl (inv_lock hi h).2
  | call i client => exact .inl (inv_call hi hn h).2
  | lost i => exact .inl (inv_lost hi h).2
  | commit i answered =>
      simp only [step] at h
      split at h
      · rename_i request case order hp
        obtain ⟨hv, -⟩ : Sound settings sys.base.db (.committing request case order) := hi.sound i _ hp
        split at h
        · rename_i db response ho
          obtain rfl := Option.some.inj h
          refine .inr ⟨.createOrder request (.ok order), ?_⟩
          simp only [RecoverySystem.step, createOrder_vacant hv, ho]
        · obtain rfl := Option.some.inj h
          exact .inl rfl
      · cases h
  | other op =>
      simp only [step] at h
      split at h
      · cases h
      obtain ⟨base, hbase, h⟩ := Option.bind_eq_some_iff.mp h
      split at h
      · obtain rfl := Option.some.inj h
        exact .inr ⟨op, hbase⟩
      · cases h

theorem base_reach (h0 : Start sys0) (h : Reach (step settings) NamesOrders sys0 sys) :
    Reach (RecoverySystem.step settings) Any sys0.base sys.base := by
  refine h.invariant (I := fun sys => Reach (RecoverySystem.step settings) Any sys0.base sys.base) .refl
    fun t op u ht hreach hn hs => ?_
  rcases base_step (inv_of_reach (inv_start h0) ht).1 hn hs with hsame | ⟨op', hop⟩
  · exact hsame ▸ hreach
  · exact .tail hreach trivial hop

def sampleClient : RazorpayTest.Client := ⟨fun data => .ok ("order_" ++ data.receipt)⟩

def sampleStart : Sys := { base := { db := CheckoutSoundness.openDb } }

theorem sampleStart_start : Start sampleStart where
  requests := rfl
  calls := rfl
  named id case hf := by
    obtain rfl := List.mem_singleton.mp (Table.find_mem hf)
    nofun

theorem sampleId_length : 1 ≤ Restrictions.sampleCase.id.str.length ∧ Restrictions.sampleCase.id.str.length ≤ 64 := by
  decide +kernel

def sampleRequest : CreateOrderRequest where
  caseId := Restrictions.sampleCase.id.str
  case_id_length := sampleId_length

def answeredOrder : Phase → Option String
  | .done _ (.ok response) => some response.orderId
  | _ => none

/-- Of three requests, the first meets a failure of the provider, and the last finds the order of the second. -/
def sampleOps : List Op :=
  [.arrive sampleRequest, .arrive sampleRequest, .lock 0, .call 0 none, .lock 1, .arrive sampleRequest,
    .call 1 (some sampleClient), .commit 1 true, .lock 2]

theorem one_order_sample : OneOrder RecoveryLedger.sampleSettings sampleStart := one_order sampleStart_start

example : (exec (step RecoveryLedger.sampleSettings) sampleStart sampleOps).map (·.requests.map answeredOrder) =
    some [none, some ("order_case-" ++ sampleRequest.caseId), some ("order_case-" ++ sampleRequest.caseId)] := by
  decide +kernel

end RevenueRescue.OrderCreation
