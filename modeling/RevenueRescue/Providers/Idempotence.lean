import RevenueRescue.Providers.Simulator

namespace RevenueRescue.SimulatorProvider

open Enums Providers

def reached (cfg : Settings) (calls : List Call) : Simulator := (serve cfg {} calls).1

/-- The payment that a retry reports. -/
def paymentOf : Answer → Option (String × PaymentStatus)
  | .retry result => some (result.paymentId, result.status)
  | _ => none

/-- One operation called twice in a history that goes on: the second call
reports the payment of the first one, records none, and no other answer depends on it. -/
structure Idempotent (cfg : Settings) (pre mid post : List Call) (operation : Operation) (draws draws' : Draws) :
    Prop where
  payment : paymentOf (call cfg (reached cfg (pre ++ ⟨operation, draws⟩ :: mid)) ⟨operation, draws'⟩).2 =
    paymentOf (call cfg (reached cfg pre) ⟨operation, draws⟩).2
  recorded : (reached cfg (pre ++ ⟨operation, draws⟩ :: mid ++ [⟨operation, draws'⟩])).results.length =
    (reached cfg (pre ++ ⟨operation, draws⟩ :: mid)).results.length
  others : (serve cfg (reached cfg (pre ++ ⟨operation, draws⟩ :: mid ++ [⟨operation, draws'⟩])) post).2 =
    (serve cfg (reached cfg (pre ++ ⟨operation, draws⟩ :: mid)) post).2

variable {cfg : Settings} {sim sim' : Simulator} {c c' : Call} {request : RetryRequest} {draws : Draws}

def requestOf : Operation → Option RetryRequest
  | .retryPayment request | .scheduleRetry request _ => some request
  | _ => none

theorem call_retry (h : requestOf c.operation = some request) (sim : Simulator) :
    call cfg sim c = answerRetry sim (retryPayment cfg sim request c.draws) := by
  unfold call
  cases hop : c.operation with
  | retryPayment r | scheduleRetry r d => rw [hop] at h; cases h; rfl
  | getPayment | checkStatus | createOrder => rw [hop] at h; cases h

/-- What a call that is no retry leaves as it is. -/
theorem call_reading (cfg : Settings) (h : requestOf c.operation = none) (sim : Simulator) :
    (call cfg sim c).1 = sim ∧ paymentOf (call cfg sim c).2 = none := by
  unfold call
  cases hop : c.operation with
  | retryPayment | scheduleRetry => rw [hop] at h; cases h
  | getPayment | checkStatus | createOrder => exact ⟨rfl, rfl⟩

/-- What a retry does: its payment has the id that was drawn for it, and the
random stream moves on. -/
inductive Retried (cfg : Settings) (sim : Simulator) (draws : Draws) : Option (Simulator × RetryResult) → Prop
  | raised : Retried cfg sim draws none
  | paid {payment : PaymentResult} {result : RetryResult} (hp : payment.paymentId = transactionId draws)
      (hr : result.paymentId = transactionId draws) (hs : result.status = payment.status) :
      Retried cfg sim draws (some (⟨sim.drawn + 1, storeResult sim.results payment⟩, result))

theorem retryPayment_cases (cfg : Settings) (sim : Simulator) (request : RetryRequest) (draws : Draws) :
    Retried cfg sim draws (retryPayment cfg sim request draws) := by
  unfold retryPayment
  dsimp only
  cases successProbability request.failureReason request.retryNumber
      (if request.customerSegment = "" then cfg.defaultSegment else request.customerSegment) with
  | none => exact .raised
  | some probability => exact .paid rfl rfl rfl

theorem paymentOf_id {paymentId : String} {status : PaymentStatus}
    (h : paymentOf (call cfg sim c).2 = some (paymentId, status)) : paymentId = transactionId c.draws := by
  cases hreq : requestOf c.operation with
  | none => rw [(call_reading cfg hreq sim).2] at h; cases h
  | some request =>
      rw [call_retry hreq] at h
      have hcases := retryPayment_cases cfg sim request c.draws
      generalize retryPayment cfg sim request c.draws = out at h hcases
      cases hcases with
      | raised => cases h
      | paid hp hr hs =>
          rw [answerRetry, paymentOf, Option.some.injEq, Prod.mk.injEq] at h
          exact h.1.symm.trans hr

/-- Whether a retry goes through depends on the history through the random stream alone. -/
theorem retryPayment_drawn (cfg : Settings) (h : sim.drawn = sim'.drawn) (request : RetryRequest) (draws : Draws) :
    (retryPayment cfg sim request draws).map Prod.snd = (retryPayment cfg sim' request draws).map Prod.snd := by
  unfold retryPayment
  simp only [h, Option.map_map]
  rfl

theorem call_drawn (cfg : Settings) (h : sim.drawn = sim'.drawn) (c : Call) :
    paymentOf (call cfg sim c).2 = paymentOf (call cfg sim' c).2 ∧
      (call cfg sim c).1.drawn = (call cfg sim' c).1.drawn := by
  cases hreq : requestOf c.operation with
  | none =>
      obtain ⟨hs, hp⟩ := call_reading cfg hreq sim
      obtain ⟨hs', hp'⟩ := call_reading cfg hreq sim'
      rw [hs, hp, hs', hp']
      exact ⟨rfl, h⟩
  | some request =>
      have hsame := retryPayment_drawn cfg h request c.draws
      have hcases := retryPayment_cases cfg sim request c.draws
      have hcases' := retryPayment_cases cfg sim' request c.draws
      rw [call_retry hreq, call_retry hreq]
      generalize retryPayment cfg sim request c.draws = out at hsame hcases
      generalize retryPayment cfg sim' request c.draws = out' at hsame hcases'
      cases hcases with
      | raised =>
          cases hcases' with
          | raised => exact ⟨rfl, h⟩
          | paid => cases hsame
      | paid =>
          cases hcases' with
          | raised => cases hsame
          | paid =>
              simp only [Option.map_some, Option.some.injEq] at hsame
              simp only [answerRetry, paymentOf, hsame, h, and_self]

theorem serve_drawn (h : sim.drawn = sim'.drawn) (calls : List Call) :
    (serve cfg sim calls).2.map paymentOf = (serve cfg sim' calls).2.map paymentOf := by
  induction calls generalizing sim sim' with
  | nil => rfl
  | cons c calls ih =>
      obtain ⟨hp, hd⟩ := call_drawn cfg h c
      simp only [serve, List.map_cons, hp, ih hd]

/-- After a retry, the retries that follow get the outcomes of a stream that has moved on by one. -/
theorem serve_shifted (h : (paymentOf (call cfg sim c).2).isSome = true) (calls : List Call) :
    (serve cfg (call cfg sim c).1 calls).2.map paymentOf =
      (serve cfg { sim with drawn := sim.drawn + 1 } calls).2.map paymentOf := by
  refine serve_drawn ?_ calls
  cases hreq : requestOf c.operation with
  | none => rw [(call_reading cfg hreq sim).2] at h; cases h
  | some request =>
      rw [call_retry hreq] at h ⊢
      have hcases := retryPayment_cases cfg sim request c.draws
      generalize retryPayment cfg sim request c.draws = out at h hcases
      cases hcases with
      | raised => cases h
      | paid => rfl

theorem storeResult_fresh {results : List (String × PaymentResult)} {payment : PaymentResult}
    (h : ∀ kv ∈ results, kv.1 ≠ payment.paymentId) :
    storeResult results payment = results ++ [(payment.paymentId, payment)] := by
  have hnone : (results.any fun kv => kv.1 = payment.paymentId) = false := by
    simpa using h
  rw [storeResult, hnone]
  rfl

/-- With an id that no payment has, a retry records one more. -/
theorem retry_recorded (hp : (paymentOf (call cfg sim c).2).isSome = true)
    (hids : ∀ kv ∈ sim.results, kv.1 ≠ transactionId c.draws) :
    (call cfg sim c).1.results.length = sim.results.length + 1 := by
  cases hreq : requestOf c.operation with
  | none => rw [(call_reading cfg hreq sim).2] at hp; cases hp
  | some request =>
      rw [call_retry hreq] at hp ⊢
      have hcases := retryPayment_cases cfg sim request c.draws
      generalize retryPayment cfg sim request c.draws = out at hp hcases
      cases hcases with
      | raised => cases hp
      | paid hid =>
          rw [← hid] at hids
          rw [answerRetry, storeResult_fresh hids, List.length_append, List.length_singleton]

/-- No retry is idempotent: the second call draws the id of a new payment. -/
theorem retry_not_idempotent (pre mid post : List Call) {operation : Operation} {draws draws' : Draws}
    (hreturned : (paymentOf (call cfg (reached cfg pre) ⟨operation, draws⟩).2).isSome = true)
    (hids : transactionId draws' ≠ transactionId draws) : ¬ Idempotent cfg pre mid post operation draws draws' := by
  intro h
  obtain ⟨⟨paymentId, status⟩, hfirst⟩ := Option.isSome_iff_exists.mp hreturned
  have hsecond := h.payment.trans hfirst
  exact hids ((paymentOf_id hsecond).symm.trans (paymentOf_id hfirst))

def sampleRetry : Operation :=
  .retryPayment {
    caseId := (Uuid.ofDigit 1).str
    originalPaymentId := ""
    amountPaise := 100000
    currency := "INR"
    customerId := (Uuid.ofDigit 2).str
    idempotencyKey := (Uuid.ofDigit 1).str ++ "-RETRY_NOW-1"
    retryNumber := 1
    failureReason := .gatewayTemporary
    customerSegment := "standard" }

def repeated (d : Fin 16) : Uuid := ⟨List.replicate 32 d, rfl⟩

def sampleDraws (d : Fin 16) : Draws := ⟨repeated d, repeated d⟩

theorem sampleRetry_returned (random : Nat → ℚ) :
    (paymentOf (call { random := random } (reached { random := random } []) ⟨sampleRetry, sampleDraws 3⟩).2).isSome = true :=
  rfl

theorem retry_not_idempotent_sample :
    ¬ Idempotent { random := fun _ => 1 / 2 } [] [] [] sampleRetry (sampleDraws 3) (sampleDraws 4) :=
  retry_not_idempotent [] [] [] (sampleRetry_returned fun _ => 1 / 2) (by decide +kernel)

theorem retry_pays_twice : ¬ ∀ cfg pre mid post operation draws draws',
    (paymentOf (call cfg (reached cfg pre) ⟨operation, draws⟩).2).isSome = true →
      Idempotent cfg pre mid post operation draws draws' := by
  intro h
  have hsame := (h { random := fun _ => 1 / 2 } [] [] [] sampleRetry (sampleDraws 3) (sampleDraws 4)
    (sampleRetry_returned fun _ => 1 / 2)).payment
  obtain ⟨⟨paymentId, status⟩, hfirst⟩ := Option.isSome_iff_exists.mp (sampleRetry_returned fun _ => 1 / 2)
  have hid := (paymentOf_id (hsame.trans hfirst)).symm.trans (paymentOf_id hfirst)
  exact absurd hid (by decide +kernel)

end RevenueRescue.SimulatorProvider
