import RevenueRescue.Backend.AttemptKeys
import RevenueRescue.Providers.RazorpayTest

namespace RevenueRescue.Receipts

open Enums AgentSchemas Providers DeterministicNodes GraphEffects RunAccounting AttemptKeys RazorpayTest PolicyGate

/-- The executor has asked the provider for a payment in this state. -/
def Attempted (s : AgentState) (request : RetryRequest) : Prop :=
  ∃ answer messageId, (nodeActionExecution s answer messageId).effect.bind paymentRequest = some request

variable {s s' : AgentState} {request request' : RetryRequest} {u u' : Uuid} {strategy strategy' : RecoveryStrategy}

theorem attempted_key (h : Attempted s request) :
    request.idempotencyKey = idempotencyKey s.caseId (executed s) request.retryNumber ∧
      (executed s = .retryNow ∨ executed s = .scheduleRetry) := by
  obtain ⟨answer, messageId, h⟩ := h
  obtain ⟨x, hx, hr⟩ := Option.bind_eq_some_iff.mp h
  obtain ⟨-, hc⟩ := nodeActionExecution_effect hx
  generalize executed s = strategy at hc
  cases hc with
  | scheduleRetry => cases hr; exact ⟨rfl, .inr rfl⟩
  | retryNow => cases hr; exact ⟨rfl, .inl rfl⟩
  | message => cases hr

theorem length_grouped (ns : List Nat) (l : List Char) : (Uuid.grouped ns l).length = l.length + ns.length := by
  induction ns generalizing l with
  | nil => rfl
  | cons n ns ih =>
      rw [Uuid.grouped, List.length_append, List.length_cons, ih, List.length_take, List.length_drop,
        List.length_cons]
      omega

theorem length_str (u : Uuid) : u.str.toList.length = 36 := by
  rw [Uuid.str, String.toList_ofList, length_grouped, List.length_map, u.length_digits]
  rfl

theorem str_inj : u.str = u'.str ↔ u = u' := by
  constructor
  · intro h
    have hparse := Uuid.parse_str u
    rw [h, Uuid.parse_str] at hparse
    exact (Option.some.inj hparse).symm
  · rintro rfl
    rfl

/-- Behind the case and the dash there is room for three letters. -/
theorem take_key (u : Uuid) (number : Int) (h : strategy = .retryNow ∨ strategy = .scheduleRetry) :
    (idempotencyKey u.str strategy number).toList.take 40 =
      u.str.toList ++ ('-' :: strategy.value.toList.take 3) := by
  have hkey : (idempotencyKey u.str strategy number).toList =
      u.str.toList ++ ('-' :: (strategy.value.toList ++ ("-" ++ toString number).toList)) := by
    simp [idempotencyKey]
  have hlong : 3 ≤ strategy.value.toList.length := by
    rcases h with rfl | rfl <;> decide
  rw [hkey, List.take_append, List.take_of_length_le (by rw [length_str]; decide), length_str]
  change _ ++ '-' :: List.take 3 (strategy.value.toList ++ _) = _
  rw [List.take_append_of_le_length hlong]

theorem receipt_eq_iff (ha : Attempted s request) (ha' : Attempted s' request') (hu : s.caseId = u.str)
    (hu' : s'.caseId = u'.str) :
    (retryOrder request).receipt = (retryOrder request').receipt ↔ u = u' ∧ executed s = executed s' := by
  obtain ⟨hkey, hretry⟩ := attempted_key ha
  obtain ⟨hkey', hretry'⟩ := attempted_key ha'
  simp only [retryOrder, hkey, hkey', hu, hu', String.ofList_inj, take_key _ _ hretry, take_key _ _ hretry']
  constructor
  · intro h
    obtain ⟨hcase, hrest⟩ := List.append_inj h (by rw [length_str, length_str])
    refine ⟨str_inj.mp (String.toList_inj.mp hcase), ?_⟩
    have hletters := (List.cons.inj hrest).2
    generalize executed s = strategy at hretry hletters
    generalize executed s' = strategy' at hretry' hletters
    rcases hretry with rfl | rfl <;> rcases hretry' with rfl | rfl
    all_goals first | rfl | exact absurd hletters (by decide)
  · rintro ⟨rfl, h⟩
    rw [h]

/-- Receipts: the one of an attempt tells it from every other one but those of
the same case and strategy with another number. -/
theorem receipt_identifies_iff (ha : Attempted s request) (ha' : Attempted s' request') (hu : s.caseId = u.str)
    (hu' : s'.caseId = u'.str) :
    ((retryOrder request).receipt = (retryOrder request').receipt →
        u = u' ∧ executed s = executed s' ∧ request.retryNumber = request'.retryNumber) ↔
      ¬ (u = u' ∧ executed s = executed s' ∧ request.retryNumber ≠ request'.retryNumber) := by
  rw [receipt_eq_iff ha ha' hu hu']
  constructor
  · rintro h ⟨hcase, hstrategy, hnumber⟩
    exact hnumber (h ⟨hcase, hstrategy⟩).2.2
  · rintro h ⟨hcase, hstrategy⟩
    exact ⟨hcase, hstrategy, not_not.mp fun hnumber => h ⟨hcase, hstrategy, hnumber⟩⟩

/-- A state in front of the executor, with an approved strategy. -/
def approvedState (strategy : RecoveryStrategy) (retryCount : Int) : AgentState :=
  { sampleState with
    caseId := (Uuid.ofDigit 1).str
    retryCount := retryCount
    caseStrategy := some (sampleStrategy strategy)
    policyResult := some {
      allowed := true
      decision := .approved
      reason := .text "All checks passed"
      policyId := "default"
      policyVersion := 1 } }

theorem attempted_retry (retryCount : Int) :
    Attempted (approvedState .retryNow retryCount) (retryRequest (approvedState .retryNow retryCount) .retryNow) :=
  ⟨.error "timeout", "", rfl⟩

theorem attempted_schedule (retryCount : Int) :
    Attempted (approvedState .scheduleRetry retryCount)
      (retryRequest (approvedState .scheduleRetry retryCount) .scheduleRetry) :=
  ⟨.error "timeout", "", rfl⟩

theorem receipt_identifies_sample :
    (retryOrder (retryRequest (approvedState .retryNow 0) .retryNow)).receipt ≠
      (retryOrder (retryRequest (approvedState .scheduleRetry 1) .scheduleRetry)).receipt := by
  intro h
  have hsame := (receipt_identifies_iff (attempted_retry 0) (attempted_schedule 1) (rfl : _ = (Uuid.ofDigit 1).str)
    (rfl : _ = (Uuid.ofDigit 1).str)).mpr (fun hn => absurd hn.2.1 (by decide)) h
  exact absurd hsame.2.1 (by decide)

theorem receipt_not_identifies : ¬ ∀ s s' request request' (u u' : Uuid), Attempted s request →
    Attempted s' request' → s.caseId = u.str → s'.caseId = u'.str →
      (retryOrder request).receipt = (retryOrder request').receipt →
        u = u' ∧ executed s = executed s' ∧ request.retryNumber = request'.retryNumber := by
  intro h
  have hsame := h _ _ _ _ (.ofDigit 1) (.ofDigit 1) (attempted_retry 0) (attempted_retry 1) rfl rfl
    (by decide +kernel)
  exact absurd hsame.2.2 (by decide)

end RevenueRescue.Receipts
