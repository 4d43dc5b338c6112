import RevenueRescue.Foundation.PyObject

namespace RevenueRescue.ScoringService

open PyFloat

/-- `FAILURE_RECOVERABILITY.get(failure_reason, 0.20)` -/
def failureRecoverability (failureReason : String) : ℚ :=
  if failureReason = "INSUFFICIENT_FUNDS" then double 0.70
  else if failureReason = "EXPIRED_METHOD" then double 0.55
  else if failureReason = "GATEWAY_TEMPORARY" then double 0.85
  else if failureReason = "BANK_DECLINE" then double 0.50
  else if failureReason = "AUTH_FAILURE" then double 0.45
  else if failureReason = "MANDATE_FAILURE" then double 0.60
  else if failureReason = "SUBSCRIPTION_GRACE" then double 0.65
  else if failureReason = "CHECKOUT_ABANDONED" then double 0.50
  else if failureReason = "UNKNOWN" then double 0.15
  else double 0.20

def wAmount : ℚ := double 0.20
def wHistory : ℚ := double 0.15
def wFailure : ℚ := double 0.35
def wRetry : ℚ := double 0.15
def wEngagement : ℚ := double 0.15
def wRetryPen : ℚ := double 0.10

/-- `raw` of `score`, from the number of retries as a float. -/
def rawScore (log10 : Int → ℚ) (failureReason : String) (amountPaise : Int) (retries successRate engagementScore : ℚ) : ℚ :=
  let amountScore := min (div (log10 (max amountPaise 1)) 7) 1
  let historyScore := successRate
  let failureScore := failureRecoverability failureReason
  let retrySuccess := max 0 (sub 1 (mul retries (double 0.25)))
  let retryPenalty := min (mul retries (double 0.10)) (double 0.40)
  sub (add (add (add (add (mul wAmount amountScore) (mul wHistory historyScore)) (mul wFailure failureScore))
    (mul wRetry retrySuccess)) (mul wEngagement engagementScore)) (mul wRetryPen retryPenalty)

/-- `score`, with the logarithm of the mathematics library. A product that leaves the doubles is cut at 100 like any
other. -/
def score (log10 : Int → ℚ) (failureReason : String) (amountPaise retryCount : Int) (successRate : ℚ := double 0.85)
    (engagementScore : ℚ := double 0.5) : Except Raised ℚ := do
  let retries ← ofInteger retryCount
  let raw := rawScore log10 failureReason amountPaise retries successRate engagementScore
  .ok (roundDigits 2 (max 0 (min (mul raw 100) 100)))

variable {log10 : Int → ℚ} {failureReason : String} {amountPaise retryCount : Int} {s : ℚ}

/-- The score is in range, and only the number of retries can keep it from being there. -/
theorem score_ok_iff :
    (∃ s, score log10 failureReason amountPaise retryCount = .ok s) ↔ Converts retryCount := by
  rw [← ofInteger_ok_iff, score, Raised.exists_ok_bind]
  exact ⟨fun ⟨retries, h, _⟩ => ⟨retries, h⟩, fun ⟨retries, h⟩ => ⟨retries, h, _, rfl⟩⟩

theorem score_mem (h : score log10 failureReason amountPaise retryCount = .ok s) : 0 ≤ s ∧ s ≤ 100 := by
  rw [score] at h
  cases hretries : ofInteger retryCount with
  | error raised =>
      rw [hretries] at h
      cases h
  | ok retries =>
      rw [hretries] at h
      obtain rfl := Except.ok.inj h
      exact roundDigits_mem (n := 100) (le_max_left _ _) (max_le (by norm_num) (min_le_right _ _)) double_hundred

end RevenueRescue.ScoringService
