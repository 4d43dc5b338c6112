import RevenueRescue.Backend.ScoringService

namespace RevenueRescue.MLScoringService

open PyFloat

/-- A `features` dict. -/
abbrev Features := String → Option PyObject

namespace Features

def get (features : Features) (key : String) (default : PyObject) : PyObject := (features key).getD default

def amountPaise (features : Features) : PyObject := features.get "amount_paise" (.ofInt 0)

def retryCount (features : Features) : PyObject := features.get "retry_count" (.ofInt 0)

def interventionCostPaise (features : Features) : PyObject := features.get "intervention_cost_paise" (.ofInt 500)

def failureReason (features : Features) : PyObject := features.get "failure_reason" (.ofText "UNKNOWN" (.error .valueError))

end Features

/-- A row with `FEATURE_COLUMNS`. -/
structure FeatureRow where
  eventType : String
  failureReason : String
  paymentMethod : String
  deviceType : String
  country : String
  amountPaise : Int
  retryCount : Int
  eventHourUtc : Int
  eventDayofweekUtc : Int
  eventMonthUtc : Int

/-- A service, where a preprocessor and a model may answer each call in another way. -/
structure Service (T : Type) where
  isTrained : Bool
  modelVersion : String
  preprocessor : Option (Nat → FeatureRow → Except Raised T)
  model : Option (Nat → T → Except Raised PyFloat)

/-- `_safe_int` -/
def safeInt (val : PyObject) (default : Int) : Except Raised Int :=
  match val.int with
  | .error .valueError | .error .typeError => .ok default
  | result => result

/-- `_prepare_feature_row` -/
def prepareFeatureRow (raw : Features) : Except Raised FeatureRow := do
  let text (key default : String) : Except Raised String := (raw.get key (.ofText default (.error .valueError))).str
  let eventType ← text "event_type" "FAILED_PAYMENT"
  let failureReason ← raw.failureReason.str
  let paymentMethod ← text "payment_method" "card"
  let deviceType ← text "device_type" "web"
  let country ← text "country" "IN"
  let amountPaise ← safeInt raw.amountPaise 0
  let retryCount ← safeInt raw.retryCount 0
  let eventHourUtc ← safeInt (raw.get "event_hour_utc" (.ofInt 12)) 12
  let eventDayofweekUtc ← safeInt (raw.get "event_dayofweek_utc" (.ofInt 0)) 0
  let eventMonthUtc ← safeInt (raw.get "event_month_utc" (.ofInt 1)) 1
  .ok {
    eventType, failureReason, paymentMethod, deviceType, country
    amountPaise := max 0 amountPaise
    retryCount := max 0 retryCount
    eventHourUtc := eventHourUtc % 24
    eventDayofweekUtc := eventDayofweekUtc % 7
    eventMonthUtc := max 1 (min 12 eventMonthUtc) }

variable {T : Type}

/-- The heuristic on the features as they are, without a model and after one that fails. -/
def fallback (log10 : Int → ℚ) (features : Features) : Except Raised ℚ := do
  let failureReason ← features.failureReason.str
  let amountPaise ← features.amountPaise.int
  let retryCount ← features.retryCount.int
  let rawScore ← ScoringService.score log10 failureReason amountPaise retryCount
  .ok (roundDigits 4 (div rawScore 100))

/-- The probability that a loaded model answers to its call with a number. -/
def infer (preprocessor : Nat → FeatureRow → Except Raised T) (model : Nat → T → Except Raised PyFloat) (call : Nat)
    (features : Features) : Except Raised PyFloat := do
  let row ← prepareFeatureRow features
  let transformed ← preprocessor call row
  model call transformed

def predictProbability (log10 : Int → ℚ) (service : Service T) (call : Nat) (features : Features) : Except Raised ℚ :=
  match service.isTrained, service.model, service.preprocessor with
  | true, some model, some preprocessor =>
      match infer preprocessor model call features with
      | .ok prob => .ok (roundDigits 4 (clamp prob))
      | .error _ => fallback log10 features
  | _, _, _ => fallback log10 features

def calculateExpectedValue (probability : ℚ) (amountPaise interventionCostPaise : Int) : Except Raised ℚ := do
  let prob := max 0 (min 1 probability)
  let amount ← ofInteger (max 0 amountPaise)
  let cost ← ofInteger (max 0 interventionCostPaise)
  .ok (roundDigits 2 (sub (mul prob amount) cost))

def getRecoveryScore (log10 : Int → ℚ) (service : Service T) (call : Nat) (features : Features) : Except Raised ℚ := do
  let prob ← predictProbability log10 service call features
  .ok (roundDigits 2 (mul prob 100))

def getRuleBasedRetryDelayHours (failureReason : String) (retryCount : Int) : Int :=
  if failureReason = "GATEWAY_TEMPORARY" then 2
  else if failureReason = "INSUFFICIENT_FUNDS" then if retryCount = 0 then 24 else 48
  else if failureReason = "BANK_DECLINE" then 48
  else if failureReason = "MANDATE_FAILURE" then 24
  else if failureReason = "SUBSCRIPTION_GRACE" then 24
  else if failureReason = "AUTH_FAILURE" then 0
  else if failureReason = "EXPIRED_METHOD" then 0
  else if failureReason = "CHECKOUT_ABANDONED" then 1
  else 24

structure Evidence where
  modelVersion : String
  isTrainedModel : Bool
  scoringMode : String
  recoveryProbability : ℚ
  recoveryScore : ℚ
  amountAtRiskPaise : Int
  interventionCostPaise : Int
  costAssumptionBasis : String := "Configurable operational fee estimate (500 paise = ₹5.00 INR)"
  expectedValuePaise : ℚ
  expectedValueInr : ℚ
  ruleBasedRetryDelayHours : Int
  timingRecommendationNature : String := "Deterministic rule-based heuristic (subject to policy authorization)"

/-- `get_quantitative_evidence`, which asks for the probability twice. -/
def getQuantitativeEvidence (log10 : Int → ℚ) (service : Service T) (call : Nat) (features : Features) :
    Except Raised Evidence := do
  let prob ← predictProbability log10 service call features
  let amountPaise ← features.amountPaise.int
  let interventionCostPaise ← features.interventionCostPaise.int
  let evPaise ← calculateExpectedValue prob amountPaise interventionCostPaise
  let score ← getRecoveryScore log10 service (call + 1) features
  let failureReason ← features.failureReason.str
  let retryCount ← features.retryCount.int
  .ok {
    modelVersion := service.modelVersion
    isTrainedModel := service.isTrained
    scoringMode := if service.isTrained then "lightgbm_tabular" else "deterministic_heuristic_fallback"
    recoveryProbability := prob
    recoveryScore := score
    amountAtRiskPaise := amountPaise
    interventionCostPaise := interventionCostPaise
    expectedValuePaise := evPaise
    expectedValueInr := roundDigits 2 (div evPaise 100)
    ruleBasedRetryDelayHours := getRuleBasedRetryDelayHours failureReason retryCount }

/-- A service has a model, and the model answers to its call. -/
def Infers (service : Service T) (call : Nat) (features : Features) : Prop :=
  ∃ preprocessor model prob, service.isTrained = true ∧ service.preprocessor = some preprocessor ∧
    service.model = some model ∧ infer preprocessor model call features = .ok prob

/-- The features that the fallback reads. -/
structure FallsBack (features : Features) : Prop where
  failureReason : ∃ s, features.failureReason.str = .ok s
  amountPaise : ∃ n, features.amountPaise.int = .ok n
  retryCount : ∃ n, features.retryCount.int = .ok n ∧ Converts n

variable {log10 : Int → ℚ} {service : Service T} {call : Nat} {features : Features} {p : ℚ}

theorem fallback_ok_iff (log10 : Int → ℚ) : (∃ p, fallback log10 features = .ok p) ↔ FallsBack features := by
  simp only [fallback, Raised.exists_ok_bind]
  constructor
  · rintro ⟨s, hs, a, ha, n, hn, score, hscore, -⟩
    exact ⟨⟨s, hs⟩, ⟨a, ha⟩, n, hn, ScoringService.score_ok_iff.mp ⟨score, hscore⟩⟩
  · rintro ⟨⟨s, hs⟩, ⟨a, ha⟩, n, hn, hconverts⟩
    obtain ⟨score, hscore⟩ := ScoringService.score_ok_iff.mpr hconverts
    exact ⟨s, hs, a, ha, n, hn, score, hscore, _, rfl⟩

theorem fallback_mem (h : fallback log10 features = .ok p) : 0 ≤ p ∧ p ≤ 1 := by
  obtain ⟨s, -, h⟩ := Raised.ok_of_bind h
  obtain ⟨a, -, h⟩ := Raised.ok_of_bind h
  obtain ⟨n, -, h⟩ := Raised.ok_of_bind h
  obtain ⟨score, hscore, h⟩ := Raised.ok_of_bind h
  obtain ⟨hlow, hhigh⟩ := ScoringService.score_mem hscore
  obtain rfl := Except.ok.inj h
  obtain ⟨hdiv, hone⟩ := div_hundred_mem hlow hhigh
  exact roundDigits_unit hdiv hone

/-- Either the model answers or the fallback reads its features. -/
theorem predictProbability_ok_iff (log10 : Int → ℚ) :
    (∃ p, predictProbability log10 service call features = .ok p) ↔ Infers service call features ∨ FallsBack features := by
  rw [predictProbability]
  split
  next model preprocessor htrained hmodel hpreprocessor =>
    have hinfers : Infers service call features ↔ ∃ prob, infer preprocessor model call features = .ok prob := by
      constructor
      · rintro ⟨preprocessor', model', prob, -, hpreprocessor', hmodel', hprob⟩
        obtain rfl := Option.some.inj (hpreprocessor.symm.trans hpreprocessor')
        obtain rfl := Option.some.inj (hmodel.symm.trans hmodel')
        exact ⟨prob, hprob⟩
      · exact fun ⟨prob, hprob⟩ => ⟨preprocessor, model, prob, htrained, hpreprocessor, hmodel, hprob⟩
    rw [hinfers]
    cases hinfer : infer preprocessor model call features with
    | ok prob => exact ⟨fun _ => .inl ⟨prob, rfl⟩, fun _ => ⟨_, rfl⟩⟩
    | error raised => simp [← fallback_ok_iff log10]
  next hnone =>
    rw [fallback_ok_iff]
    refine ⟨.inr, fun h => h.resolve_left fun hinfers => ?_⟩
    obtain ⟨preprocessor, model, prob, htrained, hpreprocessor, hmodel, -⟩ := hinfers
    exact hnone model preprocessor htrained hmodel hpreprocessor

theorem predictProbability_mem (h : predictProbability log10 service call features = .ok p) : 0 ≤ p ∧ p ≤ 1 := by
  rw [predictProbability] at h
  split at h
  · split at h
    · obtain rfl := Except.ok.inj h
      exact roundDigits_unit (clamp_mem _).1 (clamp_mem _).2
    · exact fallback_mem h
  · exact fallback_mem h

theorem calculateExpectedValue_ok_iff {amountPaise interventionCostPaise : Int} :
    (∃ ev, calculateExpectedValue p amountPaise interventionCostPaise = .ok ev) ↔
      Converts (max 0 amountPaise) ∧ Converts (max 0 interventionCostPaise) := by
  simp only [calculateExpectedValue, Raised.exists_ok_bind, ← ofInteger_ok_iff]
  constructor
  · rintro ⟨amount, hamount, cost, hcost, -⟩
    exact ⟨⟨amount, hamount⟩, cost, hcost⟩
  · rintro ⟨⟨amount, hamount⟩, cost, hcost⟩
    exact ⟨amount, hamount, cost, hcost, _, rfl⟩

/-- The features that the packet itself reads. -/
structure Readable (features : Features) : Prop where
  failureReason : ∃ s, features.failureReason.str = .ok s
  amountPaise : ∃ n, features.amountPaise.int = .ok n ∧ Converts (max 0 n)
  interventionCostPaise : ∃ n, features.interventionCostPaise.int = .ok n ∧ Converts (max 0 n)
  retryCount : ∃ n, features.retryCount.int = .ok n

theorem getRecoveryScore_ok_iff (log10 : Int → ℚ) : (∃ score, getRecoveryScore log10 service call features = .ok score) ↔
    Infers service call features ∨ FallsBack features := by
  rw [← predictProbability_ok_iff log10, getRecoveryScore, Raised.exists_ok_bind]
  exact ⟨fun ⟨p, hp, _⟩ => ⟨p, hp⟩, fun ⟨p, hp⟩ => ⟨p, hp, _, rfl⟩⟩

theorem evidence_ok_iff (log10 : Int → ℚ) :
    (∃ evidence, getQuantitativeEvidence log10 service call features = .ok evidence) ↔ Readable features ∧
      (Infers service call features ∨ FallsBack features) ∧ (Infers service (call + 1) features ∨ FallsBack features) := by
  rw [← predictProbability_ok_iff log10, ← getRecoveryScore_ok_iff log10]
  simp only [getQuantitativeEvidence, Raised.exists_ok_bind]
  constructor
  · rintro ⟨p, hp, amount, hamount, cost, hcost, ev, hev, score, hscore, reason, hreason, retries, hretries, -⟩
    obtain ⟨hamountFits, hcostFits⟩ := calculateExpectedValue_ok_iff.mp ⟨ev, hev⟩
    exact ⟨⟨⟨reason, hreason⟩, ⟨amount, hamount, hamountFits⟩, ⟨cost, hcost, hcostFits⟩, retries, hretries⟩,
      ⟨p, hp⟩, score, hscore⟩
  · rintro ⟨⟨⟨reason, hreason⟩, ⟨amount, hamount, hamountFits⟩, ⟨cost, hcost, hcostFits⟩, retries, hretries⟩, ⟨p, hp⟩,
      score, hscore⟩
    obtain ⟨ev, hev⟩ := calculateExpectedValue_ok_iff.mpr ⟨hamountFits, hcostFits⟩
    exact ⟨p, hp, amount, hamount, cost, hcost, ev, hev, score, hscore, reason, hreason, retries, hretries, _, rfl⟩

/-- Scoring is safe where the packet can read its features, unless a number of retries that has no float meets a call
without the model. -/
theorem scoring_safe_iff (log10 : Int → ℚ) (service : Service T) (call : Nat) (features : Features) :
    ((∃ p, predictProbability log10 service call features = .ok p ∧ 0 ≤ p ∧ p ≤ 1) ∧
      ∃ evidence, getQuantitativeEvidence log10 service call features = .ok evidence) ↔
    Readable features ∧ ((∃ n, features.retryCount.int = .ok n ∧ Converts n) ∨
      Infers service call features ∧ Infers service (call + 1) features) := by
  rw [evidence_ok_iff]
  constructor
  · rintro ⟨-, hreadable, hfirst, hsecond⟩
    refine ⟨hreadable, ?_⟩
    rcases hfirst with hfirst | hfalls
    · rcases hsecond with hsecond | hfalls
      · exact .inr ⟨hfirst, hsecond⟩
      · exact .inl hfalls.retryCount
    · exact .inl hfalls.retryCount
  · rintro ⟨hreadable, hcalls⟩
    have hfalls : (∃ n, features.retryCount.int = .ok n ∧ Converts n) → FallsBack features := fun hretries =>
      ⟨hreadable.failureReason, hreadable.amountPaise.imp fun _ h => h.1, hretries⟩
    have hanswers : ∀ next, next = call ∨ next = call + 1 → Infers service next features ∨ FallsBack features := by
      rintro next (rfl | rfl)
      · exact hcalls.symm.imp And.left hfalls
      · exact hcalls.symm.imp And.right hfalls
    obtain ⟨p, hp⟩ := (predictProbability_ok_iff log10).mpr (hanswers call (.inl rfl))
    exact ⟨⟨p, hp, predictProbability_mem hp⟩, hreadable, hanswers call (.inl rfl), hanswers (call + 1) (.inr rfl)⟩

/-- Nothing keeps the fallback from an amount that is there but is no number. -/
def unreadable : Features := fun key => if key = "amount_paise" then some .none else none

def untrained : Service Unit where
  isTrained := false
  modelVersion := "not_trained_fallback"
  preprocessor := none
  model := none

theorem scoring_raises :
    predictProbability (fun _ => 0) untrained 0 unreadable = .error .typeError ∧
    ¬ ((∃ p, predictProbability (fun _ => 0) untrained 0 unreadable = .ok p ∧ 0 ≤ p ∧ p ≤ 1) ∧
      ∃ evidence, getQuantitativeEvidence (fun _ => 0) untrained 0 unreadable = .ok evidence) := by
  have hraises : predictProbability (fun _ => 0) untrained 0 unreadable = .error .typeError := rfl
  refine ⟨hraises, fun ⟨⟨p, hp, _⟩, _⟩ => ?_⟩
  rw [hraises] at hp
  cases hp

end RevenueRescue.MLScoringService
