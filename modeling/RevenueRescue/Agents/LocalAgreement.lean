import RevenueRescue.Agents.LocalReply

namespace RevenueRescue.LocalAgreement

open Enums PolicySchema AgentSchemas NodeUtils LlmNodes LlmOutput Text Json PyFloat Prompts LocalProvider LlmTotality
open PolicyService PromptReading LocalReply

/-- The reply of the local provider to `node_diagnosis`. -/
def localDiagnosis (p : Platform) (e : Encoder) (minusZero : Bool) (state : AgentState) : Option DiagnosisOutput :=
  diagnosisReply p (complete p.decoder e (diagnosisPrompt e minusZero state))

/-- The reply of the local provider to `node_strategy`. -/
def localStrategy (p : Platform) (e : Encoder) (minusZero : Bool) (state : AgentState) : Option StrategyOutput :=
  match acceptedDiagnosis state state.caseDiagnosis with
  | .ok diag => strategyReply p (complete p.decoder e (strategyPrompt e minusZero state diag))
  | .error _ => none

/-- The two nodes, with a reply to each. -/
def runNodes (state : AgentState) (diagnose : AgentState → Option DiagnosisOutput)
    (strategize : AgentState → Option StrategyOutput) : Except String AgentState := do
  let state ← nodeDiagnosis state (diagnose state)
  nodeStrategy state (strategize state)

/-- What two diagnoses are compared by. -/
structure Findings where
  diagnosisConfidence : PyFloat
  failureCategory : FailureReason
  isRecoverable : Bool
  recommendedStrategy : RecoveryStrategy
  needsHumanReview : Bool
  deriving DecidableEq

def findings (diag : DiagnosisOutput) : Findings where
  diagnosisConfidence := diag.diagnosisConfidence
  failureCategory := diag.failureCategory
  isRecoverable := diag.isRecoverable
  recommendedStrategy := diag.recommendedStrategy
  needsHumanReview := diag.needsHumanReview

/-- What two runs are compared by: the findings, the `recovery_strategy` and the `confidence`. -/
def verdict (state : AgentState) : Option (Findings × RecoveryStrategy × PyFloat) := do
  let diag ← state.caseDiagnosis
  let strat ← state.caseStrategy
  some (findings diag, strat.recoveryStrategy, strat.confidence)

/-- Both nodes take the reply of the local provider, and end where they end when every call raises. -/
structure Agrees (p : Platform) (e : Encoder) (minusZero : Bool) (state : AgentState) : Prop where
  diagnosed : (localDiagnosis p e minusZero state).isSome = true
  strategized : ∀ between, nodeDiagnosis state (localDiagnosis p e minusZero state) = .ok between →
    (localStrategy p e minusZero between).isSome = true
  same : ∃ run fallback found, runNodes state (localDiagnosis p e minusZero) (localStrategy p e minusZero) = .ok run ∧
    runNodes state (fun _ => none) (fun _ => none) = .ok fallback ∧ verdict run = some found ∧
    verdict fallback = some found

variable {p : Platform} {e : Encoder} {minusZero : Bool} {state : AgentState} {x : PyFloat} {reason : FailureReason}

/-- What the rules find for a failure reason, with a confidence. -/
def ruleFindings (reason : FailureReason) (x : PyFloat) : Findings where
  diagnosisConfidence := clampRound x
  failureCategory := reason
  isRecoverable := (fallbackTable reason).1 ≠ .escalate
  recommendedStrategy := (fallbackTable reason).1
  needsHumanReview := reason = .unknown

def ruleVerdict (reason : FailureReason) (x : PyFloat) : Findings × RecoveryStrategy × PyFloat :=
  (ruleFindings reason x, (fallbackTable reason).1, clampRound x)

theorem ruleVerdict_eq {y : PyFloat} : ruleVerdict reason x = ruleVerdict reason y ↔ clampRound x = clampRound y := by
  constructor
  · exact fun h => (Prod.mk.inj (Prod.mk.inj h).2).2
  · intro h
    rw [ruleVerdict, ruleVerdict, ruleFindings, ruleFindings, h]

theorem fallbackDiagnosis_findings (h : validFailureCategory reason = true) (mlProbability : Option PyFloat) :
    ∃ diag, fallbackDiagnosis reason mlProbability = .ok diag ∧ findings diag = ruleFindings reason
      (if (fallbackTable reason).1 ≠ .escalate then mlProbability.getD (fallbackTable reason).2
        else (fallbackTable reason).2) := by
  unfold fallbackDiagnosis
  rw [dif_pos h]
  exact ⟨_, rfl, rfl⟩

/-- The state that `node_diagnosis` leaves. -/
def diagnosed (state : AgentState) (diag : DiagnosisOutput) : AgentState :=
  { addTrace state .diagnosis with caseDiagnosis := some diag }

theorem fillDelay_confidence (strat : StrategyOutput) (delayHours : ℤ) :
    (fillDelay strat delayHours).confidence = strat.confidence := by
  unfold fillDelay
  split <;> rfl

theorem typical_diagnosed (ht : Typical state) (diag : DiagnosisOutput) : Typical (diagnosed state diag) :=
  ⟨ht.caseId, ht.eventType, ht.customerSegment, ht.failureReason, ht.amountPaise, ht.mlProbability⟩

theorem runNodes_ok (diagnose : AgentState → Option DiagnosisOutput) (strategize : AgentState → Option StrategyOutput)
    {diag : DiagnosisOutput} {strat : StrategyOutput} (hd : acceptedDiagnosis state (diagnose state) = .ok diag)
    (hs : acceptedStrategy (diagnosed state diag) diag (strategize (diagnosed state diag)) = .ok strat) :
    ∃ run, runNodes state diagnose strategize = .ok run ∧ run.caseDiagnosis = some diag ∧ run.caseStrategy = some strat := by
  refine ⟨{ addTrace (diagnosed state diag) .strategy with caseStrategy := some strat }, ?_, rfl, rfl⟩
  have hfirst : nodeDiagnosis state (diagnose state) = .ok (diagnosed state diag) := by
    rw [nodeDiagnosis, hd]
    rfl
  have hsecond : nodeStrategy (diagnosed state diag) (strategize (diagnosed state diag)) =
      (acceptedStrategy (diagnosed state diag) diag (strategize (diagnosed state diag))).map fun strat =>
        { addTrace (diagnosed state diag) .strategy with caseStrategy := some strat } := rfl
  rw [hs] at hsecond
  rw [runNodes, hfirst]
  exact hsecond

theorem verdict_eq {diag : DiagnosisOutput} {strat : StrategyOutput} (hd : state.caseDiagnosis = some diag)
    (hs : state.caseStrategy = some strat) (hf : findings diag = ruleFindings reason x)
    (hstrategy : strat.recoveryStrategy = (fallbackTable reason).1) (hconfidence : strat.confidence = clampRound x) :
    verdict state = some (ruleVerdict reason x) := by
  rw [verdict, hd, hs]
  simp only [bind, Option.bind_some, hf, hstrategy, hconfidence, ruleVerdict]

section

variable (minusZero) (ht : Typical state) (hr : ReadsPlaces p.decoder e) (hd : 2 ≤ p.decoder.depth)

include ht hr hd

/-- `node_diagnosis` takes the reply of the provider. -/
theorem localDiagnosis_eq : localDiagnosis p e minusZero state =
    some (ruleDiagnosis state.failureReason (localConfidence minusZero state) ht.failureReason) := by
  have hprobability : search probabilityHere (diagnosisPrompt e minusZero state) = quoted minusZero state.mlProbability :=
    probability_diagnosis ht
  have hreply := complete_output (e := e) ht.failureReason (failureReasonOf_diagnosis ht)
    (confidenceOf_prompt ht hr hprobability)
  rw [isStrategy_diagnosis ht, if_neg Bool.false_ne_true] at hreply
  rw [localDiagnosis, hreply]
  exact diagnosisReply_output hr hd ht.failureReason localConfidence_unit

/-- `node_strategy` takes the reply of the provider, for a diagnosis that names the failure reason. -/
theorem localStrategy_some {diag : DiagnosisOutput} (hdiag : state.caseDiagnosis = some diag)
    (hcategory : diag.failureCategory = state.failureReason)
    (hlabel : diag.diagnosis = "rule_based_" ++ diag.failureCategory.value.toLower) :
    ∃ strat, localStrategy p e minusZero state = some strat ∧
      strat.recoveryStrategy = (fallbackTable state.failureReason).1 ∧
      strat.confidence = clampRound (localConfidence minusZero state) := by
  have hreason : failureReasonOf (strategyPrompt e minusZero state diag) = state.failureReason.value := by
    rw [failureReasonOf_strategy ht hlabel, hcategory]
  have hprobability : search probabilityHere (strategyPrompt e minusZero state diag) =
      quoted minusZero state.mlProbability := probability_strategy ht hlabel
  have hreply := complete_output (e := e) ht.failureReason hreason (confidenceOf_prompt ht hr hprobability)
  rw [isStrategy_strategy, if_pos rfl] at hreply
  rw [localStrategy, hdiag, acceptedDiagnosis]
  simp only [hreply]
  exact strategyReply_output hr hd ht.failureReason localConfidence_unit _ (amountPaise_nonneg hr _)

theorem localStrategy_diagnosed :
    ∃ strat, localStrategy p e minusZero (diagnosed state
        (ruleDiagnosis state.failureReason (localConfidence minusZero state) ht.failureReason)) = some strat ∧
      strat.recoveryStrategy = (fallbackTable state.failureReason).1 ∧
      strat.confidence = clampRound (localConfidence minusZero state) :=
  localStrategy_some minusZero (typical_diagnosed ht _) hr hd rfl rfl rfl

/-- Both replies are taken, and what the run settles on is the verdict of the rules. -/
theorem runNodes_local : ∃ run, runNodes state (localDiagnosis p e minusZero) (localStrategy p e minusZero) = .ok run ∧
    verdict run = some (ruleVerdict state.failureReason (localConfidence minusZero state)) := by
  obtain ⟨strat, hstrat, hstrategy, hconfidence⟩ := localStrategy_diagnosed minusZero ht hr hd
  have hdiag := localDiagnosis_eq minusZero ht hr hd
  obtain ⟨run, hrun, hrd, hrs⟩ := runNodes_ok (localDiagnosis p e minusZero) (localStrategy p e minusZero)
    (congrArg (acceptedDiagnosis state) hdiag) (congrArg (acceptedStrategy _ _) hstrat)
  refine ⟨run, hrun, verdict_eq hrd hrs rfl ?_ ?_⟩
  · rw [fillDelay_strategy, hstrategy]
  · rw [fillDelay_confidence, hconfidence]

end

/-- The confidence of the fallback for a case. -/
def fallbackConfidence (state : AgentState) : PyFloat :=
  if (fallbackTable state.failureReason).1 ≠ .escalate then
    state.mlProbability.getD (fallbackTable state.failureReason).2
  else (fallbackTable state.failureReason).2

/-- So is the verdict when both calls raise. -/
theorem runNodes_raised (ht : Typical state) : ∃ run, runNodes state (fun _ => none) (fun _ => none) = .ok run ∧
    verdict run = some (ruleVerdict state.failureReason (fallbackConfidence state)) := by
  obtain ⟨diag, hdiag, hfindings⟩ := fallbackDiagnosis_findings ht.failureReason state.mlProbability
  obtain ⟨strat, hstrat, -⟩ :=
    fallbackStrategy_validated strict diag ht.amountPaise.le (state.ruleRetryDelayHours.getD 24)
  obtain ⟨hstrategy, hconfidence, -⟩ := fallbackStrategy_ok hstrat
  obtain ⟨run, hrun, hrd, hrs⟩ := runNodes_ok (fun _ => none) (fun _ => none) hdiag hstrat
  exact ⟨run, hrun, verdict_eq hrd hrs hfindings
    (hstrategy.trans (congrArg Findings.recommendedStrategy hfindings))
    (hconfidence.trans (congrArg Findings.diagnosisConfidence hfindings))⟩

/-- The two agree when both confidences round to the same. -/
theorem agrees_iff_confidence (ht : Typical state) (hr : ReadsPlaces p.decoder e) (hd : 2 ≤ p.decoder.depth) :
    Agrees p e minusZero state ↔
      clampRound (localConfidence minusZero state) = clampRound (fallbackConfidence state) := by
  have hdiag := localDiagnosis_eq minusZero ht hr hd
  obtain ⟨run, hrun, hverdict⟩ := runNodes_local minusZero ht hr hd
  obtain ⟨fallback, hfallback, hraised⟩ := runNodes_raised ht
  constructor
  · rintro ⟨-, -, run', fallback', found, hrun', hfallback', hfound, hfound'⟩
    obtain rfl : run = run' := Except.ok.inj (hrun.symm.trans hrun')
    obtain rfl : fallback = fallback' := Except.ok.inj (hfallback.symm.trans hfallback')
    exact ruleVerdict_eq.mp (Option.some.inj ((hverdict.symm.trans hfound).trans (hfound'.symm.trans hraised)))
  · intro h
    refine ⟨by rw [hdiag]; rfl, fun between hbetween => ?_, run, fallback, _, hrun, hfallback, hverdict, ?_⟩
    · obtain ⟨strat, hstrat, -⟩ := localStrategy_diagnosed minusZero ht hr hd
      rw [hdiag] at hbetween
      obtain rfl : diagnosed state _ = between := Except.ok.inj hbetween
      rw [hstrat]
      rfl
    · rw [hraised, ruleVerdict_eq.mpr h]

/-- Only an unknown failure is escalated, and no confidence of the table rounds to zero. -/
theorem fallbackTable_facts (h : validFailureCategory reason = true) :
    ((fallbackTable reason).1 = .escalate ↔ reason = .unknown) ∧
      clampRound (fallbackTable reason).2 ≠ clampRound (.num 0) := by
  have hall : ∀ reason ∈ failureCategories, ((fallbackTable reason).1 = .escalate ↔ reason = .unknown) ∧
      clampRound (fallbackTable reason).2 ≠ clampRound (.num 0) := by
    decide +kernel
  exact hall _ (mem_failureCategories h)

theorem confidence_eq_iff (ht : Typical state) :
    clampRound (localConfidence minusZero state) = clampRound (fallbackConfidence state) ↔
      ¬ (minusZero = true ∧ state.mlProbability = some (.num 0) ∧ state.failureReason ≠ .unknown) := by
  obtain ⟨hescalate, hzero⟩ := fallbackTable_facts ht.failureReason
  by_cases hu : state.failureReason = .unknown
  · have hstrategy := hescalate.mpr hu
    rw [localConfidence, readConfidence, if_pos hstrategy, fallbackConfidence, if_neg (not_not.mpr hstrategy)]
    exact iff_of_true rfl fun h => h.2.2 hu
  · have hstrategy : (fallbackTable state.failureReason).1 ≠ .escalate := fun he => hu (hescalate.mp he)
    rw [localConfidence, readConfidence, if_neg hstrategy, fallbackConfidence, if_pos hstrategy]
    cases hp : state.mlProbability with
    | none => simp [quoted]
    | some x =>
        by_cases hz : minusZero = true ∧ x = .num 0
        · obtain ⟨hminus, rfl⟩ := hz
          simp [quoted, hminus, hu, hzero]
        · have hread : quoted minusZero (some x) = some (fixedText 4 x) := if_neg hz
          simp only [hread, Option.getD_some, clampRound_clampRound, true_iff]
          exact fun h => hz ⟨h.1, Option.some.inj h.2.1⟩

/-- The provider agrees with the fallback but for a minus zero, which it does not read where the probability counts. -/
theorem local_agrees_iff (ht : Typical state) (hr : ReadsPlaces p.decoder e) (hd : 2 ≤ p.decoder.depth) :
    Agrees p e minusZero state ↔
      ¬ (minusZero = true ∧ state.mlProbability = some (.num 0) ∧ state.failureReason ≠ .unknown) :=
  (agrees_iff_confidence ht hr hd).trans (confidence_eq_iff ht)

theorem plain_readsPlaces : ReadsPlaces plainPlatform.decoder plainEncoder where
  read _ _ := rfl
  printed k _ := congrArg PyFloat.num (plainEncoder_value k)
  nonneg _ h _ hr := PyFloat.num.inj hr ▸ h

/-- A declined payment, with a probability of 0. -/
def declined : AgentState where
  caseId := (Uuid.ofDigit 0).str
  agentRunId := "run_1"
  failureReason := .bankDecline
  amountPaise := 100000
  mlProbability := some (.num 0)

theorem typical_declined : Typical declined where
  caseId := ⟨Uuid.ofDigit 0, rfl⟩
  eventType := ⟨.failedPayment, rfl⟩
  customerSegment := rfl
  failureReason := rfl
  amountPaise := by decide
  mlProbability := fun x hx => ⟨0, (Option.some.inj hx).symm, le_rfl, zero_le_one⟩

theorem local_agrees_iff_declined : Agrees plainPlatform plainEncoder false declined ↔
    ¬ (false = true ∧ declined.mlProbability = some (.num 0) ∧ declined.failureReason ≠ .unknown) :=
  local_agrees_iff typical_declined plain_readsPlaces (by decide)

/-- A minus zero is printed with its sign, and the provider takes the confidence of its table. -/
theorem minus_zero_disagrees : Typical declined ∧ ¬ Agrees plainPlatform plainEncoder true declined := by
  refine ⟨typical_declined, fun h => ?_⟩
  have hconfidence := (agrees_iff_confidence typical_declined plain_readsPlaces (by decide)).mp h
  exact (confidence_eq_iff typical_declined).mp hconfidence ⟨rfl, rfl, by decide⟩

end RevenueRescue.LocalAgreement
