import RevenueRescue.Agents.Preservation
import RevenueRescue.Agents.PromptReading

namespace RevenueRescue.LocalReply

open Enums PolicySchema AgentSchemas NodeUtils LlmOutput Text Json PyFloat LocalProvider LlmTotality InertText
open LlmPreservation PolicyService PromptReading

/-- The decoder reads the numbers with four places as they are, also as they are printed, and no number that is not
negative as a negative one. -/
structure ReadsPlaces (d : Decoder) (e : Encoder) : Prop where
  read : ∀ k : ℕ, k ≤ 10000 → d.float (k / 10000) = .num (k / 10000)
  printed : ∀ k : ℕ, k ≤ 10000 → d.float (e.repr (k / 10000)).value = .num (k / 10000)
  nonneg : ∀ q : ℚ, 0 ≤ q → ∀ r, d.float q = .num r → 0 ≤ r

/-- The confidence that the provider starts from. It takes the probability as it is printed, if it can read it. -/
def readConfidence (minusZero : Bool) (state : AgentState) (strategy : RecoveryStrategy) (default : PyFloat) : PyFloat :=
  if strategy = .escalate then default
  else match quoted minusZero state.mlProbability with
    | none => default
    | some _ => clampRound (state.mlProbability.getD default)

variable {p : Platform} {d : Decoder} {e : Encoder} {minusZero : Bool} {state : AgentState} {prompt : Text} {q : ℚ}
  {x default : PyFloat} {strategy : RecoveryStrategy} {reason : FailureReason}

theorem mkRat_places (k : ℤ) : mkRat k 10000 = k / 10000 := by
  rw [Rat.mkRat_eq_div]
  norm_num

/-- What `round(max(0.0, min(1.0, x)), 4)` gives has four places. -/
theorem clampRound_places (x : PyFloat) : ∃ k : ℕ, k ≤ 10000 ∧ clampRound x = .num (k / 10000) := by
  obtain ⟨q, hq, h0, h1⟩ := clamp_num x
  obtain ⟨hlow, hhigh⟩ := roundHalfEven_bounds (q := q * 10000) (n := 10000) (by positivity) (by push_cast; linarith)
  refine ⟨(roundHalfEven (q * 10000)).toNat, by omega, ?_⟩
  have hcast : (((roundHalfEven (q * 10000)).toNat : ℤ) : ℚ) = roundHalfEven (q * 10000) := by
    rw [Int.toNat_of_nonneg hlow]
  rw [clampRound, hq, round4, mkRat_places, ← hcast, Int.cast_natCast]

theorem pyMin_one (h : q ≤ 1) : pyMin (ofInt 1) (.num q) = .num q := by
  rcases h.eq_or_lt with rfl | h
  · simp [pyMin, ofInt]
  · simp [pyMin, ofInt, h]

theorem pyMax_zero (h : 0 ≤ q) : pyMax (ofInt 0) (.num q) = .num q := by
  rcases h.eq_or_lt with rfl | h
  · simp [pyMax, ofInt]
  · simp [pyMax, ofInt, h]

theorem clampRound_num (h0 : 0 ≤ q) (h1 : q ≤ 1) : clampRound (.num q) = .num (roundHalfEven (q * 10000) / 10000) := by
  rw [clampRound, pyMin_one h1, pyMax_zero h0, round4, mkRat_places]

/-- The order of the two bounds does not matter to a number between them. -/
theorem roundClamp_num (h0 : 0 ≤ q) (h1 : q ≤ 1) : roundClamp (.num q) = clampRound (.num q) := by
  rw [roundClamp, clampRound, pyMax_zero h0, pyMin_one h1, pyMax_zero h0]

theorem places_unit {k : ℕ} (hk : k ≤ 10000) : 0 ≤ (k : ℚ) / 10000 ∧ (k : ℚ) / 10000 ≤ 1 := by
  have hk' : (k : ℚ) ≤ 10000 := by exact_mod_cast hk
  exact ⟨by positivity, by rwa [div_le_one (by norm_num)]⟩

theorem clampRound_clampRound (x : PyFloat) : clampRound (clampRound x) = clampRound x := by
  obtain ⟨k, hk, hx⟩ := clampRound_places x
  have hround : roundHalfEven ((k : ℚ) / 10000 * 10000) = k := by
    rw [div_mul_cancel₀ _ (by norm_num)]
    exact roundHalfEven_intCast k
  rw [hx, clampRound_num (places_unit hk).1 (places_unit hk).2, hround, Int.cast_natCast]

/-- The number that the provider reads is the one that the fallback rounds to. -/
theorem readDecimal_probability (hr : ReadsPlaces d e) (h0 : 0 ≤ q) (h1 : q ≤ 1) :
    readDecimal d (fixedText 4 (.num q)) = some (clampRound (.num q)) := by
  obtain ⟨hlow, hhigh⟩ := roundHalfEven_bounds (q := q * 10000) (n := 10000) (by positivity) (by push_cast; linarith)
  have hplaces : ((10 ^ 4 : ℕ) : ℚ) = 10000 := by norm_num
  have hcast : ((roundHalfEven (q * 10000)).toNat : ℚ) = roundHalfEven (q * 10000) := by
    exact_mod_cast Int.toNat_of_nonneg hlow
  rw [readDecimal_fixedText h0 (by decide), hplaces, hr.read _ (by omega), hcast, clampRound_num h0 h1]

theorem confidenceOf_prompt (ht : Typical state) (hr : ReadsPlaces d e)
    (hs : search probabilityHere prompt = quoted minusZero state.mlProbability) :
    confidenceOf d prompt strategy default = some (readConfidence minusZero state strategy default) := by
  rw [confidenceOf, readConfidence, hs]
  cases hp : state.mlProbability with
  | none => simp [quoted]
  | some x =>
      obtain ⟨q, rfl, h0, h1⟩ := ht.mlProbability x hp
      by_cases hz : minusZero = true ∧ PyFloat.num q = .num 0
      · simp [quoted, hz]
      · simp only [quoted, if_neg hz, readDecimal_probability hr h0 h1, Option.getD_some]
        by_cases he : strategy = .escalate <;> simp [he]

theorem decimal_nonneg (digits : Text) (k : ℤ) : 0 ≤ decimal false digits k := by
  rw [decimal, if_neg Bool.false_ne_true, one_mul]
  positivity

theorem readDecimal_nonneg (hr : ReadsPlaces d e) {text : Text} (h : readDecimal d text = some (.num q)) : 0 ≤ q := by
  unfold readDecimal at h
  split at h
  · obtain ⟨-, hread⟩ := Option.ite_none_left_eq_some.mp h
    exact hr.nonneg _ (decimal_nonneg _ _) q (Option.some.inj hread)
  · obtain ⟨-, hread⟩ := Option.ite_none_right_eq_some.mp h
    exact hr.nonneg _ (decimal_nonneg _ _) q (Option.some.inj hread)
  · cases h

theorem truncate_nonneg (h : 0 ≤ q) : 0 ≤ truncate q := by
  rw [truncate, if_neg (not_lt.mpr h)]
  exact Int.floor_nonneg.mpr h

/-- Whatever the provider takes for the amount, the output accepts it. -/
theorem amountPaise_nonneg (hr : ReadsPlaces d e) (prompt : Text) : 0 ≤ amountPaise d prompt := by
  unfold amountPaise
  split
  · rename_i q hq
    obtain ⟨text, -, htext⟩ := Option.bind_eq_some_iff.mp hq
    have h0 := readDecimal_nonneg hr htext
    split
    · exact truncate_nonneg (double_nonneg (by positivity))
    · exact truncate_nonneg h0
  · exact le_rfl

theorem strategyEntry_value (h : validFailureCategory reason = true) : strategyEntry reason.value = strategyMap reason := by
  rw [strategyEntry, validateFailureCategory_value h, Option.getD_some]

/-- The provider and the fallback have one table, but for the delays. -/
theorem strategyMap_eq (reason : FailureReason) :
    strategyMap reason = ((fallbackTable reason).1, (strategyMap reason).2.1, (fallbackTable reason).2) := by
  cases reason <;> rfl

theorem fallbackTable_confidence (reason : FailureReason) :
    ∃ q : ℚ, (fallbackTable reason).2 = .num q ∧ 0 < q ∧ q ≤ 1 := by
  cases reason <;> exact ⟨_, rfl, by norm_num [Rat.mkRat_eq_div], by norm_num [Rat.mkRat_eq_div]⟩

/-- Nothing that the cleaning looks for starts in the string. -/
def Unmarked (s : String) : Prop := ∀ c ∈ s.toList, c ∉ starters

instance (s : String) : Decidable (Unmarked s) := inferInstanceAs (Decidable (∀ c ∈ s.toList, c ∉ starters))

theorem Unmarked.append {s t : String} (hs : Unmarked s) (ht : Unmarked t) : Unmarked (s ++ t) := by
  rw [Unmarked, String.toList_append]
  exact List.forall_mem_append.mpr ⟨hs, ht⟩

theorem unmarked_figures {text : Text} (h : ∀ c ∈ text, isFigure c = true) : Unmarked (String.ofList text) := by
  have hstarters : ∀ c ∈ starters, isFigure c = false := by decide
  rw [Unmarked, String.toList_ofList]
  intro c hc hm
  exact Bool.false_ne_true ((hstarters c hm).symm.trans (h c hc))

/-- The keys of both replies, and the parts of their values that do not depend on the case. -/
def replyTexts : List String :=
  ["diagnosis", "diagnosis_confidence", "failure_category", "likely_cause", "is_recoverable", "recommended_strategy",
    "needs_human_review", "notes", "FALLBACK_MODE", "Rule-based deterministic diagnosis for ",
    ". No external inference cost.", "recovery_strategy", "reason", "requested_action", "type", "delay_hours",
    "expected_recovery_paise", "confidence", "fallback_strategy", "ESCALATE", "Deterministic strategy for ",
    " with confidence ", "."] ++ strategies.map RecoveryStrategy.value

theorem unmarked_texts : ∀ s ∈ replyTexts, Unmarked s := by
  decide +kernel

theorem unmarked_value (h : validFailureCategory reason = true) :
    Unmarked reason.value ∧ Unmarked ("rule_based_" ++ reason.value.toLower) := by
  have hall : ∀ reason ∈ failureCategories, Unmarked reason.value ∧ Unmarked ("rule_based_" ++ reason.value.toLower) := by
    decide +kernel
  exact hall _ (mem_failureCategories h)

theorem unmarked_strategy (strategy : RecoveryStrategy) : Unmarked strategy.value :=
  unmarked_texts _ (List.mem_append_right _ (List.mem_map_of_mem (mem_strategies strategy)))

theorem unmarked_diagnosisOutput (h : validFailureCategory reason = true) :
    ∀ s ∈ strings (.dict (diagnosisOutput reason.value strategy x)), Unmarked s := by
  have htext {s : String} (hs : s ∈ replyTexts) : Unmarked s := unmarked_texts s hs
  obtain ⟨hvalue, hlabel⟩ := unmarked_value h
  have hcause : Unmarked ("Rule-based deterministic diagnosis for " ++ reason.value ++ ". No external inference cost.") :=
    ((htext (by simp [replyTexts])).append hvalue).append (htext (by simp [replyTexts]))
  simp only [diagnosisOutput, strings, stringsMembers, List.nil_append, List.cons_append, List.forall_mem_cons,
    List.not_mem_nil, false_implies, implies_true, and_true]
  refine ⟨?_, hlabel, ?_, ?_, hvalue, ?_, hcause, ?_, ?_, unmarked_strategy strategy, ?_, ?_, ?_⟩
  all_goals exact htext (by simp [replyTexts])

theorem unmarked_strategyOutput (h : validFailureCategory reason = true) (delay amount : ℤ) :
    ∀ s ∈ strings (.dict (strategyOutput reason.value strategy delay x amount)), Unmarked s := by
  have htext {s : String} (hs : s ∈ replyTexts) : Unmarked s := unmarked_texts s hs
  have hname := unmarked_strategy strategy
  have hfigure := unmarked_figures (fixedText_figures 2 x)
  have hreason : Unmarked ("Deterministic strategy for " ++ reason.value ++ " with confidence " ++
      String.ofList (fixedText 2 x) ++ ".") := by
    refine Unmarked.append (Unmarked.append (Unmarked.append (Unmarked.append ?_ (unmarked_value h).1) ?_) hfigure) ?_
    all_goals exact htext (by simp [replyTexts])
  simp only [strategyOutput, strings, stringsMembers, List.nil_append, List.cons_append, List.forall_mem_cons,
    List.not_mem_nil, false_implies, implies_true, and_true]
  refine ⟨?_, hname, ?_, hreason, ?_, ?_, hname, ?_, ?_, ?_, ?_, ?_⟩
  all_goals exact htext (by simp [replyTexts])

theorem parse_unmarked {kvs : List (String × PyValue)} (h : ReadsBack p.decoder e (.dict kvs))
    (hd : nesting (.dict kvs) ≤ p.decoder.depth) (hs : ∀ s ∈ strings (.dict kvs), Unmarked s) :
    parseReply p (dumps e (.dict kvs)) = some (.dict kvs) := by
  have hinert : Inert isSpace (dumps e (.dict kvs)) := (inert_dumps _).mpr fun s hm => inert_of_notMem (hs s hm)
  exact (preserved_of_inert h hd hinert).bare

theorem readsBack_clampRound (hr : ReadsPlaces d e) (x : PyFloat) : ReadsBack d e (.float (clampRound x)) := by
  obtain ⟨k, hk, hx⟩ := clampRound_places x
  rw [hx]
  exact hr.printed k hk

theorem readsBack_diagnosisOutput (hr : ReadsPlaces d e) (hx : roundClamp x = clampRound x) (failureReason : String) :
    ReadsBack d e (.dict (diagnosisOutput failureReason strategy x)) := by
  refine ⟨by simp [diagnosisOutput], trivial, ?_, trivial, trivial, trivial, trivial, trivial, trivial, trivial⟩
  rw [hx]
  exact readsBack_clampRound hr x

theorem readsBack_strategyOutput (hr : ReadsPlaces d e) (hx : roundClamp x = clampRound x) (failureReason : String)
    (delay amount : ℤ) : ReadsBack d e (.dict (strategyOutput failureReason strategy delay x amount)) := by
  refine ⟨by simp [strategyOutput], trivial, trivial, ⟨by simp, trivial, trivial, trivial⟩, trivial, ?_, trivial, trivial⟩
  rw [hx]
  exact readsBack_clampRound hr x

/-- The diagnosis of the provider. -/
def ruleDiagnosis (reason : FailureReason) (x : PyFloat) (h : validFailureCategory reason = true) : DiagnosisOutput where
  diagnosis := "rule_based_" ++ reason.value.toLower
  diagnosisConfidence := clampRound x
  failureCategory := reason
  likelyCause := "Rule-based deterministic diagnosis for " ++ reason.value ++ ". No external inference cost."
  isRecoverable := (fallbackTable reason).1 ≠ .escalate
  recommendedStrategy := (fallbackTable reason).1
  needsHumanReview := reason = .unknown
  notes := "FALLBACK_MODE"
  confidence_bound := clampRound_inUnit x
  category_valid := h

/-- The reply to `node_diagnosis` passes its validation as it was meant. -/
theorem diagnosisReply_output (hr : ReadsPlaces p.decoder e) (hd : 2 ≤ p.decoder.depth)
    (h : validFailureCategory reason = true) (hx : roundClamp x = clampRound x) :
    diagnosisReply p (some (dumps e (.dict (diagnosisOutput reason.value (fallbackTable reason).1 x)))) =
      some (ruleDiagnosis reason x h) := by
  have hback : ReadsBack p.decoder e (.dict (diagnosisOutput reason.value (fallbackTable reason).1 x)) :=
    readsBack_diagnosisOutput hr hx reason.value
  have hparse := parse_unmarked hback
    (le_trans (by simp [diagnosisOutput, nesting, nestingMembers]) hd) (unmarked_diagnosisOutput h)
  have hreview : decide (reason.value = "UNKNOWN") = decide (reason = .unknown) := by
    cases reason with
    | other name => cases h
    | _ => rfl
  simp only [diagnosisReply, bind, Option.bind_some, hparse]
  simp [validateDiagnosis, diagnosisOutput, ruleDiagnosis, lookup, field, p.conversions.str_str, p.conversions.float_float,
    p.conversions.bool_bool, validateFailureCategory_value h, validateStrategy_value, hx, hreview, clampRound_inUnit, h]

/-- The reply to `node_strategy` passes its validation as it was meant. -/
theorem strategyReply_output (hr : ReadsPlaces p.decoder e) (hd : 2 ≤ p.decoder.depth)
    (h : validFailureCategory reason = true) (hx : roundClamp x = clampRound x) (delay : ℤ) {amount : ℤ} (ha : 0 ≤ amount) :
    ∃ strat, strategyReply p (some (dumps e (.dict (strategyOutput reason.value strategy delay x amount)))) = some strat ∧
      strat.recoveryStrategy = strategy ∧ strat.confidence = clampRound x := by
  have hback : ReadsBack p.decoder e (.dict (strategyOutput reason.value strategy delay x amount)) :=
    readsBack_strategyOutput hr hx reason.value delay amount
  have hparse := parse_unmarked hback
    (le_trans (by simp [strategyOutput, nesting, nestingMembers]) hd) (unmarked_strategyOutput h delay amount)
  have hexpected : 0 ≤ if strategy = .escalate then 0 else amount := by
    split
    · exact le_rfl
    · exact ha
  simp only [strategyReply, bind, Option.bind_some, hparse]
  simp [validateStrategyOutput, strategyOutput, lookup, field, asDict, optionalStr, p.conversions.str_str,
    p.conversions.float_float, p.conversions.int_int, validateStrategy_value, hx, clampRound_inUnit, hexpected]

theorem complete_output {confidence : PyFloat} (h : validFailureCategory reason = true)
    (hreason : failureReasonOf prompt = reason.value)
    (hconfidence : confidenceOf d prompt (fallbackTable reason).1 (fallbackTable reason).2 = some confidence) :
    complete d e prompt = some (dumps e (.dict (
      if isStrategy prompt then strategyOutput reason.value (fallbackTable reason).1 (strategyMap reason).2.1 confidence
        (amountPaise d prompt)
      else diagnosisOutput reason.value (fallbackTable reason).1 confidence))) := by
  rw [complete, hreason, strategyEntry_value h, strategyMap_eq]
  simp only [hconfidence, Option.map_some]

/-- The confidence of the provider for a case. -/
def localConfidence (minusZero : Bool) (state : AgentState) : PyFloat :=
  readConfidence minusZero state (fallbackTable state.failureReason).1 (fallbackTable state.failureReason).2

theorem localConfidence_unit : roundClamp (localConfidence minusZero state) = clampRound (localConfidence minusZero state) := by
  obtain ⟨q, hq, h0, h1⟩ := fallbackTable_confidence state.failureReason
  unfold localConfidence readConfidence
  split
  · rw [hq, roundClamp_num h0.le h1]
  · split
    · rw [hq, roundClamp_num h0.le h1]
    · obtain ⟨k, hk, hx⟩ := clampRound_places (state.mlProbability.getD (fallbackTable state.failureReason).2)
      rw [hx, roundClamp_num (places_unit hk).1 (places_unit hk).2]

end RevenueRescue.LocalReply
