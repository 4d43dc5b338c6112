import RevenueRescue.Agents.PromptMarks

namespace RevenueRescue.PromptReading

open Enums PolicySchema AgentSchemas LlmOutput Text Json PyFloat Prompts LocalProvider LlmTotality PromptMarks

/-- The inputs that the nodes get for a case. -/
structure Typical (state : AgentState) : Prop where
  caseId : ∃ id : Uuid, state.caseId = id.str
  eventType : ∃ scenario : RecoveryScenario, state.eventType = scenario.value
  customerSegment : state.customerSegment = "standard"
  failureReason : validFailureCategory state.failureReason = true
  amountPaise : 0 < state.amountPaise
  mlProbability : ∀ x ∈ state.mlProbability, ∃ q, x = .num q ∧ 0 ≤ q ∧ q ≤ 1

variable {state : AgentState} {diag : DiagnosisOutput} {e : Encoder} {minusZero : Bool} {t rest : Text}

theorem clear_expectedValue (expectedValuePaise : Option PyFloat) :
    AllClear searched (fill expectedValue [fixedText 2 (rupees (expectedValuePaise.getD (.num 0)))]) :=
  clear_evidenceLines.1.fill (.cons (clear_figures (fixedText_figures 2 _)) .nil)

theorem clear_retryDelay (delayHours : Int) : AllClear searched (fill retryDelay [intText delayHours]) :=
  clear_evidenceLines.2.fill (.cons (clear_figures (intText_figures _)) .nil)

theorem clear_evidence {heading : String} (h : Clear searched heading.toList) (expectedValuePaise : Option PyFloat) (x : PyFloat) :
    AllClear plainMarks (evidence heading minusZero expectedValuePaise x) := by
  have hsub {t : Text} (h : Clear searched t) : Clear plainMarks t := h.mono plainMarks_subset
  exact .cons (hsub h) <| .cons clear_probabilityMark <| .cons (hsub (clear_probability x)) <|
    .cons (hsub clear_newline) <| (clear_expectedValue expectedValuePaise).mono plainMarks_subset

theorem clear_diagnosisEvidence (minusZero : Bool) (state : AgentState) : AllClear plainMarks (diagnosisEvidence minusZero state) := by
  unfold diagnosisEvidence
  split
  · exact .nil
  · exact clear_evidence clear_diagnosisHeading _ _

theorem clear_strategyEvidence (minusZero : Bool) (state : AgentState) : AllClear plainMarks (strategyEvidence minusZero state) := by
  unfold strategyEvidence
  split
  · exact .nil
  · exact .append (clear_evidence clear_strategyHeading _ _) ((clear_retryDelay _).mono plainMarks_subset)

/-- The pieces of the diagnosis prompt before its reason. -/
def beforeReason (state : AgentState) : List Text :=
  fill diagnosisHead [state.caseId.toList, state.eventType.toList ++ ['\n']]

/-- The pieces of the diagnosis prompt between its reason and the evidence. -/
def afterReason (e : Encoder) (state : AgentState) : List Text :=
  fill diagnosisBody [fixedText 2 (rupees (.ofInt state.amountPaise)), state.customerSegment.toList,
    pyBool state.customerOptedOut, intText state.retryCount, hoursText e state.hoursSinceLastAttempt,
    pyBool state.checkoutTimeoutElapsed]

/-- The pieces of the strategy prompt before the evidence. -/
def beforeEvidence (e : Encoder) (state : AgentState) (diag : DiagnosisOutput) : List Text :=
  fill strategyTemplate [state.caseId.toList, diag.failureCategory.value.toList ++ ['\n'], diag.diagnosis.toList,
    showFloat e diag.diagnosisConfidence, pyBool diag.isRecoverable, fixedText 2 (rupees (.ofInt state.amountPaise)),
    state.customerSegment.toList, intText state.retryCount, state.eventType.toList ++ ['\n']]

theorem clear_beforeReason (ht : Typical state) : AllClear diagnosisMarks (beforeReason state) := by
  obtain ⟨id, hid⟩ := ht.caseId
  obtain ⟨scenario, hscenario⟩ := ht.eventType
  rw [beforeReason, hid, hscenario]
  exact clear_diagnosisTemplate.1.fill <| .cons ((clear_id id).mono diagnosisMarks_subset) <|
    .cons (clear_scenario.mono diagnosisMarks_subset) .nil

theorem clear_afterReason (ht : Typical state) : AllClear diagnosisMarks (afterReason e state) := by
  rw [afterReason, ht.customerSegment]
  refine clear_diagnosisTemplate.2.fill (AllClear.mono ?_ diagnosisMarks_subset)
  exact .cons (clear_figures (fixedText_figures 2 _)) <| .cons clear_segment <| .cons (clear_pyBool _) <|
    .cons (clear_figures (intText_figures _)) <| .cons (clear_hours _) <| .cons (clear_pyBool _) .nil

theorem clear_beforeEvidence (ht : Typical state)
    (hlabel : diag.diagnosis = "rule_based_" ++ diag.failureCategory.value.toLower) :
    AllClear (otherMarks diag.failureCategory) (beforeEvidence e state diag) := by
  have hsub : ∀ p ∈ otherMarks diag.failureCategory, p ∈ searched := fun p hp =>
    List.mem_cons_of_mem strategyKey (otherMarks_subset _ p hp)
  obtain ⟨id, hid⟩ := ht.caseId
  obtain ⟨scenario, hscenario⟩ := ht.eventType
  rw [beforeEvidence, ht.customerSegment, hid, hscenario, hlabel]
  refine (clear_strategyTemplate.mono (otherMarks_subset _)).fill ?_
  refine .cons ((clear_id id).mono hsub) <| .cons (named diag.category_valid).category <|
    .cons ((named diag.category_valid).label.mono (otherMarks_subset _)) <| AllClear.mono ?_ hsub
  exact .cons (clear_figures (showFloat_figures _)) <| .cons (clear_pyBool _) <|
    .cons (clear_figures (fixedText_figures 2 _)) <| .cons clear_segment <|
    .cons (clear_figures (intText_figures _)) <| .cons clear_scenario .nil

theorem reasonHere_starts : Starts reasonHere [reasonMark] := by
  intro t h
  rw [reasonHere, isPrefixOf?_eq_none.mpr (h reasonMark List.mem_cons_self)]
  rfl

theorem probabilityHere_starts : Starts probabilityHere probabilityMarks := by
  intro t h
  refine List.findSome?_eq_none_iff.mpr fun mark hmark => ?_
  rw [isPrefixOf?_eq_none.mpr (h mark hmark)]
  rfl

theorem mem_priorityOrder {reason : FailureReason} (h : validFailureCategory reason = true) : reason ∈ priorityOrder := by
  cases reason with
  | other name => cases h
  | _ => decide

theorem priorityOrder_valid : ∀ reason ∈ priorityOrder, validFailureCategory reason = true := by decide

/-- The names that the provider looks for are those of the categories. -/
theorem priorityOrder_names : (priorityOrder.map FailureReason.value).map String.toList = names := by
  have hspelled : Spelled (priorityOrder.map FailureReason.value) names :=
    .cons rfl <| .cons rfl <| .cons rfl <| .cons rfl <| .cons rfl <| .cons rfl <| .cons rfl <| .cons rfl <| .cons rfl .nil
  exact hspelled.map_toList

theorem value_mem_names {reason : FailureReason} (h : reason ∈ priorityOrder) : reason.value.toList ∈ names := by
  rw [← priorityOrder_names]
  exact List.mem_map_of_mem (List.mem_map_of_mem h)

theorem value_injective {reason other : FailureReason} (h : validFailureCategory reason = true)
    (ho : validFailureCategory other = true) (he : reason.value.toList = other.value.toList) : reason = other := by
  have hfound := validateFailureCategory_value h
  rw [String.toList_inj.mp he, validateFailureCategory_value ho] at hfound
  exact (Option.some.inj hfound).symm

theorem mem_otherMarks {reason : FailureReason} {p : Text} (hp : p ∈ reasonMark :: names) (hne : p ≠ reason.value.toList) :
    p ∈ otherMarks reason := by
  rcases List.mem_cons.mp hp with rfl | hp
  · exact List.mem_cons_self
  · exact List.mem_cons_of_mem _ (List.mem_append_right _ (List.mem_filter.mpr ⟨hp, decide_eq_true hne⟩))

theorem reason_ne_mark {reason : FailureReason} (h : validFailureCategory reason = true) :
    reasonMark ≠ reason.value.toList := by
  intro he
  exact absurd (he ▸ value_mem_names (mem_priorityOrder h)) (by decide)

theorem find?_only {α : Type} {l : List α} {P : α → Bool} {a : α} (ha : a ∈ l) (hP : P a = true)
    (hother : ∀ b ∈ l, b ≠ a → P b = false) : l.find? P = some a := by
  induction l with
  | nil => exact absurd ha List.not_mem_nil
  | cons b l ih =>
      by_cases hb : b = a
      · rw [hb, List.find?_cons_of_pos hP]
      · rw [List.find?_cons_of_neg (by simp [hother b List.mem_cons_self hb])]
        exact ih ((List.mem_cons.mp ha).resolve_left (Ne.symm hb)) fun c hc => hother c (List.mem_cons_of_mem _ hc)

theorem lstrip_blank {text : Text} (hne : text ≠ []) (h : ∀ c ∈ text, isSpace c = false) (rest : Text) :
    lstrip (' ' :: (text ++ rest)) = text ++ rest := by
  obtain ⟨c, text, rfl⟩ := List.exists_cons_of_ne_nil hne
  have hblank : isSpace ' ' = true := by decide
  rw [lstrip, List.dropWhile_cons_of_pos hblank, List.cons_append,
    List.dropWhile_cons_of_neg (by simp [h c List.mem_cons_self])]

theorem reasonHere_found {reason : FailureReason} (h : validFailureCategory reason = true) (rest : Text) :
    reasonHere (reasonMark ++ ' ' :: (reason.value.toList ++ '\n' :: rest)) = some reason.value.toList := by
  have hne := (named h).ne_nil
  have hchars := (named h).word
  have hstop : ¬ isWord '\n' = true := by decide
  have hword : (lstrip (' ' :: (reason.value.toList ++ '\n' :: rest))).takeWhile isWord = reason.value.toList := by
    rw [lstrip_blank hne fun c hc => (hchars c hc).2, List.takeWhile_append_of_pos fun c hc => (hchars c hc).1,
      List.takeWhile_cons_of_neg hstop, List.append_nil]
  rw [reasonHere, isPrefixOf?_eq_some.mpr rfl, Option.bind_some]
  simp only [hword, if_neg hne]

theorem reasonMark_eq : "Failure Reason:".toList = reasonMark := String.toList_ofList

theorem flatten_marked (a b : Text) (x y : Char) (ts : List Text) :
    (a :: [x] :: b :: [y] :: ts).flatten = a ++ x :: (b ++ y :: ts.flatten) := by
  simp only [List.flatten_cons, List.singleton_append]

/-- The probability that the provider finds. It does not read a minus sign. -/
def quoted (minusZero : Bool) : Option PyFloat → Option Text
  | none => none
  | some x => if minusZero = true ∧ x = .num 0 then none else some (fixedText 4 x)

theorem fixedText_text {q : ℚ} (hq : 0 ≤ q) :
    fixedText 4 (.num q) ≠ [] ∧ ∀ c ∈ fixedText 4 (.num q), isNumber c = true ∧ isSpace c = false := by
  have hdigit {c : Char} (h : isDigit c = true) : isNumber c = true ∧ isSpace c = false := by
    refine ⟨by rw [isNumber, h, Bool.true_or], ?_⟩
    obtain ⟨hlow, hhigh⟩ : 48 ≤ c.toNat ∧ c.toNat ≤ 57 := of_decide_eq_true h
    rw [isSpace, decide_eq_false_iff_not]
    omega
  rw [fixedText, if_neg (not_lt.mpr hq), List.nil_append]
  refine ⟨by simp, List.forall_mem_append.mpr ⟨fun c hc => hdigit (natText_digits c hc), ?_⟩⟩
  exact List.forall_mem_cons.mpr ⟨by decide, fun c hc => hdigit (placesText_digits 4 _ c hc)⟩

theorem numberHere_probability {q : ℚ} (hq : 0 ≤ q) (rest : Text) :
    numberHere (' ' :: probabilityText minusZero (.num q) ++ '\n' :: rest) = quoted minusZero (some (.num q)) := by
  obtain ⟨hne, hchars⟩ := fixedText_text hq
  have hmarks : isSpace ' ' = true ∧ ¬ isSpace '-' = true ∧ ¬ isNumber '-' = true ∧ ¬ isNumber '\n' = true := by
    decide
  obtain ⟨hspace, hminus, hnominus, hstop⟩ := hmarks
  rw [probabilityText, quoted, List.cons_append]
  split
  · rw [List.cons_append, numberHere, lstrip, List.dropWhile_cons_of_pos hspace, List.dropWhile_cons_of_neg hminus,
      List.takeWhile_cons_of_neg hnominus]
    rfl
  · have hnumber : (lstrip (' ' :: (fixedText 4 (.num q) ++ '\n' :: rest))).takeWhile isNumber = fixedText 4 (.num q) := by
      rw [lstrip_blank hne fun c hc => (hchars c hc).2, List.takeWhile_append_of_pos fun c hc => (hchars c hc).1,
        List.takeWhile_cons_of_neg hstop, List.append_nil]
    rw [numberHere]
    simp only [hnumber, if_neg hne]

theorem probabilityHere_mark (text : Text) : probabilityHere (probabilityMark ++ text) = numberHere text := by
  have hother : ∀ mark ∈ probabilityMarks.tail, clashes mark probabilityMark = true := by decide
  have hnone : probabilityMarks.tail.findSome?
      (fun mark => (mark.isPrefixOf? (probabilityMark ++ text)).bind numberHere) = none := by
    refine List.findSome?_eq_none_iff.mpr fun mark hmark => ?_
    rw [isPrefixOf?_eq_none.mpr (not_prefix_of_clashes (hother mark hmark))]
    rfl
  change (probabilityMark :: probabilityMarks.tail).findSome? _ = _
  rw [List.findSome?_cons, isPrefixOf?_eq_some.mpr rfl, Option.bind_some, hnone]
  cases numberHere text <;> rfl

/-- Behind the mark stands what the provider takes for the probability, and there is no second one. -/
theorem search_mark {text : Text} (h : Clear probabilityMarks text) :
    search probabilityHere (probabilityMark ++ text) = numberHere text := by
  cases hn : numberHere text with
  | some number => exact search_found ((probabilityHere_mark text).trans hn)
  | none =>
      have htail : Clear probabilityMarks probabilityMark.tail := by decide
      have hnil : [] ∉ probabilityMarks := by decide
      have hfront : probabilityHere ('L' :: (probabilityMark.tail ++ text)) = none := (probabilityHere_mark text).trans hn
      change search probabilityHere ('L' :: (probabilityMark.tail ++ text)) = none
      rw [search, hfront, Option.none_or]
      exact probabilityHere_starts.search_none hnil (htail.append h)

theorem diagnosisPrompt_eq : diagnosisPrompt e minusZero state = (beforeReason state).flatten ++ (reasonMark ++
    ' ' :: (state.failureReason.value.toList ++ '\n' ::
      ((afterReason e state).flatten ++ (diagnosisEvidence minusZero state).flatten))) := by
  rw [diagnosisPrompt, List.flatten_append, reasonMark_eq, flatten_marked, List.flatten_append]
  rfl

/-- The pieces of the diagnosis prompt before the evidence. -/
def diagnosisPieces (e : Encoder) (state : AgentState) : List Text :=
  beforeReason state ++ reasonMark :: [' '] :: state.failureReason.value.toList :: ['\n'] :: afterReason e state

theorem diagnosisPrompt_pieces : diagnosisPrompt e minusZero state =
    (diagnosisPieces e state).flatten ++ (diagnosisEvidence minusZero state).flatten := by
  rw [diagnosisPrompt_eq, diagnosisPieces, List.flatten_append, flatten_marked]
  simp only [List.append_assoc, List.cons_append]

theorem strategyPrompt_eq : strategyPrompt e minusZero state diag =
    (beforeEvidence e state diag).flatten ++ (strategyEvidence minusZero state).flatten :=
  List.flatten_append

theorem failureReasonOf_diagnosis (ht : Typical state) :
    failureReasonOf (diagnosisPrompt e minusZero state) = state.failureReason.value := by
  have hsub : ∀ p ∈ [reasonMark], p ∈ diagnosisMarks := by decide
  have hfound : search reasonHere (diagnosisPrompt e minusZero state) = some state.failureReason.value.toList := by
    rw [diagnosisPrompt_eq, reasonHere_starts.search_skip ((clear_beforeReason ht).mono hsub).flatten]
    exact search_found (reasonHere_found ht.failureReason _)
  rw [failureReasonOf, hfound]
  exact String.ofList_toList

/-- What tells the two prompts apart. -/
theorem template_words : "diagnosis".toList <:+: diagnosisHead[0].toList.map Char.toLower ∧
    strategyKey <:+: strategyTemplate[10].toList := by
  decide +kernel

theorem probabilityMarks_subset : ∀ p ∈ probabilityMarks, p ∈ diagnosisMarks := by decide

/-- The evidence is where the provider finds the probability. -/
theorem search_evidence {heading : String} {q : ℚ} (hh : Clear searched heading.toList) (hq : 0 ≤ q)
    (expectedValuePaise : Option PyFloat) {tail : List Text} (htail : AllClear searched tail) :
    search probabilityHere (evidence heading minusZero expectedValuePaise (.num q) ++ tail).flatten =
      quoted minusZero (some (.num q)) := by
  have hsub : ∀ p ∈ probabilityMarks, p ∈ searched := fun p hp => diagnosisMarks_subset p (probabilityMarks_subset p hp)
  have hlines : AllClear searched (['\n'] :: (fill expectedValue [fixedText 2 (rupees (expectedValuePaise.getD (.num 0)))] ++ tail)) :=
    .cons clear_newline ((clear_expectedValue expectedValuePaise).append htail)
  have hflat : (evidence heading minusZero expectedValuePaise (.num q) ++ tail).flatten = heading.toList ++
      (probabilityMark ++ ((' ' :: probabilityText minusZero (.num q)) ++
        (['\n'] :: (fill expectedValue [fixedText 2 (rupees (expectedValuePaise.getD (.num 0)))] ++ tail)).flatten)) := by
    rw [evidence, probabilityMark_eq]
    simp only [List.cons_append, List.flatten_cons]
  have hprobability : Clear searched (' ' :: probabilityText minusZero (.num q)) := clear_probability _
  have hclear := (hprobability.append hlines.flatten).mono hsub
  rw [hflat, probabilityHere_starts.search_skip (hh.mono hsub), search_mark hclear]
  exact numberHere_probability hq _

section

variable (ht : Typical state)

include ht

theorem search_diagnosisEvidence : search probabilityHere (diagnosisEvidence minusZero state).flatten =
    quoted minusZero state.mlProbability := by
  cases hp : state.mlProbability with
  | none =>
      rw [diagnosisEvidence, hp]
      rfl
  | some x =>
      obtain ⟨q, rfl, hq, -⟩ := ht.mlProbability x hp
      have hevidence : diagnosisEvidence minusZero state =
          evidence diagnosisHeading minusZero state.mlExpectedValuePaise (.num q) ++ [] := by
        rw [diagnosisEvidence, hp, List.append_nil]
      rw [hevidence]
      exact search_evidence clear_diagnosisHeading hq state.mlExpectedValuePaise .nil

theorem search_strategyEvidence : search probabilityHere (strategyEvidence minusZero state).flatten =
    quoted minusZero state.mlProbability := by
  cases hp : state.mlProbability with
  | none =>
      rw [strategyEvidence, hp]
      rfl
  | some x =>
      obtain ⟨q, rfl, hq, -⟩ := ht.mlProbability x hp
      rw [strategyEvidence, hp]
      exact search_evidence clear_strategyHeading hq state.mlExpectedValuePaise (clear_retryDelay _)

/-- The line for the reason is no other mark. -/
theorem clear_diagnosisPieces : AllClear (strategyKey :: probabilityMarks) (diagnosisPieces e state) := by
  have hline : Clear (strategyKey :: probabilityMarks) reasonMark ∧ Clear (strategyKey :: probabilityMarks) [' '] ∧
      Clear (strategyKey :: probabilityMarks) ['\n'] := by
    decide
  have hsub : ∀ p ∈ strategyKey :: probabilityMarks, p ∈ diagnosisMarks := by decide
  exact ((clear_beforeReason ht).mono hsub).append <| .cons hline.1 <| .cons hline.2.1 <|
    .cons ((named ht.failureReason).value.mono hsub) <| .cons hline.2.2 <| (clear_afterReason ht).mono hsub

theorem probability_diagnosis :
    search probabilityHere (diagnosisPrompt e minusZero state) = quoted minusZero state.mlProbability := by
  have hpieces := (clear_diagnosisPieces (e := e) ht).mono fun p hp => List.mem_cons_of_mem strategyKey hp
  rw [diagnosisPrompt_pieces, probabilityHere_starts.search_skip hpieces.flatten, search_diagnosisEvidence ht]

theorem probability_strategy (hlabel : diag.diagnosis = "rule_based_" ++ diag.failureCategory.value.toLower) :
    search probabilityHere (strategyPrompt e minusZero state diag) = quoted minusZero state.mlProbability := by
  have hsub : ∀ p ∈ probabilityMarks, p ∈ otherMarks diag.failureCategory := fun p hp =>
    List.mem_cons_of_mem _ (List.mem_append_left _ hp)
  rw [strategyPrompt_eq, probabilityHere_starts.search_skip ((clear_beforeEvidence ht hlabel).mono hsub).flatten,
    search_strategyEvidence ht]

/-- Without the line for the reason, the provider finds the category by its name. -/
theorem failureReasonOf_strategy (hlabel : diag.diagnosis = "rule_based_" ++ diag.failureCategory.value.toLower) :
    failureReasonOf (strategyPrompt e minusZero state diag) = diag.failureCategory.value := by
  have hclear : ∀ p ∈ reasonMark :: names, p ≠ diag.failureCategory.value.toList →
      Clear [p] (strategyPrompt e minusZero state diag) := by
    intro p hp hne
    have hother : p ∈ otherMarks diag.failureCategory := mem_otherMarks hp hne
    have hbefore := (clear_beforeEvidence (e := e) ht hlabel).mono (List.forall_mem_singleton.mpr hother)
    have hafter := (clear_strategyEvidence minusZero state).mono
      (List.forall_mem_singleton.mpr (List.mem_cons_of_mem strategyKey hp))
    rw [strategyPrompt_eq]
    exact hbefore.flatten.append hafter.flatten
  have hnone : search reasonHere (strategyPrompt e minusZero state diag) = none :=
    reasonHere_starts.search_none (by decide) (hclear reasonMark List.mem_cons_self (reason_ne_mark diag.category_valid))
  have hfirst : priorityOrder.find? (fun reason => occurs reason.value.toList (strategyPrompt e minusZero state diag)) =
      some diag.failureCategory := by
    refine find?_only (mem_priorityOrder diag.category_valid) ?_ fun reason hreason hne => ?_
    · have hvalue : diag.failureCategory.value.toList ++ ['\n'] ∈ beforeEvidence e state diag :=
        value_mem_fill (List.mem_cons_of_mem _ List.mem_cons_self) _
      have hname := (List.prefix_append diag.failureCategory.value.toList ['\n']).isInfix
      refine occurs_of_infix (named diag.category_valid).ne_nil ?_
      rw [strategyPrompt_eq]
      exact (hname.trans (List.infix_of_mem_flatten hvalue)).trans (List.prefix_append _ _).isInfix
    · have hname := value_mem_names hreason
      have hother : reason.value.toList ≠ diag.failureCategory.value.toList := fun he =>
        hne (value_injective (priorityOrder_valid reason hreason) diag.category_valid he)
      have hnil : reason.value.toList ≠ [] := fun he => absurd (he ▸ hname) (by decide)
      exact occurs_of_clear hnil (hclear _ (List.mem_cons_of_mem _ hname) hother _ List.mem_cons_self)
  rw [failureReasonOf, hnone]
  simp only [hfirst, Option.getD_some]

theorem isStrategy_diagnosis : isStrategy (diagnosisPrompt e minusZero state) = false := by
  have hkey : occurs strategyKey (diagnosisPrompt e minusZero state) = false := by
    have hbefore := (clear_diagnosisPieces (e := e) ht).mono (List.forall_mem_singleton.mpr List.mem_cons_self)
    have hafter := (clear_diagnosisEvidence minusZero state).mono (List.forall_mem_singleton.mpr List.mem_cons_self)
    rw [diagnosisPrompt_pieces]
    exact occurs_of_clear (by decide) (hbefore.flatten.append hafter.flatten strategyKey List.mem_cons_self)
  have hword : occurs "diagnosis".toList ((diagnosisPrompt e minusZero state).map Char.toLower) = true := by
    have hpart : diagnosisHead[0].toList ∈ diagnosisPieces e state :=
      List.mem_append_left _ (part_mem_fill List.mem_cons_self _)
    refine occurs_of_infix (by decide) (template_words.1.trans ?_)
    rw [diagnosisPrompt_pieces]
    exact ((List.infix_of_mem_flatten hpart).trans (List.prefix_append _ _).isInfix).map Char.toLower
  rw [isStrategy, hkey, hword, Bool.not_true, Bool.and_false, Bool.or_false]

end

theorem isStrategy_strategy : isStrategy (strategyPrompt e minusZero state diag) = true := by
  have hkey : occurs strategyKey (strategyPrompt e minusZero state diag) = true := by
    have hpart : strategyTemplate[10].toList ∈ beforeEvidence e state diag := part_mem_fill (List.getElem_mem _) _
    refine occurs_of_infix (by decide) (template_words.2.trans ?_)
    rw [strategyPrompt_eq]
    exact (List.infix_of_mem_flatten hpart).trans (List.prefix_append _ _).isInfix
  rw [isStrategy, hkey, Bool.true_or]

end RevenueRescue.PromptReading
