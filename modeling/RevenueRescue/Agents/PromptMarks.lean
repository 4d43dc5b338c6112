import RevenueRescue.Agents.LocalProvider
import RevenueRescue.Agents.Totality

namespace RevenueRescue.PromptMarks

open Enums PolicySchema AgentSchemas LlmOutput Text Json PyFloat Prompts LocalProvider LlmTotality

def names : List Text :=
  [['C', 'H', 'E', 'C', 'K', 'O', 'U', 'T', '_', 'A', 'B', 'A', 'N', 'D', 'O', 'N', 'E', 'D'],
    ['M', 'A', 'N', 'D', 'A', 'T', 'E', '_', 'F', 'A', 'I', 'L', 'U', 'R', 'E'],
    ['S', 'U', 'B', 'S', 'C', 'R', 'I', 'P', 'T', 'I', 'O', 'N', '_', 'G', 'R', 'A', 'C', 'E'],
    ['I', 'N', 'S', 'U', 'F', 'F', 'I', 'C', 'I', 'E', 'N', 'T', '_', 'F', 'U', 'N', 'D', 'S'],
    ['E', 'X', 'P', 'I', 'R', 'E', 'D', '_', 'M', 'E', 'T', 'H', 'O', 'D'],
    ['G', 'A', 'T', 'E', 'W', 'A', 'Y', '_', 'T', 'E', 'M', 'P', 'O', 'R', 'A', 'R', 'Y'],
    ['A', 'U', 'T', 'H', '_', 'F', 'A', 'I', 'L', 'U', 'R', 'E'],
    ['B', 'A', 'N', 'K', '_', 'D', 'E', 'C', 'L', 'I', 'N', 'E'],
    ['U', 'N', 'K', 'N', 'O', 'W', 'N']]

/-- All that the provider looks for in a prompt, but for the amount. -/
def searched : List Text := strategyKey :: reasonMark :: probabilityMarks ++ names

/-- What it looks for in a prompt of `node_diagnosis`, where it finds the reason. -/
def diagnosisMarks : List Text := strategyKey :: reasonMark :: probabilityMarks

/-- What it looks for in a prompt of `node_strategy`, where the key is there. -/
def strategyMarks : List Text := reasonMark :: probabilityMarks ++ names

/-- What it does not find there when the reason is this one. -/
def otherMarks (reason : FailureReason) : List Text :=
  reasonMark :: probabilityMarks ++ names.filter (· ≠ reason.value.toList)

/-- The characters of ids and numbers. -/
def isVariable (c : Char) : Bool := isFigure c || decide (c ∈ ['b', 'c', 'd'])

variable {state : AgentState} {e : Encoder} {minusZero : Bool} {ps : List Text} {t rest : Text}

theorem searched_ne_nil : [] ∉ searched := by decide

theorem firsts_searched : ∀ c ∈ firsts searched, isVariable c = false := by decide

theorem diagnosisMarks_subset : ∀ p ∈ diagnosisMarks, p ∈ searched := List.sublist_append_left diagnosisMarks names |>.subset

theorem clear_variable (h : ∀ c ∈ t, isVariable c = true) : Clear searched t := by
  refine .of_notMem searched_ne_nil fun c hc hm => ?_
  have hnot := firsts_searched c hm
  rw [h c hc] at hnot
  cases hnot

theorem clear_figures (h : ∀ c ∈ t, isFigure c = true) : Clear searched t :=
  clear_variable fun c hc => by rw [isVariable, h c hc, Bool.true_or]

theorem clear_newline : Clear searched ['\n'] := by decide

theorem clear_id (id : Uuid) : Clear searched id.str.toList := by
  have hdigit : ∀ d : Fin 16, isVariable (Uuid.hexDigit d) = true := by decide
  refine clear_variable fun c hc => ?_
  rw [Uuid.str, String.toList_ofList] at hc
  rcases Uuid.mem_grouped hc with rfl | hc
  · decide
  · obtain ⟨d, -, rfl⟩ := List.mem_map.mp hc
    exact hdigit d

/-- The words that stand for a value in a prompt. -/
def words : List Text :=
  [RecoveryScenario.failedPayment, .failedSubscription, .checkoutAbandonment].map (fun x => x.value.toList ++ ['\n']) ++
    [pyBool false, pyBool true, "None".toList, "standard".toList]

theorem clear_words : AllClear searched words := by
  decide +kernel

theorem clear_scenario {scenario : RecoveryScenario} : Clear searched (scenario.value.toList ++ ['\n']) :=
  clear_words _ (by cases scenario <;> simp [words])

theorem clear_segment : Clear searched "standard".toList := clear_words _ (by simp [words])

theorem clear_pyBool (b : Bool) : Clear searched (pyBool b) := clear_words _ (by cases b <;> simp [words])

theorem clear_hours (x : Option PyFloat) : Clear searched (hoursText e x) := by
  cases x with
  | none => exact clear_words _ (by simp [words, hoursText])
  | some x => exact clear_figures (showFloat_figures x)

theorem clear_probability (x : PyFloat) : Clear searched (' ' :: probabilityText minusZero x) := by
  have hblank : Clear searched [' '] := by decide
  refine Clear.append (a := [' ']) hblank (clear_figures ?_)
  split
  · exact List.forall_mem_cons.mpr ⟨by decide, fixedText_figures 4 x⟩
  · exact fixedText_figures 4 x

theorem otherMarks_subset (reason : FailureReason) : ∀ p ∈ otherMarks reason, p ∈ strategyMarks :=
  (List.filter_sublist.append_left (reasonMark :: probabilityMarks)).subset

/-- What is decided on the names of the categories. -/
structure Named (reason : FailureReason) : Prop where
  value : Clear diagnosisMarks reason.value.toList
  category : Clear (otherMarks reason) (reason.value.toList ++ ['\n'])
  label : Clear strategyMarks ("rule_based_" ++ reason.value.toLower).toList
  ne_nil : reason.value.toList ≠ []
  word : ∀ c ∈ reason.value.toList, isWord c = true ∧ isSpace c = false

theorem named {reason : FailureReason} (h : validFailureCategory reason = true) : Named reason := by
  have hall : ∀ reason ∈ failureCategories, Clear diagnosisMarks reason.value.toList ∧
      Clear (otherMarks reason) (reason.value.toList ++ ['\n']) ∧
      Clear strategyMarks ("rule_based_" ++ reason.value.toLower).toList ∧ reason.value.toList ≠ [] ∧
      ∀ c ∈ reason.value.toList, isWord c = true ∧ isSpace c = false := by
    decide +kernel
  obtain ⟨hreason, hcategory, hlabel, hne, hword⟩ := hall _ (mem_failureCategories h)
  exact ⟨hreason, hcategory, hlabel, hne, hword⟩

theorem clear_diagnosisTemplate : AllClear diagnosisMarks (diagnosisHead.map String.toList) ∧
    AllClear diagnosisMarks (diagnosisBody.map String.toList) := by
  have hspelled : Spelled (diagnosisHead ++ diagnosisBody) _ :=
    .cons rfl <| .cons rfl <| .cons rfl <| .cons rfl <| .cons rfl <| .cons rfl <| .cons rfl <| .cons rfl <| .cons rfl <|
    .cons rfl <| .cons rfl <| .cons rfl <| .cons rfl <| .cons rfl <| .cons rfl <| .cons rfl <| .cons rfl <| .cons rfl <|
    .cons rfl .nil
  have hall : AllClear diagnosisMarks ((diagnosisHead ++ diagnosisBody).map String.toList) := by
    rw [hspelled.map_toList]
    decide +kernel
  rwa [List.map_append, AllClear, List.forall_mem_append] at hall

theorem clear_strategyTemplate : AllClear strategyMarks (strategyTemplate.map String.toList) := by
  have hspelled : Spelled strategyTemplate _ :=
    .cons rfl <| .cons rfl <| .cons rfl <| .cons rfl <| .cons rfl <| .cons rfl <| .cons rfl <| .cons rfl <| .cons rfl <|
    .cons rfl <| .cons rfl <| .cons rfl <| .cons rfl <| .cons rfl <| .cons rfl <| .cons rfl <| .cons rfl <| .cons rfl <|
    .cons rfl .nil
  rw [hspelled.map_toList]
  decide +kernel

/-- What the evidence has besides the probability. -/
def plainMarks : List Text := strategyKey :: reasonMark :: names

theorem plainMarks_subset : ∀ p ∈ plainMarks, p ∈ searched := by decide

def probabilityMark : Text := probabilityMarks.headD []

theorem probabilityMark_eq : "LightGBM Probability:".toList = probabilityMark := String.toList_ofList

theorem clear_probabilityMark : Clear plainMarks "LightGBM Probability:".toList := by
  rw [probabilityMark_eq]
  decide

theorem clear_evidenceParts :
    AllClear searched ((diagnosisHeading :: strategyHeading :: (expectedValue ++ retryDelay)).map String.toList) := by
  have hspelled : Spelled (diagnosisHeading :: strategyHeading :: (expectedValue ++ retryDelay)) _ :=
    .cons rfl <| .cons rfl <| .cons rfl <| .cons rfl <| .cons rfl <| .cons rfl .nil
  rw [hspelled.map_toList]
  decide +kernel

theorem clear_diagnosisHeading : Clear searched diagnosisHeading.toList :=
  (List.forall_mem_cons.mp clear_evidenceParts).1

theorem clear_strategyHeading : Clear searched strategyHeading.toList :=
  (List.forall_mem_cons.mp (List.forall_mem_cons.mp clear_evidenceParts).2).1

theorem clear_evidenceLines : AllClear searched (expectedValue.map String.toList) ∧ AllClear searched (retryDelay.map String.toList) := by
  have hlines := (List.forall_mem_cons.mp (List.forall_mem_cons.mp clear_evidenceParts).2).2
  rwa [List.map_append, List.forall_mem_append] at hlines

end RevenueRescue.PromptMarks
