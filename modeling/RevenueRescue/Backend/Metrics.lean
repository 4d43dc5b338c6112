import RevenueRescue.Enums
import RevenueRescue.Foundation.Double
import RevenueRescue.Foundation.Sums

namespace RevenueRescue.Metrics

open Enums Sums

/-- What an attribute typed as an enumeration holds: a member that the program
assigned, or the text that its `String` column gives back. -/
inductive Attribute (ε : Type)
  | member (m : ε)
  | text (s : String)

namespace Attribute

variable {ε : Type} (value : ε → String)

/-- The string that `==` compares; the enumerations are strings themselves. -/
def str : Attribute ε → String
  | member m => value m
  | text s => s

/-- `.value`, which a plain string does not have. -/
def getValue : Attribute ε → Except String String
  | member m => .ok (value m)
  | text _ => .error "'str' object has no attribute 'value'"

def isText : Attribute ε → Bool
  | member _ => false
  | text _ => true

end Attribute

/-- The columns of a case that the metrics read. -/
structure CaseRow where
  scenario : Attribute RecoveryScenario
  failureReason : Attribute FailureReason
  status : Attribute RecoveryCaseStatus
  amountAtRiskPaise : Int
  amountRecoveredPaise : Int
  isRecovered : Bool
  isStopped : Bool

/-- The figures of a group of cases. -/
@[ext] structure Figures where
  total : Nat
  recovered : Nat
  revenueAtRisk : Int
  revenueRecovered : Int
  deriving DecidableEq

namespace Figures

instance : Zero Figures := ⟨⟨0, 0, 0, 0⟩⟩

instance : Add Figures := ⟨fun a b => ⟨a.total + b.total, a.recovered + b.recovered,
  a.revenueAtRisk + b.revenueAtRisk, a.revenueRecovered + b.revenueRecovered⟩⟩

variable (a b : Figures)

@[simp] theorem zero_total : (0 : Figures).total = 0 := rfl
@[simp] theorem zero_recovered : (0 : Figures).recovered = 0 := rfl
@[simp] theorem zero_revenueAtRisk : (0 : Figures).revenueAtRisk = 0 := rfl
@[simp] theorem zero_revenueRecovered : (0 : Figures).revenueRecovered = 0 := rfl
@[simp] theorem add_total : (a + b).total = a.total + b.total := rfl
@[simp] theorem add_recovered : (a + b).recovered = a.recovered + b.recovered := rfl
@[simp] theorem add_revenueAtRisk : (a + b).revenueAtRisk = a.revenueAtRisk + b.revenueAtRisk := rfl
@[simp] theorem add_revenueRecovered : (a + b).revenueRecovered = a.revenueRecovered + b.revenueRecovered := rfl

instance : AddCommMonoid Figures where
  add_assoc a b c := by ext <;> simp [add_assoc]
  zero_add a := by ext <;> simp
  add_zero a := by ext <;> simp
  add_comm a b := by ext <;> simp [add_comm]
  nsmul := nsmulRec

end Figures

structure MetricsOverview where
  revenueAtRiskPaise : Int
  revenueRecoveredPaise : Int
  recoveryRatePct : ℚ
  activeCases : Nat
  escalatedCases : Nat
  recoveredCases : Nat
  failedCases : Nat
  policyViolations : Nat
  avgRecoveryTimeHours : Option ℚ
  totalCases : Nat
  byScenario : List (String × Figures)
  byFailureReason : List (String × Figures)

/-- `round(x, 2)` on a float. -/
def round2 (x : ℚ) : ℚ := PyFloat.double (PyFloat.roundHalfEven (x * 100) / 100)

def recoveryRate (revenueRecovered revenueAtRisk : Int) : ℚ :=
  if revenueAtRisk > 0 then
    PyFloat.double (PyFloat.double ((revenueRecovered : ℚ) / revenueAtRisk) * 100)
  else 0

def scenarios : List String := ["FAILED_PAYMENT", "FAILED_SUBSCRIPTION", "CHECKOUT_ABANDONMENT"]

/-- The sums over the cases of one scenario. -/
def scenarioFigures (cases : List CaseRow) : Figures where
  total := cases.length
  recovered := cases.countP fun c => c.isRecovered
  revenueAtRisk := (cases.map CaseRow.amountAtRiskPaise).sum
  revenueRecovered := ((cases.filter CaseRow.isRecovered).map CaseRow.amountRecoveredPaise).sum

/-- What one case adds to the entry of its reason. -/
def caseFigures (c : CaseRow) : Figures where
  total := 1
  recovered := if c.isRecovered then 1 else 0
  revenueAtRisk := c.amountAtRiskPaise
  revenueRecovered := if c.isRecovered then c.amountRecoveredPaise else 0

def addTo (reasons : List (String × Figures)) (reason : String) (figures : Figures) : List (String × Figures) :=
  if reasons.any fun entry => entry.1 = reason then
    reasons.map fun entry => if entry.1 = reason then (entry.1, entry.2 + figures) else entry
  else reasons ++ [(reason, figures)]

/-- The loop over the cases that fills the dictionary of the reasons. -/
def byFailureReason : List CaseRow → List (String × Figures) → Except String (List (String × Figures))
  | [], reasons => .ok reasons
  | c :: cases, reasons => do
      let reason ← c.failureReason.getValue FailureReason.value
      byFailureReason cases (addTo reasons reason (caseFigures c))

/-- `compute_overview` on the cases that its query returns. -/
def computeOverview (cases : List CaseRow) : Except String MetricsOverview := do
  let revenueAtRisk := (cases.map CaseRow.amountAtRiskPaise).sum
  let revenueRecovered := ((cases.filter CaseRow.isRecovered).map CaseRow.amountRecoveredPaise).sum
  let reasons ← byFailureReason cases []
  .ok {
    revenueAtRiskPaise := revenueAtRisk
    revenueRecoveredPaise := revenueRecovered
    recoveryRatePct := round2 (recoveryRate revenueRecovered revenueAtRisk)
    activeCases := cases.countP fun c => !c.isStopped && !c.isRecovered
    escalatedCases := cases.countP fun c => c.status.str RecoveryCaseStatus.value = "ESCALATED"
    recoveredCases := cases.countP fun c => c.isRecovered
    failedCases := cases.countP fun c => c.status.str RecoveryCaseStatus.value = "FAILED"
    policyViolations := 0
    avgRecoveryTimeHours := none
    totalCases := cases.length
    byScenario := scenarios.map fun scenario =>
      (scenario, scenarioFigures (cases.filter fun c => c.scenario.str RecoveryScenario.value = scenario))
    byFailureReason := reasons }

/-- The entries of a dictionary added up. -/
def together (entries : List (String × Figures)) : Figures := (entries.map Prod.snd).sum

/-- Both breakdowns add up to the overall figures, in which no case counts twice. -/
structure Conserves (overview : MetricsOverview) : Prop where
  byScenario : together overview.byScenario =
    ⟨overview.totalCases, overview.recoveredCases, overview.revenueAtRiskPaise, overview.revenueRecoveredPaise⟩
  byFailureReason : together overview.byFailureReason =
    ⟨overview.totalCases, overview.recoveredCases, overview.revenueAtRiskPaise, overview.revenueRecoveredPaise⟩
  cases : overview.recoveredCases + overview.activeCases ≤ overview.totalCases

variable {cases : List CaseRow} {c : CaseRow} {reasons : List (String × Figures)} {overview : MetricsOverview}

theorem scenarioFigures_cons (c : CaseRow) (cases : List CaseRow) :
    scenarioFigures (c :: cases) = caseFigures c + scenarioFigures cases := by
  ext <;> cases hr : c.isRecovered <;> simp [scenarioFigures, caseFigures, hr, add_comm]

theorem scenarioFigures_eq_sum (cases : List CaseRow) : scenarioFigures cases = (cases.map caseFigures).sum := by
  induction cases with
  | nil => rfl
  | cons c cases ih => rw [scenarioFigures_cons, ih, List.map_cons, List.sum_cons]

theorem byScenario_together (h : ∀ c ∈ cases, c.scenario.str RecoveryScenario.value ∈ scenarios) :
    together (scenarios.map fun scenario =>
      (scenario, scenarioFigures (cases.filter fun c => c.scenario.str RecoveryScenario.value = scenario))) =
    scenarioFigures cases := by
  have hnodup : scenarios.Nodup := by decide
  rw [together, List.map_map, scenarioFigures_eq_sum, ← sum_groups caseFigures hnodup h]
  simp only [Function.comp_def, scenarioFigures_eq_sum]

/-- An entry takes the figures of a case, or gets its place at the end. -/
theorem together_addTo (reason : String) (figures : Figures) (hnodup : (reasons.map Prod.fst).Nodup) :
    together (addTo reasons reason figures) = together reasons + figures ∧
      ((addTo reasons reason figures).map Prod.fst).Nodup := by
  unfold addTo
  split
  · rename_i hany
    obtain ⟨entry, hentry, hreason⟩ := List.any_eq_true.mp hany
    have hmem : reason ∈ reasons.map Prod.fst := List.mem_map.mpr ⟨entry, hentry, of_decide_eq_true hreason⟩
    have hsplit : ∀ entry : String × Figures, (if entry.1 = reason then (entry.1, entry.2 + figures) else entry).2 =
        entry.2 + if entry.1 = reason then figures else 0 := by
      intro entry
      split <;> simp
    have hkeys : ∀ entry : String × Figures, (if entry.1 = reason then (entry.1, entry.2 + figures) else entry).1 =
        entry.1 := by
      intro entry
      split <;> rfl
    have hsingle := sum_single figures hnodup hmem
    rw [List.map_map] at hsingle
    constructor
    · simp only [together, List.map_map, Function.comp_def, hsplit] at hsingle ⊢
      rw [List.sum_map_add, hsingle]
    · simpa only [List.map_map, Function.comp_def, hkeys] using hnodup
  · rename_i hany
    constructor
    · simp [together]
    · rw [List.map_append, List.nodup_append]
      refine ⟨hnodup, by simp, fun a ha b hb => ?_⟩
      obtain ⟨entry, hentry, rfl⟩ := List.mem_map.mp ha
      obtain rfl := List.mem_singleton.mp hb
      rintro rfl
      exact hany (List.any_eq_true.mpr ⟨entry, hentry, decide_eq_true rfl⟩)

theorem byFailureReason_members (h : ∀ c ∈ cases, c.failureReason.isText = false)
    (hnodup : (reasons.map Prod.fst).Nodup) :
    ∃ filled, byFailureReason cases reasons = .ok filled ∧ together filled = together reasons + scenarioFigures cases := by
  induction cases generalizing reasons with
  | nil => exact ⟨reasons, rfl, (add_zero _).symm⟩
  | cons c cases ih =>
      obtain ⟨m, hm⟩ : ∃ m, c.failureReason = .member m := by
        cases hc : c.failureReason with
        | member m => exact ⟨m, rfl⟩
        | text s => exact absurd (h c List.mem_cons_self) (by simp [hc, Attribute.isText])
      obtain ⟨hsum, hkeys⟩ := together_addTo m.value (caseFigures c) hnodup
      obtain ⟨filled, hfilled, htogether⟩ := ih (fun other ho => h other (List.mem_cons_of_mem _ ho)) hkeys
      refine ⟨filled, ?_, ?_⟩
      · rw [byFailureReason, hm]
        exact hfilled
      · rw [htogether, hsum, scenarioFigures_cons, add_assoc]

/-- The first row whose reason is plain text stops the loop. -/
theorem byFailureReason_text (h : ∃ c ∈ cases, c.failureReason.isText = true) :
    byFailureReason cases reasons = .error "'str' object has no attribute 'value'" := by
  induction cases generalizing reasons with
  | nil =>
      obtain ⟨c, hc, -⟩ := h
      cases hc
  | cons c cases ih =>
      rw [byFailureReason]
      cases hc : c.failureReason with
      | text s => rfl
      | member m =>
          obtain ⟨other, ho, htext⟩ := h
          rcases List.mem_cons.mp ho with rfl | ho
          · rw [hc] at htext
            cases htext
          · exact ih ⟨other, ho, htext⟩

/-- As long as the reasons are members of the enumeration, the metrics are
there; they are conserved if every scenario is one of the three. -/
theorem computeOverview_members (h : ∀ c ∈ cases, c.failureReason.isText = false) :
    ∃ overview, computeOverview cases = .ok overview ∧
      ((∀ c ∈ cases, c.scenario.str RecoveryScenario.value ∈ scenarios) → Conserves overview) := by
  have hempty : (([] : List (String × Figures)).map Prod.fst).Nodup := List.nodup_nil
  obtain ⟨filled, hfilled, htogether⟩ := byFailureReason_members h hempty
  refine ⟨_, by rw [computeOverview, hfilled]; rfl, fun hscenarios => ⟨byScenario_together hscenarios, ?_, ?_⟩⟩
  · rw [htogether]
    exact zero_add _
  · have hactive : cases.countP (fun c => !c.isStopped && !c.isRecovered) ≤ cases.countP (fun c => ¬ c.isRecovered = true) := by
      refine List.countP_mono_left fun c _ hc => ?_
      simpa using (Bool.and_eq_true_iff.mp hc).2
    have hlength := cases.length_eq_countP_add_countP fun c => c.isRecovered
    show cases.countP (fun c => c.isRecovered) + cases.countP (fun c => !c.isStopped && !c.isRecovered) ≤ cases.length
    omega

/-- For rows as they come from the database there are no metrics but for no
row at all. -/
theorem metrics_conserved_iff (cases : List CaseRow) (h : ∀ c ∈ cases, c.failureReason.isText = true) :
    (∃ overview, computeOverview cases = .ok overview ∧ Conserves overview) ↔ cases = [] := by
  constructor
  · rintro ⟨overview, hok, -⟩
    by_contra hne
    obtain ⟨c, hc⟩ := List.exists_mem_of_ne_nil cases hne
    rw [computeOverview, byFailureReason_text ⟨c, hc, h c hc⟩] at hok
    cases hok
  · rintro rfl
    obtain ⟨overview, hok, hconserves⟩ := computeOverview_members (List.forall_mem_nil fun c : CaseRow => c.failureReason.isText = false)
    exact ⟨overview, hok, hconserves (by simp)⟩

def loadedRow : CaseRow where
  scenario := .text "FAILED_PAYMENT"
  failureReason := .text "BANK_DECLINE"
  status := .text "DETECTED"
  amountAtRiskPaise := 50000
  amountRecoveredPaise := 0
  isRecovered := false
  isStopped := false

theorem metrics_conserved_iff_sample :
    (∃ overview, computeOverview [loadedRow] = .ok overview ∧ Conserves overview) ↔ [loadedRow] = [] :=
  metrics_conserved_iff [loadedRow] (by simp [loadedRow, Attribute.isText])

theorem metrics_raise : ¬ ∃ overview, computeOverview [loadedRow] = .ok overview ∧ Conserves overview := by
  rintro ⟨overview, hok, -⟩
  cases hok

end RevenueRescue.Metrics
