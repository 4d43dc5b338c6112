import RevenueRescue.Foundation.Text
import RevenueRescue.Pipeline.Splits

namespace RevenueRescue.Pipeline

def forbiddenFeatureNames : List Text :=
  ["recovered", "verification_outcome", "verified_amount", "actual_recovery", "future_event"].map String.toList

/-- The columns that the audit reads, `none` for a missing value. -/
structure AuditRow where
  timestamp : Option Int
  chronoSplit : Split
  hoursSincePrevEvent : Option ℚ

/-- The violations, each with what its text reports. -/
inductive Violation
  | forbiddenFeatures (names : List Text)
  | unparseableTimestamps
  | trainValidationOverlap (trainMax valMin : Int)
  | validationTestOverlap (valMax testMin : Int)
  | negativeHours (events : Nat)

structure LeakageAuditReport where
  trainEnd : Option Int
  valStart : Option Int
  valEnd : Option Int
  testStart : Option Int
  targetInFeatures : List Text
  negativeTimeDeltas : Nat
  violations : List Violation

def LeakageAuditReport.isLeakageFree (report : LeakageAuditReport) : Bool := report.violations.isEmpty

namespace LeakageAuditor

def timestampsOf (df : List AuditRow) (split : Split) : List Int :=
  (df.filter fun row => row.chronoSplit = split).filterMap AuditRow.timestamp

/-- A violation if both ends are there and the first is later. -/
def overlap (violation : Int → Int → Violation) : Option Int → Option Int → List Violation
  | some last, some first => if last > first then [violation last first] else []
  | _, _ => []

/-- `audit_features_and_splits`, without the counts of shared customers. -/
def auditFeaturesAndSplits (df : List AuditRow) (featureColumns : List Text) : LeakageAuditReport :=
  let targetInFeatures := featureColumns.filter fun f => forbiddenFeatureNames.contains (f.map Char.toLower)
  let trainMax := (timestampsOf df .train).max?
  let valMin := (timestampsOf df .validation).min?
  let valMax := (timestampsOf df .validation).max?
  let testMin := (timestampsOf df .test).min?
  let negativeDeltas := df.countP fun row => row.hoursSincePrevEvent.any (· < 0)
  { trainEnd := trainMax
    valStart := valMin
    valEnd := valMax
    testStart := testMin
    targetInFeatures := targetInFeatures
    negativeTimeDeltas := negativeDeltas
    violations :=
      (if targetInFeatures ≠ [] then [.forbiddenFeatures targetInFeatures] else []) ++
      (if df.any fun row => row.timestamp.isNone then [.unparseableTimestamps] else []) ++
      overlap .trainValidationOverlap trainMax valMin ++
      overlap .validationTestOverlap valMax testMin ++
      (if negativeDeltas > 0 then [.negativeHours negativeDeltas] else []) }

variable {df : List AuditRow} {featureColumns : List Text}

theorem mem_timestampsOf {split : Split} {t : Int} :
    t ∈ timestampsOf df split ↔ ∃ row ∈ df, row.chronoSplit = split ∧ row.timestamp = some t := by
  simp [timestampsOf, and_assoc]

theorem overlap_eq_nil {violation : Int → Int → Violation} {l r : List Int}
    (h : ∀ a ∈ l, ∀ b ∈ r, a ≤ b) : overlap violation l.max? r.min? = [] := by
  cases hl : l.max? with
  | none => rfl
  | some a =>
      cases hr : r.min? with
      | none => rfl
      | some b =>
          have hab := h a (List.max?_mem hl) b (List.min?_mem hr)
          simp [overlap, not_lt.mpr hab]

/-- A table whose splits come from its cut-offs passes the audit. -/
theorem audit_of_cutoffs {cutoffs : Int × Int}
    (hfeatures : ∀ f ∈ featureColumns, f.map Char.toLower ∉ forbiddenFeatureNames)
    (hsplit : ∀ row ∈ df, ∃ t, row.timestamp = some t ∧ row.chronoSplit = assignChronoSplit cutoffs t)
    (hordered : cutoffs.1 ≤ cutoffs.2)
    (hhours : ∀ row ∈ df, ∀ hours, row.hoursSincePrevEvent = some hours → 0 ≤ hours) :
    (auditFeaturesAndSplits df featureColumns).isLeakageFree = true := by
  have hassigned : ∀ split, ∀ t ∈ timestampsOf df split, assignChronoSplit cutoffs t = split := by
    intro split t ht
    obtain ⟨row, hrow, rfl, hrowt⟩ := mem_timestampsOf.mp ht
    obtain ⟨u, hu, he⟩ := hsplit row hrow
    rw [Option.some.inj (hrowt.symm.trans hu), he]
  have htrain : ∀ a ∈ timestampsOf df .train, ∀ b ∈ timestampsOf df .validation, a ≤ b := by
    intro a ha b hb
    have hlt := split_eq_train.mp (hassigned _ a ha)
    have hge : ¬ b < cutoffs.1 := by
      rw [← split_eq_train, hassigned _ b hb]
      simp
    omega
  have htest : ∀ a ∈ timestampsOf df .validation, ∀ b ∈ timestampsOf df .test, a ≤ b := by
    intro a ha b hb
    have hge := (split_eq_test hordered).mp (hassigned _ b hb)
    have hlt : ¬ cutoffs.2 ≤ a := by
      rw [← split_eq_test hordered, hassigned _ a ha]
      simp
    omega
  have hpresent : (df.any fun row => row.timestamp.isNone) = false := by
    rw [List.any_eq_false]
    intro row hrow
    obtain ⟨t, ht, -⟩ := hsplit row hrow
    simp [ht]
  have hdeltas : (df.countP fun row => row.hoursSincePrevEvent.any (· < 0)) = 0 := by
    rw [List.countP_eq_zero]
    intro row hrow
    cases hh : row.hoursSincePrevEvent with
    | none => simp
    | some hours => simpa using hhours row hrow hours hh
  simpa [LeakageAuditReport.isLeakageFree, auditFeaturesAndSplits, hpresent, hdeltas,
    overlap_eq_nil htrain, overlap_eq_nil htest] using hfeatures

end LeakageAuditor

end RevenueRescue.Pipeline
