import RevenueRescue.Foundation.Double
import RevenueRescue.Foundation.OrderStatistic

namespace RevenueRescue.Pipeline

open OrderStatistic

inductive Split
  | train
  | validation
  | test
  deriving DecidableEq

def splitFractions : ℚ × ℚ := (70 / 100, 85 / 100)

/-- `min(int(q * n), n - 1)` with the product of doubles; it is not negative,
so that `int` and `np.floor` agree on it. -/
def cutoffIndex (q : ℚ) (n : Nat) : Nat :=
  min ⌊PyFloat.double (PyFloat.double q * PyFloat.double n)⌋.toNat (n - 1)

/-- The exact cut-offs, for a column that is not empty. -/
def chronoCutoffs (timestamps : List Int) : Option (Int × Int) := do
  let t70 ← kth timestamps (cutoffIndex splitFractions.1 timestamps.length)
  let t85 ← kth timestamps (cutoffIndex splitFractions.2 timestamps.length)
  pure (t70, t85)

def assignChronoSplit (cutoffs : Int × Int) (timestamp : Int) : Split :=
  if timestamp < cutoffs.1 then .train else if timestamp < cutoffs.2 then .validation else .test

variable {timestamps : List Int} {cutoffs : Int × Int} {s t : Int}

theorem cutoffIndex_mono {q r : ℚ} (hq : 0 ≤ q) (h : q ≤ r) (n : Nat) : cutoffIndex q n ≤ cutoffIndex r n := by
  have hn := PyFloat.double_nonneg (Nat.cast_nonneg n)
  have hdouble := PyFloat.double_mono hq h
  have hproduct := PyFloat.double_mono (mul_nonneg (PyFloat.double_nonneg hq) hn)
    (mul_le_mul_of_nonneg_right hdouble hn)
  exact min_le_min_right _ (Int.toNat_le_toNat (Int.floor_mono hproduct))

theorem cutoffIndex_lt {n : Nat} (q : ℚ) (h : 0 < n) : cutoffIndex q n < n :=
  (min_le_right _ _).trans_lt (Nat.sub_one_lt_of_lt h)

theorem chronoCutoffs_eq_some : chronoCutoffs timestamps = some cutoffs ↔
    kth timestamps (cutoffIndex splitFractions.1 timestamps.length) = some cutoffs.1 ∧
    kth timestamps (cutoffIndex splitFractions.2 timestamps.length) = some cutoffs.2 := by
  simp only [chronoCutoffs, Option.bind_eq_bind, Option.bind_eq_some_iff, Option.pure_def, Option.some.injEq]
  constructor
  · rintro ⟨a, ha, b, hb, rfl⟩
    exact ⟨ha, hb⟩
  · rintro ⟨ha, hb⟩
    exact ⟨_, ha, _, hb, rfl⟩

theorem exists_cutoffs (h : timestamps ≠ []) : ∃ cutoffs, chronoCutoffs timestamps = some cutoffs := by
  have hlen := List.length_pos_of_ne_nil h
  obtain ⟨a, ha⟩ := exists_kth (cutoffIndex_lt splitFractions.1 hlen)
  obtain ⟨b, hb⟩ := exists_kth (cutoffIndex_lt splitFractions.2 hlen)
  exact ⟨(a, b), chronoCutoffs_eq_some.mpr ⟨ha, hb⟩⟩

theorem cutoffs_ordered (h : chronoCutoffs timestamps = some cutoffs) : cutoffs.1 ≤ cutoffs.2 := by
  obtain ⟨ha, hb⟩ := chronoCutoffs_eq_some.mp h
  exact kth_mono (cutoffIndex_mono (by norm_num [splitFractions]) (by norm_num [splitFractions]) _) ha hb

theorem chronoCutoffs_perm {other : List Int} (h : timestamps.Perm other) :
    chronoCutoffs timestamps = chronoCutoffs other := by
  simp only [chronoCutoffs, kth_perm h, h.length_eq]

/-- The cut-offs of rounded timestamps are the rounded cut-offs. -/
theorem chronoCutoffs_map {f : Int → Int} (hf : ∀ a b, a ≤ b → f a ≤ f b) :
    chronoCutoffs (timestamps.map f) = (chronoCutoffs timestamps).map (Prod.map f f) := by
  simp only [chronoCutoffs, kth_map hf, List.length_map]
  cases kth timestamps (cutoffIndex splitFractions.1 timestamps.length) with
  | none => rfl
  | some a => cases kth timestamps (cutoffIndex splitFractions.2 timestamps.length) <;> rfl

theorem split_eq_train : assignChronoSplit cutoffs t = .train ↔ t < cutoffs.1 := by
  unfold assignChronoSplit
  split_ifs <;> simp_all

theorem split_eq_test (h : cutoffs.1 ≤ cutoffs.2) : assignChronoSplit cutoffs t = .test ↔ cutoffs.2 ≤ t := by
  unfold assignChronoSplit
  split_ifs
  · simp only [false_iff]
    omega
  · simp only [false_iff]
    omega
  · simp only [true_iff]
    omega

/-- Two timestamps get the same split from their own cut-offs when they lie on
the same side of both. -/
theorem split_eq_iff {other : Int × Int} (h : cutoffs.1 ≤ cutoffs.2) (h' : other.1 ≤ other.2) :
    assignChronoSplit cutoffs t = assignChronoSplit other s ↔
      (t < cutoffs.1 ↔ s < other.1) ∧ (t < cutoffs.2 ↔ s < other.2) := by
  constructor
  · intro he
    have htrain : t < cutoffs.1 ↔ s < other.1 := by rw [← split_eq_train, he, split_eq_train]
    have htest : cutoffs.2 ≤ t ↔ other.2 ≤ s := by rw [← split_eq_test h, he, split_eq_test h']
    exact ⟨htrain, by omega⟩
  · rintro ⟨h70, h85⟩
    simp only [assignChronoSplit, h70, h85]

end RevenueRescue.Pipeline
