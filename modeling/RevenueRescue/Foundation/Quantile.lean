import Mathlib.Algebra.Order.Floor.Semiring
import Mathlib.Algebra.Order.Field.Basic
import Mathlib.Tactic.Linarith
import Mathlib.Tactic.Ring
import RevenueRescue.Foundation.OrderStatistic

namespace RevenueRescue.Quantile

open OrderStatistic

variable {K : Type} [Field K] [LinearOrder K] [FloorSemiring K]

/-- The value at a place of the sorted list, which may lie between two places: linear interpolation. -/
def valueAt (xs : List K) (h : K) : Option K :=
  (kth xs ⌊h⌋₊).map fun a => a + (h - ⌊h⌋₊) * ((kth xs (⌊h⌋₊ + 1)).getD a - a)

def quantile (q : K) (xs : List K) : Option K :=
  if 0 ≤ q ∧ q ≤ 1 then valueAt xs (q * (xs.length - 1 : Nat)) else none

variable [IsStrictOrderedRing K] {xs : List K} {h q a b : K} {i : Nat}

theorem valueAt_natCast (xs : List K) (i : Nat) : valueAt xs (i : K) = kth xs i := by
  rw [valueAt, Nat.floor_natCast]
  simp

theorem valueAt_between (hi : (i : K) ≤ h) (hlt : h < i + 1) (ha : kth xs i = some a) (hb : kth xs (i + 1) = some b) :
    valueAt xs h = some (a + (h - i) * (b - a)) := by
  have hfloor : ⌊h⌋₊ = i := (Nat.floor_eq_iff ((Nat.cast_nonneg i).trans hi)).mpr ⟨hi, hlt⟩
  rw [valueAt, hfloor, ha, hb]
  rfl

theorem exists_quantile (hq : 0 ≤ q ∧ q ≤ 1) (hne : xs ≠ []) : ∃ v, quantile q xs = some v := by
  have hpos : 0 < xs.length := List.length_pos_iff.mpr hne
  have hle : q * (xs.length - 1 : Nat) ≤ (xs.length - 1 : Nat) := mul_le_of_le_one_left (Nat.cast_nonneg _) hq.2
  have hfloor : ⌊q * (xs.length - 1 : Nat)⌋₊ ≤ xs.length - 1 :=
    Nat.cast_le.mp ((Nat.floor_le (mul_nonneg hq.1 (Nat.cast_nonneg _))).trans hle)
  have hindex : ⌊q * (xs.length - 1 : Nat)⌋₊ < xs.length := by omega
  obtain ⟨a, ha⟩ := exists_kth hindex
  exact ⟨_, by rw [quantile, if_pos hq, valueAt, ha, Option.map_some]⟩

/-- The negated values have the negated value at the place that is as far from the other end. -/
theorem valueAt_neg (h0 : 0 ≤ h) (hle : h ≤ (xs.length - 1 : Nat)) :
    valueAt (xs.map Neg.neg) ((xs.length - 1 : Nat) - h) = (valueAt xs h).map Neg.neg := by
  by_cases hxs : xs = []
  · subst hxs
    rfl
  · have hpos : 0 < xs.length := List.length_pos_iff.mpr hxs
    have hanti : Antitone (Neg.neg : K → K) := fun _ _ => neg_le_neg
    have hflip {k : Nat} (hk : k ≤ xs.length - 1) :
        kth (xs.map Neg.neg) (xs.length - 1 - k) = (kth xs k).map Neg.neg := by
      rw [kth_antitone hanti xs (by omega), Nat.sub_sub_self hk]
    have hfloor := Nat.floor_le h0
    have hlt := Nat.lt_floor_add_one h
    have hi : ⌊h⌋₊ ≤ xs.length - 1 := Nat.cast_le.mp (hfloor.trans hle)
    rcases hfloor.eq_or_lt with he | hgt
    · rw [← he, ← Nat.cast_sub hi, valueAt_natCast, valueAt_natCast, hflip hi]
    · have hi' : ⌊h⌋₊ + 1 ≤ xs.length - 1 := Nat.cast_lt.mp (hgt.trans_le hle)
      have hlower : ⌊h⌋₊ < xs.length := by omega
      have hupper : ⌊h⌋₊ + 1 < xs.length := by omega
      obtain ⟨a, ha⟩ := exists_kth hlower
      obtain ⟨b, hb⟩ := exists_kth hupper
      have hb' := hflip hi'
      have ha' := hflip hi
      rw [ha] at ha'
      rw [hb] at hb'
      have hsucc : xs.length - 1 - ⌊h⌋₊ = xs.length - 1 - (⌊h⌋₊ + 1) + 1 := by omega
      rw [hsucc] at ha'
      have hcast : ((xs.length - 1 - (⌊h⌋₊ + 1) : Nat) : K) = (xs.length - 1 : Nat) - (⌊h⌋₊ + 1) := by
        rw [Nat.cast_sub hi', Nat.cast_add, Nat.cast_one]
      rw [valueAt_between hgt.le hlt ha hb, valueAt_between (by rw [hcast]; linarith) (by rw [hcast]; linarith) hb' ha', hcast,
        Option.map_some, Option.some.injEq]
      ring

/-- The quantiles of the negated values are the negated quantiles from the other end. -/
theorem quantile_neg (q : K) (xs : List K) : quantile (1 - q) (xs.map Neg.neg) = (quantile q xs).map Neg.neg := by
  unfold quantile
  by_cases hq : 0 ≤ q ∧ q ≤ 1
  · have hq' : 0 ≤ 1 - q ∧ 1 - q ≤ 1 := ⟨sub_nonneg.mpr hq.2, sub_le_self 1 hq.1⟩
    rw [if_pos hq, if_pos hq', List.length_map, sub_mul, one_mul]
    exact valueAt_neg (mul_nonneg hq.1 (Nat.cast_nonneg _)) (mul_le_of_le_one_left (Nat.cast_nonneg _) hq.2)
  · have hq' : ¬ (0 ≤ 1 - q ∧ 1 - q ≤ 1) := fun h => hq ⟨by linarith [h.2], by linarith [h.1]⟩
    rw [if_neg hq, if_neg hq']
    rfl

omit [IsStrictOrderedRing K] in
/-- A value lies between the values at the two places next to it. -/
theorem valueAt_eq_some (ha : valueAt xs h = some a) :
    ∃ c, kth xs ⌊h⌋₊ = some c ∧ c ≤ (kth xs (⌊h⌋₊ + 1)).getD c ∧
      a = c + (h - ⌊h⌋₊) * ((kth xs (⌊h⌋₊ + 1)).getD c - c) := by
  obtain ⟨c, hc, rfl⟩ := Option.map_eq_some_iff.mp ha
  refine ⟨c, hc, ?_, rfl⟩
  cases hd : kth xs (⌊h⌋₊ + 1) with
  | none => exact le_rfl
  | some d => exact kth_mono (Nat.le_succ _) hc hd

theorem valueAt_bounds (h0 : 0 ≤ h) (ha : valueAt xs h = some a) :
    ∃ c, kth xs ⌊h⌋₊ = some c ∧ c ≤ a ∧ a ≤ (kth xs (⌊h⌋₊ + 1)).getD c := by
  obtain ⟨c, hc, hle, rfl⟩ := valueAt_eq_some ha
  have hfraction := sub_nonneg.mpr (Nat.floor_le h0)
  have hlt : h - ⌊h⌋₊ ≤ 1 := sub_le_iff_le_add'.mpr (Nat.lt_floor_add_one h).le
  have hgap := sub_nonneg.mpr hle
  refine ⟨c, hc, le_add_of_nonneg_right (mul_nonneg hfraction hgap), ?_⟩
  have hstep := mul_le_of_le_one_left hgap hlt
  linarith

theorem valueAt_mono {h' : K} (h0 : 0 ≤ h) (hle : h ≤ h') (ha : valueAt xs h = some a) (hb : valueAt xs h' = some b) :
    a ≤ b := by
  have hfloor := Nat.floor_le_floor hle
  rcases hfloor.eq_or_lt with he | hlt
  · obtain ⟨c, hc, hgap, rfl⟩ := valueAt_eq_some ha
    obtain ⟨c', hc', -, rfl⟩ := valueAt_eq_some hb
    rw [← he, hc] at hc'
    cases hc'
    rw [← he]
    have hstep := mul_le_mul_of_nonneg_right (sub_le_sub_right hle ((⌊h⌋₊ : Nat) : K)) (sub_nonneg.mpr hgap)
    linarith
  · obtain ⟨c, hc, -, hupper⟩ := valueAt_bounds h0 ha
    obtain ⟨c', hc', hlower, -⟩ := valueAt_bounds (h0.trans hle) hb
    refine hupper.trans (le_trans ?_ hlower)
    cases hd : kth xs (⌊h⌋₊ + 1) with
    | none => exact kth_mono hfloor hc hc'
    | some d => exact kth_mono hlt hd hc'

theorem quantile_mono {r : K} (hle : q ≤ r) (ha : quantile q xs = some a) (hb : quantile r xs = some b) : a ≤ b := by
  unfold quantile at ha hb
  split at ha
  · rename_i hq
    split at hb
    · exact valueAt_mono (mul_nonneg hq.1 (Nat.cast_nonneg _))
        (mul_le_mul_of_nonneg_right hle (Nat.cast_nonneg _)) ha hb
    · cases hb
  · cases ha

/-- A quantile is not outside the values. -/
theorem quantile_between (ha : quantile q xs = some a) : (∃ x ∈ xs, x ≤ a) ∧ ∃ y ∈ xs, a ≤ y := by
  unfold quantile at ha
  split at ha
  · rename_i hq
    obtain ⟨c, hc, hlower, hupper⟩ := valueAt_bounds (mul_nonneg hq.1 (Nat.cast_nonneg _)) ha
    refine ⟨⟨c, kth_mem hc, hlower⟩, _, ?_, hupper⟩
    cases hd : kth xs (⌊q * (xs.length - 1 : Nat)⌋₊ + 1) with
    | none => exact kth_mem hc
    | some d => exact kth_mem hd
  · cases ha

end RevenueRescue.Quantile
