import Mathlib.Order.MinMax
import RevenueRescue.Foundation.Window

namespace RevenueRescue.OrderStatistic

open Window

variable {α β : Type} [LinearOrder α] [LinearOrder β]

/-- The value at a place of the sorted list, counted from 0. -/
def kth (values : List α) (k : Nat) : Option α := (orderBy id values)[k]?

/-- `c` is the value that no more than `k` values are below and more than `k`
values are not above. -/
structure IsKth (values : List α) (k : Nat) (c : α) : Prop where
  below_le : values.countP (· < c) ≤ k
  lt_upTo : k < values.countP (· ≤ c)

variable {values : List α} {k i j : Nat} {a b c : α}

theorem countP_lt_le (values : List α) (h : a < b) : values.countP (· ≤ a) ≤ values.countP (· < b) := by
  apply List.countP_mono_left
  intro x _ hx
  simp only [decide_eq_true_eq] at hx ⊢
  exact hx.trans_lt h

theorem countP_upTo (values : List α) (a : α) :
    values.countP (· ≤ a) = values.countP (· < a) + values.count a := by
  induction values with
  | nil => rfl
  | cons head rest ih =>
      rw [List.countP_cons, List.countP_cons, List.count_cons, ih]
      rcases lt_trichotomy head a with hlt | rfl | hgt
      · simp [hlt, hlt.le, hlt.ne]
        omega
      · simp
        omega
      · simp [hgt.not_ge, hgt.not_gt, hgt.ne']

/-- In a sorted list the values with a downward closed property come first. -/
theorem lt_countP_iff {P : α → Bool} {sorted : List α} (hs : sorted.Pairwise (· ≤ ·))
    (hP : ∀ a b, a ≤ b → P b = true → P a = true) (hc : sorted[k]? = some c) :
    k < sorted.countP P ↔ P c = true := by
  induction sorted generalizing k with
  | nil => cases hc
  | cons head rest ih =>
      obtain ⟨hhead, hrest⟩ := List.pairwise_cons.mp hs
      cases hp : P head with
      | false =>
          have hall : ∀ x ∈ head :: rest, ¬ P x = true := by
            intro x hx
            rcases List.mem_cons.mp hx with rfl | hx
            · simp [hp]
            · exact fun h => by simp [hP head x (hhead x hx) h] at hp
          rw [List.countP_eq_zero.mpr hall]
          simp [hall c (List.mem_of_getElem? hc)]
      | true =>
          rw [List.countP_cons_of_pos hp]
          cases k with
          | zero =>
              obtain rfl := Option.some.inj hc
              simp [hp]
          | succ k =>
              rw [← ih hrest hc]
              omega

theorem sorted_pairwise (values : List α) : (orderBy id values).Pairwise (· ≤ ·) := orderBy_pairwise id values

theorem kth_eq_some : kth values k = some c ↔ IsKth values k c := by
  have hperm := orderBy_perm id values
  have hbelow : ∀ {x}, kth values k = some x → (k < values.countP (· < c) ↔ x < c) := by
    intro x hx
    rw [← hperm.countP_eq, lt_countP_iff (sorted_pairwise values) (by simpa using fun a b => lt_of_le_of_lt) hx,
      decide_eq_true_eq]
  have hupTo : ∀ {x}, kth values k = some x → (k < values.countP (· ≤ c) ↔ x ≤ c) := by
    intro x hx
    rw [← hperm.countP_eq, lt_countP_iff (sorted_pairwise values) (by simpa using fun a b => le_trans) hx,
      decide_eq_true_eq]
  constructor
  · intro hc
    exact ⟨not_lt.mp fun h => lt_irrefl c ((hbelow hc).mp h), (hupTo hc).mpr le_rfl⟩
  · rintro ⟨hle, hlt⟩
    have hk : k < (orderBy id values).length :=
      (hlt.trans_le List.countP_le_length).trans_eq hperm.length_eq.symm
    have hx : kth values k = some (orderBy id values)[k] := List.getElem?_eq_getElem hk
    rw [hx, le_antisymm ((hupTo hx).mp hlt) (not_lt.mp fun h => absurd ((hbelow hx).mpr h) hle.not_gt)]

theorem exists_kth (hk : k < values.length) : ∃ c, kth values k = some c := by
  rw [← (orderBy_perm id values).length_eq] at hk
  exact ⟨_, List.getElem?_eq_getElem hk⟩

theorem kth_mem (h : kth values k = some c) : c ∈ values := mem_orderBy.mp (List.mem_of_getElem? h)

theorem kth_mono (hij : i ≤ j) (ha : kth values i = some a) (hb : kth values j = some b) : a ≤ b := by
  have ha := kth_eq_some.mp ha
  have hb := kth_eq_some.mp hb
  by_contra hlt
  have hcount := countP_lt_le values (not_le.mp hlt)
  have hbelow := ha.below_le
  have hupTo := hb.lt_upTo
  omega

theorem kth_perm {values' : List α} (h : values.Perm values') (k : Nat) : kth values k = kth values' k := by
  have hsorted : orderBy id values = orderBy id values' := by
    apply List.Perm.eq_of_pairwise' (sorted_pairwise _) (sorted_pairwise _)
    exact (orderBy_perm id values).trans (h.trans (orderBy_perm id values').symm)
  rw [kth, hsorted, kth]

theorem kth_map {f : α → β} (hf : Monotone f) (values : List α) (k : Nat) :
    kth (values.map f) k = (kth values k).map f := by
  have hsorted : orderBy id (values.map f) = (orderBy id values).map f := by
    apply List.Perm.eq_of_pairwise' (sorted_pairwise _)
    · exact List.pairwise_map.mpr ((sorted_pairwise values).imp fun hab => hf hab)
    · exact (orderBy_perm id _).trans ((orderBy_perm id values).map f).symm
  rw [kth, hsorted, List.getElem?_map, kth]

/-- Under a map that reverses the order the places count from the other end. -/
theorem kth_antitone {f : α → β} (hf : Antitone f) (values : List α) (hk : k < values.length) :
    kth (values.map f) k = (kth values (values.length - 1 - k)).map f := by
  have hlen : (orderBy id values).length = values.length := (orderBy_perm id values).length_eq
  have hsorted : orderBy id (values.map f) = ((orderBy id values).map f).reverse := by
    apply List.Perm.eq_of_pairwise' (sorted_pairwise _)
    · exact List.pairwise_reverse.mpr (List.pairwise_map.mpr ((sorted_pairwise values).imp fun hab => hf hab))
    · exact (orderBy_perm id _).trans (((orderBy_perm id values).map f).symm.trans (List.reverse_perm _).symm)
  rw [kth, hsorted, List.getElem?_reverse (by simpa [hlen] using hk), List.length_map, hlen, List.getElem?_map, kth]

theorem min?_eq_some {l : List α} : l.min? = some a ↔ a ∈ l ∧ ∀ b ∈ l, a ≤ b := by
  let : Std.LawfulOrderMin α := { min_eq_or := min_choice, le_min_iff := fun _ _ _ => le_min_iff }
  exact List.min?_eq_some_iff

theorem max?_eq_some {l : List α} : l.max? = some a ↔ a ∈ l ∧ ∀ b ∈ l, b ≤ a := by
  let : Std.LawfulOrderMax α := { max_eq_or := max_choice, max_le_iff := fun _ _ _ => max_le_iff }
  exact List.max?_eq_some_iff

section Members

variable {l l' : List α}

/-- The least and the greatest element depend on the members only. -/
theorem min?_congr (h : ∀ v, v ∈ l ↔ v ∈ l') : l.min? = l'.min? :=
  Option.ext fun v => by simp only [min?_eq_some, h]

theorem max?_congr (h : ∀ v, v ∈ l ↔ v ∈ l') : l.max? = l'.max? :=
  Option.ext fun v => by simp only [max?_eq_some, h]

theorem min?_eq_max?_iff (hne : l ≠ []) : l.min? = l.max? ↔ ∀ v ∈ l, ∀ v' ∈ l, v = v' := by
  obtain ⟨v, hv⟩ := List.exists_mem_of_ne_nil l hne
  obtain ⟨lo, hlo⟩ := Option.isSome_iff_exists.mp (List.isSome_min?_of_mem hv)
  obtain ⟨hi, hhi⟩ := Option.isSome_iff_exists.mp (List.isSome_max?_of_mem hv)
  obtain ⟨hlomem, hlole⟩ := min?_eq_some.mp hlo
  obtain ⟨himem, hile⟩ := max?_eq_some.mp hhi
  rw [hlo, hhi, Option.some.injEq]
  constructor
  · rintro rfl v hv v' hv'
    rw [le_antisymm (hile v hv) (hlole v hv), le_antisymm (hile v' hv') (hlole v' hv')]
  · intro hsame
    exact hsame lo hlomem hi himem

end Members

/-- The least value up to which more than `k` values are counted, in any list
of the values. -/
theorem min?_upTo {l : List α} (hl : ∀ v, v ∈ l ↔ v ∈ values ∧ k < values.countP (· ≤ v)) :
    l.min? = kth values k := by
  cases hc : kth values k with
  | none =>
      rw [List.min?_eq_none_iff, List.eq_nil_iff_forall_not_mem]
      intro v hv
      have hlen : values.length ≤ k := by
        rw [← (orderBy_perm id values).length_eq]
        exact List.getElem?_eq_none_iff.mp hc
      exact ((hl v).mp hv).2.not_ge (List.countP_le_length.trans hlen)
  | some c =>
      have hkth := kth_eq_some.mp hc
      rw [min?_eq_some]
      constructor
      · exact (hl c).mpr ⟨mem_orderBy.mp (List.mem_of_getElem? hc), hkth.lt_upTo⟩
      · intro v hv
        by_contra hlt
        have hcount := countP_lt_le values (not_le.mp hlt)
        have hupTo := ((hl v).mp hv).2
        have hbelow := hkth.below_le
        omega

end RevenueRescue.OrderStatistic
