import Mathlib.Data.List.Basic

namespace RevenueRescue.Parties

/- A list of parties, each known by its place: one of them takes a step, or a new one joins. -/

variable {α : Type} {l : List α} {x y : α} {i j w : Nat} {P : α → Prop}

theorem set_cases (h : (l.set i x)[j]? = some y) : (j = i ∧ y = x) ∨ (j ≠ i ∧ l[j]? = some y) := by
  rw [List.getElem?_set] at h
  split at h
  · rename_i hij
    split at h
    · cases h
      exact .inl ⟨hij.symm, rfl⟩
    · cases h
  · rename_i hij
    exact .inr ⟨Ne.symm hij, h⟩

theorem join_cases (h : (l ++ [x])[j]? = some y) : y = x ∨ l[j]? = some y := by
  rw [List.getElem?_append] at h
  split at h
  · exact .inr h
  · exact .inl (List.mem_singleton.mp (List.mem_of_getElem? h))

theorem set_self (h : l[i]? = some y) : (l.set i x)[i]? = some x :=
  List.getElem?_set_self (List.getElem?_eq_some_iff.mp h).1

theorem set_other (h : l[w]? = some y) (hne : i ≠ w) : (l.set i x)[w]? = some y := by
  rw [List.getElem?_set_ne hne, h]

theorem join_old (h : l[w]? = some y) : (l ++ [x])[w]? = some y := by
  rw [List.getElem?_append_left (List.getElem?_eq_some_iff.mp h).1, h]

theorem mem_set_self (h : l[i]? = some y) : x ∈ l.set i x := List.mem_of_getElem? (set_self h)

theorem mem_set_other (h : l[w]? = some y) (hne : i ≠ w) : y ∈ l.set i x := List.mem_of_getElem? (set_other h hne)

theorem others_join (h : ∀ j y, l[j]? = some y → j ≠ w → P y) (hx : P x) :
    ∀ j y, (l ++ [x])[j]? = some y → j ≠ w → P y := by
  intro j y hj hne
  rcases join_cases hj with rfl | hold
  · exact hx
  · exact h j y hold hne

theorem others_set (h : ∀ j y, l[j]? = some y → j ≠ w → P y) (hx : i ≠ w → P x) :
    ∀ j y, (l.set i x)[j]? = some y → j ≠ w → P y := by
  intro j y hj hne
  rcases set_cases hj with ⟨rfl, rfl⟩ | ⟨-, hold⟩
  · exact hx hne
  · exact h j y hold hne

theorem countP_set (p : α → Bool) (h : l[i]? = some y) :
    (l.set i x).countP p + (if p y then 1 else 0) = l.countP p + if p x then 1 else 0 := by
  obtain ⟨hlt, hget⟩ := List.getElem?_eq_some_iff.mp h
  have hpos : p y = true → 0 < l.countP p := fun hy => List.countP_pos_iff.mpr ⟨y, List.mem_of_getElem? h, hy⟩
  rw [List.countP_set hlt, hget]
  cases hy : p y with
  | false => simp
  | true =>
      have hcount := hpos hy
      simp only [if_true]
      omega

end RevenueRescue.Parties
