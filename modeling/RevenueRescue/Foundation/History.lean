import Mathlib.Data.List.Basic

namespace RevenueRescue.History

variable {α : Type} {P : α → List α → Prop}

/-- Every entry of a history, the latest one first, stands in `P` to the
entries before it. -/
def Throughout (P : α → List α → Prop) : List α → Prop
  | [] => True
  | e :: past => P e past ∧ Throughout P past

theorem Throughout.split {xs post past : List α} {e : α} (h : Throughout P xs)
    (hx : xs = post ++ e :: past) : P e past := by
  subst hx
  induction post with
  | nil => exact h.1
  | cons x post ih => exact ih h.2

end RevenueRescue.History
