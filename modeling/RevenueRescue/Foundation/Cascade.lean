import Mathlib.Data.List.Basic

namespace RevenueRescue.Cascade

/-- One check of a cascade: the subjects it is about, what it objects to, and
the verdict it then gives. -/
structure Rule (α β : Type) where
  applies : α → Bool
  objects : α → Bool
  verdict : β

variable {α β : Type}

def Rule.fires (rule : Rule α β) (x : α) : Bool := rule.applies x && rule.objects x

/-- The verdict of a cascade, which is that of the first rule that fires. -/
def run (rules : List (Rule α β)) (x : α) : Option β :=
  (rules.find? (fun rule => rule.fires x)).map Rule.verdict

def Silent (rules : List (Rule α β)) (x : α) : Prop := ∀ rule ∈ rules, rule.fires x = false

/-- The rule that fires before all others that fire. -/
structure Decides (rules : List (Rule α β)) (x : α) (rule : Rule α β) : Prop where
  fires : rule.fires x = true
  first : ∃ before after, rules = before ++ rule :: after ∧ Silent before x

variable {rules : List (Rule α β)} {rule : Rule α β} {x y : α}

theorem run_cons : run (rule :: rules) x = if rule.fires x then some rule.verdict else run rules x := by
  cases h : rule.fires x <;> simp [run, h]

theorem run_eq_none : run rules x = none ↔ Silent rules x := by
  simp [run, Silent]

theorem run_of_decides (h : Decides rules x rule) : run rules x = some rule.verdict := by
  obtain ⟨hfires, before, after, rfl, hbefore⟩ := h
  induction before with
  | nil => rw [List.nil_append, run_cons, if_pos hfires]
  | cons head before ih =>
      have hhead : head.fires x = false := hbefore head List.mem_cons_self
      have htail : Silent before x := fun r hr => hbefore r (List.mem_cons_of_mem _ hr)
      rw [List.cons_append, run_cons, hhead, if_neg (by simp)]
      exact ih htail

theorem mem_of_decides (h : Decides rules x rule) : rule ∈ rules := by
  obtain ⟨-, before, after, rfl, -⟩ := h
  simp

theorem silent_or_decides (rules : List (Rule α β)) (x : α) :
    Silent rules x ∨ ∃ rule, Decides rules x rule := by
  induction rules with
  | nil => exact .inl (by simp [Silent])
  | cons head rules ih =>
      cases hhead : head.fires x with
      | true => exact .inr ⟨head, hhead, [], rules, rfl, by simp [Silent]⟩
      | false =>
          rcases ih with hs | ⟨rule, hfires, before, after, rfl, hbefore⟩
          · left
            intro r hr
            rcases List.mem_cons.mp hr with rfl | hr
            · exact hhead
            · exact hs r hr
          · right
            refine ⟨rule, hfires, head :: before, after, rfl, ?_⟩
            intro r hr
            rcases List.mem_cons.mp hr with rfl | hr
            · exact hhead
            · exact hbefore r hr

end RevenueRescue.Cascade
