import Mathlib.Logic.Basic

namespace RevenueRescue.NetChange

variable {β : Type} [DecidableEq β]

/-- What an `UPDATE` leaves in a column of a row that a unit of work loaded
as `loaded` and holds as `held` when it flushes: only a net change is part of
the statement, so an unchanged column keeps what is `stored` by then. -/
def flush (loaded held stored : β) : β := if held = loaded then stored else held

@[simp] theorem flush_unchanged (loaded stored : β) : flush loaded loaded stored = stored := by
  simp [flush]

@[simp] theorem flush_fresh (loaded held : β) : flush loaded held loaded = held := by
  by_cases h : held = loaded <;> simp [flush, h]

theorem flush_changed {loaded held : β} (h : held ≠ loaded) (stored : β) :
    flush loaded held stored = held := by
  simp [flush, h]

@[simp] theorem flush_held (loaded held : β) : flush loaded held held = held := by
  by_cases h : held = loaded <;> simp [flush, h]

end RevenueRescue.NetChange
