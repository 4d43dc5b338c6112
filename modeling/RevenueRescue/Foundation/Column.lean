import Mathlib.Data.Nat.Notation
import Mathlib.Tactic.SplitIfs

namespace RevenueRescue.Column

/-- What a `VARCHAR` column takes of a text: blanks beyond its width are cut off.
`none` is the error for any other character there, and for a NUL. -/
def varchar (width : Nat) (text : String) : Option String :=
  if Char.ofNat 0 ∈ text.toList then none
  else if text.length ≤ width then some text
  else if (text.toList.drop width).all (· = ' ') then some (String.ofList (text.toList.take width))
  else none

/-- An `INTEGER` column has 32 bits. -/
def integer (n : Int) : Option Int := if -2147483648 ≤ n ∧ n < 2147483648 then some n else none

variable {width : Nat} {text column : String} {n m : Int}

theorem varchar_of_fits (hlen : text.length ≤ width) (hnul : Char.ofNat 0 ∉ text.toList) :
    varchar width text = some text := by
  rw [varchar, if_neg hnul, if_pos hlen]

theorem varchar_column (h : varchar width text = some column) :
    column.length ≤ width ∧ Char.ofNat 0 ∉ column.toList := by
  unfold varchar at h
  split_ifs at h with hnul hlen hblank
  · obtain rfl := Option.some.inj h
    exact ⟨hlen, hnul⟩
  · obtain rfl := Option.some.inj h
    rw [String.toList_ofList, String.length_ofList]
    exact ⟨List.length_take_le width _, fun hmem => hnul (List.mem_of_mem_take hmem)⟩

/-- What a column has taken it takes again as it is. -/
theorem varchar_stored (h : varchar width text = some column) : varchar width column = some column :=
  varchar_of_fits (varchar_column h).1 (varchar_column h).2

theorem integer_eq_some : integer n = some m ↔ m = n ∧ -2147483648 ≤ n ∧ n < 2147483648 := by
  unfold integer
  split_ifs with h
  · simp [h, eq_comm]
  · simp [h]

end RevenueRescue.Column
