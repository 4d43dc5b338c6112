import RevenueRescue.Foundation.PyFloat

namespace RevenueRescue

/-- What `json.loads` builds: the values a dict that came from JSON can hold. -/
inductive PyValue
  | none
  | bool (b : Bool)
  | int (n : Int)
  | float (x : PyFloat)
  | str (s : String)
  | list (xs : List PyValue)
  | dict (kvs : List (String × PyValue))

namespace PyValue

mutual

def beq : PyValue → PyValue → Bool
  | .none, .none => true
  | .bool a, .bool b => a == b
  | .int a, .int b => a == b
  | .float a, .float b => a == b
  | .str a, .str b => a == b
  | .list xs, .list ys => beqList xs ys
  | .dict xs, .dict ys => beqDict xs ys
  | _, _ => false

def beqList : List PyValue → List PyValue → Bool
  | [], [] => true
  | x :: xs, y :: ys => beq x y && beqList xs ys
  | _, _ => false

def beqDict : List (String × PyValue) → List (String × PyValue) → Bool
  | [], [] => true
  | (k, x) :: xs, (l, y) :: ys => k == l && beq x y && beqDict xs ys
  | _, _ => false

end

mutual

theorem beq_iff : ∀ a b : PyValue, beq a b = true ↔ a = b
  | .none, b => by cases b <;> simp [beq]
  | .bool _, b => by cases b <;> simp [beq]
  | .int _, b => by cases b <;> simp [beq]
  | .float _, b => by cases b <;> simp [beq]
  | .str _, b => by cases b <;> simp [beq]
  | .list xs, b => by
      cases b with
      | list ys => simp [beq, beqList_iff xs ys]
      | _ => simp [beq]
  | .dict xs, b => by
      cases b with
      | dict ys => simp [beq, beqDict_iff xs ys]
      | _ => simp [beq]

theorem beqList_iff : ∀ xs ys : List PyValue, beqList xs ys = true ↔ xs = ys
  | [], ys => by cases ys <;> simp [beqList]
  | x :: xs, ys => by
      cases ys with
      | nil => simp [beqList]
      | cons y ys => simp [beqList, beq_iff x y, beqList_iff xs ys]

theorem beqDict_iff : ∀ xs ys : List (String × PyValue), beqDict xs ys = true ↔ xs = ys
  | [], ys => by cases ys <;> simp [beqDict]
  | (k, x) :: xs, ys => by
      cases ys with
      | nil => simp [beqDict]
      | cons y ys =>
          obtain ⟨l, y⟩ := y
          simp [beqDict, beq_iff x y, beqDict_iff xs ys]

end

instance : DecidableEq PyValue := fun a b => decidable_of_iff _ (beq_iff a b)

/-- `dict.get(key, default)`. -/
def get (kvs : List (String × PyValue)) (key : String) (default : PyValue) : PyValue :=
  ((kvs.find? fun kv => kv.1 = key).map Prod.snd).getD default

def contains (kvs : List (String × PyValue)) (key : String) : Bool :=
  kvs.any fun kv => kv.1 = key

end PyValue

end RevenueRescue
