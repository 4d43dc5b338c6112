import RevenueRescue.Foundation.Double

namespace RevenueRescue.PyRandom

/-- `random.Random`: its states, how it is seeded, and its two primitives `random` and `_randbelow`. -/
structure Random where
  State : Type
  seeded : Int → State
  random : State → ℚ × State
  randbelow : (n : Nat) → 0 < n → State → Fin n × State

/-- What draws from a generator, and can raise. -/
abbrev Draw (r : Random) (α : Type) : Type := StateT r.State (Except String) α

variable {r : Random} {α β γ δ : Type}

def random (r : Random) : Draw r ℚ := fun s => .ok (r.random s)

def choice (r : Random) (xs : List α) : Draw r α := fun s =>
  if h : 0 < xs.length then
    let (i, s) := r.randbelow xs.length h s
    .ok (xs.get i, s)
  else .error "Cannot choose from an empty sequence"

def randint (r : Random) (a b : Int) (h : a ≤ b) : Draw r { x : Int // a ≤ x ∧ x ≤ b } := fun s =>
  let (i, s) := r.randbelow (b - a + 1).toNat (by omega) s
  .ok (⟨a + i, by omega⟩, s)

/-- `itertools.accumulate` on floats. -/
def accumulate : ℚ → List ℚ → List ℚ
  | _, [] => []
  | total, x :: xs => PyFloat.double (total + x) :: accumulate (PyFloat.double (total + x)) xs

/-- `bisect.bisect_right(xs, x, 0, hi)` on a sorted list. -/
def bisect (xs : List ℚ) (x : ℚ) (hi : Nat) : Nat := ((xs.take hi).takeWhile (· ≤ x)).length

theorem bisect_le (xs : List ℚ) (x : ℚ) (hi : Nat) : bisect xs x hi ≤ hi :=
  (List.takeWhile_prefix _).length_le.trans (List.length_take_le _ _)

/-- `choices(population, weights)[0]`. -/
def choices (r : Random) (population : List (α × ℚ)) (h : 0 < population.length) : Draw r α := fun s =>
  let cumWeights := accumulate 0 (population.map fun x => PyFloat.double x.2)
  let total := cumWeights.getLastD 0
  if total ≤ 0 then .error "Total of weights must be greater than zero"
  else
    let (x, s) := r.random s
    let i := bisect cumWeights (PyFloat.double (x * total)) (population.length - 1)
    .ok ((population.get ⟨i, (bisect_le ..).trans_lt (Nat.sub_lt h Nat.one_pos)⟩).1, s)

theorem bind_eq_ok {x : Draw r α} {k : α → Draw r β} {s : r.State} {out : β × r.State} (h : (x >>= k) s = .ok out) :
    ∃ a s', x s = .ok (a, s') ∧ k a s' = .ok out := by
  simp only [Bind.bind, StateT.bind, Except.bind] at h
  cases hx : x s with
  | error e =>
      rw [hx] at h
      cases h
  | ok a =>
      rw [hx] at h
      exact ⟨a.1, a.2, rfl, h⟩

theorem bind_ok {x : Draw r α} {k : α → Draw r β} {s s' : r.State} {a : α} (h : x s = .ok (a, s')) :
    (x >>= k) s = k a s' := by
  simp only [Bind.bind, StateT.bind, Except.bind, h]

/-- A program that raises in no state. -/
def NeverRaises (x : Draw r α) : Prop := ∀ s, ∃ out, x s = .ok out

theorem neverRaises_pure (a : α) : NeverRaises (pure a : Draw r α) := fun s => ⟨(a, s), rfl⟩

theorem NeverRaises.bind {x : Draw r α} {k : α → Draw r β} (h : NeverRaises x) (hk : ∀ a, NeverRaises (k a)) :
    NeverRaises (x >>= k) := fun s => by
  obtain ⟨⟨a, s'⟩, hx⟩ := h s
  rw [bind_ok hx]
  exact hk a s'

theorem neverRaises_choice {xs : List α} (h : xs ≠ []) : NeverRaises (choice r xs) := fun s => by
  rw [choice, dif_pos (List.length_pos_iff.mpr h)]
  exact ⟨_, rfl⟩

theorem neverRaises_randint {a b : Int} (h : a ≤ b) : NeverRaises (randint r a b h) := fun _ => ⟨_, rfl⟩

theorem accumulate_pos {weights : List ℚ} {total : ℚ} (h0 : 0 ≤ total) (h : ∀ w ∈ weights, 0 < w) (hne : weights ≠ []) :
    0 < (accumulate total weights).getLastD 0 := by
  induction weights generalizing total with
  | nil => exact absurd rfl hne
  | cons w weights ih =>
      have hsum : 0 < total + w := add_pos_of_nonneg_of_pos h0 (h w List.mem_cons_self)
      have hpos : 0 < PyFloat.double (total + w) := (zpow_pos (by norm_num) _).trans_le (PyFloat.power_le_double hsum)
      cases weights with
      | nil => exact hpos
      | cons v weights =>
          have hrest := ih hpos.le (fun x hx => h x (List.mem_cons_of_mem _ hx)) (List.cons_ne_nil _ _)
          rw [accumulate, List.getLastD_cons] at hrest
          rwa [accumulate, List.getLastD_cons, accumulate, List.getLastD_cons]

/-- With weights above zero there is always a choice. -/
theorem neverRaises_choices {population : List (α × ℚ)} (hpos : 0 < population.length) (h : ∀ x ∈ population, 0 < x.2) :
    NeverRaises (choices r population hpos) := fun s => by
  have htotal : ¬ (accumulate 0 (population.map fun x => PyFloat.double x.2)).getLastD 0 ≤ 0 := by
    refine not_le.mpr (accumulate_pos le_rfl ?_ (by simpa using List.length_pos_iff.mp hpos))
    intro w hw
    obtain ⟨x, hx, rfl⟩ := List.mem_map.mp hw
    exact (zpow_pos (by norm_num) _).trans_le (PyFloat.power_le_double (h x hx))
  simp only [choices, if_neg htotal]
  exact ⟨_, rfl⟩

/-- `[make(i) for i in range(i, i + count)]`. -/
def each (make : Nat → Draw r α) (i : Nat) : Nat → Draw r (List α)
  | 0 => return []
  | count + 1 => do
      let x ← make i
      let xs ← each make (i + 1) count
      return x :: xs

section Each

variable {make : Nat → Draw r α} {i n k : Nat} {s s' : r.State} {xs : List α}

theorem neverRaises_each (h : ∀ i, NeverRaises (make i)) (i n : Nat) : NeverRaises (each make i n) := by
  induction n generalizing i with
  | zero => exact neverRaises_pure _
  | succ n ih => exact (h i).bind fun x => (ih (i + 1)).bind fun xs => neverRaises_pure _

/-- What holds of everything that is made holds of everything in the list, each at its number. -/
theorem each_ok {P : Nat → α → Prop} (hmake : ∀ i s x s', make i s = .ok (x, s') → P i x)
    (h : each make i n s = .ok (xs, s')) : xs.length = n ∧ ∀ k x, xs[k]? = some x → P (i + k) x := by
  induction n generalizing i s xs with
  | zero =>
      cases h
      exact ⟨rfl, fun k x hk => by cases hk⟩
  | succ n ih =>
      obtain ⟨first, s1, hfirst, hloop⟩ := bind_eq_ok h
      obtain ⟨rest, s2, hrest, hpair⟩ := bind_eq_ok hloop
      cases hpair
      obtain ⟨hlen, hall⟩ := ih hrest
      refine ⟨congrArg Nat.succ hlen, fun k x hk => ?_⟩
      cases k with
      | zero =>
          cases hk
          exact hmake i s first s1 hfirst
      | succ k =>
          have hnext := hall k x hk
          rwa [Nat.add_assoc, Nat.add_comm 1 k] at hnext

/-- A list whose making never raises, with what holds of its members. -/
theorem each_total {P : Nat → α → Prop} (hnever : ∀ i, NeverRaises (make i))
    (hmake : ∀ i s x s', make i s = .ok (x, s') → P i x) (n : Nat) (s : r.State) :
    ∃ xs, (each make 0 n s).map Prod.fst = .ok xs ∧ xs.length = n ∧ ∀ k x, xs[k]? = some x → P k x := by
  obtain ⟨⟨xs, s'⟩, hxs⟩ := neverRaises_each hnever 0 n s
  obtain ⟨hlen, hall⟩ := each_ok hmake hxs
  simp only [Nat.zero_add] at hall
  refine ⟨xs, ?_, hlen, hall⟩
  rw [hxs]
  rfl

/-- A longer list of the same generator goes on where a shorter one stops. -/
theorem each_prefix (h : each make i (n + k) s = .ok (xs, s')) : ∃ middle, each make i n s = .ok (xs.take n, middle) := by
  induction n generalizing i s xs with
  | zero => exact ⟨s, rfl⟩
  | succ n ih =>
      rw [Nat.succ_add] at h
      obtain ⟨first, s1, hfirst, hloop⟩ := bind_eq_ok h
      obtain ⟨rest, s2, hrest, hpair⟩ := bind_eq_ok hloop
      cases hpair
      obtain ⟨middle, hmiddle⟩ := ih hrest
      refine ⟨middle, ?_⟩
      rw [each, bind_ok hfirst, bind_ok hmiddle]
      rfl

end Each

theorem choice_mem {xs : List α} {s s' : r.State} {x : α} (h : choice r xs s = .ok (x, s')) : x ∈ xs := by
  unfold choice at h
  split at h
  · cases h
    exact List.get_mem ..
  · cases h

theorem choices_mem {population : List (α × ℚ)} (hpos : 0 < population.length) {s s' : r.State} {x : α}
    (h : choices r population hpos s = .ok (x, s')) : x ∈ population.map Prod.fst := by
  unfold choices at h
  simp only at h
  split at h
  · cases h
  · cases h
    exact List.mem_map_of_mem (List.get_mem ..)

/-- Two programs draw the same and come to the same, as far as `f` and `f'` show it. -/
def Agree (f : α → γ) (f' : β → γ) (x : Draw r α) (y : Draw r β) : Prop :=
  ∀ s, (x s).map (Prod.map f id) = (y s).map (Prod.map f' id)

theorem Agree.refl (f : α → γ) (x : Draw r α) : Agree f f x x := fun _ => rfl

theorem Agree.ok {f : α → γ} {f' : β → γ} {x : Draw r α} {y : Draw r β} (h : Agree f f' x y) {s s' s'' : r.State} {a : α}
    {b : β} (ha : x s = .ok (a, s')) (hb : y s = .ok (b, s'')) : f a = f' b ∧ s' = s'' := by
  have := h s
  rw [ha, hb] at this
  simpa [Except.map] using this

theorem agree_pure {f : α → γ} {f' : β → γ} {a : α} {b : β} (h : f a = f' b) :
    Agree f f' (pure a : Draw r α) (pure b) := fun s => by
  change Except.ok (f a, s) = Except.ok (f' b, s)
  rw [h]

theorem Agree.bind {α' β' : Type} {f : α → γ} {f' : β → γ} {g : α' → δ} {g' : β' → δ} {x : Draw r α} {y : Draw r β}
    {k : α → Draw r α'} {k' : β → Draw r β'} (h : Agree f f' x y) (hk : ∀ a b, f a = f' b → Agree g g' (k a) (k' b)) :
    Agree g g' (x >>= k) (y >>= k') := fun s => by
  have hs := h s
  simp only [Bind.bind, StateT.bind, Except.bind]
  cases hx : x s with
  | error e =>
      cases hy : y s with
      | error e' =>
          rw [hx, hy] at hs
          exact congrArg Except.error (Except.error.inj hs)
      | ok b =>
          rw [hx, hy] at hs
          cases hs
  | ok a =>
      cases hy : y s with
      | error e =>
          rw [hx, hy] at hs
          cases hs
      | ok b =>
          rw [hx, hy] at hs
          have hpair := Except.ok.inj hs
          have hvalue : f a.1 = f' b.1 := congrArg Prod.fst hpair
          have hstate : a.2 = b.2 := congrArg Prod.snd hpair
          simp only [hstate]
          exact hk a.1 b.1 hvalue b.2

theorem agree_bind_same {α' β' : Type} {g : α' → δ} {g' : β' → δ} {x : Draw r α} {k : α → Draw r α'} {k' : α → Draw r β'}
    (hk : ∀ a, Agree g g' (k a) (k' a)) : Agree g g' (x >>= k) (x >>= k') :=
  (Agree.refl id x).bind fun a b h => by
    obtain rfl : a = b := h
    exact hk a

theorem agree_each {f : α → γ} {f' : β → γ} {make : Nat → Draw r α} {make' : Nat → Draw r β}
    (h : ∀ i, Agree f f' (make i) (make' i)) (i n : Nat) :
    Agree (List.map f) (List.map f') (each make i n) (each make' i n) := by
  induction n generalizing i with
  | zero => exact agree_pure rfl
  | succ n ih =>
      refine (h i).bind fun a b hab => (ih (i + 1)).bind fun as bs habs => agree_pure ?_
      rw [List.map_cons, List.map_cons, hab, habs]

/-- Two generators that agree make lists of which the shorter one begins the longer one. -/
theorem agree_prefix {f : α → γ} {f' : β → γ} {make : Nat → Draw r α} {make' : Nat → Draw r β} {i n n' : Nat}
    {s s' s'' : r.State} {xs : List α} {ys : List β} (h : ∀ i, Agree f f' (make i) (make' i)) (hn : n ≤ n')
    (hxs : each make i n s = .ok (xs, s')) (hys : each make' i n' s = .ok (ys, s'')) : xs.map f <+: ys.map f' := by
  obtain ⟨k, rfl⟩ := Nat.exists_eq_add_of_le hn
  obtain ⟨middle, hmiddle⟩ := each_prefix hys
  rw [((agree_each h i n).ok hxs hmiddle).1]
  exact (List.take_prefix n ys).map f'

theorem ok_of_fst {x : Except String (α × β)} {a : α} (h : x.map Prod.fst = .ok a) : ∃ b, x = .ok (a, b) := by
  cases x with
  | error e => cases h
  | ok pair =>
      cases h
      exact ⟨pair.2, rfl⟩

theorem agree_choice {f : α → γ} {f' : β → γ} {xs : List α} {ys : List β} (h : xs.map f = ys.map f') :
    Agree f f' (choice r xs) (choice r ys) := fun s => by
  have hlen : xs.length = ys.length := by simpa using congrArg List.length h
  unfold choice
  by_cases hpos : 0 < ys.length
  · have hget (i : Nat) (hi : i < xs.length) (hi' : i < ys.length) : f xs[i] = f' ys[i] := by
      have := List.getElem_of_eq h (i := i) (by simpa using hi)
      simpa using this
    have hpos' : 0 < xs.length := hlen ▸ hpos
    rw [dif_pos hpos', dif_pos hpos]
    have hdraw : (r.randbelow xs.length hpos' s).2 = (r.randbelow ys.length hpos s).2 ∧
        (r.randbelow xs.length hpos' s).1.val = (r.randbelow ys.length hpos s).1.val := by
      generalize xs.length = n at hlen hpos'
      subst hlen
      exact ⟨rfl, rfl⟩
    simp only [Except.map, Prod.map, List.get_eq_getElem, id_eq, Except.ok.injEq, Prod.mk.injEq]
    refine ⟨?_, hdraw.1⟩
    have := hget (r.randbelow xs.length hpos' s).1 (Fin.isLt _) (hdraw.2 ▸ Fin.isLt _)
    rw [this]
    congr 1
    simp only [hdraw.2]
  · rw [dif_neg (by omega), dif_neg hpos]
    rfl

end RevenueRescue.PyRandom
