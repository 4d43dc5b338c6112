import Mathlib.Data.List.Sort
import Mathlib.Data.List.Nodup

namespace RevenueRescue.Window

variable {α β κ κ' : Type} [LinearOrder κ] [LinearOrder κ']

/-- The rows in the order of a key, rows of the same key as they stood. -/
def orderBy (key : α → κ) (rows : List α) : List α := rows.insertionSort fun a b => key a ≤ key b

/-- Each row with the rows above it. -/
def withPreceding : List α → List α → List (List α × α)
  | _, [] => []
  | before, row :: rest => (before, row) :: withPreceding (before ++ [row]) rest

/-- The rows below a key, in the order of the key. -/
def below (key : α → κ) (rows : List α) (bound : κ) : List α := orderBy key (rows.filter fun a => key a < bound)

variable {key : α → κ} {key' : α → κ'} {rows rows' before : List α} {row a b : α}

theorem orderBy_perm (key : α → κ) (rows : List α) : (orderBy key rows).Perm rows :=
  List.perm_insertionSort _ rows

@[simp] theorem mem_orderBy : a ∈ orderBy key rows ↔ a ∈ rows := (orderBy_perm key rows).mem_iff

theorem orderBy_pairwise (key : α → κ) (rows : List α) :
    (orderBy key rows).Pairwise fun a b => key a ≤ key b :=
  let : Std.Total fun a b : α => key a ≤ key b := ⟨fun a b => le_total (key a) (key b)⟩
  let : IsTrans α fun a b => key a ≤ key b := ⟨fun _ _ _ => le_trans⟩
  List.pairwise_insertionSort _ rows

theorem orderBy_strict (h : (rows.map key).Nodup) : (orderBy key rows).Pairwise fun a b => key a < key b := by
  have hn : ((orderBy key rows).map key).Nodup := ((orderBy_perm key rows).map key).nodup_iff.mpr h
  have hne : (orderBy key rows).Pairwise fun a b => key a ≠ key b := List.pairwise_map.mp hn
  exact ((orderBy_pairwise key rows).and hne).imp fun hab => lt_of_le_of_ne hab.1 hab.2

/-- A strictly sorted list is known by its rows. -/
theorem eq_orderBy (hs : rows'.Pairwise fun a b => key a < key b) (h : (rows.map key).Nodup)
    (hmem : ∀ a, a ∈ rows' ↔ a ∈ rows) : rows' = orderBy key rows := by
  let : Std.Antisymm fun a b : α => key a < key b := ⟨fun _ _ hab hba => absurd hba hab.asymm⟩
  let : Std.Irrefl fun a b : α => key a < key b := ⟨fun a => lt_irrefl (key a)⟩
  apply hs.eq_of_mem_iff (orderBy_strict h)
  intro a
  rw [hmem, mem_orderBy]

theorem orderBy_eq_of_mem (h : (rows.map key).Nodup) (h' : (rows'.map key).Nodup)
    (hmem : ∀ a, a ∈ rows ↔ a ∈ rows') : orderBy key rows = orderBy key rows' :=
  eq_orderBy (orderBy_strict h) h' fun a => mem_orderBy.trans (hmem a)

theorem orderBy_congr (hkey : ∀ a ∈ rows, ∀ b ∈ rows, key a < key b ↔ key' a < key' b) :
    orderBy key rows = orderBy key' rows := by
  have hle : ∀ a ∈ rows, ∀ b ∈ rows, key a ≤ key b ↔ key' a ≤ key' b := by
    intro a ha b hb
    rw [← not_lt, ← not_lt, hkey b hb a ha]
  have hmap := List.map_insertionSort (fun a b => key a ≤ key b) (fun a b => key' a ≤ key' b) id rows hle
  rwa [List.map_id, List.map_id] at hmap

theorem map_orderBy (f : β → α) (rows : List β) :
    (orderBy (fun b => key (f b)) rows).map f = orderBy key (rows.map f) :=
  List.map_insertionSort _ _ f rows fun _ _ _ _ => Iff.rfl

theorem filter_orderBy (p : α → Bool) (h : (rows.map key).Nodup) :
    (orderBy key rows).filter p = orderBy key (rows.filter p) := by
  apply eq_orderBy ((orderBy_strict h).filter p) (h.sublist (List.filter_sublist.map key))
  simp

theorem mem_below {bound : κ} : a ∈ below key rows bound ↔ a ∈ rows ∧ key a < bound := by
  simp [below]

theorem below_map (f : β → α) (rows : List β) (bound : κ) :
    below key (rows.map f) bound = (below (fun b => key (f b)) rows bound).map f := by
  rw [below, below, map_orderBy, List.filter_map]
  rfl

theorem mem_withPreceding : (before, row) ∈ withPreceding rows' rows ↔
    ∃ front back, rows = front ++ row :: back ∧ before = rows' ++ front := by
  induction rows generalizing rows' with
  | nil => simp [withPreceding]
  | cons head rest ih =>
      rw [withPreceding, List.mem_cons, ih]
      constructor
      · rintro (he | ⟨front, back, rfl, rfl⟩)
        · obtain ⟨rfl, rfl⟩ := Prod.ext_iff.mp he
          exact ⟨[], rest, rfl, (List.append_nil _).symm⟩
        · exact ⟨head :: front, back, rfl, by simp⟩
      · rintro ⟨front, back, he, rfl⟩
        cases front with
        | nil =>
            obtain ⟨rfl, rfl⟩ := List.cons.inj he
            exact .inl (by simp)
        | cons other front =>
            obtain ⟨rfl, rfl⟩ := List.cons.inj he
            exact .inr ⟨front, back, rfl, by simp⟩

theorem withPreceding_rows (before rows : List α) : (withPreceding before rows).map Prod.snd = rows := by
  induction rows generalizing before with
  | nil => rfl
  | cons row rest ih => rw [withPreceding, List.map_cons, ih]

/-- In a sorted table the rows above a row are the rows below its key. -/
theorem mem_withPreceding_orderBy (h : (rows.map key).Nodup) :
    (before, row) ∈ withPreceding [] (orderBy key rows) ↔ row ∈ rows ∧ before = below key rows (key row) := by
  have hfront : ∀ front back, orderBy key rows = front ++ row :: back → front = below key rows (key row) := by
    intro front back he
    have hs := orderBy_strict h
    rw [he] at hs
    obtain ⟨hsf, hsb, hfb⟩ := List.pairwise_append.mp hs
    apply eq_orderBy hsf (h.sublist (List.filter_sublist.map key))
    intro a
    rw [List.mem_filter, ← (orderBy_perm key rows).mem_iff, he, List.mem_append, List.mem_cons,
      decide_eq_true_eq]
    constructor
    · intro ha
      exact ⟨.inl ha, hfb a ha row List.mem_cons_self⟩
    · rintro ⟨ha | rfl | ha, hlt⟩
      · exact ha
      · exact absurd hlt (lt_irrefl _)
      · exact absurd hlt ((List.pairwise_cons.mp hsb).1 a ha).asymm
  rw [mem_withPreceding]
  constructor
  · rintro ⟨front, back, he, hbefore⟩
    have hrow : row ∈ orderBy key rows := by simp [he]
    exact ⟨mem_orderBy.mp hrow, hbefore.trans (hfront front back he)⟩
  · rintro ⟨hrow, rfl⟩
    obtain ⟨front, back, he⟩ := List.append_of_mem ((orderBy_perm key rows).mem_iff.mpr hrow)
    exact ⟨front, back, he, (hfront front back he).symm⟩

/-- A column computed from the rows above is a function of the rows below the key. -/
theorem mem_map_withPreceding {column : List α → α → β} {value : β} (h : (rows.map key).Nodup) :
    (row, value) ∈ (withPreceding [] (orderBy key rows)).map (fun r => (r.2, column r.1 r.2)) ↔
      row ∈ rows ∧ value = column (below key rows (key row)) row := by
  rw [List.mem_map]
  constructor
  · rintro ⟨⟨before, row⟩, hmem, he⟩
    obtain ⟨rfl, rfl⟩ := Prod.mk.inj he
    obtain ⟨hrow, rfl⟩ := (mem_withPreceding_orderBy h).mp hmem
    exact ⟨hrow, rfl⟩
  · rintro ⟨hrow, rfl⟩
    exact ⟨(_, row), (mem_withPreceding_orderBy h).mpr ⟨hrow, rfl⟩, rfl⟩

theorem map_fst_withPreceding (column : List α → α → β) (rows : List α) :
    ((withPreceding [] rows).map fun r => (r.2, column r.1 r.2)).map Prod.fst = rows := by
  rw [List.map_map]
  exact withPreceding_rows [] rows

/-- A finer key cuts the same rows out of a coarser group. -/
theorem filter_key_filter {γ δ : Type} [DecidableEq γ] [DecidableEq δ] {coarse : α → γ} {fine : α → δ}
    (rows : List α) (h : ∀ a, fine a = fine row → coarse a = coarse row) :
    (rows.filter fun a => coarse a = coarse row).filter (fun a => fine a = fine row) =
      rows.filter fun a => fine a = fine row := by
  rw [List.filter_filter]
  apply List.filter_congr
  intro a _
  by_cases hf : fine a = fine row
  · simp [hf, h a hf]
  · simp [hf]

/-- There is a row of every rank. -/
theorem exists_rank (h : (rows.map key).Nodup) {k : Nat} (hk : k < rows.length) :
    ∃ a ∈ rows, (below key rows (key a)).length = k := by
  have hlen : k < (orderBy key rows).length := by rwa [(orderBy_perm key rows).length_eq]
  have he := List.take_append_drop k (orderBy key rows)
  rw [List.drop_eq_getElem_cons hlen] at he
  have hmem := mem_withPreceding.mpr ⟨_, _, he.symm, (List.nil_append _).symm⟩
  obtain ⟨hrow, hbelow⟩ := (mem_withPreceding_orderBy h).mp hmem
  refine ⟨_, hrow, ?_⟩
  rw [← hbelow, List.length_take_of_le hlen.le]

theorem below_length_lt (ha : a ∈ rows) (hab : key a < key b) :
    (below key rows (key a)).length < (below key rows (key b)).length := by
  have hlen : ∀ bound, (below key rows bound).length = rows.countP (key · < bound) := by
    intro bound
    rw [below, (orderBy_perm key _).length_eq, List.countP_eq_length_filter]
  rw [hlen, hlen]
  have hsplit := (rows.filter (key · < key b)).length_eq_countP_add_countP (key · < key a)
  rw [← List.countP_eq_length_filter] at hsplit
  have hbelow : (rows.filter (key · < key b)).countP (key · < key a) = rows.countP (key · < key a) := by
    rw [List.countP_filter]
    apply List.countP_congr
    intro x _
    simp only [Bool.and_eq_true, decide_eq_true_eq]
    exact ⟨And.left, fun hx => ⟨hx, hx.trans hab⟩⟩
  rw [hsplit, hbelow]
  apply Nat.lt_add_of_pos_right
  rw [List.countP_pos_iff]
  exact ⟨a, by simp [ha, hab]⟩

/-- Two keys that give every row the same rank sort the rows in the same way. -/
theorem lt_iff_of_rank (h : (rows.map key).Nodup) (h' : (rows.map key').Nodup)
    (hrank : ∀ a ∈ rows, (below key rows (key a)).length = (below key' rows (key' a)).length)
    (ha : a ∈ rows) (hb : b ∈ rows) : key a < key b ↔ key' a < key' b := by
  constructor
  · intro hab
    by_contra hn
    rcases lt_or_eq_of_le (not_lt.mp hn) with hba | he
    · have hlt := below_length_lt ha hab
      have hgt := below_length_lt hb hba
      rw [hrank a ha, hrank b hb] at hlt
      exact absurd hlt hgt.asymm
    · rw [List.inj_on_of_nodup_map h' hb ha he] at hab
      exact lt_irrefl _ hab
  · intro hab
    by_contra hn
    rcases lt_or_eq_of_le (not_lt.mp hn) with hba | he
    · have hlt := below_length_lt hb hba
      have hgt := below_length_lt ha hab
      rw [hrank a ha, hrank b hb] at hlt
      exact absurd hlt hgt.asymm
    · rw [List.inj_on_of_nodup_map h hb ha he] at hab
      exact lt_irrefl _ hab

end RevenueRescue.Window
