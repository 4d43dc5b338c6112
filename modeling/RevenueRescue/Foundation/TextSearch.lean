import Mathlib.Data.List.Infix
import RevenueRescue.Foundation.Text

namespace RevenueRescue.Text

variable {p t u rest a b : Text} {c first last : Char} {match? : Text → Option (Nat × Text)}

theorem isPrefixOf?_eq_some : p.isPrefixOf? t = some rest ↔ t = p ++ rest := by
  induction p generalizing t with
  | nil => simp [List.isPrefixOf?, eq_comm]
  | cons x p ih =>
      cases t with
      | nil => simp [List.isPrefixOf?]
      | cons y t =>
          by_cases h : x = y
          · simp [List.isPrefixOf?, h, ih]
          · simp [List.isPrefixOf?, h, Ne.symm h]

theorem isPrefixOf?_eq_none : p.isPrefixOf? t = none ↔ ¬ p <+: t := by
  rw [Option.eq_none_iff_forall_ne_some]
  constructor
  · rintro h ⟨rest, rfl⟩
    exact h rest (isPrefixOf?_eq_some.mpr rfl)
  · intro h rest hr
    exact h ⟨rest, (isPrefixOf?_eq_some.mp hr).symm⟩

theorem cut_eq_none (hp : p ≠ []) : cut p t = none ↔ ¬ p <:+: t := by
  induction t with
  | nil => simp [cut, hp]
  | cons c t ih =>
      rw [List.infix_cons_iff, not_or, ← isPrefixOf?_eq_none, ← ih, cut]
      cases p.isPrefixOf? (c :: t) <;> simp

theorem occurs_eq_false (hp : p ≠ []) : occurs p t = false ↔ ¬ p <:+: t := by
  rw [← cut_eq_none hp, occurs, Option.isSome_eq_false_iff, Option.isNone_iff_eq_none]

/-- The text before the first occurrence has none of its own. -/
theorem cut_eq_some (hp : p ≠ []) (h : cut p t = some (a, b)) : t = a ++ (p ++ b) ∧ ¬ p <:+: a := by
  induction t generalizing a with
  | nil => cases h
  | cons c t ih =>
      rw [cut] at h
      cases hc : p.isPrefixOf? (c :: t) with
      | some rest =>
          rw [hc, Option.some.injEq, Prod.mk.injEq] at h
          obtain ⟨rfl, rfl⟩ := h
          have htext : c :: t = p ++ rest := isPrefixOf?_eq_some.mp hc
          exact ⟨htext, by simp [hp]⟩
      | none =>
          rw [hc] at h
          obtain ⟨⟨a', b'⟩, ha, he⟩ := Option.map_eq_some_iff.mp h
          rw [Prod.mk.injEq] at he
          obtain ⟨rfl, rfl⟩ := he
          obtain ⟨rfl, hnot⟩ := ih ha
          refine ⟨rfl, fun hi => ?_⟩
          rcases List.infix_cons_iff.mp hi with hi | hi
          · have hlong : c :: a' <+: c :: (a' ++ (p ++ b')) := ⟨p ++ b', rfl⟩
            exact isPrefixOf?_eq_none.mp hc (hi.trans hlong)
          · exact hnot hi

theorem splitFrom_ne_nil (k : Nat) (t : Text) : splitFrom p k t ≠ [] := by
  induction t generalizing k with
  | nil => simp [splitFrom]
  | cons c t ih =>
      cases k with
      | succ k => exact ih k
      | zero =>
          rw [splitFrom]
          split
          · exact List.cons_ne_nil _ _
          · split <;> exact List.cons_ne_nil _ _

theorem splitFrom_single (h : splitFrom p 0 t = [u]) : u = t := by
  induction t generalizing u with
  | nil => simpa [splitFrom, eq_comm] using h
  | cons c t ih =>
      rw [splitFrom] at h
      split at h
      · exact absurd (List.cons.inj h).2 (splitFrom_ne_nil _ _)
      · split at h
        · rename_i piece pieces hs
          obtain ⟨rfl, rfl⟩ := List.cons.inj h
          rw [ih hs]
        · rename_i hs
          exact absurd hs (splitFrom_ne_nil _ _)

/-- The last piece of a split is an end of the text without the separator. -/
theorem splitFrom_last (hp : p ≠ []) (k : Nat) (t : Text) :
    ∃ l, (splitFrom p k t).getLast? = some l ∧ l <:+ t ∧ ¬ p <:+: l := by
  induction t generalizing k with
  | nil => exact ⟨[], rfl, List.suffix_rfl, by simp [hp]⟩
  | cons c t ih =>
      cases k with
      | succ k =>
          obtain ⟨l, hl, hs, hn⟩ := ih k
          exact ⟨l, hl, hs.trans (List.suffix_cons c t), hn⟩
      | zero =>
          rw [splitFrom]
          split
          · obtain ⟨l, hl, hs, hn⟩ := ih (p.length - 1)
            refine ⟨l, ?_, hs.trans (List.suffix_cons c t), hn⟩
            rw [List.getLast?_cons, hl, Option.getD_some]
          · rename_i hfront
            obtain ⟨l, hl, hs, hn⟩ := ih 0
            split
            · rename_i piece pieces hpieces
              cases pieces with
              | nil =>
                  obtain rfl := splitFrom_single hpieces
                  rw [hpieces] at hl
                  obtain rfl : piece = l := Option.some.inj hl
                  refine ⟨c :: piece, rfl, List.suffix_rfl, fun hi => ?_⟩
                  rcases List.infix_cons_iff.mp hi with hi | hi
                  · exact hfront (List.isPrefixOf_iff_prefix.mpr hi)
                  · exact hn hi
              | cons other pieces =>
                  rw [hpieces] at hl
                  exact ⟨l, by simpa using hl, hs.trans (List.suffix_cons c t), hn⟩
            · rename_i hpieces
              exact absurd hpieces (splitFrom_ne_nil _ _)

theorem sub_eq_self (h : ∀ u, u <:+ t → match? u = none) : sub match? t = t := by
  unfold sub
  induction t with
  | nil => rfl
  | cons c t ih =>
      rw [subFrom, h _ List.suffix_rfl]
      exact congrArg (c :: ·) (ih fun u hu => h u (hu.trans (List.suffix_cons c t)))

theorem subFrom_skip (u v : Text) : subFrom match? u.length (u ++ v) = subFrom match? 0 v := by
  induction u with
  | nil => rfl
  | cons c u ih => exact ih

/-- A match in front is replaced, and the scan goes on behind it. -/
theorem sub_append {replacement : Text} (hu : u ≠ []) (h : match? (u ++ t) = some (u.length, replacement)) :
    sub match? (u ++ t) = replacement ++ sub match? t := by
  obtain ⟨c, u, rfl⟩ := List.exists_cons_of_ne_nil hu
  rw [List.cons_append] at h
  rw [sub, List.cons_append, subFrom, h]
  exact congrArg (replacement ++ ·) (subFrom_skip u t)

theorem strip_isInfix (t : Text) : strip t <:+: t :=
  (List.rdropWhile_prefix isSpace (lstrip t)).isInfix.trans (List.dropWhile_suffix isSpace).isInfix

theorem strip_eq_self (hfirst : ∀ c ∈ t.head?, isSpace c = false) (hlast : ∀ c ∈ t.getLast?, isSpace c = false) :
    strip t = t := by
  have hl : lstrip t = t := by
    cases t with
    | nil => rfl
    | cons c t => exact List.dropWhile_cons_of_neg (by simp [hfirst c rfl])
  change (lstrip t).rdropWhile isSpace = t
  rw [hl, List.rdropWhile_eq_self_iff]
  intro hne
  simp [hlast _ (List.getLast?_eq_some_getLast hne)]

theorem between_isInfix (first last : Char) (t : Text) : between first last t <:+: t :=
  (List.rdropWhile_prefix _ (t.dropWhile _)).isInfix.trans (List.dropWhile_suffix _).isInfix

/-- A text that starts and ends with the two characters is all there is between them. -/
theorem between_eq_self (hfirst : t.head? = some first) (hlast : t.getLast? = some last) :
    between first last t = t := by
  have hf : t.dropWhile (fun c => decide (c ≠ first)) = t := by
    cases t with
    | nil => rfl
    | cons c t => exact List.dropWhile_cons_of_neg (by simpa using hfirst)
  change List.rdropWhile (fun c => decide (c ≠ last)) (t.dropWhile _) = t
  rw [hf, List.rdropWhile_eq_self_iff]
  intro hne
  have h := List.getLast?_eq_some_getLast hne
  rw [hlast, Option.some.injEq] at h
  simp [← h]

theorem between_bounds (h : between first last t ≠ []) :
    (between first last t).head? = some first ∧ (between first last t).getLast? = some last := by
  have hfront : between first last t <+: t.dropWhile (fun c => decide (c ≠ first)) :=
    List.rdropWhile_prefix _ _
  have hd : t.dropWhile (fun c => decide (c ≠ first)) ≠ [] := fun he => by
    rw [he, List.prefix_nil] at hfront
    exact h hfront
  constructor
  · have hhead := List.head_dropWhile_not (fun c => decide (c ≠ first)) hd
    rw [List.head?_eq_some_head h, hfront.head h]
    simpa using hhead
  · have hlast := List.rdropWhile_last_not (fun c => decide (c ≠ last)) (t.dropWhile fun c => decide (c ≠ first)) h
    rw [List.getLast?_eq_some_getLast h]
    exact congrArg some (not_not.mp fun hne => hlast (decide_eq_true hne))

end RevenueRescue.Text
