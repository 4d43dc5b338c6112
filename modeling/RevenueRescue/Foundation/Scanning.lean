import RevenueRescue.Foundation.TextSearch

namespace RevenueRescue.Text

/-- `re.search`, for a matcher of texts that start with a match. -/
def search {α : Type} (here : Text → Option α) : Text → Option α
  | [] => here []
  | c :: cs => (here (c :: cs)).or (search here cs)

/-- The two texts differ at a place that both have. -/
def clashes : Text → Text → Bool
  | x :: xs, y :: ys => decide (x ≠ y) || clashes xs ys
  | _, _ => false

/-- The pattern does not start in the text, whatever stands behind it. -/
def clear (pattern : Text) : Text → Bool
  | [] => true
  | c :: cs => clashes pattern (c :: cs) && clear pattern cs

/-- `str.format`, in pieces: the fixed parts of a template with the values between them. -/
def fill : List String → List Text → List Text
  | part :: parts, value :: values => part.toList :: value :: fill parts values
  | parts, [] => parts.map String.toList
  | [], values => values

variable {α : Type} {p t u v rest a b : Text} {c : Char} {here : Text → Option α} {found : α}

theorem not_prefix_of_clashes (h : clashes p t = true) : ¬ p <+: t ++ rest := by
  induction p generalizing t with
  | nil => cases h
  | cons x p ih =>
      cases t with
      | nil => cases h
      | cons y t =>
          rw [List.cons_append, List.cons_prefix_cons]
          rintro ⟨rfl, hp⟩
          rw [clashes, decide_eq_false (not_not.mpr rfl), Bool.false_or] at h
          exact ih h hp

theorem clashes_append (h : clashes p t = true) (rest : Text) : clashes p (t ++ rest) = true := by
  induction p generalizing t with
  | nil => cases h
  | cons x p ih =>
      cases t with
      | nil => cases h
      | cons y t =>
          rw [clashes, Bool.or_eq_true] at h
          rw [List.cons_append, clashes, Bool.or_eq_true]
          exact h.imp_right ih

theorem clear_nil : clear p [] = true := rfl

theorem clear_append (ha : clear p a = true) (hb : clear p b = true) : clear p (a ++ b) = true := by
  induction a with
  | nil => exact hb
  | cons c a ih =>
      rw [clear, Bool.and_eq_true] at ha
      rw [List.cons_append, clear, Bool.and_eq_true]
      exact ⟨clashes_append ha.1 b, ih ha.2⟩

/-- Where the first character of the pattern is missing, the pattern cannot start. -/
theorem clear_of_notMem (h : c ∉ t) : clear (c :: p) t = true := by
  induction t with
  | nil => rfl
  | cons x t ih =>
      rw [List.mem_cons, not_or] at h
      rw [clear, clashes, decide_eq_true h.1, Bool.true_or, Bool.true_and]
      exact ih h.2

theorem not_prefix_of_clear (h : clear p t = true) (hu : u <:+ t) (hne : u ≠ []) : ¬ p <+: u ++ rest := by
  induction t with
  | nil => exact absurd (List.suffix_nil.mp hu) hne
  | cons c t ih =>
      rw [clear, Bool.and_eq_true] at h
      rcases List.suffix_cons_iff.mp hu with rfl | hu
      · exact not_prefix_of_clashes h.1
      · exact ih h.2 hu

theorem occurs_of_clear (hp : p ≠ []) (h : clear p t = true) : occurs p t = false := by
  rw [occurs_eq_false hp, List.infix_iff_prefix_suffix]
  rintro ⟨u, hpu, hu⟩
  have hne : u ≠ [] := by
    rintro rfl
    exact hp (List.prefix_nil.mp hpu)
  have hnot : ¬ p <+: u ++ [] := not_prefix_of_clear h hu hne
  rw [List.append_nil] at hnot
  exact hnot hpu

theorem occurs_of_infix (hp : p ≠ []) (h : p <:+: t) : occurs p t = true := by
  rw [← Bool.not_eq_false, occurs_eq_false hp, not_not]
  exact h

theorem search_append (h : ∀ u, u <:+ t → u ≠ [] → here (u ++ rest) = none) :
    search here (t ++ rest) = search here rest := by
  induction t with
  | nil => rfl
  | cons c t ih =>
      have hfront := h (c :: t) List.suffix_rfl (List.cons_ne_nil c t)
      rw [List.cons_append] at hfront
      rw [List.cons_append, search, hfront, Option.none_or]
      exact ih fun u hu hne => h u (hu.trans (List.suffix_cons c t)) hne

theorem search_found (h : here t = some found) : search here t = some found := by
  cases t with
  | nil => exact h
  | cons c t => rw [search, h, Option.some_or]

/-- None of the patterns starts in the text, whatever stands behind it. -/
def Clear (ps : List Text) (t : Text) : Prop := ∀ p ∈ ps, clear p t = true

instance (ps : List Text) (t : Text) : Decidable (Clear ps t) := inferInstanceAs (Decidable (∀ p ∈ ps, _))

variable {ps : List Text}

theorem Clear.append (ha : Clear ps a) (hb : Clear ps b) : Clear ps (a ++ b) :=
  fun p hp => clear_append (ha p hp) (hb p hp)

/-- The first characters of the patterns. -/
def firsts (ps : List Text) : Text := ps.filterMap List.head?

theorem Clear.of_notMem (hps : [] ∉ ps) (h : ∀ c ∈ t, c ∉ firsts ps) : Clear ps t := by
  intro p hp
  cases p with
  | nil => exact absurd hp hps
  | cons c p => exact clear_of_notMem fun hc => h c hc (List.mem_filterMap.mpr ⟨c :: p, hp, rfl⟩)

theorem Clear.mono {qs : List Text} (h : Clear ps t) (hqs : ∀ q ∈ qs, q ∈ ps) : Clear qs t := fun q hq => h q (hqs q hq)

/-- A text in pieces, none of which a pattern starts in. -/
def AllClear (ps : List Text) (ts : List Text) : Prop := ∀ t ∈ ts, Clear ps t

instance (ps ts : List Text) : Decidable (AllClear ps ts) := inferInstanceAs (Decidable (∀ t ∈ ts, Clear ps t))

variable {ts us : List Text}

theorem AllClear.nil : AllClear ps [] := fun _ ht => absurd ht List.not_mem_nil

theorem AllClear.cons (h : Clear ps t) (hs : AllClear ps ts) : AllClear ps (t :: ts) := List.forall_mem_cons.mpr ⟨h, hs⟩

theorem AllClear.append (ht : AllClear ps ts) (hu : AllClear ps us) : AllClear ps (ts ++ us) :=
  List.forall_mem_append.mpr ⟨ht, hu⟩

theorem AllClear.mono {qs : List Text} (h : AllClear ps ts) (hqs : ∀ q ∈ qs, q ∈ ps) : AllClear qs ts :=
  fun t ht => (h t ht).mono hqs

theorem AllClear.flatten (h : AllClear ps ts) : Clear ps ts.flatten := by
  induction ts with
  | nil => exact fun _ _ => clear_nil
  | cons t ts ih =>
      rw [AllClear, List.forall_mem_cons] at h
      exact h.1.append (ih h.2)

theorem AllClear.fill {parts : List String} {values : List Text} (hp : AllClear ps (parts.map String.toList))
    (hv : AllClear ps values) : AllClear ps (Text.fill parts values) := by
  induction parts generalizing values with
  | nil => cases values <;> exact hv
  | cons part parts ih =>
      cases values with
      | nil => exact hp
      | cons value values =>
          rw [List.map_cons, AllClear, List.forall_mem_cons] at hp
          rw [AllClear, List.forall_mem_cons] at hv
          exact .cons hp.1 (.cons hv.1 (ih hp.2 hv.2))

theorem part_mem_fill {part : String} {parts : List String} (h : part ∈ parts) (values : List Text) :
    part.toList ∈ Text.fill parts values := by
  induction parts generalizing values with
  | nil => exact absurd h List.not_mem_nil
  | cons head parts ih =>
      cases values with
      | nil => exact List.mem_map_of_mem h
      | cons value values =>
          rcases List.mem_cons.mp h with rfl | h
          · exact List.mem_cons_self
          · exact List.mem_cons_of_mem _ (List.mem_cons_of_mem _ (ih h values))

theorem value_mem_fill {value : Text} {values : List Text} (h : value ∈ values) (parts : List String) :
    value ∈ Text.fill parts values := by
  induction parts generalizing values with
  | nil =>
      cases values with
      | nil => exact absurd h List.not_mem_nil
      | cons head values => exact h
  | cons part parts ih =>
      cases values with
      | nil => exact absurd h List.not_mem_nil
      | cons head values =>
          rcases List.mem_cons.mp h with rfl | h
          · exact List.mem_cons_of_mem _ List.mem_cons_self
          · exact List.mem_cons_of_mem _ (List.mem_cons_of_mem _ (ih h))

/-- The texts are those of the strings, so that a decision about them need not decode the strings. -/
inductive Spelled : List String → List Text → Prop
  | nil : Spelled [] []
  | cons {s : String} {t : Text} {ss : List String} {ts : List Text} (hs : s = String.ofList t) (h : Spelled ss ts) :
      Spelled (s :: ss) (t :: ts)

theorem Spelled.map_toList {ss : List String} (h : Spelled ss ts) : ss.map String.toList = ts := by
  induction h with
  | nil => rfl
  | cons hs _ ih => rw [List.map_cons, hs, String.toList_ofList, ih]

/-- Every match starts with one of the patterns. -/
def Starts (here : Text → Option α) (ps : List Text) : Prop := ∀ t, (∀ p ∈ ps, ¬ p <+: t) → here t = none

theorem Starts.search_skip (hh : Starts here ps) (h : Clear ps t) (rest : Text) :
    search here (t ++ rest) = search here rest :=
  search_append fun _ hu hne => hh _ fun p hp => not_prefix_of_clear (h p hp) hu hne

theorem Starts.search_none (hh : Starts here ps) (hps : [] ∉ ps) (h : Clear ps t) : search here t = none := by
  have hskip := hh.search_skip h []
  rw [List.append_nil] at hskip
  rw [hskip]
  exact hh [] fun p hp hpre => hps (List.prefix_nil.mp hpre ▸ hp)

end RevenueRescue.Text
