import RevenueRescue.Agents.LlmOutput
import RevenueRescue.Foundation.TextSearch

namespace RevenueRescue.LlmCleaning

open Text LlmOutput

/-- No tag of the reasoning is left. -/
structure Untagged (text : Text) : Prop where
  opening : ¬ openTag <:+: text
  closing : ¬ closeTag <:+: text

/-- What `clean_deepseek_reasoning_output` does to a text whose reasoning is gone. -/
def extract (text : Text) : Text :=
  match findFenced text with
  | some body => strip body
  | none =>
      match between '{' '}' text with
      | [] => text
      | found => strip found

variable {t u z body : Text}

theorem Untagged.mono (h : Untagged t) (hu : u <:+: t) : Untagged u :=
  ⟨fun hi => h.opening (hi.trans hu), fun hi => h.closing (hi.trans hu)⟩

theorem cleanDeepseekReasoningOutput_eq (raw : Text) :
    cleanDeepseekReasoningOutput raw = extract (removeReasoning raw) := by
  unfold cleanDeepseekReasoningOutput
  split
  · rename_i h
    subst h
    rfl
  · rfl

/-- The text in front of the first opening tag, or all of it. -/
def beforeReasoning (text : Text) : Text :=
  match cut openTag text with
  | some (before, _) => before
  | none => text

def afterReasoning (text : Text) : Text :=
  if occurs closeTag text then ((split closeTag text).getLast?).getD [] else text

theorem removeReasoning_eq (raw : Text) :
    removeReasoning raw = strip (afterReasoning (beforeReasoning (sub thinkBlock raw))) := rfl

theorem beforeReasoning_opening (t : Text) : ¬ openTag <:+: beforeReasoning t := by
  unfold beforeReasoning
  cases h : cut openTag t with
  | none => exact (cut_eq_none (by decide)).mp h
  | some parts => exact (cut_eq_some (by decide) h).2

theorem afterReasoning_spec (t : Text) : afterReasoning t <:+ t ∧ ¬ closeTag <:+: afterReasoning t := by
  unfold afterReasoning
  split
  · obtain ⟨l, hl, hs, hn⟩ := splitFrom_last (p := closeTag) (by decide) 0 t
    rw [split, hl]
    exact ⟨hs, hn⟩
  · rename_i h
    exact ⟨List.suffix_rfl, (occurs_eq_false (by decide)).mp (by simpa using h)⟩

theorem removeReasoning_untagged (raw : Text) : Untagged (removeReasoning raw) := by
  obtain ⟨hs, hn⟩ := afterReasoning_spec (beforeReasoning (sub thinkBlock raw))
  rw [removeReasoning_eq]
  refine Untagged.mono ⟨fun hi => ?_, hn⟩ (strip_isInfix _)
  exact beforeReasoning_opening _ (hi.trans hs.isInfix)

theorem sub_thinkBlock (h : ¬ openTag <:+: t) : sub thinkBlock t = t := by
  refine sub_eq_self fun u hu => ?_
  have hnone : openTag.isPrefixOf? u = none :=
    isPrefixOf?_eq_none.mpr fun hp => h (hp.isInfix.trans hu.isInfix)
  rw [thinkBlock, hnone]
  rfl

theorem beforeReasoning_eq_self (h : ¬ openTag <:+: t) : beforeReasoning t = t := by
  rw [beforeReasoning, (cut_eq_none (by decide)).mpr h]

theorem removeReasoning_of_untagged (h : Untagged t) : removeReasoning t = strip t := by
  have hafter : afterReasoning t = t := by
    rw [afterReasoning, (occurs_eq_false (by decide)).mpr h.closing, if_neg Bool.false_ne_true]
  rw [removeReasoning_eq, sub_thinkBlock h.opening, beforeReasoning_eq_self h.opening, hafter]

theorem lstrip_append (h : lstrip t ≠ []) (z : Text) : lstrip (t ++ z) = lstrip t ++ z := by
  induction t with
  | nil => exact absurd rfl h
  | cons c t ih =>
      unfold lstrip at *
      by_cases hc : isSpace c = true
      · rw [List.dropWhile_cons_of_pos hc] at h ⊢
        rw [List.cons_append, List.dropWhile_cons_of_pos hc]
        exact ih h
      · rw [List.dropWhile_cons_of_neg hc, List.cons_append, List.dropWhile_cons_of_neg hc]

/-- A brace that a fence follows, with only blanks between them. -/
def Closes (c : Char) (rest : Text) : Prop := c = '}' ∧ fence <+: lstrip rest

theorem Closes.append {c : Char} (h : Closes c t) (z : Text) : Closes c (t ++ z) := by
  have hne : lstrip t ≠ [] := fun he => by
    have hfence := h.2
    rw [he, List.prefix_nil] at hfence
    cases hfence
  refine ⟨h.1, ?_⟩
  rw [lstrip_append hne]
  exact h.2.trans (List.prefix_append _ _)

theorem closeFence_cons (c : Char) (t : Text) :
    (Closes c t ∧ closeFence (c :: t) = some ['}']) ∨
      (¬ Closes c t ∧ closeFence (c :: t) = (closeFence t).map (c :: ·)) := by
  rw [closeFence]
  split
  · rename_i h
    exact .inl ⟨⟨h.1, List.isPrefixOf_iff_prefix.mp h.2⟩, rfl⟩
  · rename_i h
    exact .inr ⟨fun hc => h ⟨hc.1, List.isPrefixOf_iff_prefix.mpr hc.2⟩, rfl⟩

theorem closeFence_eq_none : closeFence t = none ↔ ∀ c u, c :: u <:+ t → ¬ Closes c u := by
  induction t with
  | nil => simp [closeFence]
  | cons x t ih =>
      rcases closeFence_cons x t with ⟨hx, he⟩ | ⟨hx, he⟩
      · rw [he]
        simp only [reduceCtorEq, false_iff]
        exact fun h => h x t List.suffix_rfl hx
      · rw [he, Option.map_eq_none_iff, ih]
        constructor
        · intro h c u hs
          rcases List.suffix_cons_iff.mp hs with hs | hs
          · obtain ⟨rfl, rfl⟩ := List.cons.inj hs
            exact hx
          · exact h c u hs
        · exact fun h c u hs => h c u (hs.trans (List.suffix_cons x t))

theorem closeFence_some (h : closeFence t = some body) :
    body <+: t ∧ body.getLast? = some '}' ∧ closeFence body = none := by
  induction t generalizing body with
  | nil => cases h
  | cons c t ih =>
      rcases closeFence_cons c t with ⟨hc, he⟩ | ⟨hc, he⟩
      · obtain rfl : ['}'] = body := Option.some.inj (he.symm.trans h)
        rw [hc.1]
        exact ⟨⟨t, rfl⟩, rfl, rfl⟩
      · rw [he] at h
        obtain ⟨inner, hi, rfl⟩ := Option.map_eq_some_iff.mp h
        obtain ⟨hp, hl, hn⟩ := ih hi
        have hne : inner ≠ [] := fun h0 => by rw [h0] at hl; cases hl
        refine ⟨List.cons_prefix_cons.mpr ⟨rfl, hp⟩, by rw [List.getLast?_cons, hl, Option.getD_some], ?_⟩
        rcases closeFence_cons c inner with ⟨hc', -⟩ | ⟨-, he'⟩
        · obtain ⟨z, rfl⟩ := hp
          exact absurd (hc'.append z) hc
        · rw [he', hn, Option.map_none]

theorem closeFence_isInfix (h : closeFence t = none) (hu : u <:+: t) : closeFence u = none := by
  obtain ⟨a, z, rfl⟩ := hu
  refine closeFence_eq_none.mpr fun c v hs hc => ?_
  obtain ⟨x, rfl⟩ := hs
  refine closeFence_eq_none.mp h c (v ++ z) ⟨a ++ x, ?_⟩ (hc.append z)
  simp

/-- What a match of the fence pattern consists of. -/
theorem fencedHere_some (h : fencedHere t = some body) :
    ∃ rest cs inner, t = fence ++ rest ∧ lstrip ((jsonMark.isPrefixOf? rest).getD rest) = '{' :: cs ∧
      closeFence cs = some inner ∧ body = '{' :: inner := by
  unfold fencedHere at h
  cases hf : fence.isPrefixOf? t with
  | none => rw [hf] at h; cases h
  | some rest =>
      simp only [hf] at h
      split at h
      · rename_i cs hcs
        obtain ⟨inner, hi, rfl⟩ := Option.map_eq_some_iff.mp h
        exact ⟨rest, cs, inner, isPrefixOf?_eq_some.mp hf, hcs, hi, rfl⟩
      · cases h

theorem afterMark_suffix (rest : Text) : lstrip ((jsonMark.isPrefixOf? rest).getD rest) <:+ rest := by
  refine (List.dropWhile_suffix isSpace).trans ?_
  cases h : jsonMark.isPrefixOf? rest with
  | none => exact List.suffix_rfl
  | some after =>
      rw [isPrefixOf?_eq_some.mp h]
      exact List.suffix_append jsonMark after

theorem findFenced_eq_none : findFenced t = none ↔ ∀ u, u <:+ t → fencedHere u = none := by
  induction t with
  | nil => exact ⟨fun _ u hu => by rw [List.suffix_nil.mp hu]; rfl, fun _ => rfl⟩
  | cons c t ih =>
      rw [findFenced, Option.or_eq_none_iff, ih]
      constructor
      · rintro ⟨hc, ht⟩ u hu
        rcases List.suffix_cons_iff.mp hu with rfl | hu
        · exact hc
        · exact ht u hu
      · exact fun h => ⟨h _ List.suffix_rfl, fun u hu => h u (hu.trans (List.suffix_cons c t))⟩

theorem findFenced_some (h : findFenced t = some body) : ∃ u, u <:+ t ∧ fencedHere u = some body := by
  induction t with
  | nil => cases h
  | cons c t ih =>
      rw [findFenced, Option.or_eq_some_iff] at h
      rcases h with h | ⟨-, h⟩
      · exact ⟨_, List.suffix_rfl, h⟩
      · obtain ⟨u, hu, hb⟩ := ih h
        exact ⟨u, hu.trans (List.suffix_cons c t), hb⟩

/-- The group of the fence pattern is a part of the text between two braces
in which no brace is followed by a fence. -/
theorem findFenced_body (h : findFenced t = some body) :
    body <:+: t ∧ body.head? = some '{' ∧ body.getLast? = some '}' ∧ closeFence body = none := by
  obtain ⟨u, hu, hb⟩ := findFenced_some h
  obtain ⟨rest, cs, inner, rfl, hcs, hi, rfl⟩ := fencedHere_some hb
  obtain ⟨hp, hl, hn⟩ := closeFence_some hi
  have hbody : '{' :: inner <+: '{' :: cs := List.cons_prefix_cons.mpr ⟨rfl, hp⟩
  have hrest : '{' :: cs <:+ rest := hcs ▸ afterMark_suffix rest
  refine ⟨?_, rfl, by rw [List.getLast?_cons, hl, Option.getD_some], ?_⟩
  · exact hbody.isInfix.trans (hrest.trans ((List.suffix_append fence rest).trans hu)).isInfix
  · rcases closeFence_cons '{' inner with ⟨hc, -⟩ | ⟨-, he⟩
    · exact absurd hc.1 (by decide)
    · rw [he, hn, Option.map_none]

theorem findFenced_of_closeFence (h : closeFence t = none) : findFenced t = none := by
  refine findFenced_eq_none.mpr fun u hu => ?_
  by_contra hb
  obtain ⟨body, hb⟩ := Option.ne_none_iff_exists'.mp hb
  obtain ⟨rest, cs, inner, rfl, hcs, hi, rfl⟩ := fencedHere_some hb
  have hrest : '{' :: cs <:+ rest := hcs ▸ afterMark_suffix rest
  have hsuffix : cs <:+ t :=
    (List.suffix_cons '{' cs).trans (hrest.trans ((List.suffix_append fence rest).trans hu))
  rw [closeFence_isInfix h hsuffix.isInfix] at hi
  cases hi

theorem afterMark_append {cs : Text} (h : lstrip ((jsonMark.isPrefixOf? t).getD t) = '{' :: cs) (z : Text) :
    lstrip ((jsonMark.isPrefixOf? (t ++ z)).getD (t ++ z)) = '{' :: (cs ++ z) := by
  cases hm : jsonMark.isPrefixOf? t with
  | some after =>
      rw [hm, Option.getD_some] at h
      have hz : jsonMark.isPrefixOf? (t ++ z) = some (after ++ z) := by
        rw [isPrefixOf?_eq_some, isPrefixOf?_eq_some.mp hm, List.append_assoc]
      rw [hz, Option.getD_some, lstrip_append (by simp [h]), h, List.cons_append]
  | none =>
      rw [hm, Option.getD_none] at h
      have hz : jsonMark.isPrefixOf? (t ++ z) = none := by
        refine isPrefixOf?_eq_none.mpr fun hp => ?_
        cases t with
        | nil => cases h
        | cons c t =>
            -- A text that starts with the mark does not start with a brace, nor with blanks.
            obtain rfl : 'j' = c := (List.cons_prefix_cons.mp hp).1
            rw [lstrip, List.dropWhile_cons_of_neg (by decide)] at h
            exact absurd (List.cons.inj h).1 (by decide)
      rw [hz, Option.getD_none, lstrip_append (by simp [h]), h, List.cons_append]

theorem fencedHere_append (h : fencedHere t ≠ none) (z : Text) : fencedHere (t ++ z) ≠ none := by
  obtain ⟨body, hb⟩ := Option.ne_none_iff_exists'.mp h
  obtain ⟨rest, cs, inner, rfl, hcs, hi, -⟩ := fencedHere_some hb
  have hfence : fence.isPrefixOf? (fence ++ rest ++ z) = some (rest ++ z) :=
    isPrefixOf?_eq_some.mpr (List.append_assoc fence rest z)
  rw [fencedHere, hfence]
  simp only [afterMark_append hcs z, ne_eq, Option.map_eq_none_iff]
  intro hn
  rw [closeFence_isInfix hn (List.prefix_append cs z).isInfix] at hi
  cases hi

theorem findFenced_isInfix (h : findFenced t = none) (hu : u <:+: t) : findFenced u = none := by
  obtain ⟨a, z, rfl⟩ := hu
  refine findFenced_eq_none.mpr fun v ⟨x, hx⟩ => ?_
  by_contra hv
  refine fencedHere_append hv z (findFenced_eq_none.mp h (v ++ z) ⟨a ++ x, ?_⟩)
  simp [← hx]

theorem strip_braced (hfirst : t.head? = some '{') (hlast : t.getLast? = some '}') : strip t = t := by
  refine strip_eq_self (fun c hc => ?_) (fun c hc => ?_)
  · rw [hfirst, Option.mem_some_iff] at hc
    exact hc ▸ by decide
  · rw [hlast, Option.mem_some_iff] at hc
    exact hc ▸ by decide

theorem extract_fenced (h : findFenced t = some body) : extract t = body := by
  obtain ⟨-, hfirst, hlast, -⟩ := findFenced_body h
  rw [extract, h]
  exact strip_braced hfirst hlast

theorem extract_unfenced (h : findFenced t = none) :
    (between '{' '}' t = [] ∧ extract t = t) ∨
      (between '{' '}' t ≠ [] ∧ extract t = between '{' '}' t) := by
  rw [extract, h]
  cases hb : between '{' '}' t with
  | nil => exact .inl ⟨rfl, rfl⟩
  | cons c cs =>
      have hne : between '{' '}' t ≠ [] := by rw [hb]; exact List.cons_ne_nil c cs
      obtain ⟨hfirst, hlast⟩ := between_bounds hne
      rw [hb] at hfirst hlast
      exact .inr ⟨List.cons_ne_nil c cs, strip_braced hfirst hlast⟩

theorem extract_braced (hf : findFenced t = none) (hfirst : t.head? = some '{') (hlast : t.getLast? = some '}') :
    extract t = t := by
  rcases extract_unfenced hf with ⟨-, he⟩ | ⟨-, he⟩
  · exact he
  · rw [he, between_eq_self hfirst hlast]

theorem extract_isInfix (t : Text) : extract t <:+: t := by
  cases hf : findFenced t with
  | some body => exact extract_fenced hf ▸ (findFenced_body hf).1
  | none =>
      rcases extract_unfenced hf with ⟨-, he⟩ | ⟨-, he⟩
      · rw [he]
      · exact he ▸ between_isInfix '{' '}' t

/-- Each branch leaves a text that the same branch, or the last one, keeps. -/
theorem extract_extract (t : Text) : extract (extract t) = extract t := by
  cases hf : findFenced t with
  | some body =>
      obtain ⟨-, hfirst, hlast, hn⟩ := findFenced_body hf
      rw [extract_fenced hf]
      exact extract_braced (findFenced_of_closeFence hn) hfirst hlast
  | none =>
      rcases extract_unfenced hf with ⟨-, he⟩ | ⟨hne, he⟩
      · rw [he, he]
      · obtain ⟨hfirst, hlast⟩ := between_bounds hne
        rw [he]
        exact extract_braced (findFenced_isInfix hf (between_isInfix '{' '}' t)) hfirst hlast

theorem strip_extract (h : strip t = t) : strip (extract t) = extract t := by
  cases hf : findFenced t with
  | some body =>
      obtain ⟨-, hfirst, hlast, -⟩ := findFenced_body hf
      rw [extract_fenced hf, strip_braced hfirst hlast]
  | none =>
      rcases extract_unfenced hf with ⟨-, he⟩ | ⟨hne, he⟩
      · rw [he, h]
      · obtain ⟨hfirst, hlast⟩ := between_bounds hne
        rw [he, strip_braced hfirst hlast]

/-- Cleaning: a second pass changes nothing, and no tag of the reasoning is left. -/
theorem clean_idempotent (raw : Text) :
    cleanDeepseekReasoningOutput (cleanDeepseekReasoningOutput raw) = cleanDeepseekReasoningOutput raw ∧
      ¬ openTag <:+: cleanDeepseekReasoningOutput raw ∧ ¬ closeTag <:+: cleanDeepseekReasoningOutput raw := by
  have hbare : strip (removeReasoning raw) = removeReasoning raw := by rw [removeReasoning_eq, strip_strip]
  have htags : Untagged (extract (removeReasoning raw)) :=
    (removeReasoning_untagged raw).mono (extract_isInfix _)
  rw [cleanDeepseekReasoningOutput_eq raw]
  refine ⟨?_, htags.opening, htags.closing⟩
  rw [cleanDeepseekReasoningOutput_eq, removeReasoning_of_untagged htags, strip_extract hbare, extract_extract]

end RevenueRescue.LlmCleaning
