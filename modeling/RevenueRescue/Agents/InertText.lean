import RevenueRescue.Agents.LlmOutput
import RevenueRescue.Foundation.JsonCharacters

namespace RevenueRescue.InertText

open Text Json LlmOutput

/-- A text with nothing that the patterns look for: no tag, no closing brace
with a fence behind it, no comma with a closing bracket behind it. Blanks may
stand between the two. -/
structure Inert (blank : Char → Bool) (text : Text) : Prop where
  opening : ¬ openTag <:+: text
  closing : ¬ closeTag <:+: text
  unfenced : ∀ u, '}' :: u <:+ text → ¬ fence <+: u.dropWhile blank
  separated : ∀ u, ',' :: u <:+ text → ¬ [']'] <+: u.dropWhile blank ∧ ¬ ['}'] <+: u.dropWhile blank

/-- Nothing that the patterns look for starts with this character. -/
structure Quiet (blank : Char → Bool) (c : Char) (rest : Text) : Prop where
  opening : ¬ openTag <+: c :: rest
  closing : ¬ closeTag <+: c :: rest
  unfenced : c = '}' → ¬ fence <+: rest.dropWhile blank
  separated : c = ',' → ¬ [']'] <+: rest.dropWhile blank ∧ ¬ ['}'] <+: rest.dropWhile blank

def starters : List Char := ['<', '}', ',']

variable {blank : Char → Bool} {e : Encoder} {c : Char} {t u : Text}

theorem inert_nil : Inert blank [] := by
  refine ⟨by simp [openTag], by simp [closeTag], fun u hu => ?_, fun u hu => ?_⟩
  all_goals exact absurd (List.suffix_nil.mp hu) (List.cons_ne_nil _ _)

theorem inert_cons : Inert blank (c :: t) ↔ Quiet blank c t ∧ Inert blank t := by
  constructor
  · intro h
    have htail : t <:+ c :: t := List.suffix_cons c t
    exact ⟨⟨fun hp => h.opening hp.isInfix, fun hp => h.closing hp.isInfix,
        fun hc => h.unfenced t (hc ▸ List.suffix_rfl), fun hc => h.separated t (hc ▸ List.suffix_rfl)⟩,
      ⟨fun hi => h.opening (hi.trans htail.isInfix), fun hi => h.closing (hi.trans htail.isInfix),
        fun u hu => h.unfenced u (hu.trans htail), fun u hu => h.separated u (hu.trans htail)⟩⟩
  · rintro ⟨hc, ht⟩
    refine ⟨fun hi => ?_, fun hi => ?_, fun u hu => ?_, fun u hu => ?_⟩
    · exact (List.infix_cons_iff.mp hi).elim hc.opening ht.opening
    · exact (List.infix_cons_iff.mp hi).elim hc.closing ht.closing
    · rcases List.suffix_cons_iff.mp hu with he | hu
      · obtain ⟨hb, rfl⟩ := List.cons.inj he
        exact hc.unfenced hb.symm
      · exact ht.unfenced u hu
    · rcases List.suffix_cons_iff.mp hu with he | hu
      · obtain ⟨hb, rfl⟩ := List.cons.inj he
        exact hc.separated hb.symm
      · exact ht.separated u hu

theorem quiet_of_notMem (hc : c ∉ starters) (t : Text) : Quiet blank c t := by
  simp only [starters, List.mem_cons, List.not_mem_nil, or_false, not_or] at hc
  refine ⟨fun hp => ?_, fun hp => ?_, fun he => absurd he hc.2.1, fun he => absurd he hc.2.2⟩
  · exact hc.1 (List.cons_prefix_cons.mp hp).1.symm
  · exact hc.1 (List.cons_prefix_cons.mp hp).1.symm

theorem inert_skip (hu : ∀ c ∈ u, c ∉ starters) (t : Text) : Inert blank (u ++ t) ↔ Inert blank t := by
  induction u with
  | nil => rfl
  | cons c u ih =>
      rw [List.forall_mem_cons] at hu
      rw [List.cons_append, inert_cons, ih hu.2, and_iff_right (quiet_of_notMem hu.1 _)]

theorem inert_of_notMem (h : ∀ c ∈ t, c ∉ starters) : Inert blank t := by
  have hskip : Inert blank (t ++ []) ↔ Inert blank [] := inert_skip h []
  rw [List.append_nil] at hskip
  exact hskip.mpr inert_nil

/-- The only blank that `json.dumps` leaves in a string as it is. -/
def isBlank (c : Char) : Bool := decide (c = ' ')

theorem encodeChar_plain (h : isPlain c = true) : encodeChar c = [c] := by
  unfold encodeChar
  rw [if_pos h]

theorem hexText_notMem (n : Nat) : ∀ c ∈ hexText n, c ∉ starters := by
  have hdigit : ∀ k < 16, hexChar k ∉ starters := by decide
  intro c hc
  simp only [hexText, List.mem_cons, List.not_mem_nil, or_false] at hc
  rcases hc with rfl | rfl | rfl | rfl <;> exact hdigit _ (Nat.mod_lt _ (by decide))

theorem unicodeText_notMem (n : Nat) : ∀ c ∈ unicodeText n, c ∉ starters :=
  List.forall_mem_cons.mpr ⟨by decide, List.forall_mem_cons.mpr ⟨by decide, hexText_notMem n⟩⟩

/-- An escape has nothing in it that a pattern starts with. -/
theorem encodeChar_special (h : isPlain c = false) :
    ∃ w, encodeChar c = '\\' :: w ∧ ∀ x ∈ encodeChar c, x ∉ starters := by
  unfold encodeChar
  rw [if_neg (by simp [h])]
  split
  case h_8 =>
    unfold encodeSpecial
    split
    · exact ⟨_, rfl, unicodeText_notMem _⟩
    · exact ⟨_, rfl, List.forall_mem_append.mpr ⟨unicodeText_notMem _, unicodeText_notMem _⟩⟩
  all_goals exact ⟨_, rfl, by decide⟩

theorem starters_plain : ∀ c ∈ starters, isPlain c = true := by decide

theorem prefix_encoded {pattern : Text} (hp : ∀ c ∈ pattern, isPlain c = true) (s rest : Text) :
    pattern <+: s.flatMap encodeChar ++ '"' :: rest ↔ pattern <+: s := by
  induction pattern generalizing s with
  | nil => simp
  | cons x pattern ih =>
      rw [List.forall_mem_cons] at hp
      have hmarks : isPlain '"' = false ∧ isPlain '\\' = false := by decide
      cases s with
      | nil =>
          simp only [List.flatMap_nil, List.nil_append, List.cons_prefix_cons, List.prefix_nil, reduceCtorEq, iff_false]
          rintro ⟨rfl, -⟩
          exact Bool.false_ne_true (hmarks.1.symm.trans hp.1)
      | cons y s =>
          rw [List.flatMap_cons, List.append_assoc, List.cons_prefix_cons]
          cases hy : isPlain y with
          | true => rw [encodeChar_plain hy, List.singleton_append, List.cons_prefix_cons, ih hp.2]
          | false =>
              obtain ⟨w, hw, -⟩ := encodeChar_special hy
              rw [hw, List.cons_append, List.cons_prefix_cons]
              constructor
              · rintro ⟨rfl, -⟩
                exact absurd hp.1 (by simp [hmarks.2])
              · rintro ⟨rfl, -⟩
                exact absurd hp.1 (by simp [hy])

theorem isSpace_plain (h : isPlain c = true) : isSpace c = isBlank c := by
  simp only [isPlain, decide_eq_true_eq] at h
  by_cases hc : c = ' '
  · rw [hc]
    rfl
  · have hne : c.toNat ≠ 32 := fun hn => hc (Char.ext (UInt32.toNat_inj.mp hn))
    rw [isBlank, decide_eq_false hc, isSpace, decide_eq_false_iff_not]
    omega

theorem dropWhile_encoded (s rest : Text) :
    (s.flatMap encodeChar ++ '"' :: rest).dropWhile isSpace =
      (s.dropWhile isBlank).flatMap encodeChar ++ '"' :: rest := by
  have hmarks : isSpace '"' = false ∧ isSpace '\\' = false := by decide
  induction s with
  | nil => exact List.dropWhile_cons_of_neg (by simp [hmarks.1])
  | cons c s ih =>
      rw [List.flatMap_cons, List.append_assoc]
      cases hc : isPlain c with
      | true =>
          rw [encodeChar_plain hc, List.singleton_append, List.dropWhile_cons, List.dropWhile_cons, isSpace_plain hc]
          split
          · exact ih
          · rw [List.flatMap_cons, encodeChar_plain hc, List.append_assoc, List.singleton_append]
      | false =>
          obtain ⟨w, hw, -⟩ := encodeChar_special hc
          have hblank : ¬ isBlank c = true := fun hb => by
            rw [of_decide_eq_true hb] at hc
            exact absurd hc (by decide)
          rw [List.dropWhile_cons_of_neg hblank, List.flatMap_cons, List.append_assoc, hw, List.cons_append,
            List.dropWhile_cons_of_neg (by simp [hmarks.2])]

theorem quiet_encoded (hc : isPlain c = true) (s rest : Text) :
    Quiet isSpace c (s.flatMap encodeChar ++ '"' :: rest) ↔ Quiet isBlank c s := by
  have hpatterns : (∀ x ∈ openTag, isPlain x = true) ∧ (∀ x ∈ closeTag, isPlain x = true) ∧
      (∀ x ∈ fence, isPlain x = true) ∧ (∀ x ∈ [']'], isPlain x = true) ∧ ∀ x ∈ ['}'], isPlain x = true := by decide
  obtain ⟨hopen, hclose, hfence, hbracket, hbrace⟩ := hpatterns
  have hcons : c :: (s.flatMap encodeChar ++ '"' :: rest) = (c :: s).flatMap encodeChar ++ '"' :: rest := by
    rw [List.flatMap_cons, encodeChar_plain hc, List.append_assoc, List.singleton_append]
  constructor
  · rintro ⟨h1, h2, h3, h4⟩
    rw [hcons, prefix_encoded hopen] at h1
    rw [hcons, prefix_encoded hclose] at h2
    rw [dropWhile_encoded] at h3 h4
    rw [prefix_encoded hfence] at h3
    rw [prefix_encoded hbracket, prefix_encoded hbrace] at h4
    exact ⟨h1, h2, h3, h4⟩
  · rintro ⟨h1, h2, h3, h4⟩
    refine ⟨?_, ?_, ?_, ?_⟩
    · rwa [hcons, prefix_encoded hopen]
    · rwa [hcons, prefix_encoded hclose]
    · rwa [dropWhile_encoded, prefix_encoded hfence]
    · rwa [dropWhile_encoded, prefix_encoded hbracket, prefix_encoded hbrace]

/-- The patterns see in the text of a string what they see in the string. -/
theorem inert_encoded (s rest : Text) :
    Inert isSpace (s.flatMap encodeChar ++ '"' :: rest) ↔ Inert isBlank s ∧ Inert isSpace rest := by
  induction s with
  | nil =>
      rw [List.flatMap_nil, List.nil_append, inert_cons, and_iff_right (quiet_of_notMem (by decide) rest),
        and_iff_right inert_nil]
  | cons c s ih =>
      rw [List.flatMap_cons, List.append_assoc]
      cases hc : isPlain c with
      | true =>
          rw [encodeChar_plain hc, List.singleton_append, inert_cons, quiet_encoded hc, ih, inert_cons, and_assoc]
      | false =>
          obtain ⟨w, -, hw⟩ := encodeChar_special hc
          have hquiet : c ∉ starters := fun hm => Bool.false_ne_true (hc.symm.trans (starters_plain c hm))
          rw [inert_skip hw, ih, inert_cons, and_iff_right (quiet_of_notMem hquiet s)]

theorem inert_encodeString (s : String) (rest : Text) :
    Inert isSpace (encodeString s ++ rest) ↔ Inert isBlank s.toList ∧ Inert isSpace rest := by
  have htext : encodeString s ++ rest = ['"'] ++ (s.toList.flatMap encodeChar ++ '"' :: rest) := by
    simp only [encodeString, List.cons_append, List.append_assoc, List.nil_append]
  rw [htext, inert_skip (by decide), inert_encoded]

theorem numerals_notMem (h : ∀ c ∈ t, isNumeral c = true) : ∀ c ∈ t, c ∉ starters := fun c hc hm =>
  (by decide : ∀ c ∈ starters, ¬ isNumeral c = true) c hm (h c hc)

mutual

/-- All strings in a value, the keys of its dicts among them. -/
def strings : PyValue → List String
  | .str s => [s]
  | .list xs => stringsElements xs
  | .dict kvs => stringsMembers kvs
  | _ => []

def stringsElements : List PyValue → List String
  | [] => []
  | x :: xs => strings x ++ stringsElements xs

def stringsMembers : List (String × PyValue) → List String
  | [] => []
  | (k, x) :: kvs => k :: (strings x ++ stringsMembers kvs)

end

/-- A value starts with a character that is neither blank nor a closing bracket. -/
theorem dumps_opens (v : PyValue) (rest : Text) :
    ∃ c cs, dumps e v ++ rest = c :: cs ∧ isSpace c = false ∧ c ≠ ']' ∧ c ≠ '}' := by
  obtain ⟨c, cs, hc, hblank, hbracket, hbrace, -⟩ := dumps_head (e := e) v []
  rw [List.append_nil] at hc
  have hprint : 32 ≤ c.toNat ∧ c.toNat ≤ 126 := printable_dumps v c (hc ▸ List.mem_cons_self)
  have hne : c.toNat ≠ 32 := fun hn => by
    obtain rfl : c = ' ' := Char.ext (UInt32.toNat_inj.mp hn)
    exact absurd hblank (by decide)
  refine ⟨c, cs ++ rest, by rw [hc, List.cons_append], ?_, hbracket, hbrace⟩
  rw [isSpace, decide_eq_false_iff_not]
  omega

theorem encodeString_opens (s : String) (rest : Text) :
    ∃ c cs, encodeString s ++ rest = c :: cs ∧ isSpace c = false ∧ c ≠ ']' ∧ c ≠ '}' :=
  ⟨'"', _, rfl, by decide, by decide, by decide⟩

/-- A separator is no comma that the repair takes away. -/
theorem inert_separator (first : Bool) (h : ∃ c cs, t = c :: cs ∧ isSpace c = false ∧ c ≠ ']' ∧ c ≠ '}') :
    Inert isSpace ((if first then [] else [',', ' ']) ++ t) ↔ Inert isSpace t := by
  cases first with
  | true => rfl
  | false =>
      obtain ⟨c, cs, rfl, hc, hbracket, hbrace⟩ := h
      have hdrop : (' ' :: c :: cs).dropWhile isSpace = c :: cs := by
        rw [List.dropWhile_cons_of_pos (by decide), List.dropWhile_cons_of_neg (by simp [hc])]
      have hquiet : Quiet isSpace ',' (' ' :: c :: cs) := by
        refine ⟨fun hp => ?_, fun hp => ?_, fun he => ?_, fun _ => ?_⟩
        · exact absurd (List.cons_prefix_cons.mp hp).1 (by decide)
        · exact absurd (List.cons_prefix_cons.mp hp).1 (by decide)
        · exact absurd he (by decide)
        · rw [hdrop, List.cons_prefix_cons, List.cons_prefix_cons]
          exact ⟨fun hp => hbracket hp.1.symm, fun hp => hbrace hp.1.symm⟩
      have hseparator : (if false = true then [] else [',', ' ']) ++ c :: cs = ',' :: ([' '] ++ c :: cs) := rfl
      rw [hseparator, inert_cons, inert_skip (by decide)]
      exact and_iff_right hquiet

theorem inert_brace {rest : Text} (h : ¬ fence <+: rest.dropWhile isSpace) :
    Inert isSpace ('}' :: rest) ↔ Inert isSpace rest := by
  refine inert_cons.trans (and_iff_right ⟨fun hp => ?_, fun hp => ?_, fun _ => h, fun he => ?_⟩)
  · exact absurd (List.cons_prefix_cons.mp hp).1 (by decide)
  · exact absurd (List.cons_prefix_cons.mp hp).1 (by decide)
  · exact absurd he (by decide)

theorem unfenced_cons {rest : Text} (hc : isSpace c = false) (hf : c ≠ '`') :
    ¬ fence <+: (c :: rest).dropWhile isSpace := by
  rw [List.dropWhile_cons_of_neg (by simp [hc])]
  exact fun hp => hf (List.cons_prefix_cons.mp hp).1.symm

/-- What follows an element or a member is no fence. -/
theorem unfenced_elements (xs : List PyValue) (rest : Text) :
    ¬ fence <+: (elementsText e false xs ++ ']' :: rest).dropWhile isSpace := by
  cases xs with
  | nil => exact unfenced_cons (by decide) (by decide)
  | cons x xs => exact unfenced_cons (by decide) (by decide)

theorem unfenced_members (kvs : List (String × PyValue)) (rest : Text) :
    ¬ fence <+: (membersText e false kvs ++ '}' :: rest).dropWhile isSpace := by
  cases kvs with
  | nil => exact unfenced_cons (by decide) (by decide)
  | cons kv kvs => exact unfenced_cons (by decide) (by decide)

mutual

/-- Between its strings the text of a value has nothing that the patterns look for. -/
theorem inert_dumps_append (v : PyValue) (rest : Text) (hr : ¬ fence <+: rest.dropWhile isSpace) :
    Inert isSpace (dumps e v ++ rest) ↔ (∀ s ∈ strings v, Inert isBlank s.toList) ∧ Inert isSpace rest := by
  match v with
  | .none | .bool true | .bool false =>
      rw [dumps, inert_skip (by decide)]
      simp [strings]
  | .int n =>
      rw [dumps, inert_skip (numerals_notMem (intText_numerals n))]
      simp [strings]
  | .float x =>
      rw [dumps, inert_skip (numerals_notMem (floatText_numerals x))]
      simp [strings]
  | .str s =>
      rw [dumps, inert_encodeString]
      simp [strings]
  | .list xs =>
      have htext : dumps e (.list xs) ++ rest = ['['] ++ (elementsText e true xs ++ ']' :: rest) := by
        simp only [dumps, List.cons_append, List.append_assoc, List.nil_append]
      rw [htext, inert_skip (by decide), inert_elementsText true xs rest, strings]
  | .dict kvs =>
      have htext : dumps e (.dict kvs) ++ rest = ['{'] ++ (membersText e true kvs ++ '}' :: rest) := by
        simp only [dumps, List.cons_append, List.append_assoc, List.nil_append]
      rw [htext, inert_skip (by decide), inert_membersText true kvs rest hr, strings]

theorem inert_elementsText (first : Bool) (xs : List PyValue) (rest : Text) :
    Inert isSpace (elementsText e first xs ++ ']' :: rest) ↔
      (∀ s ∈ stringsElements xs, Inert isBlank s.toList) ∧ Inert isSpace rest := by
  match xs with
  | [] =>
      have htext : elementsText e first [] ++ ']' :: rest = [']'] ++ rest := rfl
      rw [htext, inert_skip (by decide)]
      simp [stringsElements]
  | x :: xs =>
      rw [elementsText, List.append_assoc, List.append_assoc, inert_separator first (dumps_opens x _),
        inert_dumps_append x _ (unfenced_elements xs rest), inert_elementsText false xs rest, stringsElements,
        List.forall_mem_append, and_assoc]

theorem inert_membersText (first : Bool) (kvs : List (String × PyValue)) (rest : Text)
    (hr : ¬ fence <+: rest.dropWhile isSpace) :
    Inert isSpace (membersText e first kvs ++ '}' :: rest) ↔
      (∀ s ∈ stringsMembers kvs, Inert isBlank s.toList) ∧ Inert isSpace rest := by
  match kvs with
  | [] =>
      have htext : membersText e first [] ++ '}' :: rest = '}' :: rest := rfl
      rw [htext, inert_brace hr]
      simp [stringsMembers]
  | (k, x) :: kvs =>
      have htext : membersText e first ((k, x) :: kvs) ++ '}' :: rest =
          (if first then [] else [',', ' ']) ++
            (encodeString k ++ ([':', ' '] ++ (dumps e x ++ (membersText e false kvs ++ '}' :: rest)))) := by
        simp only [membersText, List.append_assoc, List.cons_append, List.nil_append]
      rw [htext, inert_separator first (encodeString_opens k _), inert_encodeString,
        inert_skip (by decide), inert_dumps_append x _ (unfenced_members kvs rest),
        inert_membersText false kvs rest hr, stringsMembers, List.forall_mem_cons, List.forall_mem_append]
      simp only [and_assoc]

end

/-- The text of a value is inert exactly when its strings are. -/
theorem inert_dumps (v : PyValue) : Inert isSpace (dumps e v) ↔ ∀ s ∈ strings v, Inert isBlank s.toList := by
  have h := inert_dumps_append (e := e) v [] (by simp [fence])
  rwa [List.append_nil, and_iff_left inert_nil] at h

end RevenueRescue.InertText
