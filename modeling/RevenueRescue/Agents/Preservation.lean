import RevenueRescue.Agents.Cleaning
import RevenueRescue.Agents.InertText
import RevenueRescue.Foundation.JsonWeight

namespace RevenueRescue.LlmPreservation

open Text Json LlmOutput LlmCleaning InertText

def Blank (text : Text) : Prop := ∀ c ∈ text, isSpace c = true

/-- The text is read as the value, on its own, behind a closed block of
reasoning and in a fence. -/
structure Preserved (p : Platform) (v : PyValue) (text : Text) : Prop where
  bare : parseReply p text = some v
  reasoned (thoughts blanks : Text) : ¬ closeTag <:+: thoughts → Blank blanks →
    parseReply p (openTag ++ thoughts ++ closeTag ++ blanks ++ text) = some v
  fenced (before after : Text) : Blank before → Blank after →
    parseReply p (fence ++ jsonMark ++ before ++ text ++ after ++ fence) = some v

variable {p : Platform} {e : Encoder} {t u z : Text} {v : PyValue} {kvs : List (String × PyValue)}

theorem untagged_of_inert (h : Inert isSpace t) : Untagged t := ⟨h.opening, h.closing⟩

theorem closeFence_eq_none_iff : closeFence t = none ↔ ∀ u, '}' :: u <:+ t → ¬ fence <+: u.dropWhile isSpace := by
  rw [closeFence_eq_none]
  constructor
  · exact fun h u hu hf => h '}' u hu ⟨rfl, hf⟩
  · rintro h c u hu ⟨rfl, hf⟩
    exact h u hu hf

theorem trailingComma_some {n : Nat} {replacement : Text} (h : trailingComma t = some (n, replacement)) :
    ∃ u b rest, t = ',' :: u ∧ lstrip u = b :: rest ∧ (b = ']' ∨ b = '}') ∧ n = 1 + (u.length - rest.length) ∧
      replacement = [b] := by
  unfold trailingComma at h
  split at h
  · rename_i u
    split at h
    · rename_i b rest hb
      split at h
      · rename_i hbracket
        cases h
        exact ⟨u, b, rest, rfl, hb, hbracket, rfl, rfl⟩
      · cases h
    · cases h
  · cases h

theorem trailingComma_eq_none_iff :
    (∀ u, u <:+ t → trailingComma u = none) ↔
      ∀ u, ',' :: u <:+ t → ¬ [']'] <+: u.dropWhile isSpace ∧ ¬ ['}'] <+: u.dropWhile isSpace := by
  constructor
  · intro h u hu
    have hnone := h _ hu
    cases hrest : u.dropWhile isSpace with
    | nil => exact ⟨by simp, by simp⟩
    | cons b rest =>
        simp only [trailingComma, lstrip, hrest] at hnone
        simp only [List.cons_prefix_cons, List.nil_prefix, and_true]
        split at hnone
        · cases hnone
        · rename_i hbracket
          exact ⟨fun he => hbracket (.inl he.symm), fun he => hbracket (.inr he.symm)⟩
  · intro h u hu
    by_contra hne
    obtain ⟨⟨n, replacement⟩, hsome⟩ := Option.ne_none_iff_exists'.mp hne
    obtain ⟨w, b, rest, rfl, hrest, hbracket, -, -⟩ := trailingComma_some hsome
    rw [lstrip] at hrest
    obtain ⟨hsquare, hcurly⟩ := h w hu
    rw [hrest] at hsquare hcurly
    rcases hbracket with rfl | rfl
    · exact hsquare ⟨rest, rfl⟩
    · exact hcurly ⟨rest, rfl⟩

theorem repair_inert (h : Inert isSpace t) : repairJsonString t = t :=
  sub_eq_self (trailingComma_eq_none_iff.mpr h.separated)

/-- An occurrence does not start in a text without its first character. -/
theorem infix_of_append {c : Char} {pattern : Text} (hz : c ∉ z) (h : c :: pattern <:+: z ++ t) :
    c :: pattern <:+: t := by
  induction z with
  | nil => exact h
  | cons x z ih =>
      rw [List.mem_cons, not_or] at hz
      rw [List.cons_append, List.infix_cons_iff, List.cons_prefix_cons] at h
      rcases h with ⟨hx, -⟩ | h
      · exact absurd hx hz.1
      · exact ih hz.2 h

theorem infix_of_append_left {c : Char} (pattern : Text) (hz : c ∉ z) (h : pattern ++ [c] <:+: t ++ z) :
    pattern ++ [c] <:+: t := by
  have hr : c :: pattern.reverse <:+: z.reverse ++ t.reverse := by
    rw [← List.reverse_concat', ← List.reverse_append]
    exact List.reverse_infix.mpr h
  have ht := infix_of_append (fun hc => hz (List.mem_reverse.mp hc)) hr
  rw [← List.reverse_concat'] at ht
  exact List.reverse_infix.mp ht

theorem Blank.notMem {blanks : Text} (h : Blank blanks) {c : Char} (hc : isSpace c = false) : c ∉ blanks := fun hm =>
  Bool.false_ne_true (hc.symm.trans (h c hm))

theorem untagged_wrap (h : Untagged t) {before after : Text} (hb : '<' ∉ before) (ha : '>' ∉ after) :
    Untagged (before ++ t ++ after) := by
  constructor
  · intro hi
    have hfront : openTag <:+: before ++ t :=
      infix_of_append_left ['<', 't', 'h', 'i', 'n', 'k'] ha hi
    exact h.opening (infix_of_append hb hfront)
  · intro hi
    have hfront : closeTag <:+: before ++ t :=
      infix_of_append_left ['<', '/', 't', 'h', 'i', 'n', 'k'] ha hi
    exact h.closing (infix_of_append hb hfront)

/-- A text of a dict, as it is left by the cleaning when nothing in it matches. -/
theorem clean_braced (hu : Untagged t) (hc : closeFence t = none) (hfirst : t.head? = some '{')
    (hlast : t.getLast? = some '}') : cleanDeepseekReasoningOutput t = t := by
  rw [cleanDeepseekReasoningOutput_eq, removeReasoning_of_untagged hu, strip_braced hfirst hlast,
    extract_braced (findFenced_of_closeFence hc) hfirst hlast]

theorem lstrip_blanks {blanks : Text} (h : Blank blanks) (z : Text) : lstrip (blanks ++ z) = lstrip z :=
  List.dropWhile_append_of_pos h

theorem cut_append {c : Char} {pattern : Text} (hc : c ∉ pattern) (h : ¬ c :: pattern <:+: t) (z : Text) :
    cut (c :: pattern) (t ++ (c :: pattern ++ z)) = some (t, z) := by
  induction t with
  | nil =>
      have hfound : (c :: pattern).isPrefixOf? (c :: pattern ++ z) = some z := isPrefixOf?_eq_some.mpr rfl
      rw [List.nil_append, List.cons_append, cut, ← List.cons_append, hfound]
  | cons x t ih =>
      rw [List.infix_cons_iff, not_or] at h
      have hnone : (c :: pattern).isPrefixOf? (x :: (t ++ (c :: pattern ++ z))) = none := by
        refine isPrefixOf?_eq_none.mpr fun hp => ?_
        have hleft : x :: t <+: x :: (t ++ (c :: pattern ++ z)) := List.prefix_append (x :: t) _
        rcases List.prefix_or_prefix_of_prefix hp hleft with hin | ⟨q, hq⟩
        · exact h.1 hin
        · -- What reaches beyond the text starts with the first character once more.
          cases q with
          | nil => exact h.1 (by rw [List.append_nil] at hq; rw [hq])
          | cons y q =>
              have hover : x :: t ++ y :: q <+: x :: t ++ (c :: pattern ++ z) := by
                rw [hq]
                exact hp
              obtain rfl : y = c :=
                (List.cons_prefix_cons.mp ((List.prefix_append_right_inj (x :: t)).mp hover)).1
              have htail : t ++ y :: q = pattern := (List.cons.inj hq).2
              exact hc (htail ▸ List.mem_append_right t List.mem_cons_self)
      rw [List.cons_append, cut, hnone, ih h.2]
      rfl

theorem removeReasoning_reasoned {thoughts : Text} (hr : ¬ closeTag <:+: thoughts) (hu : Untagged u) :
    removeReasoning (openTag ++ thoughts ++ closeTag ++ u) = strip u := by
  have hblock : thinkBlock (openTag ++ thoughts ++ closeTag ++ u) =
      some ((openTag ++ thoughts ++ closeTag).length, []) := by
    have hopen : openTag.isPrefixOf? (openTag ++ thoughts ++ closeTag ++ u) = some (thoughts ++ (closeTag ++ u)) :=
      isPrefixOf?_eq_some.mpr (by simp only [List.append_assoc])
    have hcut : cut closeTag (thoughts ++ (closeTag ++ u)) = some (thoughts, u) :=
      cut_append (by decide) hr u
    rw [thinkBlock, hopen]
    simp only [bind, Option.bind_some, hcut, List.length_append]
  have hsub : sub thinkBlock (openTag ++ thoughts ++ closeTag ++ u) = sub thinkBlock u :=
    sub_append (by simp [openTag]) hblock
  have hself : sub thinkBlock u = u := sub_thinkBlock hu.opening
  have hplain := removeReasoning_of_untagged hu
  rw [removeReasoning_eq, hself] at hplain
  rw [removeReasoning_eq, hsub, hself, hplain]

theorem mem_lstrip {c : Char} (h : c ∈ t) (hc : isSpace c = false) : c ∈ lstrip t := by
  rw [← List.takeWhile_append_dropWhile (p := isSpace) (l := t), List.mem_append] at h
  exact h.resolve_left fun hm => Bool.false_ne_true (hc.symm.trans (List.mem_takeWhile_imp hm))

/-- A fence that starts in a text with a brace behind the blanks ends in it. -/
theorem closes_of_append {c : Char} (ht : '}' ∈ t) (h : Closes c (t ++ z)) : Closes c t := by
  have hbrace : '}' ∈ lstrip t := mem_lstrip ht (by decide)
  have hfence := h.2
  rw [lstrip_append (List.ne_nil_of_mem hbrace)] at hfence
  refine ⟨h.1, ?_⟩
  rcases List.prefix_or_prefix_of_prefix hfence (List.prefix_append _ z) with hin | hin
  · exact hin
  · exact absurd (hin.subset hbrace) (by decide)

/-- The closing fence is the one that is looked for when no other one comes before it. -/
theorem closeFence_wrapped {after : Text} (h : closeFence (t ++ ['}']) = none) (ha : Blank after) :
    closeFence (t ++ ['}'] ++ (after ++ fence)) = some (t ++ ['}']) := by
  induction t with
  | nil =>
      have hclose : Closes '}' (after ++ fence) := ⟨rfl, by rw [lstrip_blanks ha]; exact List.prefix_rfl⟩
      exact ((closeFence_cons '}' (after ++ fence)).resolve_right fun hn => hn.1 hclose).2
  | cons c t ih =>
      rcases closeFence_cons c (t ++ ['}']) with ⟨-, he⟩ | ⟨hc, he⟩
      · rw [List.cons_append, he] at h
        cases h
      · rw [List.cons_append, he, Option.map_eq_none_iff] at h
        have hopen : ¬ Closes c (t ++ ['}'] ++ (after ++ fence)) := fun hn => hc (closes_of_append (List.mem_append_right t List.mem_cons_self) hn)
        have hcons := ((closeFence_cons c (t ++ ['}'] ++ (after ++ fence))).resolve_left fun hn => hopen hn.1).2
        rw [List.cons_append, List.cons_append, hcons, ih h]
        rfl

theorem findFenced_wrapped {before inner : Text} (hb : Blank before) (h : closeFence t = some inner) :
    findFenced (fence ++ jsonMark ++ before ++ '{' :: t) = some ('{' :: inner) := by
  have hfence : fence.isPrefixOf? (fence ++ jsonMark ++ before ++ '{' :: t) = some (jsonMark ++ (before ++ '{' :: t)) :=
    isPrefixOf?_eq_some.mpr (by simp only [List.append_assoc])
  have hmark : jsonMark.isPrefixOf? (jsonMark ++ (before ++ '{' :: t)) = some (before ++ '{' :: t) :=
    isPrefixOf?_eq_some.mpr rfl
  have hblanks : lstrip (before ++ '{' :: t) = '{' :: t := by
    rw [lstrip_blanks hb]
    exact List.dropWhile_cons_of_neg (by decide)
  have hhere : fencedHere (fence ++ jsonMark ++ before ++ '{' :: t) = some ('{' :: inner) := by
    rw [fencedHere, hfence]
    simp only [hmark, Option.getD_some, hblanks, h, Option.map_some]
  exact Option.or_eq_some_iff.mpr (.inl hhere)

/-- What the cleaning leaves of a text in a fence. -/
theorem clean_wrapped {before after inner : Text} (hu : Untagged ('{' :: t)) (hb : Blank before) (ha : Blank after)
    (h : closeFence (t ++ (after ++ fence)) = some inner) :
    cleanDeepseekReasoningOutput (fence ++ jsonMark ++ before ++ ('{' :: t) ++ after ++ fence) = '{' :: inner := by
  have htext : fence ++ jsonMark ++ before ++ ('{' :: t) ++ after ++ fence =
      fence ++ jsonMark ++ before ++ '{' :: (t ++ (after ++ fence)) := by
    simp only [List.append_assoc, List.cons_append]
  have htags : Untagged (fence ++ jsonMark ++ before ++ ('{' :: t) ++ after ++ fence) := by
    have hopen : '<' ∉ fence ++ jsonMark ++ before := by
      simp only [List.mem_append, not_or]
      exact ⟨by decide, hb.notMem (by decide)⟩
    have hclose : '>' ∉ after ++ fence := by
      simp only [List.mem_append, not_or]
      exact ⟨ha.notMem (by decide), by decide⟩
    rw [List.append_assoc _ after fence]
    exact untagged_wrap hu hopen hclose
  have hstrip : strip (fence ++ jsonMark ++ before ++ ('{' :: t) ++ after ++ fence) =
      fence ++ jsonMark ++ before ++ ('{' :: t) ++ after ++ fence := by
    refine strip_eq_self (fun c hc => ?_) (fun c hc => ?_)
    · obtain rfl : '`' = c := Option.some.inj hc
      decide
    · rw [List.getLast?_append] at hc
      obtain rfl : '`' = c := Option.some.inj hc
      decide
  rw [cleanDeepseekReasoningOutput_eq, removeReasoning_of_untagged htags, hstrip, htext]
  exact extract_fenced (findFenced_wrapped hb h)

/-- The text of a dict without its opening brace. -/
theorem dumps_dict (kvs : List (String × PyValue)) :
    dumps e (.dict kvs) = '{' :: (membersText e true kvs ++ ['}']) := by
  rw [dumps]

theorem dumps_bounds (kvs : List (String × PyValue)) :
    (dumps e (.dict kvs)).head? = some '{' ∧ (dumps e (.dict kvs)).getLast? = some '}' := by
  rw [dumps_dict]
  exact ⟨rfl, by rw [List.getLast?_cons, List.getLast?_append]; rfl⟩

theorem parse_of_clean {raw : Text} (h : ReadsBack p.decoder e v) (hd : nesting v ≤ p.decoder.depth)
    (ht : Inert isSpace (dumps e v)) (hc : cleanDeepseekReasoningOutput raw = dumps e v) : parseReply p raw = some v := by
  rw [parseReply, hc, repair_inert ht, loads_dumps h hd]

theorem preserved_of_inert (h : ReadsBack p.decoder e (.dict kvs)) (hd : nesting (.dict kvs) ≤ p.decoder.depth)
    (ht : Inert isSpace (dumps e (.dict kvs))) : Preserved p (.dict kvs) (dumps e (.dict kvs)) := by
  obtain ⟨hfirst, hlast⟩ := dumps_bounds (e := e) kvs
  have hclose : closeFence (dumps e (.dict kvs)) = none := closeFence_eq_none_iff.mpr ht.unfenced
  refine ⟨?_, fun thoughts blanks hr hb => ?_, fun before after hb ha => ?_⟩
  · exact parse_of_clean h hd ht (clean_braced (untagged_of_inert ht) hclose hfirst hlast)
  · have htags : Untagged (blanks ++ dumps e (.dict kvs)) := by
      have hwrap := untagged_wrap (untagged_of_inert ht) (hb.notMem (c := '<') (by decide)) (List.not_mem_nil (a := '>'))
      rwa [List.append_nil] at hwrap
    have hstrip : strip (blanks ++ dumps e (.dict kvs)) = dumps e (.dict kvs) := by
      have hplain := strip_braced hfirst hlast
      rw [strip] at hplain ⊢
      rw [lstrip_blanks hb, hplain]
    refine parse_of_clean h hd ht ?_
    rw [List.append_assoc, cleanDeepseekReasoningOutput_eq, removeReasoning_reasoned hr htags, hstrip,
      extract_braced (findFenced_of_closeFence hclose) hfirst hlast]
  · refine parse_of_clean h hd ht ?_
    rw [dumps_dict] at hclose ht ⊢
    have hinner : closeFence (membersText e true kvs ++ ['}']) = none :=
      closeFence_isInfix hclose (List.suffix_cons '{' _).isInfix
    exact clean_wrapped (untagged_of_inert ht) hb ha (closeFence_wrapped hinner ha)

end RevenueRescue.LlmPreservation
