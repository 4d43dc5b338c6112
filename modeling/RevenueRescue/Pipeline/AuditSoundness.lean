import RevenueRescue.Pipeline.LeakageAudit

namespace RevenueRescue.Pipeline

/-- The place of a split in time. -/
def Split.place : Split → Nat
  | .train => 0
  | .validation => 1
  | .test => 2

namespace LeakageAuditor

/-- No event of a split is later than an event of a split that comes after it. -/
def InOrder (df : List AuditRow) : Prop :=
  ∀ a ∈ df, ∀ b ∈ df, a.chronoSplit.place < b.chronoSplit.place →
    ∀ s, a.timestamp = some s → ∀ t, b.timestamp = some t → s ≤ t

/-- What the audit finds apart from the order of the splits. -/
def FailsOtherCheck (df : List AuditRow) (featureColumns : List Text) : Prop :=
  (∃ f ∈ featureColumns, f.map Char.toLower ∈ forbiddenFeatureNames) ∨
    (∃ row ∈ df, row.timestamp = none) ∨ ∃ row ∈ df, ∃ hours < 0, row.hoursSincePrevEvent = some hours

/-- No value of the first list is above one of the second. -/
def UpTo (l r : List Int) : Prop := ∀ a ∈ l, ∀ b ∈ r, a ≤ b

variable {df : List AuditRow} {featureColumns : List Text} {l m r : List Int}

theorem overlap_iff {violation : Int → Int → Violation} : overlap violation l.max? r.min? = [] ↔ UpTo l r := by
  constructor
  · intro h a ha b hb
    obtain ⟨last, hlast⟩ := Option.isSome_iff_exists.mp (List.isSome_max?_of_mem ha)
    obtain ⟨first, hfirst⟩ := Option.isSome_iff_exists.mp (List.isSome_min?_of_mem hb)
    have hle : last ≤ first := by
      by_contra hlt
      simp [overlap, hlast, hfirst, not_le.mp hlt] at h
    calc a ≤ last := (List.max?_le_iff hlast).mp le_rfl a ha
      _ ≤ first := hle
      _ ≤ b := (List.le_min?_iff hfirst).mp le_rfl b hb
  · exact overlap_eq_nil

/-- The order of the outer lists comes through a middle one, if it has a value. -/
theorem upTo_trans (hl : UpTo l m) (hr : UpTo m r) (hm : m ≠ []) : UpTo l r := by
  intro a ha b hb
  obtain ⟨c, hc⟩ := List.exists_mem_of_ne_nil m hm
  exact (hl a ha c hc).trans (hr c hc b hb)

theorem inOrder_iff : InOrder df ↔ UpTo (timestampsOf df .train) (timestampsOf df .validation) ∧
    UpTo (timestampsOf df .validation) (timestampsOf df .test) ∧
    UpTo (timestampsOf df .train) (timestampsOf df .test) := by
  have hpair {first second : Split} (hlt : first.place < second.place) (h : InOrder df) :
      UpTo (timestampsOf df first) (timestampsOf df second) := by
    intro s hs t ht
    obtain ⟨a, ha, rfl, hat⟩ := mem_timestampsOf.mp hs
    obtain ⟨b, hb, rfl, hbt⟩ := mem_timestampsOf.mp ht
    exact h a ha b hb hlt s hat t hbt
  constructor
  · intro h
    exact ⟨hpair (by decide) h, hpair (by decide) h, hpair (by decide) h⟩
  · rintro ⟨htv, hvs, hts⟩ a ha b hb hlt s hs t ht
    have hsa : s ∈ timestampsOf df a.chronoSplit := mem_timestampsOf.mpr ⟨a, ha, rfl, hs⟩
    have htb : t ∈ timestampsOf df b.chronoSplit := mem_timestampsOf.mpr ⟨b, hb, rfl, ht⟩
    cases hpa : a.chronoSplit <;> cases hpb : b.chronoSplit <;> rw [hpa, hpb] at hlt <;>
      first
      | exact absurd hlt (by decide)
      | (rw [hpa] at hsa; rw [hpb] at htb)
    · exact htv s hsa t htb
    · exact hts s hsa t htb
    · exact hvs s hsa t htb

theorem leakageFree_iff : (auditFeaturesAndSplits df featureColumns).isLeakageFree = true ↔
    ¬ FailsOtherCheck df featureColumns ∧ UpTo (timestampsOf df .train) (timestampsOf df .validation) ∧
    UpTo (timestampsOf df .validation) (timestampsOf df .test) := by
  simp only [LeakageAuditReport.isLeakageFree, auditFeaturesAndSplits, List.isEmpty_iff, List.append_eq_nil_iff,
    overlap_iff, FailsOtherCheck, not_or]
  have hfeatures : (if featureColumns.filter (fun f => forbiddenFeatureNames.contains (f.map Char.toLower)) ≠ [] then
      [Violation.forbiddenFeatures (featureColumns.filter fun f => forbiddenFeatureNames.contains (f.map Char.toLower))]
      else []) = [] ↔ ¬ ∃ f ∈ featureColumns, f.map Char.toLower ∈ forbiddenFeatureNames := by
    simp
  have hpresent : (if df.any fun row => row.timestamp.isNone then [Violation.unparseableTimestamps] else []) = [] ↔
      ¬ ∃ row ∈ df, row.timestamp = none := by
    simp
  have hhours : (if df.countP (fun row => row.hoursSincePrevEvent.any (· < 0)) > 0 then
      [Violation.negativeHours (df.countP fun row => row.hoursSincePrevEvent.any (· < 0))] else []) = [] ↔
      ¬ ∃ row ∈ df, ∃ hours < 0, row.hoursSincePrevEvent = some hours := by
    have hnegative (row : AuditRow) : row.hoursSincePrevEvent.any (· < 0) = true ↔
        ∃ hours < 0, row.hoursSincePrevEvent = some hours := by
      cases row.hoursSincePrevEvent <;> simp
    simp only [gt_iff_lt, ite_eq_right_iff, List.cons_ne_nil, imp_false, List.countP_pos_iff, hnegative]
  rw [hfeatures, hpresent, hhours]
  tauto

/-- The audit looks at neighbouring splits, so the order of the outer two is
only certain through an event between them. -/
theorem audit_sound_iff (df : List AuditRow) (featureColumns : List Text) :
    ((auditFeaturesAndSplits df featureColumns).isLeakageFree = true → InOrder df) ↔
      (∃ row ∈ df, row.chronoSplit = .validation) ∨ FailsOtherCheck df featureColumns ∨
        ∀ s ∈ timestampsOf df .train, ∀ t ∈ timestampsOf df .test, s ≤ t := by
  rw [leakageFree_iff, inOrder_iff]
  constructor
  · intro h
    by_cases hv : ∃ row ∈ df, row.chronoSplit = .validation
    · exact .inl hv
    by_cases hother : FailsOtherCheck df featureColumns
    · exact .inr (.inl hother)
    have hempty : timestampsOf df .validation = [] := by
      refine List.eq_nil_iff_forall_not_mem.mpr fun t ht => ?_
      obtain ⟨row, hrow, hsplit, -⟩ := mem_timestampsOf.mp ht
      exact hv ⟨row, hrow, hsplit⟩
    rw [hempty] at h
    exact .inr (.inr (h ⟨hother, fun _ _ _ hb => absurd hb List.not_mem_nil, fun _ ha => absurd ha List.not_mem_nil⟩).2.2)
  · rintro h ⟨hother, htv, hvs⟩
    refine ⟨htv, hvs, ?_⟩
    rcases h with ⟨row, hrow, hsplit⟩ | hfails | houter
    · obtain ⟨t, ht⟩ : ∃ t, row.timestamp = some t :=
        Option.ne_none_iff_exists'.mp fun hnone => hother (.inr (.inl ⟨row, hrow, hnone⟩))
      exact upTo_trans htv hvs (List.ne_nil_of_mem (mem_timestampsOf.mpr ⟨row, hrow, hsplit, ht⟩))
    · exact absurd hfails hother
    · exact houter

/-- Without a validation event a train event may be later than a test event. -/
theorem audit_unsound : ¬ ((auditFeaturesAndSplits
      [⟨some 2, .train, none⟩, ⟨some 1, .test, none⟩] ["amount_paise".toList]).isLeakageFree = true →
    InOrder [⟨some 2, .train, none⟩, ⟨some 1, .test, none⟩]) := by
  intro h
  have hfree : (auditFeaturesAndSplits [⟨some 2, .train, none⟩, ⟨some 1, .test, none⟩]
      ["amount_paise".toList]).isLeakageFree = true := by decide +kernel
  have hle := h hfree _ List.mem_cons_self _ (List.mem_cons_of_mem _ List.mem_cons_self) (by decide) 2 rfl 1 rfl
  omega

end LeakageAuditor

end RevenueRescue.Pipeline
