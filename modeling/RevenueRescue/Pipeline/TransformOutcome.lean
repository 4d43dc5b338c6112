import RevenueRescue.Pipeline.AuditSoundness
import RevenueRescue.Pipeline.Parity

namespace RevenueRescue.Pipeline

open Window OrderStatistic PandasPreprocessor

variable {timestamps : Timestamps} {events events' before : List Event} {e : Event}
  {cutoffs : Int × Int}

section Target

variable {rows rows' : List (Row Target)} {row : Row Target}

/-- Every cell of the target column has a target. -/
def Castable (rows : List (Row Target)) : Prop := ∀ row ∈ rows, row.recovered.cast ≠ none

/-- A row with its target cast, where the cast succeeds. -/
def recoveredRow (row : Row Target) : Row := { row with recovered := row.recovered.cast.getD false }

/-- The events of a table in which the cast and the timestamps are read. -/
def cleaned (timestamps : Timestamps) (rows : List (Row Target)) : List Event :=
  (rows.map recoveredRow).map (pandasEvent timestamps (rows.map recoveredRow))

theorem mapM_eq_none {α β : Type} {f : α → Option β} {l : List α} : l.mapM f = none ↔ ∃ a ∈ l, f a = none := by
  induction l with
  | nil => simp
  | cons a l ih =>
      rw [List.mapM_cons]
      cases hf : f a with
      | none => simp [hf]
      | some b =>
          cases hrest : l.mapM f with
          | none => simpa [hf, hrest] using ih
          | some rest => simpa [hf, hrest] using ih

theorem castRow_of_castable (h : Castable rows) : rows.mapM castRow = some (rows.map recoveredRow) := by
  apply mapM_eq_map
  intro row hrow
  obtain ⟨target, htarget⟩ := Option.ne_none_iff_exists'.mp (h row hrow)
  simp [castRow, recoveredRow, htarget]

theorem transform64_uncastable (h : ¬ Castable rows) : transform64 timestamps rows = .error .unreadableTarget := by
  have hnone : rows.mapM castRow = none := by
    rw [mapM_eq_none]
    simpa [Castable, castRow] using h
  rw [transform64, hnone]

theorem occurredAt_recoveredRow (rows : List (Row Target)) :
    occurredAtColumn (rows.map recoveredRow) = occurredAtColumn rows := by
  rw [occurredAtColumn, List.map_map]
  rfl

theorem transform64_readable (h : Castable rows)
    (hread : ∀ row ∈ rows, timestamps.toDatetime (occurredAtColumn rows) row.occurredAt ≠ none) :
    transform64 timestamps rows = addHistoryFeatures64 (cleaned timestamps rows) >>= splitAndAudit := by
  have hclean : clean timestamps (rows.map recoveredRow) = some (cleaned timestamps rows) := by
    apply clean_readable
    rw [occurredAt_recoveredRow]
    exact List.forall_mem_map.mpr hread
  rw [transform64, castRow_of_castable h]
  simp only [hclean]

/-- The sample with its target in texts. -/
def sampleTexts : List (Row Target) := sampleRows.map fun row => { row with recovered := .text "True ".toList }

theorem castable_perm (hperm : rows'.Perm rows) : Castable rows' ↔ Castable rows := by
  simp only [Castable, hperm.mem_iff]

/-- The steps after the cleaning see the table in the order of the histories. -/
theorem addHistoryFeatures64_perm (hids : (events.map Event.eventId).Nodup) (hperm : events'.Perm events) :
    addHistoryFeatures64 events' = addHistoryFeatures64 events := by
  have hids' : (events'.map Event.eventId).Nodup := (hperm.map Event.eventId).nodup_iff.mpr hids
  have hsorted : orderBy sequenceOrder events' = orderBy sequenceOrder events :=
    orderBy_eq_of_mem (sequenceOrder_nodup hids') (sequenceOrder_nodup hids) fun _ => hperm.mem_iff
  have hexact : addHistoryFeatures events' = addHistoryFeatures events := by
    rw [addHistoryFeatures, addHistoryFeatures, historyTable, historyTable, hsorted]
  rw [addHistoryFeatures64, addHistoryFeatures64, historyTable64, historyTable64, hsorted, hexact]

theorem cleaned_ids (hids : (rows.map fun row => row.eventId.strip).Nodup) :
    ((cleaned timestamps rows).map Event.eventId).Nodup := by
  rw [cleaned, List.map_map, List.map_map]
  exact hids

/-- The order of the rows in the file does not matter where all timestamps are
read, and in the same way in both orders. -/
theorem transform_perm (hperm : rows'.Perm rows)
    (hread : ∀ row ∈ rows, ∃ n, timestamps.toDatetime (occurredAtColumn rows) row.occurredAt = some n ∧
      timestamps.toDatetime (occurredAtColumn rows') row.occurredAt = some n)
    (hids : (rows.map fun row => row.eventId.strip).Nodup) :
    transform64 timestamps rows' = transform64 timestamps rows := by
  by_cases hcast : Castable rows
  · have hsame : cleaned timestamps rows' =
        rows'.map fun row => pandasEvent timestamps (rows.map recoveredRow) (recoveredRow row) := by
      rw [cleaned, List.map_map]
      refine List.map_congr_left fun row hrow => ?_
      obtain ⟨n, hn, hn'⟩ := hread row (hperm.mem_iff.mp hrow)
      have hinstant : instant timestamps (rows'.map recoveredRow) (recoveredRow row) =
          instant timestamps (rows.map recoveredRow) (recoveredRow row) := by
        rw [instant, instant, occurredAt_recoveredRow, occurredAt_recoveredRow]
        show (timestamps.toDatetime (occurredAtColumn rows') row.occurredAt).getD 0 = _
        rw [hn', ← hn]
        rfl
      rw [Function.comp_apply, pandasEvent, pandasEvent, hinstant]
    have hevents : (cleaned timestamps rows').Perm (cleaned timestamps rows) := by
      rw [hsame, cleaned, List.map_map]
      exact hperm.map _
    rw [transform64_readable hcast, transform64_readable ((castable_perm hperm).mpr hcast),
      addHistoryFeatures64_perm (cleaned_ids hids) hevents]
    · intro row hrow
      obtain ⟨n, -, hn'⟩ := hread row (hperm.mem_iff.mp hrow)
      simp [hn']
    · intro row hrow
      obtain ⟨n, hn, -⟩ := hread row hrow
      simp [hn]
  · rw [transform64_uncastable hcast, transform64_uncastable (mt (castable_perm hperm).mp hcast)]

theorem transform_perm_sample : transform64 sampleTimestamps sampleTexts.reverse =
    transform64 sampleTimestamps sampleTexts := by
  have hread : ∀ row ∈ sampleTexts, (sampleInstants.lookup row.occurredAt).isSome := by decide +kernel
  refine transform_perm (List.reverse_perm sampleTexts) (fun row hrow => ?_) (by decide +kernel)
  obtain ⟨n, hn⟩ := Option.isSome_iff_exists.mp (hread row hrow)
  exact ⟨n, hn, hn⟩

end Target

end RevenueRescue.Pipeline
