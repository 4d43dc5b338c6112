import RevenueRescue.Pipeline.PointInTime
import RevenueRescue.Pipeline.SparkWindows

namespace RevenueRescue.Pipeline

open Window OrderStatistic PandasPreprocessor

/-- The instant that the timestamp of a row denotes, in nanoseconds. A valid
table has no timestamp that cannot be read. -/
def instant (timestamps : Timestamps) (rows : List Row) (row : Row) : Int :=
  (timestamps.toDatetime (occurredAtColumn rows) row.occurredAt).getD 0

def ofStripped (rows : List Row) (row : Row) : List Row :=
  rows.filter fun a => a.customerId.strip = row.customerId.strip

def ofCustomerId (rows : List Row) (row : Row) : List Row :=
  rows.filter fun a => a.customerId = row.customerId

/-- What both validators admit. -/
structure Accepted (timestamps : Timestamps) (rows : List Row) : Prop extends ValidRows timestamps rows where
  nonempty : rows ≠ []
  micros : ∀ row ∈ rows, timestamps.toTimestamp row.occurredAt = some (instant timestamps rows row / 1000)

section Events

variable (timestamps : Timestamps) (rows : List Row)

def pandasEvent (row : Row) : Event := cleanRow row (instant timestamps rows row)

def sparkEvent (row : Row) : SparkBigDataPipeline.SparkEvent :=
  SparkBigDataPipeline.eventOf row (instant timestamps rows row / 1000)

def pandasKey (row : Row) : Int ×ₗ Text := toLex (instant timestamps rows row, row.eventId.strip)

def sparkKey (row : Row) : Int ×ₗ Text := toLex (instant timestamps rows row / 1000000000, row.eventId)

/-- The rows of the prior events of a row in each pipeline. -/
def pandasPriors (row : Row) : List Row :=
  below (pandasKey timestamps rows) (ofStripped rows row) (pandasKey timestamps rows row)

def sparkPriors (row : Row) : List Row :=
  below (sparkKey timestamps rows) (ofCustomerId rows row) (sparkKey timestamps rows row)

def pandasHistory (row : Row) : HistoryFeatures :=
  historyOf ((pandasPriors timestamps rows row).map (pandasEvent timestamps rows)) (pandasEvent timestamps rows row)

def sparkHistory (row : Row) : HistoryFeatures :=
  SparkBigDataPipeline.historyOf ((sparkPriors timestamps rows row).map (sparkEvent timestamps rows))
    (sparkEvent timestamps rows row)

def pandasFeatures (cutoffs : Int × Int) (row : Row) : EventFeatures where
  eventId := row.eventId.strip
  eventHourUtc := (pandasEvent timestamps rows row).eventHourUtc
  eventDayofweekUtc := (pandasEvent timestamps rows row).eventDayofweekUtc
  history := pandasHistory timestamps rows row
  chronoSplit := assignChronoSplit cutoffs (instant timestamps rows row)

def sparkFeatures (cutoffs : Int × Int) (row : Row) : EventFeatures where
  eventId := row.eventId
  eventHourUtc := (sparkEvent timestamps rows row).eventHourUtc
  eventDayofweekUtc := (sparkEvent timestamps rows row).eventDayofweekUtc
  history := sparkHistory timestamps rows row
  chronoSplit := assignChronoSplit cutoffs (instant timestamps rows row / 1000000000)

end Events

variable {timestamps : Timestamps} {rows : List Row} {row a b : Row} {cutoffs : Int × Int}

theorem mapM_eq_map {α β : Type} {f : α → Option β} {g : α → β} {l : List α} (h : ∀ a ∈ l, f a = some (g a)) :
    l.mapM f = some (l.map g) := by
  induction l with
  | nil => rfl
  | cons a l ih =>
      rw [List.mapM_cons, h a List.mem_cons_self, ih fun b hb => h b (List.mem_cons_of_mem _ hb)]
      rfl

theorem exists_of_mapM {α β : Type} {f : α → Option β} {l : List α} {l' : List β} {b : β} (h : l.mapM f = some l')
    (hb : b ∈ l') : ∃ a ∈ l, f a = some b := by
  induction l generalizing l' with
  | nil =>
      cases h
      cases hb
  | cons a l ih =>
      simp only [List.mapM_cons, Option.pure_def, Option.bind_eq_bind, Option.bind_eq_some_iff, Option.some.injEq] at h
      obtain ⟨c, hc, rest, hrest, rfl⟩ := h
      rcases List.mem_cons.mp hb with rfl | hb
      · exact ⟨a, List.mem_cons_self, hc⟩
      · obtain ⟨source, hsource, hf⟩ := ih hrest hb
        exact ⟨source, List.mem_cons_of_mem _ hsource, hf⟩

theorem instant_of_valid (h : ValidRows timestamps rows) (hr : row ∈ rows) :
    timestamps.toDatetime (occurredAtColumn rows) row.occurredAt = some (instant timestamps rows row) := by
  obtain ⟨n, hn⟩ := h.instants row hr
  rw [instant, occurredAtColumn, hn]
  rfl

theorem accepted_of_valid {df : List RawEvent} (hp : (DataValidator.validateDataframe timestamps df).isValid)
    (hs : (SparkBigDataPipeline.validate timestamps df).isValid) :
    ∃ rows : List Row, df = rows.map Row.raw ∧ Accepted timestamps rows := by
  obtain ⟨rows, rfl, hvalid⟩ := valid_of_validateDataframe hp
  simp only [SparkBigDataPipeline.Report.isValid, SparkBigDataPipeline.validate, List.isEmpty_iff,
    List.append_eq_nil_iff, when_eq_nil, decide_eq_false_iff_not, gt_iff_lt, not_lt, Nat.le_zero,
    List.countP_eq_zero, List.length_map] at hs
  obtain ⟨⟨⟨⟨⟨⟨⟨hnonempty, -⟩, -⟩, -⟩, -⟩, hmicros⟩, -⟩, -⟩ := hs
  refine ⟨rows, rfl, hvalid, fun h => hnonempty (by rw [h]; rfl), fun row hr => ?_⟩
  have hmicros := hmicros row.raw (List.mem_map_of_mem hr)
  cases hm : timestamps.toTimestamp row.occurredAt with
  | none => simp [Row.raw, hm] at hmicros
  | some m => rw [timestamps.agree _ _ _ _ (instant_of_valid hvalid hr) hm]

theorem clean_readable (h : ∀ row ∈ rows, timestamps.toDatetime (occurredAtColumn rows) row.occurredAt ≠ none) :
    clean timestamps rows = some (rows.map (pandasEvent timestamps rows)) := by
  apply mapM_eq_map
  intro row hr
  obtain ⟨n, hn⟩ := Option.ne_none_iff_exists'.mp (h row hr)
  simp [pandasEvent, instant, hn]

theorem readable_of_valid {τ : Type} {rows : List (Row τ)} (h : ValidRows timestamps rows) :
    ∀ row ∈ rows, timestamps.toDatetime (occurredAtColumn rows) row.occurredAt ≠ none :=
  fun row hr => Option.ne_none_iff_exists'.mpr (h.instants row hr)

theorem clean_rows (h : ValidRows timestamps rows) :
    clean timestamps rows = some (rows.map (pandasEvent timestamps rows)) := clean_readable (readable_of_valid h)

theorem priors_pandas (row : Row) : priors (rows.map (pandasEvent timestamps rows)) (pandasEvent timestamps rows row) =
    (pandasPriors timestamps rows row).map (pandasEvent timestamps rows) := by
  rw [priors, ofCustomer, List.filter_map, below_map]
  rfl

theorem sec_eq (n : Int) : n / 1000 / 1000000 = n / 1000000000 := by omega

theorem order_spark (row : Row) :
    SparkBigDataPipeline.order (sparkEvent timestamps rows row) = sparkKey timestamps rows row := by
  simp only [SparkBigDataPipeline.order, sparkEvent, SparkBigDataPipeline.eventOf, sec_eq, sparkKey]

theorem priors_spark (row : Row) :
    SparkBigDataPipeline.priors (rows.map (sparkEvent timestamps rows)) (sparkEvent timestamps rows row) =
    (sparkPriors timestamps rows row).map (sparkEvent timestamps rows) := by
  rw [SparkBigDataPipeline.priors, List.filter_map, below_map]
  simp only [order_spark]
  rfl

theorem historyTable_events (events : List Event) : (historyTable events).map Prod.fst = orderBy sequenceOrder events :=
  map_fst_withPreceding historyOf _

theorem historyTable_perm (events : List Event) : ((historyTable events).map Prod.fst).Perm events := by
  rw [historyTable_events]
  exact orderBy_perm sequenceOrder events

theorem historyTable_hours {events : List Event} {withHistory : Event × HistoryFeatures} {hours : ℚ}
    (hrow : withHistory ∈ historyTable events) (hh : withHistory.2.hoursSincePrevEvent = some hours) :
    0 ≤ hours := by
  obtain ⟨_, hpreceding, rfl⟩ := List.mem_map.mp hrow
  exact hours_nonneg hpreceding hh

def splitTable (cutoffs : Int × Int) (table : List (Event × HistoryFeatures)) : List (Event × HistoryFeatures × Split) :=
  table.map fun row => (row.1, row.2, assignChronoSplit cutoffs row.1.occurredAt)

theorem columns_allowed : ∀ f ∈ categoricalColumns ++ numericColumns,
    f.map Char.toLower ∉ forbiddenFeatureNames := by decide +kernel

/-- The audit passes what the cut-offs of the table split. -/
theorem splitAndAudit_ok {events : List Event} {withHistory : List (Event × HistoryFeatures)}
    (hevents : (withHistory.map Prod.fst).Perm events)
    (hhours : ∀ row ∈ withHistory, ∀ hours, row.2.hoursSincePrevEvent = some hours → 0 ≤ hours)
    (hc : chronoCutoffs (events.map Event.occurredAt) = some cutoffs) :
    splitAndAudit withHistory = .ok (splitTable cutoffs withHistory) := by
  have hcutoffs : chronoCutoffs (withHistory.map fun row => row.1.occurredAt) = some cutoffs := by
    have hinstants : withHistory.map (fun row => row.1.occurredAt) = (withHistory.map Prod.fst).map Event.occurredAt :=
      List.map_map.symm
    rw [hinstants, chronoCutoffs_perm (hevents.map Event.occurredAt), hc]
  have hsplit : addChronoSplit withHistory = .ok (splitTable cutoffs withHistory) := by
    rw [addChronoSplit, hcutoffs]
    rfl
  have haudit : (LeakageAuditor.auditFeaturesAndSplits ((splitTable cutoffs withHistory).map auditRow)
      (categoricalColumns ++ numericColumns)).isLeakageFree = true := by
    apply LeakageAuditor.audit_of_cutoffs columns_allowed _ (cutoffs_ordered hc)
    · intro row hrow hours hh
      obtain ⟨_, hsplit, rfl⟩ := List.mem_map.mp hrow
      obtain ⟨source, hmem, rfl⟩ := List.mem_map.mp hsplit
      exact hhours source hmem hours hh
    · intro row hrow
      obtain ⟨_, hsplit, rfl⟩ := List.mem_map.mp hrow
      obtain ⟨_, -, rfl⟩ := List.mem_map.mp hsplit
      exact ⟨_, rfl, rfl⟩
  simp only [splitAndAudit, hsplit, haudit, bind, Except.bind]
  rfl

variable {table : List (Event × HistoryFeatures × Split)}

theorem splitAndAudit_historyTable (hc : chronoCutoffs (rows.map (instant timestamps rows)) = some cutoffs) :
    splitAndAudit (historyTable (rows.map (pandasEvent timestamps rows))) =
      .ok (splitTable cutoffs (historyTable (rows.map (pandasEvent timestamps rows)))) := by
  have hinstants : (rows.map (pandasEvent timestamps rows)).map Event.occurredAt =
      rows.map (instant timestamps rows) := List.map_map
  exact splitAndAudit_ok (historyTable_perm _) (fun _ hrow _ => historyTable_hours hrow) (hinstants ▸ hc)

theorem transform_ok (h : Accepted timestamps rows)
    (hc : chronoCutoffs (rows.map (instant timestamps rows)) = some cutoffs)
    (hok : PandasPreprocessor.transform timestamps rows = .ok table) :
    (∃ withHistory, addHistoryFeatures (rows.map (pandasEvent timestamps rows)) = .ok withHistory) ∧
      table = splitTable cutoffs (historyTable (rows.map (pandasEvent timestamps rows))) := by
  rw [PandasPreprocessor.transform, clean_rows h.toValidRows] at hok
  cases hhistory : addHistoryFeatures (rows.map (pandasEvent timestamps rows)) with
  | error failure => simp [hhistory, bind, Except.bind] at hok
  | ok withHistory =>
      obtain ⟨rfl, -⟩ := of_ok hhistory
      simp only [hhistory, bind, Except.bind, splitAndAudit_historyTable hc] at hok
      exact ⟨⟨_, rfl⟩, (Except.ok.inj hok).symm⟩

theorem transform_of_ok (h : Accepted timestamps rows)
    (hids : ((rows.map (pandasEvent timestamps rows)).map Event.eventId).Nodup)
    (hc : chronoCutoffs (rows.map (instant timestamps rows)) = some cutoffs)
    (hcount : Countable (rows.map (pandasEvent timestamps rows))) :
    PandasPreprocessor.transform timestamps rows =
      .ok (splitTable cutoffs (historyTable (rows.map (pandasEvent timestamps rows)))) := by
  obtain ⟨withHistory, hhistory⟩ := (returns_iff hids).mpr hcount
  obtain ⟨rfl, -⟩ := of_ok hhistory
  rw [PandasPreprocessor.transform, clean_rows h.toValidRows]
  simp only [hhistory, bind, Except.bind, splitAndAudit_historyTable hc]

theorem ids_spark (h : Accepted timestamps rows) :
    ((rows.map (sparkEvent timestamps rows)).map SparkBigDataPipeline.SparkEvent.eventId).Nodup := by
  have hids : (rows.map (sparkEvent timestamps rows)).map SparkBigDataPipeline.SparkEvent.eventId =
      rows.map Row.eventId := List.map_map
  rw [hids]
  exact h.ids

theorem spark_events (h : Accepted timestamps rows) :
    rows.mapM (fun row => (timestamps.toTimestamp row.occurredAt).map (SparkBigDataPipeline.eventOf row)) =
      some (rows.map (sparkEvent timestamps rows)) := by
  apply mapM_eq_map
  intro row hr
  rw [h.micros row hr]
  rfl

def wholeSeconds (cutoffs : Int × Int) : Int × Int := (cutoffs.1 / 1000000000, cutoffs.2 / 1000000000)

/-- The cut-offs that Spark finds are the whole seconds of the exact ones. -/
theorem cutoffs_spark (hc : chronoCutoffs (rows.map (instant timestamps rows)) = some cutoffs) :
    SparkBigDataPipeline.exactCutoffs
      ((SparkBigDataPipeline.historyTable (rows.map (sparkEvent timestamps rows))).map fun row => row.1.occurredAtSec) =
      some (wholeSeconds cutoffs) := by
  have hrows : (SparkBigDataPipeline.historyTable (rows.map (sparkEvent timestamps rows))).map
      (fun row => row.1.occurredAtSec) =
      (orderBy SparkBigDataPipeline.order (rows.map (sparkEvent timestamps rows))).map
        SparkBigDataPipeline.SparkEvent.occurredAtSec := by
    rw [← SparkBigDataPipeline.historyTable_events, List.map_map]
    rfl
  have hseconds : (rows.map (sparkEvent timestamps rows)).map SparkBigDataPipeline.SparkEvent.occurredAtSec =
      (rows.map (instant timestamps rows)).map (· / 1000000000) := by
    rw [List.map_map, List.map_map]
    exact List.map_congr_left fun row _ => sec_eq (instant timestamps rows row)
  rw [SparkBigDataPipeline.exactCutoffs_eq, hrows,
    chronoCutoffs_perm ((orderBy_perm _ _).map SparkBigDataPipeline.SparkEvent.occurredAtSec), hseconds,
    chronoCutoffs_map fun _ _ hab => Int.ediv_le_ediv (by norm_num) hab, hc]
  rfl

theorem features_spark (row : Row) : SparkBigDataPipeline.features (sparkEvent timestamps rows row,
    SparkBigDataPipeline.historyOf (SparkBigDataPipeline.priors (rows.map (sparkEvent timestamps rows))
      (sparkEvent timestamps rows row)) (sparkEvent timestamps rows row),
    assignChronoSplit (wholeSeconds cutoffs) (sparkEvent timestamps rows row).occurredAtSec) =
    sparkFeatures timestamps rows (wholeSeconds cutoffs) row := by
  rw [sparkFeatures, sparkHistory, priors_spark, ← sec_eq]
  rfl

theorem transform_spark (h : Accepted timestamps rows)
    (hc : chronoCutoffs (rows.map (instant timestamps rows)) = some cutoffs) :
    ∃ spark, SparkBigDataPipeline.transform timestamps rows = some spark ∧
      ∀ f, f ∈ spark.map SparkBigDataPipeline.features ↔
        ∃ row ∈ rows, f = sparkFeatures timestamps rows (wholeSeconds cutoffs) row := by
  simp only [SparkBigDataPipeline.transform, spark_events h, Option.bind_eq_bind, Option.bind_some, cutoffs_spark hc,
    Option.pure_def]
  refine ⟨_, rfl, fun f => ?_⟩
  constructor
  · intro hf
    obtain ⟨_, hsplit, rfl⟩ := List.mem_map.mp hf
    obtain ⟨⟨e, history⟩, hmem, rfl⟩ := List.mem_map.mp hsplit
    obtain ⟨he, rfl⟩ := (SparkBigDataPipeline.mem_historyTable (ids_spark h)).mp hmem
    obtain ⟨row, hr, rfl⟩ := List.mem_map.mp he
    exact ⟨row, hr, features_spark row⟩
  · rintro ⟨row, hr, rfl⟩
    rw [← features_spark]
    apply List.mem_map_of_mem
    have hmem := (SparkBigDataPipeline.mem_historyTable (ids_spark h)).mpr
      ⟨List.mem_map_of_mem (f := sparkEvent timestamps rows) hr, rfl⟩
    exact List.mem_map.mpr ⟨_, hmem, rfl⟩

/-- The rows that pandas gives, when the stripped ids are distinct. -/
theorem mem_splitTable (hids : ((rows.map (pandasEvent timestamps rows)).map Event.eventId).Nodup) {f : EventFeatures} :
    f ∈ (splitTable cutoffs (historyTable (rows.map (pandasEvent timestamps rows)))).map PandasPreprocessor.features ↔
      ∃ row ∈ rows, f = pandasFeatures timestamps rows cutoffs row := by
  have hfeatures : ∀ row, pandasFeatures timestamps rows cutoffs row = PandasPreprocessor.features
      (pandasEvent timestamps rows row, historyOf (priors (rows.map (pandasEvent timestamps rows))
        (pandasEvent timestamps rows row)) (pandasEvent timestamps rows row),
        assignChronoSplit cutoffs (instant timestamps rows row)) := by
    intro row
    rw [pandasFeatures, pandasHistory, priors_pandas]
    rfl
  constructor
  · intro hf
    obtain ⟨_, hsplit, rfl⟩ := List.mem_map.mp hf
    obtain ⟨⟨e, history⟩, hmem, rfl⟩ := List.mem_map.mp hsplit
    obtain ⟨he, rfl⟩ := (mem_historyTable (sequenceOrder_nodup hids)).mp hmem
    obtain ⟨row, hr, rfl⟩ := List.mem_map.mp he
    exact ⟨row, hr, (hfeatures row).symm⟩
  · rintro ⟨row, hr, rfl⟩
    rw [hfeatures]
    apply List.mem_map_of_mem
    have hmem := (mem_historyTable (sequenceOrder_nodup hids)).mpr
      ⟨List.mem_map_of_mem (f := pandasEvent timestamps rows) hr, rfl⟩
    exact List.mem_map.mpr ⟨_, hmem, rfl⟩

end RevenueRescue.Pipeline
