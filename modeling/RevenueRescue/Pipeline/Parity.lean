import Mathlib.Algebra.Order.BigOperators.Group.List
import RevenueRescue.Pipeline.RowFeatures

namespace RevenueRescue.Pipeline

open Window OrderStatistic PandasPreprocessor

/-- Both pipelines transform the table, and say the same of each event. -/
def Parity (timestamps : Timestamps) (rows : List Row) : Prop :=
  ∃ pandas spark, PandasPreprocessor.transform timestamps rows = .ok pandas ∧
    SparkBigDataPipeline.transform timestamps rows = some spark ∧
    ∀ f, f ∈ pandas.map PandasPreprocessor.features ↔ f ∈ spark.map SparkBigDataPipeline.features

/-- What the two pipelines need to agree on a valid table. -/
structure Comparable (timestamps : Timestamps) (rows : List Row) : Prop where
  ids : ∀ row ∈ rows, row.eventId.strip = row.eventId
  customers : ∀ a ∈ rows, ∀ b ∈ rows, a.customerId.strip = b.customerId.strip → a.customerId = b.customerId
  short : ∀ row ∈ rows, (ofCustomerId rows row).length ≤ 32768
  fractions : ∀ a ∈ rows, ∀ b ∈ rows, a.customerId = b.customerId →
    instant timestamps rows a % 1000000000 = instant timestamps rows b % 1000000000
  seconds : ∀ q, q = splitFractions.1 ∨ q = splitFractions.2 → ∀ cutoff,
    IsKth (rows.map (instant timestamps rows)) (cutoffIndex q rows.length) cutoff →
    ∀ row ∈ rows, instant timestamps rows row < cutoff →
      instant timestamps rows row / 1000000000 < cutoff / 1000000000

variable {timestamps : Timestamps} {rows : List Row} {row a b : Row} {cutoffs : Int × Int}

theorem strip_eventType (h : Accepted timestamps rows) (hr : row ∈ rows) : row.eventType.strip = row.eventType := by
  have hvalid : ∀ value ∈ validEventTypes, Text.strip value = value := by decide +kernel
  exact hvalid _ (h.types row hr)

theorem strip_failureReason (h : Accepted timestamps rows) (hr : row ∈ rows) :
    row.failureReason.strip = row.failureReason := by
  have hvalid : ∀ value ∈ validFailureReasons, Text.strip value = value := by decide +kernel
  exact hvalid _ (h.reasons row hr)

theorem exists_cutoffs_rows (h : Accepted timestamps rows) :
    ∃ cutoffs, chronoCutoffs (rows.map (instant timestamps rows)) = some cutoffs :=
  exists_cutoffs (by simpa using h.nonempty)

/-- An event_id with blanks at an end is in one table only. -/
theorem unpadded_of_parity (h : Accepted timestamps rows) (hp : Parity timestamps rows) (hr : row ∈ rows) :
    row.eventId.strip = row.eventId := by
  obtain ⟨cutoffs, hc⟩ := exists_cutoffs_rows h
  obtain ⟨pandas, spark, hpandas, hspark, hsame⟩ := hp
  obtain ⟨_, hspark', hfeatures⟩ := transform_spark h hc
  obtain rfl := Option.some.inj (hspark.symm.trans hspark')
  obtain ⟨-, rfl⟩ := transform_ok h hc hpandas
  obtain ⟨other, hother, he⟩ := List.mem_map.mp ((hsame _).mpr ((hfeatures _).mpr ⟨row, hr, rfl⟩))
  obtain ⟨entry, hentry, rfl⟩ := List.mem_map.mp hother
  have hmem : entry.1 ∈ orderBy sequenceOrder (rows.map (pandasEvent timestamps rows)) :=
    historyTable_events _ ▸ List.mem_map_of_mem hentry
  obtain ⟨source, -, hsource⟩ := List.mem_map.mp (mem_orderBy.mp hmem)
  have hid : source.eventId.strip = row.eventId := by
    have hid := congrArg EventFeatures.eventId he
    rw [← show (pandasEvent timestamps rows source).eventId = source.eventId.strip from rfl, hsource]
    exact hid
  rw [← hid, Text.strip_strip]

theorem ids_pandas (h : Accepted timestamps rows) (hids : ∀ row ∈ rows, row.eventId.strip = row.eventId) :
    ((rows.map (pandasEvent timestamps rows)).map Event.eventId).Nodup := by
  have hmap : (rows.map (pandasEvent timestamps rows)).map Event.eventId = rows.map Row.eventId := by
    rw [List.map_map]
    exact List.map_congr_left hids
  rw [hmap]
  exact h.ids

/-- With plain ids the two tables are compared row by row. -/
theorem parity_iff_features (h : Accepted timestamps rows) (hids : ∀ row ∈ rows, row.eventId.strip = row.eventId)
    (hc : chronoCutoffs (rows.map (instant timestamps rows)) = some cutoffs) :
    Parity timestamps rows ↔ Countable (rows.map (pandasEvent timestamps rows)) ∧
      ∀ row ∈ rows, pandasFeatures timestamps rows cutoffs row = sparkFeatures timestamps rows (wholeSeconds cutoffs) row := by
  have hnodup := ids_pandas h hids
  obtain ⟨spark, hspark, hfeatures⟩ := transform_spark h hc
  constructor
  · rintro ⟨pandas, other, hpandas, hother, hsame⟩
    obtain rfl := Option.some.inj (hspark.symm.trans hother)
    obtain ⟨hok, rfl⟩ := transform_ok h hc hpandas
    refine ⟨(returns_iff hnodup).mp hok, fun row hr => ?_⟩
    obtain ⟨source, hsource, he⟩ :=
      (mem_splitTable hnodup).mp ((hsame _).mpr ((hfeatures _).mpr ⟨row, hr, rfl⟩))
    have hid : row.eventId = source.eventId.strip := congrArg EventFeatures.eventId he
    rw [hids source hsource] at hid
    rw [List.inj_on_of_nodup_map h.ids hr hsource hid] at he ⊢
    exact he.symm
  · rintro ⟨hcount, heq⟩
    refine ⟨_, spark, transform_of_ok h hnodup hc hcount, hspark, fun f => ?_⟩
    rw [mem_splitTable hnodup, hfeatures]
    constructor
    · rintro ⟨row, hr, rfl⟩
      exact ⟨row, hr, heq row hr⟩
    · rintro ⟨row, hr, rfl⟩
      exact ⟨row, hr, (heq row hr).symm⟩

/-- The ids and the calendar of a row are the same; its history and its split may differ. -/
theorem features_eq_iff (hid : row.eventId.strip = row.eventId) :
    pandasFeatures timestamps rows cutoffs row = sparkFeatures timestamps rows (wholeSeconds cutoffs) row ↔
      pandasHistory timestamps rows row = sparkHistory timestamps rows row ∧
      assignChronoSplit cutoffs (instant timestamps rows row) =
        assignChronoSplit (wholeSeconds cutoffs) (instant timestamps rows row / 1000000000) := by
  have hhour : (pandasEvent timestamps rows row).eventHourUtc = (sparkEvent timestamps rows row).eventHourUtc := by
    simp only [pandasEvent, cleanRow, sparkEvent, SparkBigDataPipeline.eventOf]
    congr 1
    omega
  have hday : (pandasEvent timestamps rows row).eventDayofweekUtc =
      (sparkEvent timestamps rows row).eventDayofweekUtc := by
    simp only [pandasEvent, cleanRow, sparkEvent, SparkBigDataPipeline.eventOf, SparkBigDataPipeline.dayofweek]
    congr 1
    omega
  simp only [pandasFeatures, sparkFeatures, EventFeatures.mk.injEq, hid, hhour, hday, true_and]

theorem pandasHistory_eq (row : Row) : pandasHistory timestamps rows row =
    historyOf (priors (rows.map (pandasEvent timestamps rows)) (pandasEvent timestamps rows row))
      (pandasEvent timestamps rows row) := by
  rw [pandasHistory, priors_pandas]

theorem sparkHistory_eq (row : Row) : sparkHistory timestamps rows row = SparkBigDataPipeline.historyOf
    (SparkBigDataPipeline.priors (rows.map (sparkEvent timestamps rows)) (sparkEvent timestamps rows row))
    (sparkEvent timestamps rows row) := by
  rw [sparkHistory, priors_spark]

theorem pandasKey_nodup (h : Accepted timestamps rows) (hids : ∀ row ∈ rows, row.eventId.strip = row.eventId) :
    (rows.map (pandasKey timestamps rows)).Nodup := by
  have hnodup := ids_pandas h hids
  rw [List.map_map] at hnodup
  apply List.Nodup.of_map fun key => (ofLex key).2
  rwa [List.map_map]

theorem sparkKey_nodup (h : Accepted timestamps rows) : (rows.map (sparkKey timestamps rows)).Nodup := by
  apply List.Nodup.of_map fun key => (ofLex key).2
  rw [List.map_map]
  exact h.ids

/-- The mean of Spark is never negative. -/
theorem sparkMean_nonneg {mean : ℚ} (h : Accepted timestamps rows)
    (hm : (sparkHistory timestamps rows row).custPriorAmountMean = some mean) : 0 ≤ mean := by
  rw [sparkHistory_eq, SparkBigDataPipeline.historyOf_priors] at hm
  dsimp only at hm
  unfold SparkBigDataPipeline.avg at hm
  split_ifs at hm
  obtain rfl := Option.some.inj hm
  apply div_nonneg _ (Nat.cast_nonneg _)
  have hsum : 0 ≤ ((SparkBigDataPipeline.priors (rows.map (sparkEvent timestamps rows))
      (sparkEvent timestamps rows row)).map SparkBigDataPipeline.SparkEvent.amountPaise).sum := by
    apply List.sum_nonneg
    intro x hx
    obtain ⟨e, he, rfl⟩ := List.mem_map.mp hx
    obtain ⟨source, hsource, rfl⟩ := List.mem_map.mp (SparkBigDataPipeline.mem_priors.mp he).1
    exact (h.amounts source hsource).le
  exact_mod_cast hsum

/-- From the 32769th event on the mean of pandas is negative. -/
theorem ofStripped_short (h : Accepted timestamps rows) (hids : ∀ row ∈ rows, row.eventId.strip = row.eventId)
    (heq : ∀ row ∈ rows, pandasHistory timestamps rows row = sparkHistory timestamps rows row) (row : Row) :
    (ofStripped rows row).length ≤ 32768 := by
  by_contra hlong
  have hnodup : ((ofStripped rows row).map (pandasKey timestamps rows)).Nodup :=
    (pandasKey_nodup h hids).sublist (List.filter_sublist.map _)
  obtain ⟨z, hz, hrank⟩ := exists_rank hnodup (not_le.mp hlong)
  obtain ⟨hzrows, hsame⟩ := List.mem_filter.mp hz
  have hgroup : ofStripped rows z = ofStripped rows row := by simp only [ofStripped, of_decide_eq_true hsame]
  have hlen : (priors (rows.map (pandasEvent timestamps rows)) (pandasEvent timestamps rows z)).length = 32768 := by
    rw [priors_pandas, List.length_map, pandasPriors, hgroup, hrank]
  have hpos : 0 < ((priors (rows.map (pandasEvent timestamps rows)) (pandasEvent timestamps rows z)).map
      Event.amountPaise).sum := by
    apply List.sum_pos
    · intro x hx
      obtain ⟨e, he, rfl⟩ := List.mem_map.mp hx
      obtain ⟨source, hsource, rfl⟩ := List.mem_map.mp (PandasPreprocessor.mem_priors.mp he).1
      exact h.amounts source hsource
    · rw [ne_eq, List.map_eq_nil_iff]
      exact List.ne_nil_of_length_pos (by omega)
  have hmean : (pandasHistory timestamps rows z).custPriorAmountMean =
      some (((priors (rows.map (pandasEvent timestamps rows)) (pandasEvent timestamps rows z)).map
        Event.amountPaise).sum / (-32768 : ℚ)) := by
    rw [pandasHistory_eq, historyOf_exact, hlen]
    rfl
  rw [heq z hzrows] at hmean
  have hnonneg := sparkMean_nonneg h hmean
  have hneg : (((priors (rows.map (pandasEvent timestamps rows)) (pandasEvent timestamps rows z)).map
      Event.amountPaise).sum : ℚ) / (-32768 : ℚ) < 0 := div_neg_of_pos_of_neg (by exact_mod_cast hpos) (by norm_num)
  exact absurd hnonneg hneg.not_ge

theorem pandasPriors_length_lt (timestamps : Timestamps) (hr : row ∈ rows) :
    (pandasPriors timestamps rows row).length < (ofStripped rows row).length := by
  rw [pandasPriors, below, (orderBy_perm _ _).length_eq]
  apply List.length_filter_lt_length_iff_exists.mpr
  exact ⟨row, by simp [ofStripped, hr], by simp⟩

theorem sparkPriors_length_lt (timestamps : Timestamps) (hr : row ∈ rows) :
    (sparkPriors timestamps rows row).length < (ofCustomerId rows row).length := by
  rw [sparkPriors, below, (orderBy_perm _ _).length_eq]
  apply List.length_filter_lt_length_iff_exists.mpr
  exact ⟨row, by simp [ofCustomerId, hr], by simp⟩

theorem ofCustomerId_stripped : ofCustomerId rows row =
    (ofStripped rows row).filter fun a => a.customerId = row.customerId := by
  rw [ofCustomerId, ofStripped, List.filter_filter]
  apply List.filter_congr
  intro a _
  by_cases hc : a.customerId = row.customerId <;> simp [hc]

/-- Histories short enough for the counters are as long in both pipelines. -/
theorem priors_length_eq (heq : pandasHistory timestamps rows row = sparkHistory timestamps rows row)
    (hr : row ∈ rows) (hshort : (ofStripped rows row).length ≤ 32768) :
    (pandasPriors timestamps rows row).length = (sparkPriors timestamps rows row).length := by
  have hcount : int16 (pandasPriors timestamps rows row).length = int16 (sparkPriors timestamps rows row).length := by
    have hevents := congrArg HistoryFeatures.custPriorEvents heq
    rw [pandasHistory_eq, sparkHistory_eq, historyOf_exact, SparkBigDataPipeline.historyOf_priors, priors_pandas,
      priors_spark] at hevents
    simpa using hevents
  have hlt := pandasPriors_length_lt timestamps hr
  have hlt' := sparkPriors_length_lt timestamps hr
  have hle : (ofCustomerId rows row).length ≤ (ofStripped rows row).length := by
    rw [ofCustomerId_stripped]
    exact List.length_filter_le _ _
  rw [int16_of_small (by omega) (by omega), int16_of_small (by omega) (by omega)] at hcount
  exact_mod_cast hcount

/-- Customers that differ in blanks only are one customer of pandas, whose last event counts too many. -/
theorem customers_of_history (h : Accepted timestamps rows) (hids : ∀ row ∈ rows, row.eventId.strip = row.eventId)
    (heq : ∀ row ∈ rows, pandasHistory timestamps rows row = sparkHistory timestamps rows row)
    (ha : a ∈ rows) (hb : b ∈ rows) (hab : a.customerId.strip = b.customerId.strip) :
    a.customerId = b.customerId := by
  by_contra hne
  have hnodup : ((ofStripped rows a).map (pandasKey timestamps rows)).Nodup :=
    (pandasKey_nodup h hids).sublist (List.filter_sublist.map _)
  have hself : a ∈ ofStripped rows a := by simp [ofStripped, ha]
  have hpos := List.length_pos_of_mem hself
  obtain ⟨z, hz, hrank⟩ := exists_rank hnodup (Nat.sub_one_lt_of_lt hpos)
  obtain ⟨hzrows, hsame⟩ := List.mem_filter.mp hz
  have hgroup : ofStripped rows z = ofStripped rows a := by simp only [ofStripped, of_decide_eq_true hsame]
  have hlen : (pandasPriors timestamps rows z).length = (ofStripped rows a).length - 1 := by
    rw [pandasPriors, hgroup, hrank]
  have hfew : (ofCustomerId rows z).length < (ofStripped rows a).length := by
    rw [ofCustomerId_stripped, hgroup]
    apply List.length_filter_lt_length_iff_exists.mpr
    by_cases hza : a.customerId = z.customerId
    · exact ⟨b, by simp [ofStripped, hb, hab], by simpa [← hza] using fun h => hne h.symm⟩
    · exact ⟨a, hself, by simpa using hza⟩
  have hcount := priors_length_eq (heq z hzrows) hzrows (ofStripped_short h hids heq z)
  have hlt := sparkPriors_length_lt timestamps hzrows
  omega

/-- Where customers are told apart, both pipelines group the rows in the same way. -/
theorem ofStripped_eq (hcustomers : ∀ a ∈ rows, ∀ b ∈ rows, a.customerId.strip = b.customerId.strip →
    a.customerId = b.customerId) (hr : row ∈ rows) : ofStripped rows row = ofCustomerId rows row := by
  apply List.filter_congr
  intro a ha
  rw [decide_eq_decide]
  exact ⟨hcustomers a ha row hr, fun hc => congrArg Text.strip hc⟩

/-- Two keys that order a customer's rows in the same way give the same prior rows. -/
theorem priors_eq_of_order (hgroup : ofStripped rows row = ofCustomerId rows row) (hr : row ∈ rows)
    (horder : ∀ a ∈ ofCustomerId rows row, ∀ b ∈ ofCustomerId rows row,
      pandasKey timestamps rows a < pandasKey timestamps rows b ↔ sparkKey timestamps rows a < sparkKey timestamps rows b) :
    pandasPriors timestamps rows row = sparkPriors timestamps rows row := by
  have hself : row ∈ ofCustomerId rows row := by simp [ofCustomerId, hr]
  have hfilter : ((ofCustomerId rows row).filter fun a => pandasKey timestamps rows a < pandasKey timestamps rows row) =
      (ofCustomerId rows row).filter fun a => sparkKey timestamps rows a < sparkKey timestamps rows row := by
    apply List.filter_congr
    intro a ha
    rw [decide_eq_decide]
    exact horder a ha row hself
  rw [pandasPriors, hgroup, below, hfilter, sparkPriors, below]
  apply orderBy_congr
  intro a ha b hb
  exact horder a (List.mem_filter.mp ha).1 b (List.mem_filter.mp hb).1

theorem mem_ofCustomerId : a ∈ ofCustomerId rows row ↔ a ∈ rows ∧ a.customerId = row.customerId := by
  simp [ofCustomerId]

theorem ofCustomerId_congr (hab : a.customerId = b.customerId) : ofCustomerId rows a = ofCustomerId rows b := by
  simp only [ofCustomerId, hab]

/-- The counts fix the order of a customer's rows, so both pipelines have the same one. -/
theorem order_of_history (h : Accepted timestamps rows) (hids : ∀ row ∈ rows, row.eventId.strip = row.eventId)
    (heq : ∀ row ∈ rows, pandasHistory timestamps rows row = sparkHistory timestamps rows row)
    (ha : a ∈ ofCustomerId rows row) (hb : b ∈ ofCustomerId rows row) :
    pandasKey timestamps rows a < pandasKey timestamps rows b ↔ sparkKey timestamps rows a < sparkKey timestamps rows b := by
  have hcustomers : ∀ a ∈ rows, ∀ b ∈ rows, a.customerId.strip = b.customerId.strip → a.customerId = b.customerId :=
    fun a ha b hb => customers_of_history h hids heq ha hb
  apply lt_iff_of_rank ((pandasKey_nodup h hids).sublist (List.filter_sublist.map _))
    ((sparkKey_nodup h).sublist (List.filter_sublist.map _)) _ ha hb
  intro x hx
  obtain ⟨hxrows, hc⟩ := mem_ofCustomerId.mp hx
  have hcount := priors_length_eq (heq x hxrows) hxrows (ofStripped_short h hids heq x)
  rw [pandasPriors, sparkPriors, ofStripped_eq hcustomers hxrows, ofCustomerId_congr hc] at hcount
  exact hcount

theorem fraction_prev {prev : Row} (heq : pandasHistory timestamps rows row = sparkHistory timestamps rows row)
    (hpriors : pandasPriors timestamps rows row = sparkPriors timestamps rows row)
    (hprev : (pandasPriors timestamps rows row).getLast? = some prev) :
    instant timestamps rows row % 1000000000 = instant timestamps rows prev % 1000000000 := by
  have hhours := congrArg HistoryFeatures.hoursSincePrevEvent heq
  rw [pandasHistory_eq, sparkHistory_eq, historyOf_exact, SparkBigDataPipeline.historyOf_priors, priors_pandas,
    priors_spark] at hhours
  simp only [List.getLast?_map, ← hpriors, hprev, Option.map_some, Option.some.injEq, pandasEvent, cleanRow,
    sparkEvent, SparkBigDataPipeline.eventOf, sec_eq] at hhours
  have hdiff : ((instant timestamps rows row - instant timestamps rows prev : Int) : ℚ) =
      ((1000000000 * (instant timestamps rows row / 1000000000 - instant timestamps rows prev / 1000000000) : Int) : ℚ) := by
    rw [Int.cast_mul]
    push_cast
    push_cast at hhours
    linarith
  have hdiff : instant timestamps rows row - instant timestamps rows prev =
      1000000000 * (instant timestamps rows row / 1000000000 - instant timestamps rows prev / 1000000000) := by
    exact_mod_cast hdiff
  omega

/-- The hours agree along a customer's history only if all its timestamps have
the same fraction of a second: from each event to the one before it, and so to
the first. -/
theorem fractions_of_history (h : Accepted timestamps rows) (hids : ∀ row ∈ rows, row.eventId.strip = row.eventId)
    (heq : ∀ row ∈ rows, pandasHistory timestamps rows row = sparkHistory timestamps rows row)
    (ha : a ∈ rows) (hb : b ∈ rows) (hab : a.customerId = b.customerId) :
    instant timestamps rows a % 1000000000 = instant timestamps rows b % 1000000000 := by
  have hcustomers : ∀ a ∈ rows, ∀ b ∈ rows, a.customerId.strip = b.customerId.strip → a.customerId = b.customerId :=
    fun a ha b hb => customers_of_history h hids heq ha hb
  have hnodup : ((ofCustomerId rows a).map (pandasKey timestamps rows)).Nodup :=
    (pandasKey_nodup h hids).sublist (List.filter_sublist.map _)
  have hself : a ∈ ofCustomerId rows a := mem_ofCustomerId.mpr ⟨ha, rfl⟩
  obtain ⟨first, hfirst, hzero⟩ := exists_rank hnodup (List.length_pos_of_mem hself)
  have hall : ∀ n, ∀ x ∈ ofCustomerId rows a,
      (below (pandasKey timestamps rows) (ofCustomerId rows a) (pandasKey timestamps rows x)).length = n →
      instant timestamps rows x % 1000000000 = instant timestamps rows first % 1000000000 := by
    intro n
    induction n using Nat.strong_induction_on with
    | _ n ih =>
        intro x hx hlen
        obtain ⟨hxrows, hc⟩ := mem_ofCustomerId.mp hx
        have hgroup : ofCustomerId rows x = ofCustomerId rows a := ofCustomerId_congr hc
        have hpandas : pandasPriors timestamps rows x =
            below (pandasKey timestamps rows) (ofCustomerId rows a) (pandasKey timestamps rows x) := by
          rw [pandasPriors, ofStripped_eq hcustomers hxrows, hgroup]
        have hpriors : pandasPriors timestamps rows x = sparkPriors timestamps rows x :=
          priors_eq_of_order (ofStripped_eq hcustomers hxrows) hxrows
            fun y hy z hz => order_of_history h hids heq hy hz
        cases hlast : (pandasPriors timestamps rows x).getLast? with
        | none =>
            have hnil := List.getLast?_eq_none_iff.mp hlast
            rw [← hpandas, hnil, List.length_nil] at hlen
            rcases lt_trichotomy (pandasKey timestamps rows x) (pandasKey timestamps rows first) with hlt | he | hgt
            · have hlt := below_length_lt hx hlt
              omega
            · rw [List.inj_on_of_nodup_map hnodup hx hfirst he]
            · have hlt := below_length_lt hfirst hgt
              rw [← hpandas, hnil, List.length_nil] at hlt
              omega
        | some prev =>
            have hmem := List.mem_of_getLast? hlast
            rw [hpandas, mem_below] at hmem
            have hlt := below_length_lt hmem.1 hmem.2
            rw [fraction_prev (heq x hxrows) hpriors hlast]
            exact ih _ (hlen ▸ hlt) prev hmem.1 rfl
  rw [hall _ a hself rfl, hall _ b (mem_ofCustomerId.mpr ⟨hb, hab.symm⟩) rfl]

theorem isKth_cutoffs (hc : chronoCutoffs (rows.map (instant timestamps rows)) = some cutoffs) :
    IsKth (rows.map (instant timestamps rows)) (cutoffIndex splitFractions.1 rows.length) cutoffs.1 ∧
    IsKth (rows.map (instant timestamps rows)) (cutoffIndex splitFractions.2 rows.length) cutoffs.2 := by
  obtain ⟨h70, h85⟩ := chronoCutoffs_eq_some.mp hc
  rw [List.length_map] at h70 h85
  exact ⟨kth_eq_some.mp h70, kth_eq_some.mp h85⟩

/-- Rounding to seconds keeps the splits unless it takes an event to its cut-off. -/
theorem splits_iff (hc : chronoCutoffs (rows.map (instant timestamps rows)) = some cutoffs) :
    (∀ row ∈ rows, assignChronoSplit cutoffs (instant timestamps rows row) =
      assignChronoSplit (wholeSeconds cutoffs) (instant timestamps rows row / 1000000000)) ↔
    ∀ q, q = splitFractions.1 ∨ q = splitFractions.2 → ∀ cutoff,
      IsKth (rows.map (instant timestamps rows)) (cutoffIndex q rows.length) cutoff →
      ∀ row ∈ rows, instant timestamps rows row < cutoff →
        instant timestamps rows row / 1000000000 < cutoff / 1000000000 := by
  obtain ⟨h70, h85⟩ := isKth_cutoffs hc
  have hordered := cutoffs_ordered hc
  have hwhole : (wholeSeconds cutoffs).1 ≤ (wholeSeconds cutoffs).2 := Int.ediv_le_ediv (by norm_num) hordered
  have hunique : ∀ {k : Nat} {c d : Int}, IsKth (rows.map (instant timestamps rows)) k c →
      IsKth (rows.map (instant timestamps rows)) k d → c = d :=
    fun hk hk' => Option.some.inj ((kth_eq_some.mpr hk).symm.trans (kth_eq_some.mpr hk'))
  constructor
  · intro hsplit q hq cutoff hcutoff row hr hlt
    obtain ⟨hfirst, hsecond⟩ := (split_eq_iff hordered hwhole).mp (hsplit row hr)
    rcases hq with rfl | rfl
    · rw [hunique hcutoff h70] at hlt ⊢
      exact hfirst.mp hlt
    · rw [hunique hcutoff h85] at hlt ⊢
      exact hsecond.mp hlt
  · intro hseconds row hr
    rw [split_eq_iff hordered hwhole]
    have hfirst := hseconds _ (.inl rfl) _ h70 row hr
    have hsecond := hseconds _ (.inr rfl) _ h85 row hr
    refine ⟨⟨hfirst, fun hlt => ?_⟩, ⟨hsecond, fun hlt => ?_⟩⟩
    · simp only [wholeSeconds] at hlt
      omega
    · simp only [wholeSeconds] at hlt
      omega

/-- Where the fractions of a second agree, the order by seconds is the order by instants. -/
theorem order_of_fractions (hids : ∀ row ∈ rows, row.eventId.strip = row.eventId) (ha : a ∈ rows) (hb : b ∈ rows)
    (hfraction : instant timestamps rows a % 1000000000 = instant timestamps rows b % 1000000000) :
    pandasKey timestamps rows a < pandasKey timestamps rows b ↔ sparkKey timestamps rows a < sparkKey timestamps rows b := by
  have hlt : instant timestamps rows a < instant timestamps rows b ↔
      instant timestamps rows a / 1000000000 < instant timestamps rows b / 1000000000 := by omega
  have he : instant timestamps rows a = instant timestamps rows b ↔
      instant timestamps rows a / 1000000000 = instant timestamps rows b / 1000000000 := by omega
  rw [pandasKey, pandasKey, sparkKey, sparkKey, Prod.Lex.toLex_lt_toLex, Prod.Lex.toLex_lt_toLex, hids a ha, hids b hb]
  simp only [hlt, he]

theorem sum_flags (h : Accepted timestamps rows) {l : List Row} (hl : ∀ a ∈ l, a ∈ rows) (eventType : Text) :
    ((l.map (pandasEvent timestamps rows)).map (typeFlag eventType)).sum =
      ((l.map (sparkEvent timestamps rows)).map (SparkBigDataPipeline.typeFlag eventType)).sum := by
  rw [List.map_map, List.map_map]
  congr 1
  apply List.map_congr_left
  intro a ha
  have htype : (pandasEvent timestamps rows a).eventType = (sparkEvent timestamps rows a).eventType :=
    strip_eventType h (hl a ha)
  simp only [Function.comp_apply, typeFlag, SparkBigDataPipeline.typeFlag, htype]

/-- The same prior rows, few enough and with the same fraction of a second, give the same history. -/
theorem history_eq (h : Accepted timestamps rows) (hr : row ∈ rows)
    (hpriors : pandasPriors timestamps rows row = sparkPriors timestamps rows row)
    (hshort : (sparkPriors timestamps rows row).length < 32768)
    (hfractions : ∀ prev ∈ sparkPriors timestamps rows row,
      instant timestamps rows prev % 1000000000 = instant timestamps rows row % 1000000000) :
    pandasHistory timestamps rows row = sparkHistory timestamps rows row := by
  have hrows : ∀ a ∈ sparkPriors timestamps rows row, a ∈ rows := by
    intro a ha
    exact (mem_ofCustomerId.mp (mem_below.mp ha).1).1
  have hcount : int16 (sparkPriors timestamps rows row).length = (sparkPriors timestamps rows row).length :=
    int16_of_small (by omega) (by omega)
  have hreasons : ((sparkPriors timestamps rows row).map (pandasEvent timestamps rows)).countP
        (fun a => a.failureReason = (pandasEvent timestamps rows row).failureReason) =
      ((sparkPriors timestamps rows row).map (sparkEvent timestamps rows)).countP
        (fun a => a.failureReason = (sparkEvent timestamps rows row).failureReason) := by
    have hreason : ∀ {a}, a ∈ rows →
        (pandasEvent timestamps rows a).failureReason = (sparkEvent timestamps rows a).failureReason :=
      fun ha => strip_failureReason h ha
    rw [List.countP_map, List.countP_map]
    apply List.countP_congr
    intro a ha
    simp only [Function.comp_apply, hreason (hrows a ha), hreason hr]
  rw [pandasHistory_eq, sparkHistory_eq, historyOf_exact, SparkBigDataPipeline.historyOf_priors, priors_pandas,
    priors_spark, hpriors]
  apply HistoryFeatures.ext
  · simp only [List.length_map]
  · simp only [List.getLast?_map, Option.map_map]
    cases hlast : (sparkPriors timestamps rows row).getLast? with
    | none => rfl
    | some prev =>
        have hfraction := hfractions prev (List.mem_of_getLast? hlast)
        have hdiff : instant timestamps rows row - instant timestamps rows prev =
            1000000000 * (instant timestamps rows row / 1000000000 - instant timestamps rows prev / 1000000000) := by
          omega
        have hhours : ((instant timestamps rows row - instant timestamps rows prev : Int) : ℚ) / 1000000000 / 3600 =
            ((instant timestamps rows row / 1000000000 - instant timestamps rows prev / 1000000000 : Int) : ℚ) / 3600 := by
          rw [hdiff, Int.cast_mul, Int.cast_ofNat, mul_div_cancel_left₀ _ (by norm_num)]
        simp only [Option.map_some, Function.comp_apply, pandasEvent, cleanRow, sparkEvent,
          SparkBigDataPipeline.eventOf, sec_eq, hhours]
  · have hamounts : ((sparkPriors timestamps rows row).map (pandasEvent timestamps rows)).map Event.amountPaise =
        ((sparkPriors timestamps rows row).map (sparkEvent timestamps rows)).map
          SparkBigDataPipeline.SparkEvent.amountPaise := by
      rw [List.map_map, List.map_map]
      rfl
    simp only [List.length_map, hcount, hamounts, SparkBigDataPipeline.avg, List.map_eq_nil_iff, Nat.cast_eq_zero,
      List.length_eq_zero_iff, Int.cast_natCast]
  · apply congrArg int16
    rw [List.map_map, List.map_map]
    rfl
  · exact congrArg int16 (sum_flags h hrows checkoutAbandoned)
  · exact congrArg int16 (sum_flags h hrows failedPayment)
  · exact congrArg int16 (sum_flags h hrows failedSubscription)
  · simp only [hreasons]

theorem comparable_of_parity (h : Accepted timestamps rows) (hp : Parity timestamps rows) :
    Comparable timestamps rows := by
  have hids : ∀ row ∈ rows, row.eventId.strip = row.eventId := fun row hr => unpadded_of_parity h hp hr
  obtain ⟨cutoffs, hc⟩ := exists_cutoffs_rows h
  obtain ⟨-, hfeatures⟩ := (parity_iff_features h hids hc).mp hp
  have heq : ∀ row ∈ rows, pandasHistory timestamps rows row = sparkHistory timestamps rows row :=
    fun row hr => ((features_eq_iff (hids row hr)).mp (hfeatures row hr)).1
  refine ⟨hids, ?_, ?_, ?_, ?_⟩
  · exact fun a ha b hb => customers_of_history h hids heq ha hb
  · intro row hr
    have hcustomers : ∀ a ∈ rows, ∀ b ∈ rows, a.customerId.strip = b.customerId.strip → a.customerId = b.customerId :=
      fun a ha b hb => customers_of_history h hids heq ha hb
    rw [← ofStripped_eq hcustomers hr]
    exact ofStripped_short h hids heq row
  · exact fun a ha b hb => fractions_of_history h hids heq ha hb
  · exact (splits_iff hc).mp fun row hr => ((features_eq_iff (hids row hr)).mp (hfeatures row hr)).2

theorem parity_of_comparable (h : Accepted timestamps rows) (hp : Comparable timestamps rows) :
    Parity timestamps rows := by
  obtain ⟨cutoffs, hc⟩ := exists_cutoffs_rows h
  rw [parity_iff_features h hp.ids hc]
  constructor
  · intro e he
    obtain ⟨row, hr, rfl⟩ := List.mem_map.mp he
    have hlen : (ofCustomer (rows.map (pandasEvent timestamps rows)) (pandasEvent timestamps rows row)).length =
        (ofStripped rows row).length := by
      rw [ofCustomer, List.filter_map, List.length_map]
      rfl
    have hshort := hp.short row hr
    rw [hlen, ofStripped_eq hp.customers hr]
    omega
  · intro row hr
    have hpriors : pandasPriors timestamps rows row = sparkPriors timestamps rows row := by
      apply priors_eq_of_order (ofStripped_eq hp.customers hr) hr
      intro a ha b hb
      obtain ⟨ha, hac⟩ := mem_ofCustomerId.mp ha
      obtain ⟨hb, hbc⟩ := mem_ofCustomerId.mp hb
      exact order_of_fractions hp.ids ha hb (hp.fractions a ha b hb (hac.trans hbc.symm))
    have hshort := (sparkPriors_length_lt timestamps hr).trans_le (hp.short row hr)
    have hfractions : ∀ prev ∈ sparkPriors timestamps rows row,
        instant timestamps rows prev % 1000000000 = instant timestamps rows row % 1000000000 := by
      intro prev hprev
      obtain ⟨hmem, hc⟩ := mem_ofCustomerId.mp (mem_below.mp hprev).1
      exact hp.fractions prev hmem row hr hc
    exact (features_eq_iff (hp.ids row hr)).mpr
      ⟨history_eq h hr hpriors hshort hfractions, (splits_iff hc).mpr hp.seconds row hr⟩

/-- The pipelines agree on a table that both validators accept exactly when it
is comparable. -/
theorem parity_iff {df : List RawEvent} (hp : (DataValidator.validateDataframe timestamps df).isValid)
    (hs : (SparkBigDataPipeline.validate timestamps df).isValid) :
    ∃ rows : List Row, df = rows.map Row.raw ∧ (Parity timestamps rows ↔ Comparable timestamps rows) := by
  obtain ⟨rows, hrows, h⟩ := accepted_of_valid hp hs
  exact ⟨rows, hrows, comparable_of_parity h, parity_of_comparable h⟩

/-- Two timestamps half a second apart, as both libraries read them. -/
def sampleInstants : List (Text × Int) :=
  [(["2026-01-01T", "00:00:00", ".500Z"].flatMap String.toList, 1767225600500000000),
    (["2026-01-01T", "00:00:01", ".000Z"].flatMap String.toList, 1767225601000000000)]

def sampleTimestamps : Timestamps where
  toDatetime := fun _ text => sampleInstants.lookup text
  toTimestamp := fun text => (sampleInstants.lookup text).map (· / 1000)
  agree := by
    intro _ text n m hn hm
    rw [hn] at hm
    exact (Option.some.inj hm).symm

def sampleRow (eventId : Text) (occurredAt : Text) : Row where
  schemaVersion := ['v', '1']
  eventId := eventId
  eventType := failedPayment
  customerId := ['c']
  amountPaise := 50000
  currency := "INR".toList
  failureReason := "UNKNOWN".toList
  occurredAt := occurredAt
  paymentMethod := "card".toList
  deviceType := "web".toList
  country := "IN".toList
  retryCount := 1
  recovered := true
  isSynthetic := true
  split := "train".toList

def firstRow : Row := sampleRow ['a'] (["2026-01-01T", "00:00:00", ".500Z"].flatMap String.toList)

def secondRow : Row := sampleRow ['b'] (["2026-01-01T", "00:00:01", ".000Z"].flatMap String.toList)

def sampleRows : List Row := [firstRow, secondRow]

theorem parity_iff_sample : ∃ rows : List Row, sampleRows.map Row.raw = rows.map Row.raw ∧
    (Parity sampleTimestamps rows ↔ Comparable sampleTimestamps rows) :=
  parity_iff (by decide +kernel) (by decide +kernel)

theorem sample_fractions : instant sampleTimestamps sampleRows firstRow % 1000000000 ≠
    instant sampleTimestamps sampleRows secondRow % 1000000000 := by decide +kernel

theorem sample_valid : (DataValidator.validateDataframe sampleTimestamps (sampleRows.map Row.raw)).isValid ∧
    (SparkBigDataPipeline.validate sampleTimestamps (sampleRows.map Row.raw)).isValid := by decide +kernel

theorem sample_customer : firstRow.customerId = secondRow.customerId := by decide +kernel

theorem sample_accepted : Accepted sampleTimestamps sampleRows := by
  obtain ⟨rows, hrows, h⟩ := accepted_of_valid sample_valid.1 sample_valid.2
  have hsame : sampleRows = rows := List.map_injective_iff.mpr raw_injective hrows
  rw [hsame]
  exact h

/-- Half a second between two events of a customer is a whole second for Spark. -/
theorem not_parity : (DataValidator.validateDataframe sampleTimestamps (sampleRows.map Row.raw)).isValid ∧
    (SparkBigDataPipeline.validate sampleTimestamps (sampleRows.map Row.raw)).isValid ∧
    ¬ Parity sampleTimestamps sampleRows := by
  refine ⟨sample_valid.1, sample_valid.2, fun hparity => ?_⟩
  have hfirst : firstRow ∈ sampleRows := List.mem_cons_self
  have hsecond : secondRow ∈ sampleRows := List.mem_cons_of_mem _ List.mem_cons_self
  exact sample_fractions
    ((comparable_of_parity sample_accepted hparity).fractions firstRow hfirst secondRow hsecond sample_customer)

end RevenueRescue.Pipeline
