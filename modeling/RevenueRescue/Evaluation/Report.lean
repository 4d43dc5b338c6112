import RevenueRescue.Foundation.Interruption

namespace RevenueRescue.EvaluationReport

open Interruption

/-- The files of the canonical set: the two reports and the top-level CSV files. -/
inductive FileName
  | latestJson
  | latestMd
  | csv (name : String)
  deriving DecidableEq

variable {Content : Type}

/-- The files of a directory by their relative paths. -/
abbrev Folder (Content : Type) := String → Option Content

structure Canonical (Content : Type) where
  files : FileName → Option Content
  figures : Option (Folder Content)

/-- An entry of the staging directory. -/
inductive Item (Content : Type)
  | file (name : FileName) (content : Content)
  | figures (folder : Folder Content)

/-- Which entry an item replaces; `none` is the directory `figures`. -/
def slot : Item Content → Option FileName
  | .file name _ => some name
  | .figures _ => none

structure RunDirectory (Content : Type) where
  reportJson : Content
  reportMd : Content
  tables : List (String × Content)
  figures : Option (Folder Content)
  tables_nodup : (tables.map Prod.fst).Nodup

/-- What the staging directory holds once everything has been copied into it. -/
def itemsOf (run : RunDirectory Content) : List (Item Content) :=
  [.file .latestJson run.reportJson, .file .latestMd run.reportMd] ++
  run.tables.map (fun table => .file (.csv table.1) table.2) ++
  (run.figures.map Item.figures).toList

def canonicalOf (run : RunDirectory Content) : Canonical Content where
  files := fun name => match name with
    | .latestJson => some run.reportJson
    | .latestMd => some run.reportMd
    | .csv name => (run.tables.find? fun table => table.1 = name).map Prod.snd
  figures := run.figures

/-- The output root: the canonical set, and the names in `.staging` when it is there. -/
structure OutRoot (Content : Type) where
  canonical : Canonical Content
  staging : Option (List (Option FileName))

def makeStaging (root : OutRoot Content) : OutRoot Content := { root with staging := some [] }

def removeStaging (root : OutRoot Content) : OutRoot Content := { root with staging := none }

def stage (item : Item Content) (root : OutRoot Content) : OutRoot Content :=
  { root with staging := root.staging.map (· ++ [slot item]) }

def unlinkFigure (name : String) (c : Canonical Content) : Canonical Content :=
  { c with figures := c.figures.map fun folder => Function.update folder name none }

def removeFigures (c : Canonical Content) : Canonical Content := { c with figures := none }

def place (item : Item Content) (c : Canonical Content) : Canonical Content :=
  match item with
  | .file name content => { c with files := Function.update c.files name (some content) }
  | .figures folder => { c with figures := some folder }

def onCanonical (op : Canonical Content → Canonical Content) (root : OutRoot Content) : OutRoot Content :=
  { root with canonical := op root.canonical }

/-- `os.replace` or `shutil.move` of an entry of the staging directory. -/
def moveItem (item : Item Content) (root : OutRoot Content) : OutRoot Content :=
  { canonical := place item root.canonical
    staging := root.staging.map fun names => names.erase (slot item) }

/-- The orders in which the directories list their entries. -/
structure DirectoryOrder (c : Canonical Content) (run : RunDirectory Content) where
  figures : List String
  items : List (Item Content)
  lists_figures : ∀ folder, c.figures = some folder → ∀ name, name ∈ figures ↔ folder name ≠ none
  lists_items : items.Perm (itemsOf run)

/-- `shutil.rmtree` of the old figures: file by file, then the directory. -/
def figureOps (c : Canonical Content) (order : List String) : List (Canonical Content → Canonical Content) :=
  if c.figures.isSome then order.map unlinkFigure ++ [removeFigures] else []

/-- The file-system operations of `promote_to_latest`. A run that is not
complete raises before the first one. -/
def promoteToLatest (status : Option String) (run : RunDirectory Content) (root : OutRoot Content)
    (order : DirectoryOrder root.canonical run) : Option (List (OutRoot Content → OutRoot Content)) :=
  if status ≠ some "complete" then none
  else some (
    (if root.staging.isSome then [removeStaging] else []) ++ [makeStaging] ++
    (itemsOf run).map stage ++
    (figureOps root.canonical order.figures).map onCanonical ++
    order.items.map moveItem ++ [removeStaging])

/-- Every interruption, and the end, leave the previous canonical set or the new one. -/
def CrashAtomic (root : OutRoot Content) (run : RunDirectory Content)
    (ops : List (OutRoot Content → OutRoot Content)) : Prop :=
  ∀ t, Leaves root ops t → t.canonical = root.canonical ∨ t.canonical = canonicalOf run

def Holds (c : Canonical Content) : Item Content → Prop
  | .file name content => c.files name = some content
  | .figures folder => c.figures = some folder

/-- One operation at most changes the canonical set, and it completes the new one. -/
inductive OneChange (c : Canonical Content) (run : RunDirectory Content) : Prop
  | emptied (h : c.figures = some fun _ => none) (hn : run.figures = none)
      (hf : c.files = (canonicalOf run).files)
  | single (h : c.figures = none)
      (hone : ∀ i ∈ itemsOf run, ∀ j ∈ itemsOf run, ¬ Holds c i → ¬ Holds c j → i = j)
      (hstale : (∃ i ∈ itemsOf run, ¬ Holds c i) →
        ∀ name, (canonicalOf run).files name = none → c.files name = none)

variable {c : Canonical Content} {run : RunDirectory Content} {root : OutRoot Content}
variable {i j : Item Content} {status : Option String} {ops : List (OutRoot Content → OutRoot Content)}

theorem promote_incomplete (h : status ≠ some "complete") (order : DirectoryOrder root.canonical run) :
    promoteToLatest status run root order = none := if_pos h

@[ext] theorem Canonical.ext' {a b : Canonical Content} (hf : a.files = b.files) (hg : a.figures = b.figures) :
    a = b := by
  cases a
  cases b
  cases hf
  cases hg
  rfl

theorem place_holds (i : Item Content) (c : Canonical Content) : Holds (place i c) i := by
  cases i <;> simp [Holds, place]

theorem place_of_holds (h : Holds c i) : place i c = c := by
  cases i with
  | file name content =>
      have h : c.files name = some content := h
      simp only [place, ← h, Function.update_eq_self]
  | figures folder =>
      have h : c.figures = some folder := h
      simp only [place, ← h]

theorem holds_place (hij : slot i ≠ slot j) : Holds (place i c) j ↔ Holds c j := by
  cases i <;> cases j <;> simp_all [slot, Holds, place, eq_comm]

theorem find_table {tables : List (String × Content)} (hn : (tables.map Prod.fst).Nodup)
    {table : String × Content} (ht : table ∈ tables) :
    tables.find? (fun other => other.1 = table.1) = some table := by
  induction tables with
  | nil => cases ht
  | cons head tables ih =>
      obtain ⟨hhead, htail⟩ := List.nodup_cons.mp hn
      rcases List.mem_cons.mp ht with rfl | ht
      · simp
      · have hne : head.1 ≠ table.1 := fun he => hhead (he ▸ List.mem_map_of_mem ht)
        rw [List.find?_cons_of_neg (by simpa using hne)]
        exact ih htail ht

theorem mem_itemsOf : i ∈ itemsOf run ↔ i = .file .latestJson run.reportJson ∨
    i = .file .latestMd run.reportMd ∨ (∃ table ∈ run.tables, i = .file (.csv table.1) table.2) ∨
    ∃ folder, run.figures = some folder ∧ i = .figures folder := by
  cases hf : run.figures <;> simp [itemsOf, hf, eq_comm]

/-- The new canonical set is what the items of the run put in place. -/
theorem holds_canonicalOf (h : i ∈ itemsOf run) : Holds (canonicalOf run) i := by
  rcases mem_itemsOf.mp h with rfl | rfl | ⟨table, ht, rfl⟩ | ⟨folder, hf, rfl⟩
  · rfl
  · rfl
  · simp [Holds, canonicalOf, find_table run.tables_nodup ht]
  · exact hf

theorem file_mem_itemsOf {name : FileName} {content : Content}
    (h : (canonicalOf run).files name = some content) : .file name content ∈ itemsOf run := by
  rw [mem_itemsOf]
  cases name with
  | latestJson => cases h; simp
  | latestMd => cases h; simp
  | csv name =>
      obtain ⟨table, hfind, rfl⟩ := Option.map_eq_some_iff.mp h
      have hname := List.find?_some hfind
      simp only [decide_eq_true_eq] at hname
      subst hname
      exact .inr (.inr (.inl ⟨table, List.mem_of_find?_eq_some hfind, rfl⟩))

theorem figures_mem_itemsOf {folder : Folder Content} (h : run.figures = some folder) :
    .figures folder ∈ itemsOf run :=
  mem_itemsOf.mpr (.inr (.inr (.inr ⟨folder, h, rfl⟩)))

theorem item_eq_of_slot (hi : i ∈ itemsOf run) (hj : j ∈ itemsOf run) (h : slot i = slot j) : i = j := by
  have hi := holds_canonicalOf hi
  have hj := holds_canonicalOf hj
  cases i with
  | file name content =>
      cases j with
      | file other value =>
          obtain rfl : name = other := Option.some.inj h
          exact congrArg _ (Option.some.inj (hi.symm.trans hj))
      | figures folder => cases h
  | figures folder =>
      cases j with
      | file name content => cases h
      | figures other => exact congrArg _ (Option.some.inj (hi.symm.trans hj))

/-- The operations as the canonical set sees them. -/
def canonicalOps (c : Canonical Content) (order : DirectoryOrder c run) :
    List (Canonical Content → Canonical Content) :=
  figureOps c order.figures ++ order.items.map place

/-- How an operation of the promotion is seen in the canonical set. -/
def Seen (f : OutRoot Content → OutRoot Content) (g : Canonical Content → Canonical Content) : Prop :=
  ∀ r, (f r).canonical = g r.canonical

theorem seen_map {α : Type} (f : α → OutRoot Content → OutRoot Content)
    (g : α → Canonical Content → Canonical Content) (h : ∀ a, Seen (f a) (g a)) (l : List α) :
    List.Forall₂ Seen (l.map f) (l.map g) := by
  rw [List.forall₂_map_left_iff, List.forall₂_map_right_iff, List.forall₂_same]
  exact fun a _ => h a

theorem seen_idle {l : List (OutRoot Content → OutRoot Content)} (h : ∀ f ∈ l, Seen f id) :
    List.Forall₂ Seen l (l.map fun _ => id) := by
  rw [List.forall₂_map_right_iff, List.forall₂_same]
  exact h

theorem idle_of_mem_map {α : Type} {l : List (OutRoot Content → OutRoot Content)} :
    ∀ op ∈ l.map (fun _ => (id : α → α)), op = id := by
  intro op ho
  obtain ⟨_, _, rfl⟩ := List.mem_map.mp ho
  rfl

theorem staging_idle (root : OutRoot Content) (run : RunDirectory Content) : ∀ f ∈ (if root.staging.isSome then [removeStaging] else []) ++ [makeStaging] ++
    (itemsOf run).map stage, Seen f id := by
  intro f hf
  rcases List.mem_append.mp hf with hf | hf
  · rcases List.mem_append.mp hf with hf | hf
    · split at hf
      · obtain rfl := List.mem_singleton.mp hf
        exact fun _ => rfl
      · cases hf
    · obtain rfl := List.mem_singleton.mp hf
      exact fun _ => rfl
  · obtain ⟨item, _, rfl⟩ := List.mem_map.mp hf
    exact fun _ => rfl

/-- The canonical sets that an interruption can leave. -/
theorem promotion_seen {order : DirectoryOrder root.canonical run}
    (h : promoteToLatest status run root order = some ops) {c : Canonical Content} :
    (∃ t, Leaves root ops t ∧ t.canonical = c) ↔ Leaves root.canonical (canonicalOps root.canonical order) c := by
  unfold promoteToLatest at h
  by_cases hs : status ≠ some "complete"
  · rw [if_pos hs] at h
    cases h
  · rw [if_neg hs] at h
    cases h
    have hstaging := seen_idle (staging_idle root run)
    have hfigures := seen_map onCanonical id (fun op _ => rfl)
      (figureOps root.canonical order.figures)
    have hitems := seen_map moveItem place (fun item _ => rfl) order.items
    have hlast : List.Forall₂ Seen ([removeStaging] : List (OutRoot Content → OutRoot Content)) [id] := .cons (fun _ => rfl) .nil
    rw [List.map_id] at hfigures
    have hseen := List.rel_append (List.rel_append (List.rel_append hstaging hfigures) hitems) hlast
    rw [leaves_project OutRoot.canonical hseen]
    apply (leaves_append_idle fun op ho => List.mem_singleton.mp ho).trans
    change Leaves _ (_ ++ figureOps root.canonical order.figures ++ order.items.map place) c ↔ _
    rw [List.append_assoc]
    exact leaves_idle_append idle_of_mem_map

theorem files_of_place {name : FileName} (h : (place i c).files name = none) : c.files name = none := by
  cases i with
  | figures folder => exact h
  | file other content =>
      simp only [place, Function.update_apply] at h
      split at h
      · cases h
      · exact h

theorem removeFigures_unlinked (order : List String) (c : Canonical Content) :
    removeFigures ((order.map unlinkFigure).foldl (fun c op => op c) c) = removeFigures c := by
  induction order generalizing c with
  | nil => rfl
  | cons name order ih => exact ih (unlinkFigure name c)

/-- The only item that differs completes the new set. -/
theorem place_completes (hfig : c.figures = none) (hi : i ∈ itemsOf run) (hne : ¬ Holds c i)
    (hone : ∀ j ∈ itemsOf run, ¬ Holds c j → j = i)
    (hstale : ∀ name, (canonicalOf run).files name = none → c.files name = none) :
    place i c = canonicalOf run := by
  have hall : ∀ j ∈ itemsOf run, Holds (place i c) j := by
    intro j hj
    by_cases hs : slot i = slot j
    · rw [← item_eq_of_slot hi hj hs]
      exact place_holds i c
    · rw [holds_place hs]
      by_contra hn
      exact hs (hone j hj hn ▸ rfl)
  have hnew := holds_canonicalOf hi
  apply Canonical.ext'
  · funext name
    cases hname : (canonicalOf run).files name with
    | some content => exact hall _ (file_mem_itemsOf hname)
    | none =>
        have hc := hstale name hname
        cases i with
        | figures folder => exact hc
        | file other content =>
            have hother : name ≠ other := by
              rintro rfl
              cases hname.symm.trans hnew
            simp only [place, Function.update_of_ne hother, hc]
  · cases hrun : run.figures with
    | some folder => exact (hall _ (figures_mem_itemsOf hrun)).trans hrun.symm
    | none =>
        cases i with
        | figures folder => cases hrun.symm.trans hnew
        | file other content => exact hfig.trans hrun.symm

variable {order : DirectoryOrder c run}

theorem mem_canonicalOps (order : DirectoryOrder c run) {op : Canonical Content → Canonical Content}
    (h : c.figures = none) :
    op ∈ canonicalOps c order ↔ ∃ i ∈ itemsOf run, place i = op := by
  simp [canonicalOps, figureOps, h, order.lists_items.mem_iff]

theorem oneChange_of_single (h : c.figures = none)
    (hatomic : ∀ t, Leaves c (canonicalOps c order) t → t = c ∨ t = canonicalOf run) : OneChange c run := by
  have hcompletes : ∀ i ∈ itemsOf run, ¬ Holds c i → ∃ first ∈ itemsOf run, place first c = canonicalOf run := by
    intro i hi hn
    have hop := (mem_canonicalOps order h).mpr ⟨i, hi, rfl⟩
    have hne : place i c ≠ c := fun he => hn (he ▸ place_holds i c)
    obtain ⟨op, hop, he⟩ := completes_of_leaves hatomic hop hne
    obtain ⟨first, hf, rfl⟩ := (mem_canonicalOps order h).mp hop
    exact ⟨first, hf, he⟩
  have hfirst : ∀ i ∈ itemsOf run, ¬ Holds c i → ∀ first ∈ itemsOf run,
      place first c = canonicalOf run → i = first := by
    intro i hi hn first hf he
    have hnew := holds_canonicalOf hi
    rw [← he] at hnew
    by_cases hs : slot first = slot i
    · exact (item_eq_of_slot hf hi hs).symm
    · exact absurd ((holds_place hs).mp hnew) hn
  apply OneChange.single h
  · intro i hi j hj hni hnj
    obtain ⟨first, hf, he⟩ := hcompletes i hi hni
    exact (hfirst i hi hni first hf he).trans (hfirst j hj hnj first hf he).symm
  · rintro ⟨i, hi, hni⟩ name hname
    obtain ⟨first, hf, he⟩ := hcompletes i hi hni
    rw [← he] at hname
    exact files_of_place hname

theorem oneChange_of_emptied {folder : Folder Content} (h : c.figures = some folder)
    (hatomic : ∀ t, Leaves c (canonicalOps c order) t → t = c ∨ t = canonicalOf run) : OneChange c run := by
  have hops : canonicalOps c order =
      order.figures.map unlinkFigure ++ removeFigures :: order.items.map place := by
    simp [canonicalOps, figureOps, h]
  rw [hops] at hatomic
  have hremoved : removeFigures c = canonicalOf run := by
    have hleft := hatomic (removeFigures c)
    rw [leaves_append, leaves_cons, removeFigures_unlinked] at hleft
    rcases hleft (.inr (.inr (.now _ _))) with he | he
    · cases h.symm.trans (congrArg Canonical.figures he).symm
    · exact he
  have hnone : run.figures = none := (congrArg Canonical.figures hremoved).symm
  have hfiles : c.files = (canonicalOf run).files := by
    rw [← hremoved]
    rfl
  have hempty : order.figures = [] := by
    cases hf : order.figures with
    | nil => rfl
    | cons name rest =>
        have hname : folder name ≠ none :=
          (order.lists_figures folder h name).mp (hf ▸ List.mem_cons_self)
        have hfig : (unlinkFigure name c).figures = some (Function.update folder name none) := by
          simp [unlinkFigure, h]
        rw [hf] at hatomic
        rcases hatomic (unlinkFigure name c) (.later (.now _ _)) with he | he <;> rw [he] at hfig
        · have hsame := congrFun (Option.some.inj (h.symm.trans hfig)) name
          rw [Function.update_self] at hsame
          exact absurd hsame hname
        · cases hnone.symm.trans hfig
  refine OneChange.emptied ?_ hnone hfiles
  rw [h]
  congr 1
  funext name
  by_contra hname
  have hmem := (order.lists_figures folder h name).mpr hname
  rw [hempty] at hmem
  cases hmem

theorem atomic_of_oneChange (h : OneChange c run) {t : Canonical Content}
    (ht : Leaves c (canonicalOps c order) t) : t = c ∨ t = canonicalOf run := by
  have hfixed : ∀ op ∈ order.items.map place, op (canonicalOf run) = canonicalOf run := by
    intro op hop
    obtain ⟨i, hi, rfl⟩ := List.mem_map.mp hop
    exact place_of_holds (holds_canonicalOf (order.lists_items.mem_iff.mp hi))
  cases h with
  | emptied h hn hf =>
      have hnil : order.figures = [] := by
        rw [List.eq_nil_iff_forall_not_mem]
        intro name hname
        exact (order.lists_figures _ h name).mp hname rfl
      have hremoved : removeFigures c = canonicalOf run := Canonical.ext' hf hn.symm
      have hops : canonicalOps c order = removeFigures :: order.items.map place := by
        simp [canonicalOps, figureOps, h, hnil]
      rw [hops, leaves_cons, hremoved, leaves_fixed hfixed] at ht
      exact ht
  | single h hone hstale =>
      have hops : canonicalOps c order = order.items.map place := by simp [canonicalOps, figureOps, h]
      rw [hops] at ht
      apply leaves_single _ hfixed ht
      intro op hop
      obtain ⟨i, hi, rfl⟩ := List.mem_map.mp hop
      have hi := order.lists_items.mem_iff.mp hi
      by_cases hc : Holds c i
      · exact .inl (place_of_holds hc)
      · exact .inr (place_completes h hi hc (fun j hj hn => hone j hj i hi hn hc) (hstale ⟨i, hi, hc⟩))

/-- The promotion is crash-atomic exactly when one operation at most changes
the canonical set. -/
theorem promotion_atomic_iff {order : DirectoryOrder root.canonical run}
    (h : promoteToLatest status run root order = some ops) :
    CrashAtomic root run ops ↔ OneChange root.canonical run := by
  constructor
  · intro hatomic
    have hseen : ∀ c, Leaves root.canonical (canonicalOps root.canonical order) c →
        c = root.canonical ∨ c = canonicalOf run := by
      intro c hc
      obtain ⟨t, ht, rfl⟩ := (promotion_seen h).mpr hc
      exact hatomic t ht
    cases hf : root.canonical.figures with
    | none => exact oneChange_of_single hf hseen
    | some folder => exact oneChange_of_emptied hf hseen
  · intro hone t ht
    exact atomic_of_oneChange hone ((promotion_seen h).mp ⟨t, ht, rfl⟩)

/-- The output root after a promotion. -/
def promoted (run : RunDirectory Content) : OutRoot Content :=
  { canonical := canonicalOf run, staging := none }

def listing (c : Canonical Content) (run : RunDirectory Content) (h : c.figures = none) :
    DirectoryOrder c run where
  figures := []
  items := itemsOf run
  lists_figures := by
    intro folder hf
    cases h.symm.trans hf
  lists_items := .refl _

def firstRun : RunDirectory String where
  reportJson := "first"
  reportMd := "first"
  tables := [("cases.csv", "first")]
  figures := none
  tables_nodup := by decide

def secondRun : RunDirectory String where
  reportJson := "second"
  reportMd := "second"
  tables := []
  figures := none
  tables_nodup := by decide

theorem promotion_atomic_iff_sample : ∃ ops,
    promoteToLatest (some "complete") firstRun (promoted firstRun) (listing _ firstRun rfl) = some ops ∧
    (CrashAtomic (promoted firstRun) firstRun ops ↔ OneChange (promoted firstRun).canonical firstRun) := by
  have h : promoteToLatest (some "complete") firstRun (promoted firstRun) (listing _ firstRun rfl) = some _ := rfl
  exact ⟨_, h, promotion_atomic_iff h⟩

/-- Between the two reports the set is a mixture, and the table of the first
run is still there at the end. -/
theorem promotion_not_atomic : ∃ ops,
    promoteToLatest (some "complete") secondRun (promoted firstRun) (listing _ secondRun rfl) = some ops ∧
    (∃ t, Leaves (promoted firstRun) ops t ∧ t.canonical.files .latestJson = some "second" ∧
      t.canonical.files .latestMd = some "first") ∧
    ((ops.foldl (fun root op => op root) (promoted firstRun)).canonical.files (.csv "cases.csv") = some "first" ∧
      (canonicalOf secondRun).files (.csv "cases.csv") = none) ∧
    ¬ CrashAtomic (promoted firstRun) secondRun ops := by
  have hmixed : ∀ ops : List (OutRoot String → OutRoot String),
      (∃ t, Leaves (promoted firstRun) ops t ∧ t.canonical.files .latestJson = some "second" ∧
        t.canonical.files .latestMd = some "first") → ¬ CrashAtomic (promoted firstRun) secondRun ops := by
    rintro ops ⟨t, ht, hjson, hmd⟩ hatomic
    rcases hatomic t ht with he | he <;> rw [he] at hjson hmd
    · exact absurd hjson (by decide)
    · exact absurd hmd (by decide)
  have hstate : ∃ t, Leaves (promoted firstRun)
      [makeStaging, stage (.file .latestJson "second"), stage (.file .latestMd "second"),
        moveItem (.file .latestJson "second"), moveItem (.file .latestMd "second"), removeStaging] t ∧
      t.canonical.files .latestJson = some "second" ∧ t.canonical.files .latestMd = some "first" :=
    ⟨_, .later (.later (.later (.later (.now _ _)))), by decide, by decide⟩
  exact ⟨_, rfl, hstate, ⟨by decide, by decide⟩, hmixed _ hstate⟩

end RevenueRescue.EvaluationReport
