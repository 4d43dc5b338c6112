import RevenueRescue.Backend.Ingestion

namespace RevenueRescue.ExactlyOnce

open Machine Parties Models RecoveryService Ingestion

def casesWith (db : Db) (key : String) : List RecoveryCase :=
  db.cases.rows.filter fun c => c.sourceEventKey = key

def runsOf (db : Db) (caseId : Uuid) : List Uuid :=
  (db.runs.rows.filter fun run => run.recoveryCaseId = caseId).map AgentRun.id

/-- One case with the key, one request that is answered for it and dispatches
its run, and every other request answered as its duplicate. -/
def IngestedOnce (key : String) (s : State) : Prop :=
  ∃ (case : RecoveryCase) (runId : Uuid) (w : Nat) (r : Request),
    casesWith s.db key = [case] ∧ runsOf s.db case.id = [runId] ∧ s.dispatched = [runId] ∧
    s.requests[w]? = some r ∧ r.phase = .answered (.accepted case.id (some runId)) ∧
    ∀ (j : Nat) (r' : Request), s.requests[j]? = some r' → j ≠ w → r'.phase = .answered (.duplicate case.id)

/-- A store that knows nothing of the key yet, and whose runs are runs of its cases. -/
structure Fresh (key : String) (s : State) : Prop where
  requests : s.requests = []
  dispatched : s.dispatched = []
  cases : casesWith s.db key = []
  runs : ∀ run ∈ s.db.runs.rows, s.db.cases.find run.recoveryCaseId ≠ none

def Complete (s : State) : Prop := s.requests ≠ [] ∧ ∀ r ∈ s.requests, ∃ answer, r.phase = .answered answer

/-- The requests carry the key, and none is cut off from outside. -/
def OnlyKey (key : String) (_ : State) : Label → Prop
  | .receive event => event.idempotencyKey = key
  | .run _ _ => True
  | .fail _ => False

/-- The request has looked the key up in vain and has not committed its case. -/
def inWindow : Phase → Bool
  | .unmatched | .unknownCustomer | .newCustomer | .resolved _ _ | .inserted _ _ => true
  | _ => false

/-- A lookup comes only while no request is between its lookup and the commit of its case. -/
def Apart (s : State) : Label → Prop
  | .run i _ => ∀ r, s.requests[i]? = some r → r.phase = .received →
      ∀ r' ∈ s.requests, inWindow r'.phase = false
  | _ => True

/-- The columns of the case take the event, and its key as it is. -/
structure Fits (event : Event) : Prop where
  amount : event.amountPaise < 2147483648
  currency : Column.varchar 10 event.currency ≠ none
  key : Column.varchar 128 event.idempotencyKey = some event.idempotencyKey

/-- A lookup is in vain only for an event that fits the columns. -/
def Storable (s : State) : Label → Prop
  | .run i _ => ∀ r, s.requests[i]? = some r → r.phase = .received →
      getCaseByIdempotencyKey s.db r.event.idempotencyKey = none → Fits r.event
  | _ => True

inductive Viable (key : String) (store : Store) (event : Event) : Phase → Prop
  | unmatched : Viable key store event .unmatched
  | unknownCustomer (h : store.db.customers.find event.customerId = none) : Viable key store event .unknownCustomer
  | newCustomer (h : store.db.customers.find event.customerId = none)
      (he : store.emails.find (stubEmail event.customerId) = none) : Viable key store event .newCustomer
  | resolved (customerId) (stub) : Viable key store event (.resolved customerId stub)
  | inserted (case) (stub) (hk : case.sourceEventKey = key) (hs : startable case = true)
      (hr : runsOf store.db case.id = []) : Viable key store event (.inserted case stub)

inductive Won (store : Store) (case : RecoveryCase) : Phase → Prop
  | created (hs : startable case = true) (hr : runsOf store.db case.id = []) (hd : store.dispatched = []) :
      Won store case (.created case)
  | started (runId) (hr : runsOf store.db case.id = []) (hd : store.dispatched = []) :
      Won store case (.started case runId)
  | running (runId) (hr : runsOf store.db case.id = [runId]) (hd : store.dispatched = []) :
      Won store case (.running case runId)
  | answered (runId) (hr : runsOf store.db case.id = [runId]) (hd : store.dispatched = [runId]) :
      Won store case (.answered (.accepted case.id (some runId)))

/-- The stages of a run in which the lookups are apart: up to its commit the
store is what it was, and afterwards there is one case. -/
inductive Stage (key : String) (store : Store) (s : State) : Prop
  | idle (hs : s.toStore = store) (hr : ∀ r ∈ s.requests, r.phase = .received)
  | busy (w : Nat) (r : Request) (hs : s.toStore = store) (hw : s.requests[w]? = some r) (hf : Fits r.event)
      (hv : Viable key store r.event r.phase)
      (ho : ∀ j r', s.requests[j]? = some r' → j ≠ w → r'.phase = .received)
  | done (w : Nat) (r : Request) (case : RecoveryCase) (hc : casesWith s.db key = [case])
      (hw : s.requests[w]? = some r) (hv : Won s.toStore case r.phase)
      (ho : ∀ j r', s.requests[j]? = some r' → j ≠ w →
        r'.phase = .received ∨ r'.phase = .answered (.duplicate case.id))

variable {key : String} {s s' : State} {db db' : Db}

theorem stored_of_fits {event : Event} (h : Fits event) (id customerId : Uuid) :
    ∃ row, stored (event.case id customerId) = some row ∧ row.sourceEventKey = event.idempotencyKey := by
  obtain ⟨currency, hcurrency⟩ := Option.ne_none_iff_exists'.mp h.currency
  have hpos := event.amount_pos
  have hamount := h.amount
  refine ⟨_, stored_eq_some.mpr ⟨currency, event.idempotencyKey, ?_, ?_, ?_, rfl⟩, rfl⟩
  · rwa [Event.case_currency]
  · rw [Event.case_key, h.key]
  · rw [Event.case_amount]
    omega

theorem fits_of_stored {event : Event} {id customerId : Uuid} {row : RecoveryCase}
    (h : stored (event.case id customerId) = some row)
    (hkey : Column.varchar 128 event.idempotencyKey = some event.idempotencyKey) : Fits event := by
  obtain ⟨currency, key, hcurrency, -, hamount, -⟩ := stored_eq_some.mp h
  rw [Event.case_currency] at hcurrency
  rw [Event.case_amount] at hamount
  exact ⟨hamount.2, by rw [hcurrency]; exact Option.some_ne_none currency, hkey⟩

/-- The key of a row is one that the column keeps. -/
theorem key_of_stored {case row : RecoveryCase} (h : stored case = some row) :
    Column.varchar 128 row.sourceEventKey = some row.sourceEventKey := by
  obtain ⟨currency, key, -, hkey, -, rfl⟩ := stored_eq_some.mp h
  exact Column.varchar_stored hkey

theorem lookup_eq_head (db : Db) (key : String) : getCaseByIdempotencyKey db key = (casesWith db key).head? :=
  List.head?_filter.symm

theorem casesWith_createCase {case : RecoveryCase} {reason : String} (h : createCase db case reason = some db')
    (hk : case.sourceEventKey = key) : casesWith db' key = case :: casesWith db key := by
  obtain ⟨cases, -, hi, -, hcases, -, -⟩ := createCase_eq_some h
  rw [casesWith, hcases, Table.insert_rows hi, List.filter_cons_of_pos (by simpa using hk)]
  rfl

theorem runsOf_createCase {case : RecoveryCase} {reason : String} (h : createCase db case reason = some db')
    (caseId : Uuid) : runsOf db' caseId = runsOf db caseId := by
  obtain ⟨_, -, -, -, -, hruns, -⟩ := createCase_eq_some h
  rw [runsOf, hruns]
  rfl

theorem startAgentRun_effect {case : RecoveryCase} {runId : Uuid} (h : startAgentRun db case runId = some db') :
    db'.cases = db.cases ∧ runsOf db' case.id = runId :: runsOf db case.id := by
  obtain ⟨runs, _, hi, -, rfl⟩ := startAgentRun_eq_some h
  refine ⟨rfl, ?_⟩
  rw [runsOf, show ({ db with runs := runs, audit := _ :: db.audit } : Db).runs.rows = _ from Table.insert_rows hi,
    List.filter_cons_of_pos (by simp)]
  rfl

theorem runsOf_fresh {id : Uuid} (hruns : ∀ run ∈ db.runs.rows, db.cases.find run.recoveryCaseId ≠ none)
    (h : db.cases.find id = none) : runsOf db id = [] := by
  rw [runsOf, List.map_eq_nil_iff, List.filter_eq_nil_iff]
  intro run hrun heq
  exact hruns run hrun ((of_decide_eq_true heq) ▸ h)

def AllKey (key : String) (s : State) : Prop := ∀ r ∈ s.requests, r.event.idempotencyKey = key

theorem allKey_step {a : Label} (h : AllKey key s) (hP : OnlyKey key s a) (hs : step s a = some s') :
    AllKey key s' := by
  intro r' hr'
  cases step_some hs with
  | receive event =>
      rcases List.mem_append.mp hr' with hr' | hr'
      · exact h r' hr'
      · cases List.mem_singleton.mp hr'
        exact hP
  | @run i id r store q hr _ =>
      rcases List.mem_or_eq_of_mem_set hr' with hr' | rfl
      · exact h r' hr'
      · exact h r (List.mem_of_getElem? hr)
  | fail => exact hP.elim

theorem Viable.inWindow {store : Store} {event : Event} {p : Phase} (h : Viable key store event p) :
    inWindow p = true := by
  cases h <;> rfl

theorem viable_step {store store' : Store} {event : Event} {id : Uuid} {p q : Phase} (hs : s.toStore = store)
    (hd : store.dispatched = []) (hc : casesWith store.db key = [])
    (hfk : ∀ run ∈ store.db.runs.rows, store.db.cases.find run.recoveryCaseId ≠ none)
    (hk : event.idempotencyKey = key) (hf : Fits event) (hv : Viable key store event p)
    (h : Advance s id event p store' q) :
    (store' = store ∧ Viable key store event q) ∨
      ∃ case, casesWith store'.db key = [case] ∧ Won store' case q := by
  subst hs
  have hnone : getCaseByIdempotencyKey s.db event.idempotencyKey = none := by
    rw [lookup_eq_head, hk, hc, List.head?_nil]
  cases hv with
  | unmatched =>
      cases h with
      | known => exact .inl ⟨rfl, .resolved _ _⟩
      | unknown hu => exact .inl ⟨rfl, .unknownCustomer hu⟩
  | unknownCustomer hu =>
      cases h with
      | byEmail customerId => exact .inl ⟨rfl, .resolved _ _⟩
      | newCustomer he => exact .inl ⟨rfl, .newCustomer hu he⟩
  | newCustomer hu he =>
      cases h with
      | customerTaken ht => exact (ht.elim (· hu) (· he)).elim
      | insertCustomer => exact .inl ⟨rfl, .resolved _ _⟩
  | resolved customerId stub =>
      obtain ⟨row', hrow', hkey⟩ := stored_of_fits hf id customerId
      cases h with
      | unstorable _ _ hnot =>
          rw [hrow'] at hnot
          cases hnot
      | keyTaken _ _ row hrow ht =>
          obtain rfl := Option.some.inj (hrow.symm.trans hrow')
          exact (ht (hkey ▸ hnone)).elim
      | insertCase _ _ row hrow hfree _ _ =>
          obtain rfl := Option.some.inj (hrow.symm.trans hrow')
          refine .inl ⟨rfl, .inserted _ _ (hkey.trans hk) (Event.startable_stored hrow) ?_⟩
          rw [stored_id hrow, event.case_id]
          exact runsOf_fresh hfk hfree
  | inserted case stub hkey hstart hruns =>
      cases h with
      | commitCase _ _ db emails hdb =>
          refine .inr ⟨case, ?_, .created hstart ?_ hd⟩
          · rw [casesWith_createCase hdb hkey, hc]
          · rw [runsOf_createCase hdb, hruns]

theorem won_step {store' : Store} {event : Event} {case : RecoveryCase} {id : Uuid} {p q : Phase}
    (hc : casesWith s.db key = [case]) (hv : Won s.toStore case p) (h : Advance s id event p store' q) :
    casesWith store'.db key = [case] ∧ Won store' case q := by
  cases hv with
  | created hs hr hd =>
      cases h with
      | unstarted _ hn =>
          have hmem : case ∈ casesWith s.db key := hc ▸ List.mem_singleton_self case
          have hf : s.db.cases.find case.id = some case := Table.find_of_mem (List.mem_filter.mp hmem).1
          rcases hn with hn | hn
          · rw [hf] at hn
            cases hn
          · rw [hs] at hn
            cases hn
      | startRun => exact ⟨hc, .started id hr hd⟩
  | started runId hr hd =>
      cases h with
      | commitRun _ _ db hdb =>
          obtain ⟨hcases, hruns⟩ := startAgentRun_effect hdb
          refine ⟨?_, .running runId (hruns.trans (congrArg _ hr)) hd⟩
          rw [casesWith, hcases]
          exact hc
  | running runId hr hd =>
      cases h with
      | dispatch => exact ⟨hc, .answered runId hr (congrArg _ hd)⟩
  | answered => cases h

theorem stage_step {store : Store} {a : Label} (hd : store.dispatched = []) (hc : casesWith store.db key = [])
    (hfk : ∀ run ∈ store.db.runs.rows, store.db.cases.find run.recoveryCaseId ≠ none) (hkey : AllKey key s)
    (h : Stage key store s) (hP : OnlyKey key s a ∧ Apart s a ∧ Storable s a) (hs : step s a = some s') :
    Stage key store s' := by
  cases step_some hs with
  | receive event =>
      cases h with
      | idle hst hr =>
          refine .idle hst fun r' hr' => ?_
          rcases List.mem_append.mp hr' with hr' | hr'
          · exact hr r' hr'
          · cases List.mem_singleton.mp hr'
            rfl
      | busy w r hst hw hf hv ho => exact .busy w r hst (join_old hw) hf hv (others_join ho rfl)
      | done w r case hk hw hv ho => exact .done w r case hk (join_old hw) hv (others_join ho (.inl rfl))
  | @run i id r store' q hr hadv =>
      have hk : r.event.idempotencyKey = key := hkey r (List.mem_of_getElem? hr)
      obtain ⟨event, phase⟩ := r
      dsimp only at hadv hk
      cases h with
      | idle hst hreceived =>
          obtain rfl : phase = .received := hreceived _ (List.mem_of_getElem? hr)
          have hnone : getCaseByIdempotencyKey s.db event.idempotencyKey = none := by
            rw [lookup_eq_head, hk, show s.db = store.db from congrArg Store.db hst, hc, List.head?_nil]
          cases hadv with
          | duplicate existing he =>
              rw [hnone] at he
              cases he
          | unmatched =>
              refine .busy i ⟨event, .unmatched⟩ hst (set_self hr) (hP.2.2 ⟨event, .received⟩ hr rfl hnone) .unmatched
                (others_set (fun j r' hj _ => hreceived r' (List.mem_of_getElem? hj)) fun hne => absurd rfl hne)
      | busy w r hst hw hf hv ho =>
          by_cases hiw : i = w
          · subst hiw
            obtain rfl := Option.some.inj (hr.symm.trans hw)
            rcases viable_step hst hd hc hfk hk hf hv hadv with ⟨rfl, hv'⟩ | ⟨case, hcase, hwon⟩
            · exact .busy i ⟨event, q⟩ rfl (set_self hr) hf hv' (others_set ho fun hne => absurd rfl hne)
            · refine .done i ⟨event, q⟩ case hcase (set_self hr) hwon
                (others_set (fun j r' hj hne => .inl (ho j r' hj hne)) fun hne => absurd rfl hne)
          · -- The lookup would come while the other request is in the window.
            have hwindow := hP.2.1 _ hr (ho i _ hr hiw) r (List.mem_of_getElem? hw)
            rw [hv.inWindow] at hwindow
            cases hwindow
      | done w r case hcase hw hv ho =>
          by_cases hiw : i = w
          · subst hiw
            obtain rfl := Option.some.inj (hr.symm.trans hw)
            obtain ⟨hcase', hv'⟩ := won_step hcase hv hadv
            exact .done i ⟨event, q⟩ case hcase' (set_self hr) hv' (others_set ho fun hne => absurd rfl hne)
          · have hfound : getCaseByIdempotencyKey s.db event.idempotencyKey = some case := by
              rw [lookup_eq_head, hk, hcase, List.head?_cons]
            rcases ho i _ hr hiw with hphase | hphase
            · obtain rfl : phase = .received := hphase
              cases hadv with
              | duplicate existing he =>
                  obtain rfl := Option.some.inj (hfound.symm.trans he)
                  exact .done w r case hcase (set_other hw hiw) hv (others_set ho fun _ => .inr rfl)
              | unmatched hn =>
                  rw [hfound] at hn
                  cases hn
            · obtain rfl : phase = .answered (.duplicate case.id) := hphase
              cases hadv
  | fail => exact hP.1.elim

theorem stage_start (h : Fresh key s) : Stage key s.toStore s := by
  refine .idle rfl fun r hr => ?_
  rw [h.requests] at hr
  cases hr

theorem ingestedOnce_of_stage {store : Store} (h : Stage key store s) (hcomplete : Complete s) : IngestedOnce key s := by
  obtain ⟨hne, hall⟩ := hcomplete
  cases h with
  | idle _ hr =>
      obtain ⟨r, hmem⟩ := List.exists_mem_of_ne_nil _ hne
      obtain ⟨answer, ha⟩ := hall r hmem
      rw [hr r hmem] at ha
      cases ha
  | busy w r _ hw _ hv _ =>
      obtain ⟨answer, ha⟩ := hall r (List.mem_of_getElem? hw)
      rw [ha] at hv
      cases hv
  | done w r case hc hw hv ho =>
      obtain ⟨answer, ha⟩ := hall r (List.mem_of_getElem? hw)
      rw [ha] at hv
      cases hv with
      | answered runId hr hd =>
          refine ⟨case, runId, w, r, hc, hr, hd, hw, ha, fun j r' hj hne => ?_⟩
          rcases ho j r' hj hne with hp | hp
          · obtain ⟨answer, ha'⟩ := hall r' (List.mem_of_getElem? hj)
            rw [hp] at ha'
            cases ha'
          · exact hp

def passed : Phase → Bool
  | .received | .answered (.duplicate _) | .lost => false
  | _ => true

def committed : Phase → Bool
  | .created _ | .started _ _ | .running _ _ | .answered (.accepted _ _) => true
  | _ => false

def Crossed (s : State) : Prop :=
  ∃ (i j : Nat) (r r' : Request), i ≠ j ∧ s.requests[i]? = some r ∧ s.requests[j]? = some r' ∧
    passed r.phase = true ∧ passed r'.phase = true

/-- A request is past a lookup in vain with an event that the columns do not take as it is. -/
def Doomed (s : State) : Prop :=
  ∃ (i : Nat) (r : Request), s.requests[i]? = some r ∧ passed r.phase = true ∧ ¬ Fits r.event

structure Backed (key : String) (s : State) : Prop where
  keys : AllKey key s
  locked : Locked s
  backed : casesWith s.db key ≠ [] → ∃ r ∈ s.requests, committed r.phase = true
  kept : casesWith s.db key ≠ [] → Column.varchar 128 key = some key
  taken : ∀ r ∈ s.requests, committed r.phase = true → ∃ id customerId, stored (r.event.case id customerId) ≠ none

theorem passed_of_inWindow {p : Phase} (h : inWindow p = true) : passed p = true := by
  unfold inWindow at h
  split at h <;> first | rfl | cases h

theorem not_committed_of_inWindow {p : Phase} (h : inWindow p = true) : committed p = false := by
  unfold inWindow at h
  split at h <;> first | rfl | cases h

theorem passed_of_committed {p : Phase} (h : committed p = true) : passed p = true := by
  unfold committed at h
  split at h <;> first | rfl | cases h

section

variable {id : Uuid} {event : Event} {p q : Phase} {store : Store}

theorem advance_passed (h : Advance s id event p store q) (hp : passed p = true) : passed q = true := by
  cases h with
  | duplicate | unmatched => cases hp
  | _ => rfl

theorem advance_committed (h : Advance s id event p store q) (hp : committed p = true) : committed q = true := by
  cases h with
  | unstarted | startRun | commitRun | dispatch => rfl
  | _ => cases hp

theorem committed_of_advance (h : Advance s id event p store q) (hq : committed q = true) :
    committed p = true ∨ ∃ case stub, p = .inserted case stub := by
  cases h with
  | commitCase case stub => exact .inr ⟨case, stub, rfl⟩
  | unstarted | startRun | commitRun | dispatch => exact .inl rfl
  | _ => cases hq

/-- A case with the key is there before, or the statement commits it. -/
theorem advance_casesWith_ne (h : Advance s id event p store q) (hc : casesWith store.db key ≠ []) :
    casesWith s.db key ≠ [] ∨
      committed q = true ∧ ∃ case stub, p = .inserted case stub ∧ case.sourceEventKey = key := by
  cases h with
  | commitCase case stub db emails hdb =>
      by_cases hkey : case.sourceEventKey = key
      · exact .inr ⟨rfl, case, stub, rfl, hkey⟩
      · have hsame := lookup_createCase hdb hkey
        rw [lookup_eq_head, lookup_eq_head] at hsame
        refine .inl fun hnil => hc ?_
        rwa [hnil, List.head?_nil, List.head?_eq_none_iff] at hsame
  | commitRun _ _ db hdb =>
      refine .inl ?_
      rwa [casesWith, (startAgentRun_effect hdb).1] at hc
  | _ => exact .inl hc

end

theorem backed_step {a : Label} (h : Backed key s) (hP : OnlyKey key s a) (hs : step s a = some s') :
    Backed key s' := by
  have hkeys := allKey_step h.keys hP hs
  have hlocked := locked_step h.locked hs
  cases step_some hs with
  | receive event =>
      refine ⟨hkeys, hlocked, fun hc => ?_, h.kept, fun r hr hcommitted => ?_⟩
      · obtain ⟨r, hr, hcommitted⟩ := h.backed hc
        exact ⟨r, List.mem_append_left _ hr, hcommitted⟩
      · rcases List.mem_append.mp hr with hr | hr
        · exact h.taken r hr hcommitted
        · cases List.mem_singleton.mp hr
          cases hcommitted
  | @run i id r store q hr hadv =>
      have hnew : (⟨r.event, q⟩ : Request) ∈ s.requests.set i ⟨r.event, q⟩ :=
        List.mem_of_getElem? (set_self hr)
      refine ⟨hkeys, hlocked, fun hc => ?_, fun hc => ?_, fun r' hr' hcommitted => ?_⟩
      · rcases advance_casesWith_ne hadv hc with hold | ⟨hq, -⟩
        · obtain ⟨r', hr', hcommitted⟩ := h.backed hold
          obtain ⟨j, hj⟩ := List.getElem?_of_mem hr'
          by_cases hij : i = j
          · subst hij
            obtain rfl := Option.some.inj (hr.symm.trans hj)
            exact ⟨_, hnew, advance_committed hadv hcommitted⟩
          · exact ⟨r', List.mem_of_getElem? (set_other hj hij), hcommitted⟩
        · exact ⟨_, hnew, hq⟩
      · rcases advance_casesWith_ne hadv hc with hold | ⟨-, case, stub, hp, rfl⟩
        · exact h.kept hold
        · obtain ⟨_, _, hrow⟩ := h.locked.row i r case stub hr hp
          exact key_of_stored hrow
      · rcases List.mem_or_eq_of_mem_set hr' with hold | rfl
        · exact h.taken r' hold hcommitted
        · rcases committed_of_advance hadv hcommitted with hp | ⟨case, stub, hp⟩
          · exact h.taken r (List.mem_of_getElem? hr) hp
          · obtain ⟨caseId, customerId, hrow⟩ := h.locked.row i r case stub hr hp
            exact ⟨caseId, customerId, by rw [hrow]; exact Option.some_ne_none case⟩
  | fail => exact hP.elim

/-- A request that is past its lookup stays past it. -/
theorem passed_step {a : Label} {i : Nat} {r : Request} (hi : s.requests[i]? = some r) (hp : passed r.phase = true)
    (hP : OnlyKey key s a) (hs : step s a = some s') :
    ∃ r', s'.requests[i]? = some r' ∧ r'.event = r.event ∧ passed r'.phase = true := by
  cases step_some hs with
  | receive event => exact ⟨r, join_old hi, rfl, hp⟩
  | @run k id x store q hx hadv =>
      by_cases hki : k = i
      · subst hki
        obtain rfl := Option.some.inj (hx.symm.trans hi)
        exact ⟨_, set_self hi, rfl, advance_passed hadv hp⟩
      · exact ⟨r, set_other hi hki, rfl, hp⟩
  | fail => exact hP.elim

theorem crossed_step {a : Label} (h : Crossed s) (hP : OnlyKey key s a) (hs : step s a = some s') : Crossed s' := by
  obtain ⟨i, j, r, r', hne, hi, hj, hp, hp'⟩ := h
  obtain ⟨t, ht, -, hpt⟩ := passed_step hi hp hP hs
  obtain ⟨t', ht', -, hpt'⟩ := passed_step hj hp' hP hs
  exact ⟨i, j, t, t', hne, ht, ht', hpt, hpt'⟩

/-- A lookup beside a request in the window crosses it, or a request that has
been faster than both. -/
theorem crossed_of_lookup {a : Label} (h : Backed key s) (hn : ¬ Apart s a) (hs : step s a = some s') : Crossed s' := by
  cases step_some hs with
  | receive => exact (hn trivial).elim
  | fail => exact (hn trivial).elim
  | @run i id r store q hr hadv =>
      have hkey : r.event.idempotencyKey = key := h.keys r (List.mem_of_getElem? hr)
      simp only [Apart, not_forall, Bool.not_eq_false] at hn
      obtain ⟨x, hx, hreceived, r', hr', hwindow⟩ := hn
      obtain rfl := Option.some.inj (hr.symm.trans hx)
      obtain ⟨j, hj⟩ := List.getElem?_of_mem hr'
      have other {k : Nat} {y : Request} (hk : s.requests[k]? = some y) (hy : passed y.phase = true) : i ≠ k := by
        rintro rfl
        obtain rfl := Option.some.inj (hr.symm.trans hk)
        rw [hreceived] at hy
        cases hy
      have hij : i ≠ j := other hj (passed_of_inWindow hwindow)
      obtain ⟨event, phase⟩ := r
      obtain rfl : phase = .received := hreceived
      cases hadv with
      | unmatched =>
          exact ⟨i, j, _, r', hij, set_self hr, set_other hj hij, rfl, passed_of_inWindow hwindow⟩
      | duplicate existing he =>
          have hc : casesWith s.db key ≠ [] := by
            intro hc
            rw [lookup_eq_head, hkey, hc] at he
            cases he
          obtain ⟨r'', hr'', hcommitted⟩ := h.backed hc
          obtain ⟨k, hk⟩ := List.getElem?_of_mem hr''
          have hjk : j ≠ k := by
            rintro rfl
            obtain rfl := Option.some.inj (hj.symm.trans hk)
            rw [not_committed_of_inWindow hwindow] at hcommitted
            cases hcommitted
          have hik : i ≠ k := other hk (passed_of_committed hcommitted)
          exact ⟨j, k, r', r'', hjk, set_other hj hij, set_other hk hik,
            passed_of_inWindow hwindow, passed_of_committed hcommitted⟩

theorem doomed_step {a : Label} (h : Doomed s) (hP : OnlyKey key s a) (hs : step s a = some s') : Doomed s' := by
  obtain ⟨i, r, hi, hp, hfits⟩ := h
  obtain ⟨t, ht, hevent, hpt⟩ := passed_step hi hp hP hs
  exact ⟨i, t, ht, hpt, hevent ▸ hfits⟩

theorem doomed_of_lookup {a : Label} (hn : ¬ Storable s a) (hs : step s a = some s') : Doomed s' := by
  cases step_some hs with
  | receive => exact (hn trivial).elim
  | fail => exact (hn trivial).elim
  | @run i id r store q hr hadv =>
      simp only [Storable, not_forall] at hn
      obtain ⟨x, hx, hreceived, hnone, hfits⟩ := hn
      obtain rfl := Option.some.inj (hr.symm.trans hx)
      obtain ⟨event, phase⟩ := r
      obtain rfl : phase = .received := hreceived
      cases hadv with
      | duplicate existing he => cases hnone.symm.trans he
      | unmatched => exact ⟨i, _, set_self hr, rfl, hfits⟩

/-- The one request that is not answered as a duplicate has an event that fits. -/
theorem not_doomed (hb : Backed key s) (h : IngestedOnce key s) : ¬ Doomed s := by
  rintro ⟨i, r, hi, hp, hfits⟩
  obtain ⟨case, runId, w, winner, hc, -, -, hw, hwin, hothers⟩ := h
  obtain rfl : i = w := by
    by_contra hiw
    rw [hothers i r hi hiw] at hp
    cases hp
  obtain rfl := Option.some.inj (hi.symm.trans hw)
  obtain ⟨caseId, customerId, hrow⟩ := hb.taken r (List.mem_of_getElem? hi) (by rw [hwin]; rfl)
  obtain ⟨row, hrow⟩ := Option.ne_none_iff_exists'.mp hrow
  have hkey := hb.kept (by rw [hc]; exact List.cons_ne_nil _ _)
  rw [← hb.keys r (List.mem_of_getElem? hi)] at hkey
  exact hfits (fits_of_stored hrow hkey)

theorem not_crossed (h : IngestedOnce key s) : ¬ Crossed s := by
  rintro ⟨i, j, r, r', hne, hi, hj, hp, hp'⟩
  obtain ⟨case, runId, w, winner, -, -, -, -, -, hothers⟩ := h
  have only {k : Nat} {y : Request} (hk : s.requests[k]? = some y) (hy : passed y.phase = true) : k = w := by
    by_contra hkw
    rw [hothers k y hk hkw] at hy
    cases hy
  exact hne ((only hi hp).trans (only hj hp').symm)

/-- Requests with one key for a fresh key: the event is ingested exactly once if
and only if no lookup comes while another request is between its lookup and the
commit of its case, and none is in vain for an event that the columns do not take. -/
theorem ingestedOnce_iff_apart_storable {s₀ : State} {labels : List Label} (h0 : Fresh key s₀)
    (hkey : Along step (OnlyKey key) s₀ labels) (hrun : exec step s₀ labels = some s) (hcomplete : Complete s) :
    IngestedOnce key s ↔ Along step (fun t a => Apart t a ∧ Storable t a) s₀ labels := by
  have hall : AllKey key s₀ := fun r hr => by
    rw [h0.requests] at hr
    cases hr
  constructor
  · intro honce
    have hbacked : Backed key s₀ := by
      refine ⟨hall, locked_start h0.requests, fun hc => absurd h0.cases hc, fun hc => absurd h0.cases hc, fun r hr => ?_⟩
      rw [h0.requests] at hr
      cases hr
    have hend : Backed key s := (reach_of_exec_along labels hkey hrun).invariant hbacked
      fun _ _ _ _ hb hP hs => backed_step hb hP hs
    refine along_of_end (Backed key) (fun t => Crossed t ∨ Doomed t) (fun _ _ _ hb hP _ hs => backed_step hb hP hs) ?_ ?_
      labels hbacked hkey hrun (not_or.mpr ⟨not_crossed honce, not_doomed hend honce⟩)
    · intro t a u hb _ hn hs
      by_cases hapart : Apart t a
      · exact .inr (doomed_of_lookup (fun hstorable => hn ⟨hapart, hstorable⟩) hs)
      · exact .inl (crossed_of_lookup hb hapart hs)
    · rintro t a u (hcrossed | hdoomed) hP hs
      · exact .inl (crossed_step hcrossed hP hs)
      · exact .inr (doomed_step hdoomed hP hs)
  · intro hgood
    have hreach := reach_of_exec_along labels (hkey.and labels hgood) hrun
    have hstage : AllKey key s ∧ Stage key s₀.toStore s :=
      hreach.invariant (I := fun t => AllKey key t ∧ Stage key s₀.toStore t) ⟨hall, stage_start h0⟩ fun t a u _ hi hP hs =>
        ⟨allKey_step hi.1 hP.1 hs, stage_step h0.dispatched h0.cases h0.runs hi.1 hi.2 hP hs⟩
    exact ingestedOnce_of_stage hstage.2 hcomplete

theorem fresh_empty : Fresh key {} := ⟨rfl, rfl, rfl, fun _ h => by cases h⟩

def isAnswered : Phase → Bool
  | .answered _ => true
  | _ => false

theorem complete_of_all (hne : s.requests.length ≠ 0) (h : (s.requests.all fun r => isAnswered r.phase) = true) :
    Complete s := by
  refine ⟨fun hnil => hne (by rw [hnil]; rfl), fun r hr => ?_⟩
  have ha : isAnswered r.phase = true := List.all_eq_true.mp h r hr
  unfold isAnswered at ha
  split at ha
  · exact ⟨_, by assumption⟩
  · cases ha

theorem onlyKey_of_all {labels : List Label}
    (h : (labels.all fun | .receive event => event.idempotencyKey = key | .run _ _ => true | .fail _ => false) = true) :
    Along step (OnlyKey key) {} labels := by
  refine along_of_forall labels fun a ha t => ?_
  have hok := List.all_eq_true.mp h a ha
  cases a with
  | receive event =>
      have hkey : event.idempotencyKey = key := of_decide_eq_true hok
      exact hkey
  | run => trivial
  | fail => cases hok

def apartLabels : List Label :=
  .receive sampleEvent :: .receive sampleEvent :: whole 0 (Uuid.ofDigit 2) (Uuid.ofDigit 3) ++ [.run 1 (Uuid.ofDigit 4)]

theorem ingestedOnce_sample : IngestedOnce "evt_1" (endOf apartLabels) := by
  have hcases : (casesWith (endOf apartLabels).db "evt_1").map RecoveryCase.id = [Uuid.ofDigit 2] := by decide +kernel
  have hruns : runsOf (endOf apartLabels).db (Uuid.ofDigit 2) = [Uuid.ofDigit 3] := by decide +kernel
  have hphases : (endOf apartLabels).requests.map Request.phase =
      [.answered (.accepted (Uuid.ofDigit 2) (some (Uuid.ofDigit 3))), .answered (.duplicate (Uuid.ofDigit 2))] := by
    decide +kernel
  obtain ⟨case, hcase, hid⟩ := List.map_eq_singleton_iff.mp hcases
  obtain ⟨r, rest, hrequests, hr, hrest⟩ := List.map_eq_cons_iff.mp hphases
  obtain ⟨r', rfl, hr'⟩ := List.map_eq_singleton_iff.mp hrest
  rw [← hid] at hruns hr hr'
  refine ⟨case, Uuid.ofDigit 3, 0, r, hcase, hruns, by decide +kernel, by rw [hrequests]; rfl, hr, fun j x hj hne => ?_⟩
  obtain rfl : j = 1 := by
    have hlt := (List.getElem?_eq_some_iff.mp hj).1
    simp only [hrequests, List.length_cons, List.length_nil] at hlt
    omega
  rw [hrequests] at hj
  obtain rfl := Option.some.inj hj
  exact hr'

theorem ingestedOnce_iff_apart_storable_sample : Along step (fun t a => Apart t a ∧ Storable t a) {} apartLabels :=
  (ingestedOnce_iff_apart_storable fresh_empty (onlyKey_of_all (by decide +kernel))
    (exec_getD apartLabels (by decide +kernel)) (complete_of_all (by decide +kernel) (by decide +kernel))).mp
    ingestedOnce_sample

/-- The second request has looked the key up before the first one commits its case. -/
def crossedLabels : List Label :=
  [.receive sampleEvent, .receive sampleEvent, .run 1 (Uuid.ofDigit 4)] ++
    whole 0 (Uuid.ofDigit 2) (Uuid.ofDigit 3) ++ [.run 1 (Uuid.ofDigit 4), .run 1 (Uuid.ofDigit 4)]

theorem ingested_not_once :
    ¬ ∀ (key : String) (s₀ s : State) (labels : List Label), Fresh key s₀ → Along step (OnlyKey key) s₀ labels →
      exec step s₀ labels = some s → Complete s → IngestedOnce key s := by
  intro h
  have honce := h "evt_1" {} (endOf crossedLabels) crossedLabels fresh_empty (onlyKey_of_all (by decide +kernel))
    (exec_getD crossedLabels (by decide +kernel)) (complete_of_all (by decide +kernel) (by decide +kernel))
  obtain ⟨case, runId, w, r, -, -, -, hw, hwin, hothers⟩ := honce
  have hfailed : ((endOf crossedLabels).requests[1]?).map Request.phase = some (.answered .internalError) := by
    decide +kernel
  obtain ⟨r', hr', hphase⟩ := Option.map_eq_some_iff.mp hfailed
  by_cases hw1 : w = 1
  · subst hw1
    obtain rfl := Option.some.inj (hw.symm.trans hr')
    rw [hphase] at hwin
    cases hwin
  · have hdup := hothers 1 r' hr' (Ne.symm hw1)
    rw [hphase] at hdup
    cases hdup

end RevenueRescue.ExactlyOnce
