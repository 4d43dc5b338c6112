import RevenueRescue.Backend.Ingestion

namespace RevenueRescue.CrashRecovery

open Machine Parties Models RecoveryService Ingestion

def HasRun (db : Db) (caseId : Uuid) : Prop := ∃ run ∈ db.runs.rows, run.recoveryCaseId = caseId

def starting? : Phase → Option RecoveryCase
  | .created case | .started case _ => some case
  | _ => none

def answeredFor? : Phase → Option Uuid
  | .answered (.accepted caseId _) | .answered (.duplicate caseId) => some caseId
  | _ => none

/-- The case has a run, or the request that has committed it is about to start one. -/
def Cared (s : State) (caseId : Uuid) : Prop :=
  HasRun s.db caseId ∨ ∃ r ∈ s.requests, (starting? r.phase).map RecoveryCase.id = some caseId

/-- No answer is for a case that nobody starts a run for. -/
def NoOrphans (s : State) : Prop :=
  ∀ r ∈ s.requests, ∀ caseId, answeredFor? r.phase = some caseId → Cared s caseId

/-- A request does not end between the commit of its case and the commit of its run. -/
def Safe (s : State) : Label → Prop
  | .fail i => ∀ r, s.requests[i]? = some r → starting? r.phase = none
  | _ => True

structure Sound (db : Db) : Prop where
  cases : ∀ c ∈ db.cases.rows, HasRun db c.id
  runs : ∀ run ∈ db.runs.rows, db.cases.find run.recoveryCaseId ≠ none
  keys : ∀ c ∈ db.cases.rows, getCaseByIdempotencyKey db c.sourceEventKey = some c

def caseId? : Phase → Option Uuid
  | .created case | .started case _ | .running case _ => some case.id
  | p => answeredFor? p

structure Regular (s : State) : Prop where
  locked : Locked s
  runs : ∀ run ∈ s.db.runs.rows, s.db.cases.find run.recoveryCaseId ≠ none
  keys : ∀ c ∈ s.db.cases.rows, getCaseByIdempotencyKey s.db c.sourceEventKey = some c
  known : ∀ (i : Nat) r caseId, s.requests[i]? = some r → caseId? r.phase = some caseId →
    s.db.cases.find caseId ≠ none
  row : ∀ (i : Nat) r case, s.requests[i]? = some r → starting? r.phase = some case →
    case ∈ s.db.cases.rows ∧ startable case = true
  unstarted : ∀ (i : Nat) r case, s.requests[i]? = some r → starting? r.phase = some case → ¬ HasRun s.db case.id
  alone : ∀ (i j : Nat) r r' case case', i ≠ j → s.requests[i]? = some r → s.requests[j]? = some r' →
    starting? r.phase = some case → starting? r'.phase = some case' → case.id ≠ case'.id

variable {s s' : State} {id : Uuid} {event : Event} {p q : Phase} {store : Store} {caseId : Uuid} {case : RecoveryCase}

theorem createCase_rows {db db' : Db} {reason : String} (h : createCase db case reason = some db') :
    db'.cases.rows = case :: db.cases.rows ∧ db'.runs = db.runs ∧ db.cases.find case.id = none := by
  obtain ⟨cases, _, hi, -, hcases, hruns, -⟩ := createCase_eq_some h
  exact ⟨hcases ▸ Table.insert_rows hi, hruns, Table.find_none_of_insert hi⟩

theorem startAgentRun_rows {db db' : Db} {runId : Uuid} (h : startAgentRun db case runId = some db') :
    db'.cases = db.cases ∧ db'.runs.rows = { id := runId, recoveryCaseId := case.id } :: db.runs.rows := by
  obtain ⟨runs, _, hi, -, rfl⟩ := startAgentRun_eq_some h
  exact ⟨rfl, Table.insert_rows hi⟩

theorem find_ne_none {db : Db} : db.cases.find caseId ≠ none ↔ ∃ c ∈ db.cases.rows, c.id = caseId := by
  constructor
  · intro h
    obtain ⟨c, hc⟩ := Option.ne_none_iff_exists'.mp h
    exact ⟨c, Table.find_mem hc, Table.find_key hc⟩
  · rintro ⟨c, hc, rfl⟩
    rw [Table.find_of_mem hc]
    exact Option.some_ne_none c

theorem advance_rows (h : Advance s id event p store q) (hc : case ∈ s.db.cases.rows) : case ∈ store.db.cases.rows := by
  cases h with
  | commitCase _ _ db _ hdb => exact (createCase_rows hdb).1 ▸ List.mem_cons_of_mem _ hc
  | commitRun _ _ db hdb => exact (startAgentRun_rows hdb).1 ▸ hc
  | _ => exact hc

theorem advance_find (h : Advance s id event p store q) (hf : s.db.cases.find caseId ≠ none) :
    store.db.cases.find caseId ≠ none := by
  obtain ⟨c, hc, hid⟩ := find_ne_none.mp hf
  exact find_ne_none.mpr ⟨c, advance_rows h hc, hid⟩

theorem advance_hasRun (h : Advance s id event p store q) (hr : HasRun s.db caseId) : HasRun store.db caseId := by
  obtain ⟨run, hrun, hid⟩ := hr
  refine ⟨run, ?_, hid⟩
  cases h with
  | commitCase _ _ db _ hdb => exact (createCase_rows hdb).2.1 ▸ hrun
  | commitRun _ _ db hdb => exact (startAgentRun_rows hdb).2 ▸ List.mem_cons_of_mem _ hrun
  | _ => exact hrun

theorem advance_newRun (h : Advance s id event p store q) (hr : HasRun store.db caseId) :
    HasRun s.db caseId ∨ ∃ case runId, p = .started case runId ∧ case.id = caseId := by
  cases h with
  | commitCase _ _ db _ hdb =>
      obtain ⟨run, hrun, hid⟩ := hr
      exact .inl ⟨run, (createCase_rows hdb).2.1 ▸ hrun, hid⟩
  | commitRun case runId db hdb =>
      obtain ⟨run, hrun, hid⟩ := hr
      rw [(startAgentRun_rows hdb).2] at hrun
      rcases List.mem_cons.mp hrun with rfl | hrun
      · exact .inr ⟨case, runId, rfl, hid⟩
      · exact .inl ⟨run, hrun, hid⟩
  | _ => exact .inl hr

theorem advance_starting (h : Advance s id event p store q) (hq : starting? q = some case) :
    (starting? p = some case ∧ store.db = s.db) ∨
      ∃ stub, p = .inserted case stub ∧ createCase s.db case event.reason = some store.db := by
  cases h with
  | commitCase _ stub db _ hdb =>
      cases hq
      exact .inr ⟨stub, rfl, hdb⟩
  | startRun =>
      cases hq
      exact .inl ⟨rfl, rfl⟩
  | _ => cases hq

theorem advance_cared (h : Advance s id event p store q) (hp : starting? p = some case)
    (hrow : case ∈ s.db.cases.rows) (hstart : startable case = true) :
    starting? q = some case ∨ HasRun store.db case.id := by
  cases h with
  | startRun =>
      cases hp
      exact .inl rfl
  | unstarted _ hn =>
      cases hp
      rw [Table.find_of_mem hrow, hstart] at hn
      rcases hn with hn | hn <;> cases hn
  | commitRun _ runId db hdb =>
      cases hp
      exact .inr ⟨_, (startAgentRun_rows hdb).2 ▸ List.mem_cons_self, rfl⟩
  | _ => cases hp

theorem advance_caseId (h : Advance s id event p store q)
    (hp : ∀ k, caseId? p = some k → s.db.cases.find k ≠ none) (hq : caseId? q = some caseId) :
    store.db.cases.find caseId ≠ none := by
  cases h with
  | duplicate existing he =>
      cases hq
      rw [(Table.find_of_select he).1]
      exact Option.some_ne_none existing
  | commitCase case _ db _ hdb =>
      cases hq
      exact find_ne_none.mpr ⟨case, (createCase_rows hdb).1 ▸ List.mem_cons_self, rfl⟩
  | commitRun case runId db hdb =>
      cases hq
      rw [(startAgentRun_rows hdb).1]
      exact hp case.id rfl
  | unstarted case | startRun case | dispatch case =>
      cases hq
      exact hp case.id rfl
  | _ => cases hq

theorem caseId_of_starting (h : starting? p = some case) : caseId? p = some case.id := by
  unfold starting? at h
  split at h <;> cases h <;> rfl

theorem regular_start (h : s.requests = []) (hdb : Sound s.db) : Regular s := by
  refine ⟨locked_start h, hdb.runs, hdb.keys, ?_, ?_, ?_, ?_⟩ <;> simp [h]

theorem regular_run {i : Nat} (h : Regular s) (hs : step s (.run i id) = some s') : Regular s' := by
  have hlocked := locked_step h.locked hs
  cases step_some hs with
  | @run _ _ x store q hx hadv =>
      have new {case : RecoveryCase} {stub : Bool} (hp : x.phase = .inserted case stub)
          (hc : createCase s.db case x.event.reason = some store.db) :
          startable case = true ∧ s.db.cases.find case.id = none ∧ case ∈ store.db.cases.rows := by
        obtain ⟨caseId, customerId, hrow⟩ := h.locked.row i x case stub hx hp
        obtain ⟨hrows, -, hnone⟩ := createCase_rows hc
        exact ⟨Event.startable_stored hrow, hnone, hrows ▸ List.mem_cons_self⟩
      have fresh {k : Nat} {r : Request} {case : RecoveryCase} (hk : s.requests[k]? = some r)
          (hstart : starting? r.phase = some case) : s.db.cases.find case.id ≠ none :=
        h.known k r case.id hk (caseId_of_starting hstart)
      refine ⟨hlocked, ?_, ?_, ?_, ?_, ?_, ?_⟩
      · intro run hrun
        obtain ⟨run', hrun', hid⟩ | ⟨case, runId, hp, hid⟩ := advance_newRun hadv ⟨run, hrun, rfl⟩
        · exact advance_find hadv (hid ▸ h.runs run' hrun')
        · exact advance_find hadv (hid ▸ fresh hx (by rw [hp]; rfl))
      · intro c hc
        by_cases hcommit : ∃ case stub, x.phase = .inserted case stub
        · obtain ⟨case, stub, hp⟩ := hcommit
          have hfree := h.locked.free i x case stub hx hp
          rw [hp] at hadv
          cases hadv with
          | commitCase _ _ db _ hdb =>
              rcases List.mem_cons.mp ((createCase_rows hdb).1 ▸ hc) with rfl | hold
              · rw [getCaseByIdempotencyKey, Table.select, (createCase_rows hdb).1,
                  List.find?_cons_of_pos (by simp)]
              · have hfound := h.keys c hold
                refine (lookup_createCase hdb fun heq => ?_).trans hfound
                rw [← heq, hfree] at hfound
                cases hfound
        · have hcases := hadv.cases_eq fun case stub hp => hcommit ⟨case, stub, hp⟩
          rw [getCaseByIdempotencyKey, hcases]
          exact h.keys c (hcases ▸ hc)
      · intro k r caseId hk hid
        rcases set_cases hk with ⟨rfl, rfl⟩ | ⟨-, hold⟩
        · exact advance_caseId hadv (fun j hj => h.known k x j hx hj) hid
        · exact advance_find hadv (h.known k r caseId hold hid)
      · intro k r case hk hstart
        rcases set_cases hk with ⟨rfl, rfl⟩ | ⟨-, hold⟩
        · rcases advance_starting hadv hstart with ⟨hp, hdb⟩ | ⟨stub, hp, hc⟩
          · exact hdb ▸ h.row k x case hx hp
          · obtain ⟨hs, -, hrow⟩ := new hp hc
            exact ⟨hrow, hs⟩
        · obtain ⟨hrow, hs⟩ := h.row k r case hold hstart
          exact ⟨advance_rows hadv hrow, hs⟩
      · intro k r case hk hstart hrun
        rcases set_cases hk with ⟨rfl, rfl⟩ | ⟨hne, hold⟩
        · rcases advance_starting hadv hstart with ⟨hp, hdb⟩ | ⟨stub, hp, hc⟩
          · exact h.unstarted k x case hx hp (hdb ▸ hrun)
          · obtain ⟨run, hmem, hid⟩ := hrun
            rw [(createCase_rows hc).2.1] at hmem
            exact h.runs run hmem (hid ▸ (new hp hc).2.1)
        · rcases advance_newRun hadv hrun with hrun | ⟨case', runId, hp, hid⟩
          · exact h.unstarted k r case hold hstart hrun
          · exact h.alone i k x r case' case (Ne.symm hne) hx hold (by rw [hp]; rfl) hstart hid
      · intro j k r r' case case' hne hj hk hstart hstart' heq
        rcases set_cases hj with ⟨rfl, rfl⟩ | ⟨-, hold⟩
        · rcases set_cases hk with ⟨rfl, -⟩ | ⟨-, hold'⟩
          · exact hne rfl
          · rcases advance_starting hadv hstart with ⟨hp, -⟩ | ⟨stub, hp, hc⟩
            · exact h.alone j k x r' case case' hne hx hold' hp hstart' heq
            · exact fresh hold' hstart' (heq ▸ (new hp hc).2.1)
        · rcases set_cases hk with ⟨rfl, rfl⟩ | ⟨-, hold'⟩
          · rcases advance_starting hadv hstart' with ⟨hp, -⟩ | ⟨stub, hp, hc⟩
            · exact h.alone j k r x case case' hne hold hx hstart hp heq
            · exact fresh hold hstart (heq ▸ (new hp hc).2.1)
          · exact h.alone j k r r' case case' hne hold hold' hstart hstart' heq

theorem regular_step {a : Label} (h : Regular s) (hs : step s a = some s') : Regular s' := by
  by_cases ha : ∃ i id, a = .run i id
  · obtain ⟨i, id, rfl⟩ := ha
    exact regular_run h hs
  · obtain ⟨hdb, hquiet⟩ := (step_some hs).quiet fun i id he => ha ⟨i, id, he⟩
    have old {i : Nat} {r : Request} {caseId : Uuid} (hi : s'.requests[i]? = some r)
        (hp : caseId? r.phase = some caseId) : s.requests[i]? = some r := by
      rcases hquiet i r hi with hr | hr | hr
      · exact hr
      · rw [hr] at hp
        cases hp
      · rw [hr] at hp
        cases hp
    have hlocked := locked_step h.locked hs
    exact
      { locked := hlocked
        runs := hdb ▸ h.runs
        keys := hdb ▸ h.keys
        known := fun i r caseId hi hp => hdb ▸ h.known i r caseId (old hi hp) hp
        row := fun i r case hi hp => hdb ▸ h.row i r case (old hi (caseId_of_starting hp)) hp
        unstarted := fun i r case hi hp => hdb ▸ h.unstarted i r case (old hi (caseId_of_starting hp)) hp
        alone := fun i j r r' case case' hne hi hj hp hp' =>
          h.alone i j r r' case case' hne (old hi (caseId_of_starting hp)) (old hj (caseId_of_starting hp')) hp hp' }

def AllCared (s : State) : Prop := ∀ c ∈ s.db.cases.rows, Cared s c.id

theorem noOrphans_of_allCared (h : Regular s) (hc : AllCared s) : NoOrphans s := by
  intro r hr caseId ha
  obtain ⟨i, hi⟩ := List.getElem?_of_mem hr
  have hid : caseId? r.phase = some caseId := by
    unfold answeredFor? at ha
    split at ha
    · rename_i hp
      cases ha
      rw [hp]
      rfl
    · rename_i hp
      cases ha
      rw [hp]
      rfl
    · cases ha
  obtain ⟨c, hrow, rfl⟩ := find_ne_none.mp (h.known i r caseId hi hid)
  exact hc c hrow

theorem allCared_step {a : Label} (h : Regular s) (hc : AllCared s) (hsafe : Safe s a) (hs : step s a = some s') :
    AllCared s' := by
  intro c hrow
  cases step_some hs with
  | receive event =>
      rcases hc c hrow with hrun | ⟨r, hr, hstart⟩
      · exact .inl hrun
      · exact .inr ⟨r, List.mem_append_left _ hr, hstart⟩
  | @fail i x hx hover =>
      rcases hc c hrow with hrun | ⟨r, hr, hstart⟩
      · exact .inl hrun
      · obtain ⟨j, hj⟩ := List.getElem?_of_mem hr
        have hij : i ≠ j := by
          rintro rfl
          rw [hsafe r hj] at hstart
          cases hstart
        exact .inr ⟨r, mem_set_other hj hij, hstart⟩
  | @run i id x store q hx hadv =>
      have hself : (⟨x.event, q⟩ : Request) ∈ s.requests.set i ⟨x.event, q⟩ :=
        mem_set_self hx
      by_cases hold : c ∈ s.db.cases.rows
      · rcases hc c hold with hrun | ⟨r, hr, hstart⟩
        · exact .inl (advance_hasRun hadv hrun)
        · obtain ⟨j, hj⟩ := List.getElem?_of_mem hr
          by_cases hij : i = j
          · subst hij
            obtain rfl := Option.some.inj (hx.symm.trans hj)
            obtain ⟨case, hp, hid⟩ := Option.map_eq_some_iff.mp hstart
            obtain ⟨hcase, hgate⟩ := h.row i x case hx hp
            rcases advance_cared hadv hp hcase hgate with hq | hrun
            · exact .inr ⟨_, hself, by rw [hq, Option.map_some, hid]⟩
            · exact .inl (hid ▸ hrun)
          · exact .inr ⟨r, mem_set_other hj hij, hstart⟩
      · -- The case that the statement has committed is the request's own.
        obtain ⟨event, phase⟩ := x
        cases hadv with
        | commitCase case stub db _ hdb =>
            rcases List.mem_cons.mp ((createCase_rows hdb).1 ▸ hrow) with rfl | hmem
            · exact .inr ⟨_, hself, rfl⟩
            · exact absurd hmem hold
        | commitRun _ _ db hdb => exact absurd ((startAgentRun_rows hdb).1 ▸ hrow) hold
        | _ => exact absurd hrow hold

/-- The case of a request that dies too early stays without a run, and the next
delivery of its event, under the key that the row has, is answered for it. -/
theorem orphan_of_crash {i : Nat} {r : Request} (h : Regular s) (hi : s.requests[i]? = some r)
    (hp : starting? r.phase = some case) (hs : step s (.fail i) = some s') :
    ∃ t, Reach step Safe s' t ∧ ¬ NoOrphans t := by
  have hrow := (h.row i r case hi hp).1
  have hlookup : getCaseByIdempotencyKey s.db (r.event.withKey case.sourceEventKey).idempotencyKey = some case := by
    rw [Event.withKey_key]
    exact h.keys case hrow
  cases step_some hs with
  | @fail _ x hx hover =>
      obtain rfl := Option.some.inj (hi.symm.trans hx)
      have hredelivered := redelivered (s := { s with requests := s.requests.set i { r with phase := .lost } })
        case.id hlookup
      have hsafe : ∀ a ∈ [Label.receive (r.event.withKey case.sourceEventKey),
            .run (s.requests.set i { r with phase := .lost }).length case.id], ∀ t, Safe t a := by
        simp [Safe]
      refine ⟨_, reach_of_exec_forall _ hsafe hredelivered, fun hno => ?_⟩
      have hanswered := hno ⟨r.event.withKey case.sourceEventKey, .answered (.duplicate case.id)⟩
        (List.mem_append_right _ (List.mem_singleton_self _)) case.id rfl
      rcases hanswered with hrun | ⟨r', hr', hstart⟩
      · exact h.unstarted i r case hi hp hrun
      · obtain ⟨case', hp', hid⟩ := Option.map_eq_some_iff.mp hstart
        obtain ⟨j, hj⟩ := List.getElem?_of_mem hr'
        rcases join_cases hj with rfl | hj
        · cases hp'
        · rcases set_cases hj with ⟨-, rfl⟩ | ⟨hne, hj⟩
          · cases hp'
          · exact h.alone j i r' r case' case hne hj hi hp' hp hid

/-- Ingestion survives a crash exactly when the request that ends was not between
the commit of its case and the commit of its run. -/
theorem noOrphans_iff_safe {s₀ : State} {a : Label} (h0 : s₀.requests = []) (hdb : Sound s₀.db)
    (hr : Reach step Safe s₀ s) (hs : step s a = some s') :
    (∀ t, Reach step Safe s' t → NoOrphans t) ↔ Safe s a := by
  have hstart : Regular s₀ ∧ AllCared s₀ := ⟨regular_start h0 hdb, fun c hc => .inl (hdb.cases c hc)⟩
  have hsound {t : State} (ht : Reach step Safe s₀ t) : Regular t ∧ AllCared t :=
    ht.invariant (I := fun u => Regular u ∧ AllCared u) hstart fun u b v _ hi hP hb =>
      ⟨regular_step hi.1 hb, allCared_step hi.1 hi.2 hP hb⟩
  constructor
  · intro hall
    cases a with
    | receive | run => trivial
    | fail i =>
        intro r hi
        cases hp : starting? r.phase with
        | none => rfl
        | some case =>
            obtain ⟨t, ht, hn⟩ := orphan_of_crash (hsound hr).1 hi hp hs
            exact absurd (hall t ht) hn
  · intro hsafe t ht
    obtain ⟨hregular, hcared⟩ := hsound ((hr.tail hsafe hs).trans ht)
    exact noOrphans_of_allCared hregular hcared

theorem sound_empty : Sound {} where
  cases := fun _ h => by cases h
  runs := fun _ h => by cases h
  keys := fun _ h => by cases h

def untilCreated : List Label := .receive sampleEvent :: (whole 0 (Uuid.ofDigit 2) (Uuid.ofDigit 3)).take 6

theorem noOrphans_iff_safe_sample : ∃ s', step (endOf untilCreated) (.fail 0) = some s' ∧
    ((∀ t, Reach step Safe s' t → NoOrphans t) ↔ Safe (endOf untilCreated) (.fail 0)) := by
  have hsafe : ∀ a ∈ untilCreated, ∀ t, Safe t a := by
    simp [untilCreated, whole, Safe]
  have hreach : Reach step Safe {} (endOf untilCreated) := reach_getD untilCreated hsafe (by decide +kernel)
  have hcrash : (step (endOf untilCreated) (.fail 0)).isSome = true := by decide +kernel
  obtain ⟨s', hs'⟩ := Option.isSome_iff_exists.mp hcrash
  exact ⟨s', hs', noOrphans_iff_safe rfl sound_empty hreach hs'⟩

/-- The process dies after the commit of the case, and the event is delivered again. -/
def orphaning : List Label := untilCreated ++ [.fail 0, .receive sampleEvent, .run 1 (Uuid.ofDigit 4)]

theorem redelivered_without_run :
    ¬ ∀ s₀ s : State, s₀.requests = [] → Sound s₀.db → Reach step Any s₀ s → NoOrphans s := by
  intro h
  have hno : NoOrphans (endOf orphaning) :=
    h {} (endOf orphaning) rfl sound_empty (reach_getD orphaning (fun _ _ _ => trivial) (by decide +kernel))
  have hanswer : ((endOf orphaning).requests[1]?).map Request.phase = some (.answered (.duplicate (Uuid.ofDigit 2))) := by
    decide +kernel
  obtain ⟨r, hr, hphase⟩ := Option.map_eq_some_iff.mp hanswer
  rcases hno r (List.mem_of_getElem? hr) (Uuid.ofDigit 2) (by rw [hphase]; rfl) with ⟨run, hrun, -⟩ | ⟨x, hx, hstart⟩
  · have hnone : (endOf orphaning).db.runs.rows = [] := by decide +kernel
    rw [hnone] at hrun
    cases hrun
  · have hnone : ((endOf orphaning).requests.all fun x => (starting? x.phase).isNone) = true := by decide +kernel
    have hx' := List.all_eq_true.mp hnone x hx
    rw [Option.isNone_iff_eq_none.mp hx'] at hstart
    cases hstart

end RevenueRescue.CrashRecovery
