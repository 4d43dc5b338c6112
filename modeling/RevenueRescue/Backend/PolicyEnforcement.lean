import RevenueRescue.Backend.PolicyService
import RevenueRescue.Foundation.Machine
import RevenueRescue.Foundation.Parties

namespace RevenueRescue.PolicyEnforcement

open Machine Parties PolicySchema PolicyService

/-- How far a call of `create_policy` has come; `loaded` are the rows that it
found active. -/
inductive Phase
  | received
  | loaded (ids : List Uuid)
  | committed
  | failed
  deriving DecidableEq

structure Call where
  payload : Payload
  phase : Phase := .received

structure State where
  rows : List Policy := []
  calls : List Call := []

/-- A call reads the active rows, or flushes and commits with `id` as the new key.
The locks of the flush only put the commits in an order. -/
inductive Label
  | load (i : Nat)
  | commit (i : Nat) (id : Uuid)

def State.setPhase (s : State) (i : Nat) (call : Call) (phase : Phase) : State :=
  { s with calls := s.calls.set i { call with phase := phase } }

def step (driver : Driver) (s : State) : Label → Option State
  | .load i =>
      match s.calls[i]? with
      | some call =>
          match call.phase with
          | .received => some (s.setPhase i call (.loaded (activeIds s.rows)))
          | _ => none
      | none => none
  | .commit i id =>
      match s.calls[i]? with
      | some call =>
          match call.phase with
          | .loaded ids =>
              match commitPolicy driver s.rows ids id call.payload with
              | some rows => some { s.setPhase i call .committed with rows := rows }
              | none => some (s.setPhase i call .failed)
          | _ => none
      | none => none

def Waiting (s : State) : Prop := s.calls ≠ [] ∧ ∀ call ∈ s.calls, call.phase = .received

def Committed (s : State) : Prop := ∀ call ∈ s.calls, call.phase = .committed

def activeCount (rows : List Policy) : Nat := rows.countP (·.isActive)

def isLoaded (call : Call) : Bool :=
  match call.phase with
  | .loaded _ => true
  | _ => false

/-- When the last call reads the active rows, no other is between its reading and its commit. -/
def LastAlone (s : State) : Label → Prop
  | .load i => (∀ (j : Nat) call, s.calls[j]? = some call → call.phase = .received → j = i) →
      ∀ call ∈ s.calls, isLoaded call = false
  | .commit _ _ => True

inductive Step (driver : Driver) (s : State) : Label → State → Prop
  | load {i : Nat} {payload : Payload} (hi : s.calls[i]? = some ⟨payload, .received⟩) :
      Step driver s (.load i) { s with calls := s.calls.set i ⟨payload, .loaded (activeIds s.rows)⟩ }
  | commit {i : Nat} {id : Uuid} {payload : Payload} {ids : List Uuid} {rows : List Policy}
      (hi : s.calls[i]? = some ⟨payload, .loaded ids⟩) (h : commitPolicy driver s.rows ids id payload = some rows) :
      Step driver s (.commit i id) ⟨rows, s.calls.set i ⟨payload, .committed⟩⟩
  | fail {i : Nat} {id : Uuid} {payload : Payload} {ids : List Uuid} (hi : s.calls[i]? = some ⟨payload, .loaded ids⟩) :
      Step driver s (.commit i id) { s with calls := s.calls.set i ⟨payload, .failed⟩ }

variable {driver : Driver} {s s' : State} {a : Label}

theorem step_some (h : step driver s a = some s') : Step driver s a s' := by
  cases a with
  | load i =>
      simp only [step] at h
      split at h
      · rename_i call hi
        obtain ⟨payload, phase⟩ := call
        cases phase <;> cases h
        exact .load hi
      · cases h
  | commit i id =>
      simp only [step] at h
      split at h
      · rename_i call hi
        obtain ⟨payload, phase⟩ := call
        cases phase with
        | loaded ids =>
            dsimp only at h
            split at h
            · cases h
              exact .commit hi (by assumption)
            · cases h
              exact .fail hi
        | received | committed | failed => cases h
      · cases h

/-- A call that nothing comes between does what it does in one piece. -/
theorem createPolicy_alone {rows rows' : List Policy} {id : Uuid} {payload : Payload}
    (h : createPolicy driver rows id payload = some rows') :
    exec (step driver) ⟨rows, [⟨payload, .received⟩]⟩ [.load 0, .commit 0 id] =
      some ⟨rows', [⟨payload, .committed⟩]⟩ := by
  have hcommit : commitPolicy driver rows (activeIds rows) id payload = some rows' := h
  simp [exec, step, State.setPhase, hcommit]

inductive Stage (s : State) : Prop
  | waiting (i : Nat) (call : Call) (hi : s.calls[i]? = some call) (hp : call.phase = .received)
  | last (i : Nat) (payload : Payload) (ids : List Uuid) (hi : s.calls[i]? = some ⟨payload, .loaded ids⟩)
      (hrows : ∀ row ∈ s.rows, row.isActive = true → row.id ∈ ids)
      (ho : ∀ (j : Nat) call, s.calls[j]? = some call → j ≠ i → call.phase = .committed ∨ call.phase = .failed)
  | done (hcount : activeCount s.rows ≤ 1) (ho : ∀ call ∈ s.calls, call.phase = .committed ∨ call.phase = .failed)
  | failed (call : Call) (hc : call ∈ s.calls) (hp : call.phase = .failed)

theorem activeCount_commitPolicy {rows rows' : List Policy} {ids : List Uuid} {id : Uuid} {payload : Payload}
    (h : commitPolicy driver rows ids id payload = some rows') (hrows : ∀ row ∈ rows, row.isActive = true → row.id ∈ ids) :
    activeCount rows' = 1 := by
  obtain ⟨row, hrow, -, rfl⟩ := commitPolicy_eq_some h
  have hold : activeCount (rows.map (deactivate ids)) = 0 := by
    refine List.countP_eq_zero.mpr fun r hr => ?_
    obtain ⟨old, hmem, rfl⟩ := List.mem_map.mp hr
    rw [active_deactivate]
    exact fun hactive => hactive.2 (hrows old hmem hactive.1)
  rw [activeCount, List.countP_cons_of_pos (newPolicy_eq_some hrow).2.1]
  exact congrArg (· + 1) hold

theorem stage_step (h : Stage s) (hP : LastAlone s a) (hs : step driver s a = some s') : Stage s' := by
  cases step_some hs with
  | @load i payload hi =>
      by_cases hothers : ∃ j call, s.calls[j]? = some call ∧ call.phase = .received ∧ j ≠ i
      · obtain ⟨j, call, hj, hp, hne⟩ := hothers
        exact .waiting j call (set_other hj (Ne.symm hne)) hp
      · have honly : ∀ (j : Nat) call, s.calls[j]? = some call → call.phase = .received → j = i := by
          intro j call hj hp
          by_contra hne
          exact hothers ⟨j, call, hj, hp, hne⟩
        have hnone := hP honly
        refine .last i payload (activeIds s.rows) (set_self hi) (fun row hrow hactive => ?_) (fun j call hj hne => ?_)
        · exact List.mem_map_of_mem (List.mem_filter.mpr ⟨hrow, hactive⟩)
        · rcases set_cases hj with ⟨rfl, -⟩ | ⟨-, hold⟩
          · exact absurd rfl hne
          · obtain ⟨payload', phase⟩ := call
            cases phase with
            | received => exact absurd (honly j _ hold rfl) hne
            | loaded ids => cases hnone _ (List.mem_of_getElem? hold)
            | committed => exact .inl rfl
            | failed => exact .inr rfl
  | @commit i id payload ids rows hi hcommit =>
      cases h with
      | waiting j call hj hp =>
          have hij : i ≠ j := by
            rintro rfl
            obtain rfl := Option.some.inj (hi.symm.trans hj)
            cases hp
          exact .waiting j call (set_other hj hij) hp
      | last k payload' ids' hk hrows ho =>
          by_cases hik : i = k
          · subst hik
            cases Option.some.inj (hi.symm.trans hk)
            refine .done (activeCount_commitPolicy hcommit hrows).le fun call hc => ?_
            obtain ⟨j, hj⟩ := List.getElem?_of_mem hc
            rcases set_cases hj with ⟨-, rfl⟩ | ⟨hne, hold⟩
            · exact .inl rfl
            · exact ho j call hold hne
          · rcases ho i _ hi hik with hp | hp <;> cases hp
      | done _ ho => rcases ho _ (List.mem_of_getElem? hi) with hp | hp <;> cases hp
      | failed call hc hp =>
          obtain ⟨j, hj⟩ := List.getElem?_of_mem hc
          have hij : i ≠ j := by
            rintro rfl
            obtain rfl := Option.some.inj (hi.symm.trans hj)
            cases hp
          exact .failed call (mem_set_other hj hij) hp
  | @fail i id payload ids hi => exact .failed _ (mem_set_self hi) rfl

def Known (s : State) : Prop :=
  ∀ call ∈ s.calls, ∀ ids, call.phase = .loaded ids → ∀ id ∈ ids, id ∈ s.rows.map (·.id)

def HasFailed (s : State) : Prop := ∃ call ∈ s.calls, call.phase = .failed

def held (calls : List Call) (id : Uuid) : Bool :=
  calls.any fun call =>
    match call.phase with
    | .loaded ids => id ∈ ids
    | _ => false

def staysActive (calls : List Call) (row : Policy) : Bool := row.isActive && !held calls row.id

def safeCount (s : State) : Nat := s.rows.countP (staysActive s.calls)

structure Doomed (s : State) : Prop where
  read : ∀ call ∈ s.calls, call.phase ≠ .received
  two : 2 ≤ s.calls.countP isLoaded + safeCount s

theorem ids_commitPolicy {rows rows' : List Policy} {ids : List Uuid} {id : Uuid} {payload : Payload}
    (h : commitPolicy driver rows ids id payload = some rows') :
    rows'.map (·.id) = id :: rows.map (·.id) := by
  obtain ⟨row, hrow, -, rfl⟩ := commitPolicy_eq_some h
  rw [List.map_cons, List.map_map, (newPolicy_eq_some hrow).1]
  simp only [Function.comp_def, deactivate_id]

theorem known_step (h : Known s) (hs : step driver s a = some s') : Known s' := by
  intro call hc ids hp id hid
  obtain ⟨j, hj⟩ := List.getElem?_of_mem hc
  cases step_some hs with
  | load hi =>
      rcases set_cases hj with ⟨-, rfl⟩ | ⟨-, hold⟩
      · cases hp
        obtain ⟨row, hrow, rfl⟩ := List.mem_map.mp hid
        exact List.mem_map_of_mem (List.mem_filter.mp hrow).1
      · exact h call (List.mem_of_getElem? hold) ids hp id hid
  | commit hi hcommit =>
      rcases set_cases hj with ⟨-, rfl⟩ | ⟨-, hold⟩
      · cases hp
      · rw [ids_commitPolicy hcommit]
        exact List.mem_cons_of_mem _ (h call (List.mem_of_getElem? hold) ids hp id hid)
  | fail hi =>
      rcases set_cases hj with ⟨-, rfl⟩ | ⟨-, hold⟩
      · cases hp
      · exact h call (List.mem_of_getElem? hold) ids hp id hid

theorem held_iff {calls : List Call} {id : Uuid} :
    held calls id = true ↔ ∃ call ∈ calls, ∃ ids, call.phase = .loaded ids ∧ id ∈ ids := by
  unfold held
  rw [List.any_eq_true]
  refine exists_congr fun call => and_congr_right fun _ => ?_
  cases call.phase <;> simp

theorem safeCount_commit {i : Nat} {id : Uuid} {payload : Payload} {ids : List Uuid} {rows : List Policy}
    (h : Known s) (hi : s.calls[i]? = some ⟨payload, .loaded ids⟩)
    (hcommit : commitPolicy driver s.rows ids id payload = some rows) :
    safeCount s + 1 ≤ safeCount ⟨rows, s.calls.set i ⟨payload, .committed⟩⟩ := by
  -- What is still held was held before, and was a row then.
  have hheld : ∀ x, held (s.calls.set i ⟨payload, .committed⟩) x = true →
      held s.calls x = true ∧ x ∈ s.rows.map (·.id) := by
    intro x hx
    obtain ⟨call, hc, ids', hp, hid⟩ := held_iff.mp hx
    obtain ⟨j, hj⟩ := List.getElem?_of_mem hc
    rcases set_cases hj with ⟨-, rfl⟩ | ⟨-, hold⟩
    · cases hp
    · have hmem := List.mem_of_getElem? hold
      exact ⟨held_iff.mpr ⟨call, hmem, ids', hp, hid⟩, h call hmem ids' hp x hid⟩
  obtain ⟨row, hrow, hfresh, rfl⟩ := commitPolicy_eq_some hcommit
  obtain ⟨hid, hactive, -⟩ := newPolicy_eq_some hrow
  have hnew : staysActive (s.calls.set i ⟨payload, .committed⟩) row = true := by
    rw [staysActive, hactive, hid, Bool.true_and, Bool.not_eq_true']
    exact Bool.eq_false_of_not_eq_true fun hx => hfresh (hheld id hx).2
  dsimp only [safeCount]
  rw [List.countP_cons_of_pos hnew, List.countP_map]
  refine Nat.add_le_add_right (List.countP_mono_left fun r _ hr => ?_) 1
  simp only [staysActive, Bool.and_eq_true, Bool.not_eq_true'] at hr
  have hfree : r.id ∉ ids := fun hmem => by
    rw [held_iff.mpr ⟨_, List.mem_of_getElem? hi, ids, rfl, hmem⟩] at hr
    cases hr.2
  simp only [Function.comp_apply, staysActive, deactivate_id, Bool.and_eq_true, Bool.not_eq_true', active_deactivate]
  exact ⟨⟨hr.1, hfree⟩, Bool.eq_false_of_not_eq_true fun hx => by
    rw [(hheld r.id hx).1] at hr
    cases hr.2⟩

theorem doomed_step (hk : Known s) (h : Doomed s) (hs : step driver s a = some s') : Doomed s' ∨ HasFailed s' := by
  cases step_some hs with
  | load hi => exact absurd rfl (h.read _ (List.mem_of_getElem? hi))
  | @commit i id payload ids rows hi hcommit =>
      refine .inl ⟨fun call hc => ?_, ?_⟩
      · obtain ⟨j, hj⟩ := List.getElem?_of_mem hc
        rcases set_cases hj with ⟨-, rfl⟩ | ⟨-, hold⟩
        · exact Phase.noConfusion
        · exact h.read call (List.mem_of_getElem? hold)
      · have hsafe := safeCount_commit hk hi hcommit
        have hflying := countP_set (x := ⟨payload, .committed⟩) isLoaded hi
        have htwo := h.two
        simp only [isLoaded, if_true, Bool.false_eq_true, if_false] at hflying
        dsimp only
        omega
  | fail hi => exact .inr ⟨_, mem_set_self hi, rfl⟩

theorem hasFailed_step (h : HasFailed s) (hs : step driver s a = some s') : HasFailed s' := by
  obtain ⟨call, hc, hp⟩ := h
  obtain ⟨j, hj⟩ := List.getElem?_of_mem hc
  have other {i : Nat} {call' : Call} (hi : s.calls[i]? = some call') (hp' : call'.phase ≠ .failed) : i ≠ j := by
    rintro rfl
    obtain rfl := Option.some.inj (hi.symm.trans hj)
    exact hp' hp
  cases step_some hs with
  | load hi => exact ⟨call, mem_set_other hj (other hi Phase.noConfusion), hp⟩
  | commit hi => exact ⟨call, mem_set_other hj (other hi Phase.noConfusion), hp⟩
  | fail hi => exact ⟨call, mem_set_other hj (other hi Phase.noConfusion), hp⟩

theorem doomed_of_load (hn : ¬ LastAlone s a) (hs : step driver s a = some s') : Doomed s' := by
  cases step_some hs with
  | commit | fail => exact absurd trivial hn
  | @load i payload hi =>
      simp only [LastAlone, not_forall, Bool.not_eq_false] at hn
      obtain ⟨honly, call, hc, hloaded⟩ := hn
      refine ⟨fun call' hc' hp => ?_, ?_⟩
      · obtain ⟨j, hj⟩ := List.getElem?_of_mem hc'
        rcases set_cases hj with ⟨-, rfl⟩ | ⟨hne, hold⟩
        · cases hp
        · exact hne (honly j call' hold hp)
      · have hflying := countP_set (x := ⟨payload, .loaded (activeIds s.rows)⟩) isLoaded hi
        have hpos : 0 < s.calls.countP isLoaded := List.countP_pos_iff.mpr ⟨call, hc, hloaded⟩
        simp only [isLoaded, if_true, Bool.false_eq_true, if_false] at hflying
        dsimp only
        omega

theorem not_doomed (hc : Committed s) (hone : activeCount s.rows ≤ 1) : ¬ (Doomed s ∨ HasFailed s) := by
  rintro (h | ⟨call, hmem, hp⟩)
  · have hloaded : ∀ call ∈ s.calls, ¬ isLoaded call = true := by
      intro call hmem
      unfold isLoaded
      rw [hc call hmem]
      exact Bool.false_ne_true
    have hsafe : safeCount s ≤ activeCount s.rows :=
      List.countP_mono_left fun row _ hrow => (Bool.and_eq_true _ _ ▸ hrow).1
    have htwo := h.two
    rw [List.countP_eq_zero.mpr hloaded] at htwo
    omega
  · cases (hc call hmem).symm.trans hp

theorem activeCount_of_stage (h : Stage s) (hc : Committed s) : activeCount s.rows ≤ 1 := by
  cases h with
  | waiting i call hi hp => cases (hc call (List.mem_of_getElem? hi)).symm.trans hp
  | last i payload ids hi => cases hc _ (List.mem_of_getElem? hi)
  | done hcount => exact hcount
  | failed call hmem hp => cases (hc call hmem).symm.trans hp

/-- Calls that have all committed leave at most one active row if and only if the
last of them to read the active rows did so beside no other call. -/
theorem activeCount_le_iff {s₀ : State} {labels : List Label} (hw : Waiting s₀)
    (hrun : exec (step driver) s₀ labels = some s) (hc : Committed s) :
    activeCount s.rows ≤ 1 ↔ Along (step driver) LastAlone s₀ labels := by
  constructor
  · intro hone
    have hknown : Known s₀ := by
      intro call hmem ids hp
      cases (hw.2 call hmem).symm.trans hp
    refine along_of_end Known (fun s => Known s ∧ (Doomed s ∨ HasFailed s)) (fun _ _ _ hk _ _ hs => known_step hk hs)
      ?_ ?_ labels hknown (along_of_forall (P := Any) labels fun _ _ _ => trivial) hrun
      fun hbad => not_doomed hc hone hbad.2
    · intro t a u hk _ hn hs
      exact ⟨known_step hk hs, .inl (doomed_of_load hn hs)⟩
    · rintro t a u ⟨hk, hdoomed | hfailed⟩ _ hs
      · exact ⟨known_step hk hs, doomed_step hk hdoomed hs⟩
      · exact ⟨known_step hk hs, .inr (hasFailed_step hfailed hs)⟩
  · intro halong
    obtain ⟨call, hmem⟩ := List.exists_mem_of_ne_nil _ hw.1
    obtain ⟨i, hi⟩ := List.getElem?_of_mem hmem
    exact activeCount_of_stage ((reach_of_exec_along labels halong hrun).invariant
      (.waiting i call hi (hw.2 call hmem)) fun _ _ _ _ hstage hP hs => stage_step hstage hP hs) hc

/-- An accepted policy is the one enforced if and only if it passes the
validation, with the id and version of `create_policy` where it has none; and
calls that have all committed leave at most one active row if and only if the
last of them to read the active rows did so beside no other call. -/
theorem enforced_iff (c : Conversions) (driver : Driver) :
    (∀ (rows rows' : List Policy) (id : Uuid) (payload : Payload), createPolicy driver rows id payload = some rows' →
      ((∃ config, effective c payload = some config ∧ getActivePolicyConfig c rows' = some config) ↔
        (effective c payload).isSome = true)) ∧
    ∀ (s₀ s : State) (labels : List Label), Waiting s₀ → exec (step driver) s₀ labels = some s → Committed s →
      (activeCount s.rows ≤ 1 ↔ Along (step driver) LastAlone s₀ labels) := by
  refine ⟨fun rows rows' id payload h => ?_, fun s₀ s labels hw hrun hc => activeCount_le_iff hw hrun hc⟩
  rw [getActivePolicyConfig_createPolicy h, Option.isSome_iff_exists]
  exact exists_congr fun config => and_self_iff

def crossedCalls : State := { calls := [⟨retries 3, .received⟩, ⟨retries 5, .received⟩] }

def crossedLabels : List Label := [.load 0, .load 1, .commit 0 (Uuid.ofDigit 1), .commit 1 (Uuid.ofDigit 2)]

theorem crossedCalls_waiting : Waiting crossedCalls := by
  refine ⟨List.cons_ne_nil _ _, ?_⟩
  simp [crossedCalls]

theorem crossed_committed : ∃ s, exec (step plainDriver) crossedCalls crossedLabels = some s ∧ Committed s ∧
    activeCount s.rows = 2 := by
  refine ⟨_, rfl, ?_, rfl⟩
  simp [Committed, State.setPhase, crossedCalls]

theorem enforced_iff_sample : ∃ rows s, createPolicy plainDriver [] (Uuid.ofDigit 1) (retries 3) = some rows ∧
    ((∃ config, effective strict (retries 3) = some config ∧ getActivePolicyConfig strict rows = some config) ↔
      (effective strict (retries 3)).isSome = true) ∧
    exec (step plainDriver) crossedCalls crossedLabels = some s ∧
    (activeCount s.rows ≤ 1 ↔ Along (step plainDriver) LastAlone crossedCalls crossedLabels) := by
  obtain ⟨s, hrun, hc, -⟩ := crossed_committed
  obtain ⟨rows, hrows⟩ : ∃ rows, createPolicy plainDriver [] (Uuid.ofDigit 1) (retries 3) = some rows := ⟨_, rfl⟩
  exact ⟨rows, s, hrows, (enforced_iff strict plainDriver).1 [] rows _ _ hrows, hrun,
    (enforced_iff strict plainDriver).2 crossedCalls s crossedLabels crossedCalls_waiting hrun hc⟩

theorem policy_not_enforced :
    (¬ ∀ (c : Conversions) (driver : Driver) (rows rows' : List Policy) (id : Uuid) (payload : Payload),
      createPolicy driver rows id payload = some rows' →
        ∃ config, effective c payload = some config ∧ getActivePolicyConfig c rows' = some config) ∧
    ¬ ∀ (driver : Driver) (s₀ s : State) (labels : List Label), Waiting s₀ →
      exec (step driver) s₀ labels = some s → Committed s → activeCount s.rows ≤ 1 := by
  constructor
  · intro h
    obtain ⟨config, hconfig, -⟩ := h strict plainDriver [] _ (Uuid.ofDigit 1) (retries 99) rfl
    have hnone : effective strict (retries 99) = none := by
      simp [effective, retries, validatePolicy, validateLimits, field, lookup, model, strict]
    rw [hnone] at hconfig
    cases hconfig
  · intro h
    obtain ⟨s, hrun, hc, htwo⟩ := crossed_committed
    have hone := h plainDriver crossedCalls s crossedLabels crossedCalls_waiting hrun hc
    omega

end RevenueRescue.PolicyEnforcement
