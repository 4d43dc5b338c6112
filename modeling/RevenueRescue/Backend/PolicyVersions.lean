import RevenueRescue.Backend.PolicyService
import RevenueRescue.Foundation.Machine

namespace RevenueRescue.PolicyVersions

open Machine PolicySchema PolicyEngine PolicyService

variable (c : Conversions) (driver : Driver) (fileInUse : Bool) (rows : List Policy)

/-- The configurations that a decision can have been made by: those of the rows,
and the file default when it is in use. -/
def configurations : List PolicyConfig :=
  rows.filterMap (fun row => validatePolicy c (document row)) ++
    if fileInUse then (validatePolicy c defaultPolicy).toList else []

/-- The policy id and the version of a decision determine the configuration that it was made by. -/
def Explained : Prop :=
  ∀ config ∈ configurations c fileInUse rows, ∀ config' ∈ configurations c fileInUse rows,
    ∀ ctx ctx', (authorize config ctx).policyId = (authorize config' ctx').policyId →
      (authorize config ctx).policyVersion = (authorize config' ctx').policyVersion → config = config'

def serve (call : Uuid × Payload) : Option (List Policy) :=
  some ((createPolicy driver rows call.1 call.2).getD rows)

/-- A payload that is stored does not give another meaning to a policy id and version. -/
def Compatible (call : Uuid × Payload) : Prop :=
  (createPolicy driver rows call.1 call.2).isSome = true → ∀ config, effective c call.2 = some config →
    ∀ config' ∈ configurations c fileInUse rows, config'.policyId = config.policyId →
      config'.version = config.version → config' = config

def Distinct (configs : List PolicyConfig) : Prop :=
  ∀ config ∈ configs, ∀ config' ∈ configs, config.policyId = config'.policyId →
    config.version = config'.version → config = config'

variable {c driver fileInUse rows}

theorem explained_iff_distinct : Explained c fileInUse rows ↔ Distinct (configurations c fileInUse rows) := by
  constructor
  · intro h config hc config' hc' hid hversion
    let ctx : AuthorizationContext :=
      { caseId := "", actionType := .escalateToHuman, amountPaise := 0, retryCount := 0, communicationCount := 0,
        customerOptedOut := false, customerSuspended := false, caseIsRecovered := false,
        paymentAlreadySucceeded := false, failureReason := .unknown }
    refine h config hc config' hc' ctx ctx ?_ ?_
    · rw [(authorize_names config ctx).1, (authorize_names config' ctx).1, hid]
    · rw [(authorize_names config ctx).2, (authorize_names config' ctx).2, hversion]
  · intro h config hc config' hc' ctx ctx' hid hversion
    rw [(authorize_names config ctx).1, (authorize_names config' ctx').1] at hid
    rw [(authorize_names config ctx).2, (authorize_names config' ctx').2] at hversion
    exact h config hc config' hc' hid hversion

theorem document_deactivate (loaded : List Uuid) (row : Policy) : document (deactivate loaded row) = document row := by
  unfold deactivate
  split <;> rfl

theorem configurations_createPolicy {rows' : List Policy} {id : Uuid} {payload : Payload}
    (h : createPolicy driver rows id payload = some rows') :
    configurations c fileInUse rows' = (effective c payload).toList ++ configurations c fileInUse rows := by
  obtain ⟨row, hrow, -, rfl⟩ := commitPolicy_eq_some h
  unfold configurations
  rw [List.filterMap_cons, validatePolicy_document hrow, List.filterMap_map]
  simp only [Function.comp_def, document_deactivate]
  cases effective c payload <;> rfl

theorem distinct_cons_iff {config : PolicyConfig} {configs : List PolicyConfig} (h : Distinct configs) :
    Distinct (config :: configs) ↔ ∀ config' ∈ configs, config'.policyId = config.policyId →
      config'.version = config.version → config' = config := by
  constructor
  · intro hall config' hc hid hversion
    exact hall config' (List.mem_cons_of_mem _ hc) config List.mem_cons_self hid hversion
  · intro hnew a ha b hb hid hversion
    rcases List.mem_cons.mp ha with rfl | hold
    · rcases List.mem_cons.mp hb with rfl | hold'
      · rfl
      · exact (hnew b hold' hid.symm hversion.symm).symm
    · rcases List.mem_cons.mp hb with rfl | hold'
      · exact hnew a hold hid hversion
      · exact h a hold b hold' hid hversion

theorem explained_serve_iff {call : Uuid × Payload} {rows' : List Policy} (h : Explained c fileInUse rows)
    (hs : serve driver rows call = some rows') :
    Explained c fileInUse rows' ↔ Compatible c driver fileInUse rows call := by
  cases hs
  rw [explained_iff_distinct] at h ⊢
  unfold Compatible
  cases hcreate : createPolicy driver rows call.1 call.2 with
  | none => simpa using h
  | some rows' =>
      rw [Option.getD_some, configurations_createPolicy hcreate]
      cases heffective : effective c call.2 with
      | none => simpa using h
      | some config =>
          rw [Option.toList_some, List.singleton_append, distinct_cons_iff h]
          simp

theorem unexplained_serve {call : Uuid × Payload} {rows' : List Policy} (h : ¬ Explained c fileInUse rows)
    (hs : serve driver rows call = some rows') : ¬ Explained c fileInUse rows' := by
  cases hs
  rw [explained_iff_distinct] at h ⊢
  cases hcreate : createPolicy driver rows call.1 call.2 with
  | none => exact h
  | some rows' =>
      rw [Option.getD_some, configurations_createPolicy hcreate]
      intro hall
      refine h fun config hc config' hc' => hall config ?_ config' ?_
      · exact List.mem_append_right _ hc
      · exact List.mem_append_right _ hc'

/-- Policy versions explain the decisions after a sequence of calls if and only if
they did before it, and each payload that is stored gives no new meaning to a
policy id and version. -/
theorem explained_iff_compatible {rows₀ : List Policy} {calls : List (Uuid × Payload)}
    (hrun : exec (serve driver) rows₀ calls = some rows) :
    Explained c (getActivePolicy rows₀).isNone rows ↔ Explained c (getActivePolicy rows₀).isNone rows₀ ∧
      Along (serve driver) (Compatible c driver (getActivePolicy rows₀).isNone) rows₀ calls := by
  constructor
  · intro hend
    have hstart : Explained c (getActivePolicy rows₀).isNone rows₀ := by
      by_contra hn
      refine (reach_of_exec calls hrun).invariant (I := fun rows => ¬ Explained c (getActivePolicy rows₀).isNone rows)
        hn (fun _ _ _ _ hi _ hs => unexplained_serve hi hs) hend
    refine ⟨hstart, along_of_end (Explained c (getActivePolicy rows₀).isNone)
      (fun rows => ¬ Explained c (getActivePolicy rows₀).isNone rows) ?_ ?_ ?_ calls hstart
      (along_of_forall (P := Any) calls fun _ _ _ => trivial) hrun (not_not.mpr hend)⟩
    · intro rows call rows' hi _ hP hs
      exact (explained_serve_iff hi hs).mpr hP
    · intro rows call rows' hi _ hP hs
      exact fun hexplained => hP ((explained_serve_iff hi hs).mp hexplained)
    · intro rows call rows' hn _ hs
      exact unexplained_serve hn hs
  · rintro ⟨hstart, hcompatible⟩
    exact (reach_of_exec_along calls hcompatible hrun).invariant hstart fun _ _ _ _ hi hP hs =>
      (explained_serve_iff hi hs).mpr hP

def sampleCalls : List (Uuid × Payload) := [(Uuid.ofDigit 1, retries 3), (Uuid.ofDigit 2, retries 5)]

theorem explained_iff_compatible_sample : ∃ rows, exec (serve plainDriver) [] sampleCalls = some rows ∧
    (Explained strict (getActivePolicy []).isNone rows ↔ Explained strict (getActivePolicy []).isNone [] ∧
      Along (serve plainDriver) (Compatible strict plainDriver (getActivePolicy []).isNone) [] sampleCalls) :=
  ⟨_, rfl, explained_iff_compatible rfl⟩

theorem versions_not_explained :
    ¬ ∀ (c : Conversions) (driver : Driver) (calls : List (Uuid × Payload)) (rows : List Policy),
      exec (serve driver) [] calls = some rows → Explained c true rows := by
  intro h
  obtain ⟨rows, hfirst⟩ : ∃ rows, createPolicy plainDriver [] (Uuid.ofDigit 1) (retries 3) = some rows := ⟨_, rfl⟩
  obtain ⟨rows', hsecond⟩ : ∃ rows', createPolicy plainDriver rows (Uuid.ofDigit 2) (retries 5) = some rows' := by
    cases hfirst
    exact ⟨_, rfl⟩
  have hrun : exec (serve plainDriver) [] sampleCalls = some rows' := by
    simp [sampleCalls, exec, serve, hfirst, hsecond]
  have hdistinct := explained_iff_distinct.mp (h strict plainDriver sampleCalls rows' hrun)
  rw [configurations_createPolicy hsecond, configurations_createPolicy hfirst, effective_retries (by decide),
    effective_retries (by decide)] at hdistinct
  have hsame := hdistinct _ (List.mem_append_left _ (List.mem_singleton_self _)) _
    (List.mem_append_right _ (List.mem_append_left _ (List.mem_singleton_self _))) rfl rfl
  have hlimits := congrArg (fun config => config.limits.maxRetries) hsame
  exact absurd hlimits (by decide)

end RevenueRescue.PolicyVersions
