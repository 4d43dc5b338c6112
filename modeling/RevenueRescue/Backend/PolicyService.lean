import RevenueRescue.Foundation.PyValue
import RevenueRescue.Foundation.Uuid
import RevenueRescue.Policies.Engine

namespace RevenueRescue.PolicyService

open PolicySchema

abbrev Payload := List (String × PyValue)

def lookup (kvs : Payload) (key : String) : Option PyValue := (kvs.find? fun kv => kv.1 = key).map Prod.snd

/-- The conversions of Pydantic for the types of the policy fields; `none` is a
validation error. A value of the type itself is kept. -/
structure Conversions where
  str : PyValue → Option String
  int : PyValue → Option Int
  float : PyValue → Option PyFloat
  bool : PyValue → Option Bool
  str_str : ∀ s, str (.str s) = some s
  int_int : ∀ n, int (.int n) = some n
  float_float : ∀ x, float (.float x) = some x
  bool_bool : ∀ b, bool (.bool b) = some b

def strict : Conversions where
  str := fun | .str s => some s | _ => none
  int := fun | .int n => some n | _ => none
  float := fun | .float x => some x | .int n => some (.ofInt n) | _ => none
  bool := fun | .bool b => some b | _ => none
  str_str := fun _ => rfl
  int_int := fun _ => rfl
  float_float := fun _ => rfl
  bool_bool := fun _ => rfl

def field {α : Type} (kvs : Payload) (key : String) (convert : PyValue → Option α) (default : α) : Option α :=
  match lookup kvs key with
  | some value => convert value
  | none => some default

def model {α : Type} (validate : Payload → Option α) : PyValue → Option α
  | .dict kvs => validate kvs
  | _ => none

section

variable (c : Conversions) (kvs : Payload)

def validateLimits : Option RetryLimits := do
  let maxRetries ← field kvs "max_retries" c.int 3
  let maxAutoRecoveryAmountPaise ← field kvs "max_auto_recovery_amount_paise" c.int 5000000
  let minRetryIntervalHours ← field kvs "min_retry_interval_hours" c.int 24
  if h : (0 ≤ maxRetries ∧ maxRetries ≤ 10) ∧ 0 ≤ maxAutoRecoveryAmountPaise ∧ 0 ≤ minRetryIntervalHours then
    some {
      maxRetries := maxRetries
      maxAutoRecoveryAmountPaise := maxAutoRecoveryAmountPaise
      minRetryIntervalHours := minRetryIntervalHours
      maxRetries_bounds := h.1
      amount_bound := h.2.1
      interval_bound := h.2.2 }
  else none

def validateCommunication : Option CommunicationRules := do
  let respectOptOut ← field kvs "respect_opt_out" c.bool true
  let maxMessagesPerCase ← field kvs "max_messages_per_case" c.int 3
  let maxCheckoutRecoveryMessages ← field kvs "max_checkout_recovery_messages" c.int 2
  if h : (0 ≤ maxMessagesPerCase ∧ maxMessagesPerCase ≤ 10) ∧
      0 ≤ maxCheckoutRecoveryMessages ∧ maxCheckoutRecoveryMessages ≤ 5 then
    some {
      respectOptOut := respectOptOut
      maxMessagesPerCase := maxMessagesPerCase
      maxCheckoutRecoveryMessages := maxCheckoutRecoveryMessages
      messages_bounds := h.1
      checkout_bounds := h.2 }
  else none

def validateCheckout : Option CheckoutRules := do
  let abandonmentTimeoutMinutes ← field kvs "abandonment_timeout_minutes" c.int 30
  let maxRecoveryMessages ← field kvs "max_recovery_messages" c.int 2
  let minCheckoutAmountPaise ← field kvs "min_checkout_amount_paise" c.int 10000
  if h : (5 ≤ abandonmentTimeoutMinutes ∧ abandonmentTimeoutMinutes ≤ 1440) ∧
      (0 ≤ maxRecoveryMessages ∧ maxRecoveryMessages ≤ 5) ∧ 0 ≤ minCheckoutAmountPaise then
    some {
      abandonmentTimeoutMinutes := abandonmentTimeoutMinutes
      maxRecoveryMessages := maxRecoveryMessages
      minCheckoutAmountPaise := minCheckoutAmountPaise
      timeout_bounds := h.1
      messages_bounds := h.2.1
      amount_bound := h.2.2 }
  else none

def validateEscalation : Option EscalationRules := do
  let afterFailedRetries ← field kvs "after_failed_retries" c.int 3
  let highValueThresholdPaise ← field kvs "high_value_threshold_paise" c.int 5000000
  let unknownFailure ← field kvs "unknown_failure" c.bool true
  let lowConfidenceThreshold ← field kvs "low_confidence_threshold" c.float (.num (mkRat 1 2))
  if h : 1 ≤ afterFailedRetries ∧ 0 ≤ highValueThresholdPaise ∧
      PyFloat.inUnit lowConfidenceThreshold = true then
    some {
      afterFailedRetries := afterFailedRetries
      highValueThresholdPaise := highValueThresholdPaise
      unknownFailure := unknownFailure
      lowConfidenceThreshold := lowConfidenceThreshold
      retries_bound := h.1
      threshold_bound := h.2.1
      confidence_bound := h.2.2 }
  else none

def validateStopping : Option StoppingRules := do
  let stopOnPaymentSuccess ← field kvs "stop_on_payment_success" c.bool true
  let stopOnOptOut ← field kvs "stop_on_opt_out" c.bool true
  let stopOnSuspension ← field kvs "stop_on_suspension" c.bool true
  some {
      stopOnPaymentSuccess := stopOnPaymentSuccess
      stopOnOptOut := stopOnOptOut
      stopOnSuspension := stopOnSuspension }

/-- `PolicyConfig(**kvs)`; `none` is its `ValidationError`. -/
def validatePolicy : Option PolicyConfig := do
  let policyId ← (lookup kvs "policy_id").bind c.str
  let version ← (lookup kvs "version").bind c.int
  let limits ← field kvs "limits" (model (validateLimits c)) merchantDefault.limits
  let communication ← field kvs "communication" (model (validateCommunication c)) merchantDefault.communication
  let checkout ← field kvs "checkout" (model (validateCheckout c)) merchantDefault.checkout
  let escalation ← field kvs "escalation" (model (validateEscalation c)) merchantDefault.escalation
  let stopping ← field kvs "stopping" (model (validateStopping c)) merchantDefault.stopping
  if h : 1 ≤ version then
    some {
      policyId := policyId
      version := version
      limits := limits
      communication := communication
      checkout := checkout
      escalation := escalation
      stopping := stopping
      version_bound := h }
  else none

end

structure Policy where
  id : Uuid
  policyId : String
  version : Int
  isActive : Bool := true
  description : Option String := none
  config : Payload

/-- What the database driver makes of the values that go into a row: a text, an
integer, an optional text, and whether a document can be stored as JSON at all.
A text and an integer are stored as they are. -/
structure Driver where
  text : PyValue → Option String
  integer : PyValue → Option Int
  json : Payload → Bool
  text_str : ∀ s t, text (.str s) = some t → t = s
  integer_int : ∀ n m, integer (.int n) = some m → m = n

def plainDriver : Driver where
  text := strict.str
  integer := strict.int
  json := fun _ => true
  text_str := fun _ _ h => (Option.some.inj h).symm
  integer_int := fun _ _ h => (Option.some.inj h).symm

variable (c : Conversions) (driver : Driver)

def payloadPolicyId (payload : Payload) : PyValue := PyValue.get payload "policy_id" (.str "merchant_default")

def payloadVersion (payload : Payload) : PyValue := PyValue.get payload "version" (.int 1)

def optionalText : PyValue → Option (Option String)
  | .none => some none
  | value => (driver.text value).map some

def newPolicy (id : Uuid) (payload : Payload) : Option Policy := do
  let policyId ← driver.text (payloadPolicyId payload)
  let version ← driver.integer (payloadVersion payload)
  let description ← optionalText driver (PyValue.get payload "description" .none)
  if driver.json payload then
    some { id := id, policyId := policyId, version := version, description := description, config := payload }
  else none

def activeIds (rows : List Policy) : List Uuid := (rows.filter (·.isActive)).map (·.id)

def deactivate (ids : List Uuid) (row : Policy) : Policy :=
  if row.id ∈ ids then { row with isActive := false } else row

/-- The flush and commit of `create_policy`, for the rows that it has loaded. -/
def commitPolicy (rows : List Policy) (loaded : List Uuid) (id : Uuid) (payload : Payload) : Option (List Policy) :=
  if id ∈ rows.map (·.id) then none
  else (newPolicy driver id payload).map fun row => row :: rows.map (deactivate loaded)

/-- `create_policy` on its own, with its commit; `id` is the new key. -/
def createPolicy (rows : List Policy) (id : Uuid) (payload : Payload) : Option (List Policy) :=
  commitPolicy driver rows (activeIds rows) id payload

/-- `get_active_policy`: the highest version among the active rows. -/
def getActivePolicy (rows : List Policy) : Option Policy := (rows.filter (·.isActive)).maxOn? (·.version)

/-- The document that is validated for a row: its columns, overridden by its config. -/
def document (row : Policy) : Payload :=
  row.config ++ [("policy_id", .str row.policyId), ("version", .int row.version)]

/-- The contents of `merchant_default_v1.json`. -/
def defaultPolicy : Payload :=
  [("policy_id", .str "merchant_default_v1"), ("version", .int 1),
    ("limits", .dict [("max_retries", .int 3), ("max_auto_recovery_amount_paise", .int 5000000),
      ("min_retry_interval_hours", .int 24)]),
    ("communication", .dict [("respect_opt_out", .bool true), ("max_messages_per_case", .int 3),
      ("max_checkout_recovery_messages", .int 2)]),
    ("checkout", .dict [("abandonment_timeout_minutes", .int 30), ("max_recovery_messages", .int 2),
      ("min_checkout_amount_paise", .int 10000)]),
    ("escalation", .dict [("after_failed_retries", .int 3), ("high_value_threshold_paise", .int 5000000),
      ("unknown_failure", .bool true), ("low_confidence_threshold", .float (.num (mkRat 1 2)))]),
    ("stopping", .dict [("stop_on_payment_success", .bool true), ("stop_on_opt_out", .bool true),
      ("stop_on_suspension", .bool true)])]

/-- `get_active_policy_config`; `none` is an exception. -/
def getActivePolicyConfig (rows : List Policy) : Option PolicyConfig :=
  match getActivePolicy rows with
  | some row => validatePolicy c (document row)
  | none => validatePolicy c defaultPolicy

/-- What a payload says as a policy, with the defaults of `create_policy`. -/
def effective (payload : Payload) : Option PolicyConfig :=
  validatePolicy c (payload ++ [("policy_id", .str "merchant_default"), ("version", .int 1)])

theorem lookup_append (kvs kvs' : Payload) (key : String) :
    lookup (kvs ++ kvs') key = (lookup kvs key).or (lookup kvs' key) := by
  unfold lookup
  rw [List.find?_append]
  cases kvs.find? fun kv => kv.1 = key <;> rfl

theorem get_eq (kvs : Payload) (key : String) (default : PyValue) :
    PyValue.get kvs key default = (lookup kvs key).getD default := rfl

theorem validatePolicy_congr {kvs kvs' : Payload} (h : ∀ key, lookup kvs key = lookup kvs' key) :
    validatePolicy c kvs = validatePolicy c kvs' := by
  simp only [validatePolicy, field, h]

variable {c : Conversions} {driver : Driver} {rows rows' : List Policy} {id : Uuid} {payload : Payload} {row : Policy}

theorem newPolicy_eq_some (h : newPolicy driver id payload = some row) :
    row.id = id ∧ row.isActive = true ∧ row.config = payload ∧
      driver.text (payloadPolicyId payload) = some row.policyId ∧
      driver.integer (payloadVersion payload) = some row.version := by
  obtain ⟨policyId, htext, h⟩ := Option.bind_eq_some_iff.mp h
  obtain ⟨version, hinteger, h⟩ := Option.bind_eq_some_iff.mp h
  obtain ⟨description, -, h⟩ := Option.bind_eq_some_iff.mp h
  split at h
  · cases h
    exact ⟨rfl, rfl, rfl, htext, hinteger⟩
  · cases h

theorem commitPolicy_eq_some {loaded : List Uuid} (h : commitPolicy driver rows loaded id payload = some rows') :
    ∃ row, newPolicy driver id payload = some row ∧ id ∉ rows.map (·.id) ∧
      rows' = row :: rows.map (deactivate loaded) := by
  unfold commitPolicy at h
  split at h
  · cases h
  · rename_i hfresh
    obtain ⟨row, hrow, hrows⟩ := Option.map_eq_some_iff.mp h
    exact ⟨row, hrow, hfresh, hrows.symm⟩

theorem validatePolicy_document (h : newPolicy driver id payload = some row) :
    validatePolicy c (document row) = effective c payload := by
  obtain ⟨-, -, hconfig, htext, hinteger⟩ := newPolicy_eq_some h
  refine validatePolicy_congr c fun key => ?_
  rw [document, hconfig, lookup_append, lookup_append]
  cases hk : lookup payload key with
  | some value => rfl
  | none =>
      rw [Option.none_or, Option.none_or]
      by_cases hid : key = "policy_id"
      · subst hid
        rw [payloadPolicyId, get_eq, hk] at htext
        rw [driver.text_str _ _ htext]
        rfl
      · by_cases hversion : key = "version"
        · subst hversion
          rw [payloadVersion, get_eq, hk] at hinteger
          rw [driver.integer_int _ _ hinteger]
          rfl
        · have hid' : "policy_id" ≠ key := Ne.symm hid
          have hversion' : "version" ≠ key := Ne.symm hversion
          simp [lookup, hid', hversion']

theorem deactivate_id (loaded : List Uuid) (row : Policy) : (deactivate loaded row).id = row.id := by
  unfold deactivate
  split <;> rfl

theorem active_deactivate {loaded : List Uuid} (row : Policy) :
    (deactivate loaded row).isActive = true ↔ row.isActive = true ∧ row.id ∉ loaded := by
  unfold deactivate
  split
  · simp_all
  · simp_all

theorem active_after_createPolicy (h : createPolicy driver rows id payload = some rows') :
    ∃ row, newPolicy driver id payload = some row ∧ rows'.filter (·.isActive) = [row] := by
  obtain ⟨row, hrow, -, rfl⟩ := commitPolicy_eq_some h
  refine ⟨row, hrow, ?_⟩
  rw [List.filter_cons_of_pos (newPolicy_eq_some hrow).2.1, List.filter_eq_nil_iff.mpr ?_]
  intro r hr
  obtain ⟨old, hold, rfl⟩ := List.mem_map.mp hr
  rw [active_deactivate]
  rintro ⟨hactive, hfound⟩
  exact hfound (List.mem_map_of_mem (List.mem_filter.mpr ⟨hold, hactive⟩))

/-- A call that commits on its own decides what is enforced next. -/
theorem getActivePolicyConfig_createPolicy (h : createPolicy driver rows id payload = some rows') :
    getActivePolicyConfig c rows' = effective c payload := by
  obtain ⟨row, hrow, hactive⟩ := active_after_createPolicy h
  have hget : getActivePolicy rows' = some row := by
    rw [getActivePolicy, hactive]
    rfl
  rw [getActivePolicyConfig, hget]
  exact validatePolicy_document hrow

theorem validatePolicy_defaultPolicy :
    validatePolicy c defaultPolicy = some { policyId := "merchant_default_v1", version := 1 } := by
  have hunit : PyFloat.inUnit (.num (mkRat 1 2)) = true := by decide
  simp [validatePolicy, validateLimits, validateCommunication, validateCheckout, validateEscalation, validateStopping,
    defaultPolicy, field, lookup, model, c.str_str, c.int_int, c.bool_bool, c.float_float, hunit]

def retries (n : Int) : Payload := [("limits", .dict [("max_retries", .int n)])]

theorem effective_retries {n : Int} (h : 0 ≤ n ∧ n ≤ 10) : effective strict (retries n) = some {
    policyId := "merchant_default"
    version := 1
    limits := { maxRetries := n, maxRetries_bounds := h } } := by
  simp [effective, retries, validatePolicy, validateLimits, field, lookup, model, strict, merchantDefault, h]

end RevenueRescue.PolicyService
