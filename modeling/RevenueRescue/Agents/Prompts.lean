import RevenueRescue.Agents.NodeUtils
import RevenueRescue.Foundation.Double
import RevenueRescue.Foundation.Figures
import RevenueRescue.Foundation.Scanning

namespace RevenueRescue.Prompts

open Enums PolicySchema AgentSchemas Text Json PyFloat

def pyBool (b : Bool) : Text := if b then "True".toList else "False".toList

/-- An amount in paise divided by 100. -/
def rupees : PyFloat → PyFloat
  | .num q => .num (double (q / 100))
  | x => x

/-- The probability with four places. `minusZero` tells which of the two zeros
a zero is, as its value does not. -/
def probabilityText (minusZero : Bool) (x : PyFloat) : Text :=
  if minusZero = true ∧ x = .num 0 then '-' :: fixedText 4 x else fixedText 4 x

def hoursText (e : Encoder) : Option PyFloat → Text
  | none => "None".toList
  | some x => showFloat e x

/-- The parts of `DIAGNOSIS_PROMPT_TEMPLATE` before its line for the failure reason. -/
def diagnosisHead : List String :=
  ["Analyze this payment recovery case and return a JSON diagnosis.\n\nCase ID: ", "\nEvent Type: "]

/-- The parts of `DIAGNOSIS_PROMPT_TEMPLATE` behind its line for the failure reason. -/
def diagnosisBody : List String :=
  ["Amount: ₹", " (INR)\nCustomer Segment: ", "\nCustomer Opted Out: ", "\nRetry Count: ",
    "\nHours Since Last Attempt: ", "\nCheckout Timeout Elapsed: ",
    "\n\nReturn JSON matching exactly:\n\x7b\n",
    "  \"diagnosis\": \"<short label>\",\n",
    "  \"diagnosis_confidence\": <0.0-1.0>,\n",
    "  \"failure_category\": \"<one of: INSUFFICIENT_FUNDS|EXPIRED_METHOD|GATEWAY_TEMPORARY|BANK_DECLINE|",
    "AUTH_FAILURE|MANDATE_FAILURE|SUBSCRIPTION_GRACE|CHECKOUT_ABANDONED|UNKNOWN>\",\n",
    "  \"likely_cause\": \"<evidence-based explanation, 1-2 sentences>\",\n",
    "  \"is_recoverable\": <true|false>,\n",
    "  \"recommended_strategy\": \"<one of: RETRY_NOW|SCHEDULE_RETRY|PAYMENT_METHOD_UPDATE|REMINDER|",
    "CHECKOUT_RECOVERY|PROMISE_TO_PAY|ESCALATE>\",\n",
    "  \"needs_human_review\": <true|false>,\n",
    "  \"notes\": \"<optional>\"\n\x7d\n"]

/-- The parts of `STRATEGY_PROMPT_TEMPLATE`. -/
def strategyTemplate : List String :=
  ["Given this diagnosis, propose a recovery strategy.\n\nCase ID: ", "\nFailure Category: ", "Diagnosis: ",
    "\nConfidence: ", "\nIs Recoverable: ", "\nAmount: ₹", "\nCustomer Segment: ", "\nRetry Count: ", "\nEvent Type: ",
    "\nReturn JSON matching exactly:\n\x7b\n",
    "  \"recovery_strategy\": \"<one of: RETRY_NOW|SCHEDULE_RETRY|PAYMENT_METHOD_UPDATE|REMINDER|",
    "CHECKOUT_RECOVERY|PROMISE_TO_PAY|ESCALATE>\",\n",
    "  \"reason\": \"<why this strategy, 1-2 sentences based on evidence>\",\n",
    "  \"requested_action\": \x7b\n    \"type\": \"<action type>\",\n",
    "    \"delay_hours\": <optional int>,\n",
    "    \"channel\": \"<optional: email|sms|push>\"\n  \x7d,\n",
    "  \"expected_recovery_paise\": <int, heuristic estimate only>,\n",
    "  \"confidence\": <0.0-1.0>,\n",
    "  \"fallback_strategy\": \"<optional fallback if primary fails>\"\n\x7d\n"]

def expectedValue : List String := ["- Expected Value: ₹", " INR\n"]

def retryDelay : List String := ["- Rule-based Recommended Retry Delay: ", " hours (subject to policy authorization)\n"]

def diagnosisHeading : String := "\nQuantitative Evidence:\n- "

def strategyHeading : String := "\nQuantitative Inputs:\n- "

/-- The lines that both nodes add when there is a probability. -/
def evidence (heading : String) (minusZero : Bool) (expectedValuePaise : Option PyFloat) (x : PyFloat) : List Text :=
  heading.toList :: "LightGBM Probability:".toList :: (' ' :: probabilityText minusZero x) :: ['\n'] ::
    fill expectedValue [fixedText 2 (rupees (expectedValuePaise.getD (.num 0)))]

def diagnosisEvidence (minusZero : Bool) (state : AgentState) : List Text :=
  match state.mlProbability with
  | none => []
  | some x => evidence diagnosisHeading minusZero state.mlExpectedValuePaise x

def strategyEvidence (minusZero : Bool) (state : AgentState) : List Text :=
  match state.mlProbability with
  | none => []
  | some x => evidence strategyHeading minusZero state.mlExpectedValuePaise x ++
      fill retryDelay [intText (state.ruleRetryDelayHours.getD 24)]

/-- `DIAGNOSIS_PROMPT_TEMPLATE`, filled in and completed by `node_diagnosis`. -/
def diagnosisPrompt (e : Encoder) (minusZero : Bool) (state : AgentState) : Text :=
  (fill diagnosisHead [state.caseId.toList, state.eventType.toList ++ ['\n']] ++
    "Failure Reason:".toList :: [' '] :: state.failureReason.value.toList :: ['\n'] ::
    (fill diagnosisBody [fixedText 2 (rupees (.ofInt state.amountPaise)), state.customerSegment.toList,
      pyBool state.customerOptedOut, intText state.retryCount, hoursText e state.hoursSinceLastAttempt,
      pyBool state.checkoutTimeoutElapsed] ++ diagnosisEvidence minusZero state)).flatten

/-- `STRATEGY_PROMPT_TEMPLATE`, filled in and completed by `node_strategy`. -/
def strategyPrompt (e : Encoder) (minusZero : Bool) (state : AgentState) (diag : DiagnosisOutput) : Text :=
  (fill strategyTemplate [state.caseId.toList, diag.failureCategory.value.toList ++ ['\n'], diag.diagnosis.toList,
      showFloat e diag.diagnosisConfidence, pyBool diag.isRecoverable, fixedText 2 (rupees (.ofInt state.amountPaise)),
      state.customerSegment.toList, intText state.retryCount, state.eventType.toList ++ ['\n']] ++
    strategyEvidence minusZero state).flatten

end RevenueRescue.Prompts
