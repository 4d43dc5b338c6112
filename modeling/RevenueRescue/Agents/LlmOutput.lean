import RevenueRescue.Agents.LlmNodes
import RevenueRescue.Backend.PolicyService
import RevenueRescue.Foundation.Json

namespace RevenueRescue.LlmOutput

open Enums PolicySchema AgentSchemas LlmNodes PolicyService Json Text

def openTag : Text := ['<', 't', 'h', 'i', 'n', 'k', '>']

def closeTag : Text := ['<', '/', 't', 'h', 'i', 'n', 'k', '>']

def fence : Text := ['`', '`', '`']

def jsonMark : Text := ['j', 's', 'o', 'n']

/-- The pattern `<think>.*?</think>`, replaced by nothing. -/
def thinkBlock (text : Text) : Option (Nat × Text) := do
  let rest ← openTag.isPrefixOf? text
  let (inside, _) ← cut closeTag rest
  some (openTag.length + inside.length + closeTag.length, [])

/-- The part `.*?\})\s*` and the closing fence of the fence pattern, which
takes the first brace that a fence follows. -/
def closeFence : Text → Option Text
  | [] => none
  | c :: cs =>
      if c = '}' ∧ fence.isPrefixOf (lstrip cs) = true then some ['}']
      else (closeFence cs).map (c :: ·)

/-- The group of the fence pattern in a match at the front of a text. -/
def fencedHere (text : Text) : Option Text :=
  match fence.isPrefixOf? text with
  | none => none
  | some rest =>
      match lstrip ((jsonMark.isPrefixOf? rest).getD rest) with
      | '{' :: cs => (closeFence cs).map ('{' :: ·)
      | _ => none

def findFenced : Text → Option Text
  | [] => none
  | c :: cs => (fencedHere (c :: cs)).or (findFenced cs)

def removeReasoning (raw : Text) : Text :=
  let text := sub thinkBlock raw
  let text := match cut openTag text with
    | some (before, _) => before
    | none => text
  let text := if occurs closeTag text then ((split closeTag text).getLast?).getD [] else text
  strip text

def cleanDeepseekReasoningOutput (raw : Text) : Text :=
  if raw = [] then []
  else
    let text := removeReasoning raw
    match findFenced text with
    | some body => strip body
    | none =>
        match between '{' '}' text with
        | [] => text
        | found => strip found

/-- The pattern `,\s*([\]}])`, replaced by its group. -/
def trailingComma : Text → Option (Nat × Text)
  | ',' :: cs =>
      match lstrip cs with
      | b :: rest => if b = ']' ∨ b = '}' then some (1 + (cs.length - rest.length), [b]) else none
      | [] => none
  | _ => none

def repairJsonString (text : Text) : Text := sub trailingComma text

def failureCategories : List FailureReason :=
  [.insufficientFunds, .expiredMethod, .gatewayTemporary, .bankDecline, .authFailure, .mandateFailure,
    .subscriptionGrace, .checkoutAbandoned, .unknown]

def strategies : List RecoveryStrategy :=
  [.retryNow, .scheduleRetry, .paymentMethodUpdate, .reminder, .checkoutRecovery, .promiseToPay, .escalate]

def validateFailureCategory (v : String) : Option FailureReason := failureCategories.find? fun x => x.value = v

def validateStrategy (v : String) : Option RecoveryStrategy := strategies.find? fun x => x.value = v

/-- `DiagnosisOutput(**data)`. -/
def validateDiagnosis (c : Conversions) (data : Payload) : Option DiagnosisOutput := do
  let diagnosis ← (lookup data "diagnosis").bind c.str
  let diagnosisConfidence ← (lookup data "diagnosis_confidence").bind c.float
  let failureCategory ← ((lookup data "failure_category").bind c.str).bind validateFailureCategory
  let likelyCause ← (lookup data "likely_cause").bind c.str
  let isRecoverable ← (lookup data "is_recoverable").bind c.bool
  let recommendedStrategy ← ((lookup data "recommended_strategy").bind c.str).bind validateStrategy
  let needsHumanReview ← field data "needs_human_review" c.bool false
  let notes ← field data "notes" c.str ""
  if h : PyFloat.inUnit diagnosisConfidence = true ∧ validFailureCategory failureCategory = true then
    some {
      diagnosis := diagnosis
      diagnosisConfidence := diagnosisConfidence
      failureCategory := failureCategory
      likelyCause := likelyCause
      isRecoverable := isRecoverable
      recommendedStrategy := recommendedStrategy
      needsHumanReview := needsHumanReview
      notes := notes
      confidence_bound := h.1
      category_valid := h.2 }
  else none

def optionalStr (c : Conversions) : PyValue → Option (Option String)
  | .none => some none
  | value => (c.str value).map some

def asDict : PyValue → Option Payload
  | .dict kvs => some kvs
  | _ => none

/-- `StrategyOutput(**data)`. What `requested_action` holds is not looked into. -/
def validateStrategyOutput (c : Conversions) (data : Payload) : Option StrategyOutput := do
  let recoveryStrategy ← ((lookup data "recovery_strategy").bind c.str).bind validateStrategy
  let reason ← (lookup data "reason").bind c.str
  let requestedAction ← (lookup data "requested_action").bind asDict
  let expectedRecoveryPaise ← (lookup data "expected_recovery_paise").bind c.int
  let confidence ← (lookup data "confidence").bind c.float
  let fallbackStrategy ← field data "fallback_strategy" (optionalStr c) none
  if h : 0 ≤ expectedRecoveryPaise ∧ PyFloat.inUnit confidence = true then
    some {
      recoveryStrategy := recoveryStrategy
      reason := reason
      requestedAction := requestedAction
      expectedRecoveryPaise := expectedRecoveryPaise
      confidence := confidence
      fallbackStrategy := fallbackStrategy
      expected_bound := h.1
      confidence_bound := h.2 }
  else none

/-- What the LLM nodes take from their platform: the JSON decoder, and the
conversions of Pydantic. -/
structure Platform where
  decoder : Decoder
  conversions : Conversions

def parseReply (p : Platform) (raw : Text) : Option PyValue :=
  loads p.decoder (repairJsonString (cleanDeepseekReasoningOutput raw))

/-- The `try` of `node_diagnosis`. No text is an LLM call that raised. -/
def diagnosisReply (p : Platform) (completion : Option Text) : Option DiagnosisOutput := do
  let raw ← completion
  match ← parseReply p raw with
  | .dict data => validateDiagnosis p.conversions data
  | _ => none

/-- The `try` of `node_strategy`, up to the delay that it fills in. -/
def strategyReply (p : Platform) (completion : Option Text) : Option StrategyOutput := do
  let raw ← completion
  match ← parseReply p raw with
  | .dict data => validateStrategyOutput p.conversions data
  | _ => none

/-- Decimals are exact on it and nothing is converted. -/
def plainPlatform : Platform := ⟨⟨.num, 1000⟩, strict⟩

end RevenueRescue.LlmOutput
