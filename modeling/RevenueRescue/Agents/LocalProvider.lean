import RevenueRescue.Agents.LlmOutput
import RevenueRescue.Agents.Prompts
import RevenueRescue.Foundation.JsonText
import RevenueRescue.Foundation.Scanning

namespace RevenueRescue.LocalProvider

open Enums PolicySchema AgentSchemas LlmOutput Text Json PyFloat

/-- `STRATEGY_MAP`. -/
def strategyMap : FailureReason → RecoveryStrategy × Int × PyFloat
  | .insufficientFunds => (.scheduleRetry, 24, .num (mkRat 75 100))
  | .expiredMethod => (.paymentMethodUpdate, 0, .num (mkRat 60 100))
  | .gatewayTemporary => (.retryNow, 2, .num (mkRat 85 100))
  | .bankDecline => (.scheduleRetry, 48, .num (mkRat 55 100))
  | .authFailure => (.reminder, 0, .num (mkRat 50 100))
  | .mandateFailure => (.scheduleRetry, 24, .num (mkRat 65 100))
  | .subscriptionGrace => (.scheduleRetry, 24, .num (mkRat 65 100))
  | .checkoutAbandoned => (.checkoutRecovery, 0, .num (mkRat 55 100))
  | .unknown | .other _ => (.escalate, 0, .num (mkRat 20 100))

def strategyEntry (failureReason : String) : RecoveryStrategy × Int × PyFloat :=
  strategyMap ((validateFailureCategory failureReason).getD (.other failureReason))

def priorityOrder : List FailureReason :=
  [.checkoutAbandoned, .mandateFailure, .subscriptionGrace, .insufficientFunds, .expiredMethod, .gatewayTemporary,
    .authFailure, .bankDecline, .unknown]

def reasonMark : Text := ['F', 'a', 'i', 'l', 'u', 'r', 'e', ' ', 'R', 'e', 'a', 's', 'o', 'n', ':']

/-- `\w` on ASCII, as the failure reasons are; Python's also matches the letters
and digits beyond it. -/
def isWord (c : Char) : Bool := c.isAlphanum || c = '_'

/-- The group of the pattern `Failure Reason:\s*(\w+)` in a match at the front of a text. -/
def reasonHere (text : Text) : Option Text :=
  (reasonMark.isPrefixOf? text).bind fun rest =>
    let word := (lstrip rest).takeWhile isWord
    if word = [] then none else some word

def failureReasonOf (prompt : Text) : String :=
  match search reasonHere prompt with
  | some word => String.ofList word
  | none => ((priorityOrder.find? fun reason => occurs reason.value.toList prompt).getD .unknown).value

/-- `[0-9.]` -/
def isNumber (c : Char) : Bool := isDigit c || c = '.'

/-- `([0-9.]+)` behind blanks. -/
def numberHere (text : Text) : Option Text :=
  let number := (lstrip text).takeWhile isNumber
  if number = [] then none else some number

def probabilityMarks : List Text :=
  [['L', 'i', 'g', 'h', 't', 'G', 'B', 'M', ' ', 'P', 'r', 'o', 'b', 'a', 'b', 'i', 'l', 'i', 't', 'y', ':'],
    ['M', 'L', ' ', 'R', 'e', 'c', 'o', 'v', 'e', 'r', 'y', ' ',
       'P', 'r', 'o', 'b', 'a', 'b', 'i', 'l', 'i', 't', 'y', ':']]

def probabilityHere (text : Text) : Option Text :=
  probabilityMarks.findSome? fun mark => (mark.isPrefixOf? text).bind numberHere

def confidenceOf (d : Decoder) (prompt : Text) (strategy : RecoveryStrategy) (default : PyFloat) : Option PyFloat :=
  match search probabilityHere prompt with
  | some number => if strategy ≠ .escalate then readDecimal d number else some default
  | none => some default

/-- The part `:?\s*([0-9.]+)` of the pattern for the amount. -/
def colonNumber (text : Text) : Option Text := (([':'].isPrefixOf? text).bind numberHere).or (numberHere text)

/-- The part `(?:INR|Paise)?:?\s*([0-9.]+)`. -/
def unitNumber (text : Text) : Option Text :=
  (("INR".toList.isPrefixOf? text).bind colonNumber).or
    ((("Paise".toList.isPrefixOf? text).bind colonNumber).or (colonNumber text))

/-- The part `.*?(?:INR|Paise)?:?\s*([0-9.]+)`, which stays on its line up to the unit. -/
def lineNumber : Text → Option Text
  | [] => unitNumber []
  | c :: cs => (unitNumber (c :: cs)).or (if c = '\n' then none else lineNumber cs)

def amountHere (text : Text) : Option Text := ("Amount".toList.isPrefixOf? text).bind lineNumber

/-- `int(x)` on a finite float. -/
def truncate (q : ℚ) : Int := if q < 0 then ⌈q⌉ else ⌊q⌋

def amountPaise (d : Decoder) (prompt : Text) : Int :=
  match (search amountHere prompt).bind (readDecimal d) with
  | some (.num q) => if occurs "INR".toList prompt then truncate (double (q * 100)) else truncate q
  | _ => 0

def strategyKey : Text := ['r', 'e', 'c', 'o', 'v', 'e', 'r', 'y', '_', 's', 't', 'r', 'a', 't', 'e', 'g', 'y']

/-- Which node asks. `Char.toLower` is `str.lower` on ASCII only; what lies beyond
it never lowers to a piece of the two words. -/
def isStrategy (prompt : Text) : Bool :=
  occurs strategyKey prompt ||
    (occurs "strategy".toList (prompt.map Char.toLower) && !occurs "diagnosis".toList (prompt.map Char.toLower))

/-- `round(min(1.0, max(0.0, x)), 4)`. -/
def roundClamp (x : PyFloat) : PyFloat := round4 (pyMin (ofInt 1) (pyMax (ofInt 0) x))

def strategyOutput (failureReason : String) (strategy : RecoveryStrategy) (delay : Int) (confidence : PyFloat)
    (amountPaise : Int) : List (String × PyValue) :=
  [("recovery_strategy", .str strategy.value),
    ("reason", .str ("Deterministic strategy for " ++ failureReason ++ " with confidence " ++
      String.ofList (fixedText 2 confidence) ++ ".")),
    ("requested_action", .dict [("type", .str strategy.value), ("delay_hours", .int delay)]),
    ("expected_recovery_paise", .int (if strategy ≠ .escalate then amountPaise else 0)),
    ("confidence", .float (roundClamp confidence)),
    ("fallback_strategy", .str "ESCALATE")]

def diagnosisOutput (failureReason : String) (strategy : RecoveryStrategy) (confidence : PyFloat) :
    List (String × PyValue) :=
  [("diagnosis", .str ("rule_based_" ++ failureReason.toLower)),
    ("diagnosis_confidence", .float (roundClamp confidence)),
    ("failure_category", .str failureReason),
    ("likely_cause", .str ("Rule-based deterministic diagnosis for " ++ failureReason ++
      ". No external inference cost.")),
    ("is_recoverable", .bool (strategy ≠ .escalate)),
    ("recommended_strategy", .str strategy.value),
    ("needs_human_review", .bool (failureReason = "UNKNOWN")),
    ("notes", .str "FALLBACK_MODE")]

/-- `LocalDeterministicProvider.complete`, which does not read the system
prompt; `none` is an exception. -/
def complete (d : Decoder) (e : Encoder) (prompt : Text) : Option Text :=
  let failureReason := failureReasonOf prompt
  let (strategy, delay, default) := strategyEntry failureReason
  (confidenceOf d prompt strategy default).map fun confidence =>
    dumps e (.dict (
      if isStrategy prompt then strategyOutput failureReason strategy delay confidence (amountPaise d prompt)
      else diagnosisOutput failureReason strategy confidence))

end RevenueRescue.LocalProvider
