import CivicGate.Framework.Json.Value
import CivicGate.Governance.Signals

/-!
# Responses

The enumerations and the records of a response envelope (`models/responses.py`), and the record
of one attempt of an adapter (`adapters/usaspending.py`).
-/

namespace CivicGate

/-- How far a dispatch got. -/
inductive DispatchState
  | notDispatched
  | dispatchAttempted
  | requestConfirmed
  | dispatchUnknown
  deriving DecidableEq

def DispatchState.text : DispatchState → String
  | .notDispatched => "NOT_DISPATCHED"
  | .dispatchAttempted => "DISPATCH_ATTEMPTED"
  | .requestConfirmed => "REQUEST_CONFIRMED"
  | .dispatchUnknown => "DISPATCH_UNKNOWN"

/-- What came back. -/
inductive ResponseState
  | noResponse
  | responseReceived
  | transportError
  deriving DecidableEq

def ResponseState.text : ResponseState → String
  | .noResponse => "NO_RESPONSE"
  | .responseReceived => "RESPONSE_RECEIVED"
  | .transportError => "TRANSPORT_ERROR"

/-- What the caller may do next. -/
inductive NextAction
  | none
  | retryAllowed
  | retryBlocked
  | humanReviewRequired
  | stop
  deriving DecidableEq

def NextAction.text : NextAction → String
  | .none => "NONE"
  | .retryAllowed => "RETRY_ALLOWED"
  | .retryBlocked => "RETRY_BLOCKED"
  | .humanReviewRequired => "HUMAN_REVIEW_REQUIRED"
  | .stop => "STOP"

/-- What a retry rule decided after an attempt. -/
inductive RetryDecision
  | none
  | retryAllowed
  | retryBlocked
  deriving DecidableEq

def RetryDecision.text : RetryDecision → String
  | .none => "NONE"
  | .retryAllowed => "RETRY_ALLOWED"
  | .retryBlocked => "RETRY_BLOCKED"

/-- The outcome of the check before dispatch. -/
inductive Verification
  | pass
  | fail
  | notRequired
  deriving DecidableEq

def Verification.text : Verification → String
  | .pass => "PASS"
  | .fail => "FAIL"
  | .notRequired => "NOT_REQUIRED"

/-- What a verification says of the binding. -/
def Verification.consumption : Verification → String
  | .pass => "VERIFIED"
  | .fail => "NOT_ESTABLISHED"
  | .notRequired => "NOT_REQUIRED"

/-- `Envelope.status` -/
inductive Status
  | ok
  | blocked
  | error
  | clarificationRequired
  deriving DecidableEq

/-- What is known of a result. -/
inductive VerificationState
  | unverified
  | resultVerified
  | resultUnknown
  | failedValidation
  deriving DecidableEq

/-- The lane a failed validation belongs to. -/
inductive ValidationLane
  | none
  | laneAResolvability
  | laneBExecution
  deriving DecidableEq

/-- Why a validation failed. -/
inductive ValidationReason
  | none
  | malformedResponse
  | provenanceUnavailable
  | adapterSchemaOrProvenanceInvalid
  deriving DecidableEq

/-- How safe a retry would be. -/
inductive RetryClass
  | safe
  | conditionallySafe
  | notSafe
  | unknown
  deriving DecidableEq

/-! ## Records -/

/-- `Error` -/
structure ErrorRecord where
  code : String
  message : String
  retryable : Bool := false
  deriving DecidableEq

/-- `Governance`, without the two texts every envelope carries. -/
structure Governance where
  judgeSignal : JudgeSignal
  agentKSignal : KSignal
  policyReasons : List String

/-- What the Gateway reads of the provenance of a batch. -/
structure Provenance where
  sourceType : String
  recordsReturned : ℤ
  truncated : Bool
  deriving DecidableEq

/-- A response envelope. -/
structure Envelope where
  decision : Decision
  tool : String
  requestId : String
  status : Status
  result : Option Json := none
  provenance : Option Provenance := none
  governance : Governance
  errors : List ErrorRecord := []
  toolExecuted : Bool := false
  clarification : Option String := none
  dispatchState : DispatchState := .notDispatched
  responseState : ResponseState := .noResponse
  verificationState : VerificationState := .unverified
  validationLane : ValidationLane := .none
  validationReason : ValidationReason := .none
  nextAction : NextAction := .none
  attemptCount : ℕ := 0
  retryClass : RetryClass := .unknown
  attemptMetadataAvailable : Bool := false

/-- The record of one attempt. -/
structure AttemptRecord where
  attempt : ℤ
  maxAttempts : ℤ
  elapsedMs : PyFloat
  dispatchState : DispatchState
  responseState : ResponseState
  exceptionType : Option String
  statusCode : Option ℤ
  responseReceived : Bool
  retryAfterSeconds : Option PyFloat
  retryDecision : RetryDecision
  retryReason : String
  deriving DecidableEq

/-- An optional integer as a JSON value. -/
def optInt : Option ℤ → Json
  | .none => .null
  | .some n => .int n

/-- `AttemptRecord.model_dump` -/
def AttemptRecord.toJson (a : AttemptRecord) : Json :=
  .dict [("attempt", .int a.attempt), ("max_attempts", .int a.maxAttempts),
    ("elapsed_ms", .float a.elapsedMs), ("dispatch_state", .str a.dispatchState.text),
    ("response_state", .str a.responseState.text), ("exception_type", optStr a.exceptionType),
    ("status_code", optInt a.statusCode), ("response_received", .bool a.responseReceived),
    ("retry_after_seconds", (a.retryAfterSeconds.map Json.float).getD .null),
    ("retry_decision", .str a.retryDecision.text), ("retry_reason", .str a.retryReason)]

/-- `AttemptRecord.__dataclass_fields__` -/
def attemptRecordFields : List String :=
  ["attempt", "max_attempts", "elapsed_ms", "dispatch_state", "response_state", "exception_type",
    "status_code", "response_received", "retry_after_seconds", "retry_decision", "retry_reason"]

/-! ## Recorded values -/

/-- The values of each enumeration the ledger records. -/
def Decision.all : List Decision := [.permit, .deny, .reviewRequired]
def DispatchState.all : List DispatchState :=
  [.notDispatched, .dispatchAttempted, .requestConfirmed, .dispatchUnknown]
def ResponseState.all : List ResponseState := [.noResponse, .responseReceived, .transportError]
def Verification.all : List Verification := [.pass, .fail, .notRequired]

/-- The next actions a ledger may hold: `RETRY_ALLOWED` is none of them. -/
def NextAction.recorded : List NextAction := [.none, .retryBlocked, .humanReviewRequired, .stop]

/-- The retry decisions a ledger may hold. -/
def RetryDecision.recorded : List RetryDecision := [.none, .retryBlocked]

lemma Decision.find?_text (d : Decision) : Decision.all.find? (·.text = d.text) = some d := by
  cases d <;> decide

lemma DispatchState.find?_text (d : DispatchState) :
    DispatchState.all.find? (·.text = d.text) = some d := by
  cases d <;> decide

lemma ResponseState.find?_text (r : ResponseState) :
    ResponseState.all.find? (·.text = r.text) = some r := by
  cases r <;> decide

lemma Verification.find?_text (v : Verification) :
    Verification.all.find? (·.text = v.text) = some v := by
  cases v <;> decide

lemma NextAction.find?_text {a : NextAction} (h : a ≠ .retryAllowed) :
    NextAction.recorded.find? (·.text = a.text) = some a := by
  cases a <;> first | decide | exact absurd rfl h

lemma RetryDecision.find?_text {r : RetryDecision} (h : r ≠ .retryAllowed) :
    RetryDecision.recorded.find? (·.text = r.text) = some r := by
  cases r <;> first | decide | exact absurd rfl h

end CivicGate
