import CivicGate.Governance.Execution
import CivicGate.Governance.Responses

/-!
# Ledger events

The rows of the PostgreSQL ledger and the events their payloads hold
(`audit/postgres_history.py`).  `Row.entry` checks a row on its own: that the payload is the
canonical text of a dictionary with the fields of its kind, of the types and in the ranges
`_replay` requires.  What depends on the rows before it is `Audit/History/Replay.lean`.

A code, a digest or an attempt record that fails its check cannot be built.
-/

namespace CivicGate

/-- `_require(condition)`: the validator refuses the history otherwise. -/
def require (condition : Bool) : Option Unit := if condition then some () else none

@[simp] lemma require_eq_some {condition : Bool} {u : Unit} :
    require condition = some u ↔ condition = true := by
  cases condition <;> simp [require]

@[simp] lemma require_true : require true = some () := rfl

/-! ## Texts -/

/-- `_text(value, maximum)` -/
def isText (s : String) (maximum : ℕ) : Bool := 0 < s.length && s.length ≤ maximum

/-- `_sha(value, length)` -/
def isHex (s : String) (length : ℕ) : Bool :=
  s.length = length && s.toList.all (· ∈ "0123456789abcdef".toList)

/-- The characters a code may start with. -/
def upperCase : List Char := "ABCDEFGHIJKLMNOPQRSTUVWXYZ".toList

/-- The characters of a code. -/
def codeChars : List Char := "ABCDEFGHIJKLMNOPQRSTUVWXYZ0123456789_".toList

/-- `_code(value)` -/
def isCode (s : String) : Bool :=
  isText s 128 && s.toList.head?.any (· ∈ upperCase) && s.toList.all (· ∈ codeChars)

/-- A reason or error code. -/
abbrev Code := { s : String // isCode s = true }

/-- A text that must be a code. -/
def Code.read : Json → Option Code
  | .str s => if h : isCode s = true then some ⟨s, h⟩ else none
  | _ => none

/-- `_codes(value)` -/
def Code.readList (v : Json) (key : String) : Option (List Code) := do
  let xs ← v.getList? key
  require (xs.length ≤ 128)
  xs.mapM Code.read

/-- `_code(value, nullable=True)` -/
def Code.readOption (v : Json) (key : String) : Option (Option Code) :=
  match v.get? key with
  | some .null => some none
  | some x => (Code.read x).map some
  | none => none

/-- `_sha(value[key])` -/
def readSha (v : Json) (key : String) : Option String := do
  let s ← v.getStr? key
  require (isHex s 64)
  return s

/-! ## Identity -/

/-- A trust domain without its instance. -/
structure Domain where
  issuer : String
  audience : String
  principal : String
  serviceIdentity : String
  deriving DecidableEq

/-- The domain as a dictionary. -/
def Domain.toJson (d : Domain) : Json :=
  .dict [("audience", .str d.audience), ("issuer", .str d.issuer), ("principal", .str d.principal),
    ("service_identity", .str d.serviceIdentity)]

/-- The SHA-256 digest that names a domain. -/
def Domain.key (d : Domain) : String := sha256Hex (canonical true d.toJson)

/-- What a ledger is validated against. -/
structure LedgerIdentity where
  domainKey : String
  domain : Domain
  revision : String
  sourceSha : String
  deriving DecidableEq

/-- The checks `_replay` makes before it reads a row. -/
def LedgerIdentity.valid (l : LedgerIdentity) : Bool :=
  isHex l.domainKey 64 && isHex l.revision 40 && isHex l.sourceSha 64 &&
    [l.domain.issuer, l.domain.audience, l.domain.principal, l.domain.serviceIdentity].all
      (isText · 256) &&
    l.domain.principal ≠ l.domain.serviceIdentity && l.domainKey = l.domain.key

/-! ## Evidence -/

/-- The caller's context, as an event records it. -/
structure Context where
  principal : String
  issuer : String
  audience : String
  session : String
  request : String
  expiresAt : ℤ
  deriving DecidableEq

def contextFields : List String :=
  ["principal", "issuer", "audience", "session", "request", "expires_at"]

/-- The fields of a context, of the right types. -/
def Context.read (v : Json) : Option Context := do
  require (v.hasFields contextFields)
  return {
    principal := ← v.getStr? "principal"
    issuer := ← v.getStr? "issuer"
    audience := ← v.getStr? "audience"
    session := ← v.getStr? "session"
    request := ← v.getStr? "request"
    expiresAt := ← v.getInt? "expires_at" }

/-- `_context(value, domain, event_time)` -/
def Context.accepted (c : Context) (d : Domain) (time : PyNum) : Bool :=
  c.principal = d.principal && c.issuer = d.issuer && c.audience = d.audience &&
    isText c.session 128 && isText c.request 128 && 1 ≤ c.expiresAt &&
    time.value < (c.expiresAt : ℚ)

/-- What the policy gate decided. -/
structure PolicyEvidence where
  initialDecision : Decision
  reasons : List Code
  bindingIssued : Bool
  bindingIssuanceError : Option Code
  deriving DecidableEq

/-- The audit record of the authority to dispatch. -/
structure AuthorityRecord where
  reasons : List Code
  requestId : String
  tool : String
  deriving DecidableEq

def authorityFields : List String :=
  ["authority_source", "decision", "reasons", "policy_version", "binding"]

def bindingFields : List String :=
  ["request_id", "tool", "arguments_sha256", "schema_sha256", "operation_scope",
    "policy_decision", "policy_sha256", "policy_facts_sha256", "policy_context_sha256",
    "binding_sha256"]

/-- The checks of `_authority` that do not compare with earlier events. -/
def AuthorityRecord.read (v : Json) : Option AuthorityRecord := do
  require (v.hasFields authorityFields)
  require (v.getStr? "authority_source" = some "DETERMINISTIC_POLICY_GATE")
  require (v.getStr? "decision" = some "PERMIT")
  require (v.getStr? "policy_version" = some policyVersion)
  let reasons ← Code.readList v "reasons"
  let binding ← v.get? "binding"
  require (binding.hasFields bindingFields)
  let requestId ← binding.getStr? "request_id"
  let tool ← binding.getStr? "tool"
  require (tool ∈ tools)
  require (binding.getStr? "operation_scope" = some operationScope)
  require (binding.getStr? "policy_decision" = some "PERMIT")
  let _ ← ["arguments_sha256", "schema_sha256", "policy_sha256", "policy_facts_sha256",
    "policy_context_sha256", "binding_sha256"].mapM (readSha binding)
  return { reasons, requestId, tool }

/-- What is recorded right before a dispatch. -/
structure IntentEvidence where
  context : Context
  authority : AuthorityRecord
  containmentDenials : ℕ
  deriving DecidableEq

/-- `response_received == (response_state == "RESPONSE_RECEIVED")`, with a status code exactly
then. -/
def statusConsistent (response : ResponseState) (received : Bool) (status : Option ℤ) : Bool :=
  received = (response = .responseReceived) &&
    match status with
    | some n => received && 100 ≤ n && n ≤ 599
    | none => !received

/-- The record of the one attempt a ledger allows. -/
structure Attempt where
  dispatchState : DispatchState
  responseState : ResponseState
  statusCode : Option ℤ
  retryDecision : RetryDecision
  dispatched : dispatchState ≠ .notDispatched
  retry : retryDecision ≠ .retryAllowed
  status : statusConsistent responseState (responseState = .responseReceived) statusCode = true
  deriving DecidableEq

def attemptFields : List String :=
  ["attempt", "max_attempts", "dispatch_state", "response_state", "status_code",
    "response_received", "retry_decision"]

/-- `value[key]` where the code takes an integer or `None`. -/
def Json.getOptInt? (v : Json) (key : String) : Option (Option ℤ) :=
  match v.get? key with
  | some .null => some none
  | some (.int n) => some (some n)
  | _ => none

/-- One item of `_attempts`. -/
def Attempt.read (v : Json) : Option Attempt := do
  require (v.hasFields attemptFields)
  require (v.getInt? "attempt" = some 1 && v.getInt? "max_attempts" = some 1)
  let dispatchState ← v.getEnum? "dispatch_state" DispatchState.all DispatchState.text
  let responseState ← v.getEnum? "response_state" ResponseState.all ResponseState.text
  let received ← v.getBool? "response_received"
  let retryDecision ← v.getEnum? "retry_decision" RetryDecision.recorded RetryDecision.text
  let statusCode ← v.getOptInt? "status_code"
  if h : dispatchState ≠ .notDispatched ∧ retryDecision ≠ .retryAllowed ∧
      statusConsistent responseState (responseState = .responseReceived) statusCode = true then do
    require (received = (responseState = .responseReceived))
    return { dispatchState, responseState, statusCode, retryDecision
             dispatched := h.1, retry := h.2.1, status := h.2.2 }
  else none

/-- How a call ended. -/
structure FinishEvidence where
  denials : ℕ
  hold : Bool
  finalDecision : Decision
  toolExecuted : Bool
  dispatchState : DispatchState
  responseState : ResponseState
  nextAction : NextAction
  verification : Verification
  boundaryError : Option Code
  attempt : Option Attempt
  deriving DecidableEq

/-! ## Events -/

/-- The kinds of events. -/
inductive EventKind
  | provision
  | boot
  | close
  | begin
  | policy
  | intent
  | finish
  | hold
  deriving DecidableEq

def EventKind.text : EventKind → String
  | .provision => "provision"
  | .boot => "boot"
  | .close => "close"
  | .begin => "begin"
  | .policy => "policy"
  | .intent => "intent"
  | .finish => "finish"
  | .hold => "hold"

/-- `COMMON` -/
def commonFields : List String :=
  ["kind", "domain_key", "epoch", "owner_id", "instance", "source_revision", "source_sha256",
    "time"]

/-- `FIELDS`; a provision is validated apart. -/
def EventKind.fields : EventKind → List String
  | .provision => []
  | .boot => []
  | .close => []
  | .begin => ["request_id", "context"]
  | .policy =>
    ["request_id", "initial_decision", "reasons", "binding_issued", "binding_issuance_error"]
  | .intent => ["request_id", "context", "authority", "containment_denials", "dispatch_state"]
  | .finish =>
    ["request_id", "denials", "hold", "final_decision", "phase", "tool_executed",
      "dispatch_state", "response_state", "next_action", "pre_dispatch_verification",
      "execution_boundary_error", "binding_consumption", "attempt_metadata_available", "attempts",
      "policy_reasons", "error_codes"]
  | .hold => ["request_id", "reason", "dispatch_state", "response_state", "hold"]

/-- What an owner records about itself in every event. -/
structure Header where
  epoch : ℕ
  ownerId : String
  instanceId : String
  time : PyNum
  deriving DecidableEq

/-- What an event records. -/
inductive Action
  | boot
  | close
  | begin (requestId : String) (context : Context)
  | policy (requestId : String) (evidence : PolicyEvidence)
  | intent (requestId : String) (evidence : IntentEvidence)
  | finish (requestId : String) (evidence : FinishEvidence)
  | hold (requestId : Option String)
  deriving DecidableEq

/-- An entry of the ledger: its provision, or an event of an owner. -/
inductive Entry
  | provision
  | event (header : Header) (action : Action)
  deriving DecidableEq

def Action.kind : Action → EventKind
  | .boot => .boot
  | .close => .close
  | .begin _ _ => .begin
  | .policy _ _ => .policy
  | .intent _ _ => .intent
  | .finish _ _ => .finish
  | .hold _ => .hold

/-- The request an event belongs to. -/
def Action.requestId? : Action → Option String
  | .boot => none
  | .close => none
  | .begin r _ => some r
  | .policy r _ => some r
  | .intent r _ => some r
  | .finish r _ => some r
  | .hold r => r

def Entry.kind : Entry → EventKind
  | .provision => .provision
  | .event _ a => a.kind

def Entry.requestId? : Entry → Option String
  | .provision => none
  | .event _ a => a.requestId?

/-! ## Reading a row -/

/-- A row of the ledger, as the database returns it. -/
structure Row where
  sequence : ℤ
  kind : String
  requestId : Option String
  payload : String
  previous : String
  digest : String
  deriving DecidableEq

def maxPayloadBytes : ℕ := 16384

/-- The dictionary a provision holds. -/
def provisionJson (l : LedgerIdentity) : Json :=
  .dict [("domain", l.domain.toJson), ("kind", .str "provision"),
    ("source_revision", .str l.revision), ("source_sha256", .str l.sourceSha),
    ("version", .int 1)]

/-- The common fields of an event. -/
def Header.read (l : LedgerIdentity) (v : Json) : Option Header := do
  require (v.getStr? "domain_key" = some l.domainKey)
  require (v.getStr? "source_revision" = some l.revision)
  require (v.getStr? "source_sha256" = some l.sourceSha)
  let epoch ← v.getNat? "epoch" 1
  let ownerId ← v.getStr? "owner_id"
  let instanceId ← v.getStr? "instance"
  let time ← v.getNum? "time"
  require (isText ownerId 128 && isText instanceId 256 && time.toFloat ≠ none)
  return { epoch, ownerId, instanceId, time }

/-- The evidence of a `policy` event. -/
def PolicyEvidence.read (v : Json) : Option PolicyEvidence := do
  return {
    initialDecision := ← v.getEnum? "initial_decision" Decision.all Decision.text
    reasons := ← Code.readList v "reasons"
    bindingIssued := ← v.getBool? "binding_issued"
    bindingIssuanceError := ← Code.readOption v "binding_issuance_error" }

/-- The evidence of an `intent` event. -/
def IntentEvidence.read (v : Json) : Option IntentEvidence := do
  require (v.getStr? "dispatch_state" = some "NOT_DISPATCHED")
  return {
    context := ← (← v.get? "context") |> Context.read
    authority := ← (← v.get? "authority") |> AuthorityRecord.read
    containmentDenials := ← v.getNat? "containment_denials" 0 }

/-- `_attempts(value, available)`: at most one attempt, and one exactly when available. -/
def readAttempts (v : Json) (available : Bool) : Option (Option Attempt) := do
  match ← v.getList? "attempts" with
  | [] => do
    require (!available)
    return none
  | [x] => do
    require available
    let attempt ← Attempt.read x
    return some attempt
  | _ => none

/-- The evidence of a `finish` event. -/
def FinishEvidence.read (v : Json) : Option FinishEvidence := do
  let verification ← v.getEnum? "pre_dispatch_verification" Verification.all Verification.text
  require (v.getStr? "binding_consumption" = some verification.consumption)
  let toolExecuted ← v.getBool? "tool_executed"
  require (v.getStr? "phase" = some (if toolExecuted then "post_dispatch" else "pre_dispatch"))
  let _ ← Code.readList v "policy_reasons"
  let _ ← Code.readList v "error_codes"
  let available ← v.getBool? "attempt_metadata_available"
  let attempt ← readAttempts v available
  return {
    denials := ← v.getNat? "denials" 0
    hold := ← v.getBool? "hold"
    finalDecision := ← v.getEnum? "final_decision" Decision.all Decision.text
    toolExecuted
    dispatchState := ← v.getEnum? "dispatch_state" DispatchState.all DispatchState.text
    responseState := ← v.getEnum? "response_state" ResponseState.all ResponseState.text
    nextAction := ← v.getEnum? "next_action" NextAction.recorded NextAction.text
    verification
    boundaryError := ← Code.readOption v "execution_boundary_error"
    attempt }

/-- The checks of a `hold` event that do not compare with earlier events. -/
def readHold (v : Json) : Option (Option String) := do
  require (v.getStr? "reason" = some "INCOMPLETE_CALL" && v.getBool? "hold" = some true)
  require (v.getStr? "dispatch_state" = some "DISPATCH_UNKNOWN")
  require (v.getStr? "response_state" = some "TRANSPORT_ERROR")
  v.getOptStr? "request_id"

/-- The action of an event of a kind. -/
def Action.read (kind : EventKind) (v : Json) : Option Action :=
  match kind with
  | .provision => none
  | .boot => some .boot
  | .close => some .close
  | .begin => do
    return .begin (← v.getStr? "request_id") (← (← v.get? "context") |> Context.read)
  | .policy => do return .policy (← v.getStr? "request_id") (← PolicyEvidence.read v)
  | .intent => do return .intent (← v.getStr? "request_id") (← IntentEvidence.read v)
  | .finish => do return .finish (← v.getStr? "request_id") (← FinishEvidence.read v)
  | .hold => do return .hold (← readHold v)

/-- The kinds of the events after the provision. -/
def EventKind.events : List EventKind :=
  [.boot, .close, .begin, .policy, .intent, .finish, .hold]

/-- The entry a payload holds. -/
def readEntry (l : LedgerIdentity) (first : Bool) (v : Json) : Option Entry :=
  if first then do
    require (v = (provisionJson l).normalize)
    return .provision
  else do
    let kind ← v.getEnum? "kind" EventKind.events EventKind.text
    require (v.hasFields (commonFields ++ kind.fields))
    let header ← Header.read l v
    let action ← Action.read kind v
    return .event header action

/-- The entry a row holds, checked as far as the row alone can be. -/
def Row.entry (l : LedgerIdentity) (row : Row) : Option Entry := do
  require ((utf8 row.payload).length ≤ maxPayloadBytes)
  let v ← loads row.payload
  require (canonical true v = row.payload)
  let entry ← readEntry l (row.sequence = 1) v
  require (row.kind = entry.kind.text && row.requestId = entry.requestId?)
  return entry

end CivicGate
