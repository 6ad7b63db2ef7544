import CivicGate.Framework.Json.Value
import CivicGate.Framework.Table
import CivicGate.Framework.Transaction

/-!
# The attempt budget

`AttemptBudget` (`harness/attempt_budget_v2.py`): the SQLite ledger of attempts, MCP calls and
observation fences, and the body of each of its transactions.  The tables that
`LiveAttemptBudget` adds are a part of the store that only its methods read.

A body reads the store and the capability of the process that runs it.  The values of `uuid4`
and of the clock are inputs; the columns of a row that are written once and read by no method
(the times of a row) are left out.
-/

namespace CivicGate.Harness

/-! ## Exceptions and checks -/

/-- What a method of the budget raises. -/
inductive BudgetError
  | unavailable (message : String)
  | exceeded (message : String)
  | stopped (message : String)
  | recoveryBlocked (message : String)
  /-- A plain `BudgetError`. -/
  | refused (message : String)
  | valueError (message : String)
  /-- The process or its class has no such method. -/
  | attributeError
  deriving DecidableEq

/-- `ROLES` -/
inductive Role
  | planner
  | judge
  deriving DecidableEq

/-- `IDENTITY_PATTERN.fullmatch` -/
def isIdentity (s : String) : Bool :=
  0 < s.length && s.length ≤ 160 && s.toList.all fun c =>
    (c.isAlphanum && c.toNat < 128) || c ∈ ['_', '.', ':', '/', '-']

/-- `HASH_PATTERN.fullmatch` -/
def isHash (s : String) : Bool :=
  s.length = 64 && s.toList.all (· ∈ "0123456789abcdef".toList)

/-- A text of the metadata: not empty, bounded, and without control characters. -/
def isPlainText (s : String) (maximum : ℕ) : Bool :=
  s ≠ "" && s.length ≤ maximum && s.toList.all (32 ≤ ·.toNat)

/-! ## Outcomes -/

inductive AttemptState
  | reserved
  | inFlight
  | terminal
  deriving DecidableEq

/-- `OUTCOMES` -/
inductive AttemptOutcome
  | reservationNoSend
  | responseObserved
  | completionUnknown
  | modelIdentityRejected
  | responseRejected
  deriving DecidableEq

def AttemptOutcome.text : AttemptOutcome → String
  | .reservationNoSend => "RESERVATION_NO_SEND"
  | .responseObserved => "RESPONSE_OBSERVED"
  | .completionUnknown => "COMPLETION_UNKNOWN"
  | .modelIdentityRejected => "MODEL_IDENTITY_REJECTED"
  | .responseRejected => "RESPONSE_REJECTED"

/-- The outcomes that are not in `STOP_OUTCOMES`. -/
def AttemptOutcome.known : AttemptOutcome → Bool
  | .reservationNoSend | .responseObserved => true
  | _ => false

inductive McpState
  | reserved
  | admitted
  | terminal
  deriving DecidableEq

inductive McpOutcome
  | clientResponseObserved
  | clientReceiptUnknown
  deriving DecidableEq

inductive FenceState
  | opened
  | closed
  deriving DecidableEq

/-! ## Rows -/

/-- `AttemptReservation` -/
structure AttemptReservation where
  attemptId : String
  correlationId : String
  runId : String
  observationId : String
  role : Role
  requestedModel : String
  requestSha256 : String
  promptSha256 : String
  schemaSha256 : String
  retryCount : ℤ
  retryReason : Option String
  reservedAt : String
  deriving DecidableEq

/-- A row of `attempts`; the columns that repeat the reservation are read from it. -/
structure Attempt where
  reservation : AttemptReservation
  state : AttemptState := .reserved
  outcome : Option AttemptOutcome := none
  metadata : List (String × Json) := []

abbrev Attempt.attemptId (a : Attempt) : String := a.reservation.attemptId

/-- The lane of an attempt: its observation and its role. -/
abbrev Attempt.lane (a : Attempt) : String × Role :=
  (a.reservation.observationId, a.reservation.role)

/-- What a retry must repeat. -/
def AttemptReservation.identity (r : AttemptReservation) : String × String × String × String :=
  (r.requestedModel, r.requestSha256, r.promptSha256, r.schemaSha256)

/-- A row of `mcp_calls`. -/
structure McpCall where
  observationId : String
  reservationId : String
  proposalSha256 : String
  state : McpState := .reserved
  outcome : Option McpOutcome := none
  metadata : List (String × Json) := []

/-- A row of `observation_fences`. -/
structure Fence where
  observationId : String
  fenceId : String
  state : FenceState := .opened
  summarySha256 : Option String := none

/-- A bounded observation and its fence: what a process must hold to act while it is open. -/
abbrev Capability := String × String

abbrev Fence.capability (f : Fence) : Capability := (f.observationId, f.fenceId)

/-- `role_caps` -/
structure RoleCaps where
  planner : ℕ
  judge : ℕ
  deriving DecidableEq

def RoleCaps.of (caps : RoleCaps) : Role → ℕ
  | .planner => caps.planner
  | .judge => caps.judge

/-! ## The tables of the live budget -/

/-- `per_attempt_upper_bound_units` -/
structure UnitBounds where
  planner : ℤ
  judge : ℤ
  deriving DecidableEq

def UnitBounds.of (bounds : UnitBounds) : Role → ℤ
  | .planner => bounds.planner
  | .judge => bounds.judge

/-- The liability policy of a live store: nothing is admitted under the monetary interface. -/
inductive LiabilityDocument
  | monetaryInterfaceOnly
  | synthetic (totalLimitUnits : ℤ) (perAttempt : UnitBounds)
  deriving DecidableEq

/-- A row of `request_contexts`. -/
structure RequestContext where
  runId : String
  observationId : String
  role : Role
  requestSha256 : String
  schemaSha256 : String
  logicalOrigin : String
  wireFixtureOrigin : String
  effectiveInvocationSha256 : Option String
  deriving DecidableEq

abbrev RequestContext.lane (c : RequestContext) : String × Role := (c.observationId, c.role)

/-- A row of `liability_reservations`. -/
structure Liability where
  attemptId : String
  units : ℤ

inductive LeaseState
  | available
  | consumed
  deriving DecidableEq

/-- A row of `send_leases`; its binding is a context and the attempt. -/
structure SendLease where
  attemptId : String
  leaseId : String
  binding : RequestContext
  state : LeaseState := .available

/-- A row of `response_facts`. -/
structure ResponseFacts where
  attemptId : String
  facts : String
  factsSha256 : String

/-- The tables `LiveAttemptBudget.create` adds. -/
structure LiveTables where
  policy : LiabilityDocument
  contexts : List RequestContext := []
  liabilities : List Liability := []
  leases : List SendLease := []
  facts : List ResponseFacts := []

/-! ## The store -/

/-- The database of a run. -/
structure BudgetStore where
  runId : String
  roleCaps : RoleCaps
  maxObservations : ℕ
  isStopped : Bool := false
  stopReason : Option String := none
  observations : List String := []
  attempts : List Attempt := []
  mcpCalls : List McpCall := []
  fences : List Fence := []
  live : Option LiveTables := none

/-- A process attached to a store. -/
structure BudgetProcess where
  isLive : Bool
  runId : String
  roleCaps : RoleCaps
  maxObservations : ℕ
  /-- `_live_policy_pin` -/
  policyPin : Option LiabilityDocument := none
  /-- `_active_observation` -/
  active : Option Capability := none

/-- What `uuid4` and the clock give during a call. -/
structure Fresh where
  uuids : ℕ → String
  now : String

/-- The result of a body. -/
abbrev Body (α : Type) := Except (Abort BudgetStore BudgetError) α

namespace BudgetStore

variable (s : BudgetStore)

/-- `_halt` -/
def halt (reason : String) : BudgetStore :=
  { s with isStopped := true, stopReason := s.stopReason.or (some reason) }

/-- `_halt`, `commit` and `raise` under a condition. -/
def haltIf (condition : Bool) (reason : String) (e : String → BudgetError) : Body Unit :=
  if condition then .error ⟨e reason, some (s.halt reason)⟩ else .ok ()

/-- The attempts of an observation and role. -/
def laneOf (lane : String × Role) : List Attempt := s.attempts.filter (·.lane = lane)

def attempt? (attemptId : String) : Option Attempt := Table.get? Attempt.attemptId attemptId s.attempts

def mcpCall? (observationId : String) : Option McpCall :=
  Table.get? McpCall.observationId observationId s.mcpCalls

def fence? (observationId : String) : Option Fence :=
  Table.get? Fence.observationId observationId s.fences

/-- The store with one attempt changed. -/
def updateAttempt (attemptId : String) (f : Attempt → Attempt) : BudgetStore :=
  { s with attempts := Table.update Attempt.attemptId attemptId f s.attempts }

def updateMcp (observationId : String) (f : McpCall → McpCall) : BudgetStore :=
  { s with mcpCalls := Table.update McpCall.observationId observationId f s.mcpCalls }

/-- An attempt or MCP call is reserved or under way. -/
def pending : Bool :=
  s.attempts.any (·.state ≠ .terminal) || s.mcpCalls.any (·.state ≠ .terminal)

/-- `_reserve_observation` -/
def reserveObservation (observationId : String) : Body BudgetStore :=
  if observationId ∈ s.observations then .ok s
  else do
    s.haltIf (s.maxObservations ≤ s.observations.length) "OBSERVATION_BUDGET_EXHAUSTED" .exceeded
    .ok { s with observations := s.observations ++ [observationId] }

/-- `INSERT INTO attempts`, with its primary key and its `UNIQUE` columns. -/
def insertAttempt (r : AttemptReservation) : Body BudgetStore := do
  check (s.attempts.all fun a => a.attemptId ≠ r.attemptId ∧
      a.reservation.correlationId ≠ r.correlationId ∧
      (a.lane, a.reservation.retryCount) ≠ ((r.observationId, r.role), r.retryCount))
    (.unavailable "BUDGET_STORE_OPERATION_FAILED")
  .ok { s with attempts := s.attempts ++ [{ reservation := r }] }

/-- `INSERT INTO mcp_calls` -/
def insertMcp (c : McpCall) : Body BudgetStore := do
  check (s.mcpCalls.all fun d => d.observationId ≠ c.observationId ∧
    d.reservationId ≠ c.reservationId) (.unavailable "BUDGET_STORE_OPERATION_FAILED")
  .ok { s with mcpCalls := s.mcpCalls ++ [c] }

/-- `INSERT INTO observation_fences` -/
def insertFence (f : Fence) : Body BudgetStore := do
  check (s.fences.all fun g => g.observationId ≠ f.observationId ∧ g.fenceId ≠ f.fenceId)
    (.unavailable "BUDGET_STORE_OPERATION_FAILED")
  .ok { s with fences := s.fences ++ [f] }

end BudgetStore

/-! ## Creation -/

/-- `_validate_limits` -/
def validLimits (caps : RoleCaps) (maxObservations : ℕ) : Bool :=
  caps.planner ≤ 12 && caps.judge ≤ 12 && 1 ≤ maxObservations && maxObservations ≤ 6

/-- `AttemptBudget.create` -/
def BudgetStore.create (runId : String) (caps : RoleCaps) (maxObservations : ℕ) :
    Except BudgetError BudgetStore := do
  ensure (isIdentity runId) (.valueError "INVALID_RUN_ID")
  ensure (validLimits caps maxObservations) (.valueError "INVALID_ROLE_CAPS")
  pure { runId, roleCaps := caps, maxObservations }

/-! ## Arguments -/

/-- The arguments of `reserve`. -/
structure ReserveArgs where
  observationId : String
  role : Role
  requestedModel : String
  requestSha256 : String
  promptSha256 : String
  schemaSha256 : String
  retryCount : ℤ := 0
  retryReason : Option String := none

abbrev ReserveArgs.lane (a : ReserveArgs) : String × Role := (a.observationId, a.role)

def ReserveArgs.identity (a : ReserveArgs) : String × String × String × String :=
  (a.requestedModel, a.requestSha256, a.promptSha256, a.schemaSha256)

/-- The checks `reserve` makes before its transaction. -/
def ReserveArgs.validate (a : ReserveArgs) : Body Unit := do
  check (isIdentity a.observationId) (.valueError "INVALID_OBSERVATION_ID")
  check (isIdentity a.requestedModel) (.valueError "INVALID_REQUESTED_MODEL")
  check (a.retryCount = 0 ∨ a.retryCount = 1) (.valueError "INVALID_ROLE_OR_RETRY_INDEX")
  check (isHash a.requestSha256 && isHash a.promptSha256 && isHash a.schemaSha256)
    (.valueError "INVALID_DOCUMENTARY_HASH")
  check (a.retryReason.all isIdentity) (.valueError "INVALID_RETRY_REASON")
  check (a.retryCount = 0 ↔ a.retryReason = none) (.valueError "RETRY_REASON_BINDING_REQUIRED")

/-- The reservation of a call in a run. -/
def ReserveArgs.reservation (a : ReserveArgs) (runId : String) (x : Fresh) : AttemptReservation where
  attemptId := x.uuids 0
  correlationId := x.uuids 1
  runId
  observationId := a.observationId
  role := a.role
  requestedModel := a.requestedModel
  requestSha256 := a.requestSha256
  promptSha256 := a.promptSha256
  schemaSha256 := a.schemaSha256
  retryCount := a.retryCount
  retryReason := a.retryReason
  reservedAt := x.now

/-- The checks of `reserve` against the earlier attempts of the lane. -/
def ReserveArgs.checkPrior (a : ReserveArgs) (prior : List Attempt) : Body Unit := do
  check (prior.all (·.reservation.retryCount ≠ a.retryCount))
    (.refused "DUPLICATE_ATTEMPT_RESERVATION")
  if a.retryCount ≠ 0 then
    match prior with
    | [original] => do
      check (original.outcome.any AttemptOutcome.known)
        (.refused "RETRY_WITHOUT_KNOWN_PRIOR_COMPLETION")
      check (original.reservation.identity = a.identity) (.refused "RETRY_IDENTITY_MISMATCH")
    | _ => .error ⟨.refused "RETRY_WITHOUT_KNOWN_PRIOR_COMPLETION", none⟩

/-- The role cap, as `reserve` applies it. -/
def BudgetStore.checkRoleCap (s : BudgetStore) (role : Role) : Body Unit :=
  s.haltIf (s.roleCaps.of role ≤ s.attempts.countP (·.reservation.role = role))
    "ROLE_BUDGET_EXHAUSTED" .exceeded

/-! ### Metadata -/

/-- `METADATA_FIELDS` -/
def metadataFields : List String :=
  ["provider", "returned_model", "returned_model_sha256", "http_status", "started_at_utc",
    "completed_at_utc", "elapsed_ms", "prompt_tokens", "completion_tokens", "total_tokens",
    "usage_state", "cancellation_state", "deadline_disposition", "provider_correlation_id",
    "error_code", "delegate_entered", "response_arrived_at_utc", "response_arrival_elapsed_ms",
    "response_read_completed_at_utc", "acceptance_state"]

/-- `MCP_METADATA_FIELDS` -/
def mcpMetadataFields : List String :=
  ["initial_policy_decision", "final_policy_disposition", "binding_issued", "binding_consumed",
    "adapter_entries", "synthetic_http_attempts", "client_receipt_state",
    "backend_dispatch_state", "error_code", "mcp_call_id", "correlation_id"]

/-- One entry of `_metadata`. -/
def checkMetadata (key : String) (item : Json) : Body Unit :=
  if key = "delegate_entered" then
    match item with
    | .bool _ => .ok ()
    | _ => .error ⟨.valueError "INVALID_ATTEMPT_DELEGATE_OBSERVATION", none⟩
  else if item = .null then .ok ()
  else if key ∈ ["http_status", "prompt_tokens", "completion_tokens", "total_tokens"] then
    match item with
    | .int n => do
      check (0 ≤ n) (.valueError "INVALID_ATTEMPT_INTEGER_METADATA")
      check (key ≠ "http_status" ∨ (100 ≤ n ∧ n ≤ 599)) (.valueError "INVALID_HTTP_STATUS")
    | _ => .error ⟨.valueError "INVALID_ATTEMPT_INTEGER_METADATA", none⟩
  else if key ∈ ["elapsed_ms", "response_arrival_elapsed_ms"] then
    match item with
    | .int n => check (0 ≤ n) (.valueError "INVALID_ATTEMPT_ELAPSED_METADATA")
    | .float x => check (0 ≤ x.value) (.valueError "INVALID_ATTEMPT_ELAPSED_METADATA")
    | _ => .error ⟨.valueError "INVALID_ATTEMPT_ELAPSED_METADATA", none⟩
  else
    match item with
    | .str text =>
      if key = "returned_model_sha256" then
        check (isHash text) (.valueError "INVALID_DOCUMENTARY_HASH")
      else check (isPlainText text 200) (.valueError "INVALID_ATTEMPT_TEXT_METADATA")
    | _ => .error ⟨.valueError (if key = "returned_model_sha256" then "INVALID_DOCUMENTARY_HASH"
        else "INVALID_ATTEMPT_TEXT_METADATA"), none⟩

/-- One entry of `_mcp_metadata`. -/
def checkMcpMetadata (key : String) (item : Json) : Body Unit :=
  if item = .null then .ok ()
  else if key ∈ ["binding_issued", "binding_consumed"] then
    match item with
    | .bool _ => .ok ()
    | _ => .error ⟨.valueError "INVALID_MCP_BOOLEAN_METADATA", none⟩
  else if key ∈ ["adapter_entries", "synthetic_http_attempts"] then
    match item with
    | .int n => check (0 ≤ n) (.valueError "INVALID_MCP_COUNT_METADATA")
    | _ => .error ⟨.valueError "INVALID_MCP_COUNT_METADATA", none⟩
  else
    match item with
    | .str text => check (isPlainText text 200) (.valueError "INVALID_MCP_TEXT_METADATA")
    | _ => .error ⟨.valueError "INVALID_MCP_TEXT_METADATA", none⟩

/-- The entries of a metadata dictionary, or of none. -/
def readMetadata (fields : List String) (unsupported : String)
    (entry : String → Json → Body Unit) : Option Json → Body (List (String × Json))
  | none => .ok []
  | some (.dict kvs) => do
    check (kvs.all (·.1 ∈ fields)) (.valueError unsupported)
    kvs.forM fun kv => entry kv.1 kv.2
    .ok kvs
  | some _ => .error ⟨.valueError unsupported, none⟩

/-- `_metadata` -/
def metadata : Option Json → Body (List (String × Json)) :=
  readMetadata metadataFields "UNSUPPORTED_ATTEMPT_METADATA" checkMetadata

/-- `_mcp_metadata` -/
def mcpMetadata : Option Json → Body (List (String × Json)) :=
  readMetadata mcpMetadataFields "UNSUPPORTED_MCP_METADATA" checkMcpMetadata

/-! ## The methods -/

namespace BudgetProcess

variable (p : BudgetProcess) (x : Fresh) (s : BudgetStore)

/-- `_settings`, of either class. -/
def settings : Body Unit := do
  check (s.runId = p.runId) (.unavailable "BUDGET_CONTRACT_MISMATCH")
  check (s.roleCaps = p.roleCaps ∧ s.maxObservations = p.maxObservations)
    (.unavailable "BUDGET_CONTRACT_CHANGED")
  if p.isLive then
    match s.live with
    | none => .error ⟨.unavailable "LIVE_ADMISSION_SCHEMA_REQUIRED_NO_MIGRATION", none⟩
    | some t => check (p.policyPin = some t.policy) (.unavailable "LIVE_ADMISSION_POLICY_CHANGED")

/-- `_assert_fence_access` -/
def assertFenceAccess (observationId : String) : Body Unit :=
  (s.fences.filter (·.state = .opened)).forM fun row => do
    check (p.active = some row.capability) (.recoveryBlocked "UNRESOLVED_OBSERVATION_FENCE")
    check (observationId = row.observationId) (.recoveryBlocked "OTHER_OBSERVATION_FENCE_ACTIVE")

/-- The fence of the observation is open and the process holds it. -/
def holdsFence (observationId : String) : Bool :=
  (s.fence? observationId).any fun row =>
    row.state = .opened && p.active = some (observationId, row.fenceId)

/-- `if settings["stopped"]: raise` and the fence check, as most methods begin. -/
def assertRunning (observationId : String) : Body Unit := do
  check (!s.isStopped) (.stopped "RUN_STOPPED")
  p.assertFenceAccess s observationId

/-- `assert_active_observation` -/
def assertActiveObservation (observationId : Option String) : Body Unit := do
  let observationId ← match observationId, p.active with
    | some o, _ => .ok o
    | none, some capability => .ok capability.1
    | none, none => .error ⟨.recoveryBlocked "ACKNOWLEDGED_OBSERVATION_FENCE_REQUIRED", none⟩
  p.settings s
  p.assertRunning s observationId
  check (p.holdsFence s observationId)
    (.recoveryBlocked "ACKNOWLEDGED_OBSERVATION_FENCE_REQUIRED")

/-- `begin_observation`; the answer is the capability the process takes once the commit is
acknowledged. -/
def beginObservation (observationId : String) : Body (Capability × BudgetStore) := do
  check (isIdentity observationId) (.valueError "INVALID_OBSERVATION_ID")
  match p.active with
  | some capability => do
    check (capability.1 = observationId) (.recoveryBlocked "OTHER_OBSERVATION_FENCE_ACTIVE")
    p.assertActiveObservation s (some observationId)
    .ok (capability, s)
  | none => do
    p.settings s
    p.assertRunning s observationId
    check (!s.pending) (.recoveryBlocked "UNRESOLVED_PENDING_ATTEMPT")
    check (s.fence? observationId).isNone (.refused "OBSERVATION_FENCE_ALREADY_EXISTS")
    let t ← s.reserveObservation observationId
    let t ← t.insertFence { observationId, fenceId := x.uuids 0 }
    .ok ((observationId, x.uuids 0), t)

/-- `join_observation` -/
def joinObservation (observationId fenceId : String) : Body (Capability × BudgetStore) := do
  check (isIdentity observationId) (.valueError "INVALID_OBSERVATION_ID")
  check (isIdentity fenceId) (.valueError "INVALID_FENCE_ID")
  check p.active.isNone (.refused "OBSERVATION_CAPABILITY_ALREADY_SET")
  p.settings s
  check (!s.isStopped) (.stopped "RUN_STOPPED")
  check ((s.fence? observationId).any fun row => row.state = .opened && row.fenceId = fenceId)
    (.recoveryBlocked "CURRENT_OBSERVATION_CAPABILITY_REQUIRED")
  .ok ((observationId, fenceId), s)

/-- `close_safe_observation` -/
def closeSafeObservation (observationId summarySha256 : String) : Body BudgetStore := do
  check (isHash summarySha256) (.valueError "INVALID_DOCUMENTARY_HASH")
  p.settings s
  check (!s.isStopped) (.stopped "STOP_CLEARANCE_NOT_AUTHORIZED")
  p.assertFenceAccess s observationId
  check (p.holdsFence s observationId)
    (.recoveryBlocked "CURRENT_OBSERVATION_CAPABILITY_REQUIRED")
  check (s.attempts.all (fun a => a.state = .terminal && a.outcome.any AttemptOutcome.known) &&
      s.mcpCalls.all fun c => c.state = .terminal && c.outcome = some .clientResponseObserved)
    (.recoveryBlocked "UNRESOLVED_CUSTODY_CANNOT_CLOSE_FENCE")
  .ok { s with fences := s.fences.map fun f =>
    if f.observationId = observationId ∧ f.state = .opened then
      { f with state := .closed, summarySha256 := some summarySha256 } else f }

/-- `AttemptBudget.reserve` -/
def reserve (a : ReserveArgs) : Body (AttemptReservation × BudgetStore) := do
  a.validate
  p.settings s
  p.assertRunning s a.observationId
  a.checkPrior (s.laneOf a.lane)
  s.checkRoleCap a.role
  let t ← s.reserveObservation a.observationId
  let t ← t.insertAttempt (a.reservation p.runId x)
  .ok (a.reservation p.runId x, t)

/-- `_row` -/
def row (r : AttemptReservation) : Body Attempt :=
  match s.attempt? r.attemptId with
  | some row => do
    check (row.reservation = r) (.refused "RESERVATION_BINDING_MISMATCH")
    .ok row
  | none => .error ⟨.refused "RESERVATION_BINDING_MISMATCH", none⟩

/-- The part of `start` that both classes share. -/
def startRow (r : AttemptReservation) : Body BudgetStore := do
  let row ← row s r
  check (row.state = .reserved) (.refused "ATTEMPT_ALREADY_STARTED_OR_COMPLETED")
  .ok (s.updateAttempt r.attemptId fun a => { a with state := .inFlight })

/-- `AttemptBudget.start` -/
def start (r : AttemptReservation) : Body BudgetStore := do
  p.settings s
  p.assertRunning s r.observationId
  startRow s r

/-- `finish` -/
def finish (r : AttemptReservation) (outcome : AttemptOutcome) (value : Option Json) :
    Body BudgetStore := do
  let safe ← metadata value
  p.settings s
  let row ← row s r
  check (row.state ≠ .terminal) (.refused "ATTEMPT_ALREADY_COMPLETED")
  check (outcome ≠ .reservationNoSend ∨ row.state = .reserved)
    (.refused "CANNOT_CLAIM_NO_SEND_AFTER_START")
  check (outcome ≠ .responseObserved ∨ row.state = .inFlight)
    (.refused "RESPONSE_REQUIRES_STARTED_ATTEMPT")
  let t := s.updateAttempt r.attemptId fun a =>
    { a with state := .terminal, outcome := some outcome, metadata := safe }
  .ok (if outcome.known then t else t.halt outcome.text)

/-- `stop` -/
def stop (reason : String) : Body BudgetStore := do
  check (isIdentity reason) (.valueError "INVALID_STOP_REASON")
  p.settings s
  .ok (s.halt reason)

/-- `reserve_mcp` -/
def reserveMcp (observationId proposalSha256 : String) : Body (String × BudgetStore) := do
  check (isIdentity observationId) (.valueError "INVALID_OBSERVATION_ID")
  check (isHash proposalSha256) (.valueError "INVALID_DOCUMENTARY_HASH")
  p.settings s
  p.assertRunning s observationId
  check (s.mcpCall? observationId).isNone (.refused "DUPLICATE_MCP_RESERVATION")
  let t ← s.reserveObservation observationId
  let t ← t.insertMcp { observationId, reservationId := x.uuids 0, proposalSha256 }
  .ok (x.uuids 0, t)

/-- `admit_mcp` -/
def admitMcp (observationId proposalSha256 : String) : Body BudgetStore := do
  check (isIdentity observationId) (.valueError "INVALID_OBSERVATION_ID")
  check (isHash proposalSha256) (.valueError "INVALID_DOCUMENTARY_HASH")
  p.settings s
  p.assertRunning s observationId
  match s.mcpCall? observationId with
  | none => .error ⟨.refused "MCP_RESERVATION_MISSING", none⟩
  | some row => do
    check (row.proposalSha256 = proposalSha256) (.refused "MCP_PROPOSAL_BINDING_MISMATCH")
    check (row.state = .reserved) (.refused "MCP_RESERVATION_ALREADY_ADMITTED_OR_COMPLETED")
    .ok (s.updateMcp observationId fun c => { c with state := .admitted })

/-- `finish_mcp` -/
def finishMcp (observationId : String) (outcome : McpOutcome) (value : Option Json) :
    Body BudgetStore := do
  let safe ← mcpMetadata value
  p.settings s
  check ((s.mcpCall? observationId).any (·.state ≠ .terminal))
    (.refused "MCP_RESERVATION_MISSING_OR_COMPLETED")
  let t := s.updateMcp observationId fun c =>
    { c with state := .terminal, outcome := some outcome, metadata := safe }
  .ok (if outcome = .clientReceiptUnknown then t.halt "CLIENT_RECEIPT_UNKNOWN" else t)

/-- `ensure_recoverable` -/
def ensureRecoverable : Body Unit := do
  p.settings s
  p.assertFenceAccess s (p.active.elim "" Prod.fst)
  s.haltIf s.pending "UNRESOLVED_PENDING_ATTEMPT" .recoveryBlocked
  check (!s.isStopped) (.stopped "RUN_STOPPED")

end BudgetProcess

end CivicGate.Harness
