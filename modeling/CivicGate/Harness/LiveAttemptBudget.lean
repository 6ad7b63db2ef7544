import CivicGate.Framework.Json.Text
import CivicGate.Framework.Machine
import CivicGate.Framework.Sha256
import CivicGate.Harness.AttemptBudget

/-!
# The live attempt budget

`LiveAttemptBudget` (`harness/live_attempt_budget_v1.py`) overrides `reserve` and `start` and adds
the request contexts, the liabilities, the send leases and the response facts.  `budgetMachine`
is a store with any number of processes of either class: an input is one method call of one
process with how its commit ends.
-/

namespace CivicGate.Harness

/-! ## Creation -/

/-- `SyntheticLiabilityPolicy.document`; any other policy is the monetary interface. -/
def liabilityDocument (total : ℤ) (perAttempt : UnitBounds) :
    Except BudgetError LiabilityDocument := do
  ensure (0 < total) (.valueError "POSITIVE_SYNTHETIC_LIABILITY_LIMIT_REQUIRED")
  ensure (0 < perAttempt.planner ∧ 0 < perAttempt.judge)
    (.valueError "POSITIVE_SYNTHETIC_ROLE_UPPER_BOUNDS_REQUIRED")
  pure (.synthetic total perAttempt)

/-- `LiveAttemptBudget.create`, with the synthetic policy's arguments where it has one. -/
def BudgetStore.createLive (runId : String) (caps : RoleCaps) (maxObservations : ℕ)
    (policy : Option (ℤ × UnitBounds)) : Except BudgetError BudgetStore := do
  let document ← match policy with
    | some (total, perAttempt) => liabilityDocument total perAttempt
    | none => .ok .monetaryInterfaceOnly
  let s ← BudgetStore.create runId caps maxObservations
  pure { s with live := some { policy := document } }

/-! ## Arguments -/

/-- What a context is compared with: the columns the caller names. -/
structure ExpectedContext where
  observationId : String
  role : Role
  agrees : RequestContext → Bool

abbrev ExpectedContext.lane (e : ExpectedContext) : String × Role := (e.observationId, e.role)

/-- All eight fields. -/
def RequestContext.expected (c : RequestContext) : ExpectedContext where
  observationId := c.observationId
  role := c.role
  agrees d := d = c

/-- The request and its schema, as `reserve` and `start` compare them. -/
def expectedRequest (observationId : String) (role : Role) (requestSha256 schemaSha256 : String) :
    ExpectedContext where
  observationId
  role
  agrees c := c.requestSha256 = requestSha256 ∧ c.schemaSha256 = schemaSha256

/-- The arguments of `assert_send_admissible` and `consume_send_lease`, and of
`bind_request_context`. -/
structure SendArgs where
  observationId : String
  role : Role
  requestSha256 : String
  schemaSha256 : String
  logicalOrigin : String
  wireFixtureOrigin : String
  effectiveInvocationSha256 : Option String

def SendArgs.context (a : SendArgs) (runId : String) : RequestContext where
  runId
  observationId := a.observationId
  role := a.role
  requestSha256 := a.requestSha256
  schemaSha256 := a.schemaSha256
  logicalOrigin := a.logicalOrigin
  wireFixtureOrigin := a.wireFixtureOrigin
  effectiveInvocationSha256 := a.effectiveInvocationSha256

/-- `SendLeaseReceipt` -/
structure SendLeaseReceipt where
  leaseId : String
  attemptId : String
  context : RequestContext
  acknowledgedAt : String

/-- `ResponseFactsReceipt` -/
structure ResponseFactsReceipt where
  attemptId : String
  runId : String
  observationId : String
  role : Role
  requestSha256 : String
  factsSha256 : String
  acknowledgedAt : String

/-- `_check_origin`, by the parser of the standard library. -/
structure Origins where
  canonical : String → Bool
  loopback : String → Bool

/-- The enumerations of `_response_facts`. -/
def factEnums : List (String × List String) :=
  [("model_identity", ["MATCH", "MISMATCH", "MISSING", "MALFORMED"]),
    ("completion", ["COMPLETE", "INCOMPLETE", "UNKNOWN"]),
    ("refusal", ["PRESENT", "ABSENT_OR_NULL", "UNKNOWN"]),
    ("usage", ["KNOWN", "UNKNOWN", "INVALID"]),
    ("typed_schema", ["PASS", "FAIL", "NOT_PARSED"]),
    ("contract", ["PASS", "FAIL"])]

/-- `_response_facts` -/
def responseFacts (facts : Json) : Body Json := do
  check (facts.hasFields (factEnums.map Prod.fst ++
      ["http_status", "body_sha256", "body_bytes", "returned_model", "errors"]))
    (.valueError "EXPLICIT_RESPONSE_FACTS_FIELDS_REQUIRED")
  check (factEnums.all fun field => (facts.getStr? field.1).any (· ∈ field.2))
    (.valueError "INVALID_RESPONSE_FACTS_ENUM")
  check ((facts.getInt? "http_status").any fun n => 100 ≤ n ∧ n ≤ 599)
    (.valueError "INVALID_RESPONSE_FACTS_HTTP_STATUS")
  check ((facts.getInt? "body_bytes").any (0 ≤ ·)) (.valueError "INVALID_RESPONSE_FACTS_BODY_BYTES")
  check ((facts.getStr? "body_sha256").any isHash) (.valueError "INVALID_DOCUMENTARY_HASH")
  check ((facts.getOptStr? "returned_model").any fun model => model.all (isPlainText · 200))
    (.valueError "INVALID_RESPONSE_FACTS_MODEL")
  check ((facts.getList? "errors").any fun errors => errors.length ≤ 16 && errors.all fun
      | .str text => isPlainText text 160
      | _ => false)
    (.valueError "INVALID_RESPONSE_FACTS_ERRORS")
  .ok facts.normalize

/-! ## The methods -/

/-- `SELECT … FROM request_contexts WHERE observation_id = ? AND role = ?` -/
def LiveTables.context? (t : LiveTables) (lane : String × Role) : Option RequestContext :=
  Table.get? RequestContext.lane lane t.contexts

def LiveTables.lease? (t : LiveTables) (attemptId : String) : Option SendLease :=
  Table.get? SendLease.attemptId attemptId t.leases

/-- `UPDATE send_leases SET state = 'CONSUMED' … WHERE … state = 'AVAILABLE'` -/
def SendLease.consume (l : SendLease) : SendLease :=
  if l.state = .available then { l with state := .consumed } else l

/-- `SUM(units)` -/
def LiveTables.used (t : LiveTables) : ℤ := (t.liabilities.map Liability.units).sum

namespace BudgetProcess

variable (p : BudgetProcess) (x : Fresh) (s : BudgetStore)

/-- The live tables: no method of a live process runs where the schema is missing. -/
def tables : Body LiveTables :=
  match s.live with
  | some t => .ok t
  | none => .error ⟨.unavailable "LIVE_ADMISSION_SCHEMA_REQUIRED_NO_MIGRATION", none⟩

/-- `_assert_open` -/
def assertOpen (observationId : String) : Body Unit := do
  p.settings s
  p.assertRunning s observationId
  check (p.holdsFence s observationId)
    (.recoveryBlocked "ACKNOWLEDGED_OBSERVATION_FENCE_REQUIRED")

/-- The MCP call of a judge's observation is the one its context was bound to. -/
def judgeAdmitted (context : RequestContext) : Bool :=
  (s.mcpCall? context.observationId).any fun mcp =>
    mcp.state = .admitted && context.effectiveInvocationSha256.any fun sha =>
      sha ≠ "" && mcp.proposalSha256 = sha

/-- `_assert_context` -/
def assertContext (e : ExpectedContext) : Body RequestContext := do
  p.assertOpen s e.observationId
  let t ← tables s
  match t.context? e.lane with
  | none => .error ⟨.refused "PERSISTED_ROLE_CONTEXT_REQUIRED", none⟩
  | some context => do
    check (e.agrees context) (.refused "PERSISTED_ROLE_CONTEXT_MISMATCH")
    check (e.role ≠ .judge ∨ judgeAdmitted s context)
      (.refused "JUDGE_MATCHING_MCP_ADMISSION_REQUIRED")
    .ok context

/-- `bind_request_context` -/
def bindRequestContext (origins : Origins) (a : SendArgs) : Body BudgetStore := do
  check (isIdentity a.observationId) (.valueError "INVALID_OBSERVATION_ID")
  check (isHash a.requestSha256 && isHash a.schemaSha256) (.valueError "INVALID_DOCUMENTARY_HASH")
  check (origins.canonical a.logicalOrigin) (.valueError "CANONICAL_ORIGIN_REQUIRED")
  check (origins.canonical a.wireFixtureOrigin) (.valueError "CANONICAL_ORIGIN_REQUIRED")
  check (origins.loopback a.wireFixtureOrigin)
    (.valueError "SYNTHETIC_LOOPBACK_WIRE_ORIGIN_REQUIRED")
  check (a.effectiveInvocationSha256.all isHash) (.valueError "INVALID_DOCUMENTARY_HASH")
  check (a.role ≠ .planner ∨ a.effectiveInvocationSha256.isNone)
    (.valueError "PLANNER_EFFECTIVE_INVOCATION_CONTEXT_NOT_APPLICABLE")
  p.settings s
  p.assertOpen s a.observationId
  let t ← tables s
  let bound := match t.context? (a.observationId, a.role) with
    | some _ => s
    | none => { s with live := some { t with contexts := t.contexts ++ [a.context p.runId] } }
  check ((t.context? (a.observationId, a.role)).all (· = a.context p.runId))
    (.refused "ROLE_CONTEXT_ALREADY_BOUND_DIFFERENTLY")
  let _ ← p.assertContext bound (a.context p.runId).expected
  .ok bound

/-- `LiveAttemptBudget.reserve` -/
def reserveLive (a : ReserveArgs) : Body (AttemptReservation × BudgetStore) := do
  a.validate
  p.settings s
  let context ← p.assertContext s
    (expectedRequest a.observationId a.role a.requestSha256 a.schemaSha256)
  let t ← tables s
  match t.policy with
  | .monetaryInterfaceOnly => .error ⟨.refused "MONETARY_ADMISSION_BLOCKED", none⟩
  | .synthetic total perAttempt => do
    a.checkPrior (s.laneOf a.lane)
    s.checkRoleCap a.role
    s.haltIf (total < t.used + perAttempt.of a.role) "SYNTHETIC_LIABILITY_BUDGET_EXHAUSTED"
      .exceeded
    let r := a.reservation p.runId x
    let u ← s.insertAttempt r
    check (t.liabilities.all (·.attemptId ≠ r.attemptId) && t.leases.all fun l =>
        l.attemptId ≠ r.attemptId ∧ l.leaseId ≠ x.uuids 2)
      (.unavailable "BUDGET_STORE_OPERATION_FAILED")
    .ok (r, { u with live := some { t with
      liabilities := t.liabilities ++ [⟨r.attemptId, perAttempt.of a.role⟩]
      leases := t.leases ++ [{ attemptId := r.attemptId, leaseId := x.uuids 2, binding := context }] } })

/-- `LiveAttemptBudget.start` -/
def startLive (r : AttemptReservation) : Body BudgetStore := do
  p.settings s
  let _ ← p.assertContext s (expectedRequest r.observationId r.role r.requestSha256 r.schemaSha256)
  startRow s r

/-- The only attempt of a lane that is under way. -/
def inFlight? (lane : String × Role) : Option Attempt :=
  match (s.laneOf lane).filter (·.state = .inFlight) with
  | [row] => some row
  | _ => none

/-- `_admissible_lease` -/
def admissibleLease (c : RequestContext) : Body (LiveTables × SendLease) := do
  let context ← p.assertContext s c.expected
  match inFlight? s c.lane with
  | none => .error ⟨.refused "EXACTLY_ONE_STARTED_ATTEMPT_REQUIRED_FOR_SEND", none⟩
  | some row => do
    check (row.reservation.requestSha256 = c.requestSha256 ∧
      row.reservation.schemaSha256 = c.schemaSha256) (.refused "SEND_ATTEMPT_BINDING_MISMATCH")
    let t ← tables s
    check (match t.policy, Table.get? Liability.attemptId row.attemptId t.liabilities with
      | .synthetic total perAttempt, some liability =>
        liability.units = perAttempt.of c.role && t.used ≤ total
      | _, _ => false) (.refused "PERSISTED_LIABILITY_RESERVATION_REQUIRED")
    match t.lease? row.attemptId with
    | none => .error ⟨.refused "PERSISTED_SEND_LEASE_BINDING_REQUIRED", none⟩
    | some lease => do
      check (lease.binding = context) (.refused "PERSISTED_SEND_LEASE_BINDING_REQUIRED")
      check (lease.state = .available) (.refused "HTTP_SEND_LEASE_ALREADY_CONSUMED")
      .ok (t, lease)

/-- `assert_send_admissible` -/
def assertSendAdmissible (a : SendArgs) : Body Unit := do
  p.settings s
  let _ ← p.admissibleLease s (a.context p.runId)
  .ok ()

/-- `consume_send_lease` -/
def consumeSendLease (a : SendArgs) : Body (SendLeaseReceipt × BudgetStore) := do
  p.settings s
  let (t, lease) ← p.admissibleLease s (a.context p.runId)
  .ok (⟨lease.leaseId, lease.attemptId, a.context p.runId, x.now⟩,
    { s with live := some { t with
      leases := Table.update SendLease.attemptId lease.attemptId SendLease.consume t.leases } })

/-- `record_response_facts` -/
def recordResponseFacts (observationId : String) (role : Role) (requestSha256 : String)
    (facts : Json) : Body (ResponseFactsReceipt × BudgetStore) := do
  let safe ← responseFacts facts
  check (isHash requestSha256) (.valueError "INVALID_DOCUMENTARY_HASH")
  p.settings s
  let context ← p.assertContext s
    { observationId, role, agrees := fun c => c.requestSha256 = requestSha256 }
  match inFlight? s (observationId, role) with
  | none => .error ⟨.refused "EXACTLY_ONE_STARTED_ATTEMPT_REQUIRED_FOR_RESPONSE_FACTS", none⟩
  | some row => do
    check (row.reservation.requestSha256 = requestSha256)
      (.refused "RESPONSE_FACTS_REQUEST_BINDING_MISMATCH")
    let t ← tables s
    check ((t.lease? row.attemptId).any fun lease =>
        lease.state = .consumed && lease.binding = context)
      (.refused "CONSUMED_SEND_LEASE_REQUIRED_FOR_RESPONSE_FACTS")
    check (t.facts.all (·.attemptId ≠ row.attemptId)) (.refused "RESPONSE_FACTS_ALREADY_ACKNOWLEDGED")
    let document := canonical true safe
    .ok (⟨row.attemptId, p.runId, observationId, role, requestSha256, sha256Hex document, x.now⟩,
      { s with live := some { t with
        facts := t.facts ++ [⟨row.attemptId, document, sha256Hex document⟩] } })

end BudgetProcess

/-! ## Stores and their processes -/

/-- A method call on the budget. -/
inductive BudgetCall
  /-- Construct the object of a process, of either class. -/
  | attach (isLive : Bool) (runId : String)
  | beginObservation (observationId : String)
  | joinObservation (observationId fenceId : String)
  | assertActiveObservation (observationId : Option String)
  | closeSafeObservation (observationId summarySha256 : String)
  | reserve (a : ReserveArgs)
  | start (r : AttemptReservation)
  | finish (r : AttemptReservation) (outcome : AttemptOutcome) (metadata : Option Json)
  | stop (reason : String)
  | reserveMcp (observationId proposalSha256 : String)
  | admitMcp (observationId proposalSha256 : String)
  | finishMcp (observationId : String) (outcome : McpOutcome) (metadata : Option Json)
  | ensureRecoverable
  | bindRequestContext (origins : Origins) (a : SendArgs)
  | assertSendAdmissible (a : SendArgs)
  | consumeSendLease (a : SendArgs)
  | recordResponseFacts (observationId : String) (role : Role) (requestSha256 : String)
      (facts : Json)

/-- What a method returns. -/
inductive BudgetAnswer
  | none
  | capability (c : Capability)
  | reservation (r : AttemptReservation)
  | mcp (reservationId : String)
  | receipt (r : SendLeaseReceipt)
  | facts (r : ResponseFactsReceipt)

/-- A body without an answer. -/
def answerNone (body : Body BudgetStore) : Body (BudgetAnswer × BudgetStore) := do
  let t ← body
  .ok (.none, t)

/-- A body with an answer. -/
def answerWith {α : Type} (answer : α → BudgetAnswer) (body : Body (α × BudgetStore)) :
    Body (BudgetAnswer × BudgetStore) := do
  let (a, t) ← body
  .ok (answer a, t)

/-- A method that only `LiveAttemptBudget` has. -/
def BudgetProcess.onlyLive {α : Type} (p : BudgetProcess) (body : Body α) : Body α :=
  if p.isLive then body else .error ⟨.attributeError, none⟩

/-- The transaction of a method call. -/
def BudgetProcess.body (p : BudgetProcess) (x : Fresh) (s : BudgetStore) :
    BudgetCall → Body (BudgetAnswer × BudgetStore)
  | .attach .. => .error ⟨.attributeError, none⟩
  | .beginObservation o => answerWith .capability (p.beginObservation x s o)
  | .joinObservation o f => answerWith .capability (p.joinObservation s o f)
  | .assertActiveObservation o => do
    p.assertActiveObservation s o
    .ok (.none, s)
  | .closeSafeObservation o sha => answerNone (p.closeSafeObservation s o sha)
  | .reserve a =>
    answerWith .reservation (if p.isLive then p.reserveLive x s a else p.reserve x s a)
  | .start r => answerNone (if p.isLive then p.startLive s r else p.start s r)
  | .finish r outcome value => answerNone (p.finish s r outcome value)
  | .stop reason => answerNone (p.stop s reason)
  | .reserveMcp o sha => answerWith .mcp (p.reserveMcp x s o sha)
  | .admitMcp o sha => answerNone (p.admitMcp s o sha)
  | .finishMcp o outcome value => answerNone (p.finishMcp s o outcome value)
  | .ensureRecoverable => do
    p.ensureRecoverable s
    .ok (.none, s)
  | .bindRequestContext origins a => p.onlyLive (answerNone (p.bindRequestContext s origins a))
  | .assertSendAdmissible a => p.onlyLive (do
    p.assertSendAdmissible s a
    .ok (.none, s))
  | .consumeSendLease a => p.onlyLive (answerWith .receipt (p.consumeSendLease x s a))
  | .recordResponseFacts o role sha facts =>
    p.onlyLive (answerWith .facts (p.recordResponseFacts x s o role sha facts))

/-- The capability of a process once a call has returned. -/
def BudgetProcess.returned (p : BudgetProcess) (call : BudgetCall) (answer : BudgetAnswer) :
    BudgetProcess :=
  match call, answer with
  | .beginObservation _, .capability c => { p with active := some c }
  | .joinObservation .., .capability c => { p with active := some c }
  | .closeSafeObservation .., _ => { p with active := none }
  | _, _ => p

/-- `__init__`, of either class. -/
def BudgetStore.attach (s : BudgetStore) (isLive : Bool) (runId : String) :
    Except BudgetError BudgetProcess := do
  ensure (isIdentity runId) (.valueError "INVALID_RUN_ID")
  ensure (s.runId = runId) (.unavailable "BUDGET_CONTRACT_MISMATCH")
  ensure (!isLive || s.live.isSome) (.unavailable "LIVE_ADMISSION_SCHEMA_REQUIRED_NO_MIGRATION")
  pure {
    isLive, runId
    roleCaps := s.roleCaps
    maxObservations := s.maxObservations
    policyPin := if isLive then s.live.map LiveTables.policy else none }

/-- A store and the processes on it. -/
structure BudgetSystem where
  store : BudgetStore
  processes : ℕ → Option BudgetProcess := fun _ => none

/-- One method call of one process. -/
structure BudgetInput where
  process : ℕ
  call : BudgetCall
  commit : Commit
  fresh : Fresh

def BudgetSystem.setProcess (d : BudgetSystem) (i : ℕ) (p : BudgetProcess) : BudgetSystem :=
  { d with processes := Function.update d.processes i (some p) }

/-- The call of an attached process. -/
def BudgetSystem.call (d : BudgetSystem) (a : BudgetInput) (p : BudgetProcess) :
    BudgetSystem × Except BudgetError BudgetAnswer :=
  match transact (.unavailable "BUDGET_STORE_OPERATION_FAILED") (p.body a.fresh d.store a.call)
      a.commit d.store with
  | (.ok answer, t) =>
    ({ d with store := t }.setProcess a.process (p.returned a.call answer), .ok answer)
  | (.error e, t) => ({ d with store := t }, .error e)

/-- Any number of processes on one store. -/
def budgetMachine : Machine BudgetSystem BudgetInput (Except BudgetError BudgetAnswer) where
  step d a :=
    match a.call with
    | .attach isLive runId =>
      match d.store.attach isLive runId with
      | .ok p => (d.setProcess a.process p, .ok .none)
      | .error e => (d, .error e)
    | _ =>
      match d.processes a.process with
      | some p => d.call a p
      | none => (d, .error .attributeError)

/-- The store a run starts from. -/
inductive BudgetStore.Created : BudgetStore → Prop
  | base {runId caps maxObservations s} :
      BudgetStore.create runId caps maxObservations = .ok s → Created s
  | live {runId caps maxObservations policy s} :
      BudgetStore.createLive runId caps maxObservations policy = .ok s → Created s

end CivicGate.Harness
