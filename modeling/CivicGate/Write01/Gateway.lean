import CivicGate.Framework.Program
import CivicGate.Write01.Authority
import CivicGate.Write01.StoreCalls

/-!
# The write gateway

`evals/write01/gateway_v1.py`: the composition of one authority and one review store.  A call
reads the award, asks the authority, reserves the operation, consumes the binding, commits,
acknowledges, and confirms each answer of the store by reading it back.  One handler turns
whatever failed on the way into the response.

The store is shared.  Between two transactions of a call any other processes may act, so what a
call meets, its `GatewayWorld`, says for each of its visits to the store what the others did
before and what it meets there.
-/

namespace CivicGate.Write01

/-! ## Responses -/

/-- `transaction_outcome` -/
inductive TransactionOutcome
  | notDispatched
  | readOnly
  | commitResponseObserved
  | committed
  | unknown
  deriving DecidableEq

/-- `result_verification` -/
inductive ResultVerification
  | notExecuted
  | verified
  | unknown
  deriving DecidableEq

/-- `custody` of a response. -/
inductive ResponseCustody
  | notOpened
  | open
  | closed
  | unknown
  | readOnlyNoFence
  deriving DecidableEq

/-- `WriteResponseV1`, but for the constants of its gateway. -/
structure WriteResponseV1 where
  observationId : String
  tool : String
  originalRequest : String
  decision : Decision
  reasons : List String
  bindingIssued : Bool
  bindingConsumed : Bool
  binding : Option Json
  adapterEntries : ℕ
  transactionOutcome : TransactionOutcome
  resultVerification : ResultVerification
  custody : ResponseCustody
  result : Option Json
  evidenceSha256 : Option String
  deriving DecidableEq

/-- The response a call starts with. -/
def WriteResponseV1.initial (observationId tool originalRequest : String) : WriteResponseV1 where
  observationId
  tool
  originalRequest
  decision := .reviewRequired
  reasons := ["CUSTODY_UNAVAILABLE"]
  bindingIssued := false
  bindingConsumed := false
  binding := none
  adapterEntries := 0
  transactionOutcome := .notDispatched
  resultVerification := .notExecuted
  custody := .notOpened
  result := none
  evidenceSha256 := none

/-- `0.99` -/
def fixtureConfidence : PyFloat := ⟨['0', '.', '9', '9'], by decide +kernel⟩

lemma fixtureConfidence_bounds : 0 ≤ fixtureConfidence.value ∧ fixtureConfidence.value ≤ 1 := by
  decide +kernel

/-- The constant signal of the fixture. -/
def fixtureJudge : JudgeSignal where
  classification := .inScope
  confidence := fixtureConfidence
  rationale := "Synthetic permissive fixture"
  flags := [.none]
  available := true
  provider := "write01-synthetic-judge"
  confidence_ge := fixtureConfidence_bounds.1
  confidence_le := fixtureConfidence_bounds.2
  rationale_length := by decide
  flags_length := KSignal.default.signals_length
  provider_length := by decide

/-! ## What a call meets -/

/-- The stages of the audit. -/
inductive AuditStage
  | proposal
  | policy
  | bindingIssued
  | intentOpenAck
  | bindingConsumed
  | adapterEntry
  | commitObserved
  | completed
  | stopped
  deriving DecidableEq

/-- The visits of a call to the store. -/
inductive StoreVisit
  | facts
  | reserve
  | inspectOpen
  | attempt
  | mutate
  | inspectCommitted
  | snapshotAfter
  | acknowledge
  | inspectClosed
  | read
  deriving DecidableEq

/-- What a call meets outside the gateway. -/
structure GatewayWorld where
  /-- `uuid4().hex` -/
  uuid : String
  /-- `json.dumps` of a query that is no dictionary with text keys. -/
  printed : Except PyException Unit
  /-- `str(query.get("award_id", ""))` where the query is no such dictionary, or the entry is
  no text. -/
  awardText : Except PyException String
  /-- Writing this stage raises an `OSError`. -/
  auditFails : AuditStage → Bool
  evaluation : WriteWorld
  evaluationClock : ClockReading
  consumption : WriteWorld
  consumptionClock : ClockReading
  store : StoreVisit → StoreWorld
  /-- What other processes do before this visit. -/
  others : StoreVisit → List StoreInput
  /-- `type(exc).__name__` of an exception without a code. -/
  className : String

/-- `"WRITE01_OBS_" + uuid4().hex` -/
def GatewayWorld.observationId (w : GatewayWorld) : String := "WRITE01_OBS_" ++ w.uuid

/-- What a step of a call raises. -/
inductive GatewayRaise
  | store (e : StoreRaise)
  | authority (e : WriteError)
  /-- `StoreError("OPEN_EVIDENCE_NOT_CONFIRMED", uncertain=True)` -/
  | openEvidenceNotConfirmed
  /-- `StoreError("POST_COMMIT_EVIDENCE_MISMATCH", uncertain=True)` -/
  | postCommitEvidenceMismatch
  /-- `StoreError("CLOSE_ACK_NOT_CONFIRMED", uncertain=True)` -/
  | closeAckNotConfirmed
  /-- `ExecutionBoundaryError("WRITE01_DISPATCH_TOOL_MISMATCH")` -/
  | dispatchToolMismatch
  | osError
  | python (e : PyException)
  deriving DecidableEq

/-- `exc.code` of an exception that has one. -/
def GatewayRaise.code? : GatewayRaise → Option String
  | .store (.store e) => some e.code.text
  | .authority (.boundary code) => some code.text
  | .openEvidenceNotConfirmed => some "OPEN_EVIDENCE_NOT_CONFIRMED"
  | .postCommitEvidenceMismatch => some "POST_COMMIT_EVIDENCE_MISMATCH"
  | .closeAckNotConfirmed => some "CLOSE_ACK_NOT_CONFIRMED"
  | .dispatchToolMismatch => some "WRITE01_DISPATCH_TOOL_MISMATCH"
  | _ => none

/-- `except (ValueError, KeyError, TypeError)` -/
def isHandledException : PyException → Bool
  | .valueError | .keyError | .typeError => true
  | _ => false

/-- The handler of `_call` lists the class. -/
def GatewayRaise.isHandled : GatewayRaise → Bool
  | .store (.store _) => true
  | .store .sqlite => false
  | .store (.other e) | .authority (.other e) | .python e => isHandledException e
  | _ => true

/-! ## The gateway -/

/-- A constructed gateway; the authority holds its owner, store and approvals. -/
structure WriteGateway where
  store : ReviewStore
  authority : WriteAuthority
  runId : String
  store_owned : authority.store = store.storeId

/-- The store, and what changes in the gateway.  The audit keeps the calls its stages are of. -/
structure GatewayState where
  store : StoreState
  issuance : Issuance
  blocked : Bool
  audit : List (String × AuditStage)

/-- A call under way, with its two flags. -/
structure GatewayRun extends GatewayState where
  response : WriteResponseV1
  intentOpen : Bool
  closeAttempted : Bool

abbrev GatewayOp (α : Type) := Program GatewayRun GatewayRaise α

section

variable {Model : Type} (g : WriteGateway) (rules : TextRules Model) (w : GatewayWorld)

/-- The response is changed. -/
def answer (change : WriteResponseV1 → WriteResponseV1) : GatewayOp Unit :=
  modify fun r => { r with response := change r.response }

/-- `_emit(stage, …)` -/
def emit (stage : AuditStage) : GatewayOp Unit := fun r =>
  if w.auditFails stage then (.error .osError, { r with blocked := true })
  else (.ok (), { r with audit := r.audit ++ [(w.observationId, stage)] })

/-! ### Visits to the store -/

/-- The store as a visit finds it. -/
def WriteGateway.visited (visit : StoreVisit) (st : StoreState) : StoreState :=
  (Write01.store g.store).run st (w.others visit)

/-- A reader of the store. -/
def WriteGateway.consult {α : Type} (visit : StoreVisit)
    (reader : StoreWorld → Database → Except StoreRaise α) : GatewayOp α := fun r =>
  let st := g.visited w visit r.store
  (Except.reraise (reader (w.store visit) st.db) .store, { r with store := st })

/-- `self._store.inspect(obs)` -/
def WriteGateway.inspect (visit : StoreVisit) : GatewayOp (Option IntentRow) :=
  g.consult w visit fun sw => g.store.inspect sw w.observationId

/-- `self._store.snapshot(award_id)` -/
def WriteGateway.snapshot (visit : StoreVisit) (awardId : String) : GatewayOp Json :=
  g.consult w visit fun sw => g.store.snapshot sw awardId

/-- `self._store.reserve(obs, operation, binding_sha256)` -/
def WriteGateway.reserve (operation : Json) (bindingSha256 : String) : GatewayOp OpenAck := fun r =>
  let st := g.visited w .reserve r.store
  let (x, d) := g.store.reserve (w.store .reserve) w.observationId (.ok operation) bindingSha256
    st.db
  (Except.reraise x .store, { r with store := { st with db := d } })

/-- `self._store.commit(obs, binding_sha256)` up to the end of its first transaction. -/
def WriteGateway.attempt (bindingSha256 : String) : GatewayOp PendingCommit := fun r =>
  let st := g.visited w .attempt r.store
  match g.store.attempt (w.store .attempt) w.observationId bindingSha256 st.db with
  | (.ok p, d) => (.ok p, { r with store := ⟨d, p :: st.pending⟩ })
  | (.error e, d) => (.error (.store e), { r with store := { st with db := d } })

/-- The call of `commit` from there on. -/
def WriteGateway.mutate (p : PendingCommit) : GatewayOp CommitResponse := fun r =>
  let st := g.visited w .mutate r.store
  let (x, d) := g.store.mutate (w.store .mutate) p st.db
  (Except.reraise x .store,
    { r with store := ⟨d, st.pending.filter (·.operationId ≠ p.operationId)⟩ })

/-- `self._store.acknowledge(obs, receipt_sha256)` -/
def WriteGateway.acknowledge (receiptSha256 : String) : GatewayOp CloseAck := fun r =>
  let st := g.visited w .acknowledge r.store
  let (x, d) := g.store.acknowledge (w.store .acknowledge) w.observationId receiptSha256 st.db
  (Except.reraise x .store, { r with store := { st with db := d } })

/-! ### The authority -/

/-- The arguments of the evaluation. -/
def GatewayWorld.evaluateCall (originalRequest tool : String) (query : Arguments)
    (facts : StateFacts) : EvaluateCall where
  requestId := some w.observationId
  originalRequest := some originalRequest
  tool := some tool
  query
  state := .facts facts
  judge := .signal fixtureJudge
  clock := w.evaluationClock

/-- `self._authority.evaluate(obs, original_request, tool, query, facts, judge)` -/
def WriteGateway.evaluate (originalRequest tool : String) (query : Arguments)
    (facts : StateFacts) : GatewayOp PolicyEvaluation := fun r =>
  let (issuance, x) := g.authority.evaluate rules w.evaluation r.issuance
    (w.evaluateCall originalRequest tool query facts)
  (Except.reraise x .authority, { r with issuance })

/-- The arguments a loaded value is. -/
def Arguments.ofJson : Json → Arguments
  | .dict entries => .dict entries
  | _ => .notDict

/-- The arguments of the consumption. -/
def GatewayWorld.consumeCall (identity : ℕ) (envelope : AuthorityEnvelope)
    (originalRequest tool : String) (effective : Json) : ConsumeCall where
  envelope := .envelope identity envelope
  requestId := some w.observationId
  originalRequest := some originalRequest
  tool := some tool
  query := Arguments.ofJson effective
  clock := w.consumptionClock

/-- `self._authority.consume(envelope, obs, original_request, tool, effective)` -/
def WriteGateway.consume (identity : ℕ) (envelope : AuthorityEnvelope)
    (originalRequest tool : String) (effective : Json) : GatewayOp ExecutionBinding := fun r =>
  let (issuance, x) := g.authority.consume w.consumption r.issuance
    (w.consumeCall identity envelope originalRequest tool effective)
  (Except.reraise x .authority, { r with issuance })

/-- `self._authority.approval_reference(envelope)` -/
def approvalReference (identity : ℕ) : GatewayOp String := fun r =>
  (Except.reraise (r.issuance.approvalReference identity) .authority, r)

/-! ### Evidence -/

/-- The operation a call makes durable. -/
def WriteGateway.operation (originalRequest tool approvalRef : String) (effective binding : Json) :
    Json :=
  .dict [("original_request", .str originalRequest), ("query", effective),
    ("approval_ref", .str approvalRef), ("owner_id", .str g.authority.owner),
    ("dataset_sha256", .str datasetSha256), ("store_id", .str g.store.storeId),
    ("run_id", .str g.runId), ("observation_id", .str w.observationId), ("tool", .str tool),
    ("binding", binding)]

/-- The acknowledgement of `reserve` and the intent read back are as they have to be. -/
def GatewayWorld.openConfirmed (operation : Json) (bindingSha256 : String) (opened : OpenAck)
    (durable : Option IntentRow) : Bool :=
  opened = ⟨w.observationId, digest operation, bindingSha256⟩ &&
    match durable with
    | none => false
    | some row => row.custody = .open && row.operationJson = canonical false operation &&
        row.bindingSha256 = bindingSha256 && row.receiptJson = none

/-- The receipt of `commit` and the intent read back are as they have to be. -/
def receiptConfirmed (operation : Json) (bindingSha256 : String) (receipt : CommitResponse)
    (durable : Option IntentRow) : Except GatewayRaise Bool :=
  match durable with
  | none => return false
  | some row =>
    if digest receipt.receipt ≠ receipt.receiptSha256 ∨
        row.receiptSha256 ≠ some receipt.receiptSha256 then return false
    else do
      let raw ← Except.reraise (demand row.receiptJson (.other .typeError)) .store
      let found ← Except.reraise (demand (loads raw) (.other .valueError)) .store
      if !found.pyEq receipt.receipt then return false
      let committed ← Except.reraise (item receipt.receipt "operation") .store
      let bound ← Except.reraise (item receipt.receipt "binding_sha256") .store
      return committed.pyEq operation && bound.pyEq (.str bindingSha256)

/-- The acknowledgement of `acknowledge` and the intent read back are as they have to be. -/
def GatewayWorld.closeConfirmed (operation : Json) (bindingSha256 : String)
    (receipt : CommitResponse) (ack : CloseAck) (closed : Option IntentRow) : Bool :=
  ack = ⟨w.observationId, receipt.receiptSha256⟩ &&
    match closed with
    | none => false
    | some row => row.custody = .closed && row.operationId = w.observationId &&
        row.receiptSha256 = some receipt.receiptSha256 &&
        row.receiptJson = some (canonical false receipt.receipt) &&
        row.operationJson = canonical false operation && row.bindingSha256 = bindingSha256

/-- The result of a write. -/
def writeResult (receipt : CommitResponse) (ack : CloseAck) : Json :=
  .dict [("receipt", receipt.receipt), ("receipt_sha256", .str receipt.receiptSha256),
    ("custody_at_commit", .str "OPEN"),
    ("close_ack", .dict [("operation_id", .str ack.operationId),
      ("receipt_sha256", .str ack.receiptSha256), ("custody", .str "CLOSED"),
      ("human_acceptance", .str "NOT_ESTABLISHED")])]

/-- `effective["award_id"]`, as a key of `snapshot`; no other value is an award. -/
def awardOf (effective : Json) : Except GatewayRaise String :=
  match effective.get? "award_id" with
  | none => .error (.python .keyError)
  | some (.str awardId) => .ok awardId
  | some _ => .error (.store (certain .unknownSyntheticAward))

/-! ### `_call` -/

/-- The proposal is written, and the award's facts read. -/
def WriteGateway.readFacts (query : Arguments) : GatewayOp StateFacts := do
  match query with
  | .unprintable e => throw (.python e)
  | .notDict => Program.lift (Except.reraise w.printed .python)
  | .dict _ => pure ()
  emit w .proposal
  let awardId ← match query with
    | .dict entries =>
      match (Json.dict entries).get? "award_id" with
      | none => pure ""
      | some (.str awardId) => pure awardId
      | some _ => Program.lift (Except.reraise w.awardText .python)
    | _ => Program.lift (Except.reraise w.awardText .python)
  let state ← g.snapshot w .facts awardId
  match state.getStr? "status", getVersion? state "version" with
  | some status, some version => return ⟨true, status, version⟩
  | _, _ => throw (.python .valueError)

/-- The first handler: an unknown award has facts, and another failure is the answer. -/
def WriteGateway.facts (query : Arguments) : GatewayOp (Option StateFacts) :=
  tryCatch (do return some (← g.readFacts w query)) fun e =>
    match e with
    | .store (.store err) =>
      if err.code = .unknownSyntheticAward then
        return some ⟨false, "UNKNOWN", ⟨0, by decide⟩⟩
      else do
        modify fun r => { r with blocked := true }
        answer fun x => { x with reasons := [err.code.text], custody := .unknown }
        return none
    | .osError => do
      answer fun x => { x with custody := .unknown }
      return none
    | e => throw e

/-- The intent is reserved and confirmed. -/
def WriteGateway.openIntent (operation : Json) (bindingSha256 : String) : GatewayOp Unit := do
  let opened ← g.reserve w operation bindingSha256
  let durable ← g.inspect w .inspectOpen
  if !w.openConfirmed operation bindingSha256 opened durable then
    throw .openEvidenceNotConfirmed
  modify fun r => { r with intentOpen := true }
  answer fun x => { x with custody := .open }
  emit w .intentOpenAck

/-- The operation is committed and confirmed. -/
def WriteGateway.commitIntent (operation effective : Json) (bindingSha256 : String) :
    GatewayOp CommitResponse := do
  let p ← g.attempt w bindingSha256
  let receipt ← g.mutate w p
  answer fun x => { x with transactionOutcome := .commitResponseObserved }
  emit w .commitObserved
  let durable ← g.inspect w .inspectCommitted
  let confirmed ← Program.lift (receiptConfirmed operation bindingSha256 receipt durable)
  if !confirmed then throw .postCommitEvidenceMismatch
  let awardId ← Program.lift (awardOf effective)
  let state ← g.snapshot w .snapshotAfter awardId
  let after ← Program.lift (Except.reraise (item receipt.receipt "after") .store)
  if !state.pyEq after then throw .postCommitEvidenceMismatch
  answer fun x => { x with transactionOutcome := .committed }
  return receipt

/-- The custody is closed and confirmed. -/
def WriteGateway.closeIntent (operation : Json) (bindingSha256 : String)
    (receipt : CommitResponse) : GatewayOp Unit := do
  modify fun r => { r with closeAttempted := true }
  let ack ← g.acknowledge w receipt.receiptSha256
  let closed ← g.inspect w .inspectClosed
  if !w.closeConfirmed operation bindingSha256 receipt ack closed then
    throw .closeAckNotConfirmed
  answer fun x => { x with custody := .closed, result := some (writeResult receipt ack) }

/-- The effect of the tool. -/
def WriteGateway.adapt (tool : String) (operation effective : Json) (bindingSha256 : String) :
    GatewayOp Unit := do
  if tool = Tool.write.text then
    let receipt ← g.commitIntent w operation effective bindingSha256
    g.closeIntent w operation bindingSha256 receipt
  else if tool = Tool.read.text then
    let awardId ← Program.lift (awardOf effective)
    let state ← g.snapshot w .read awardId
    answer fun x => { x with
      result := some state, transactionOutcome := .readOnly, custody := .readOnlyNoFence }
  else throw .dispatchToolMismatch

/-- What follows an issued envelope. -/
def WriteGateway.dispatch (originalRequest tool : String) (identity : ℕ)
    (envelope : AuthorityEnvelope) : GatewayOp Unit := do
  emit w .bindingIssued
  let effective ← Program.lift (Except.reraise
    (demand (loads envelope.binding.argumentsJson) (.other .valueError)) .store)
  let approvalRef ← approvalReference identity
  let operation := g.operation w originalRequest tool approvalRef effective
    envelope.binding.auditRecord
  if tool = Tool.write.text then g.openIntent w operation envelope.binding.sha256
  let binding ← g.consume w identity envelope originalRequest tool effective
  answer fun x => { x with bindingConsumed := true }
  emit w .bindingConsumed
  emit w .adapterEntry
  answer fun x => { x with adapterEntries := 1 }
  g.adapt w tool operation effective binding.sha256
  answer fun x => { x with
    resultVerification := .verified, evidenceSha256 := x.result.map digest }
  emit w .completed

/-- The second `try` block. -/
def WriteGateway.decideAndDispatch (originalRequest tool : String) (query : Arguments)
    (facts : StateFacts) : GatewayOp Unit := do
  let evaluation ← g.evaluate rules w originalRequest tool query facts
  answer fun x => { x with
    decision := evaluation.policy.decision, reasons := evaluation.policy.reasons }
  match evaluation.envelope with
  | none => do
    emit w .policy
    emit w .completed
  | some (identity, envelope) => do
    answer fun x => { x with
      bindingIssued := true, binding := some envelope.binding.auditRecord }
    emit w .policy
    g.dispatch w originalRequest tool identity envelope

/-- The response the handler leaves. -/
def WriteResponseV1.stopped (x : WriteResponseV1) (e : GatewayRaise)
    (intentOpen closeAttempted : Bool) (className : String) : WriteResponseV1 :=
  { x with
    reasons := x.reasons ++ [e.code?.getD className]
    resultVerification := .unknown
    result := none
    evidenceSha256 := none
    transactionOutcome := if x.transactionOutcome = .committed then .committed
      else if x.adapterEntries = 0 then .notDispatched else .unknown
    custody := if intentOpen && !closeAttempted && x.custody ≠ .closed &&
      e.code? ≠ some StoreCode.custodyAckUnknown.text then .open else .unknown }

/-- The handler of the second `try` block. -/
def stop (e : GatewayRaise) : GatewayOp Unit := do
  if !e.isHandled then throw e
  modify fun r => { r with
    blocked := true
    response := r.response.stopped e r.intentOpen r.closeAttempted w.className }
  tryCatch (emit w .stopped) fun _ => answer fun x => { x with custody := .unknown }

/-- `_call` of a gateway that is not stopped. -/
def WriteGateway.body (originalRequest tool : String) (query : Arguments) : GatewayOp Unit := do
  match ← g.facts w query with
  | none => pure ()
  | some facts =>
    tryCatch (g.decideAndDispatch rules w originalRequest tool query facts) (stop w)

/-- A call under way at its start. -/
def GatewayState.start (st : GatewayState) (w : GatewayWorld) (originalRequest tool : String) :
    GatewayRun :=
  { st with
    response := .initial w.observationId tool originalRequest
    intentOpen := false
    closeAttempted := false }

/-- `call(original_request, tool, query)` -/
def WriteGateway.call (st : GatewayState) (originalRequest tool : String) (query : Arguments) :
    Except GatewayRaise WriteResponseV1 × GatewayState :=
  if st.blocked then
    (.ok { WriteResponseV1.initial w.observationId tool originalRequest with
      reasons := ["OWNER_STOPPED_NO_AUTOMATIC_RECOVERY"], custody := .unknown }, st)
  else
    match (g.body rules w originalRequest tool query).run (st.start w originalRequest tool) with
    | (.ok (), r) => (.ok r.response, r.toGatewayState)
    | (.error e, r) => (.error e, r.toGatewayState)

end

/-! ## Runs -/

/-- A call of the gateway, or a transaction of another process. -/
inductive GatewayInput
  | call (w : GatewayWorld) (originalRequest tool : String) (query : Arguments)
  | other (a : StoreInput)

/-- What the caller gets; nothing of what others do. -/
abbrev GatewayOutput := Option (Except GatewayRaise WriteResponseV1)

/-- One gateway and any number of other processes on a store. -/
def WriteGateway.machine {Model : Type} (g : WriteGateway) (rules : TextRules Model) :
    Machine GatewayState GatewayInput GatewayOutput where
  step st
    | .call w originalRequest tool query =>
      let (x, st) := g.call rules w st originalRequest tool query
      (st, some x)
    | .other a => ({ st with store := (Write01.store g.store).next st.store a }, none)

/-- A gateway as constructed, on a store no process has used. -/
def WriteGateway.initial (g : WriteGateway) : GatewayState :=
  ⟨g.store.initial, .initial, false, []⟩

end CivicGate.Write01
