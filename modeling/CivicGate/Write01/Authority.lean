import CivicGate.Framework.Machine
import CivicGate.Write01.Contract

/-!
# The write authority

`evals/write01/authority_v1.py`: the deterministic authority of the write experiment.  The host
constructs it with the exact approvals it gives; `evaluate` spends one of them to issue an
envelope, and `consume` gives the envelope's binding back once.

Approvals have distinct references, so they are distinct objects, and `id(approval)` is the
approval's place in the tuple.  Envelopes are named as in the execution boundary: by the number
of envelopes the authority created before.

An approval is frozen, but its fields can be replaced behind Python's back.  What a call finds
in it, the schemas of the query models and the clock reading are part of the call.
-/

namespace CivicGate.Write01

/-! ## Errors -/

/-- The codes the authority raises. -/
inductive WriteCode
  | requestInvalid
  | requestReused
  | stateFactsRequired
  | schemaDrift
  | approvalDrift
  | judgeSignalInvalid
  | issuanceCapacityExceeded
  | timeInvalid
  | envelopeNotOwned
  | envelopeNotIssued
  | envelopeConsumedOrForeign
  | envelopeExpiredOrClockInvalid
  | bindingMismatch
  deriving DecidableEq

/-- The text of a code. -/
def WriteCode.text : WriteCode → String
  | .requestInvalid => "WRITE01_REQUEST_INVALID"
  | .requestReused => "WRITE01_REQUEST_REUSED"
  | .stateFactsRequired => "WRITE01_STATE_FACTS_REQUIRED"
  | .schemaDrift => "WRITE01_SCHEMA_DRIFT"
  | .approvalDrift => "WRITE01_APPROVAL_DRIFT"
  | .judgeSignalInvalid => "WRITE01_JUDGE_SIGNAL_INVALID"
  | .issuanceCapacityExceeded => "WRITE01_ISSUANCE_CAPACITY_EXCEEDED"
  | .timeInvalid => "WRITE01_TIME_INVALID"
  | .envelopeNotOwned => "WRITE01_ENVELOPE_NOT_OWNED"
  | .envelopeNotIssued => "WRITE01_ENVELOPE_NOT_ISSUED"
  | .envelopeConsumedOrForeign => "WRITE01_ENVELOPE_CONSUMED_OR_FOREIGN"
  | .envelopeExpiredOrClockInvalid => "WRITE01_ENVELOPE_EXPIRED_OR_CLOCK_INVALID"
  | .bindingMismatch => "WRITE01_BINDING_MISMATCH"

/-- What the authority raises: an `ExecutionBoundaryError`, which is a `ValueError`, or what
went through it. -/
inductive WriteError
  | boundary (code : WriteCode)
  | other (e : PyException)
  deriving DecidableEq

/-- The class a handler sees. -/
def WriteError.exception : WriteError → PyException
  | .boundary _ => .valueError
  | .other e => e

def policyVersion : String := "civicgate-write01-synthetic-v1"
def maxApprovals : ℕ := 128

/-! ## Records -/

/-- `HostApproval`: what the fields of one hold, checked or not. -/
structure HostApproval where
  originalRequest : String
  tool : String
  argumentsJson : String
  ownerId : String
  storeId : String
  reference : String
  approved : Bool
  datasetSha256 : String
  deriving DecidableEq

/-- `HostApproval.__post_init__` -/
def HostApproval.check (a : HostApproval) : Except PyException Unit := do
  ensure (isText a.originalRequest 4000 && isText a.ownerId 200 && isText a.storeId 4000 &&
    isText a.reference 200 && a.datasetSha256 = Write01.datasetSha256 &&
    a.argumentsJson.utf8ByteSize ≤ 16000) .valueError
  let query ← normalizeQuery (some a.tool) (Arguments.ofText a.argumentsJson)
  ensure (query.text = a.argumentsJson) .valueError

/-- `HostApproval.for_operation`, before the check of the constructor. -/
def HostApproval.forOperation (originalRequest tool : String) (query : Arguments)
    (ownerId storeId reference : String) (approved : Bool) : Except PyException HostApproval := do
  let query ← normalizeQuery (some tool) query
  return {
    originalRequest, tool, argumentsJson := query.text, ownerId, storeId, reference, approved,
    datasetSha256 := Write01.datasetSha256 }

/-- `asdict(approval)` -/
def HostApproval.toJson (a : HostApproval) : Json :=
  .dict [("approved", .bool a.approved), ("arguments_json", .str a.argumentsJson),
    ("dataset_sha256", .str a.datasetSha256), ("original_request", .str a.originalRequest),
    ("owner_id", .str a.ownerId), ("reference", .str a.reference), ("store_id", .str a.storeId),
    ("tool", .str a.tool)]

/-- `StateFacts` that pass their check. -/
structure StateFacts where
  awardExists : Bool
  status : String
  version : Version
  deriving DecidableEq

/-- `asdict(state)` -/
def StateFacts.toJson (s : StateFacts) : Json :=
  .dict [("award_exists", .bool s.awardExists), ("status", .str s.status),
    ("version", .int s.version)]

/-- `judge.model_dump(mode="json")` -/
def judgeJson (j : JudgeSignal) : Json :=
  .dict [("available", .bool j.available), ("classification", .str j.classification.text),
    ("confidence", .float j.confidence), ("flags", .list (j.flags.map fun f => .str f.text)),
    ("provider", .str j.provider), ("rationale", .str j.rationale)]

/-- A retained envelope, with what was noted when it was issued. -/
structure Issued where
  identity : ℕ
  envelope : AuthorityEnvelope
  serialized : String
  originalRequest : String
  contextJson : String
  approvalReference : String
  issuedAt : PyNum
  expiresAt : PyNum
  deriving DecidableEq

/-! ## The authority -/

/-- A constructed authority: what `__init__` fixed. -/
structure WriteAuthority where
  owner : String
  store : String
  approvals : List HostApproval
  schemas : Tool → String
  maxAge : PyNum
  approvals_length : approvals.length ≤ maxApprovals
  approvals_valid : ∀ a ∈ approvals, a.check = .ok ()
  approvals_owned : ∀ a ∈ approvals, a.ownerId = owner ∧ a.storeId = store
  references_nodup : (approvals.map (·.reference)).Nodup
  maxAge_pos : 0 < maxAge.value

/-- What changes in an authority: the approvals spent, by their places, the requests of the
envelopes issued, the envelopes retained, and how many were created. -/
structure Issuance where
  spent : List ℕ
  requestIds : List String
  issued : List Issued
  created : ℕ
  deriving DecidableEq

/-- An authority as constructed. -/
def Issuance.initial : Issuance := ⟨[], [], [], 0⟩

/-- What a call finds outside the authority's own fields. -/
structure WriteWorld where
  /-- `REGISTRY[tool].model_json_schema()` -/
  jsonSchema : Tool → Except PyException Json
  /-- The fields of the approval at a place; an error if `json.dumps` raises on them. -/
  approval : ℕ → Except PyException HostApproval

/-- `digest(REGISTRY[tool].model_json_schema())` -/
def WriteWorld.schema (w : WriteWorld) (tool : Tool) : Except PyException String := do
  return digest (← w.jsonSchema tool)

/-- `WriteAuthority.__init__`; a lifetime of `none` is a value of another type or not finite.
What the checks refuse, they refuse with a `ValueError`. -/
def WriteAuthority.create (w : WriteWorld) (owner store : String) (approvals : List HostApproval)
    (maxAge : Option PyNum) : Except PyException WriteAuthority := do
  match maxAge with
  | none => throw .valueError
  | some age =>
    if h : isText owner 200 = true ∧ isText store 4000 = true ∧
        approvals.length ≤ maxApprovals ∧ 0 < age.value ∧ (∀ a ∈ approvals, a.check = .ok ()) ∧
        (∀ a ∈ approvals, a.ownerId = owner ∧ a.storeId = store) ∧
        (approvals.map (·.reference)).Nodup then
      let writeSchema ← w.schema .write
      let readSchema ← w.schema .read
      return {
        owner, store, approvals, maxAge := age, approvals_length := h.2.2.1,
        approvals_valid := h.2.2.2.2.1, approvals_owned := h.2.2.2.2.2.1,
        references_nodup := h.2.2.2.2.2.2, maxAge_pos := h.2.2.2.1,
        schemas := fun | .write => writeSchema | .read => readSchema }
    else throw .valueError

/-- `_context()`, before it is printed. -/
def WriteAuthority.context (a : WriteAuthority) : Json :=
  .dict [("contract", .str contractVersion), ("dataset", .str datasetSha256),
    ("owner", .str a.owner), ("store", .str a.store)]

/-- `_context()` -/
def WriteAuthority.contextJson (a : WriteAuthority) : String := canonical false a.context

/-- `_now()`: as the execution boundary reads its clock, under another code. -/
def now (clock : ClockReading) : Except WriteError PyNum :=
  Except.reraise clock.now fun
    | .boundary _ => .boundary .timeInvalid
    | .other e => .other e

/-- `now + self._max_age`, checked to be finite. -/
def WriteAuthority.expiry (a : WriteAuthority) (now : PyNum) : Except WriteError PyNum :=
  match now.add a.maxAge with
  | none => throw (.boundary .timeInvalid)
  | some expires => do
    ensure (expires.toFloat ≠ none) (.other .overflowError)
    return expires

/-- `_query(tool, query)`: the query stands for its text. -/
def WriteAuthority.query (a : WriteAuthority) (w : WriteWorld) (tool : Option String)
    (query : Arguments) : Except WriteError (Query × String) := do
  let normalized ← Except.reraise (normalizeQuery tool query) .other
  let schema ← Except.reraise (w.schema normalized.tool) .other
  ensure (schema = a.schemas normalized.tool) (.boundary .schemaDrift)
  return (normalized, schema)

/-- The loop of `_approval` from the place `i` on: every approval up to the one that matches is
compared with the text noted of it. -/
def matching (w : WriteWorld) (spent : List ℕ) (request tool arguments : String) :
    ℕ → List HostApproval → Except WriteError (Option (ℕ × HostApproval))
  | _, [] => return none
  | i, noted :: rest => do
    let found ← Except.reraise (w.approval i) .other
    ensure (canonical false found.toJson = canonical false noted.toJson)
      (.boundary .approvalDrift)
    if found.approved ∧ i ∉ spent ∧ found.originalRequest = request ∧ found.tool = tool ∧
        found.argumentsJson = arguments then
      return some (i, found)
    else matching w spent request tool arguments (i + 1) rest

/-- `_approval(request, tool, arguments)` -/
def WriteAuthority.approval (a : WriteAuthority) (w : WriteWorld) (spent : List ℕ)
    (request tool arguments : String) : Except WriteError (Option (ℕ × HostApproval)) :=
  matching w spent request tool arguments 0 a.approvals

/-! ## Evaluation -/

/-- A value passed as `state`. -/
inductive StateArgument
  | notFacts
  /-- `StateFacts` whose fields were replaced by values their check refuses. -/
  | invalid
  | facts (s : StateFacts)

/-- A value passed as `judge`. -/
inductive JudgeArgument
  | none
  | notSignal
  | signal (j : JudgeSignal)

/-- The arguments of `evaluate`; `none` is a value that is no string. -/
structure EvaluateCall where
  requestId : Option String
  originalRequest : Option String
  tool : Option String
  query : Arguments
  state : StateArgument
  judge : JudgeArgument
  clock : ClockReading

/-- The value as a text the check lets through. -/
def requireText (value : Option String) (maximum : ℕ) : Except WriteError String :=
  match value with
  | some text => do
    ensure (isText text maximum) (.boundary .requestInvalid)
    return text
  | none => throw (.boundary .requestInvalid)

/-- The state facts, checked again. -/
def StateArgument.require : StateArgument → Except WriteError StateFacts
  | .notFacts => throw (.boundary .stateFactsRequired)
  | .invalid => throw (.other .valueError)
  | .facts s => return s

/-- What `_query` gave, with the denial of arguments it refuses. -/
def WriteAuthority.examine (a : WriteAuthority) (w : WriteWorld) (tool : Option String)
    (query : Arguments) : Except WriteError (List String × Option (Query × String)) :=
  match registered tool with
  | none => return (["WRITE01_UNKNOWN_TOOL"], none)
  | some _ =>
    match a.query w tool query with
    | .ok found => return ([], some found)
    | .error e =>
      if e.exception = .valueError ∨ e.exception = .typeError ∨ e.exception = .overflowError then
        return (["WRITE01_INVALID_ARGUMENTS"], none)
      else throw e

/-- The denials the state and the query give. -/
def stateDenials (s : StateFacts) (query : Option (Query × String)) : List String :=
  reasonIf (!s.awardExists) "WRITE01_UNKNOWN_SYNTHETIC_AWARD" ++
  reasonIf (s.status ∉ ["UNREVIEWED", "PENDING_REVIEW"]) "WRITE01_STATE_INVALID" ++
  match query with
  | some (.write q, _) =>
    reasonIf (q.proposedStatus.1 ≠ "PENDING_REVIEW" || s.status ≠ "UNREVIEWED")
      "WRITE01_TRANSITION_NOT_ALLOWED" ++
    reasonIf (q.expectedVersion ≠ s.version) "WRITE01_EXPECTED_VERSION_MISMATCH"
  | _ => []

/-- The reviews the advisory judge gives. -/
def JudgeArgument.reviews : JudgeArgument → Except WriteError (List String)
  | .none => return []
  | .notSignal => throw (.boundary .judgeSignalInvalid)
  | .signal j => return reasonIf (!j.available || j.classification ≠ .inScope ||
      j.flags.any (· ≠ .none)) "WRITE01_ADVISORY_REVIEW_REQUIRED"

/-- `judge.model_dump(mode="json")`, or `None`. -/
def JudgeArgument.toJson : JudgeArgument → Json
  | .signal j => judgeJson j
  | _ => .null

/-- The facts a permission is bound to. -/
def policyFacts (originalRequest : String) (query : Query) (s : StateFacts)
    (approval : HostApproval) (judge : JudgeArgument) : Json :=
  .dict [("advisory_judge", judge.toJson), ("approval", approval.toJson),
    ("arguments_json", .str query.text), ("original_request", .str originalRequest),
    ("state", s.toJson), ("tool", .str query.tool.text)]

/-- The policy result of a permission. -/
def permit : PolicyResult := ⟨.permit, ["WRITE01_EXACT_HOST_APPROVED_SCOPE"]⟩

/-- The binding of a permission.  `json.loads(arguments)` is the query (`Query.loads_text`). -/
def WriteAuthority.binding (a : WriteAuthority) (requestId : String) (query : Query)
    (schema : String) (facts : Json) : ExecutionBinding :=
  { requestId
    tool := query.tool.text
    argumentsJson := query.text
    argumentsSha256 := digest query.toJson
    schemaSha256 := schema
    operationScope := query.tool.scope
    policyDecision := .permit
    policySha256 := digest permit.toJson
    policyFactsSha256 := digest facts
    policyContextSha256 := digest a.context }

/-- The envelope of a permission. -/
def newEnvelope (binding : ExecutionBinding) (now expires : PyNum) : AuthorityEnvelope :=
  { binding, decision := .permit, reasons := permit.reasons, policyVersion, issuedAt := now,
    expiresAt := expires }

/-- What a permission changes: the approval at a place is spent, and the envelope retained. -/
structure Grant where
  place : ℕ
  retained : Issued

/-- `_evaluate`, up to its changes. -/
def WriteAuthority.decide {Model : Type} (a : WriteAuthority) (rules : TextRules Model)
    (w : WriteWorld) (s : Issuance) (c : EvaluateCall) :
    Except WriteError (PolicyResult × Option Grant) := do
  let requestId ← requireText c.requestId 200
  let originalRequest ← requireText c.originalRequest 4000
  ensure (requestId ∉ s.requestIds) (.boundary .requestReused)
  let state ← c.state.require
  let (refusal, found) ← a.examine w c.tool c.query
  let denial := rules.deniedReasons originalRequest ++ refusal ++ stateDenials state found
  match found with
  | none => return (⟨.deny, denial⟩, none)
  | some (query, schema) =>
    if denial ≠ [] then return (⟨.deny, denial⟩, none)
    let approval ← a.approval w s.spent originalRequest query.tool.text query.text
    let advisory ← c.judge.reviews
    match approval with
    | none => return (⟨.reviewRequired, "WRITE01_EXACT_HOST_APPROVAL_REQUIRED" :: advisory⟩, none)
    | some (place, approval) =>
      if advisory ≠ [] then return (⟨.reviewRequired, advisory⟩, none)
      ensure (s.requestIds.length < maxApprovals) (.boundary .issuanceCapacityExceeded)
      let now ← now c.clock
      let expires ← a.expiry now
      let facts := policyFacts originalRequest query state approval c.judge
      let envelope := newEnvelope (a.binding requestId query schema facts) now expires
      return (permit, some ⟨place,
        { identity := s.created, envelope, serialized := canonical false envelope.toJson,
          originalRequest, contextJson := a.contextJson, approvalReference := approval.reference,
          issuedAt := now, expiresAt := expires }⟩)

/-- The changes of a permission. -/
def Issuance.grant (s : Issuance) (g : Grant) : Issuance :=
  { spent := s.spent ++ [g.place]
    requestIds := s.requestIds ++ [g.retained.envelope.binding.requestId]
    issued := s.issued ++ [g.retained]
    created := s.created + 1 }

/-- `evaluate` -/
def WriteAuthority.evaluate {Model : Type} (a : WriteAuthority) (rules : TextRules Model)
    (w : WriteWorld) (s : Issuance) (c : EvaluateCall) :
    Issuance × Except WriteError PolicyEvaluation :=
  match a.decide rules w s c with
  | .error e => (s, .error e)
  | .ok (policy, none) => (s, .ok ⟨policy, none⟩)
  | .ok (policy, some g) =>
    (s.grant g, .ok ⟨policy, some (g.retained.identity, g.retained.envelope)⟩)

/-! ## Consumption -/

/-- The arguments of `consume`; `none` is a value that is no string. -/
structure ConsumeCall where
  envelope : Presented
  requestId : Option String
  originalRequest : Option String
  tool : Option String
  query : Arguments
  clock : ClockReading

/-- The contents of the envelope presented, if `json.dumps` prints them. -/
def contents : Presented → Except WriteError AuthorityEnvelope
  | .notEnvelope => throw (.boundary .envelopeNotIssued)
  | .envelope _ contents => return contents
  | .unprintable _ e => throw (.other e)

/-- The verification of a retained envelope, popped already, against the call. -/
def WriteAuthority.verify (a : WriteAuthority) (w : WriteWorld) (retained : Issued)
    (c : ConsumeCall) : Except WriteError ExecutionBinding := do
  let mismatch (e : WriteError) : WriteError :=
    if e.exception = .valueError ∨ e.exception = .typeError ∨ e.exception = .overflowError ∨
        e.exception = .keyError then .boundary .bindingMismatch
    else e
  let (query, schema) ← Except.reraise (a.query w c.tool c.query) mismatch
  let envelope ← Except.reraise (contents c.envelope) mismatch
  let now ← now c.clock
  ensure (retained.issuedAt.value ≤ now.value && now.value < retained.expiresAt.value)
    (.boundary .envelopeExpiredOrClockInvalid)
  let binding := envelope.binding
  ensure (canonical false envelope.toJson = retained.serialized &&
      some retained.originalRequest = c.originalRequest && a.contextJson = retained.contextJson &&
      some binding.requestId = c.requestId && some binding.tool = c.tool &&
      binding.argumentsJson = query.text && binding.argumentsSha256 = digest query.toJson &&
      binding.schemaSha256 = schema && binding.operationScope = query.tool.scope &&
      binding.policyDecision = .permit && envelope.decision = .permit &&
      envelope.policyVersion = policyVersion &&
      binding.policyContextSha256 = digest a.context) (.boundary .bindingMismatch)
  return binding

/-- `consume`: the retained envelope is popped first, whatever the verification says. -/
def WriteAuthority.consume (a : WriteAuthority) (w : WriteWorld) (s : Issuance)
    (c : ConsumeCall) : Issuance × Except WriteError ExecutionBinding :=
  match c.envelope.identity? with
  | none => (s, .error (.boundary .envelopeNotIssued))
  | some identity =>
    match s.issued.find? (·.identity = identity) with
    | none => (s, .error (.boundary .envelopeConsumedOrForeign))
    | some retained =>
      ({ s with issued := s.issued.filter (·.identity ≠ identity) }, a.verify w retained c)

/-- `approval_reference(envelope)` -/
def Issuance.approvalReference (s : Issuance) (identity : ℕ) : Except WriteError String :=
  match s.issued.find? (·.identity = identity) with
  | none => .error (.boundary .envelopeNotOwned)
  | some retained => .ok retained.approvalReference

/-! ## Runs -/

/-- A call of the authority, in the world as it is then. -/
inductive WriteCall
  | evaluate (w : WriteWorld) (c : EvaluateCall)
  | consume (w : WriteWorld) (c : ConsumeCall)
  | approvalReference (identity : ℕ)

/-- What a call returns or raises. -/
inductive WriteResult
  | evaluated (r : Except WriteError PolicyEvaluation)
  | consumed (r : Except WriteError ExecutionBinding)
  | reference (r : Except WriteError String)

/-- The authority as a system taking calls. -/
def WriteAuthority.machine {Model : Type} (a : WriteAuthority) (rules : TextRules Model) :
    Machine Issuance WriteCall WriteResult where
  step s
    | .evaluate w c => ((a.evaluate rules w s c).1, .evaluated (a.evaluate rules w s c).2)
    | .consume w c => ((a.consume w s c).1, .consumed (a.consume w s c).2)
    | .approvalReference identity => (s, .reference (s.approvalReference identity))

end CivicGate.Write01
