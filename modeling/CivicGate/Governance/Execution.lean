import CivicGate.Framework.Json.RoundTrip
import CivicGate.Framework.Machine
import CivicGate.Governance.Policy

/-!
# The execution boundary

`governance/execution.py`: the Gateway's private issuer of single-use authority envelopes.
`evaluate` runs the policy gate and, on a permission, retains an envelope bound to the exact
invocation; `consume` gives the envelope's binding back once, if the invocation presented is
the one bound.

An envelope is an object, and `id(envelope)` tells the objects alive apart.  The retained ones
are alive, so an envelope is named here by the number of envelopes the boundary created before
it; a number not yet reached stands for an envelope of another maker.  The contents presented
to `consume` are whatever the object holds by then.

What may change between calls is part of a call: what the registry holds, what its models do
(`World`), and the clock reading.
-/

namespace CivicGate

/-! ## Errors -/

/-- The codes of `ExecutionBoundaryError`. -/
inductive BoundaryCode
  | policyContextInvalid
  | toolNotRegistered
  | toolRegistryDrift
  | argumentsInvalid
  | envelopeTimeInvalid
  | operationScopeMismatch
  | policyArgumentsMismatch
  | requestIdReused
  | issuanceCapacityExceeded
  | envelopeNotIssued
  | envelopeAlreadyConsumedOrUnknown
  | envelopeBindingMismatch
  | envelopeExpired
  | policyContextMismatch
  | toolRouteInvalid
  deriving DecidableEq

/-- The text of a code. -/
def BoundaryCode.text : BoundaryCode → String
  | .policyContextInvalid => "POLICY_CONTEXT_INVALID"
  | .toolNotRegistered => "TOOL_NOT_REGISTERED"
  | .toolRegistryDrift => "TOOL_REGISTRY_DRIFT"
  | .argumentsInvalid => "ARGUMENTS_INVALID"
  | .envelopeTimeInvalid => "ENVELOPE_TIME_INVALID"
  | .operationScopeMismatch => "OPERATION_SCOPE_MISMATCH"
  | .policyArgumentsMismatch => "POLICY_ARGUMENTS_MISMATCH"
  | .requestIdReused => "REQUEST_ID_REUSED"
  | .issuanceCapacityExceeded => "ISSUANCE_CAPACITY_EXCEEDED"
  | .envelopeNotIssued => "ENVELOPE_NOT_ISSUED"
  | .envelopeAlreadyConsumedOrUnknown => "ENVELOPE_ALREADY_CONSUMED_OR_UNKNOWN"
  | .envelopeBindingMismatch => "ENVELOPE_BINDING_MISMATCH"
  | .envelopeExpired => "ENVELOPE_EXPIRED"
  | .policyContextMismatch => "POLICY_CONTEXT_MISMATCH"
  | .toolRouteInvalid => "TOOL_ROUTE_INVALID"

/-- What a call of the boundary raises. -/
inductive BoundaryError
  | boundary (code : BoundaryCode)
  | other (e : PyException)
  deriving DecidableEq

/-! ## Records -/

/-- `PolicyContext`, its four components named by what the Gateway puts there. -/
structure PolicyContext where
  requireJudge : Bool
  enableAgentK : Bool
  threshold : PyNum
  denials : ℤ
  deriving DecidableEq

/-- The exact invocation a permission is for. -/
structure ExecutionBinding where
  requestId : String
  tool : String
  argumentsJson : String
  argumentsSha256 : String
  schemaSha256 : String
  operationScope : String
  policyDecision : Decision
  policySha256 : String
  policyFactsSha256 : String
  policyContextSha256 : String
  deriving DecidableEq

/-- A permission to dispatch. -/
structure AuthorityEnvelope where
  binding : ExecutionBinding
  decision : Decision
  reasons : List String
  policyVersion : String
  issuedAt : PyNum
  expiresAt : PyNum
  deriving DecidableEq

/-- A retained envelope, with what was noted when it was issued. -/
structure IssuedEnvelope where
  identity : ℕ
  envelope : AuthorityEnvelope
  serialized : String
  contextJson : String
  issuedAt : PyNum
  expiresAt : PyNum
  deriving DecidableEq

/-- The policy result and, on a permission, the envelope issued and its identity. -/
structure PolicyEvaluation where
  policy : PolicyResult
  envelope : Option (ℕ × AuthorityEnvelope)
  deriving DecidableEq

def policyVersion : String := "civicgate-mvp-1"
def operationScope : String := "PUBLIC_SPENDING_RESEARCH"
def maxOutstandingEnvelopes : ℕ := 256

/-! ### Their JSON -/

/-- The context as `_canonical` sees it: a tuple. -/
def PolicyContext.toJson (c : PolicyContext) : Json :=
  .list [.bool c.requireJudge, .bool c.enableAgentK, c.threshold.toJson, .int c.denials]

/-- `asdict(binding)` -/
def ExecutionBinding.toJson (b : ExecutionBinding) : Json :=
  .dict [("arguments_json", .str b.argumentsJson), ("arguments_sha256", .str b.argumentsSha256),
    ("operation_scope", .str b.operationScope),
    ("policy_context_sha256", .str b.policyContextSha256),
    ("policy_decision", .str b.policyDecision.text),
    ("policy_facts_sha256", .str b.policyFactsSha256), ("policy_sha256", .str b.policySha256),
    ("request_id", .str b.requestId), ("schema_sha256", .str b.schemaSha256),
    ("tool", .str b.tool)]

/-- `asdict(envelope)` -/
def AuthorityEnvelope.toJson (e : AuthorityEnvelope) : Json :=
  .dict [("binding", e.binding.toJson), ("decision", .str e.decision.text),
    ("expires_at", e.expiresAt.toJson), ("issued_at", e.issuedAt.toJson),
    ("policy_version", .str e.policyVersion), ("reasons", .list (e.reasons.map .str))]

/-- `binding_sha256` -/
def ExecutionBinding.sha256 (b : ExecutionBinding) : String := sha256Hex (canonical false b.toJson)

/-- What an audit keeps of a binding: its digest in place of the arguments. -/
def ExecutionBinding.auditRecord (b : ExecutionBinding) : Json :=
  .dict [("arguments_sha256", .str b.argumentsSha256), ("binding_sha256", .str b.sha256),
    ("operation_scope", .str b.operationScope),
    ("policy_context_sha256", .str b.policyContextSha256),
    ("policy_decision", .str b.policyDecision.text),
    ("policy_facts_sha256", .str b.policyFactsSha256), ("policy_sha256", .str b.policySha256),
    ("request_id", .str b.requestId), ("schema_sha256", .str b.schemaSha256),
    ("tool", .str b.tool)]

/-- `AuthorityEnvelope.audit_record` -/
def AuthorityEnvelope.auditRecord (e : AuthorityEnvelope) : Json :=
  .dict [("authority_source", .str "DETERMINISTIC_POLICY_GATE"),
    ("binding", e.binding.auditRecord), ("decision", .str e.decision.text),
    ("policy_version", .str e.policyVersion), ("reasons", .list (e.reasons.map .str))]

/-- `policy.model_dump(mode="json")` -/
def PolicyResult.toJson (r : PolicyResult) : Json :=
  .dict [("decision", .str r.decision.text), ("reasons", .list (r.reasons.map .str))]

/-- `asdict(facts)` -/
def PolicyFacts.toJson (f : PolicyFacts) : Json :=
  .dict [("adapter_available", .bool f.adapterAvailable),
    ("arguments_json", optStr f.argumentsJson), ("bounded", .bool f.bounded),
    ("capability", .str f.capability), ("provenance_available", .bool f.provenanceAvailable),
    ("public_source", .bool f.publicSource), ("request_text", optStr f.requestText),
    ("review_reason", optStr f.reviewReason), ("semantic_required", .bool f.semanticRequired),
    ("text", .str f.text), ("tool", .str f.tool), ("valid_input", .bool f.validInput)]

/-! ## Arguments of a call -/

/-- A value passed as `arguments`. -/
inductive Arguments
  /-- `None`, another type, or a dictionary with a key that is no string. -/
  | notDict
  /-- A dictionary `json.dumps` raises on. -/
  | unprintable (e : PyException)
  | dict (entries : List (String × Json))

/-- What the clock gives. -/
inductive ClockReading
  | number (x : PyNum)
  /-- An infinity, a NaN or a value of another type. -/
  | notFinite
  | raises (e : PyException)

/-- What the boundary finds outside itself during a call. -/
structure World (Model Args : Type) where
  /-- `dict(self._registry)` -/
  registry : Registry Model
  pydantic : Pydantic Model Args

/-- The arguments of `evaluate`; `none` is a value of a type it refuses. -/
structure EvaluateCall where
  requestId : String
  facts : Option PolicyFacts
  judge : JudgeSignal
  agentK : KSignal
  threshold : Option PyNum
  arguments : Arguments
  policyContext : Option PolicyContext
  clock : ClockReading

/-- What is passed to `consume` as the envelope. -/
inductive Presented
  | notEnvelope
  | envelope (identity : ℕ) (contents : AuthorityEnvelope)
  /-- An envelope whose fields were replaced by values `json.dumps` raises on. -/
  | unprintable (identity : ℕ) (e : PyException)

/-- The identity of the object presented. -/
def Presented.identity? : Presented → Option ℕ
  | .notEnvelope => none
  | .envelope identity _ => some identity
  | .unprintable identity _ => some identity

/-- The arguments of `consume`. -/
structure ConsumeCall where
  envelope : Presented
  requestId : String
  tool : String
  arguments : Arguments
  policyContext : Option PolicyContext
  clock : ClockReading

/-! ## The boundary -/

/-- A constructed boundary: what `__init__` fixed. -/
structure ExecutionBoundary (Model : Type) where
  contract : Option (InvocationContract Model)
  models : Registry Model
  schemas : List (String × String)
  maxAgeSeconds : PyNum
  maxAge_pos : 0 < maxAgeSeconds.value

/-- What changes in a boundary: the retained envelopes, and how many were created. -/
structure Issuer where
  issued : List IssuedEnvelope
  created : ℕ
  deriving DecidableEq

/-- A boundary as constructed. -/
def Issuer.initial : Issuer := ⟨[], 0⟩

variable {Model Args : Type} [DecidableEq Model]

/-- The digest of a model's schema, as the boundary computes it. -/
def schemaDigest (p : Pydantic Model Args) (model : Model) : Except PyException String := do
  return sha256Hex (canonical false (← p.jsonSchema model))

/-- `ExecutionBoundary.__init__`; `shared` is `registry is contract.registry`, and a lifetime
of `none` is a boolean or not finite. -/
def ExecutionBoundary.create (w : World Model Args) (contract : Option (InvocationContract Model))
    (shared : Bool) (maxAgeSeconds : Option PyNum) :
    Except PyException (ExecutionBoundary Model) := do
  match maxAgeSeconds with
  | none => throw .valueError
  | some age =>
    if h : 0 < age.value then
      match contract with
      | none => pure ()
      | some contract =>
        contract.validate w.pydantic
        ensure shared .valueError
      let schemas ← w.registry.mapM fun entry => do
        return (entry.1, ← schemaDigest w.pydantic entry.2)
      return ⟨contract, w.registry, schemas, age, h⟩
    else throw .valueError

/-- `math.isfinite(x)` for a number the caller already knows is no infinity and no NaN. -/
def requireFinite (x : PyNum) : Except BoundaryError Unit :=
  ensure (x.toFloat ≠ none) (.other .overflowError)

/-- `_context(context)` -/
def contextJson (context : Option PolicyContext) : Except BoundaryError String :=
  match context with
  | none => throw (.boundary .policyContextInvalid)
  | some c => do
    requireFinite c.threshold
    ensure (0 ≤ c.threshold.value && c.threshold.value ≤ 1 && 0 ≤ c.denials)
      (.boundary .policyContextInvalid)
    return canonical false c.toJson

/-- `_now()` -/
def ClockReading.now : ClockReading → Except BoundaryError PyNum
  | .number x => do
    requireFinite x
    return x
  | .notFinite => throw (.boundary .envelopeTimeInvalid)
  | .raises e =>
    if e.isException then throw (.boundary .envelopeTimeInvalid) else throw (.other e)

/-- `_schema(tool)` -/
def ExecutionBoundary.schema (b : ExecutionBoundary Model) (w : World Model Args)
    (tool : String) : Except BoundaryError (Model × String) :=
  match b.models.lookup tool with
  | none => throw (.boundary .toolNotRegistered)
  | some model => do
    ensure (Registry.same w.registry b.models) (.boundary .toolRegistryDrift)
    let current ← Except.reraise (schemaDigest w.pydantic model) fun e =>
      if e = .valueError ∨ e = .typeError ∨ e = .attributeError then .boundary .toolRegistryDrift
      else .other e
    ensure (b.schemas.lookup tool = some current) (.boundary .toolRegistryDrift)
    return (model, current)

/-- The text of the arguments as the model validates and dumps them, defaults included. -/
def Arguments.normalized (p : Pydantic Model Args) (model : Model) :
    Arguments → Except PyException String
  | .notDict => throw .typeError
  | .unprintable e => throw e
  | .dict entries => do
    let args ← p.validate model (Json.dict entries).normalize
    return canonical false (← p.dump args)

/-- `_arguments(tool, arguments)` -/
def ExecutionBoundary.arguments (b : ExecutionBoundary Model) (w : World Model Args)
    (tool : String) (arguments : Arguments) : Except BoundaryError (String × String) := do
  let (model, schemaSha256) ← b.schema w tool
  let argumentsJson ← Except.reraise (arguments.normalized w.pydantic model) fun e =>
    if e = .valueError ∨ e = .typeError ∨ e = .overflowError then .boundary .argumentsInvalid
    else .other e
  return (argumentsJson, schemaSha256)

/-- `json.loads(text)`, as a value passed on as arguments. -/
def Arguments.ofText (text : String) : Arguments :=
  match loads text with
  | none => .unprintable .valueError
  | some (.dict entries) => .dict entries
  | some _ => .notDict

/-- The check that the facts describe the arguments bound. -/
def ExecutionBoundary.checkFacts (b : ExecutionBoundary Model) (w : World Model Args)
    (facts : PolicyFacts) (argumentsJson : String) : Except BoundaryError Unit :=
  match facts.argumentsJson with
  | none => return ()
  | some text => do
    let (factArgumentsJson, _) ←
      Except.reraise (b.arguments w facts.tool (Arguments.ofText text)) fun e =>
        match e with
        | .boundary _ => .boundary .policyArgumentsMismatch
        | .other e =>
          if e = .valueError ∨ e = .typeError then .boundary .policyArgumentsMismatch
          else .other e
    ensure (factArgumentsJson = argumentsJson) (.boundary .policyArgumentsMismatch)

/-! ## Evaluation -/

/-- What `evaluate` settles before it reads the clock: the policy result and, on a permission,
the binding and the context's text. -/
def ExecutionBoundary.prepare (b : ExecutionBoundary Model) (rules : TextRules Model)
    (w : World Model Args) (c : EvaluateCall) :
    Except BoundaryError (PolicyResult × Option (ExecutionBinding × String)) := do
  let contextJson ← contextJson c.policyContext
  match c.policyContext, c.facts, c.threshold with
  | some context, some facts, some threshold =>
    ensure (c.requestId ≠ "") (.boundary .policyContextInvalid)
    requireFinite threshold
    ensure (threshold.value = context.threshold.value &&
      facts.semanticRequired = context.requireJudge) (.boundary .policyContextInvalid)
    let policy ← Except.reraise
      (evaluate rules w.pydantic facts c.judge c.agentK threshold b.contract) BoundaryError.other
    if policy.decision ≠ .permit then return (policy, none)
    ensure (facts.capability = operationScope) (.boundary .operationScopeMismatch)
    let (argumentsJson, schemaSha256) ← b.arguments w facts.tool c.arguments
    b.checkFacts w facts argumentsJson
    let binding : ExecutionBinding :=
      { requestId := c.requestId
        tool := facts.tool
        argumentsJson
        argumentsSha256 := sha256Hex argumentsJson
        schemaSha256
        operationScope
        policyDecision := policy.decision
        policySha256 := sha256Hex (canonical false policy.toJson)
        policyFactsSha256 := sha256Hex (canonical false facts.toJson)
        policyContextSha256 := sha256Hex contextJson }
    return (policy, some (binding, contextJson))
  | _, _, _ => throw (.boundary .policyContextInvalid)

/-- `now + self._max_age_seconds`, checked to be finite. -/
def ExecutionBoundary.expiry (b : ExecutionBoundary Model) (now : PyNum) :
    Except BoundaryError PyNum :=
  match now.add b.maxAgeSeconds with
  | none => throw (.boundary .envelopeTimeInvalid)
  | some expiresAt => do
    requireFinite expiresAt
    return expiresAt

/-- The envelope issued at `now`. -/
def newEnvelope (policy : PolicyResult) (binding : ExecutionBinding) (now expiresAt : PyNum) :
    AuthorityEnvelope :=
  { binding, decision := policy.decision, reasons := policy.reasons, policyVersion,
    issuedAt := now, expiresAt }

/-- What `evaluate` does from the clock reading on: sweep the expired envelopes, then issue. -/
def ExecutionBoundary.issue (b : ExecutionBoundary Model) (s : Issuer) (policy : PolicyResult)
    (binding : ExecutionBinding) (contextJson : String) (now : PyNum) :
    Issuer × Except BoundaryError PolicyEvaluation :=
  let swept : Issuer := { s with issued := s.issued.filter (now.value < ·.expiresAt.value) }
  if swept.issued.any (·.envelope.binding.requestId = binding.requestId) then
    (swept, .error (.boundary .requestIdReused))
  else if maxOutstandingEnvelopes ≤ swept.issued.length then
    (swept, .error (.boundary .issuanceCapacityExceeded))
  else match b.expiry now with
    | .error e => (swept, .error e)
    | .ok expiresAt =>
      let envelope := newEnvelope policy binding now expiresAt
      let retained : IssuedEnvelope :=
        { identity := s.created, envelope, serialized := canonical false envelope.toJson,
          contextJson, issuedAt := now, expiresAt }
      ({ issued := swept.issued ++ [retained], created := s.created + 1 },
        .ok ⟨policy, some (s.created, envelope)⟩)

/-- `evaluate` -/
def ExecutionBoundary.evaluate (b : ExecutionBoundary Model) (rules : TextRules Model)
    (w : World Model Args) (s : Issuer) (c : EvaluateCall) :
    Issuer × Except BoundaryError PolicyEvaluation :=
  match b.prepare rules w c with
  | .error e => (s, .error e)
  | .ok (policy, none) => (s, .ok ⟨policy, none⟩)
  | .ok (policy, some (binding, contextJson)) =>
    match c.clock.now with
    | .error e => (s, .error e)
    | .ok now => b.issue s policy binding contextJson now

/-! ## Consumption -/

/-- The verification of a retained envelope, popped already, against the call. -/
def ExecutionBoundary.verify (b : ExecutionBoundary Model) (w : World Model Args)
    (retained : IssuedEnvelope) (envelope : AuthorityEnvelope) (c : ConsumeCall) :
    Except BoundaryError ExecutionBinding := do
  ensure (canonical false envelope.toJson = retained.serialized)
    (.boundary .envelopeBindingMismatch)
  let now ← c.clock.now
  ensure (retained.issuedAt.value ≤ now.value) (.boundary .envelopeTimeInvalid)
  ensure (now.value < retained.expiresAt.value) (.boundary .envelopeExpired)
  let contextJson ← contextJson c.policyContext
  ensure (contextJson = retained.contextJson) (.boundary .policyContextMismatch)
  let binding := envelope.binding
  ensure (c.requestId = binding.requestId && c.tool = binding.tool &&
      envelope.decision = .permit && binding.policyDecision = .permit &&
      envelope.policyVersion = policyVersion && binding.operationScope = operationScope &&
      sha256Hex contextJson = binding.policyContextSha256)
    (.boundary .envelopeBindingMismatch)
  let (argumentsJson, schemaSha256) ← b.arguments w c.tool c.arguments
  ensure (argumentsJson = binding.argumentsJson &&
      sha256Hex argumentsJson = binding.argumentsSha256 &&
      schemaSha256 = binding.schemaSha256)
    (.boundary .envelopeBindingMismatch)
  return binding

/-- `consume`: the retained envelope is popped first, whatever the verification says. -/
def ExecutionBoundary.consume (b : ExecutionBoundary Model) (w : World Model Args) (s : Issuer)
    (c : ConsumeCall) : Issuer × Except BoundaryError ExecutionBinding :=
  match c.envelope.identity? with
  | none => (s, .error (.boundary .envelopeNotIssued))
  | some identity =>
    match s.issued.find? (·.identity = identity) with
    | none => (s, .error (.boundary .envelopeAlreadyConsumedOrUnknown))
    | some retained =>
      ({ s with issued := s.issued.filter (·.identity ≠ identity) },
        match c.envelope with
        | .envelope _ contents => b.verify w retained contents c
        | .unprintable _ e =>
          if e = .valueError ∨ e = .typeError ∨ e = .overflowError ∨ e = .recursionError then
            .error (.boundary .envelopeBindingMismatch)
          else .error (.other e)
        | .notEnvelope => .error (.boundary .envelopeNotIssued))

/-! ## Runs -/

/-- A call of the boundary, in the world as it is then. -/
inductive BoundaryCall (Model Args : Type)
  | evaluate (w : World Model Args) (c : EvaluateCall)
  | consume (w : World Model Args) (c : ConsumeCall)

/-- What a call returns or raises. -/
inductive BoundaryResult
  | evaluated (r : Except BoundaryError PolicyEvaluation)
  | consumed (r : Except BoundaryError ExecutionBinding)

/-- The boundary as a system taking calls. -/
def ExecutionBoundary.machine (b : ExecutionBoundary Model) (rules : TextRules Model) :
    Machine Issuer (BoundaryCall Model Args) BoundaryResult where
  step s
    | .evaluate w c => ((b.evaluate rules w s c).1, .evaluated (b.evaluate rules w s c).2)
    | .consume w c => ((b.consume w s c).1, .consumed (b.consume w s c).2)

end CivicGate
