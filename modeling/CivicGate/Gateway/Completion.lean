import CivicGate.Adapters.USAspending
import CivicGate.Framework.Program
import CivicGate.Governance.Policy

/-!
# Completing a call

The part of `Gateway._call` (`mcp/tools.py`) that turns what the adapter returned or raised into
the response envelope: the checks of the batch, the review rules, and the handlers of the `try`
around the dispatch.

A handler sees what the statements before the exception already changed, so the statements are a
`Program` over the variables of the call.
-/

namespace CivicGate

/-! ## The variables of a call -/

/-- The variables of `_call` that its `try` assigns. -/
structure CallLocals where
  envelope : Envelope
  attempts : List AttemptRecord := []
  metadataAvailable : Bool := false
  retryClass : RetryClass := .unknown
  verification : Verification := .notRequired
  boundaryError : Option String := none

/-- What the statements of the `try` raise. -/
inductive CallRaise
  /-- `ExecutionBoundaryError` -/
  | boundary (code : String)
  | adapter (e : AdapterError)
  | other (e : PyException)

/-- Statements of the `try`. -/
abbrev Completing := Program CallLocals CallRaise

/-- The arguments of a tool, by the model they are an instance of. -/
inductive ToolArgs
  | search (recipientName : Option String)
  | award
  | recipient
  | other
  deriving DecidableEq

/-- What an adapter method returns. -/
inductive AdapterResult
  | call (c : AdapterCall)
  | batch (b : Batch)

/-- What the completion of a call depends on. -/
structure Completion where
  /-- `binding.tool` -/
  tool : String
  args : ToolArgs
  /-- `self._adapter.fixture` -/
  fixture : Bool
  /-- `DataBatch.model_validate(batch.model_dump())` -/
  revalidate : Batch → Except PyException Batch
  /-- `self._contract.validate_find_result`, where the contract handles the tool. -/
  validateFindResult : Option (AdapterCall → Except AdapterRaise Unit)
  casefold : String → String
  /-- `str(value)` -/
  str : Json → String
  /-- `str(sum(Decimal(str(row["award_amount"]))))` over the rows. -/
  decimalTotal : List Json → Except PyException String
  /-- `self._evaluate(replace(facts, review_reason=reason), judge, k_signal, threshold)` -/
  review : String → Except PyException PolicyResult

/-! ## Summaries -/

/-- `_apply_attempt_summary` -/
def Envelope.applyAttemptSummary (e : Envelope) (attempts : List AttemptRecord)
    (metadataAvailable : Bool) (retryClass : RetryClass) : Envelope :=
  let e := { e with
    attemptMetadataAvailable := metadataAvailable
    attemptCount := attempts.length
    retryClass := if metadataAvailable then retryClass else .unknown }
  match attempts.getLast? with
  | some final =>
    { e with dispatchState := final.dispatchState, responseState := final.responseState }
  | none => if e.toolExecuted then { e with dispatchState := .dispatchUnknown } else e

/-- `_set_validation_state` -/
def Envelope.setValidationState (e : Envelope) (code : String) : Envelope :=
  if code = "MALFORMED_RESPONSE" then
    { e with
      verificationState := .failedValidation
      validationLane := .laneBExecution
      validationReason := .malformedResponse
      nextAction := .stop }
  else if code ∈ ["PROVENANCE_UNAVAILABLE", "CONFLICTING_SOURCE_RESULTS"] then
    { e with
      verificationState := .failedValidation
      validationLane := .laneAResolvability
      validationReason := .provenanceUnavailable
      nextAction := .humanReviewRequired }
  else if code = "ADAPTER_SCHEMA_OR_PROVENANCE_INVALID" then
    { e with
      verificationState := .failedValidation
      validationLane := .laneAResolvability
      validationReason := .adapterSchemaOrProvenanceInvalid
      nextAction := .humanReviewRequired }
  else if code ∈ ["TIMEOUT", "NETWORK_ERROR", "UPSTREAM_UNAVAILABLE"] then
    { e with verificationState := .resultUnknown, nextAction := .humanReviewRequired }
  else e

/-- The envelope of the variables. -/
def CallLocals.update (s : CallLocals) (f : Envelope → Envelope) : CallLocals :=
  { s with envelope := f s.envelope }

/-- The summary of the attempts the variables hold. -/
def CallLocals.summarized (s : CallLocals) : CallLocals :=
  s.update (·.applyAttemptSummary s.attempts s.metadataAvailable s.retryClass)

/-- The evidence of the variables, as `_call` passes it to `finish`. -/
def CallLocals.finishEvidence (s : CallLocals) : List (String × Json) :=
  [("pre_dispatch_verification", .str s.verification.text),
    ("execution_boundary_error", optStr s.boundaryError),
    ("attempts", .list (s.attempts.map AttemptRecord.toJson))]

/-- An exception of a library, inside the `try`. -/
def orRaise {α : Type} (x : Except PyException α) : Completing α :=
  Program.lift (Except.reraise x .other)

/-- What the adapter or the contract's check of its result raises, inside the `try`. -/
def AdapterRaise.inCall : AdapterRaise → CallRaise
  | .error e => .adapter e
  | .other e => .other e

/-! ## The body -/

namespace Completion

variable (x : Completion)

/-- Why a validated batch needs a review, with the clarification. -/
def reviewReason (b : Batch) : Option (String × String) :=
  match x.args with
  | .recipient =>
    if b.records.length ≠ 1 ∨ b.provenance.truncated then
      some (if b.records ≠ [] then "AMBIGUOUS_RECIPIENT" else "RECIPIENT_NOT_FOUND",
        "Choose an explicit recipient identifier from the candidates, or refine the name. No recipient was selected.")
    else none
  | .search (some name) =>
    let names : Finset String :=
      (b.records.map fun r => x.casefold (x.str ((r.get? "recipient_name").getD (.str "")))).toFinset
    if name ≠ "" ∧ (1 < names.card ∨ (names ≠ ∅ ∧ names ≠ {x.casefold name})) then
      some ("RECIPIENT_IDENTITY_UNCONFIRMED",
        "These are search matches, not a resolved legal identity. Refine the recipient name using candidate resolution.")
    else none
  | _ => none

/-- The decision of a second evaluation of the policy. -/
def reviewed (reason : String) (update : Envelope → Envelope) : Completing Unit := do
  let post ← orRaise (x.review reason)
  modify (·.update fun e =>
    update { e with
      decision := post.decision
      governance := { e.governance with policyReasons := post.reasons } })

/-- The error of a batch whose provenance does not hold. -/
def provenanceUnavailable : Completing Unit := do
  let s ← get
  throw (.adapter {
    code := "PROVENANCE_UNAVAILABLE", attempts := s.attempts, retryClass := s.retryClass })

/-- What is released of a validated batch. -/
def release (b : Batch) : Completing Unit := do
  modify (·.update fun e => { e with
    provenance := some b.provenance
    result := some (.dict [("records", .list b.records)])
    status := .ok
    verificationState := .resultVerified })
  match x.reviewReason b with
  | some (reason, clarification) => do
    modify (·.update fun e => { e with
      clarification := some clarification
      nextAction := .humanReviewRequired })
    x.reviewed reason fun e => { e with status := .clarificationRequired }
  | none =>
    if x.tool = "summarize_federal_spending" then do
      let total ← orRaise (x.decimalTotal b.records)
      modify (·.update fun e => { e with
        result := some (.dict [("record_count", .int b.records.length),
          ("returned_award_amount_total_usd", .str total), ("scope", .str "RETURNED_PAGE_ONLY"),
          ("note", .str "Sum of award amounts for matching awards, not fiscal-year transaction obligations or a population total.")])
        nextAction := .none })
    else modify (·.update fun e => { e with nextAction := .none })

/-- The `try` after the adapter returned. -/
def accept (result : AdapterResult) : Completing Unit := do
  let received ← match result with
    | .call c => do
      modify fun s => { s with
        attempts := c.outcome.attempts
        metadataAvailable := true
        retryClass := c.outcome.retryClass }
      pure c.batch
    | .batch b => pure b
  let b ← orRaise (x.revalidate received)
  modify CallLocals.summarized
  if b.provenance.recordsReturned ≠ b.records.length then provenanceUnavailable
  if b.provenance.sourceType ≠
      (if x.fixture then "SYNTHETIC_TEST_FIXTURE" else "PUBLIC_GOVERNMENT_API") then
    provenanceUnavailable
  match x.validateFindResult with
  | none => pure ()
  | some validate =>
    match result with
    | .batch _ => throw (.other .valueError)
    | .call c => Program.lift (Except.reraise (validate c) AdapterRaise.inCall)
  x.release b

/-! ## The handlers -/

/-- `except ExecutionBoundaryError` -/
def handleBoundary (code : String) : Completing Unit :=
  modify fun s => { s with
    verification := .fail
    boundaryError := some code
    envelope := { s.envelope with
      decision := .deny
      governance := { s.envelope.governance with policyReasons := ["EXECUTION_BINDING_INVALID"] }
      nextAction := .stop
      errors := [{
        code, message := "Pre-dispatch binding verification failed; no backend invoked." }] } }

/-- `except AdapterError` -/
def handleAdapter (e : AdapterError) : Completing Unit := do
  modify fun s => { s with
    attempts := e.attempts
    metadataAvailable := e.attempts ≠ []
    retryClass := e.retryClass }
  modify CallLocals.summarized
  modify (·.update fun envelope =>
    { envelope with
      status := .error
      result := none
      errors := [{
        code := e.code
        message := "Public source request failed. Refine inputs or retry if retryable; no substitute data were used."
        retryable := e.retryable }] }.setValidationState e.code)
  if e.code ∈ ["TIMEOUT", "NETWORK_ERROR", "UPSTREAM_UNAVAILABLE"] then
    modify (·.update fun envelope =>
      { envelope with nextAction := if e.retryable then .retryAllowed else .retryBlocked })
  if e.code ∈ ["CONFLICTING_SOURCE_RESULTS", "PROVENANCE_UNAVAILABLE"] then
    x.reviewed e.code id

/-- `except (ValidationError, ValueError, TypeError, KeyError, AttributeError)` -/
def handleMalformed : Completing Unit := do
  modify CallLocals.summarized
  x.reviewed "ADAPTER_SCHEMA_OR_PROVENANCE_INVALID" fun e =>
    { e with
      status := .error
      result := none
      provenance := none
      errors := [{
        code := "MALFORMED_ADAPTER_RESPONSE"
        message := "Adapter response failed validation; no data released." }] }.setValidationState
      "ADAPTER_SCHEMA_OR_PROVENANCE_INVALID"

/-- The `except` clauses; any other exception goes through. -/
def handle : CallRaise → Completing Unit
  | .boundary code => handleBoundary code
  | .adapter e => x.handleAdapter e
  | .other e =>
    if e ∈ [PyException.valueError, .typeError, .keyError, .attributeError] then x.handleMalformed
    else throw (.other e)

/-- The `try` from the adapter's result on. -/
def conclude (result : Except AdapterRaise AdapterResult) : Completing Unit :=
  try do
    let r ← Program.lift (Except.reraise result AdapterRaise.inCall)
    x.accept r
  catch e => x.handle e

end Completion

end CivicGate
