import CivicGate.Framework.Exceptions
import CivicGate.Governance.Responses
import Mathlib.Data.List.Infix

/-!
# The public spending adapter

`adapters/usaspending.py`.  `_request` sends one request, at most `max_attempts` times, and
records each attempt that entered the transport; `search`, `recipients` and `detail` read what
it returns.

What the transport and the clock do in one attempt is an `Exchange`, and what the upstream
models make of a decoded body is `UpstreamModels`.  The fingerprint of the query, which only
the provenance document holds, is left out.
-/

namespace CivicGate

/-! ## The transport -/

/-- What the transport raises, with the name of its class. -/
inductive TransportFailure
  /-- `httpx.TimeoutException` or `TimeoutError` -/
  | timeout (name : String)
  /-- Any other `httpx.RequestError`. -/
  | network (name : String)
  deriving DecidableEq

/-- A response, from its headers to its end. -/
structure Response where
  statusCode : ℤ
  /-- `headers.get("content-type", "")` -/
  contentType : String
  /-- What `_retry_after` makes of the headers. -/
  retryAfter : Option PyFloat
  /-- The sizes of the chunks of the body. -/
  chunks : List ℕ
  /-- What interrupts the body after these chunks. -/
  broken : Option TransportFailure
  /-- `json.loads(body)` -/
  parsed : Except PyException Json
  /-- What leaving the stream raises. -/
  closing : Option TransportFailure

/-- One attempt: what the transport does, and what the code reads from the clock. -/
structure Exchange where
  /-- `remaining <= 0`: the retry budget is spent before the attempt. -/
  exhausted : Bool
  response : Except TransportFailure Response
  elapsedMs : PyFloat
  /-- The delay before a retry would spend the budget. -/
  overrun : Bool

def maxBytes : ℕ := 2000000

/-- The loop over the chunks: the size of the body, `none` once it is too large. -/
def readChunks (size : ℕ) : List ℕ → Option ℕ
  | [] => some size
  | n :: rest => if maxBytes < size + n then none else readChunks (size + n) rest

/-- How the stream of one attempt ends. -/
inductive Streamed
  | success (raw : Json)
  | error (code : String) (retryable : Bool)
  | failed (f : TransportFailure)
  | raises (e : PyException)

/-- The statements under `async with client.stream`, and whether they recorded a success. -/
def Response.read (r : Response) : Streamed × Bool :=
  if r.statusCode = 404 then (.error "NOT_FOUND" false, false)
  else if r.statusCode = 429 ∨ 500 ≤ r.statusCode then (.error "UPSTREAM_UNAVAILABLE" true, false)
  else if r.statusCode ≠ 200 then (.error "UPSTREAM_REJECTED" false, false)
  else if ¬"application/json".toList <:+: r.contentType.toList then
    (.error "MALFORMED_RESPONSE" false, false)
  else
    match readChunks 0 r.chunks, r.broken with
    | none, _ => (.error "RESPONSE_TOO_LARGE" false, false)
    | some _, some f => (.failed f, false)
    | some _, none =>
      -- The record of the success is there before the body is parsed.
      match r.parsed with
      | .ok raw => (.success raw, true)
      | .error .valueError => (.error "MALFORMED_RESPONSE" false, true)
      | .error e => (.raises e, true)

/-- What the `except` clauses of the attempt see: closing the stream may raise in any case. -/
def Response.stream (r : Response) : Streamed × Bool :=
  match r.closing with
  | some f => (.failed f, r.read.2)
  | none => r.read

/-! ## Records -/

/-- `RETRY_ALLOWED`, or `RETRY_BLOCKED` in the last attempt. -/
def retryDecision (attempt maxAttempts : ℕ) : RetryDecision :=
  if attempt < maxAttempts then .retryAllowed else .retryBlocked

/-- The record of a success. -/
def successRecord (attempt maxAttempts : ℕ) (x : Exchange) (r : Response) : AttemptRecord where
  attempt := attempt
  maxAttempts := maxAttempts
  elapsedMs := x.elapsedMs
  dispatchState := .requestConfirmed
  responseState := .responseReceived
  exceptionType := none
  statusCode := some r.statusCode
  responseReceived := true
  retryAfterSeconds := none
  retryDecision := .none
  retryReason := "success"

/-- `retry_after`, which only a retryable status sets. -/
def Response.retryAfter? (r : Response) : Option PyFloat :=
  if r.statusCode ≠ 404 ∧ (r.statusCode = 429 ∨ 500 ≤ r.statusCode) then r.retryAfter else none

/-- The record of a transport failure, before or after the headers. -/
def failureRecord (attempt maxAttempts : ℕ) (x : Exchange) (response : Option Response)
    (f : TransportFailure) : AttemptRecord where
  attempt := attempt
  maxAttempts := maxAttempts
  elapsedMs := x.elapsedMs
  dispatchState := if response.isSome then .requestConfirmed else .dispatchUnknown
  responseState := .transportError
  exceptionType := match f with
    | .timeout name => some name
    | .network name => some name
  statusCode := response.map Response.statusCode
  responseReceived := response.isSome
  retryAfterSeconds := match f with
    | .timeout _ => response.bind Response.retryAfter?
    | .network _ => none
  retryDecision := retryDecision attempt maxAttempts
  retryReason := match f with
    | .timeout _ => "timeout"
    | .network _ => "network error"

/-- The record of an `AdapterError`, which is raised once there is a response. -/
def errorRecord (attempt maxAttempts : ℕ) (x : Exchange) (r : Response) (code : String) :
    AttemptRecord where
  attempt := attempt
  maxAttempts := maxAttempts
  elapsedMs := x.elapsedMs
  dispatchState := .requestConfirmed
  responseState := .responseReceived
  exceptionType := some "AdapterError"
  statusCode := some r.statusCode
  responseReceived := true
  retryAfterSeconds := r.retryAfter?
  retryDecision :=
    if code = "UPSTREAM_UNAVAILABLE" then CivicGate.retryDecision attempt maxAttempts else .none
  retryReason :=
    if code = "UPSTREAM_UNAVAILABLE" then "retryable upstream status" else code.toLower

/-! ## `_request` -/

/-- `AdapterError` -/
structure AdapterError where
  code : String
  retryable : Bool := false
  attempts : List AttemptRecord := []
  retryClass : RetryClass := .conditionallySafe

/-- What a method of the adapter raises. -/
inductive AdapterRaise
  | error (e : AdapterError)
  | other (e : PyException)

/-- `RequestOutcome` -/
structure RequestOutcome where
  raw : Json
  attempts : List AttemptRecord
  retryClass : RetryClass := .conditionallySafe

/-- The code of the error a transport failure is turned into. -/
def TransportFailure.code : TransportFailure → String
  | .timeout _ => "TIMEOUT"
  | .network _ => "NETWORK_ERROR"

/-- How the `try` of one attempt ends, with what it records. -/
inductive Tried
  | returned (raw : Json) (records : List AttemptRecord)
  | failed (code : String) (retryable : Bool) (records : List AttemptRecord)
  | raises (e : PyException)

/-- One attempt, with its handlers as far as the record. -/
def Exchange.tried (x : Exchange) (attempt maxAttempts : ℕ) : Tried :=
  match x.response with
  | .error f => .failed f.code true [failureRecord attempt maxAttempts x none f]
  | .ok r =>
    let success := if r.stream.2 then [successRecord attempt maxAttempts x r] else []
    match r.stream.1 with
    | .success raw => .returned raw success
    | .error code retryable =>
      .failed code retryable (success ++ [errorRecord attempt maxAttempts x r code])
    | .failed f => .failed f.code true (success ++ [failureRecord attempt maxAttempts x (some r) f])
    | .raises e => .raises e

/-- The last record with its retry blocked. -/
def blockLast (attempts : List AttemptRecord) : List AttemptRecord :=
  match attempts.reverse with
  | [] => []
  | last :: rest =>
    (({ last with retryDecision := .retryBlocked, retryReason := "retry budget exhausted" } :
      AttemptRecord) :: rest).reverse

/-- The loop of `_request`, with the attempts left and the records so far. -/
def requestLoop (maxAttempts : ℕ) (exchanges : ℕ → Exchange) :
    ℕ → List AttemptRecord → Except AdapterRaise RequestOutcome
  | 0, attempts => .error (.error { code := "UPSTREAM_UNAVAILABLE", attempts })
  | left + 1, attempts =>
    let attempt := maxAttempts - left
    let x := exchanges attempt
    if x.exhausted then
      .error (.error { code := "UPSTREAM_UNAVAILABLE", attempts := blockLast attempts })
    else
      match x.tried attempt maxAttempts with
      | .returned raw records => .ok { raw, attempts := attempts ++ records }
      | .raises e => .error (.other e)
      | .failed code retryable records =>
        if !retryable || attempt = maxAttempts then
          .error (.error { code, attempts := attempts ++ records })
        else if x.overrun then
          .error (.error { code, attempts := blockLast (attempts ++ records) })
        else requestLoop maxAttempts exchanges left (attempts ++ records)

/-- `_request`, the exchanges numbered from 1. -/
def request (maxAttempts : ℕ) (exchanges : ℕ → Exchange) : Except AdapterRaise RequestOutcome :=
  requestLoop maxAttempts exchanges maxAttempts []

/-! ## The methods -/

/-- A batch of records with its provenance. -/
structure Batch where
  records : List Json
  provenance : Provenance

/-- `AdapterCall` -/
structure AdapterCall where
  batch : Batch
  outcome : RequestOutcome

/-- `MODEL.model_validate(raw)` for the upstream models; the rows are those of `model_dump`. -/
structure UpstreamModels where
  /-- `SearchResponse`: its rows and `page_metadata.hasNext`. -/
  searchResponse : Json → Option (List Json × Bool)
  /-- `RecipientResponse` -/
  recipientResponse : Json → Option (List Json × Bool)
  /-- `DetailResponse`: `str(data.id)`, `generated_unique_award_id` and the row. -/
  detailResponse : Json → Option (String × String × Json)

/-- `_batch` -/
def batch (fixture : Bool) (records : List Json) (truncated : Bool) : Batch where
  records := records
  provenance := {
    sourceType := if fixture then "SYNTHETIC_TEST_FIXTURE" else "PUBLIC_GOVERNMENT_API"
    recordsReturned := records.length
    truncated }

/-- The error of a method that refuses what `_request` returned. -/
def RequestOutcome.refused (outcome : RequestOutcome) (code : String) : AdapterRaise :=
  .error { code, attempts := outcome.attempts, retryClass := outcome.retryClass }

variable (models : UpstreamModels) (fixture : Bool) (maxAttempts : ℕ) (exchanges : ℕ → Exchange)

/-- `search`, for a request of at most `limit` records. -/
def search (limit : ℕ) : Except AdapterRaise AdapterCall := do
  let outcome ← request maxAttempts exchanges
  match models.searchResponse outcome.raw with
  | none => throw (outcome.refused "MALFORMED_RESPONSE")
  | some (rows, more) => do
    ensure (rows.length ≤ limit) (outcome.refused "MALFORMED_RESPONSE")
    ensure ((rows.map (·.get? "generated_internal_id")).dedup.length = rows.length)
      (outcome.refused "CONFLICTING_SOURCE_RESULTS")
    return ⟨batch fixture rows more, outcome⟩

/-- `recipients`, for a request of at most `limit` records. -/
def recipients (limit : ℕ) : Except AdapterRaise AdapterCall := do
  let outcome ← request maxAttempts exchanges
  match models.recipientResponse outcome.raw with
  | none => throw (outcome.refused "MALFORMED_RESPONSE")
  | some (rows, more) => do
    ensure (rows.length ≤ limit) (outcome.refused "MALFORMED_RESPONSE")
    return ⟨batch fixture rows more, outcome⟩

/-- `detail` -/
def detail (awardId : String) : Except AdapterRaise AdapterCall := do
  let outcome ← request maxAttempts exchanges
  match models.detailResponse outcome.raw with
  | none => throw (outcome.refused "MALFORMED_RESPONSE")
  | some (id, uniqueId, row) => do
    ensure (awardId = id || awardId = uniqueId) (outcome.refused "MALFORMED_RESPONSE")
    return ⟨batch fixture [row] false, outcome⟩

/-- A method of the adapter, with what it reads of its request. -/
inductive AdapterMethod
  | search (limit : ℕ)
  | recipients (limit : ℕ)
  | detail (awardId : String)

/-- The method's call. -/
def AdapterMethod.call : AdapterMethod → Except AdapterRaise AdapterCall
  | .search limit => CivicGate.search models fixture maxAttempts exchanges limit
  | .recipients limit => CivicGate.recipients models fixture maxAttempts exchanges limit
  | .detail awardId => CivicGate.detail models fixture maxAttempts exchanges awardId

/-! ## A single attempt -/

/-- The records one attempt leaves. -/
def Exchange.records (x : Exchange) : List AttemptRecord :=
  if x.exhausted then []
  else match x.tried 1 1 with
    | .returned _ records => records
    | .failed _ _ records => records
    | .raises _ => []

/-- The response is one whose body the code reads. -/
def Response.readsBody (r : Response) : Bool :=
  r.statusCode = 200 && "application/json".toList <:+: r.contentType.toList

/-- Nothing fails once the headers are there, and the status code is a usual one: the stream is
closed without a failure, and a body that is read is too large, or complete and JSON. -/
def Response.regular (r : Response) : Prop :=
  r.closing = none ∧
    if r.readsBody then
      readChunks 0 r.chunks = none ∨ r.broken = none ∧ r.parsed ≠ .error .valueError
    else 100 ≤ r.statusCode ∧ r.statusCode ≤ 599

/-- The attempt does not start, fails before the headers, or gets a regular response. -/
def Exchange.regular (x : Exchange) : Prop :=
  x.exhausted = true ∨ ∀ r, x.response = .ok r → r.regular

lemma request_single (exchanges : ℕ → Exchange) : request 1 exchanges =
    if (exchanges 1).exhausted then .error (.error { code := "UPSTREAM_UNAVAILABLE" })
    else match (exchanges 1).tried 1 1 with
      | .returned raw records => .ok { raw, attempts := records }
      | .raises e => .error (.other e)
      | .failed code _ records => .error (.error { code, attempts := records }) := by
  simp only [request, requestLoop, Nat.sub_zero, blockLast, List.reverse_nil, List.nil_append,
    decide_true, Bool.or_true, if_true]

end CivicGate
