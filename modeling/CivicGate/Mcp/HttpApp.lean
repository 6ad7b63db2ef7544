import CivicGate.Framework.Machine
import CivicGate.Framework.Sha256
import CivicGate.Mcp.HttpIdentity
import Mathlib.Data.Finset.Basic
import Mathlib.Data.List.AList

/-!
# The HTTP session gate

`StreamableHTTPGatewayApp.__call__` of `mcp/http_app.py`.  A call runs without interruption from
one `await` to the next, so one step is: the arrival of a request up to its first `await`, the
receipt of one chunk of its body, an answer of the wrapped application passing through
`bound_send`, or the end of the call.  A call past admission is named by its place in the list of
such calls.

Headers, bodies and clock readings are part of a step's input, and so is what the wrapped
application answers.  What `json.loads` reads of a body, and whether the SDK's model takes a
message for an initialized notification, are functions of the application, of which nothing is
assumed.
-/

namespace CivicGate.Mcp

/-- A byte string. -/
abbrev Bytes := List UInt8

/-- `text.encode("ascii")`, for a text of such characters. -/
def ascii (text : String) : Bytes := text.toList.map fun c => UInt8.ofNat c.toNat

/-- `raw.decode("ascii")` -/
def decodeAscii (raw : Bytes) : Option String :=
  if raw.all (· < 128) then some (String.ofList (raw.map fun b => Char.ofNat b.toNat)) else none

/-- `key.lower()`, of bytes. -/
def lower (raw : Bytes) : Bytes := raw.map fun b => if 65 ≤ b && b ≤ 90 then b + 32 else b

/-- `MAX_BODY` -/
def maxBody : ℕ := 65536

/-- `MAX_INFLIGHT` -/
def maxInflight : ℤ := 16

/-- `MAX_SESSIONS` -/
def maxSessions : ℕ := 16

/-- The application, with what it takes from its libraries. -/
structure GatewayApp where
  verifier : LocalCredentialVerifier
  port : ℕ
  port_bounds : 1 ≤ port ∧ port ≤ 65535
  /-- What `json.loads` reads of a body, with the entries of its objects as they stand there;
  `none` where it raises. -/
  loads : Bytes → Option Json
  /-- `InitializedNotification.model_validate(parsed)` does not raise. -/
  validNotification : Json → Bool
  audience_eq : verifier.domain.audience = "http://127.0.0.1:" ++ toString port ++ "/mcp"

/-- `self.host` -/
def GatewayApp.host (app : GatewayApp) : String := "127.0.0.1:" ++ toString app.port

/-- `self.origin` -/
def GatewayApp.origin (app : GatewayApp) : String := "http://" ++ app.host

/-! ## State -/

/-- What `_sessions` holds of a session: the credential's digest and its expiry. -/
structure Owner where
  credentialHash : String
  expiresAt : ℤ
  deriving DecidableEq

inductive Method
  | post
  | delete
  deriving DecidableEq

/-- Where a call past admission is. -/
inductive CallPhase
  | reading
  /-- A rejection is being sent. -/
  | rejecting
  /-- In the wrapped application, which has not answered; whether the message is an initialized
  notification. -/
  | forwarded (initializesSession : Bool)
  | answered
  | ended
  deriving DecidableEq

/-- A request whose headers are checked: the session it names, or `""`, and whose it is. -/
structure Caller where
  method : Method
  session : String
  credential : String
  claims : Claims
  deriving DecidableEq

/-- A call past admission. -/
structure Call where
  caller : Caller
  body : Bytes
  phase : CallPhase
  deriving DecidableEq

/-- What changes in the application. -/
structure AppState where
  sessions : AList fun _ : String => Owner
  initialized : Finset String
  inflight : ℤ
  calls : List Call

/-- The application as constructed. -/
def AppState.initial : AppState := ⟨∅, ∅, 0, []⟩

/-- `(credential_hash, claims["exp"])` -/
def Caller.owner (c : Caller) : Owner := ⟨sha256Hex c.credential, c.claims.exp⟩

/-- The context attached to a request. -/
def Caller.context (c : Caller) (request : String) : InvocationContext :=
  { principal := c.claims.sub, issuer := c.claims.iss, audience := c.claims.aud,
    session := c.session, request, expiresAt := c.claims.exp }

/-! ## Admission -/

/-- `reject(status, reason)` -/
structure Rejection where
  status : ℕ
  reason : String
  deriving DecidableEq

/-- A request as it arrives, and the clock as it is read on the way. -/
structure Arrival where
  method : String
  headers : List (Bytes × Bytes)
  /-- `scope["client"][0]` -/
  peer : Option String
  scheme : Option String
  path : String
  queryString : Bytes
  decodeClock : ℚ
  verifyClock : ℚ
  /-- The reading as the owner of a session is looked at. -/
  clock : String → ℚ

/-- The headers under their names in lower case, none of them twice. -/
def readHeaders (seen : List (Bytes × Bytes)) :
    List (Bytes × Bytes) → Except Rejection (List (Bytes × Bytes))
  | [] => return seen
  | (key, value) :: rest => do
    ensure (!((seen.lookup (lower key)).isSome || 8192 < value.length))
      ⟨400, "Ambiguous or oversized headers"⟩
    readHeaders (seen ++ [(lower key, value)]) rest

/-- The credential of the authorization header, and its claims. -/
def GatewayApp.authorize (app : GatewayApp) (a : Arrival) (headers : List (Bytes × Bytes)) :
    Option (String × Claims) := do
  let authorization ← decodeAscii ((headers.lookup (ascii "authorization")).getD [])
  if authorization.toList.take 7 = "Bearer ".toList then
    let credential := String.ofList (authorization.toList.drop 7)
    match app.verifier.verify credential a.decodeClock a.verifyClock with
    | .ok claims => some (credential, claims)
    | .error _ => none
  else none

/-- `scope["method"]` -/
def readMethod (method : String) : Option Method :=
  if method = "POST" then some .post else if method = "DELETE" then some .delete else none

/-- The checks of a request before the sessions are looked at. -/
def GatewayApp.identify (app : GatewayApp) (a : Arrival) : Except Rejection Caller := do
  ensure (a.headers.length ≤ 64 &&
    (a.headers.map fun h => h.1.length + h.2.length).sum ≤ 16384) ⟨431, "Header limit"⟩
  let headers ← readHeaders [] a.headers
  ensure (a.peer = some "127.0.0.1" && a.scheme = some "http")
    ⟨403, "Local loopback prototype only"⟩
  ensure (headers.lookup (ascii "host") = some (ascii app.host) &&
    (headers.lookup (ascii "origin")).getD (ascii app.origin) = ascii app.origin)
    ⟨403, "Host or Origin rejected"⟩
  ensure (a.path = "/mcp" && a.queryString = []) ⟨404, "MCP endpoint only"⟩
  match app.authorize a headers with
  | none => throw ⟨401, "Credential rejected"⟩
  | some (credential, claims) =>
    match readMethod a.method with
    | none => throw ⟨405, "Standalone SSE streams are unavailable"⟩
    | some method =>
      ensure (!((headers.lookup (ascii "last-event-id")).isSome ||
        (headers.lookup (ascii "content-encoding")).isSome))
        ⟨400, "Resumption and compressed bodies are unavailable"⟩
      match decodeAscii ((headers.lookup (ascii "mcp-session-id")).getD []) with
      | none => throw ⟨400, "Invalid session"⟩
      | some session => return { method, session, credential, claims }

/-- The sessions not expired, each at its reading of the clock. -/
def unexpired (sessions : AList fun _ : String => Owner) (clock : String → ℚ) :
    AList fun _ : String => Owner where
  entries := sessions.entries.filter fun e => clock e.1 < e.2.expiresAt
  nodupKeys := List.NodupKeys.sublist List.filter_sublist sessions.nodupKeys

/-- The state once the expired sessions are dropped. -/
def AppState.purge (s : AppState) (clock : String → ℚ) : AppState :=
  let sessions := unexpired s.sessions clock
  { s with sessions, initialized := s.initialized.filter (· ∈ sessions) }

/-- The checks against the sessions and the number of calls. -/
def AppState.admission (s : AppState) (c : Caller) : Except Rejection Unit := do
  ensure (c.session = "" || s.sessions.lookup c.session = some c.owner)
    ⟨404, "Session not found"⟩
  ensure (c.session ≠ "" || (c.method = .post && s.sessions.entries.length < maxSessions))
    ⟨503, "Session admission unavailable"⟩
  ensure (s.inflight < maxInflight) ⟨429, "Request limit"⟩

/-! ## Bodies -/

/-- What a wait for the body ends with. -/
inductive Received
  | chunk (body : Bytes) (moreBody : Bool)
  /-- A message of another type. -/
  | other
  | timeout

mutual
/-- No object of the value names a key twice: `_unique_object` does not raise. -/
def uniqueKeys : Json → Bool
  | .list xs => uniqueKeysItems xs
  | .dict kvs => decide (kvs.map Prod.fst).Nodup && uniqueKeysEntries kvs
  | _ => true
/-- `uniqueKeys` on list items. -/
def uniqueKeysItems : List Json → Bool
  | [] => true
  | x :: xs => uniqueKeys x && uniqueKeysItems xs
/-- `uniqueKeys` on dictionary entries. -/
def uniqueKeysEntries : List (String × Json) → Bool
  | [] => true
  | (_, v) :: kvs => uniqueKeys v && uniqueKeysEntries kvs
end

/-- `isinstance(value, (dict, list))` -/
def isContainer : Json → Bool
  | .dict _ | .list _ => true
  | _ => false

/-- `parsed.get("method")` is this text. -/
def hasMethod (parsed : Json) (method : String) : Bool := parsed.get? "method" = some (.str method)

/-- The check of a message: the message, and whether it initializes the session. -/
def GatewayApp.examine (app : GatewayApp) (initialized : Finset String) (session : String)
    (body : Bytes) : Option (Json × Bool) :=
  match app.loads body with
  | some (.dict entries) =>
    let parsed := Json.dict entries
    if !uniqueKeys parsed || (parsed.get? "id").any isContainer then none
    else if session = "" then
      if hasMethod parsed "initialize" then some (parsed, false) else none
    else if hasMethod parsed "initialize" then none
    else if hasMethod parsed "notifications/initialized" then
      if (parsed.get? "id").isSome || session ∈ initialized || !app.validNotification parsed
      then none else some (parsed, true)
    else if session ∈ initialized || hasMethod parsed "ping" then some (parsed, false)
    else none
  | _ => none

/-! ## Steps -/

/-- What happens to the application. -/
inductive AppInput
  | arrive (a : Arrival)
  /-- The identifier `uuid4` gives the request, where it is forwarded. -/
  | receive (place : ℕ) (r : Received) (request : String)
  /-- `http.response.start`, with the values of its session headers. -/
  | answer (place : ℕ) (status : ℤ) (sessionIds : List String)
  /-- The call returns, raises or is cancelled. -/
  | finish (place : ℕ)

/-- What a step shows. -/
inductive AppOutput
  | rejected (r : Rejection)
  | admitted (place : ℕ)
  /-- To the wrapped application, with the message of a `POST`. -/
  | forwarded (context : InvocationContext) (message : Option Json)
  | answered
  | nothing
  deriving DecidableEq

/-- The state with the call at a place in another phase. -/
def AppState.setCall (s : AppState) (place : ℕ) (call : Call) : AppState :=
  { s with calls := s.calls.set place call }

/-- The arrival of a request. -/
def GatewayApp.arrive (app : GatewayApp) (s : AppState) (a : Arrival) : AppState × AppOutput :=
  match app.identify a with
  | .error r => (s, .rejected r)
  | .ok caller =>
    let s := s.purge a.clock
    match s.admission caller with
    | .error r => (s, .rejected r)
    | .ok () =>
      ({ s with inflight := s.inflight + 1, calls := s.calls ++ [⟨caller, [], .reading⟩] },
        .admitted s.calls.length)

/-- The call at a place, its body read to the end. -/
def GatewayApp.forward (app : GatewayApp) (s : AppState) (place : ℕ) (call : Call) (body : Bytes)
    (request : String) : AppState × AppOutput :=
  match call.caller.method with
  | .delete =>
    (s.setCall place { call with body, phase := .forwarded false },
      .forwarded (call.caller.context request) none)
  | .post =>
    match app.examine s.initialized call.caller.session body with
    | none =>
      (s.setCall place { call with body, phase := .rejecting },
        .rejected ⟨400, "Invalid MCP message"⟩)
    | some (parsed, initializesSession) =>
      (s.setCall place { call with body, phase := .forwarded initializesSession },
        .forwarded (call.caller.context request) (some parsed))

/-- The `finally` clause. -/
def AppState.leave (s : AppState) (place : ℕ) (call : Call) : AppState :=
  { s.setCall place { call with phase := .ended } with inflight := s.inflight - 1 }

/-- What the wait of a call for its body ends with. -/
def GatewayApp.receive (app : GatewayApp) (s : AppState) (place : ℕ) (call : Call) (r : Received)
    (request : String) : AppState × AppOutput :=
  match r with
  | .other => (s.leave place call, .nothing)
  | .timeout =>
    (s.setCall place { call with phase := .rejecting }, .rejected ⟨408, "Request body timeout"⟩)
  | .chunk more moreBody =>
    let body := call.body ++ more
    if maxBody < body.length then
      (s.setCall place { call with body, phase := .rejecting }, .rejected ⟨413, "Body limit"⟩)
    else if moreBody then (s.setCall place { call with body }, .nothing)
    else app.forward s place call body request

/-- `200 <= status < 300` -/
def isSuccess (status : ℤ) : Bool := 200 ≤ status && status < 300

/-- `bound_send`, for `http.response.start`. -/
def AppState.boundSend (s : AppState) (caller : Caller) (initializesSession : Bool) (status : ℤ)
    (sessionIds : List String) : AppState :=
  let initialized :=
    if initializesSession && status = 202 then insert caller.session s.initialized
    else s.initialized
  if isSuccess status then
    let sessions := sessionIds.foldl (fun sessions id => sessions.insert id caller.owner) s.sessions
    if caller.method = .delete then
      { s with
        sessions := sessions.erase caller.session
        initialized := initialized.erase caller.session }
    else { s with sessions, initialized }
  else { s with initialized }

/-- The application as a system; a step a call is not at changes nothing. -/
def GatewayApp.machine (app : GatewayApp) : Machine AppState AppInput AppOutput where
  step s
    | .arrive a => app.arrive s a
    | .receive place r request =>
      match s.calls[place]? with
      | some call =>
        if call.phase = .reading then app.receive s place call r request else (s, .nothing)
      | none => (s, .nothing)
    | .answer place status sessionIds =>
      match s.calls[place]? with
      | some call =>
        match call.phase with
        | .forwarded initializesSession =>
          ((s.boundSend call.caller initializesSession status sessionIds).setCall place
            { call with phase := .answered }, .answered)
        | _ => (s, .nothing)
      | none => (s, .nothing)
    | .finish place =>
      match s.calls[place]? with
      | some call => if call.phase = .ended then (s, .nothing) else (s.leave place call, .nothing)
      | none => (s, .nothing)

end CivicGate.Mcp
