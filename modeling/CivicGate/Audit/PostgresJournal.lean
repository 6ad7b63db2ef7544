import CivicGate.Audit.History.Append
import CivicGate.Framework.Program
import CivicGate.Framework.Transaction

/-!
# The PostgreSQL dispatch journal

`audit/postgres_journal.py`: the durable journal of one execution domain.  A method that records
an event runs one transaction: it reads the domain's row and its whole history, validates the
history, checks that nothing moved since its own last transaction, and appends one event with
the row's new projection.  Any failure stops the journal for good.

The database serializes the transactions on a domain's row, so each is one step.  What the
database answers, whether a commit takes effect and whether its acknowledgement arrives, the
caller's credential and the clock are `Surroundings` of a call.
-/

namespace CivicGate

/-! ## The database -/

/-- The row of `domain_state`. -/
structure DomainRow where
  domainJson : String
  revision : String
  sourceSha : String
  epoch : ℕ
  ownerId : Option String
  ownerActive : Bool
  denials : ℕ
  held : Bool
  sequence : ℕ
  digest : String
  deriving DecidableEq

/-- The rows of one domain, its events in the order of their sequence numbers. -/
structure Ledger where
  row : Option DomainRow := none
  events : List Row := []
  deriving DecidableEq

/-- The row with the projection of a state. -/
def DomainRow.project (r : DomainRow) (s : LedgerState) : DomainRow :=
  { r with
    epoch := s.epoch
    ownerId := s.ownerId
    ownerActive := s.ownerActive
    denials := s.denials
    held := s.held
    sequence := s.sequence
    digest := s.digest }

/-- What stops a transaction: a `LocalHold`, or any other exception. -/
inductive Fault
  | hold (code : String)
  | driver
  deriving DecidableEq

/-- What a session answers. -/
structure Session where
  /-- `connect()` and every statement before the writes return. -/
  responds : Bool
  autocommit : Bool
  fsync : String
  synchronousCommit : String
  versions : List ℤ
  lock : Bool
  /-- The `INSERT`, the `UPDATE` and closing the cursor return. -/
  writes : Bool

/-- `_connection` -/
def Session.connection (x : Session) : Except Fault Unit := do
  ensure x.responds .driver
  ensure (!x.autocommit) (.hold "POSTGRES_TRANSACTION_REQUIRED")

/-- `_prepare` -/
def Session.prepare (x : Session) : Except Fault Unit := do
  ensure x.responds .driver
  ensure (x.fsync = "on") (.hold "POSTGRES_DURABILITY_UNAVAILABLE")
  ensure (x.synchronousCommit = "on") (.hold "POSTGRES_DURABILITY_UNAVAILABLE")
  ensure (x.versions = [1]) (.hold "POSTGRES_SCHEMA_UNSUPPORTED")

/-- `_claim_lock` -/
def Session.claimLock (x : Session) : Except Fault Unit :=
  ensure x.lock (.hold "POSTGRES_OWNER_CONFLICT")

/-! ## Transactions -/

/-- `replay`, raising. -/
def replayOrHold (l : LedgerIdentity) (rows : List Row) : Except Fault LedgerState :=
  match replay l rows with
  | some s => .ok s
  | none => .error (.hold "HISTORY_INVALID")

/-- `_load` -/
def Ledger.load (db : Ledger) (l : LedgerIdentity) : Except Fault (LedgerState × List Row) :=
  match db.row with
  | none => .error (.hold "POSTGRES_DOMAIN_NOT_PROVISIONED")
  | some row => do
    ensure (row.domainJson = canonical true l.domain.toJson && row.revision = l.revision &&
      row.sourceSha = l.sourceSha) (.hold "POSTGRES_DOMAIN_OR_SOURCE_MISMATCH")
    let rows := db.events.take (maxEvents + 1)
    let state ← replayOrHold l rows
    ensure (row.project state = row) (.hold "POSTGRES_PROJECTION_INVALID")
    return (state, rows)

/-- `SQL_EVENT`: the sequence number is part of the primary key. -/
def Ledger.insertEvent (db : Ledger) (row : Row) : Except Fault Ledger := do
  ensure (db.events.all (·.sequence ≠ row.sequence)) .driver
  return { db with events := db.events ++ [row] }

/-- `SQL_UPDATE`, which must match one row. -/
def Ledger.updateState (db : Ledger) (l : LedgerIdentity) (state after : LedgerState) :
    Except Fault Ledger :=
  match db.row with
  | none => .error (.hold "POSTGRES_OWNER_FENCE_REJECTED")
  | some row => do
    ensure (row.epoch = state.epoch && row.ownerId = state.ownerId &&
      row.ownerActive = state.ownerActive && row.sequence = state.sequence &&
      row.digest = state.digest && row.revision = l.revision && row.sourceSha = l.sourceSha)
      (.hold "POSTGRES_OWNER_FENCE_REJECTED")
    return { db with row := some (row.project after) }

/-- `_append` -/
def Ledger.append (db : Ledger) (l : LedgerIdentity) (state : LedgerState) (rows : List Row)
    (writes : Bool) (event : Json) : Except Fault (Ledger × LedgerState) := do
  -- `json.dumps` refuses an integer of more digits than `json.loads` would take.
  ensure event.withinDigits (.hold "HISTORY_SERIALIZATION_INVALID")
  let row := rowAfter state.sequence state.digest event
  let after ← replayOrHold l (rows ++ [row])
  ensure writes .driver
  let db ← db.insertEvent row
  let db ← db.updateState l state after
  return (db, after)

/-- `SQL_PROVISION`: the domain's key is the primary key. -/
def Ledger.insertDomain (db : Ledger) (l : LedgerIdentity) : Except Fault Ledger := do
  ensure db.row.isNone .driver
  return { db with
    row := some {
      domainJson := canonical true l.domain.toJson
      revision := l.revision
      sourceSha := l.sourceSha
      epoch := 0
      ownerId := none
      ownerActive := false
      denials := 0
      held := false
      sequence := 0
      digest := "" } }

/-- `read_source_identity`; the manifest's digest is `none` where it cannot be verified. -/
def readSourceIdentity (revision : String) (manifestSha : Option String) : Except Fault String := do
  ensure (isHex revision 40) (.hold "SOURCE_REVISION_INVALID")
  match manifestSha with
  | some sha => return sha
  | none => throw (.hold "SOURCE_IDENTITY_UNVERIFIABLE")

/-- The transaction of `provision_postgres_domain`. -/
def provisionTransaction (d : Domain) (revision : String) (manifestSha : Option String)
    (x : Session) (db : Ledger) : Except Fault (Ledger × LedgerState) := do
  let source ← readSourceIdentity revision manifestSha
  let l : LedgerIdentity := ⟨d.key, d, revision, source⟩
  x.connection
  x.prepare
  x.claimLock
  let db ← db.insertDomain l
  db.append l {} [] x.writes (provisionJson l)

/-- `provision_postgres_domain`: the ledger it leaves, and whether it returned. -/
def provisionPostgresDomain (d : Domain) (revision : String) (manifestSha : Option String)
    (x : Session) (commit : Commit) (db : Ledger) : Except String Unit × Ledger :=
  match provisionTransaction d revision manifestSha x db, commit with
  | .ok (after, _), .acknowledged => (.ok (), after)
  | .ok (after, _), .lost => (.error "POSTGRES_PROVISION_UNCONFIRMED", after)
  | _, _ => (.error "POSTGRES_PROVISION_UNCONFIRMED", db)

/-! ## What is recorded -/

/-- `InvocationContext.evidence` -/
def Context.toJson (c : Context) : Json :=
  .dict [("principal", .str c.principal), ("issuer", .str c.issuer),
    ("audience", .str c.audience), ("session", .str c.session), ("request", .str c.request),
    ("expires_at", .int c.expiresAt)]

def policyEvidenceFields : List String :=
  ["initial_decision", "reasons", "binding_issued", "binding_issuance_error"]

def finishEvidenceFields : List String :=
  ["pre_dispatch_verification", "execution_boundary_error", "attempts"]

/-- The attempts of the evidence; `none` where they are not the records of attempts. -/
def attemptEvidence (evidence : List (String × Json)) : Option (List Json) :=
  match evidence.lookup "attempts" with
  | some (.list xs) => if xs.all (·.hasFields attemptRecordFields) then some xs else none
  | _ => none

/-- The fields of an attempt that the ledger keeps. -/
def projectAttempt (record : Json) : Json :=
  .dict (attemptFields.map fun key => (key, (record.get? key).getD .null))

/-- `unknown`: the call was dispatched and how it ended is not known for sure. -/
def Envelope.outcomeUnknown (e : Envelope) (attempts : List Json) : Bool :=
  e.toolExecuted && (!e.attemptMetadataAvailable || e.dispatchState ≠ .requestConfirmed ||
    e.responseState ≠ .responseReceived ||
    attempts.any fun a => a.get? "dispatch_state" = some (.str "DISPATCH_UNKNOWN") ||
      a.get? "response_state" = some (.str "TRANSPORT_ERROR"))

/-- What `finish` makes of an envelope whose outcome is unknown. -/
def Envelope.withUnknownOutcome (e : Envelope) : Envelope :=
  { e with
    dispatchState := .dispatchUnknown
    nextAction := .humanReviewRequired
    clarification := some "DISPATCH_UNKNOWN: durable HOLD; no retry or failover."
    result := none
    errors := e.errors.map fun error => { error with retryable := false } }

/-- The envelope a `finish` leaves, given the records of its attempts. -/
def Envelope.finished (e : Envelope) (records : List Json) : Envelope :=
  if e.outcomeUnknown (records.map projectAttempt) then e.withUnknownOutcome else e

/-- `binding_consumption` -/
def consumptionText (verification : Json) : String :=
  if verification = .str "PASS" then "VERIFIED"
  else if verification = .str "FAIL" then "NOT_ESTABLISHED"
  else "NOT_REQUIRED"

/-- The fields of a `finish` event. -/
def finishFields (e : Envelope) (denials : ℤ) (evidence : List (String × Json))
    (records : List Json) : List (String × Json) :=
  let after := e.finished records
  let verification := (evidence.lookup "pre_dispatch_verification").getD .null
  [("request_id", .str e.requestId), ("denials", .int denials),
    ("hold", .bool (e.outcomeUnknown (records.map projectAttempt))),
    ("final_decision", .str e.decision.text),
    ("phase", .str (if e.toolExecuted then "post_dispatch" else "pre_dispatch")),
    ("tool_executed", .bool e.toolExecuted), ("dispatch_state", .str after.dispatchState.text),
    ("response_state", .str after.responseState.text),
    ("next_action", .str after.nextAction.text),
    ("pre_dispatch_verification", verification),
    ("binding_consumption", .str (consumptionText verification)),
    ("execution_boundary_error", (evidence.lookup "execution_boundary_error").getD .null),
    ("attempt_metadata_available", .bool e.attemptMetadataAvailable),
    ("attempts", .list (records.map projectAttempt)),
    ("policy_reasons", .list (e.governance.policyReasons.map .str)),
    ("error_codes", .list (after.errors.map fun error => .str error.code))]

/-! ## A journal -/

/-- `PostgresDispatchJournal`, `connected` telling whether `_db` is set. -/
structure PostgresJournal where
  instanceId : String
  revision : String
  sourceSha : String
  ownerId : String
  connected : Bool := false
  state : LedgerState := {}
  poisoned : Bool := false
  closed : Bool := false

/-- `held` -/
def PostgresJournal.held (j : PostgresJournal) : Bool := j.poisoned || j.state.held

/-- What a journal's history is validated against. -/
def PostgresJournal.identity (j : PostgresJournal) (d : Domain) : LedgerIdentity :=
  ⟨d.key, d, j.revision, j.sourceSha⟩

/-- What a journal finds around it during a call. -/
structure Surroundings where
  session : Session
  commit : Commit
  /-- `invocation_context.get()` -/
  context : Option Context
  /-- The readings of `time()`: at the first check of the context, in the event, at the second. -/
  checkTime : PyFloat
  eventTime : PyFloat
  recheckTime : PyFloat

/-- The check of `owner_id` in `__init__`. -/
def isOwnerId (s : String) : Bool :=
  isText s 128 && s.toList.all fun c => c.isAlphanum || c ∈ ['_', '.', ':', '-']

/-- What a journal is constructed with. -/
structure Configuration where
  instanceId : String
  revision : String
  manifestSha : Option String
  ownerId : String

/-- A journal and the ledger it writes to. -/
structure Desk where
  ledger : Ledger
  journal : PostgresJournal

/-- A method of a journal. -/
abbrev JournalProgram := Program Desk Fault

/-- `_event` -/
def PostgresJournal.event (j : PostgresJournal) (d : Domain) (kind : EventKind) (epoch : ℕ)
    (time : PyFloat) (fields : List (String × Json)) : Json :=
  (Json.dict ([("kind", .str kind.text), ("domain_key", .str d.key), ("epoch", .int epoch),
    ("owner_id", .str j.ownerId), ("instance", .str j.instanceId),
    ("source_revision", .str j.revision), ("source_sha256", .str j.sourceSha),
    ("time", .float time)] ++ fields)).normalize

/-- The code of the `LocalHold` that `_stop` raises. -/
def Fault.code : Fault → String
  | .hold code =>
    if isText code 128 && code.toList.all (· ∈ codeChars) then code
    else "POSTGRES_TRANSACTION_UNCONFIRMED"
  | .driver => "POSTGRES_TRANSACTION_UNCONFIRMED"

/-- `_poisoned = True` and `_release()` -/
def PostgresJournal.stopped (j : PostgresJournal) : PostgresJournal :=
  { j with poisoned := true, connected := false }

namespace PostgresJournal

/-- `try: p` with `except BaseException as exc: self._stop(exc)`. -/
def stopping {α : Type} (p : JournalProgram α) : JournalProgram α :=
  try p catch e => do
    modify fun k => { k with journal := k.journal.stopped }
    throw (.hold e.code)

/-- Commit what a transaction computed and keep the state it led to. -/
def settle (commit : Commit) (transaction : Except Fault (Ledger × LedgerState)) :
    JournalProgram Unit := stopping do
  let (ledger, state) ← Program.lift transaction
  match commit with
  | .acknowledged => modify fun k => { ledger, journal := { k.journal with state } }
  | .lost => do
    modify fun k => { k with ledger }
    throw .driver
  | .rolledBack => throw .driver

variable (d : Domain) (x : Surroundings)

/-- The transaction of a constructor. -/
def bootTransaction (j : PostgresJournal) (db : Ledger) :
    Except Fault (Ledger × LedgerState) := do
  x.session.connection
  x.session.prepare
  x.session.claimLock
  let (state, rows) ← db.load (j.identity d)
  ensure (!state.held && state.active = none && !state.ownerActive)
    (.hold "POSTGRES_RECOVERY_HOLD")
  db.append (j.identity d) state rows x.session.writes
    (j.event d .boot (state.epoch + 1) x.eventTime [])

/-- The transaction of `_run`; `event` is the kind and the fields of what it appends. -/
def runTransaction (j : PostgresJournal)
    (event : Option (EventKind × List (String × Json))) (db : Ledger) :
    Except Fault (Ledger × LedgerState) := do
  x.session.prepare
  let (state, rows) ← db.load (j.identity d)
  ensure (state.epoch = j.state.epoch && state.ownerId = some j.ownerId && state.ownerActive &&
    state = j.state) (.hold "POSTGRES_OWNER_OR_HISTORY_CHANGED")
  match event with
  | none => return (db, state)
  | some (kind, fields) =>
    db.append (j.identity d) state rows x.session.writes
      (j.event d kind j.state.epoch x.eventTime fields)

/-- `_run` -/
def run (event : Option (EventKind × List (String × Json))) : JournalProgram Unit := do
  let k ← get
  if k.journal.closed || k.journal.held || !k.journal.connected then
    throw (.hold "POSTGRES_DURABLE_HOLD")
  else
    settle x.commit (k.journal.runTransaction d x event k.ledger)

/-- `_context` -/
def callerContext (time : PyFloat) : JournalProgram Context :=
  match x.context with
  | none => throw (.hold "AUTH_CONTEXT_INVALID_OR_EXPIRED")
  | some c =>
    if c.principal = d.principal ∧ c.issuer = d.issuer ∧ c.audience = d.audience ∧
        time.value < c.expiresAt then
      return c
    else throw (.hold "AUTH_CONTEXT_INVALID_OR_EXPIRED")

/-- `admit` -/
def admitCall : JournalProgram ℕ := stopping do
  let k ← get
  if k.journal.state.active ≠ none then throw (.hold "POSTGRES_REQUEST_ACTIVE")
  let _ ← callerContext d x x.checkTime
  run d x none
  let _ ← callerContext d x x.recheckTime
  return (← get).journal.state.denials

/-- `begin` -/
def begin (requestId : String) : JournalProgram Unit := stopping do
  let context ← callerContext d x x.checkTime
  run d x (some (.begin, [("request_id", .str requestId), ("context", context.toJson)]))

/-- `policy` -/
def policy (requestId : String) (evidence : List (String × Json)) : JournalProgram Unit :=
  stopping do
    if !(Json.dict evidence).hasFields policyEvidenceFields then
      throw (.hold "POSTGRES_POLICY_EVIDENCE_INVALID")
    run d x (some (.policy, ("request_id", .str requestId) :: evidence))

/-- `intent`; `none` is a value that is no `AuthorityEnvelope`. -/
def intent (authority : Option AuthorityEnvelope) : JournalProgram Unit := stopping do
  let k ← get
  match authority with
  | none => throw (.hold "POSTGRES_INTENT_BINDING_MISSING")
  | some a =>
    if some a.binding.requestId ≠ k.journal.state.active then
      throw (.hold "POSTGRES_INTENT_BINDING_MISSING")
    let context ← callerContext d x x.checkTime
    run d x (some (.intent, [("request_id", optStr k.journal.state.active),
      ("context", context.toJson), ("authority", a.auditRecord),
      ("containment_denials", .int k.journal.state.denials),
      ("dispatch_state", .str "NOT_DISPATCHED")]))
    let _ ← callerContext d x x.recheckTime
    return

/-- `finish` -/
def finish (envelope : Envelope) (denials : ℤ) (evidence : List (String × Json)) :
    JournalProgram Unit := stopping do
  if !(Json.dict evidence).hasFields finishEvidenceFields then
    throw (.hold "POSTGRES_FINISH_EVIDENCE_INVALID")
  match attemptEvidence evidence with
  | none => throw (.hold "POSTGRES_ATTEMPT_EVIDENCE_INVALID")
  | some records => run d x (some (.finish, finishFields envelope denials evidence records))

/-- `failed` -/
def failed : JournalProgram Unit :=
  Program.thenAlways
    (try do
      let k ← get
      if !k.journal.held && !k.journal.closed then
        run d x (some (.hold, [("request_id", optStr k.journal.state.active),
          ("reason", .str "INCOMPLETE_CALL"), ("hold", .bool true),
          ("dispatch_state", .str "DISPATCH_UNKNOWN"),
          ("response_state", .str "TRANSPORT_ERROR")]))
    catch _ => pure ())
    (fun k => { k with journal := k.journal.stopped })

/-- `close` -/
def close : JournalProgram Unit :=
  Program.thenAlways
    (do
      let k ← get
      if !k.journal.closed && !k.journal.held && k.journal.state.active = none then
        run d x (some (.close, []))
      else if k.journal.state.active ≠ none then
        modify fun k => { k with journal := { k.journal with poisoned := true } })
    (fun k => { k with journal := { k.journal with closed := true, connected := false } })

/-- `__init__` on the object it makes.  An object whose constructor raised is left stopped. -/
def construct (c : Configuration) : JournalProgram Unit :=
  stopping do
    let sourceSha ← Program.lift (readSourceIdentity c.revision c.manifestSha)
    if !isOwnerId c.ownerId then throw (.hold "POSTGRES_OWNER_ID_INVALID")
    modify fun k => { k with journal := { k.journal with sourceSha, connected := true } }
    let k ← get
    settle x.commit (k.journal.bootTransaction d x k.ledger)

end PostgresJournal

/-- The object a constructor starts from. -/
def Configuration.fresh (c : Configuration) : PostgresJournal where
  instanceId := c.instanceId
  revision := c.revision
  sourceSha := ""
  ownerId := c.ownerId

/-! ## Any number of journals -/

/-- A method called on a journal. -/
inductive JournalCall
  | admitCall
  | begin (requestId : String)
  | policy (requestId : String) (evidence : List (String × Json))
  | intent (authority : Option AuthorityEnvelope)
  | finish (envelope : Envelope) (denials : ℤ) (evidence : List (String × Json))
  | failed
  | close

/-- The method, its value dropped. -/
def JournalCall.program (d : Domain) (x : Surroundings) : JournalCall → JournalProgram Unit
  | .admitCall => do let _ ← PostgresJournal.admitCall d x
  | .begin r => PostgresJournal.begin d x r
  | .policy r evidence => PostgresJournal.policy d x r evidence
  | .intent authority => PostgresJournal.intent d x authority
  | .finish envelope denials evidence => PostgresJournal.finish d x envelope denials evidence
  | .failed => PostgresJournal.failed d x
  | .close => PostgresJournal.close d x

/-- A ledger and the journals constructed over it, in the order of their construction. -/
structure Deployment where
  ledger : Ledger := {}
  journals : List PostgresJournal := []

/-- One step of a deployment. -/
inductive JournalInput
  | provision (revision : String) (manifestSha : Option String) (session : Session)
      (commit : Commit)
  | construct (c : Configuration) (x : Surroundings)
  | call (i : ℕ) (call : JournalCall) (x : Surroundings)

/-- What a step leaves: the rows it appended durably, and how it ended. -/
structure JournalOutput where
  appended : List Row
  result : Except String Unit

/-- The rows a step added. -/
def Ledger.since (after before : Ledger) : List Row := after.events.drop before.events.length

/-- A result with the code a `LocalHold` carries. -/
def codeOf (result : Except Fault Unit) : Except String Unit := Except.reraise result Fault.code

/-- Every interleaving of the journals' methods is a list of inputs of this machine. -/
def journalMachine (d : Domain) : Machine Deployment JournalInput JournalOutput where
  step w
    | .provision revision manifestSha session commit =>
      let (result, ledger) :=
        provisionPostgresDomain d revision manifestSha session commit w.ledger
      ({ w with ledger }, ⟨ledger.since w.ledger, result⟩)
    | .construct c x =>
      let (result, k) := (PostgresJournal.construct d x c).run ⟨w.ledger, c.fresh⟩
      ({ ledger := k.ledger, journals := w.journals ++ [k.journal] },
        ⟨k.ledger.since w.ledger, codeOf result⟩)
    | .call i call x =>
      match w.journals[i]? with
      | none => (w, ⟨[], .ok ()⟩)
      | some j =>
        let (result, k) := (call.program d x).run ⟨w.ledger, j⟩
        ({ ledger := k.ledger, journals := w.journals.set i k.journal },
          ⟨k.ledger.since w.ledger, codeOf result⟩)

end CivicGate
