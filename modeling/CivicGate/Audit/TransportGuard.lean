import CivicGate.Audit.PostgresEffects

/-!
# The guarded transport

`audit/postgres_transport_guard_v1.py`: before a request goes to the inner transport, one more
transaction on the journal's own session checks that the ledger ends with the intent of the
active request, in the epoch and for the owner the transport was built with, and that the
session still holds the owner's lock.  A check that fails stops the journal.

The check runs under the journal's mutex, so it is one step; what it finds is a `Checkpoint`.
Between two steps the ledger and the journal may become anything, except that nothing resets
`_poisoned`.  `close` of a cursor or a connection raises no more than an `Exception`, which the
code swallows.
-/

namespace CivicGate

/-! ## Sessions and locks -/

/-- A value of a row the driver returns. -/
inductive Cell
  | int (n : ℤ)
  | text (s : String)
  | other
  deriving DecidableEq

/-- What identifies a backend: `_session` returns nothing else. -/
structure Backend where
  pid : ℤ
  database : ℤ
  databaseName : String
  user : String
  started : String
  positive : 0 < pid ∧ 0 < database
  named : databaseName ≠ "" ∧ user ≠ "" ∧ started ≠ ""
  deriving DecidableEq

/-- `_session`, given the row `SQL_SESSION` answers; `none` is no tuple. -/
def Backend.read : Option (List Cell) → Except Fault Backend
  | some [.int pid, .int database, .text databaseName, .text user, .text started] =>
    if h : (0 < pid ∧ 0 < database) ∧ databaseName ≠ "" ∧ user ≠ "" ∧ started ≠ "" then
      .ok { pid, database, databaseName, user, started, positive := h.1, named := h.2 }
    else .error (.hold "POSTGRES_SESSION_UNVERIFIED")
  | _ => .error (.hold "POSTGRES_SESSION_UNVERIFIED")

/-- A row of `pg_locks`. -/
structure LockRow where
  locktype : String
  granted : Bool
  mode : String
  pid : ℤ
  database : ℤ
  classid : ℤ
  objid : ℤ
  objsubid : ℤ
  deriving DecidableEq

/-- `int.from_bytes(bytes.fromhex(key)[:8], "big")` -/
def lockKey (domainKey : String) : ℤ :=
  (domainKey.toList.take 16).foldl (fun n c => 16 * n + ((hexValue c).getD 0 : ℕ)) 0

/-- The condition of `SQL_OWNED_LOCK`. -/
def LockRow.owned (row : LockRow) (b : Backend) (domainKey : String) : Bool :=
  row.locktype = "advisory" && row.granted && row.mode = "ExclusiveLock" && row.pid = b.pid &&
    row.database = b.database && row.classid = lockKey domainKey / 2 ^ 32 &&
    row.objid = lockKey domainKey % 2 ^ 32 && row.objsubid = 1

/-- What `SQL_OWNED_LOCK` answers. -/
inductive LockAnswer
  /-- The truth about these rows of `pg_locks`. -/
  | table (rows : List LockRow)
  /-- A row that holds no Boolean. -/
  | malformed
  | raises

/-- `owned`, where it is a Boolean. -/
def LockAnswer.owned (b : Backend) (domainKey : String) : LockAnswer → Except Fault Bool
  | .table rows => .ok (rows.any (·.owned b domainKey))
  | .malformed => .error (.hold "POSTGRES_GUARD_LOCK_UNVERIFIED")
  | .raises => .error .driver

/-! ## State -/

/-- What `_current_generation` returns. -/
structure Generation where
  domain : Domain
  instanceId : String
  domainKey : String
  ownerId : String
  epoch : ℕ
  revision : String
  sourceSha : String
  deriving DecidableEq

/-- A journal with its ledger, the attributes that its methods never assign, and the connection
that `_db` is where it is set. -/
structure GuardedJournal where
  desk : Desk
  domain : Domain
  domainKey : String
  connection : ℕ

/-- `journal._db` -/
def GuardedJournal.db (w : GuardedJournal) : Option ℕ :=
  if w.desk.journal.connected then some w.connection else none

/-- `_current_generation` -/
def GuardedJournal.generation (w : GuardedJournal) : Generation where
  domain := w.domain
  instanceId := w.desk.journal.instanceId
  domainKey := w.domainKey
  ownerId := w.desk.journal.ownerId
  epoch := w.desk.journal.state.epoch
  revision := w.desk.journal.revision
  sourceSha := w.desk.journal.sourceSha

/-- `GuardedPostgresTransport` -/
structure GuardedPostgresTransport where
  connection : Option ℕ
  generation : Generation
  session : Backend
  delegated : Finset String := ∅
  primaryFailure : Bool := false

/-- A transport and the journal it guards. -/
structure Guard where
  transport : GuardedPostgresTransport
  guarded : GuardedJournal

/-- What one check finds. -/
structure Checkpoint where
  /-- `autocommit` of the connection, each time it is read. -/
  autocommit : Bool
  autocommitAfter : Bool
  autocommitLast : Bool
  /-- The session, the commit, the caller's credential and the clock. -/
  surroundings : Surroundings
  backend : Option (List Cell)
  locks : LockAnswer
  /-- `cursor.close()` and `rollback()` return. -/
  closes : Bool
  rollsBack : Bool
  /-- The caller's credential once the commit returned. -/
  contextAfter : Option Context
  /-- What the transaction of a `hold` finds. -/
  ledgerAtHold : Ledger
  hold : Surroundings

/-! ## Construction -/

/-- `_require_connection`, for the connection and the generation that were pinned. -/
def GuardedJournal.requireConnection (w : GuardedJournal) (connection : Option ℕ)
    (pinned : Generation) (autocommit : Bool) : Except Fault Unit :=
  ensure (!w.desk.journal.closed && !w.desk.journal.held && connection ≠ none &&
    w.db = connection && !autocommit && w.generation = pinned && w.domain.key = w.domainKey)
    (.hold "POSTGRES_GUARD_SESSION_OR_GENERATION_CHANGED")

/-- `self._journal._stop(error)`; closing a pinned connection that was replaced changes nothing
here. -/
def GuardedJournal.stopped (w : GuardedJournal) : GuardedJournal :=
  { w with desk := { w.desk with journal := w.desk.journal.stopped } }

/-- `__init__`: the object it makes, or the code it raises, and the journal it leaves. -/
def GuardedPostgresTransport.construct (c : Checkpoint) (w : GuardedJournal) :
    Except String GuardedPostgresTransport × GuardedJournal :=
  let checked : Except Fault Backend := do
    w.requireConnection w.db w.generation c.autocommit
    c.surroundings.session.prepare
    let session ← Backend.read c.backend
    ensure c.closes .driver
    ensure (c.surroundings.commit = .acknowledged) .driver
    w.requireConnection w.db w.generation c.autocommitAfter
    return session
  match checked with
  | .ok session => (.ok { connection := w.db, generation := w.generation, session }, w)
  | .error e => (.error e.code, w.stopped)

/-! ## The check -/

/-- What the handler of `_verify` catches, with `logical_rejection_safe`. -/
structure Rejection where
  error : Fault
  safe : Bool

/-- An exception of the body, with `logical_rejection_safe` as it stands. -/
def rejecting {α : Type} (safe : Bool) (x : Except Fault α) : Except Rejection α :=
  Except.reraise x fun error => ⟨error, safe⟩

/-- `json.loads(rows[-1][3])["context"]` -/
def lastContext (rows : List Row) : Except Fault Json :=
  match (rows.getLast?.bind fun row => loads row.payload).bind (·.get? "context") with
  | some v => .ok v
  | none => .error .driver

/-- `_context` of the guarded journal. -/
def GuardedJournal.context (w : GuardedJournal) (x : Surroundings) (time : PyFloat) :
    Except Fault Context :=
  ((PostgresJournal.callerContext w.domain x time).run w.desk).1

/-- The last check before the commit, of a state `_load` returned: the request it permits. -/
def GuardedPostgresTransport.activeIntent (t : GuardedPostgresTransport) (state : LedgerState)
    (rows : List Row) (context : Context) : Except Fault String :=
  match state.active with
  | none => .error (.hold "POSTGRES_GUARD_INTENT_UNVERIFIED_OR_REUSED")
  | some requestId => do
    ensure (state.phase = some .intent && state.initialDecision = some .permit &&
      state.bindingIssued && requestId ∉ t.delegated && t.delegated.card < maxEvents)
      (.hold "POSTGRES_GUARD_INTENT_UNVERIFIED_OR_REUSED")
    let recorded ← lastContext rows
    ensure (recorded = context.toJson.normalize)
      (.hold "POSTGRES_GUARD_INTENT_UNVERIFIED_OR_REUSED")
    return requestId

/-- The body of `_verify`, up to `_delegated.add`: the request it may delegate. -/
def Guard.inspect (g : Guard) (c : Checkpoint) : Except Rejection String := do
  let w := g.guarded
  let t := g.transport
  rejecting false (w.requireConnection t.connection t.generation c.autocommit)
  let context ← rejecting false (w.context c.surroundings c.surroundings.checkTime)
  rejecting false c.surroundings.session.prepare
  let session ← rejecting false (Backend.read c.backend)
  rejecting false (ensure (session = t.session) (.hold "POSTGRES_GUARD_BACKEND_CHANGED"))
  let (state, rows) ← rejecting false (w.desk.ledger.load (w.desk.journal.identity w.domain))
  rejecting false (ensure (state = w.desk.journal.state && state.epoch = t.generation.epoch &&
    state.ownerId = some t.generation.ownerId && state.ownerActive && !state.held)
    (.hold "POSTGRES_GUARD_HISTORY_CHANGED"))
  let owned ← rejecting false (c.locks.owned t.session w.domainKey)
  rejecting true (ensure owned (.hold "POSTGRES_GUARD_LOCK_LOST"))
  let requestId ← rejecting true (t.activeIntent state rows context)
  rejecting true (ensure c.closes .driver)
  rejecting false (ensure (c.surroundings.commit = .acknowledged) .driver)
  rejecting false (w.requireConnection t.connection t.generation c.autocommitAfter)
  let after ← rejecting true
    (w.context { c.surroundings with context := c.contextAfter } c.surroundings.recheckTime)
  rejecting true (ensure (after = context) (.hold "POSTGRES_GUARD_CONTEXT_CHANGED"))
  return requestId

/-! ## Methods -/

/-- A method of a transport. -/
abbrev GuardProgram := Program Guard Fault

namespace Guard

/-- A method of the guarded journal. -/
def journal (p : Domain → JournalProgram Unit) : GuardProgram Unit := do
  let g ← get
  let (result, desk) := (p g.guarded.domain).run g.guarded.desk
  set { g with guarded := { g.guarded with desk } }
  Program.lift result

/-- `_stop` -/
def stop {α : Type} (e : Fault) : GuardProgram α := do
  modify fun g => { g with guarded := g.guarded.stopped }
  throw (.hold e.code)

/-- The handler of `_verify`. -/
def reject (c : Checkpoint) (r : Rejection) : GuardProgram String :=
  match r.error, r.safe with
  | .hold _, true => do
    let g ← get
    (try do
      Program.lift (g.guarded.requireConnection g.transport.connection g.transport.generation
        c.autocommitLast)
      Program.lift (ensure c.rollsBack .driver)
    catch e => stop e)
    -- Its transaction ended, so other owners may append before the one of the hold.
    modify fun g => { g with
      guarded := { g.guarded with desk := { g.guarded.desk with ledger := c.ledgerAtHold } } }
    journal fun d => PostgresJournal.failed d c.hold
    stop r.error
  | _, _ => stop r.error

/-- `_verify` -/
def verify (c : Checkpoint) : GuardProgram String := do
  let g ← get
  match g.inspect c with
  | .ok requestId => do
    modify fun g => { g with
      transport := { g.transport with delegated := insert requestId g.transport.delegated } }
    return requestId
  | .error r => reject c r

/-- `_primary_failure = value` -/
def setPrimaryFailure (value : Bool) : GuardProgram Unit :=
  modify fun g => { g with transport := { g.transport with primaryFailure := value } }

/-- `handle_async_request`, up to the inner transport: the request it hands over. -/
def handleAsyncRequest (c : Checkpoint) : GuardProgram String := do
  setPrimaryFailure false
  try verify c
  catch e => do
    setPrimaryFailure true
    throw e

/-- `aclose`, given whether the inner one raises. -/
def aclose (innerRaises : Bool) (x : Surroundings) : GuardProgram Unit := do
  let g ← get
  if innerRaises && !g.transport.primaryFailure then do
    journal fun d => PostgresJournal.failed d x
    throw (.hold "POSTGRES_GUARD_TRANSPORT_CLEANUP_FAILED")

/-- `__aexit__`, given whether there is an exception. -/
def aexit (raised innerRaises : Bool) (x : Surroundings) : GuardProgram Unit := do
  let g ← get
  setPrimaryFailure (g.transport.primaryFailure || raised)
  aclose innerRaises x

end Guard

/-! ## Runs -/

/-- One step of a transport or of what surrounds it. -/
inductive GuardInput
  | request (c : Checkpoint)
  /-- The inner transport raises on a request handed to it. -/
  | innerRaised
  | aclose (innerRaises : Bool) (x : Surroundings)
  | aexit (raised innerRaises : Bool) (x : Surroundings)
  /-- A method of the journal is called. -/
  | call (call : JournalCall) (x : Surroundings)
  /-- The ledger and the journal become anything, and `_poisoned` stays. -/
  | elsewhere (w : GuardedJournal)

/-- How a step ended. -/
inductive GuardOutput
  /-- The request is handed to the inner transport while this one is active. -/
  | delegated (requestId : String)
  | raised (code : String)
  | done
  deriving DecidableEq

/-- The journal as it was left elsewhere. -/
def GuardedJournal.become (w v : GuardedJournal) : GuardedJournal :=
  { v with
    desk := { v.desk with
      journal := { v.desk.journal with
        poisoned := w.desk.journal.poisoned || v.desk.journal.poisoned } } }

/-- How a method without a value ends. -/
def GuardOutput.ofUnit : Except Fault Unit → GuardOutput
  | .ok () => .done
  | .error e => .raised e.code

/-- Every sequence of requests, and of what happens around them, is a list of inputs. -/
def guardMachine : Machine Guard GuardInput GuardOutput where
  step g
    | .request c =>
      match (Guard.handleAsyncRequest c).run g with
      | (.ok requestId, h) => (h, .delegated requestId)
      | (.error e, h) => (h, .raised e.code)
    | .innerRaised => (((Guard.setPrimaryFailure true).run g).2, .done)
    | .aclose innerRaises x =>
      let (result, h) := (Guard.aclose innerRaises x).run g
      (h, .ofUnit result)
    | .aexit raised innerRaises x =>
      let (result, h) := (Guard.aexit raised innerRaises x).run g
      (h, .ofUnit result)
    | .call call x =>
      let (result, h) := (Guard.journal fun d => call.program d x).run g
      (h, .ofUnit result)
    | .elsewhere w => ({ g with guarded := g.guarded.become w }, .done)

end CivicGate
