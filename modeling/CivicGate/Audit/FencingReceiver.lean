import CivicGate.Framework.Json.Text
import CivicGate.Framework.Sha256
import CivicGate.Framework.Exceptions
import CivicGate.Framework.Locks
import CivicGate.Framework.Machine
import CivicGate.Framework.Table
import CivicGate.Framework.Transaction

/-!
# A receiver that fences stale owners

`PostgresReceiver.receive` of `audit/fencing_receiver_experiment_v1.py`.  A request names its
scope, its owner, the owner's epoch and a request id.  The receiver runs one transaction for
it: it locks the row of its mode and scope, then in mode `F1` refuses an epoch below the highest
seen and raises the row, in mode `F2` locks the authority row of the scope against updates and
checks the request against it, looks for a receipt of the request id, and inserts receipt and
effect.

`receivers` runs any number of such calls, with their statements in any order: one input is one
statement of one call, or a publication of authority.  A call that needs a row somebody else
holds stays where it is, and so does a publication.
-/

namespace CivicGate.Fencing

/-! ## Requests -/

inductive Mode
  | U
  | F1
  | F2
  deriving DecidableEq, Repr

structure Request where
  scope : String
  owner : String
  epoch : ℤ
  requestId : String
  payloadSha256 : String
  deriving DecidableEq, Repr

/-- The bytes of a request, as `json.loads` sees them: how many there are, the text they
decode to if they are text, and whether it nests deeper than the interpreter recurses. -/
structure Wire where
  size : ℕ
  text : Option String
  tooDeep : Bool := false

/-- Why `Request.parse` raises. -/
inductive RequestError
  | requestTooLarge
  /-- `UnicodeError` or `JSONDecodeError` -/
  | notJson
  | recursionError
  | invalidFields
  | invalidIdentifier
  | invalidEpoch
  | invalidPayloadDigest
  deriving DecidableEq, Repr

/-- `except (ValueError, TypeError, UnicodeError)` -/
def RequestError.isCaught (e : RequestError) : Bool := e ≠ .recursionError

def Request.fields : List String := ["scope", "owner", "epoch", "request_id", "payload_sha256"]

def isIdentifier (s : String) : Bool := 1 ≤ s.length && s.length ≤ 128

def isDigest (s : String) : Bool :=
  s.length = 64 && s.toList.all fun c => c ∈ "0123456789abcdef".toList

/-- `Request.parse(raw)`.  A duplicate field is one entry too many for `hasFields`, and a nested
one stands where a text or a number must. -/
def Request.parse (raw : Wire) : Except RequestError Request := do
  ensure (raw.size ≤ 4096) .requestTooLarge
  ensure (!raw.tooDeep) .recursionError
  let obj ← (raw.text.bind parseText).elim (.error .notJson) .ok
  ensure (obj.hasFields Request.fields) .invalidFields
  let identifier (k : String) : Except RequestError String :=
    ((obj.getStr? k).filter isIdentifier).elim (.error .invalidIdentifier) .ok
  let scope ← identifier "scope"
  let owner ← identifier "owner"
  let requestId ← identifier "request_id"
  let epoch ← (obj.getInt? "epoch").elim (.error .invalidEpoch) .ok
  ensure (1 ≤ epoch && epoch < 2 ^ 63) .invalidEpoch
  let digest ← (obj.getStr? "payload_sha256").elim (.error .invalidPayloadDigest) .ok
  ensure (isDigest digest) .invalidPayloadDigest
  return { scope, owner, epoch, requestId, payloadSha256 := digest }

/-- `self.fingerprint()` -/
def Request.fingerprint (r : Request) : String :=
  sha256Hex (canonical true
    (.list [.str r.scope, .str r.owner, .int r.epoch, .str r.requestId, .str r.payloadSha256]))

/-! ## Outcomes -/

inductive OutcomeStatus
  | accepted
  | rejected
  | duplicate
  | unknown
  deriving DecidableEq, Repr

/-- What an outcome says of the effect. -/
inductive OutcomeEffect
  | applied
  | refused
  | alreadyCommitted
  | unknown
  deriving DecidableEq, Repr

inductive OutcomeReason
  | invalidRequest
  | scopeUnknown
  | lowerThanHighestSeen
  | authorityUnknown
  | revoked
  | staleOrUnknownOwner
  | requestIdConflict
  | noNewEffect
  | commitAcknowledged
  | storeOrCommitUnconfirmed
  deriving DecidableEq, Repr

structure Outcome where
  status : OutcomeStatus
  effect : OutcomeEffect
  reason : OutcomeReason
  deriving DecidableEq, Repr

/-- `Outcome("REJECTED", "REFUSED", reason)` -/
def Outcome.refuse (reason : OutcomeReason) : Outcome := ⟨.rejected, .refused, reason⟩

/-- `Outcome("DUPLICATE", "ALREADY_COMMITTED", "NO_NEW_EFFECT")` -/
def Outcome.repeated : Outcome := ⟨.duplicate, .alreadyCommitted, .noNewEffect⟩

/-- `Outcome("ACCEPTED", "APPLIED", "COMMIT_ACKNOWLEDGED")` -/
def Outcome.accept : Outcome := ⟨.accepted, .applied, .commitAcknowledged⟩

/-- `Outcome("UNKNOWN", "UNKNOWN", "STORE_OR_COMMIT_UNCONFIRMED")` -/
def Outcome.uncertain : Outcome := ⟨.unknown, .unknown, .storeOrCommitUnconfirmed⟩

/-- `check_authority(request, row)` -/
def checkAuthority (request : Request) (row : Option (List Json)) : Option OutcomeReason :=
  match row with
  | some [.int epoch, .str owner, .bool revoked] =>
    if epoch < 1 ∨ owner = "" then some .authorityUnknown
    else if revoked then some .revoked
    else if epoch ≠ request.epoch ∨ owner ≠ request.owner then some .staleOrUnknownOwner
    else none
  | _ => some .authorityUnknown

/-! ## The database -/

/-- A row of `b2b_receiver.receipts`. -/
structure Receipt where
  mode : Mode
  scope : String
  requestId : String
  fingerprint : String
  deriving DecidableEq, Repr

/-- A row of `b2b_receiver.effects`. -/
structure Effect where
  effectId : String
  mode : Mode
  scope : String
  requestId : String
  epoch : ℤ
  payloadSha256 : String
  deriving DecidableEq, Repr

/-- Mode, scope and request id of a receipt. -/
def Receipt.key (r : Receipt) : Mode × String × String := (r.mode, r.scope, r.requestId)

/-- Mode, scope and request id of an effect. -/
def Effect.key (e : Effect) : Mode × String × String := (e.mode, e.scope, e.requestId)

def Request.key (r : Request) (mode : Mode) : Mode × String × String :=
  (mode, r.scope, r.requestId)

def Request.receipt (r : Request) (mode : Mode) : Receipt :=
  ⟨mode, r.scope, r.requestId, r.fingerprint⟩

def Request.effect (r : Request) (mode : Mode) (effectId : String) : Effect :=
  ⟨effectId, mode, r.scope, r.requestId, r.epoch, r.payloadSha256⟩

/-- The committed rows: `highest_epoch` for each mode and scope, `epoch, owner, revoked` for
each scope, and receipts and effects in the order of their commits. -/
structure ReceiverStore where
  scopes : Mode × String → Option Json
  authority : String → Option (List Json)
  receipts : List Receipt := []
  effects : List Effect := []

namespace ReceiverStore

/-- `SELECT fingerprint FROM b2b_receiver.receipts WHERE mode=%s AND scope=%s AND request_id=%s` -/
def prior (s : ReceiverStore) (key : Mode × String × String) : Option String :=
  (Table.get? Receipt.key key s.receipts).map Receipt.fingerprint

/-- What the transaction of an accepted request wrote: the raised scope row in mode `F1`, the
receipt in every mode but `U`, and the effect. -/
def apply (s : ReceiverStore) (mode : Mode) (request : Request) (effectId : String) :
    ReceiverStore where
  scopes :=
    if mode = .F1 then Function.update s.scopes (mode, request.scope) (some (.int request.epoch))
    else s.scopes
  authority := s.authority
  receipts := if mode = .U then s.receipts else s.receipts ++ [request.receipt mode]
  effects := s.effects ++ [request.effect mode effectId]

end ReceiverStore

/-! ## Calls -/

/-- Where the transaction of a call stands. -/
inductive Cutpoint
  /-- `receiver_transaction_started` -/
  | started
  /-- `receiver_scope_locked`, with the `highest_epoch` it read. -/
  | scopeLocked (highest : ℤ)
  /-- The scope row is raised, or the authority row locked and checked. -/
  | fenced
  /-- `effect_inserted_uncommitted` -/
  | inserted (effectId : String)
  deriving DecidableEq, Repr

/-- A call of `receive`. -/
inductive Call
  /-- `INVALID_REQUEST`, before any connection. -/
  | invalid
  | running (mode : Mode) (request : Request) (cutpoint : Cutpoint)
  | answered (mode : Mode) (request : Request) (outcome : Outcome)
  /-- It raised, or its process ended: there is no answer. -/
  | ended
  deriving DecidableEq, Repr

def Call.outcome? : Call → Option Outcome
  | .invalid => some (.refuse .invalidRequest)
  | .answered _ _ outcome => some outcome
  | _ => none

/-- The database, its locks, and the calls so far. -/
structure Receivers where
  store : ReceiverStore
  scopeLocks : UpdateLocks (Mode × String) ℕ := {}
  authorityLocks : ShareLocks String ℕ := {}
  calls : ℕ → Option Call := fun _ => none

inductive ReceiverInput
  /-- `PostgresReceiver(mode, connect).receive(raw)` is called and gets its connection. -/
  | receive (call : ℕ) (mode : Mode) (raw : Wire)
  /-- The next statement of the call; `uuid` is what `uuid4().hex` would give. -/
  | execute (call : ℕ) (uuid : String)
  /-- `connection.commit()`.  A lost one is applied although the call sees an exception, be it
  from the commit, the hook after it or the closing of the cursor, or sees nothing any more. -/
  | commit (call : ℕ) (fate : Commit)
  /-- Anything else raises in the `try`: connection, settings, statement, hook or close. -/
  | fail (call : ℕ)
  /-- The hook of the handler raises, or the process ends. -/
  | crash (call : ℕ)
  /-- The authority row of a scope is written and committed. -/
  | publish (scope : String) (row : Option (List Json))

/-- The call an input is a step of. -/
def ReceiverInput.call? : ReceiverInput → Option ℕ
  | .receive n _ _ | .execute n _ | .commit n _ | .fail n | .crash n => some n
  | .publish _ _ => none

namespace Receivers

/-- A database no receiver has a connection to. -/
def start (store : ReceiverStore) : Receivers := { store }

/-- What `receive` returned for the call. -/
def outcome? (d : Receivers) (n : ℕ) : Option Outcome := (d.calls n).bind Call.outcome?

def setCall (d : Receivers) (n : ℕ) (call : Call) : Receivers :=
  { d with calls := Function.update d.calls n (some call) }

/-- The transaction of the call ends, with its locks. -/
def finish (d : Receivers) (n : ℕ) (call : Call) : Receivers :=
  { d.setCall n call with
    scopeLocks := d.scopeLocks.release n, authorityLocks := d.authorityLocks.release n }

/-- The call returns; what its transaction did is rolled back unless it was committed. -/
def answer (d : Receivers) (n : ℕ) (mode : Mode) (request : Request) (outcome : Outcome) :
    Receivers :=
  d.finish n (.answered mode request outcome)

/-- The call goes on to its next cutpoint. -/
def reach (d : Receivers) (n : ℕ) (mode : Mode) (request : Request) (cutpoint : Cutpoint) :
    Receivers :=
  d.setCall n (.running mode request cutpoint)

/-- `SELECT highest_epoch … FOR UPDATE` and the check of the row. -/
def lockScope (d : Receivers) (n : ℕ) (mode : Mode) (request : Request) : Receivers :=
  if d.scopeLocks.Available n (mode, request.scope) then
    match d.store.scopes (mode, request.scope) with
    | some (.int highest) =>
      if highest < 0 then d.answer n mode request (.refuse .scopeUnknown)
      else { d.reach n mode request (.scopeLocked highest) with
        scopeLocks := d.scopeLocks.acquire n (mode, request.scope) }
    | _ => d.answer n mode request (.refuse .scopeUnknown)
  else d

/-- What the mode requires of the epoch: the highest seen in `F1`, the authority in `F2`. -/
def fence (d : Receivers) (n : ℕ) (mode : Mode) (request : Request) (highest : ℤ) : Receivers :=
  match mode with
  | .U => d.reach n mode request .fenced
  | .F1 =>
    if request.epoch < highest then d.answer n mode request (.refuse .lowerThanHighestSeen)
    else d.reach n mode request .fenced
  | .F2 =>
    match checkAuthority request (d.store.authority request.scope) with
    | some reason => d.answer n mode request (.refuse reason)
    | none => { d.reach n mode request .fenced with
        authorityLocks := d.authorityLocks.acquire n request.scope }

/-- The look for a receipt, and the inserts. -/
def insert (d : Receivers) (n : ℕ) (mode : Mode) (request : Request) (uuid : String) :
    Receivers :=
  if mode = .U then d.reach n mode request (.inserted uuid)
  else match d.store.prior (request.key mode) with
    | some fingerprint =>
      if fingerprint ≠ request.fingerprint then
        d.answer n mode request (.refuse .requestIdConflict)
      else d.answer n mode request .repeated
    | none => d.reach n mode request (.inserted uuid)

/-- The next statement of a call that has one before its commit. -/
def execute (d : Receivers) (n : ℕ) (uuid : String) : Receivers :=
  match d.calls n with
  | some (.running mode request .started) => d.lockScope n mode request
  | some (.running mode request (.scopeLocked highest)) => d.fence n mode request highest
  | some (.running mode request .fenced) => d.insert n mode request uuid
  | _ => d

/-- `connection.commit()` and what the call makes of it. -/
def commit (d : Receivers) (n : ℕ) (fate : Commit) : Receivers :=
  match d.calls n with
  | some (.running mode request (.inserted effectId)) =>
    match fate with
    | .acknowledged =>
      { d.answer n mode request .accept with store := d.store.apply mode request effectId }
    | .lost =>
      { d.answer n mode request .uncertain with store := d.store.apply mode request effectId }
    | .rolledBack => d.answer n mode request .uncertain
  | _ => d

def receive (d : Receivers) (n : ℕ) (mode : Mode) (raw : Wire) : Receivers :=
  match d.calls n with
  | some _ => d
  | none =>
    match Request.parse raw with
    | .ok request => d.reach n mode request .started
    | .error e => if e.isCaught then d.setCall n .invalid else d.setCall n .ended

/-- One step of some call, or a publication. -/
def step (d : Receivers) : ReceiverInput → Receivers
  | .receive n mode raw => d.receive n mode raw
  | .execute n uuid => d.execute n uuid
  | .commit n fate => d.commit n fate
  | .fail n =>
    match d.calls n with
    | some (.running mode request _) => d.answer n mode request .uncertain
    | _ => d
  | .crash n =>
    match d.calls n with
    | some (.running _ _ _) => d.finish n .ended
    | _ => d
  | .publish scope row =>
    if d.authorityLocks.holders scope = [] then
      { d with store := { d.store with authority := Function.update d.store.authority scope row } }
    else d

end Receivers

/-- Calls of `receive` on one database, and the publication of authority. -/
def receivers : Machine Receivers ReceiverInput (Option Outcome) where
  step d a := (d.step a, a.call?.bind (d.step a).outcome?)

end CivicGate.Fencing
