import CivicGate.Audit.History.Event
import CivicGate.Framework.Acceptor
import Mathlib.Data.Finset.Insert

/-!
# Replay of a ledger

`replay` (`audit/postgres_history.py`) validates the rows of a ledger from the first to the
last and projects the state they record.  `Replay` is what its loop carries: the projected
`LedgerState` and the four variables beside it.  One iteration is `replayRow`: the links of the
chain, then the entry of the row (`Row.entry`), then `Replay.advance`, the transition of the
state machine.
-/

namespace CivicGate

/-! ## State -/

/-- How far the active request got. -/
inductive Phase
  | begin
  | policy
  | intent
  deriving DecidableEq

/-- The projected state. -/
structure LedgerState where
  epoch : ℕ := 0
  ownerId : Option String := none
  ownerActive : Bool := false
  denials : ℕ := 0
  held : Bool := false
  sequence : ℕ := 0
  digest : String := ""
  active : Option String := none
  phase : Option Phase := none
  initialDecision : Option Decision := none
  bindingIssued : Bool := false
  seen : Finset String := ∅
  deriving DecidableEq

/-- What the loop of `_replay` carries. -/
structure Replay where
  ledger : LedgerState := {}
  previousKind : Option EventKind := none
  instanceId : Option String := none
  activeContext : Option Context := none
  policyReasons : List Code := []
  deriving DecidableEq

/-! ## Transitions -/

/-- The outcome of a dispatch is not known for sure. -/
def outcomeUnknown (available : Bool) (dispatch : DispatchState) (response : ResponseState)
    (attempts : List (DispatchState × ResponseState)) : Bool :=
  !available || dispatch ≠ .requestConfirmed || response ≠ .responseReceived ||
    attempts.any fun a => a.1 = .dispatchUnknown || a.2 = .transportError

/-- `unknown`, as `_finish` computes it. -/
def FinishEvidence.unknown (e : FinishEvidence) : Bool :=
  outcomeUnknown e.attempt.isSome e.dispatchState e.responseState
    (e.attempt.toList.map fun a => (a.dispatchState, a.responseState))

/-- The checks of `_finish` that concern the event alone. -/
def FinishEvidence.consistent (e : FinishEvidence) : Bool :=
  (match e.attempt with
    | none => true
    | some a => e.responseState = a.responseState &&
        (e.dispatchState = a.dispatchState || e.dispatchState = .dispatchUnknown)) &&
  if e.toolExecuted then
    e.verification = .pass && e.boundaryError = none &&
      (!e.unknown ||
        (e.hold && e.dispatchState = .dispatchUnknown && e.nextAction = .humanReviewRequired))
  else
    e.dispatchState = .notDispatched && e.responseState = .noResponse && e.attempt = none &&
      e.verification ≠ .pass && (e.verification ≠ .fail || e.boundaryError ≠ none)

/-- `_finish(event, state)` -/
def LedgerState.finish (s : LedgerState) (e : FinishEvidence) : Option LedgerState := do
  require (s.phase = some .policy || s.phase = some .intent)
  require (s.denials ≤ e.denials)
  require e.consistent
  require (if e.toolExecuted then
      s.phase = some .intent && s.initialDecision = some .permit && s.bindingIssued
    else
      (s.initialDecision ≠ some .permit || e.verification = .fail) &&
        (s.initialDecision = some .permit || s.initialDecision = some e.finalDecision))
  return { s with
    denials := e.denials
    held := s.held || e.hold
    active := none
    phase := none
    initialDecision := none
    bindingIssued := false }

/-- What an event of the current owner does, once the owner is checked. -/
def Replay.act (d : Domain) (s : Replay) (time : PyNum) : Action → Option Replay
  | .boot => none
  | .close => do
    require (s.ledger.active = none)
    return { s with ledger := { s.ledger with ownerId := none, ownerActive := false } }
  | .begin requestId context => do
    require (s.ledger.active = none)
    require (isText requestId 128 && requestId ∉ s.ledger.seen)
    require (context.accepted d time)
    return { s with
      activeContext := some context
      ledger := { s.ledger with
        active := some requestId
        phase := some .begin
        seen := insert requestId s.ledger.seen } }
  | .hold requestId => do
    require (requestId = s.ledger.active)
    return { s with ledger := { s.ledger with held := true } }
  | .policy requestId e => do
    require (s.ledger.active = some requestId)
    require (s.ledger.phase = some .begin)
    require (e.initialDecision = .permit || !e.bindingIssued)
    require (!e.bindingIssued || e.bindingIssuanceError = none)
    return { s with
      policyReasons := e.reasons
      ledger := { s.ledger with
        phase := some .policy
        initialDecision := some e.initialDecision
        bindingIssued := e.bindingIssued } }
  | .intent requestId e => do
    require (s.ledger.active = some requestId)
    require (s.ledger.phase = some .policy)
    require (s.ledger.initialDecision = some .permit && s.ledger.bindingIssued)
    require (e.context.accepted d time && some e.context = s.activeContext)
    require (e.containmentDenials = s.ledger.denials)
    require (e.authority.reasons = s.policyReasons && e.authority.requestId = requestId)
    return { s with ledger := { s.ledger with phase := some .intent } }
  | .finish requestId e => do
    require (s.ledger.active = some requestId)
    let ledger ← s.ledger.finish e
    return { s with ledger, activeContext := none, policyReasons := [] }

/-- The transition of the state machine on an entry. -/
def Replay.advance (d : Domain) (s : Replay) : Entry → Option Replay
  | .provision => some s
  | .event h .boot => do
    require (s.previousKind = some .provision || s.previousKind = some .close)
    require (!s.ledger.held && !s.ledger.ownerActive && s.ledger.active = none)
    require (h.epoch = s.ledger.epoch + 1)
    return { s with
      instanceId := some h.instanceId
      ledger := { s.ledger with
        epoch := h.epoch
        ownerId := some h.ownerId
        ownerActive := true } }
  | .event h a => do
    require (s.ledger.ownerActive && h.epoch = s.ledger.epoch)
    require (s.ledger.ownerId = some h.ownerId && s.instanceId = some h.instanceId)
    require (!s.ledger.held || a.kind = .hold)
    s.act d h.time a

/-! ## Rows -/

/-- `event_digest(previous, payload)` -/
def eventDigest (previous payload : String) : String := sha256Hex (previous ++ payload)

/-- One iteration of the loop of `_replay`. -/
def replayRow (l : LedgerIdentity) (s : Replay) (row : Row) : Option Replay := do
  require (row.sequence = s.ledger.sequence + 1)
  require (row.previous = s.ledger.digest && row.digest = eventDigest row.previous row.payload)
  let entry ← row.entry l
  let t ← s.advance l.domain entry
  return { t with
    ledger := { t.ledger with sequence := s.ledger.sequence + 1, digest := row.digest }
    previousKind := some entry.kind }

def maxEvents : ℕ := 10000

/-- `replay(rows, domain_key, domain, revision, source_sha)`, with the loop's variables. -/
def replayAll (l : LedgerIdentity) (rows : List Row) : Option Replay := do
  require (0 < rows.length && rows.length ≤ maxEvents && l.valid)
  accept (replayRow l) {} rows

/-- `replay(rows, domain_key, domain, revision, source_sha)` -/
def replay (l : LedgerIdentity) (rows : List Row) : Option LedgerState :=
  (replayAll l rows).map Replay.ledger

end CivicGate
