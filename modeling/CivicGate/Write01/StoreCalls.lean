import CivicGate.Write01.Store

/-!
# The methods of the review store

`reserve`, `commit` and `acknowledge` of `evals/write01/store_v1.py`, its readers, and the
system of any number of processes that call them.

The exceptions a method lets through depend on how far it got, so each transaction is a body, a
commit and what is injected after the commit, and `settle` says what each of the three raises
in place of an exception that is no `StoreError`.
-/

namespace CivicGate.Write01

/-! ## What a call meets -/

/-- The stages of `_inject`. -/
inductive StoreStage
  | beforeOpen
  | afterOpen
  | afterAttemptStart
  | beforeCommit
  | afterCommit
  | beforeAck
  | afterAck
  deriving DecidableEq

/-- The statements of a transaction, each of which SQLite may refuse. -/
inductive Statement
  | start
  | validation
  | select
  | state
  | note
  | intent
  deriving DecidableEq

/-- What a call meets outside the database. -/
structure StoreWorld where
  /-- `_connect()`, with the errors of `_dataset` and `_safe_path`. -/
  connect : Except StoreRaise Unit
  failed : Statement → Bool
  /-- `self._fault(stage)` -/
  fault : StoreStage → Option StoreRaise
  commit : Commit

/-- A statement of which only the failure matters. -/
def StoreWorld.statement (w : StoreWorld) (st : Statement) : Except StoreRaise Unit :=
  ensure (!w.failed st) .sqlite

/-- `_inject(stage)` -/
def StoreWorld.inject (w : StoreWorld) (stage : StoreStage) : Except StoreRaise Unit :=
  match w.fault stage with
  | some e => .error e
  | none => .ok ()

/-- Where a transaction raises. -/
inductive Part
  | body
  | commit
  | after

/-- A transaction of a method.  `wrapped` is what it raises in place of an exception that is no
`StoreError`. -/
def settle {α : Type} (wrapped : Part → StoreRaise) (body : Except StoreRaise (α × Database))
    (commit : Commit) (after : Except StoreRaise Unit) (d : Database) :
    Except StoreRaise α × Database :=
  match transact (wrapped .commit) (Except.reraise body fun e => ⟨e.orElse (wrapped .body), none⟩)
      commit d with
  | (.ok a, t) => ((Except.reraise after (·.orElse (wrapped .after))).map fun _ => a, t)
  | (.error e, t) => (.error e, t)

variable (s : ReviewStore)

/-- `BEGIN` and `_validate` at the head of a transaction. -/
def ReviewStore.start (w : StoreWorld) (d : Database) : Except StoreRaise Unit := do
  w.statement .start
  s.validate (w.failed .validation) d

/-! ## `reserve` -/

/-- `_available(connection, operation)` -/
def available (t : Tables) (op : Operation) : Except StoreRaise Unit := do
  match Table.get? (·.idempotencyKey) op.idempotencyKey t.intents with
  | some i => throw (certain (if i.operationSha256 = digest op.value then .idempotencyDuplicate
      else .idempotencyConflict))
  | none => pure ()
  ensure (!t.intents.any fun i => i.awardId = op.awardId && i.custody = .open)
    (uncertain .targetCustodyOpen)
  let row ← demand (t.state? op.awardId) (certain .unknownSyntheticAward)
  ensure (row.version = op.expectedVersion) (certain .expectedVersionConflict)
  ensure (row.status = .unreviewed) (certain .transitionNotSupported)

/-- The intent `reserve` inserts. -/
def intentRow (operationId : String) (op : Operation) (bindingSha256 : String) : IntentRow where
  operationId
  awardId := op.awardId
  idempotencyKey := op.idempotencyKey
  operationJson := canonical false op.value
  operationSha256 := digest op.value
  bindingSha256
  custody := .open
  attemptStarted := false
  receiptJson := none
  receiptSha256 := none

/-- What `reserve` returns, beside the custody `OPEN`. -/
structure OpenAck where
  operationId : String
  operationSha256 : String
  bindingSha256 : String
  deriving DecidableEq

/-- What `reserve` does before it has a connection, and the connection. -/
def ReviewStore.reserveChecks (w : StoreWorld) (operationId : String)
    (operation : Except PyException Json) (bindingSha256 : String) :
    Except StoreRaise Operation := do
  ensure (isStoreId operationId && isSha256Hex bindingSha256) (certain .intentIdentityInvalid)
  let op ← s.operation operation
  w.connect
  return op

/-- The transaction of `reserve`, up to its commit. -/
def ReviewStore.reserveBody (w : StoreWorld) (operationId : String) (op : Operation)
    (bindingSha256 : String) (d : Database) : Except StoreRaise (OpenAck × Database) := do
  w.inject .beforeOpen
  s.start w d
  w.statement .select
  available d.1 op
  w.statement .intent
  let d ← d.execute (Tables.insertIntent (intentRow operationId op bindingSha256))
  return (⟨operationId, digest op.value, bindingSha256⟩, d)

/-- `reserve(operation_id, operation, binding_sha256)` -/
def ReviewStore.reserve (w : StoreWorld) (operationId : String)
    (operation : Except PyException Json) (bindingSha256 : String) (d : Database) :
    Except StoreRaise OpenAck × Database :=
  match s.reserveChecks w operationId operation bindingSha256 with
  | .error e => (.error e, d)
  | .ok op =>
    settle (fun | .body => certain .openNotConfirmed | _ => uncertain .openAckUnknown)
      (s.reserveBody w operationId op bindingSha256 d) w.commit (w.inject .afterOpen) d

/-! ## `commit` -/

/-- A call of `commit` between its transactions, with the row it read in the first. -/
structure PendingCommit where
  operationId : String
  bindingSha256 : String
  row : IntentRow
  deriving DecidableEq

/-- The first transaction of `commit`, which admits the one attempt. -/
def ReviewStore.attemptBody (w : StoreWorld) (operationId bindingSha256 : String) (d : Database) :
    Except StoreRaise (PendingCommit × Database) := do
  s.start w d
  w.statement .select
  let row ← demand ((d.1.intent? operationId).filter fun r =>
    r.custody = .open && r.bindingSha256 = bindingSha256) (certain .dispatchIntentMismatch)
  ensure row.receiptJson.isNone (uncertain .committedOperationNotRedispatchable)
  ensure (!row.attemptStarted) (uncertain .adapterAttemptNotRedispatchable)
  w.statement .intent
  let d ← d.execute (Tables.startAttempt operationId)
  return (⟨operationId, bindingSha256, row⟩, d)

/-- `commit(operation_id, binding_sha256)` up to the stage `after_attempt_start`. -/
def ReviewStore.attempt (w : StoreWorld) (operationId bindingSha256 : String) (d : Database) :
    Except StoreRaise PendingCommit × Database :=
  match w.connect with
  | .error e => (.error e, d)
  | .ok () =>
    settle (fun _ => uncertain .transactionNotConfirmed)
      (s.attemptBody w operationId bindingSha256 d) w.commit (w.inject .afterAttemptStart) d

/-- What `commit` returns, beside the custody `OPEN`. -/
structure CommitResponse where
  receipt : Json
  receiptSha256 : String
  deriving DecidableEq

/-- The second transaction of `commit`, the mutation with its evidence. -/
def ReviewStore.mutateBody (w : StoreWorld) (p : PendingCommit) (d : Database) :
    Except StoreRaise (CommitResponse × Database) := do
  s.start w d
  let value ← object p.row.operationJson
  let op ← s.operation (.ok value)
  w.statement .select
  let before ← demand (d.1.state? op.awardId) (.other .typeError)
  ensure (before.version = op.expectedVersion && before.status = .unreviewed)
    (certain .transactionStateConflict)
  let receipt := s.receipt p.operationId op p.bindingSha256
  let raw := canonical false receipt
  w.statement .state
  let d ← d.execute (Tables.moveState op.awardId)
  w.statement .note
  let d ← d.execute (Tables.insertNote ⟨p.operationId, op.awardId, 1, op.reviewerNote⟩)
  w.statement .intent
  let d ← d.execute (Tables.recordReceipt p.operationId raw)
  w.inject .beforeCommit
  return (⟨receipt, sha256Hex raw⟩, d)

/-- `commit(operation_id, binding_sha256)` from there on. -/
def ReviewStore.mutate (w : StoreWorld) (p : PendingCommit) (d : Database) :
    Except StoreRaise CommitResponse × Database :=
  settle (fun | .after => uncertain .commitAckUnknown | _ => uncertain .transactionNotConfirmed)
    (s.mutateBody w p d) w.commit (w.inject .afterCommit) d

/-! ## `acknowledge` -/

/-- What `acknowledge` returns, beside the custody `CLOSED`. -/
structure CloseAck where
  operationId : String
  receiptSha256 : String
  deriving DecidableEq

/-- The transaction of `acknowledge`, up to its commit. -/
def ReviewStore.acknowledgeBody (w : StoreWorld) (operationId receiptSha256 : String)
    (d : Database) : Except StoreRaise (CloseAck × Database) := do
  s.start w d
  w.statement .select
  let _ ← demand ((d.1.intent? operationId).filter fun r =>
    r.custody = .open && r.receiptJson.isSome && r.receiptSha256 = some receiptSha256)
    (uncertain .custodyAckMismatch)
  w.inject .beforeAck
  w.statement .intent
  let d ← d.execute (Tables.closeCustody operationId)
  return (⟨operationId, receiptSha256⟩, d)

/-- `acknowledge(operation_id, receipt_sha256)` -/
def ReviewStore.acknowledge (w : StoreWorld) (operationId receiptSha256 : String) (d : Database) :
    Except StoreRaise CloseAck × Database :=
  match w.connect with
  | .error e => (.error e, d)
  | .ok () =>
    settle (fun _ => uncertain .custodyAckUnknown)
      (s.acknowledgeBody w operationId receiptSha256 d) w.commit (w.inject .afterAck) d

/-! ## Readers -/

/-- A reader: what it selects from a database that `_validate` accepts. -/
def ReviewStore.reading {α : Type} (w : StoreWorld) (select : Tables → Except StoreRaise α)
    (d : Database) : Except StoreRaise α := do
  w.connect
  Except.reraise (do
    s.start w d
    w.statement .select
    select d.1) fun | .sqlite => certain .storeUnavailable | e => e

/-- `check_available(operation)` -/
def ReviewStore.checkAvailable (w : StoreWorld) (operation : Except PyException Json)
    (d : Database) : Except StoreRaise Unit := do
  let op ← s.operation operation
  s.reading w (available · op) d

/-- `snapshot(award_id)`; the version of every note is 1. -/
def ReviewStore.snapshot (w : StoreWorld) (awardId : String) (d : Database) :
    Except StoreRaise Json := do
  ensure (awardId ∈ s.ids) (certain .unknownSyntheticAward)
  s.reading w (fun t => do
    let row ← demand (t.state? awardId) (.other .typeError)
    return snapshotJson awardId row.status row.version
      ((t.notes.filter (·.awardId = awardId)).map (·.note))) d

/-- `inspect(operation_id)` -/
def ReviewStore.inspect (w : StoreWorld) (operationId : String) (d : Database) :
    Except StoreRaise (Option IntentRow) :=
  s.reading w (fun t => .ok (t.intent? operationId)) d

/-- `checkpoint()`, its three lists; what else it returns is of the store. -/
def ReviewStore.checkpoint (w : StoreWorld) (d : Database) :
    Except StoreRaise (List StateRow × List NoteRow × List IntentRow) :=
  s.reading w (fun t => .ok (t.states.mergeSort (·.awardId ≤ ·.awardId),
    t.notes.mergeSort (·.operationId ≤ ·.operationId),
    t.intents.mergeSort (·.operationId ≤ ·.operationId))) d

/-! ## The system -/

/-- A transaction of one of the processes. -/
inductive StoreInput
  | reserve (w : StoreWorld) (operationId : String) (operation : Except PyException Json)
      (bindingSha256 : String)
  | attempt (w : StoreWorld) (operationId bindingSha256 : String)
  /-- The second transaction of the call of `commit` admitted for the operation. -/
  | mutate (w : StoreWorld) (operationId : String)
  | acknowledge (w : StoreWorld) (operationId receiptSha256 : String)

/-- What the process sees of it. -/
inductive StoreOutput
  | reserved (r : Except StoreRaise OpenAck)
  /-- The first transaction of `commit`, which returns nothing to its caller yet. -/
  | admitted (r : Except StoreRaise PendingCommit)
  | mutated (r : Except StoreRaise CommitResponse)
  | acknowledged (r : Except StoreRaise CloseAck)
  /-- No call is there to go on. -/
  | idle

/-- The database and the calls of `commit` between their transactions.  A process that dies
leaves its call there for good. -/
structure StoreState where
  db : Database
  pending : List PendingCommit

/-- Any number of processes on one database. -/
def store : Machine StoreState StoreInput StoreOutput where
  step st
    | .reserve w operationId operation bindingSha256 =>
      let (r, d) := s.reserve w operationId operation bindingSha256 st.db
      ({ st with db := d }, .reserved r)
    | .attempt w operationId bindingSha256 =>
      match s.attempt w operationId bindingSha256 st.db with
      | (.ok p, d) => ({ db := d, pending := p :: st.pending }, .admitted (.ok p))
      | (.error e, d) => ({ st with db := d }, .admitted (.error e))
    | .mutate w operationId =>
      match Table.get? (·.operationId) operationId st.pending with
      | none => (st, .idle)
      | some p =>
        let (r, d) := s.mutate w p st.db
        ({ db := d, pending := st.pending.filter (·.operationId ≠ operationId) }, .mutated r)
    | .acknowledge w operationId receiptSha256 =>
      let (r, d) := s.acknowledge w operationId receiptSha256 st.db
      ({ st with db := d }, .acknowledged r)

/-- The tables `initialize` writes. -/
def ReviewStore.tables : Tables where
  metadata := s.metadata
  states := s.ids.map fun a => ⟨a, .unreviewed, 0⟩
  intents := []
  notes := []

lemma ReviewStore.keys_tables : s.tables.Keys where
  metadata := by
    simp only [ReviewStore.tables, ReviewStore.metadata, List.map_cons, List.map_nil]
    decide
  states := by
    simp only [ReviewStore.tables, List.map_map, Function.comp_def, List.map_id']
    exact s.ids_nodup
  stateVersions r hr := by
    obtain ⟨a, -, rfl⟩ := List.mem_map.mp hr
    exact Nat.zero_le 1
  operations := List.nodup_nil
  idempotencyKeys := List.nodup_nil
  openTargets := List.nodup_nil
  notes := List.nodup_nil
  noteVersions n hn := by cases hn

/-- The store after `initialize`, which no process has used. -/
def ReviewStore.initial : StoreState := ⟨⟨s.tables, s.keys_tables⟩, []⟩

/-- A store of forty awards. -/
def sampleStore : ReviewStore where
  storeId := "review-store"
  ids := (List.range 40).map fun n => String.ofList (List.replicate n 'A')
  storeId_valid := by decide
  ids_length := by simp
  ids_nodup := by
    refine List.Nodup.map (fun m n h => ?_) List.nodup_range
    simpa using congrArg List.length (String.ofList_inj.mp h)

end CivicGate.Write01
