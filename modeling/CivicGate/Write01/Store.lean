import CivicGate.Framework.Json.Equality
import CivicGate.Framework.Json.RoundTrip
import CivicGate.Framework.Machine
import CivicGate.Framework.Table
import CivicGate.Framework.Transaction
import CivicGate.Write01.Contract

/-!
# The review store

`evals/write01/store_v1.py`: the SQLite overlay that holds the review state of the synthetic
awards.  An operation is reserved as an OPEN intent, committed once with its evidence, and its
custody is closed by a separate acknowledgement.

A `Database` carries what its schema makes SQLite enforce (keys, unique columns, checks), so a
write that would break it is an error of SQLite.  Every method begins with `validate`, which
recomputes the evidence of every row.

Any number of processes share the database.  `BEGIN IMMEDIATE` serializes their transactions,
so a step of `store` is one transaction of one call: `commit` has two of them, and between the
first and the second another process may act, or the process may die.  What a call meets
outside the database is its `StoreWorld`: whether it can connect, which statements SQLite
refuses, what is injected at each stage, and how a commit ends.
-/

namespace CivicGate.Write01

def storeVersion : String := "WRITE01_REVIEW_STORE_V1"

/-! ## Errors -/

/-- The codes of `StoreError`. -/
inductive StoreCode
  | evidenceInvalid
  | pathInvalid
  | datasetIdentityMismatch
  | datasetContractInvalid
  | datasetUnavailableOrInvalid
  | storeOrDatasetMissing
  | storeUnavailable
  | identityMismatch
  | targetSetInvalid
  | referencesInvalid
  | operationInconsistent
  | custodyInconsistent
  | receiptInconsistent
  | notesInconsistent
  | uncommittedIntentAfterMutation
  | stateWithoutEvidence
  | stateEvidenceMismatch
  | invalidOrUnavailable
  | operationContextMismatch
  | operationQueryInvalid
  | unknownSyntheticAward
  | expectedVersionInvalid
  | transitionNotSupported
  | noteInvalid
  | idempotencyKeyInvalid
  | operationProvenanceInvalid
  | operationInvalid
  | idempotencyDuplicate
  | idempotencyConflict
  | targetCustodyOpen
  | expectedVersionConflict
  | intentIdentityInvalid
  | openAckUnknown
  | openNotConfirmed
  | dispatchIntentMismatch
  | committedOperationNotRedispatchable
  | adapterAttemptNotRedispatchable
  | transactionStateConflict
  | commitAckUnknown
  | transactionNotConfirmed
  | custodyAckMismatch
  | custodyAckUnknown
  deriving DecidableEq

/-- The text of a code. -/
def StoreCode.text : StoreCode → String
  | .evidenceInvalid => "STORE_EVIDENCE_INVALID"
  | .pathInvalid => "STORE_PATH_INVALID"
  | .datasetIdentityMismatch => "DATASET_IDENTITY_MISMATCH"
  | .datasetContractInvalid => "DATASET_CONTRACT_INVALID"
  | .datasetUnavailableOrInvalid => "DATASET_UNAVAILABLE_OR_INVALID"
  | .storeOrDatasetMissing => "STORE_OR_DATASET_MISSING"
  | .storeUnavailable => "STORE_UNAVAILABLE"
  | .identityMismatch => "STORE_IDENTITY_MISMATCH"
  | .targetSetInvalid => "STORE_TARGET_SET_INVALID"
  | .referencesInvalid => "STORE_REFERENCES_INVALID"
  | .operationInconsistent => "STORE_OPERATION_INCONSISTENT"
  | .custodyInconsistent => "STORE_CUSTODY_INCONSISTENT"
  | .receiptInconsistent => "STORE_RECEIPT_INCONSISTENT"
  | .notesInconsistent => "STORE_NOTES_INCONSISTENT"
  | .uncommittedIntentAfterMutation => "STORE_UNCOMMITTED_INTENT_AFTER_MUTATION"
  | .stateWithoutEvidence => "STORE_STATE_WITHOUT_EVIDENCE"
  | .stateEvidenceMismatch => "STORE_STATE_EVIDENCE_MISMATCH"
  | .invalidOrUnavailable => "STORE_INVALID_OR_UNAVAILABLE"
  | .operationContextMismatch => "OPERATION_CONTEXT_MISMATCH"
  | .operationQueryInvalid => "OPERATION_QUERY_INVALID"
  | .unknownSyntheticAward => "UNKNOWN_SYNTHETIC_AWARD"
  | .expectedVersionInvalid => "EXPECTED_VERSION_INVALID"
  | .transitionNotSupported => "TRANSITION_NOT_SUPPORTED"
  | .noteInvalid => "NOTE_INVALID"
  | .idempotencyKeyInvalid => "IDEMPOTENCY_KEY_INVALID"
  | .operationProvenanceInvalid => "OPERATION_PROVENANCE_INVALID"
  | .operationInvalid => "OPERATION_INVALID"
  | .idempotencyDuplicate => "IDEMPOTENCY_DUPLICATE"
  | .idempotencyConflict => "IDEMPOTENCY_CONFLICT"
  | .targetCustodyOpen => "TARGET_CUSTODY_OPEN"
  | .expectedVersionConflict => "EXPECTED_VERSION_CONFLICT"
  | .intentIdentityInvalid => "INTENT_IDENTITY_INVALID"
  | .openAckUnknown => "OPEN_ACK_UNKNOWN"
  | .openNotConfirmed => "OPEN_NOT_CONFIRMED"
  | .dispatchIntentMismatch => "DISPATCH_INTENT_MISMATCH"
  | .committedOperationNotRedispatchable => "COMMITTED_OPERATION_NOT_REDISPATCHABLE"
  | .adapterAttemptNotRedispatchable => "ADAPTER_ATTEMPT_NOT_REDISPATCHABLE"
  | .transactionStateConflict => "TRANSACTION_STATE_CONFLICT"
  | .commitAckUnknown => "COMMIT_ACK_UNKNOWN"
  | .transactionNotConfirmed => "TRANSACTION_NOT_CONFIRMED"
  | .custodyAckMismatch => "CUSTODY_ACK_MISMATCH"
  | .custodyAckUnknown => "CUSTODY_ACK_UNKNOWN"

/-- `StoreError` -/
structure StoreError where
  code : StoreCode
  uncertain : Bool
  deriving DecidableEq

/-- What the methods of the store raise. -/
inductive StoreRaise
  | store (e : StoreError)
  /-- `sqlite3.Error` -/
  | sqlite
  | other (e : PyException)
  deriving DecidableEq

/-- `StoreError(code)` -/
def certain (code : StoreCode) : StoreRaise := .store ⟨code, false⟩

/-- `StoreError(code, uncertain=True)` -/
def uncertain (code : StoreCode) : StoreRaise := .store ⟨code, true⟩

/-- `except StoreError: raise` and then `except Exception` with another error. -/
def StoreRaise.orElse (e : StoreRaise) (wrapped : StoreRaise) : StoreRaise :=
  match e with
  | .store e => .store e
  | .other .exit => .other .exit
  | _ => wrapped

/-- `except (ValueError, TypeError, KeyError)` with another error; `alsoSqlite` lists
`sqlite3.Error` among them. -/
def StoreRaise.caughtAs (alsoSqlite : Bool) (wrapped e : StoreRaise) : StoreRaise :=
  match e with
  | .sqlite => if alsoSqlite then wrapped else .sqlite
  | .other .valueError | .other .typeError | .other .keyError => wrapped
  | e => e

/-- The value, or the error for its absence. -/
def demand {α : Type} (x : Option α) (e : StoreRaise) : Except StoreRaise α :=
  match x with
  | some a => .ok a
  | none => .error e

/-! ## The database -/

/-- `review_state.status` -/
inductive ReviewStatus
  | unreviewed
  | pendingReview
  deriving DecidableEq

/-- The text of a status. -/
def ReviewStatus.text : ReviewStatus → String
  | .unreviewed => "UNREVIEWED"
  | .pendingReview => "PENDING_REVIEW"

/-- `intents.custody` -/
inductive Custody
  | open
  | closed
  deriving DecidableEq

/-- A row of `review_state`. -/
structure StateRow where
  awardId : String
  status : ReviewStatus
  version : ℕ
  deriving DecidableEq

/-- A row of `intents`. -/
structure IntentRow where
  operationId : String
  awardId : String
  idempotencyKey : String
  operationJson : String
  operationSha256 : String
  bindingSha256 : String
  custody : Custody
  attemptStarted : Bool
  receiptJson : Option String
  receiptSha256 : Option String
  deriving DecidableEq

/-- A row of `notes`. -/
structure NoteRow where
  operationId : String
  awardId : String
  version : ℕ
  note : String
  deriving DecidableEq

/-- The rows of the four tables. -/
structure Tables where
  metadata : List (String × String)
  states : List StateRow
  intents : List IntentRow
  notes : List NoteRow
  deriving DecidableEq

/-- The primary keys, the unique columns and the checks of `_SCHEMA`. -/
structure Tables.Keys (t : Tables) : Prop where
  metadata : (t.metadata.map Prod.fst).Nodup
  states : (t.states.map (·.awardId)).Nodup
  stateVersions : ∀ r ∈ t.states, r.version ≤ 1
  operations : (t.intents.map (·.operationId)).Nodup
  idempotencyKeys : (t.intents.map (·.idempotencyKey)).Nodup
  openTargets : ((t.intents.filter (·.custody = .open)).map (·.awardId)).Nodup
  notes : (t.notes.map (·.operationId)).Nodup
  noteVersions : ∀ n ∈ t.notes, n.version = 1

instance (t : Tables) : Decidable t.Keys :=
  decidable_of_iff ((t.metadata.map Prod.fst).Nodup ∧ (t.states.map (·.awardId)).Nodup ∧
    (∀ r ∈ t.states, r.version ≤ 1) ∧ (t.intents.map (·.operationId)).Nodup ∧
    (t.intents.map (·.idempotencyKey)).Nodup ∧
    ((t.intents.filter (·.custody = .open)).map (·.awardId)).Nodup ∧
    (t.notes.map (·.operationId)).Nodup ∧ ∀ n ∈ t.notes, n.version = 1)
    ⟨fun ⟨a, b, c, d, e, f, g, h⟩ => ⟨a, b, c, d, e, f, g, h⟩,
      fun ⟨a, b, c, d, e, f, g, h⟩ => ⟨a, b, c, d, e, f, g, h⟩⟩

/-- A database with the schema. -/
abbrev Database := { t : Tables // t.Keys }

/-- `PRAGMA foreign_key_check` finds nothing. -/
def Tables.references (t : Tables) : Bool :=
  t.intents.all (fun i => i.awardId ∈ t.states.map (·.awardId)) &&
    t.notes.all fun n => n.awardId ∈ t.states.map (·.awardId) &&
      n.operationId ∈ t.intents.map (·.operationId)

/-- A statement that writes, which SQLite refuses where it would break a constraint. -/
def Database.execute (d : Database) (write : Tables → Tables) : Except StoreRaise Database :=
  if h : (write d.1).Keys ∧ (write d.1).references = true then .ok ⟨write d.1, h.1⟩
  else .error .sqlite

/-! ### Statements that write -/

/-- `INSERT INTO intents` -/
def Tables.insertIntent (row : IntentRow) (t : Tables) : Tables :=
  { t with intents := t.intents ++ [row] }

/-- `UPDATE intents SET attempt_started=1` -/
def Tables.startAttempt (operationId : String) (t : Tables) : Tables :=
  { t with
    intents := Table.update (·.operationId) operationId
      (fun r => { r with attemptStarted := true }) t.intents }

/-- `UPDATE review_state SET status='PENDING_REVIEW',version=version+1` -/
def Tables.moveState (awardId : String) (t : Tables) : Tables :=
  { t with
    states := Table.update (·.awardId) awardId
      (fun r => { r with status := .pendingReview, version := r.version + 1 }) t.states }

/-- `INSERT INTO notes` -/
def Tables.insertNote (row : NoteRow) (t : Tables) : Tables := { t with notes := t.notes ++ [row] }

/-- `UPDATE intents SET receipt_json=?,receipt_sha256=?` -/
def Tables.recordReceipt (operationId raw : String) (t : Tables) : Tables :=
  { t with
    intents := Table.update (·.operationId) operationId
      (fun r => { r with receiptJson := some raw, receiptSha256 := some (sha256Hex raw) })
      t.intents }

/-- `UPDATE intents SET custody='CLOSED'` -/
def Tables.closeCustody (operationId : String) (t : Tables) : Tables :=
  { t with
    intents := Table.update (·.operationId) operationId
      (fun r => { r with custody := .closed }) t.intents }

/-! ### Queries -/

/-- The intent of an operation. -/
def Tables.intent? (t : Tables) (operationId : String) : Option IntentRow :=
  Table.get? (·.operationId) operationId t.intents

/-- The state of an award. -/
def Tables.state? (t : Tables) (awardId : String) : Option StateRow :=
  Table.get? (·.awardId) awardId t.states

/-! ## Operations -/

/-- `_ID.fullmatch(text)` -/
def isStoreId (text : String) : Bool :=
  1 ≤ text.length && text.length ≤ 128 &&
    text.toList.all fun c => c.isAlphanum || c = '_' || c = '.' || c = ':' || c = '-'

/-- A note `_operation` accepts. -/
def isStoreNote (note : String) : Bool :=
  1 ≤ note.length && note.length ≤ 1000 && note.utf8ByteSize ≤ 4000 &&
    !note.toList.any fun c => c.toNat < 32 && c ≠ '\n' && c ≠ '\t'

/-- A value `_operation` accepts as provenance. -/
def isProvenance : Json → Bool
  | .str s => 0 < s.length && s.length ≤ 4000
  | _ => false

/-- An operation `_operation` accepted, with what the store reads of its query. -/
structure Operation where
  value : Json
  awardId : String
  expectedVersion : ℕ
  reviewerNote : String
  idempotencyKey : String
  deriving DecidableEq

/-- A constructed store: what `__init__` checked. -/
structure ReviewStore where
  storeId : String
  ids : List String
  storeId_valid : isStoreId storeId = true
  ids_length : ids.length = 40
  ids_nodup : ids.Nodup

/-- `_object(raw)` -/
def object (raw : String) : Except StoreRaise Json :=
  match loads raw with
  | none => .error (.other .valueError)
  | some (.dict kvs) => .ok (.dict kvs)
  | some _ => .error (certain .evidenceInvalid)

/-- `value[key]` -/
def item (value : Json) (key : String) : Except StoreRaise Json :=
  demand (value.get? key) (.other .keyError)

variable (s : ReviewStore)

/-- What `_operation` checks of the dictionary it loaded. -/
def ReviewStore.checkOperation (value : Json) : Except StoreRaise Operation := do
  let dataset ← item value "dataset_sha256"
  ensure (dataset = .str datasetSha256) (certain .operationContextMismatch)
  let storeId ← item value "store_id"
  ensure (storeId = .str s.storeId) (certain .operationContextMismatch)
  let query ← item value "query"
  ensure (query.hasFields ["award_id", "expected_version", "proposed_status", "reviewer_note",
    "idempotency_key"]) (certain .operationQueryInvalid)
  let awardId ← demand ((query.getStr? "award_id").filter (· ∈ s.ids))
    (certain .unknownSyntheticAward)
  let expectedVersion ← demand (query.getNat? "expected_version" 0)
    (certain .expectedVersionInvalid)
  ensure (query.getStr? "proposed_status" = some "PENDING_REVIEW")
    (certain .transitionNotSupported)
  let reviewerNote ← demand ((query.getStr? "reviewer_note").filter isStoreNote)
    (certain .noteInvalid)
  let idempotencyKey ← demand ((query.getStr? "idempotency_key").filter isStoreId)
    (certain .idempotencyKeyInvalid)
  ["owner_id", "approval_ref", "original_request"].forM fun field => do
    let provenance ← item value field
    ensure (isProvenance provenance) (certain .operationProvenanceInvalid)
  return { value, awardId, expectedVersion, reviewerNote, idempotencyKey }

/-- `_operation(operation)`; an error is what `json.dumps` raises on it. -/
def ReviewStore.operation (operation : Except PyException Json) : Except StoreRaise Operation :=
  Except.reraise (do
    let operation ← Except.reraise operation .other
    let value ← object (canonical false operation)
    s.checkOperation value) (.caughtAs false (certain .operationInvalid))

/-! ## Receipts -/

/-- The snapshot of an award. -/
def snapshotJson (awardId : String) (status : ReviewStatus) (version : ℕ) (notes : List String) :
    Json :=
  .dict [("award_id", .str awardId), ("dataset_sha256", .str datasetSha256),
    ("notes", .list (notes.map .str)), ("status", .str status.text), ("version", .int version)]

/-- `_receipt(operation_id, operation, binding_sha256)` -/
def ReviewStore.receipt (operationId : String) (op : Operation) (bindingSha256 : String) : Json :=
  let before := snapshotJson op.awardId .unreviewed 0 []
  let after := snapshotJson op.awardId .pendingReview 1 [op.reviewerNote]
  .dict [("after", after), ("after_sha256", .str (digest after)), ("before", before),
    ("before_sha256", .str (digest before)), ("binding_sha256", .str bindingSha256),
    ("contract", .str storeVersion), ("operation", op.value),
    ("operation_id", .str operationId), ("operation_sha256", .str (digest op.value)),
    ("store_id", .str s.storeId), ("transaction_outcome", .str "COMMITTED")]

/-- The note a receipt is evidence for. -/
def noteOfReceipt (awardId : String) (receipt : Json) : Option NoteRow := do
  let operationId ← receipt.getStr? "operation_id"
  let after ← receipt.get? "after"
  match after.getList? "notes" with
  | some (.str note :: _) => some ⟨operationId, awardId, 1, note⟩
  | _ => none

/-! ## Validation -/

/-- The `metadata` a store expects. -/
def ReviewStore.metadata : List (String × String) :=
  [("version", storeVersion), ("dataset_sha256", datasetSha256), ("store_id", s.storeId)]

/-- The checks of one intent; `committed` are the receipts found so far. -/
def ReviewStore.validateIntent (committed : List (String × Json)) (row : IntentRow) :
    Except StoreRaise (List (String × Json)) := do
  let value ← object row.operationJson
  let op ← s.operation (.ok value)
  ensure (canonical false op.value = row.operationJson &&
    sha256Hex row.operationJson = row.operationSha256 && op.awardId = row.awardId &&
    op.idempotencyKey = row.idempotencyKey && isSha256Hex row.bindingSha256)
    (certain .operationInconsistent)
  match row.receiptJson with
  | none =>
    ensure (row.receiptSha256 = none && row.custody = .open) (certain .custodyInconsistent)
    return committed
  | some raw =>
    let receipt ← object raw
    ensure (canonical false receipt = raw && row.receiptSha256 = some (sha256Hex raw) &&
      receipt.pyEq (s.receipt row.operationId op row.bindingSha256) && op.expectedVersion = 0 &&
      row.attemptStarted && !(row.awardId ∈ committed.map Prod.fst))
      (certain .receiptInconsistent)
    return committed ++ [(row.awardId, receipt)]

/-- The checks of one award against the receipts and the notes. -/
def validateState (committed : List (String × Json)) (notes : List NoteRow) (row : StateRow) :
    Except StoreRaise Unit :=
  match committed.lookup row.awardId with
  | none => ensure (row.status = .unreviewed && row.version = 0) (certain .stateWithoutEvidence)
  | some receipt => do
    ensure (row.status = .pendingReview && row.version = 1) (certain .stateEvidenceMismatch)
    let note ← demand (Table.get? (·.awardId) row.awardId notes) (.other .keyError)
    let expected ← demand (noteOfReceipt row.awardId receipt) (.other .keyError)
    ensure (note = expected) (certain .stateEvidenceMismatch)

/-- The statements of `_validate` after `PRAGMA quick_check`, which tables of the model pass. -/
def ReviewStore.validateTables (t : Tables) : Except StoreRaise Unit := do
  ensure (t.metadata.isPerm s.metadata) (certain .identityMismatch)
  ensure (t.states.all (·.awardId ∈ s.ids) && s.ids.all (· ∈ t.states.map (·.awardId)) &&
    t.states.length = 40) (certain .targetSetInvalid)
  ensure t.references (certain .referencesInvalid)
  let committed ← t.intents.foldlM s.validateIntent []
  ensure ((t.notes.map (·.awardId)).Nodup &&
    t.notes.all (·.awardId ∈ committed.map Prod.fst) &&
    (committed.map Prod.fst).all (· ∈ t.notes.map (·.awardId))) (certain .notesInconsistent)
  ensure (!t.intents.any fun i => i.receiptJson = none && i.awardId ∈ t.notes.map (·.awardId))
    (certain .uncommittedIntentAfterMutation)
  t.states.forM (validateState committed t.notes)

/-- `_validate(connection)`; `failed` is an error of SQLite on the way. -/
def ReviewStore.validate (failed : Bool) (d : Database) : Except StoreRaise Unit :=
  Except.reraise (do
    ensure (!failed) .sqlite
    s.validateTables d.1) (.caughtAs true (certain .invalidOrUnavailable))

end CivicGate.Write01
