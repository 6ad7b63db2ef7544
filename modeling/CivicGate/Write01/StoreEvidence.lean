import CivicGate.Audit.History.Limits
import CivicGate.Write01.StoreCalls

/-!
# What a consistent store holds

`Records s row op` says that a row of `intents` is the evidence of an operation, and
`Consistent s t` that the tables are what the operations reserved and committed leave: the
committed ones have their notes and their awards' states, and no award but theirs has moved.

The main result is `Consistent.validateTables`: `_validate` accepts every consistent database.
Consistency is the invariant of the runs, in `StoreInvariant`.
-/

namespace CivicGate.Write01

variable {s : ReviewStore}

@[simp] lemma demand_eq_ok {α : Type} {x : Option α} {e : StoreRaise} {a : α} :
    demand x e = .ok a ↔ x = some a := by
  cases x <;> simp [demand]

/-! ## Operations -/

/-- The operation is one `_operation` returns. -/
structure Accepted (s : ReviewStore) (op : Operation) : Prop where
  object : object (canonical false op.value) = .ok op.value
  checked : s.checkOperation op.value = .ok op

lemma object_eq_ok {raw : String} {v : Json} :
    object raw = .ok v ↔ loads raw = some v ∧ ∃ kvs, v = .dict kvs := by
  unfold object
  constructor
  · intro h
    split at h
    · cases h
    · rename_i kvs hloads
      cases h
      exact ⟨hloads, kvs, rfl⟩
    · cases h
  · rintro ⟨hloads, kvs, rfl⟩
    rw [hloads]

lemma value_of_checkOperation {value : Json} {op : Operation}
    (h : s.checkOperation value = .ok op) : op.value = value ∧ op.awardId ∈ s.ids := by
  simp only [ReviewStore.checkOperation, Except.bind_eq_ok, ensure_eq_ok, demand_eq_ok,
    Except.pure_eq_ok] at h
  obtain ⟨_, -, _, -, _, -, _, -, query, -, _, -, awardId, haward, _, -, _, -, _, -, _, -, _, -,
    rfl⟩ := h
  obtain ⟨-, hmem⟩ := Option.filter_eq_some_iff.mp haward
  exact ⟨rfl, of_decide_eq_true hmem⟩

/-- `_operation` returns the normal form of what it is given. -/
lemma operation_eq_ok {x : Except PyException Json} {op : Operation}
    (h : s.operation x = .ok op) : ∃ v, x = .ok v ∧ op.value = v.normalize ∧
      object (canonical false v) = .ok op.value ∧ s.checkOperation op.value = .ok op := by
  simp only [ReviewStore.operation, Except.reraise_eq_ok, Except.bind_eq_ok] at h
  obtain ⟨v, hx, value, hobject, hchecked⟩ := h
  obtain ⟨rfl, -⟩ := value_of_checkOperation hchecked
  obtain ⟨hloads, -⟩ := object_eq_ok.mp hobject
  exact ⟨v, hx, eq_of_loads_canonical hloads, hobject, hchecked⟩

/-- What `_operation` returns it accepts again, unchanged. -/
lemma accepted_of_operation {x : Except PyException Json} {op : Operation}
    (h : s.operation x = .ok op) : Accepted s op := by
  obtain ⟨v, -, hvalue, hobject, hchecked⟩ := operation_eq_ok h
  refine ⟨?_, hchecked⟩
  rw [hvalue, canonical_normalize, hobject, hvalue]

section

variable {op : Operation} (h : Accepted s op)
include h

lemma Accepted.operation : s.operation (.ok op.value) = .ok op := by
  simp only [ReviewStore.operation, Except.reraise_eq_ok, Except.bind_eq_ok]
  exact ⟨op.value, rfl, op.value, h.object, h.checked⟩

lemma Accepted.mem_ids : op.awardId ∈ s.ids := (value_of_checkOperation h.checked).2

lemma Accepted.normalize_value : op.value.normalize = op.value :=
  (eq_of_loads_canonical (object_eq_ok.mp h.object).1).symm

lemma Accepted.withinDigits : op.value.withinDigits = true :=
  withinDigits_of_loads (object_eq_ok.mp h.object).1

end

/-- An operation is known by the text of its value. -/
lemma Accepted.eq_of_text {op op' : Operation} (h : Accepted s op) (h' : Accepted s op')
    (heq : canonical false op.value = canonical false op'.value) : op = op' := by
  have hvalue : op.value = op'.value := by
    rw [← h.normalize_value, ← h'.normalize_value]
    exact canonical_inj.mp heq
  have hchecked := h.checked
  rw [hvalue, h'.checked] at hchecked
  exact (Except.ok.inj hchecked).symm

/-! ## Receipts -/

lemma normalize_snapshotJson (awardId : String) (status : ReviewStatus) (version : ℕ)
    (notes : List String) : (snapshotJson awardId status version notes).normalize =
      snapshotJson awardId status version notes := by
  refine Json.normalize_dict ?_ ?_
  · simp only [List.map_cons, List.map_nil]
    decide
  · simp

lemma normalize_receipt {op : Operation} (h : Accepted s op) (operationId bindingSha256 : String) :
    (s.receipt operationId op bindingSha256).normalize =
      s.receipt operationId op bindingSha256 := by
  refine Json.normalize_dict ?_ ?_
  · simp only [List.map_cons, List.map_nil]
    decide
  · simp [normalize_snapshotJson, h.normalize_value]

/-- A receipt reads back as itself. -/
lemma object_receipt {op : Operation} (h : Accepted s op) (operationId bindingSha256 : String) :
    object (canonical false (s.receipt operationId op bindingSha256)) =
      .ok (s.receipt operationId op bindingSha256) := by
  refine object_eq_ok.mpr ⟨?_, _, rfl⟩
  have hdigits : (s.receipt operationId op bindingSha256).withinDigits = true := by
    have hone : 1 < 10 ^ maxDigits := Nat.one_lt_pow (by decide) (by decide)
    simp [ReviewStore.receipt, snapshotJson, Json.withinDigits, Json.withinDigitsEntries,
      Json.withinDigitsItems, h.withinDigits, hone]
  rw [loads_canonical (by rw [normalize_receipt h]; exact hdigits), normalize_receipt h]

/-- The note an operation leaves. -/
def noteRow (operationId : String) (op : Operation) : NoteRow :=
  ⟨operationId, op.awardId, 1, op.reviewerNote⟩

lemma noteOfReceipt_receipt (operationId : String) (op : Operation) (bindingSha256 : String) :
    noteOfReceipt op.awardId (s.receipt operationId op bindingSha256) =
      some (noteRow operationId op) := by
  simp [noteOfReceipt, ReviewStore.receipt, snapshotJson, noteRow, Json.getStr?, Json.get?,
    Json.getList?, List.lookup_cons]

/-! ## Rows -/

/-- A row of `intents` is the evidence of an operation. -/
structure Records (s : ReviewStore) (row : IntentRow) (op : Operation) : Prop where
  accepted : Accepted s op
  operationJson : row.operationJson = canonical false op.value
  operationSha256 : row.operationSha256 = digest op.value
  awardId : row.awardId = op.awardId
  idempotencyKey : row.idempotencyKey = op.idempotencyKey
  bindingSha256 : isSha256Hex row.bindingSha256 = true
  expectedVersion : op.expectedVersion = 0
  withoutReceipt : row.receiptJson = none → row.receiptSha256 = none ∧ row.custody = .open
  withReceipt : ∀ raw, row.receiptJson = some raw →
    raw = canonical false (s.receipt row.operationId op row.bindingSha256) ∧
      row.receiptSha256 = some (sha256Hex raw) ∧ row.attemptStarted = true

/-- A row is the evidence of one operation. -/
lemma Records.unique {row : IntentRow} {op op' : Operation} (h : Records s row op)
    (h' : Records s row op') : op = op' :=
  h.accepted.eq_of_text h'.accepted (by rw [← h.operationJson, ← h'.operationJson])

/-- The intents with a receipt. -/
def Tables.committed (t : Tables) : List IntentRow := t.intents.filter (·.receiptJson.isSome)

/-- The awards with a committed intent. -/
def Tables.moved (t : Tables) : List String := t.committed.map (·.awardId)

/-- The state of an award, as the committed intents have it. -/
def Tables.stateOf (t : Tables) (awardId : String) : StateRow :=
  if awardId ∈ t.moved then ⟨awardId, .pendingReview, 1⟩ else ⟨awardId, .unreviewed, 0⟩

/-- The tables are those of operations reserved and committed. -/
structure Consistent (s : ReviewStore) (t : Tables) : Prop where
  metadata : t.metadata = s.metadata
  awards : t.states.map (·.awardId) = s.ids
  recorded : ∀ i ∈ t.intents, ∃ op, Records s i op
  once : t.moved.Nodup
  unmoved : ∀ i ∈ t.intents, i.receiptJson = none → i.awardId ∉ t.moved
  noted : ∀ n, n ∈ t.notes ↔ ∃ i ∈ t.committed, ∃ op, Records s i op ∧ n = noteRow i.operationId op
  states : ∀ r ∈ t.states, r = t.stateOf r.awardId

lemma Tables.mem_committed {t : Tables} {i : IntentRow} :
    i ∈ t.committed ↔ i ∈ t.intents ∧ ∃ raw, i.receiptJson = some raw := by
  rw [Tables.committed, List.mem_filter, Option.isSome_iff_exists]

section

variable {t : Tables} (h : Consistent s t)
include h

lemma Consistent.mem_ids {i : IntentRow} (hi : i ∈ t.intents) : i.awardId ∈ s.ids := by
  obtain ⟨op, hop⟩ := h.recorded i hi
  rw [hop.awardId]
  exact hop.accepted.mem_ids

/-- The awards with a note are those that moved. -/
lemma Consistent.mem_noted {a : String} : a ∈ t.notes.map (·.awardId) ↔ a ∈ t.moved := by
  constructor
  · intro ha
    obtain ⟨n, hn, rfl⟩ := List.mem_map.mp ha
    obtain ⟨i, hi, op, hop, rfl⟩ := (h.noted n).mp hn
    exact List.mem_map.mpr ⟨i, hi, hop.awardId⟩
  · intro ha
    obtain ⟨i, hi, rfl⟩ := List.mem_map.mp ha
    obtain ⟨op, hop⟩ := h.recorded i (Tables.mem_committed.mp hi).1
    exact List.mem_map.mpr ⟨_, (h.noted _).mpr ⟨i, hi, op, hop, rfl⟩, hop.awardId.symm⟩

/-- Two notes of one award are of one operation. -/
lemma Consistent.noteAwards_nodup (hkeys : t.Keys) : (t.notes.map (·.awardId)).Nodup := by
  refine (List.nodup_map_iff_inj_on (List.Nodup.of_map _ hkeys.notes)).mpr ?_
  intro n hn n' hn' heq
  obtain ⟨i, hi, op, hop, rfl⟩ := (h.noted n).mp hn
  obtain ⟨i', hi', op', hop', rfl⟩ := (h.noted n').mp hn'
  have haward : i.awardId = i'.awardId := by
    rw [hop.awardId, hop'.awardId]
    exact heq
  obtain rfl : i = i' := Table.eq_of_key h.once hi hi' haward
  rw [hop.unique hop']

lemma Consistent.references : t.references = true := by
  simp only [Tables.references, Bool.and_eq_true, List.all_eq_true, decide_eq_true_eq, h.awards]
  constructor
  · exact fun i hi => h.mem_ids hi
  · intro n hn
    obtain ⟨i, hi, op, hop, rfl⟩ := (h.noted n).mp hn
    obtain ⟨hi, -⟩ := Tables.mem_committed.mp hi
    exact ⟨hop.accepted.mem_ids, List.mem_map.mpr ⟨i, hi, rfl⟩⟩

end

/-! ## Validation accepts -/

lemma Records.validateIntent {row : IntentRow} {op : Operation} (h : Records s row op)
    {committed : List (String × Json)}
    (hnew : row.receiptJson.isSome = true → row.awardId ∉ committed.map Prod.fst) :
    s.validateIntent committed row = .ok (match row.receiptJson with
      | none => committed
      | some _ => committed ++
          [(row.awardId, s.receipt row.operationId op row.bindingSha256)]) := by
  have hobject : object row.operationJson = .ok op.value := by
    rw [h.operationJson]
    exact h.accepted.object
  have hsha : sha256Hex row.operationJson = row.operationSha256 := by
    rw [h.operationSha256, h.operationJson, digest]
  simp only [ReviewStore.validateIntent, hobject, Except.ok_bind, h.accepted.operation]
  rw [h.operationJson, ← hsha, h.operationJson, h.awardId, h.idempotencyKey, h.bindingSha256]
  simp only [decide_true, Bool.and_self, ensure_true, Except.ok_bind]
  cases hreceipt : row.receiptJson with
  | none =>
      obtain ⟨hnone, hopen⟩ := h.withoutReceipt hreceipt
      rw [hnone, hopen]
      rfl
  | some raw =>
      obtain ⟨rfl, hreceiptSha, hstarted⟩ := h.withReceipt raw hreceipt
      rw [hreceipt, h.awardId] at hnew
      simp only [object_receipt h.accepted, Except.ok_bind, hreceiptSha, hstarted,
        h.expectedVersion, Json.pyEq_self (normalize_receipt h.accepted _ _), hnew rfl,
        decide_true, decide_false, Bool.and_self, Bool.not_false, ensure_true]
      rfl

/-- The receipts `_validate` collects are those of the committed intents. -/
lemma foldlM_validateIntent {rows : List IntentRow} {committed : List (String × Json)}
    (hrecords : ∀ i ∈ rows, ∃ op, Records s i op)
    (hnodup : (committed.map Prod.fst ++
      (rows.filter (·.receiptJson.isSome)).map (·.awardId)).Nodup) :
    ∃ found, rows.foldlM s.validateIntent committed = .ok (committed ++ found) ∧
      found.map Prod.fst = (rows.filter (·.receiptJson.isSome)).map (·.awardId) ∧
      ∀ e ∈ found, ∃ i ∈ rows, i.receiptJson.isSome = true ∧ ∃ op, Records s i op ∧
        e = (i.awardId, s.receipt i.operationId op i.bindingSha256) := by
  induction rows generalizing committed with
  | nil => exact ⟨[], by rw [List.append_nil]; rfl, rfl, by simp⟩
  | cons row rows ih =>
      obtain ⟨op, hop⟩ := hrecords row List.mem_cons_self
      have hrest : ∀ i ∈ rows, ∃ op, Records s i op :=
        fun i hi => hrecords i (List.mem_cons_of_mem _ hi)
      rw [List.foldlM_cons]
      by_cases hsome : row.receiptJson.isSome = true
      · have hfilter : (row :: rows).filter (·.receiptJson.isSome) =
            row :: rows.filter (·.receiptJson.isSome) := List.filter_cons_of_pos hsome
        rw [hfilter, List.map_cons] at hnodup ⊢
        have hnew : row.awardId ∉ committed.map Prod.fst := fun hmem =>
          List.disjoint_of_nodup_append hnodup hmem List.mem_cons_self
        have hnext : s.validateIntent committed row = .ok (committed ++
            [(row.awardId, s.receipt row.operationId op row.bindingSha256)]) := by
          rw [hop.validateIntent fun _ => hnew]
          obtain ⟨raw, hraw⟩ := Option.isSome_iff_exists.mp hsome
          rw [hraw]
        rw [hnext, Except.ok_bind]
        have hnodup' : ((committed ++
            [(row.awardId, s.receipt row.operationId op row.bindingSha256)]).map Prod.fst ++
            (rows.filter (·.receiptJson.isSome)).map (·.awardId)).Nodup := by
          rw [List.map_append, List.append_assoc]
          exact hnodup
        obtain ⟨found, hfold, hkeys, hfound⟩ := ih hrest hnodup'
        refine ⟨(row.awardId, s.receipt row.operationId op row.bindingSha256) :: found, ?_, ?_, ?_⟩
        · rw [hfold, List.append_assoc, List.singleton_append]
        · rw [List.map_cons, hkeys]
        · intro e he
          rcases List.mem_cons.mp he with rfl | he
          · exact ⟨row, List.mem_cons_self, hsome, op, hop, rfl⟩
          · obtain ⟨i, hi, hrest⟩ := hfound e he
            exact ⟨i, List.mem_cons_of_mem _ hi, hrest⟩
      · have hfilter : (row :: rows).filter (·.receiptJson.isSome) =
            rows.filter (·.receiptJson.isSome) := List.filter_cons_of_neg hsome
        rw [hfilter] at hnodup ⊢
        have hnext : s.validateIntent committed row = .ok committed := by
          rw [hop.validateIntent fun h => absurd h hsome]
          rw [Option.not_isSome_iff_eq_none.mp hsome]
        rw [hnext, Except.ok_bind]
        obtain ⟨found, hfold, hkeys, hfound⟩ := ih hrest hnodup
        refine ⟨found, hfold, hkeys, fun e he => ?_⟩
        obtain ⟨i, hi, hrest⟩ := hfound e he
        exact ⟨i, List.mem_cons_of_mem _ hi, hrest⟩

/-- `_validate` accepts consistent tables. -/
theorem Consistent.validateTables {t : Tables} (h : Consistent s t) (hkeys : t.Keys) :
    s.validateTables t = .ok () := by
  have hids : t.states.length = 40 := by
    rw [← List.length_map (f := (·.awardId)), h.awards, s.ids_length]
  obtain ⟨found, hfold, hfoundKeys, hfound⟩ := @foldlM_validateIntent s t.intents []
    h.recorded (by rw [List.map_nil, List.nil_append]; exact h.once)
  rw [List.nil_append] at hfold
  have hmoved : found.map Prod.fst = t.moved := hfoundKeys
  simp only [ReviewStore.validateTables, Except.bind_eq_ok, ensure_eq_ok, Bool.and_eq_true,
    List.all_eq_true, decide_eq_true_eq, h.awards, h.metadata, hfold]
  refine ⟨(), List.isPerm_iff.mpr (List.Perm.refl _), (), ⟨⟨?_, ?_⟩, hids⟩, (), h.references,
    found, rfl, (), ⟨⟨h.noteAwards_nodup hkeys, ?_⟩, ?_⟩, (), ?_, ?_⟩
  · intro r hr
    rw [← h.awards]
    exact List.mem_map_of_mem hr
  · exact fun a ha => ha
  · intro n hn
    rw [hmoved]
    exact h.mem_noted.mp (List.mem_map_of_mem hn)
  · intro a ha
    rw [hmoved] at ha
    exact h.mem_noted.mpr ha
  · simp only [Bool.not_eq_true', List.any_eq_false, Bool.and_eq_true, decide_eq_true_eq, not_and]
    exact fun i hi hnone hmem => h.unmoved i hi hnone (h.mem_noted.mp hmem)
  · refine Except.forM_eq_ok.mpr fun r hr => ?_
    have hstate := h.states r hr
    rw [validateState]
    by_cases hmem : r.awardId ∈ t.moved
    · rw [Tables.stateOf, if_pos hmem] at hstate
      obtain ⟨receipt, hlookup⟩ : ∃ receipt, found.lookup r.awardId = some receipt := by
        rw [← Option.isSome_iff_exists, lookup_isSome, hmoved]
        exact hmem
      obtain ⟨i, hi, hsome, op, hop, heq⟩ := hfound _ (mem_of_lookup hlookup)
      obtain ⟨haward, rfl⟩ := Prod.mk.inj heq
      have hnote : noteRow i.operationId op ∈ t.notes := by
        refine (h.noted _).mpr ⟨i, Tables.mem_committed.mpr ⟨hi, ?_⟩, op, hop, rfl⟩
        exact Option.isSome_iff_exists.mp hsome
      have hget : Table.get? (·.awardId) op.awardId t.notes = some (noteRow i.operationId op) :=
        Table.get?_of_mem (h.noteAwards_nodup hkeys) hnote
      rw [haward, hop.awardId] at hstate hlookup ⊢
      simp [hlookup, hstate, hget, noteOfReceipt_receipt]
    · rw [Tables.stateOf, if_neg hmem] at hstate
      have hlookup : found.lookup r.awardId = none := lookup_eq_none (hmoved ▸ hmem)
      rw [hlookup, hstate]
      rfl

end CivicGate.Write01
