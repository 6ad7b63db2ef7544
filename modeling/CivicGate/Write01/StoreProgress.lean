import CivicGate.Write01.StoreSafety

/-!
# A write that meets no failure

The safety theorems of `StoreSafety` would hold of a store that refuses everything.  Here an
operation that `_available` admits, under an identifier no intent has, is carried through: in a
world where nothing fails, from any reachable state, the calls of `reserve`, `commit` and
`acknowledge` return, the note is there, the award is pending review and the custody closed.
-/

namespace CivicGate.Write01

variable {s : ReviewStore}

/-- Nothing fails. -/
def StoreWorld.calm : StoreWorld where
  connect := .ok ()
  failed _ := false
  fault _ := none
  commit := .acknowledged

lemma Consistent.start_calm {d : Database} (h : Consistent s d.1) :
    s.start .calm d = .ok () := by
  simp only [ReviewStore.start, Except.bind_eq_ok]
  exact ⟨(), rfl, h.validate⟩

lemma execute_of_keys {d : Database} {write : Tables → Tables} (hkeys : (write d.1).Keys)
    (hreferences : (write d.1).references = true) : d.execute write = .ok ⟨write d.1, hkeys⟩ :=
  execute_eq_ok.mpr ⟨rfl, hreferences⟩

/-! ## The statements keep the schema -/

section

variable {t : Tables}

lemma keys_insertIntent {id b : String} {op : Operation} (hkeys : t.Keys)
    (havailable : Available t op) (hid : id ∉ t.intents.map (·.operationId)) :
    (t.insertIntent (intentRow id op b)).Keys := by
  refine { hkeys with operations := ?_, idempotencyKeys := ?_, openTargets := ?_ }
  · exact Table.nodup_concat hkeys.operations hid
  · exact Table.nodup_concat hkeys.idempotencyKeys havailable.newKey
  · have hfilter : (t.insertIntent (intentRow id op b)).intents.filter (·.custody = .open) =
        t.intents.filter (·.custody = .open) ++ [intentRow id op b] := by
      rw [Tables.insertIntent, List.filter_append]
      rfl
    rw [hfilter]
    refine Table.nodup_concat hkeys.openTargets fun hmem => ?_
    obtain ⟨i, hi, haward⟩ := List.mem_map.mp hmem
    obtain ⟨hi, hopen⟩ := List.mem_filter.mp hi
    exact havailable.noneOpen i hi haward (of_decide_eq_true hopen)

/-- An update that keeps the keys of an intent and opens none. -/
lemma keys_updateIntent {id : String} {f : IntentRow → IntentRow} (hkeys : t.Keys)
    (hid : ∀ r, (f r).operationId = r.operationId) (haward : ∀ r, (f r).awardId = r.awardId)
    (hkey : ∀ r, (f r).idempotencyKey = r.idempotencyKey)
    (hcustody : ∀ r, (f r).custody = .open → r.custody = .open) :
    Tables.Keys { t with intents := Table.update (·.operationId) id f t.intents } := by
  refine { hkeys with operations := ?_, idempotencyKeys := ?_, openTargets := ?_ }
  · rw [Table.map_update hid]
    exact hkeys.operations
  · rw [Table.map_update hkey]
    exact hkeys.idempotencyKeys
  · refine hkeys.openTargets.sublist (Table.sublist_filter_update (fun r hr => ?_) haward)
    exact decide_eq_true (hcustody r (of_decide_eq_true hr))

lemma keys_moveState {a : String} (hkeys : t.Keys) (hstate : ∀ r ∈ t.states, r.awardId = a →
    r.version = 0) : (t.moveState a).Keys := by
  refine { hkeys with states := ?_, stateVersions := ?_ }
  · have hawards : (t.moveState a).states.map (·.awardId) = t.states.map (·.awardId) :=
      Table.map_update fun _ => rfl
    rw [hawards]
    exact hkeys.states
  · intro r hr
    obtain ⟨q, hq, ⟨haward, rfl⟩ | ⟨-, rfl⟩⟩ := Table.mem_update.mp hr
    · rw [hstate q hq haward]
    · exact hkeys.stateVersions r hq

lemma keys_insertNote {n : NoteRow} (hkeys : t.Keys)
    (hn : n.operationId ∉ t.notes.map (·.operationId)) (hversion : n.version = 1) :
    (t.insertNote n).Keys := by
  refine { hkeys with notes := Table.nodup_concat hkeys.notes hn, noteVersions := ?_ }
  intro m hm
  rcases List.mem_append.mp hm with hm | hm
  · exact hkeys.noteVersions m hm
  · rw [List.mem_singleton.mp hm, hversion]

end

/-! ## The calls -/

/-- `reserve` of an operation that is available, under a new identifier. -/
lemma reserve_calm {d : Database} {id b : String} {x : Except PyException Json} {op : Operation}
    (h : Consistent s d.1) (hop : s.operation x = .ok op) (havailable : Available d.1 op)
    (hid : isStoreId id = true) (hb : isSha256Hex b = true)
    (hnew : id ∉ d.1.intents.map (·.operationId)) :
    ∃ t, s.reserve .calm id x b d = (.ok ⟨id, digest op.value, b⟩, t) ∧
      t.1 = d.1.insertIntent (intentRow id op b) := by
  have haccepted : Accepted s op := accepted_of_operation hop
  have hkeys : (d.1.insertIntent (intentRow id op b)).Keys :=
    keys_insertIntent d.2 havailable hnew
  have hbody : s.reserveBody .calm id op b d = .ok (⟨id, digest op.value, b⟩, ⟨_, hkeys⟩) := by
    simp only [ReviewStore.reserveBody, Except.bind_eq_ok, Except.pure_eq_ok]
    exact ⟨(), rfl, (), h.start_calm, (), rfl, (), available_eq_ok.mpr havailable, (), rfl, _,
      execute_of_keys hkeys (h.insertIntent haccepted hb havailable).references, rfl⟩
  have hchecks : s.reserveChecks .calm id x b = .ok op := by
    simp only [ReviewStore.reserveChecks, Except.bind_eq_ok, ensure_eq_ok, Bool.and_eq_true,
      Except.pure_eq_ok]
    exact ⟨(), ⟨hid, hb⟩, op, hop, (), rfl, rfl⟩
  refine ⟨⟨_, hkeys⟩, ?_, rfl⟩
  rw [ReviewStore.reserve, hchecks]
  simp only [hbody]
  rfl

/-- The first transaction of `commit` for an intent not yet attempted, up to its commit. -/
lemma attemptBody_calm {d : Database} {p : PendingCommit} (h : Consistent s d.1)
    (hp : Admissible d.1 p) :
    ∃ t, s.attemptBody .calm p.operationId p.bindingSha256 d = .ok (p, t) ∧
      t.1 = d.1.startAttempt p.operationId := by
  have hkeys : (d.1.startAttempt p.operationId).Keys :=
    keys_updateIntent d.2 (fun _ => rfl) (fun _ => rfl) (fun _ => rfl) fun _ h => h
  refine ⟨⟨_, hkeys⟩, ?_, rfl⟩
  simp only [ReviewStore.attemptBody, Except.bind_eq_ok, Except.pure_eq_ok, demand_eq_ok,
    ensure_eq_ok, Option.filter_eq_some_iff, Bool.and_eq_true, decide_eq_true_eq]
  refine ⟨(), h.start_calm, (), rfl, p.row, ⟨hp.found, hp.custody, hp.binding⟩, (), ?_, (), ?_,
    (), rfl, _, execute_of_keys hkeys (h.startAttempt _).references, rfl⟩
  · rw [hp.receipt]
    rfl
  · rw [hp.attempt]
    rfl

lemma attempt_calm {d : Database} {p : PendingCommit} (h : Consistent s d.1)
    (hp : Admissible d.1 p) :
    ∃ t, s.attempt .calm p.operationId p.bindingSha256 d = (.ok p, t) ∧
      t.1 = d.1.startAttempt p.operationId := by
  obtain ⟨t, hbody, ht⟩ := attemptBody_calm h hp
  refine ⟨t, ?_, ht⟩
  rw [ReviewStore.attempt]
  simp only [StoreWorld.calm] at hbody ⊢
  rw [hbody]
  rfl

/-- The second transaction of `commit`. -/
lemma mutate_calm {st : StoreState} (h : Invariant s st) {p : PendingCommit}
    (hp : p ∈ st.pending) {op : Operation} (hm : Mutable s st.db.1 p op) :
    ∃ t, s.mutate .calm p st.db = (.ok ⟨s.receipt p.operationId op p.bindingSha256,
        digest (s.receipt p.operationId op p.bindingSha256)⟩, t) ∧
      t.1 = s.mutated p op st.db.1 := by
  have hc := h.carries hp hm
  have hloaded : object p.row.operationJson = .ok op.value := by
    have hjson : p.row.operationJson = canonical false op.value := hc.records.operationJson
    rw [hjson]
    exact hc.records.accepted.object
  have hawards : (st.db.1.moveState op.awardId).states.map (·.awardId) =
      st.db.1.states.map (·.awardId) := Table.map_update fun _ => rfl
  -- Each statement keeps the schema.
  have hkeys₁ : (st.db.1.moveState op.awardId).Keys := by
    refine keys_moveState st.db.2 fun r hr haward => ?_
    rw [h.consistent.states r hr, Tables.stateOf, if_neg (haward ▸ hc.unmoved h.consistent)]
  have hkeys₂ : ((st.db.1.moveState op.awardId).insertNote (noteRow p.operationId op)).Keys := by
    refine keys_insertNote hkeys₁ (fun hmem => ?_) rfl
    obtain ⟨n, hn, hid⟩ := List.mem_map.mp hmem
    obtain ⟨i, hi, op', -, rfl⟩ := (h.consistent.noted n).mp hn
    obtain ⟨hi, raw, hraw⟩ := Tables.mem_committed.mp hi
    have hrow : i = { p.row with attemptStarted := true } :=
      Table.eq_of_key st.db.2.operations hi hc.mem (hid.trans hc.operationId.symm)
    rw [hrow, hc.receipt] at hraw
    cases hraw
  have hkeys₃ : (s.mutated p op st.db.1).Keys :=
    keys_updateIntent hkeys₂ (fun _ => rfl) (fun _ => rfl) (fun _ => rfl) fun _ h => h
  have hreferences := h.consistent.references
  have hreferences₁ : (st.db.1.moveState op.awardId).references = true := by
    rw [Tables.references, hawards]
    exact hreferences
  have hreferences₂ : ((st.db.1.moveState op.awardId).insertNote
      (noteRow p.operationId op)).references = true := by
    have haward : op.awardId ∈ st.db.1.states.map (·.awardId) := by
      rw [h.consistent.awards]
      exact hc.records.accepted.mem_ids
    have hid : p.operationId ∈ st.db.1.intents.map (·.operationId) :=
      List.mem_map.mpr ⟨_, hc.mem, hc.operationId⟩
    simp only [Tables.references, Tables.insertNote, hawards, Bool.and_eq_true, List.all_eq_true,
      decide_eq_true_eq] at hreferences ⊢
    refine ⟨hreferences.1, fun n hn => ?_⟩
    rcases List.mem_append.mp hn with hn | hn
    · obtain ⟨hn₁, hn₂⟩ := hreferences.2 n hn
      exact ⟨hn₁, decide_eq_true hn₂⟩
    · rw [List.mem_singleton.mp hn]
      exact ⟨haward, decide_eq_true hid⟩
  have hreferences₃ : (s.mutated p op st.db.1).references = true :=
    (h.consistent.mutated st.db.2 hkeys₃ hc).references
  obtain ⟨r, hr, hversion, hstatus⟩ := hm.state
  have hbody : s.mutateBody .calm p st.db = .ok (⟨s.receipt p.operationId op p.bindingSha256,
      digest (s.receipt p.operationId op p.bindingSha256)⟩, ⟨_, hkeys₃⟩) := by
    simp only [ReviewStore.mutateBody, Except.bind_eq_ok, Except.pure_eq_ok, demand_eq_ok,
      ensure_eq_ok, Bool.and_eq_true, decide_eq_true_eq]
    exact ⟨(), h.consistent.start_calm, op.value, hloaded, op, hc.records.accepted.operation, (),
      rfl, r, hr, (), ⟨hversion, hstatus⟩, (), rfl, _, execute_of_keys hkeys₁ hreferences₁, (),
      rfl, _, execute_of_keys hkeys₂ hreferences₂, (), rfl, _,
      execute_of_keys hkeys₃ hreferences₃, (), rfl, rfl⟩
  refine ⟨⟨_, hkeys₃⟩, ?_, rfl⟩
  rw [ReviewStore.mutate, hbody]
  rfl

/-- `acknowledge` of an open intent with its receipt. -/
lemma acknowledge_calm {d : Database} {id sha : String} {row : IntentRow}
    (h : Consistent s d.1) (hrow : Closable d.1 id sha row) :
    ∃ t, s.acknowledge .calm id sha d = (.ok ⟨id, sha⟩, t) ∧ t.1 = d.1.closeCustody id := by
  have hkeys : (d.1.closeCustody id).Keys :=
    keys_updateIntent d.2 (fun _ => rfl) (fun _ => rfl) (fun _ => rfl) nofun
  have hbody : s.acknowledgeBody .calm id sha d = .ok (⟨id, sha⟩, ⟨_, hkeys⟩) := by
    simp only [ReviewStore.acknowledgeBody, Except.bind_eq_ok, Except.pure_eq_ok, demand_eq_ok,
      Option.filter_eq_some_iff, Bool.and_eq_true, decide_eq_true_eq]
    exact ⟨(), h.start_calm, (), rfl, row, ⟨hrow.found, ⟨hrow.custody, hrow.receipt⟩,
      hrow.receiptSha256⟩, (), rfl, (), rfl, _,
      execute_of_keys hkeys (h.closeCustody d.2 hrow).references, rfl⟩
  refine ⟨⟨_, hkeys⟩, ?_, rfl⟩
  rw [ReviewStore.acknowledge]
  simp only [StoreWorld.calm] at hbody ⊢
  rw [hbody]
  rfl

lemma Consistent.reading_calm {α : Type} {d : Database} (h : Consistent s d.1)
    {select : Tables → Except StoreRaise α} {a : α} (ha : select d.1 = .ok a) :
    s.reading .calm select d = .ok a := by
  simp only [ReviewStore.reading, Except.bind_eq_ok, Except.reraise_eq_ok]
  exact ⟨(), rfl, (), h.start_calm, (), rfl, ha⟩

lemma Consistent.inspect_calm {d : Database} (h : Consistent s d.1) {id : String} :
    s.inspect .calm id d = .ok (d.1.intent? id) := h.reading_calm rfl

lemma Consistent.snapshot_calm {d : Database} (h : Consistent s d.1) {awardId : String}
    {row : StateRow} (hrow : d.1.state? awardId = some row) :
    s.snapshot .calm awardId d = .ok (snapshotJson awardId row.status row.version
      ((d.1.notes.filter (·.awardId = awardId)).map (·.note))) := by
  have hid : awardId ∈ s.ids := by
    rw [← h.awards]
    exact List.mem_map.mpr ⟨row, Table.mem_of_get? hrow, Table.key_of_get? hrow⟩
  simp only [ReviewStore.snapshot, Except.bind_eq_ok, ensure_eq_ok, decide_eq_true_eq]
  refine ⟨(), hid, h.reading_calm ?_⟩
  simp only [hrow, demand]
  rfl

/-! ## The whole write -/

/-- The calls of one write. -/
def writeCalls (s : ReviewStore) (id : String) (op : Operation) (b : String) : List StoreInput :=
  [.reserve .calm id (.ok op.value) b, .attempt .calm id b, .mutate .calm id,
    .acknowledge .calm id (digest (s.receipt id op b))]

/-- What they return. -/
def writeOutputs (s : ReviewStore) (id : String) (op : Operation) (b : String) :
    List StoreOutput :=
  [.reserved (.ok ⟨id, digest op.value, b⟩), .admitted (.ok ⟨id, b, intentRow id op b⟩),
    .mutated (.ok ⟨s.receipt id op b, digest (s.receipt id op b)⟩),
    .acknowledged (.ok ⟨id, digest (s.receipt id op b)⟩)]

/-- The tables after them. -/
def ReviewStore.written (s : ReviewStore) (id : String) (op : Operation) (b : String)
    (t : Tables) : Tables :=
  (s.mutated ⟨id, b, intentRow id op b⟩ op
    ((t.insertIntent (intentRow id op b)).startAttempt id)).closeCustody id

section

variable {t : Tables} {id b : String} {op : Operation}

lemma state?_of_mem {r : StateRow} (hkeys : t.Keys) (hr : r ∈ t.states) :
    t.state? r.awardId = some r := Table.get?_of_mem hkeys.states hr

lemma intent?_of_mem {i : IntentRow} (hkeys : t.Keys) (hi : i ∈ t.intents) :
    t.intent? i.operationId = some i := Table.get?_of_mem hkeys.operations hi

lemma notes_written : (s.written id op b t).notes = t.notes ++ [noteRow id op] := rfl

lemma mem_states_written {r : StateRow} (hr : r ∈ t.states) (haward : r.awardId = op.awardId) :
    (⟨r.awardId, .pendingReview, r.version + 1⟩ : StateRow) ∈ (s.written id op b t).states :=
  Table.mem_update.mpr ⟨r, hr, .inl ⟨haward, rfl⟩⟩

lemma mem_intents_written :
    { s.received op { intentRow id op b with attemptStarted := true } with custody := .closed } ∈
      (s.written id op b t).intents := by
  refine Table.mem_update.mpr ⟨_, ?_, .inl ⟨rfl, rfl⟩⟩
  refine Table.mem_update.mpr ⟨{ intentRow id op b with attemptStarted := true }, ?_,
    .inl ⟨rfl, rfl⟩⟩
  refine Table.mem_update.mpr ⟨intentRow id op b, ?_, .inl ⟨rfl, rfl⟩⟩
  exact List.mem_append_right _ (List.mem_singleton_self _)

/-- The award of the operation is pending review. -/
lemma state?_written (h : Consistent s t) (havailable : Available t op)
    (hkeys : (s.written id op b t).Keys) :
    (s.written id op b t).state? op.awardId = some ⟨op.awardId, .pendingReview, 1⟩ := by
  obtain ⟨r, hr, -, hstatus⟩ := havailable.state
  obtain ⟨hunmoved, -⟩ := h.unmoved_of_state hr hstatus
  have hrow := h.state_eq hr
  rw [Tables.stateOf, if_neg hunmoved] at hrow
  subst hrow
  exact state?_of_mem hkeys (mem_states_written (Table.mem_of_get? hr) rfl)

/-- The intent has its receipt and is closed. -/
lemma intent?_written (hkeys : (s.written id op b t).Keys) :
    (s.written id op b t).intent? id =
      some { s.received op { intentRow id op b with attemptStarted := true } with
        custody := .closed } :=
  intent?_of_mem hkeys mem_intents_written

end

/-- An intent just recorded admits its one attempt. -/
lemma admissible_of_reserved {t : Tables} {d : Database} {id b : String} {op : Operation}
    (hd : d.1 = t.insertIntent (intentRow id op b)) :
    Admissible d.1 ⟨id, b, intentRow id op b⟩ := by
  have hmem : intentRow id op b ∈ d.1.intents := by
    rw [hd]
    exact List.mem_append_right _ (List.mem_singleton_self _)
  exact ⟨intent?_of_mem d.2 hmem, rfl, rfl, rfl, rfl⟩

/-- The databases that the transactions of one write leave, one after the other. -/
structure Written (s : ReviewStore) (st : StoreState) (id : String)
    (x : Except PyException Json) (b : String) (op : Operation) (t₁ t₂ t₃ t₄ : Database) :
    Prop where
  reserve : s.reserve .calm id x b st.db = (.ok ⟨id, digest op.value, b⟩, t₁)
  attempt : s.attempt .calm id b t₁ = (.ok ⟨id, b, intentRow id op b⟩, t₂)
  mutate : s.mutate .calm ⟨id, b, intentRow id op b⟩ t₂ =
    (.ok ⟨s.receipt id op b, digest (s.receipt id op b)⟩, t₃)
  acknowledge : s.acknowledge .calm id (digest (s.receipt id op b)) t₃ =
    (.ok ⟨id, digest (s.receipt id op b)⟩, t₄)
  reserved : t₁.1 = st.db.1.insertIntent (intentRow id op b)
  mutated : t₃.1 = s.mutated ⟨id, b, intentRow id op b⟩ op (t₁.1.startAttempt id)
  closed : t₄.1 = t₃.1.closeCustody id
  reserved_consistent : Consistent s t₁.1
  mutated_consistent : Consistent s t₃.1
  closed_consistent : Consistent s t₄.1

/-- Each transaction of the write returns, from what the one before left. -/
lemma exists_written {st : StoreState} (h : Invariant s st) {id b : String}
    {x : Except PyException Json} {op : Operation} (hop : s.operation x = .ok op)
    (hid : isStoreId id = true) (hb : isSha256Hex b = true) (havailable : Available st.db.1 op)
    (hnew : id ∉ st.db.1.intents.map (·.operationId)) :
    ∃ t₁ t₂ t₃ t₄, Written s st id x b op t₁ t₂ t₃ t₄ := by
  have haccepted : Accepted s op := accepted_of_operation hop
  -- `reserve`
  obtain ⟨t₁, hreserve, ht₁⟩ := reserve_calm h.consistent hop havailable hid hb hnew
  have h₁ : Invariant s ⟨t₁, st.pending⟩ := by
    have hnext := invariant_preserved st (.reserve .calm id x b) h
    simp only [Machine.next, store, hreserve] at hnext
    exact hnext
  -- the first transaction of `commit`
  obtain ⟨t₂, hattempt, ht₂⟩ := attempt_calm h₁.consistent (admissible_of_reserved ht₁)
  have hattempt' : s.attempt .calm id b t₁ = (.ok ⟨id, b, intentRow id op b⟩, t₂) := hattempt
  have h₂ : Invariant s ⟨t₂, ⟨id, b, intentRow id op b⟩ :: st.pending⟩ := by
    have hnext := invariant_preserved _ (.attempt .calm id b) h₁
    simp only [Machine.next, store, hattempt'] at hnext
    exact hnext
  -- the second
  have hmutable : Mutable s t₂.1 ⟨id, b, intentRow id op b⟩ op := by
    refine ⟨⟨op.value, haccepted.object, haccepted.operation⟩, ?_⟩
    rw [ht₂, ht₁]
    exact havailable.state
  obtain ⟨t₃, hmutate, ht₃⟩ := mutate_calm h₂ List.mem_cons_self hmutable
  have hmutate' : s.mutate .calm ⟨id, b, intentRow id op b⟩ t₂ =
      (.ok ⟨s.receipt id op b, digest (s.receipt id op b)⟩, t₃) := hmutate
  have hc := h₂.carries List.mem_cons_self hmutable
  have h₃ : Invariant s ⟨t₃, (⟨id, b, intentRow id op b⟩ :: st.pending).filter
      (·.operationId ≠ id)⟩ := by
    have hnext := invariant_preserved _ (.mutate .calm id) h₂
    simp only [Machine.next, store, Table.get?, List.find?_cons, decide_true, hmutate'] at hnext
    exact hnext
  -- `acknowledge`
  have hclosable : Closable t₃.1 id (digest (s.receipt id op b))
      (s.received op { intentRow id op b with attemptStarted := true }) := by
    have hmem : s.received op { intentRow id op b with attemptStarted := true } ∈ t₃.1.intents := by
      rw [ht₃]
      exact (hc.mem_intents t₂.2).mpr (.inl rfl)
    exact ⟨intent?_of_mem t₃.2 hmem, rfl, rfl, rfl⟩
  obtain ⟨t₄, hacknowledge, ht₄⟩ := acknowledge_calm h₃.consistent hclosable
  have h₄ := invariant_preserved _
    (.acknowledge .calm id (digest (s.receipt id op b))) h₃
  simp only [Machine.next, store, hacknowledge] at h₄
  exact ⟨t₁, t₂, t₃, t₄,
    { reserve := hreserve
      attempt := hattempt'
      mutate := hmutate'
      acknowledge := hacknowledge
      reserved := ht₁
      mutated := by rw [ht₃, ht₂]
      closed := ht₄
      reserved_consistent := h₁.consistent
      mutated_consistent := h₃.consistent
      closed_consistent := h₄.consistent }⟩

lemma Written.eq_written {st : StoreState} {id b : String} {x : Except PyException Json}
    {op : Operation} {t₁ t₂ t₃ t₄ : Database} (h : Written s st id x b op t₁ t₂ t₃ t₄) :
    t₄.1 = s.written id op b st.db.1 := by
  rw [h.closed, h.mutated, h.reserved, ReviewStore.written]

lemma write_completes {st : StoreState} (h : Invariant s st) {id b : String} {op : Operation}
    (haccepted : Accepted s op) (hid : isStoreId id = true) (hb : isSha256Hex b = true)
    (havailable : Available st.db.1 op) (hnew : id ∉ st.db.1.intents.map (·.operationId)) :
    ((store s).trace st (writeCalls s id op b)).map Stage.output = writeOutputs s id op b ∧
      ((store s).run st (writeCalls s id op b)).db.1 = s.written id op b st.db.1 := by
  obtain ⟨t₁, t₂, t₃, t₄, hwritten⟩ :=
    exists_written h haccepted.operation hid hb havailable hnew
  constructor
  · simp only [writeCalls, writeOutputs, Machine.trace, Machine.stage, Machine.next, Machine.out,
      store, hwritten.reserve, hwritten.attempt, Table.get?, List.find?_cons, decide_true,
      hwritten.mutate, hwritten.acknowledge, List.map_cons, List.map_nil]
  · simp only [writeCalls, Machine.run, Machine.next, store, hwritten.reserve, hwritten.attempt,
      Table.get?, List.find?_cons, decide_true, hwritten.mutate, hwritten.acknowledge]
    exact hwritten.eq_written

/-- In a world where nothing fails, an operation that is available in a reachable database, under
an identifier no intent has, is carried through: every call returns its evidence, the award is
pending review, and the intent has its receipt and is closed. -/
theorem store_write_completes (s : ReviewStore) (as : List StoreInput) {id b : String}
    {op : Operation} (haccepted : Accepted s op) (hid : isStoreId id = true)
    (hb : isSha256Hex b = true) (havailable : Available ((store s).run s.initial as).db.1 op)
    (hnew : id ∉ ((store s).run s.initial as).db.1.intents.map (·.operationId)) :
    ((store s).trace ((store s).run s.initial as) (writeCalls s id op b)).map Stage.output =
        writeOutputs s id op b ∧
      ((store s).run s.initial (as ++ writeCalls s id op b)).db.1.notes =
        ((store s).run s.initial as).db.1.notes ++ [noteRow id op] ∧
      ((store s).run s.initial (as ++ writeCalls s id op b)).db.1.state? op.awardId =
        some ⟨op.awardId, .pendingReview, 1⟩ ∧
      ((store s).run s.initial (as ++ writeCalls s id op b)).db.1.intent? id =
        some { s.received op { intentRow id op b with attemptStarted := true } with
          custody := .closed } := by
  have h : Invariant s ((store s).run s.initial as) := invariant_run as
  obtain ⟨houtputs, hd⟩ := write_completes h haccepted hid hb havailable hnew
  have hkeys : (s.written id op b ((store s).run s.initial as).db.1).Keys := hd ▸ Subtype.property _
  rw [Machine.run_append, hd]
  exact ⟨houtputs, notes_written, state?_written h.consistent havailable hkeys,
    intent?_written hkeys⟩

/-! ### An operation -/

def sampleOperation : Operation where
  value := .dict [("approval_ref", .str "approval-1"), ("dataset_sha256", .str datasetSha256),
    ("original_request", .str "Send the award to review."), ("owner_id", .str "owner-1"),
    ("query", .dict [("award_id", .str "AA"), ("expected_version", .int 0),
      ("idempotency_key", .str "key-1"), ("proposed_status", .str "PENDING_REVIEW"),
      ("reviewer_note", .str "Check the obligation.")]), ("store_id", .str "review-store")]
  awardId := "AA"
  expectedVersion := 0
  reviewerNote := "Check the obligation."
  idempotencyKey := "key-1"

lemma sampleOperation_accepted : Accepted sampleStore sampleOperation where
  object := by
    have hnormal : sampleOperation.value.normalize = sampleOperation.value := by
      refine Json.normalize_dict (by decide) ?_
      simp only [List.forall_mem_cons]
      refine ⟨rfl, rfl, rfl, rfl, ?_, rfl, nofun⟩
      exact Json.normalize_dict (by decide) (by simp)
    have hdigits : sampleOperation.value.withinDigits = true := by
      have hone : 1 < 10 ^ maxDigits := Nat.one_lt_pow (by decide) (by decide)
      simp [sampleOperation, Json.withinDigits, Json.withinDigitsEntries]
    refine object_eq_ok.mpr ⟨?_, _, rfl⟩
    rw [loads_canonical (by rw [hnormal]; exact hdigits), hnormal]
  checked := by decide

/-- The operation of the sample is carried through in the store no process has used. -/
theorem store_write_completes_sample :
    ((store sampleStore).trace sampleStore.initial
        (writeCalls sampleStore "op-1" sampleOperation datasetSha256)).map Stage.output =
      writeOutputs sampleStore "op-1" sampleOperation datasetSha256 :=
  (store_write_completes sampleStore [] sampleOperation_accepted (by decide) (by decide)
    (available_eq_ok.mp (by decide)) (by decide)).1

end CivicGate.Write01
