import CivicGate.Write01.StoreEvidence

/-!
# The invariant of the review store

A step of `store` is one of the five of `Change`: it opens an intent, admits its attempt,
commits it, closes its custody, or leaves the database.  `change_step` classifies the steps
once, with what each of them found before it wrote.

From it, every step keeps `Invariant`: the database is `Consistent`, and the calls of `commit`
between their transactions are each the one of their operation, whose intent is open and without
a receipt.
-/

namespace CivicGate.Write01

variable {s : ReviewStore}

/-! ## Transactions -/

lemma execute_eq_ok {d t : Database} {write : Tables → Tables} :
    d.execute write = .ok t ↔ t.1 = write d.1 ∧ (write d.1).references = true := by
  unfold Database.execute
  split
  · rename_i h
    rw [Except.ok.injEq]
    exact ⟨fun heq => ⟨(congrArg Subtype.val heq).symm, h.2⟩, fun heq => Subtype.ext heq.1.symm⟩
  · rename_i h
    refine ⟨fun heq => (nomatch heq), fun heq => absurd ⟨?_, heq.2⟩ h⟩
    rw [← heq.1]
    exact t.2

section

variable {α : Type} {wrapped : Part → StoreRaise} {body : Except StoreRaise (α × Database)}
  {commit : Commit} {after : Except StoreRaise Unit} {d t : Database}

/-- What the transaction of a method is, once its commit ended. -/
lemma settle_eq {r : Except StoreRaise α} (h : settle wrapped body commit after d = (r, t)) :
    ∃ r', Transacted (wrapped .commit)
        (Except.reraise body fun e => ⟨e.orElse (wrapped .body), none⟩) d (r', t) ∧
      ((∃ a, r' = .ok a ∧ r = (Except.reraise after (·.orElse (wrapped .after))).map fun _ => a) ∨
        ∃ e, r' = .error e ∧ r = .error e) := by
  have hend := transacted (wrapped .commit)
    (Except.reraise body fun e => ⟨e.orElse (wrapped .body), none⟩) commit d
  unfold settle at h
  generalize transact (wrapped .commit) _ commit d = r' at h hend
  rcases r' with ⟨e | a, u⟩
  · cases h
    exact ⟨_, hend, .inr ⟨e, rfl, rfl⟩⟩
  · cases h
    exact ⟨_, hend, .inl ⟨a, rfl, rfl⟩⟩

/-- A transaction raises and leaves the database, or it leaves what its body wrote. -/
lemma settle_cases {r : Except StoreRaise α} (h : settle wrapped body commit after d = (r, t)) :
    (t = d ∧ ∃ e, r = .error e) ∨ ∃ a, body = .ok (a, t) ∧ ∀ a', r = .ok a' → a' = a := by
  obtain ⟨r', hend, ⟨a, rfl, rfl⟩ | ⟨e, rfl, rfl⟩⟩ := settle_eq h
  · cases hend with
    | returned hbody =>
        refine .inr ⟨a, Except.reraise_eq_ok.mp hbody, fun a' ha' => ?_⟩
        cases after with
        | error e => cases ha'
        | ok x => exact (Except.ok.inj ha').symm
  · cases hend with
    | lost hbody =>
        refine .inr ⟨_, Except.reraise_eq_ok.mp hbody, fun a' ha' => ?_⟩
        cases ha'
    | raised => exact .inl ⟨rfl, _, rfl⟩
    | stopped hbody | stoppedLost hbody =>
        obtain ⟨e', -, habort⟩ := Except.reraise_eq_error.mp hbody
        cases habort
    | rolledBack => exact .inl ⟨rfl, _, rfl⟩

/-- How a transaction raises: in its body, at its commit, or after it. -/
lemma settle_eq_error {e : StoreRaise} (h : settle wrapped body commit after d = (.error e, t)) :
    (∃ e', body = .error e' ∧ e = e'.orElse (wrapped .body) ∧ t = d) ∨
      e = wrapped .commit ∨
      ∃ e', after = .error e' ∧ e = e'.orElse (wrapped .after) := by
  obtain ⟨r', hend, ⟨a, rfl, hr⟩ | ⟨e, rfl, hr⟩⟩ := settle_eq h
  · cases after with
    | error e' =>
        cases hr
        exact .inr (.inr ⟨e', rfl, rfl⟩)
    | ok x => cases hr
  · cases hr
    cases hend with
    | lost | stoppedLost | rolledBack => exact .inr (.inl rfl)
    | raised hbody =>
        obtain ⟨e', hraise, habort⟩ := Except.reraise_eq_error.mp hbody
        cases habort
        exact .inl ⟨e', hraise, rfl, rfl⟩
    | stopped hbody =>
        obtain ⟨e', -, habort⟩ := Except.reraise_eq_error.mp hbody
        cases habort

end

/-! ## What each body found -/

/-- What `_available` found. -/
structure Available (t : Tables) (op : Operation) : Prop where
  newKey : op.idempotencyKey ∉ t.intents.map (·.idempotencyKey)
  noneOpen : ∀ i ∈ t.intents, i.awardId = op.awardId → i.custody ≠ .open
  state : ∃ r, t.state? op.awardId = some r ∧ r.version = op.expectedVersion ∧
    r.status = .unreviewed

lemma available_eq_ok {t : Tables} {op : Operation} :
    available t op = .ok () ↔ Available t op := by
  unfold available
  cases hkey : Table.get? (·.idempotencyKey) op.idempotencyKey t.intents with
  | some i =>
      refine ⟨fun h => (nomatch h), fun h => absurd ?_ h.newKey⟩
      rw [← Table.key_of_get? hkey]
      exact List.mem_map_of_mem (Table.mem_of_get? hkey)
  | none =>
      simp only [Except.bind_eq_ok, ensure_eq_ok, demand_eq_ok, decide_eq_true_eq,
        Bool.not_eq_true', List.any_eq_false, Bool.and_eq_true, not_and]
      constructor
      · rintro ⟨-, hopen, r, hr, -, hversion, hstatus⟩
        exact ⟨Table.get?_eq_none.mp hkey, hopen, r, hr, hversion, hstatus⟩
      · rintro ⟨-, hopen, r, hr, hversion, hstatus⟩
        exact ⟨(), hopen, r, hr, (), hversion, hstatus⟩

lemma reserveBody_eq_ok {w : StoreWorld} {id b : String} {op : Operation} {d t : Database}
    {ack : OpenAck} (h : s.reserveBody w id op b d = .ok (ack, t)) :
    Available d.1 op ∧ t.1 = d.1.insertIntent (intentRow id op b) ∧
      ack = ⟨id, digest op.value, b⟩ := by
  simp only [ReviewStore.reserveBody, Except.bind_eq_ok, Except.pure_eq_ok, Prod.mk.injEq,
    execute_eq_ok] at h
  obtain ⟨_, -, _, -, _, -, _, havailable, _, -, t', ⟨ht, -⟩, rfl, rfl⟩ := h
  exact ⟨available_eq_ok.mp havailable, ht, rfl⟩

/-- What the first transaction of `commit` found. -/
structure Admissible (t : Tables) (p : PendingCommit) : Prop where
  found : t.intent? p.operationId = some p.row
  custody : p.row.custody = .open
  binding : p.row.bindingSha256 = p.bindingSha256
  receipt : p.row.receiptJson = none
  attempt : p.row.attemptStarted = false

lemma attemptBody_eq_ok {w : StoreWorld} {id b : String} {d t : Database} {p : PendingCommit}
    (h : s.attemptBody w id b d = .ok (p, t)) :
    p.operationId = id ∧ p.bindingSha256 = b ∧ Admissible d.1 p ∧
      t.1 = d.1.startAttempt id := by
  simp only [ReviewStore.attemptBody, Except.bind_eq_ok, Except.pure_eq_ok, Prod.mk.injEq,
    execute_eq_ok, demand_eq_ok, ensure_eq_ok, Option.filter_eq_some_iff, Bool.and_eq_true,
    decide_eq_true_eq, Option.isNone_iff_eq_none, Bool.not_eq_true'] at h
  obtain ⟨_, -, _, -, row, ⟨hrow, hopen, hbinding⟩, _, hreceipt, _, hattempt, _, -, t', ⟨ht, -⟩,
    rfl, rfl⟩ := h
  exact ⟨rfl, rfl, ⟨hrow, hopen, hbinding, hreceipt, hattempt⟩, ht⟩

/-- What the second transaction of `commit` found. -/
structure Mutable (s : ReviewStore) (t : Tables) (p : PendingCommit) (op : Operation) : Prop where
  loaded : ∃ v, object p.row.operationJson = .ok v ∧ s.operation (.ok v) = .ok op
  state : ∃ r, t.state? op.awardId = some r ∧ r.version = op.expectedVersion ∧
    r.status = .unreviewed

/-- The tables with the mutation of an operation and its evidence. -/
def ReviewStore.mutated (s : ReviewStore) (p : PendingCommit) (op : Operation) (t : Tables) :
    Tables :=
  ((t.moveState op.awardId).insertNote (noteRow p.operationId op)).recordReceipt p.operationId
    (canonical false (s.receipt p.operationId op p.bindingSha256))

lemma mutateBody_eq_ok {w : StoreWorld} {p : PendingCommit} {d t : Database}
    {r : CommitResponse} (h : s.mutateBody w p d = .ok (r, t)) :
    ∃ op, Mutable s d.1 p op ∧ t.1 = s.mutated p op d.1 ∧
      r = ⟨s.receipt p.operationId op p.bindingSha256,
        digest (s.receipt p.operationId op p.bindingSha256)⟩ := by
  simp only [ReviewStore.mutateBody, Except.bind_eq_ok, Except.pure_eq_ok, Prod.mk.injEq,
    execute_eq_ok, demand_eq_ok, ensure_eq_ok, Bool.and_eq_true, decide_eq_true_eq] at h
  obtain ⟨_, -, v, hv, op, hop, _, -, before, hbefore, _, ⟨hversion, hstatus⟩, _, -, t₁, ⟨ht₁, -⟩,
    _, -, t₂, ⟨ht₂, -⟩, _, -, t₃, ⟨ht₃, -⟩, _, -, rfl, rfl⟩ := h
  refine ⟨op, ⟨⟨v, hv, hop⟩, before, hbefore, hversion, hstatus⟩, ?_, rfl⟩
  rw [ht₃, ht₂, ht₁]
  rfl

/-- What `acknowledge` found. -/
structure Closable (t : Tables) (id sha : String) (row : IntentRow) : Prop where
  found : t.intent? id = some row
  custody : row.custody = .open
  receipt : row.receiptJson.isSome = true
  receiptSha256 : row.receiptSha256 = some sha

lemma acknowledgeBody_eq_ok {w : StoreWorld} {id sha : String} {d t : Database} {ack : CloseAck}
    (h : s.acknowledgeBody w id sha d = .ok (ack, t)) :
    (∃ row, Closable d.1 id sha row) ∧ t.1 = d.1.closeCustody id ∧ ack = ⟨id, sha⟩ := by
  simp only [ReviewStore.acknowledgeBody, Except.bind_eq_ok, Except.pure_eq_ok, Prod.mk.injEq,
    execute_eq_ok, demand_eq_ok, Option.filter_eq_some_iff, Bool.and_eq_true,
    decide_eq_true_eq] at h
  obtain ⟨_, -, _, -, row, ⟨hrow, ⟨hopen, hreceipt⟩, hsha⟩, _, -, _, -, t', ⟨ht, -⟩, rfl, rfl⟩ := h
  exact ⟨⟨row, hrow, hopen, hreceipt, hsha⟩, ht, rfl⟩

/-! ## What each method leaves -/

lemma reserveChecks_eq_ok {w : StoreWorld} {id b : String} {x : Except PyException Json}
    {op : Operation} (h : s.reserveChecks w id x b = .ok op) :
    s.operation x = .ok op ∧ isStoreId id = true ∧ isSha256Hex b = true ∧
      w.connect = .ok () := by
  simp only [ReviewStore.reserveChecks, Except.bind_eq_ok, ensure_eq_ok, Bool.and_eq_true,
    Except.pure_eq_ok] at h
  obtain ⟨_, ⟨hid, hb⟩, op', hop, _, hconnect, rfl⟩ := h
  exact ⟨hop, hid, hb, hconnect⟩

lemma reserve_cases {w : StoreWorld} {id b : String} {x : Except PyException Json} {d t : Database}
    {r : Except StoreRaise OpenAck} (h : s.reserve w id x b d = (r, t)) :
    (t = d ∧ ∃ e, r = .error e) ∨ ∃ op, s.operation x = .ok op ∧ isSha256Hex b = true ∧
      Available d.1 op ∧ t.1 = d.1.insertIntent (intentRow id op b) ∧
        ∀ ack, r = .ok ack → ack = ⟨id, digest op.value, b⟩ := by
  unfold ReviewStore.reserve at h
  split at h
  · cases h
    exact .inl ⟨rfl, _, rfl⟩
  · rename_i op hchecks
    obtain ⟨hop, -, hb, -⟩ := reserveChecks_eq_ok hchecks
    rcases settle_cases h with hleft | ⟨ack, hbody, hr⟩
    · exact .inl hleft
    · obtain ⟨havailable, hdb, rfl⟩ := reserveBody_eq_ok hbody
      exact .inr ⟨op, hop, hb, havailable, hdb, hr⟩

lemma attempt_cases {w : StoreWorld} {id b : String} {d t : Database}
    {r : Except StoreRaise PendingCommit} (h : s.attempt w id b d = (r, t)) :
    (t = d ∧ ∃ e, r = .error e) ∨ ∃ p, p.operationId = id ∧ p.bindingSha256 = b ∧
      Admissible d.1 p ∧ t.1 = d.1.startAttempt id ∧ ∀ p', r = .ok p' → p' = p := by
  unfold ReviewStore.attempt at h
  split at h
  · cases h
    exact .inl ⟨rfl, _, rfl⟩
  · rcases settle_cases h with hleft | ⟨p, hbody, hr⟩
    · exact .inl hleft
    · obtain ⟨hid, hb, hadmissible, hdb⟩ := attemptBody_eq_ok hbody
      exact .inr ⟨p, hid, hb, hadmissible, hdb, hr⟩

lemma mutate_cases {w : StoreWorld} {p : PendingCommit} {d t : Database}
    {r : Except StoreRaise CommitResponse} (h : s.mutate w p d = (r, t)) :
    (t = d ∧ ∃ e, r = .error e) ∨ ∃ op, Mutable s d.1 p op ∧ t.1 = s.mutated p op d.1 ∧
      ∀ response, r = .ok response → response =
        ⟨s.receipt p.operationId op p.bindingSha256,
          digest (s.receipt p.operationId op p.bindingSha256)⟩ := by
  rcases settle_cases h with hleft | ⟨response, hbody, hr⟩
  · exact .inl hleft
  · obtain ⟨op, hmutable, hdb, rfl⟩ := mutateBody_eq_ok hbody
    exact .inr ⟨op, hmutable, hdb, hr⟩

lemma acknowledge_cases {w : StoreWorld} {id sha : String} {d t : Database}
    {r : Except StoreRaise CloseAck} (h : s.acknowledge w id sha d = (r, t)) :
    (t = d ∧ ∃ e, r = .error e) ∨ (∃ row, Closable d.1 id sha row) ∧ t.1 = d.1.closeCustody id ∧
      ∀ ack, r = .ok ack → ack = ⟨id, sha⟩ := by
  unfold ReviewStore.acknowledge at h
  split at h
  · cases h
    exact .inl ⟨rfl, _, rfl⟩
  · rcases settle_cases h with hleft | ⟨ack, hbody, hr⟩
    · exact .inl hleft
    · obtain ⟨hclosable, hdb, rfl⟩ := acknowledgeBody_eq_ok hbody
      exact .inr ⟨hclosable, hdb, hr⟩

/-! ## The steps -/

/-- What a step of the system does. -/
inductive Change (s : ReviewStore) (st st' : StoreState) : Prop
  | stayed (db : st'.db = st.db) (pending : st'.pending.Sublist st.pending)
  | opened (id : String) (op : Operation) (b : String) (accepted : Accepted s op)
      (binding : isSha256Hex b = true) (available : Available st.db.1 op)
      (db : st'.db.1 = st.db.1.insertIntent (intentRow id op b))
      (pending : st'.pending = st.pending)
  | admitted (p : PendingCommit) (admissible : Admissible st.db.1 p)
      (db : st'.db.1 = st.db.1.startAttempt p.operationId)
      (pending : st'.pending = st.pending ∨ st'.pending = p :: st.pending)
  | committed (p : PendingCommit) (op : Operation) (mem : p ∈ st.pending)
      (mutable : Mutable s st.db.1 p op) (db : st'.db.1 = s.mutated p op st.db.1)
      (pending : st'.pending = st.pending.filter (·.operationId ≠ p.operationId))
  | closed (id sha : String) (row : IntentRow) (closable : Closable st.db.1 id sha row)
      (db : st'.db.1 = st.db.1.closeCustody id) (pending : st'.pending = st.pending)

/-- Every step of the system is one of the five. -/
lemma change_step (st : StoreState) (a : StoreInput) : Change s st ((store s).next st a) := by
  cases a with
  | reserve w id x b =>
      simp only [Machine.next, store]
      rcases hresult : s.reserve w id x b st.db with ⟨r, t⟩
      rcases reserve_cases hresult with ⟨hdb, -⟩ | ⟨op, hop, hb, havailable, hdb, -⟩
      · exact .stayed hdb (.refl _)
      · exact .opened id op b (accepted_of_operation hop) hb havailable hdb rfl
  | attempt w id b =>
      simp only [Machine.next, store]
      rcases hresult : s.attempt w id b st.db with ⟨e | p', t⟩
      · rcases attempt_cases hresult with ⟨hdb, -⟩ | ⟨p, rfl, -, hadmissible, hdb, -⟩
        · exact .stayed hdb (.refl _)
        · exact .admitted p hadmissible hdb (.inl rfl)
      · rcases attempt_cases hresult with ⟨-, e, he⟩ | ⟨p, rfl, -, hadmissible, hdb, hr⟩
        · cases he
        · obtain rfl := hr p' rfl
          exact .admitted p' hadmissible hdb (.inr rfl)
  | mutate w id =>
      simp only [Machine.next, store]
      split
      · exact .stayed rfl (.refl _)
      · rename_i p hp
        obtain rfl := Table.key_of_get? hp
        rcases hresult : s.mutate w p st.db with ⟨r, t⟩
        rcases mutate_cases hresult with ⟨hdb, -⟩ | ⟨op, hmutable, hdb, -⟩
        · exact .stayed hdb List.filter_sublist
        · exact .committed p op (Table.mem_of_get? hp) hmutable hdb rfl
  | acknowledge w id sha =>
      simp only [Machine.next, store]
      rcases hresult : s.acknowledge w id sha st.db with ⟨r, t⟩
      rcases acknowledge_cases hresult with ⟨hdb, -⟩ | ⟨⟨row, hclosable⟩, hdb, -⟩
      · exact .stayed hdb (.refl _)
      · exact .closed id sha row hclosable hdb rfl

/-! ## Consistency is kept -/

section

variable {t : Tables}

lemma Consistent.state_eq (h : Consistent s t) {a : String} {r : StateRow}
    (hr : t.state? a = some r) : r = t.stateOf a := by
  have hstate := h.states r (Table.mem_of_get? hr)
  rwa [Table.key_of_get? hr] at hstate

/-- An award found unreviewed has not moved, and its version is 0. -/
lemma Consistent.unmoved_of_state (h : Consistent s t) {a : String} {r : StateRow}
    (hr : t.state? a = some r) (hstatus : r.status = .unreviewed) :
    a ∉ t.moved ∧ r.version = 0 := by
  have hstate := h.state_eq hr
  by_cases hmoved : a ∈ t.moved
  · rw [Tables.stateOf, if_pos hmoved] at hstate
    rw [hstate] at hstatus
    cases hstatus
  · rw [Tables.stateOf, if_neg hmoved] at hstate
    rw [hstate]
    exact ⟨hmoved, rfl⟩

lemma committed_insertIntent {row : IntentRow} (hrow : row.receiptJson = none) :
    (t.insertIntent row).committed = t.committed := by
  rw [Tables.committed, Tables.insertIntent, List.filter_append]
  simp [Tables.committed, hrow]

lemma Consistent.insertIntent {id b : String} {op : Operation} (h : Consistent s t)
    (haccepted : Accepted s op) (hb : isSha256Hex b = true) (havailable : Available t op) :
    Consistent s (t.insertIntent (intentRow id op b)) := by
  obtain ⟨r, hr, hversion, hstatus⟩ := havailable.state
  obtain ⟨hunmoved, hzero⟩ := h.unmoved_of_state hr hstatus
  have hcommitted : (t.insertIntent (intentRow id op b)).committed = t.committed :=
    committed_insertIntent rfl
  have hmoved : (t.insertIntent (intentRow id op b)).moved = t.moved := by
    rw [Tables.moved, hcommitted, Tables.moved]
  have hnew : Records s (intentRow id op b) op := {
    accepted := haccepted
    operationJson := rfl
    operationSha256 := rfl
    awardId := rfl
    idempotencyKey := rfl
    bindingSha256 := hb
    expectedVersion := hversion.symm.trans hzero
    withoutReceipt := fun _ => ⟨rfl, rfl⟩
    withReceipt := nofun }
  constructor
  · exact h.metadata
  · exact h.awards
  · intro i hi
    rcases List.mem_append.mp hi with hi | hi
    · exact h.recorded i hi
    · rw [List.mem_singleton.mp hi]
      exact ⟨op, hnew⟩
  · rw [hmoved]
    exact h.once
  · intro i hi hnone
    rw [hmoved]
    rcases List.mem_append.mp hi with hi | hi
    · exact h.unmoved i hi hnone
    · rw [List.mem_singleton.mp hi]
      exact hunmoved
  · rw [hcommitted]
    exact h.noted
  · intro r hr
    rw [Tables.stateOf, hmoved]
    exact h.states r hr

/-- An update of one intent that keeps its award and its receipt. -/
lemma Consistent.update {id : String} {f : IntentRow → IntentRow} (h : Consistent s t)
    (hid : ∀ r, (f r).operationId = r.operationId) (haward : ∀ r, (f r).awardId = r.awardId)
    (hreceipt : ∀ r, (f r).receiptJson = r.receiptJson)
    (hrecords : ∀ i ∈ t.intents, i.operationId = id → ∀ op, Records s i op → Records s (f i) op) :
    Consistent s { t with intents := Table.update (·.operationId) id f t.intents } := by
  have hcommitted : Tables.committed
      { t with intents := Table.update (·.operationId) id f t.intents } =
      Table.update (·.operationId) id f t.committed :=
    Table.filter_update fun r => by rw [hreceipt]
  have hmoved : Tables.moved
      { t with intents := Table.update (·.operationId) id f t.intents } = t.moved := by
    rw [Tables.moved, hcommitted]
    exact Table.map_update haward
  constructor
  · exact h.metadata
  · exact h.awards
  · intro i hi
    obtain ⟨j, hj, ⟨hkey, rfl⟩ | ⟨-, rfl⟩⟩ := Table.mem_update.mp hi
    · obtain ⟨op, hop⟩ := h.recorded j hj
      exact ⟨op, hrecords j hj hkey op hop⟩
    · exact h.recorded i hj
  · rw [hmoved]
    exact h.once
  · intro i hi hnone
    rw [hmoved]
    obtain ⟨j, hj, ⟨-, rfl⟩ | ⟨-, rfl⟩⟩ := Table.mem_update.mp hi
    · rw [haward]
      exact h.unmoved j hj (by rw [← hreceipt, hnone])
    · exact h.unmoved i hj hnone
  · intro n
    rw [hcommitted, h.noted]
    constructor
    · rintro ⟨i, hi, op, hop, rfl⟩
      obtain ⟨hi', -⟩ := Tables.mem_committed.mp hi
      by_cases hkey : i.operationId = id
      · refine ⟨f i, Table.mem_update.mpr ⟨i, hi, .inl ⟨hkey, rfl⟩⟩, op, ?_, by rw [hid]⟩
        exact hrecords i hi' hkey op hop
      · exact ⟨i, Table.mem_update.mpr ⟨i, hi, .inr ⟨hkey, rfl⟩⟩, op, hop, rfl⟩
    · rintro ⟨i, hi, op, hop, rfl⟩
      obtain ⟨j, hj, ⟨hkey, rfl⟩ | ⟨-, rfl⟩⟩ := Table.mem_update.mp hi
      · obtain ⟨hj', -⟩ := Tables.mem_committed.mp hj
        obtain ⟨op', hop'⟩ := h.recorded j hj'
        rw [hop.unique (hrecords j hj' hkey op' hop'), hid]
        exact ⟨j, hj, op', hop', rfl⟩
      · exact ⟨i, hj, op, hop, rfl⟩
  · intro r hr
    rw [Tables.stateOf, hmoved]
    exact h.states r hr

lemma Consistent.startAttempt (h : Consistent s t) (id : String) :
    Consistent s (t.startAttempt id) := by
  refine h.update (fun _ => rfl) (fun _ => rfl) (fun _ => rfl) fun i _ _ op hop => ?_
  exact { hop with withReceipt := fun raw hraw =>
    ⟨(hop.withReceipt raw hraw).1, (hop.withReceipt raw hraw).2.1, rfl⟩ }

lemma Consistent.closeCustody (h : Consistent s t) (hkeys : t.Keys) {id sha : String}
    {row : IntentRow} (hclosable : Closable t id sha row) : Consistent s (t.closeCustody id) := by
  refine h.update (fun _ => rfl) (fun _ => rfl) (fun _ => rfl) fun i hi hkey op hop => ?_
  have hrow : i = row := Table.eq_of_key hkeys.operations hi (Table.mem_of_get? hclosable.found)
    (hkey.trans (Table.key_of_get? hclosable.found).symm)
  have hsome : i.receiptJson.isSome = true := hrow ▸ hclosable.receipt
  have hnone : i.receiptJson ≠ none := Option.isSome_iff_ne_none.mp hsome
  exact { hop with withoutReceipt := fun h => absurd h hnone }

/-- The intent whose operation a call of `commit` is about to carry out. -/
structure Carries (s : ReviewStore) (t : Tables) (p : PendingCommit) (op : Operation)
    (i : IntentRow) : Prop where
  mem : i ∈ t.intents
  operationId : i.operationId = p.operationId
  bindingSha256 : i.bindingSha256 = p.bindingSha256
  records : Records s i op
  receipt : i.receiptJson = none
  attempt : i.attemptStarted = true

/-- The intent with its receipt. -/
def ReviewStore.received (s : ReviewStore) (op : Operation) (i : IntentRow) : IntentRow :=
  let raw := canonical false (s.receipt i.operationId op i.bindingSha256)
  { i with receiptJson := some raw, receiptSha256 := some (sha256Hex raw) }

section

variable {p : PendingCommit} {op : Operation} {i : IntentRow}

lemma Carries.unmoved (h : Consistent s t) (hc : Carries s t p op i) : op.awardId ∉ t.moved := by
  rw [← hc.records.awardId]
  exact h.unmoved i hc.mem hc.receipt

lemma Carries.mem_intents (hkeys : t.Keys) (hc : Carries s t p op i) {j : IntentRow} :
    j ∈ (s.mutated p op t).intents ↔
      j = s.received op i ∨ j ∈ t.intents ∧ j.operationId ≠ p.operationId := by
  simp only [ReviewStore.mutated, Tables.recordReceipt, Tables.insertNote, Tables.moveState,
    Table.mem_update]
  constructor
  · rintro ⟨j, hj, ⟨hkey, rfl⟩ | ⟨hkey, rfl⟩⟩
    · obtain rfl : j = i :=
        Table.eq_of_key hkeys.operations hj hc.mem (hkey.trans hc.operationId.symm)
      rw [ReviewStore.received, hc.operationId, hc.bindingSha256]
      exact .inl rfl
    · exact .inr ⟨hj, hkey⟩
  · rintro (rfl | ⟨hj, hkey⟩)
    · refine ⟨i, hc.mem, .inl ⟨hc.operationId, ?_⟩⟩
      rw [ReviewStore.received, hc.operationId, hc.bindingSha256]
    · exact ⟨j, hj, .inr ⟨hkey, rfl⟩⟩

/-- The committed intents after a mutation are those before, and the one carried out. -/
lemma Carries.mem_committed (hkeys : t.Keys) (hc : Carries s t p op i) {j : IntentRow} :
    j ∈ (s.mutated p op t).committed ↔ j = s.received op i ∨ j ∈ t.committed := by
  rw [Tables.mem_committed, hc.mem_intents hkeys, Tables.mem_committed]
  constructor
  · rintro ⟨rfl | ⟨hj, -⟩, hreceipt⟩
    · exact .inl rfl
    · exact .inr ⟨hj, hreceipt⟩
  · rintro (rfl | ⟨hj, hreceipt⟩)
    · exact ⟨.inl rfl, _, rfl⟩
    · refine ⟨.inr ⟨hj, fun hkey => ?_⟩, hreceipt⟩
      obtain rfl : j = i :=
        Table.eq_of_key hkeys.operations hj hc.mem (hkey.trans hc.operationId.symm)
      obtain ⟨raw, hraw⟩ := hreceipt
      rw [hc.receipt] at hraw
      cases hraw

lemma Carries.mem_moved (hkeys : t.Keys) (hc : Carries s t p op i) {a : String} :
    a ∈ (s.mutated p op t).moved ↔ a = op.awardId ∨ a ∈ t.moved := by
  simp only [Tables.moved, List.mem_map, hc.mem_committed hkeys]
  constructor
  · rintro ⟨j, rfl | hj, rfl⟩
    · exact .inl hc.records.awardId
    · exact .inr ⟨j, hj, rfl⟩
  · rintro (rfl | ⟨j, hj, rfl⟩)
    · exact ⟨_, .inl rfl, hc.records.awardId⟩
    · exact ⟨j, .inr hj, rfl⟩

lemma Carries.records_received (hc : Carries s t p op i) : Records s (s.received op i) op :=
  { hc.records with
    withoutReceipt := nofun
    withReceipt := fun raw hraw => by
      obtain rfl := Option.some.inj hraw
      exact ⟨rfl, rfl, hc.attempt⟩ }

/-- Carrying out an operation keeps the tables consistent. -/
lemma Consistent.mutated (h : Consistent s t) (hkeys : t.Keys)
    (hkeys' : (s.mutated p op t).Keys) (hc : Carries s t p op i) :
    Consistent s (s.mutated p op t) := by
  have hunmoved := hc.unmoved h
  have hstates : (s.mutated p op t).states = (t.moveState op.awardId).states := rfl
  constructor
  · exact h.metadata
  · rw [hstates, Tables.moveState, ← h.awards]
    exact Table.map_update fun _ => rfl
  · intro j hj
    rcases (hc.mem_intents hkeys).mp hj with rfl | ⟨hj, -⟩
    · exact ⟨op, hc.records_received⟩
    · exact h.recorded j hj
  · refine (List.nodup_map_iff_inj_on (List.Nodup.filter _ (.of_map _ hkeys'.operations))).mpr ?_
    intro j hj j' hj' heq
    rcases (hc.mem_committed hkeys).mp hj with rfl | hj <;>
      rcases (hc.mem_committed hkeys).mp hj' with rfl | hj'
    · rfl
    · refine absurd (List.mem_map.mpr ⟨j', hj', ?_⟩) hunmoved
      rw [← heq]
      exact hc.records.awardId
    · refine absurd (List.mem_map.mpr ⟨j, hj, ?_⟩) hunmoved
      rw [heq]
      exact hc.records.awardId
    · exact Table.eq_of_key h.once hj hj' heq
  · intro j hj hnone hmoved
    rcases (hc.mem_intents hkeys).mp hj with rfl | ⟨hj, hkey⟩
    · cases hnone
    · rcases (hc.mem_moved hkeys).mp hmoved with haward | hmoved
      · -- Both intents of the award are open.
        obtain ⟨op', hop'⟩ := h.recorded j hj
        have hopen : j ∈ t.intents.filter (·.custody = .open) :=
          List.mem_filter.mpr ⟨hj, decide_eq_true (hop'.withoutReceipt hnone).2⟩
        have hopen' : i ∈ t.intents.filter (·.custody = .open) :=
          List.mem_filter.mpr ⟨hc.mem, decide_eq_true (hc.records.withoutReceipt hc.receipt).2⟩
        obtain rfl : j = i := Table.eq_of_key hkeys.openTargets hopen hopen'
          (haward.trans hc.records.awardId.symm)
        exact hkey hc.operationId
      · exact h.unmoved j hj hnone hmoved
  · intro n
    have hnotes : (s.mutated p op t).notes = t.notes ++ [noteRow p.operationId op] := rfl
    rw [hnotes, List.mem_append, List.mem_singleton, h.noted]
    constructor
    · rintro (⟨j, hj, op', hop', rfl⟩ | rfl)
      · exact ⟨j, (hc.mem_committed hkeys).mpr (.inr hj), op', hop', rfl⟩
      · refine ⟨_, (hc.mem_committed hkeys).mpr (.inl rfl), op, hc.records_received, ?_⟩
        rw [← hc.operationId]
        rfl
    · rintro ⟨j, hj, op', hop', rfl⟩
      rcases (hc.mem_committed hkeys).mp hj with rfl | hj
      · rw [hop'.unique hc.records_received, ← hc.operationId]
        exact .inr rfl
      · exact .inl ⟨j, hj, op', hop', rfl⟩
  · intro r hr
    rw [hstates] at hr
    obtain ⟨q, hq, ⟨haward, rfl⟩ | ⟨haward, rfl⟩⟩ := Table.mem_update.mp hr
    · have hstate := h.states q hq
      rw [Tables.stateOf, if_neg (haward ▸ hunmoved)] at hstate
      rw [Tables.stateOf, if_pos ((hc.mem_moved hkeys).mpr (.inl haward)), hstate]
    · have hstate := h.states r hq
      have hmoved : r.awardId ∈ (s.mutated p op t).moved ↔ r.awardId ∈ t.moved := by
        rw [hc.mem_moved hkeys]
        exact or_iff_right haward
      rw [Tables.stateOf] at hstate ⊢
      simp only [hmoved]
      exact hstate

end

end

/-! ## The invariant -/

/-- Every call of `commit` between its transactions is the one of its operation, whose intent it
left admitted and without a receipt. -/
structure Underway (st : StoreState) : Prop where
  rows : ∀ p ∈ st.pending, { p.row with attemptStarted := true } ∈ st.db.1.intents ∧
    p.row.operationId = p.operationId ∧ p.row.bindingSha256 = p.bindingSha256 ∧
    p.row.receiptJson = none
  nodup : (st.pending.map (·.operationId)).Nodup

/-- What holds of every reachable state. -/
structure Invariant (s : ReviewStore) (st : StoreState) : Prop where
  consistent : Consistent s st.db.1
  underway : Underway st

/-- A call of `commit` carries out the operation its row records. -/
lemma Invariant.carries {st : StoreState} (h : Invariant s st) {p : PendingCommit}
    (hp : p ∈ st.pending) {op : Operation} (hm : Mutable s st.db.1 p op) :
    Carries s st.db.1 p op { p.row with attemptStarted := true } := by
  obtain ⟨hmem, hid, hbinding, hreceipt⟩ := h.underway.rows p hp
  obtain ⟨op', hop'⟩ := h.consistent.recorded _ hmem
  have hrecords : op' = op := by
    obtain ⟨v, hv, hop⟩ := hm.loaded
    have hjson : p.row.operationJson = canonical false op'.value := hop'.operationJson
    rw [hjson, hop'.accepted.object] at hv
    obtain rfl := Except.ok.inj hv
    rw [hop'.accepted.operation] at hop
    exact Except.ok.inj hop
  subst hrecords
  exact ⟨hmem, hid, hbinding, hop', hreceipt, rfl⟩

lemma Change.consistent {st st' : StoreState} (hc : Change s st st') (h : Invariant s st) :
    Consistent s st'.db.1 := by
  cases hc with
  | stayed hdb hpending =>
      rw [hdb]
      exact h.consistent
  | opened id op b haccepted hb havailable hdb hpending =>
      rw [hdb]
      exact h.consistent.insertIntent haccepted hb havailable
  | admitted p hadmissible hdb hpending =>
      rw [hdb]
      exact h.consistent.startAttempt _
  | committed p op hp hmutable hdb hpending =>
      have hkeys' := st'.db.2
      rw [hdb] at hkeys' ⊢
      exact h.consistent.mutated st.db.2 hkeys' (h.carries hp hmutable)
  | closed id sha row hclosable hdb hpending =>
      rw [hdb]
      exact h.consistent.closeCustody st.db.2 hclosable

/-- The row a call of `commit` left is that of its operation. -/
lemma Underway.eq_row {st : StoreState} (h : Underway st) {p : PendingCommit}
    (hp : p ∈ st.pending) {row : IntentRow} (hrow : st.db.1.intent? p.operationId = some row) :
    row = { p.row with attemptStarted := true } := by
  obtain ⟨hmem, hid, -, -⟩ := h.rows p hp
  exact Table.eq_of_key st.db.2.operations (Table.mem_of_get? hrow) hmem
    ((Table.key_of_get? hrow).trans hid.symm)

lemma Change.underway {st st' : StoreState} (hc : Change s st st') (h : Invariant s st) :
    Underway st' := by
  have hrows := h.underway.rows
  have hnodup := h.underway.nodup
  cases hc with
  | stayed hdb hpending =>
      constructor
      · intro p hp
        rw [hdb]
        exact hrows p (hpending.subset hp)
      · exact hnodup.sublist (hpending.map _)
  | opened id op b haccepted hb havailable hdb hpending =>
      rw [← hpending] at hrows hnodup
      refine ⟨fun p hp => ?_, hnodup⟩
      obtain ⟨hmem, hrest⟩ := hrows p hp
      rw [hdb]
      exact ⟨List.mem_append_left _ hmem, hrest⟩
  | admitted p hadmissible hdb hpending =>
      have hkept : ∀ q ∈ st.pending, { q.row with attemptStarted := true } ∈ st'.db.1.intents ∧
          q.row.operationId = q.operationId ∧ q.row.bindingSha256 = q.bindingSha256 ∧
          q.row.receiptJson = none := by
        intro q hq
        obtain ⟨hmem, hrest⟩ := hrows q hq
        refine ⟨?_, hrest⟩
        rw [hdb]
        refine Table.mem_update.mpr ⟨_, hmem, ?_⟩
        by_cases hkey : q.row.operationId = p.operationId
        · exact .inl ⟨hkey, rfl⟩
        · exact .inr ⟨hkey, rfl⟩
      rcases hpending with hpending | hpending
      · rw [← hpending] at hkept hnodup
        exact ⟨hkept, hnodup⟩
      · constructor
        · rw [hpending]
          refine List.forall_mem_cons.mpr ⟨⟨?_, ?_⟩, hkept⟩
          · rw [hdb]
            exact Table.mem_update.mpr ⟨p.row, Table.mem_of_get? hadmissible.found,
              .inl ⟨Table.key_of_get? hadmissible.found, rfl⟩⟩
          · exact ⟨Table.key_of_get? hadmissible.found, hadmissible.binding, hadmissible.receipt⟩
        · rw [hpending, List.map_cons]
          refine List.nodup_cons.mpr ⟨fun hmem => ?_, hnodup⟩
          -- An operation is admitted once.
          obtain ⟨q, hq, hkey⟩ := List.mem_map.mp hmem
          have hfound := hadmissible.found
          rw [← hkey] at hfound
          have hattempt := hadmissible.attempt
          rw [h.underway.eq_row hq hfound] at hattempt
          cases hattempt
  | committed p op hp hmutable hdb hpending =>
      constructor
      · intro q hq
        rw [hpending] at hq
        obtain ⟨hq, hne⟩ := List.mem_filter.mp hq
        obtain ⟨hmem, hid, hrest⟩ := hrows q hq
        rw [hdb]
        refine ⟨((h.carries hp hmutable).mem_intents st.db.2).mpr (.inr ⟨hmem, ?_⟩), hid, hrest⟩
        rw [← hid] at hne
        exact of_decide_eq_true hne
      · rw [hpending]
        exact hnodup.sublist (List.filter_sublist.map _)
  | closed id sha row hclosable hdb hpending =>
      rw [← hpending] at hnodup
      refine ⟨fun p hp => ?_, hnodup⟩
      rw [hpending] at hp
      obtain ⟨hmem, hid, hbinding, hreceipt⟩ := hrows p hp
      rw [hdb]
      refine ⟨Table.mem_update.mpr ⟨_, hmem, .inr ⟨fun hkey => ?_, rfl⟩⟩, hid, hbinding, hreceipt⟩
      have hfound := hclosable.found
      rw [← hkey.trans rfl, hid] at hfound
      have hsome := hclosable.receipt
      rw [h.underway.eq_row hp hfound] at hsome
      rw [hreceipt] at hsome
      cases hsome

/-- Every step keeps the invariant. -/
lemma invariant_preserved : (store s).Preserved (Invariant s) :=
  fun st a h => ⟨(change_step st a).consistent h, (change_step st a).underway h⟩

lemma invariant_initial : Invariant s s.initial := by
  have hcommitted : s.tables.committed = [] := rfl
  have hmoved : s.tables.moved = [] := rfl
  refine ⟨?_, ⟨(fun p hp => by cases hp), List.nodup_nil⟩⟩
  constructor
  · rfl
  · simp [ReviewStore.initial, ReviewStore.tables, Function.comp_def]
  · intro r hr
    cases hr
  · exact List.nodup_nil
  · intro n hn
    cases hn
  · intro n
    refine ⟨(fun hn => by cases hn), ?_⟩
    rintro ⟨i, hi, -⟩
    cases hi
  · intro r hr
    obtain ⟨a, -, rfl⟩ := List.mem_map.mp hr
    rw [Tables.stateOf]
    exact (if_neg (by rw [ReviewStore.initial, hmoved]; exact List.not_mem_nil)).symm

/-- The invariant holds along every run. -/
lemma invariant_run (as : List StoreInput) : Invariant s ((store s).run s.initial as) :=
  invariant_preserved.run invariant_initial as

end CivicGate.Write01
