import CivicGate.Write01.AuthorityProgress
import CivicGate.Write01.GatewayViews

/-!
# A write that the host approved and nothing stops

The safety theorems of the gateway would hold of one that stops every call.  Here a write with an
unspent approval of exactly its request and query, of an award nobody has reviewed, goes through
where nothing fails and nobody else acts: it is permitted, its intent is reserved, committed and
closed, and the response says so (`call_writes`).
-/

namespace CivicGate.Write01

variable {Model : Type} {g : WriteGateway} {w : GatewayWorld} {rules : TextRules Model}

/-! ## The operation of a write -/

lemma isStoreNote_of_isReviewerNote {text : String} (h : isReviewerNote text = true) :
    isStoreNote text = true := by
  simp only [isReviewerNote, isStoreNote, Bool.and_eq_true, Bool.not_eq_true', decide_eq_true_eq,
    List.any_eq_false] at h ⊢
  obtain ⟨⟨⟨hpos, hlength⟩, hbytes⟩, hcontrol⟩ := h
  refine ⟨⟨⟨hpos, hlength⟩, hbytes⟩, fun c hc hlow => hcontrol c hc ?_⟩
  simp [isControl, hlow.1.1]

lemma isStoreId_of_isIdempotencyKey {text : String} (h : isIdempotencyKey text = true) :
    isStoreId text = true := by
  have hlength : text.length = text.toList.length := text.length_toList.symm
  unfold isIdempotencyKey at h
  unfold isStoreId
  split at h
  · cases h
  · rename_i c rest hlist
    rw [hlist] at hlength ⊢
    simp only [Bool.and_eq_true, decide_eq_true_eq, List.all_cons] at h ⊢
    obtain ⟨⟨hle, hc⟩, hrest⟩ := h
    rw [List.length_cons] at hlength
    exact ⟨⟨by omega, by omega⟩, by simp [hc], hrest⟩

lemma isProvenance_of_isText {text : String} {n : ℕ} (h : isText text n = true) (hn : n ≤ 4000) :
    isProvenance (.str text) = true := by
  simp only [isText, isProvenance, Bool.and_eq_true, decide_eq_true_eq] at h ⊢
  omega

/-- A write whose texts pass the checks of the authority is an operation of the store. -/
lemma operation_of_write {request tool reference : String} {q : WriteQueryV1}
    {b : ExecutionBinding} (haward : q.awardId.1 ∈ g.store.ids)
    (hstatus : q.proposedStatus.1 = "PENDING_REVIEW") (hrequest : isText request 4000 = true)
    (howner : isText g.authority.owner 200 = true) (hreference : isText reference 200 = true) :
    g.store.operation (.ok (g.operation w request tool reference (Query.write q).toJson
        b.auditRecord)) = .ok
      { value := (g.operation w request tool reference (Query.write q).toJson
          b.auditRecord).normalize
        awardId := q.awardId
        expectedVersion := q.expectedVersion
        reviewerNote := q.reviewerNote
        idempotencyKey := q.idempotencyKey } := by
  have hnote := isStoreNote_of_isReviewerNote q.reviewerNote.2
  have hkey := isStoreId_of_isIdempotencyKey q.idempotencyKey.2
  have hdigits : (g.operation w request tool reference (Query.write q).toJson
      b.auditRecord).normalize.withinDigits = true := by
    refine Json.withinDigits_normalize _ ?_
    simp [WriteGateway.operation, ExecutionBinding.auditRecord, Json.withinDigits,
      Json.withinDigitsEntries, Query.withinDigits_toJson]
  have hnodup : ([("original_request", Json.str request), ("query", (Query.write q).toJson),
      ("approval_ref", .str reference), ("owner_id", .str g.authority.owner),
      ("dataset_sha256", .str datasetSha256), ("store_id", .str g.store.storeId),
      ("run_id", .str g.runId), ("observation_id", .str w.observationId), ("tool", .str tool),
      ("binding", b.auditRecord)].map Prod.fst).Nodup := by
    simp only [List.map_cons, List.map_nil]
    decide
  simp only [ReviewStore.operation, Except.reraise_eq_ok, Except.bind_eq_ok]
  refine ⟨_, rfl, _, object_eq_ok.mpr ⟨loads_canonical hdigits, _, rfl⟩, ?_⟩
  simp only [WriteGateway.operation, ReviewStore.checkOperation, item, Json.get?_normalize hnodup,
    List.lookup_cons]
  have hrequest' := isProvenance_of_isText hrequest le_rfl
  have howner' := isProvenance_of_isText howner (by decide)
  have hreference' := isProvenance_of_isText hreference (by decide)
  have hnormal := (Query.write q).normalize_toJson
  have hfields : (Query.write q).toJson.hasFields ["award_id", "expected_version",
      "proposed_status", "reviewer_note", "idempotency_key"] = true := rfl
  have hawardId : (Query.write q).toJson.getStr? "award_id" = some q.awardId.1 := rfl
  have hversion : (Query.write q).toJson.getNat? "expected_version" 0 =
      some q.expectedVersion.1 := by
    simp [Query.toJson, Json.getNat?, Json.get?, List.lookup_cons]
  have hproposed : (Query.write q).toJson.getStr? "proposed_status" = some "PENDING_REVIEW" :=
    hstatus ▸ rfl
  have hreviewerNote : (Query.write q).toJson.getStr? "reviewer_note" = some q.reviewerNote.1 :=
    rfl
  have hidempotencyKey : (Query.write q).toJson.getStr? "idempotency_key" =
      some q.idempotencyKey.1 := rfl
  generalize (Query.write q).toJson = query at *
  simp [hnormal, hfields, hawardId, hversion, hproposed, hreviewerNote, hidempotencyKey, haward,
    hnote, hkey, hrequest', howner', hreference']

/-- The operation and its normal form are equal in Python. -/
lemma pyEq_operation {request tool reference : String} {q : Query} {b : ExecutionBinding} :
    (g.operation w request tool reference q.toJson b.auditRecord).normalize.pyEq
      (g.operation w request tool reference q.toJson b.auditRecord) = true := by
  have haudit : b.auditRecord.normalize = b.auditRecord := by
    refine Json.normalize_dict ?_ (by simp)
    simp only [List.map_cons, List.map_nil]
    decide
  refine Json.pyEq_normalize ?_ ?_
  · simp only [List.map_cons, List.map_nil]
    decide
  · simp [q.normalize_toJson, haudit]

/-! ## A write that nothing stands against -/

lemma zero_le_version : 0 ≤ 2 ^ 31 - 1 := Nat.zero_le _

/-- The facts of an award nobody has reviewed. -/
def unreviewedFacts : StateFacts := ⟨true, "UNREVIEWED", ⟨0, zero_le_version⟩⟩

/-- Nothing stands against a write: its texts, its query, an approval of it, and the clocks. -/
structure Welcome (g : WriteGateway) (rules : TextRules Model) (w : GatewayWorld)
    (s : Issuance) (request : String) (q : WriteQueryV1) : Prop where
  observationId_text : isText w.observationId 200 = true
  observationId : isStoreId w.observationId = true
  request_text : isText request 4000 = true
  request_clean : rules.deniedReasons request = []
  expectedVersion : q.expectedVersion = ⟨0, by decide⟩
  proposedStatus : q.proposedStatus.1 = "PENDING_REVIEW"
  unused : w.observationId ∉ s.requestIds
  capacity : s.requestIds.length < maxApprovals
  approval : ∃ place x, Approves g.authority s request (.write q) place x
  clocks : ∃ t e t', now w.evaluationClock = .ok t ∧ g.authority.expiry t = .ok e ∧
    now w.consumptionClock = .ok t' ∧ t.value ≤ t'.value ∧ t'.value < e.value

/-- No intent has the key of the write, none of its award is open, and nobody reviewed it. -/
structure Admits (t : Tables) (q : WriteQueryV1) : Prop where
  newKey : q.idempotencyKey.1 ∉ t.intents.map (·.idempotencyKey)
  noneOpen : ∀ i ∈ t.intents, i.awardId = q.awardId.1 → i.custody ≠ .open
  state : t.state? q.awardId = some ⟨q.awardId, .unreviewed, 0⟩

/-- The evaluation of a write. -/
def GatewayWorld.evaluateWrite (w : GatewayWorld) (request : String) (q : WriteQueryV1) :
    EvaluateCall :=
  w.evaluateCall request Tool.write.text (Arguments.ofJson (Query.write q).toJson)
    unreviewedFacts

lemma normalizeQuery_write (q : WriteQueryV1) :
    normalizeQuery (some Tool.write.text) (Arguments.ofJson (Query.write q).toJson) =
      .ok (.write q) := Query.normalizeQuery_toJson (q := .write q) rfl

/-! ## Steps of a call -/

/-- What a call has but for its audit. -/
structure CallState where
  store : StoreState
  issuance : Issuance
  blocked : Bool
  response : WriteResponseV1
  intentOpen : Bool
  closeAttempted : Bool

def GatewayRun.callState (r : GatewayRun) : CallState :=
  ⟨r.store, r.issuance, r.blocked, r.response, r.intentOpen, r.closeAttempted⟩

/-- The step of a call returns. -/
abbrev Goes {α : Type} (c : CallState) (p : GatewayOp α) (a : α) (d : CallState) : Prop :=
  Program.Returns GatewayRun.callState c p a d

/-- Nothing fails, nobody else acts, and the schemas and approvals are as they were noted. -/
structure GatewayWorld.Calm (g : WriteGateway) (w : GatewayWorld) : Prop where
  audit : ∀ stage, w.auditFails stage = false
  store : ∀ visit, w.store visit = .calm
  others : ∀ visit, w.others visit = []
  evaluation : w.evaluation.Faithful g.authority
  consumption : w.consumption.Faithful g.authority

section

variable {c : CallState} {α : Type} (hc : w.Calm g)

lemma goes_answer {change : WriteResponseV1 → WriteResponseV1} :
    Goes c (answer change) () { c with response := change c.response } :=
  Program.Returns.modify fun r hr => by
    subst hr
    rfl

include hc

lemma goes_emit {stage : AuditStage} : Goes c (emit w stage) () c := by
  rintro r rfl
  refine ⟨{ r with audit := r.audit ++ [(w.observationId, stage)] }, ?_, rfl⟩
  simp only [Program.run, emit, hc.audit, Bool.false_eq_true, if_false]

lemma visited_calm (visit : StoreVisit) (st : StoreState) : g.visited w visit st = st := by
  rw [WriteGateway.visited, hc.others, Machine.run_nil]

lemma goes_consult {visit : StoreVisit} {reader : StoreWorld → Database → Except StoreRaise α}
    {a : α} (h : reader .calm c.store.db = .ok a) : Goes c (g.consult w visit reader) a c := by
  rintro r rfl
  refine ⟨r, ?_, rfl⟩
  simp only [Program.run, WriteGateway.consult, visited_calm hc, hc.store]
  rw [show reader .calm r.store.db = .ok a from h]
  rfl

lemma goes_inspect {visit : StoreVisit} (h : Consistent g.store c.store.db.1) :
    Goes c (g.inspect w visit) (c.store.db.1.intent? w.observationId) c :=
  goes_consult hc h.inspect_calm

lemma goes_snapshot {visit : StoreVisit} {awardId : String} {row : StateRow}
    (h : Consistent g.store c.store.db.1) (hrow : c.store.db.1.state? awardId = some row) :
    Goes c (g.snapshot w visit awardId) (snapshotJson awardId row.status row.version
      ((c.store.db.1.notes.filter (·.awardId = awardId)).map (·.note))) c :=
  goes_consult hc (h.snapshot_calm hrow)

/-! ### The authority -/

lemma goes_facts {q : WriteQueryV1} (h : Consistent g.store c.store.db.1)
    (hrow : c.store.db.1.state? q.awardId = some ⟨q.awardId, .unreviewed, 0⟩) :
    Goes c (g.facts w (Arguments.ofJson (Query.write q).toJson)) (some unreviewedFacts) c := by
  refine Program.Returns.tryCatch (Program.Returns.bind ?_ Program.Returns.pure)
  refine (goes_emit hc).bind ?_
  refine Program.Returns.bind (a := q.awardId.1) Program.Returns.pure ?_
  exact (goes_snapshot hc h hrow).bind Program.Returns.pure

lemma goes_evaluate {request : String} {q : WriteQueryV1}
    (h : Welcome g rules w c.issuance request q) :
    ∃ gr, Granted g.authority w.evaluation c.issuance (w.evaluateWrite request q) gr ∧
      Goes c (g.evaluate rules w request Tool.write.text
          (Arguments.ofJson (Query.write q).toJson) unreviewedFacts)
        ⟨permit, some (gr.retained.identity, gr.retained.envelope)⟩
        { c with issuance := c.issuance.grant gr } := by
  obtain ⟨t, e, -, ht, he, -⟩ := h.clocks
  have hpermissible : Permissible g.authority rules w.evaluation c.issuance
      (w.evaluateWrite request q) w.observationId request (.write q) unreviewedFacts :=
    { world := hc.evaluation
      requestId := rfl
      requestId_text := h.observationId_text
      unused := h.unused
      originalRequest := rfl
      request_text := h.request_text
      request_clean := h.request_clean
      query := normalizeQuery_write q
      state := rfl
      transition := by
        simp [stateDenials, unreviewedFacts, reasonIf, h.proposedStatus, h.expectedVersion]
      approval := h.approval
      judge := rfl
      capacity := h.capacity
      clock := ⟨t, e, ht, he⟩ }
  obtain ⟨gr, hgr, hevaluate⟩ := evaluate_approved hpermissible
  refine ⟨gr, hgr, ?_⟩
  rintro r rfl
  refine ⟨{ r with issuance := r.issuance.grant gr }, ?_, rfl⟩
  have hevaluate' : g.authority.evaluate rules w.evaluation r.issuance (w.evaluateCall request
      Tool.write.text (Arguments.ofJson (Query.write q).toJson) unreviewedFacts) = _ := hevaluate
  simp only [Program.run, WriteGateway.evaluate, hevaluate']
  rfl

variable {s : Issuance} {request : String} {q : WriteQueryV1} {gr : Grant}
  (hgr : Granted g.authority w.evaluation s (w.evaluateWrite request q) gr)

include hgr in
omit hc in
lemma goes_approvalReference (hs : s.Inv) (hissuance : c.issuance = s.grant gr) :
    Goes c (approvalReference gr.retained.identity) gr.retained.approvalReference c := by
  rintro r rfl
  refine ⟨r, ?_, rfl⟩
  simp only [Program.run, approvalReference, Issuance.approvalReference]
  rw [show r.issuance = s.grant gr from hissuance, find?_grant hs hgr]
  rfl

include hgr in
lemma goes_consume (h : Welcome g rules w s request q) (hs : s.Inv)
    (hissuance : c.issuance = s.grant gr) :
    Goes c (g.consume w gr.retained.identity gr.retained.envelope request Tool.write.text
        (Query.write q).toJson) gr.retained.envelope.binding
      { c with issuance := (s.grant gr).drop gr.retained.identity } := by
  obtain ⟨t, e, t', ht, he, ht', hle, hlt⟩ := h.clocks
  have hissued : gr.retained.issuedAt = t := Except.ok.inj (hgr.clock.symm.trans ht)
  have hexpires : gr.retained.expiresAt = e := by
    have hexpiry := hgr.expiry
    rw [hissued, he] at hexpiry
    exact (Except.ok.inj hexpiry).symm
  have hconsume := consume_granted hs hgr hc.consumption (normalizeQuery_write q)
    (normalizeQuery_write q) ht' (hissued ▸ hle) (hexpires ▸ hlt)
  rintro r rfl
  refine ⟨{ r with issuance := (s.grant gr).drop gr.retained.identity }, ?_, rfl⟩
  have hbinding : (g.authority.consume w.consumption r.issuance (w.consumeCall
      gr.retained.identity gr.retained.envelope request Tool.write.text
      (Query.write q).toJson)).2 = .ok gr.retained.envelope.binding := by
    rw [show r.issuance = s.grant gr from hissuance]
    exact hconsume
  have hdrop : (g.authority.consume w.consumption r.issuance (w.consumeCall
      gr.retained.identity gr.retained.envelope request Tool.write.text
      (Query.write q).toJson)).1 = (s.grant gr).drop gr.retained.identity := by
    rw [consume_fst, show r.issuance = s.grant gr from hissuance]
    rfl
  simp only [Program.run, WriteGateway.consume, hbinding, hdrop]
  rfl

end

/-! ### The store -/

section

variable {c : CallState} (hc : w.Calm g)
include hc

lemma goes_reserve {operation : Json} {b : String} {ack : OpenAck} {d : Database}
    (h : g.store.reserve .calm w.observationId (.ok operation) b c.store.db = (.ok ack, d)) :
    Goes c (g.reserve w operation b) ack { c with store := ⟨d, c.store.pending⟩ } := by
  rintro r rfl
  refine ⟨{ r with store := ⟨d, r.store.pending⟩ }, ?_, rfl⟩
  simp only [Program.run, WriteGateway.reserve, visited_calm hc, hc.store]
  rw [show g.store.reserve .calm w.observationId (.ok operation) b r.store.db = (.ok ack, d) from h]
  rfl

lemma goes_attempt {b : String} {p : PendingCommit} {d : Database}
    (h : g.store.attempt .calm w.observationId b c.store.db = (.ok p, d)) :
    Goes c (g.attempt w b) p { c with store := ⟨d, p :: c.store.pending⟩ } := by
  rintro r rfl
  refine ⟨{ r with store := ⟨d, p :: r.store.pending⟩ }, ?_, rfl⟩
  simp only [Program.run, WriteGateway.attempt, visited_calm hc, hc.store]
  rw [show g.store.attempt .calm w.observationId b r.store.db = (.ok p, d) from h]

lemma goes_mutate {p : PendingCommit} {receipt : CommitResponse} {d : Database}
    (h : g.store.mutate .calm p c.store.db = (.ok receipt, d)) :
    Goes c (g.mutate w p) receipt { c with
      store := ⟨d, c.store.pending.filter (·.operationId ≠ p.operationId)⟩ } := by
  rintro r rfl
  refine ⟨{ r with
    store := ⟨d, r.store.pending.filter (·.operationId ≠ p.operationId)⟩ }, ?_, rfl⟩
  simp only [Program.run, WriteGateway.mutate, visited_calm hc, hc.store]
  rw [show g.store.mutate .calm p r.store.db = (.ok receipt, d) from h]
  rfl

lemma goes_acknowledge {sha : String} {ack : CloseAck} {d : Database}
    (h : g.store.acknowledge .calm w.observationId sha c.store.db = (.ok ack, d)) :
    Goes c (g.acknowledge w sha) ack { c with store := ⟨d, c.store.pending⟩ } := by
  rintro r rfl
  refine ⟨{ r with store := ⟨d, r.store.pending⟩ }, ?_, rfl⟩
  simp only [Program.run, WriteGateway.acknowledge, visited_calm hc, hc.store]
  rw [show g.store.acknowledge .calm w.observationId sha r.store.db = (.ok ack, d) from h]
  rfl

end

/-! ### The write -/

section

variable {s : ReviewStore} {st : StoreState} {id b : String} {x : Except PyException Json}
  {op : Operation} {t₁ t₂ t₃ t₄ : Database} (h : Written s st id x b op t₁ t₂ t₃ t₄)
include h

lemma Written.intent_reserved : t₁.1.intent? id = some (intentRow id op b) := by
  have hmem : intentRow id op b ∈ t₁.1.intents := by
    rw [h.reserved]
    exact List.mem_append_right _ (List.mem_singleton_self _)
  exact intent?_of_mem t₁.2 hmem

lemma Written.intent_mutated : t₃.1.intent? id =
    some (s.received op { intentRow id op b with attemptStarted := true }) := by
  have hstarted : (t₁.1.startAttempt id).intent? id =
      some { intentRow id op b with attemptStarted := true } := by
    rw [intent?_startAttempt, h.intent_reserved]
    rfl
  rw [h.mutated, ReviewStore.mutated, intent?_recordReceipt]
  exact congrArg (Option.map _) hstarted

lemma Written.intent_closed : t₄.1.intent? id =
    some { s.received op { intentRow id op b with attemptStarted := true } with
      custody := .closed } := by
  rw [h.closed, intent?_closeCustody, h.intent_mutated]
  rfl

variable (hs : Consistent s st.db.1) (havailable : Available st.db.1 op)
include hs havailable

lemma Written.state_mutated :
    t₃.1.state? op.awardId = some ⟨op.awardId, .pendingReview, 1⟩ := by
  have hclosed : t₄.1.state? op.awardId = some ⟨op.awardId, .pendingReview, 1⟩ := by
    rw [h.eq_written]
    exact state?_written hs havailable (h.eq_written ▸ t₄.2)
  rw [h.closed] at hclosed
  exact hclosed

/-- The note of the operation is the only one of its award. -/
lemma Written.notes_mutated :
    (t₃.1.notes.filter (·.awardId = op.awardId)).map (·.note) = [op.reviewerNote] := by
  obtain ⟨r, hr, -, hstatus⟩ := havailable.state
  obtain ⟨hunmoved, -⟩ := hs.unmoved_of_state hr hstatus
  have hnone : st.db.1.notes.filter (·.awardId = op.awardId) = [] := by
    refine List.filter_eq_nil_iff.mpr fun n hn => ?_
    obtain ⟨i, hi, op', hop', rfl⟩ := (hs.noted n).mp hn
    have haward : op'.awardId ∈ st.db.1.moved := hop'.awardId ▸ List.mem_map_of_mem hi
    have hne : (noteRow i.operationId op').awardId ≠ op.awardId :=
      fun heq => hunmoved (heq ▸ haward)
    simpa using hne
  have hnotes : t₃.1.notes = st.db.1.notes ++ [noteRow id op] := by
    rw [h.mutated, h.reserved]
    rfl
  rw [hnotes, List.filter_append, hnone, List.filter_singleton, noteRow, decide_eq_true rfl]
  rfl

end

/-- What is reserved is known by the text of the operation. -/
lemma canonical_operation {s : ReviewStore} {operation : Json} {op : Operation}
    (h : s.operation (.ok operation) = .ok op) :
    canonical false op.value = canonical false operation := by
  obtain ⟨v, hv, hvalue, -⟩ := operation_eq_ok h
  obtain rfl := Except.ok.inj hv
  rw [hvalue, canonical_normalize]

section

variable {c : CallState} {st : StoreState} {operation : Json} {b : String} {op : Operation}
  {t₁ t₂ t₃ t₄ : Database} (hc : w.Calm g)
  (hop : g.store.operation (.ok operation) = .ok op)
  (hw : Written g.store st w.observationId (.ok operation) b op t₁ t₂ t₃ t₄)
include hc hop hw

lemma goes_openIntent (hstore : c.store = st) :
    Goes c (g.openIntent w operation b) () { c with
      store := ⟨t₁, st.pending⟩
      intentOpen := true
      response := { c.response with custody := .open } } := by
  subst hstore
  have hconfirmed : w.openConfirmed operation b ⟨w.observationId, digest op.value, b⟩
      (t₁.1.intent? w.observationId) = true := by
    simp [GatewayWorld.openConfirmed, hw.intent_reserved, intentRow, digest,
      canonical_operation hop]
  refine (goes_reserve hc hw.reserve).bind ?_
  refine (goes_inspect hc hw.reserved_consistent).bind ?_
  rw [hconfirmed]
  refine Program.Returns.bind (Program.Returns.modify fun r hr =>
    congrArg (fun x : CallState => { x with intentOpen := true }) hr) ?_
  exact goes_answer.bind (goes_emit hc)

omit hc in
lemma receiptConfirmed_written (heq : op.value.pyEq operation = true) :
    receiptConfirmed operation b ⟨g.store.receipt w.observationId op b,
      digest (g.store.receipt w.observationId op b)⟩ (t₃.1.intent? w.observationId) =
        .ok true := by
  have haccepted := accepted_of_operation hop
  have hloads := (object_eq_ok.mp (object_receipt haccepted w.observationId b)).1
  have hself := Json.pyEq_self (normalize_receipt haccepted w.observationId b)
  have hoperation : (g.store.receipt w.observationId op b).get? "operation" = some op.value := rfl
  have hbinding : (g.store.receipt w.observationId op b).get? "binding_sha256" =
      some (.str b) := rfl
  have hsha : digest (g.store.receipt w.observationId op b) =
      sha256Hex (canonical false (g.store.receipt w.observationId op b)) := rfl
  rw [hw.intent_mutated, ReviewStore.received]
  generalize hreceipt : g.store.receipt w.observationId op b = receipt at *
  have hreceipt' : g.store.receipt (intentRow w.observationId op b).operationId op
      (intentRow w.observationId op b).bindingSha256 = receipt := hreceipt
  simp only [receiptConfirmed, hreceipt', hsha, ne_eq, not_true_eq_false, or_self, if_false,
    Except.bind_eq_ok, Except.reraise_eq_ok, demand_eq_ok, item]
  refine ⟨_, rfl, receipt, hloads, ?_⟩
  simp only [hself, Bool.not_true, Bool.false_eq_true, if_false, hoperation, hbinding]
  simp only [Except.reraise, demand, Except.ok_bind, heq, Json.pyEq, decide_true, Bool.and_true]
  rfl

/-- The calls of `commit` after the one of this operation. -/
def StoreState.others (st : StoreState) (o : String) : List PendingCommit :=
  st.pending.filter (·.operationId ≠ o)

/-- The operation is committed and its evidence confirmed. -/
lemma goes_commitIntent {effective : Json} (heq : op.value.pyEq operation = true)
    (heffective : awardOf effective = .ok op.awardId) (hs : Consistent g.store st.db.1)
    (havailable : Available st.db.1 op) (hstore : c.store = ⟨t₁, st.pending⟩) :
    Goes c (g.commitIntent w operation effective b)
      ⟨g.store.receipt w.observationId op b, digest (g.store.receipt w.observationId op b)⟩ { c with
        store := ⟨t₃, st.others w.observationId⟩
        response := { c.response with transactionOutcome := .committed } } := by
  have hattempt : g.store.attempt .calm w.observationId b c.store.db =
      (.ok ⟨w.observationId, b, intentRow w.observationId op b⟩, t₂) := by
    rw [hstore]
    exact hw.attempt
  have hmutate : Goes
      { c with store := ⟨t₂, ⟨w.observationId, b, intentRow w.observationId op b⟩ :: st.pending⟩ }
      (g.mutate w ⟨w.observationId, b, intentRow w.observationId op b⟩)
      ⟨g.store.receipt w.observationId op b, digest (g.store.receipt w.observationId op b)⟩
      { c with store := ⟨t₃, st.others w.observationId⟩ } := by
    have hrun := goes_mutate (c := { c with
      store := ⟨t₂, ⟨w.observationId, b, intentRow w.observationId op b⟩ :: st.pending⟩ }) hc
      hw.mutate
    rwa [List.filter_cons_of_neg (by simp)] at hrun
  have hafter : (g.store.receipt w.observationId op b).get? "after" =
      some (snapshotJson op.awardId .pendingReview 1 [op.reviewerNote]) := rfl
  refine (goes_attempt hc hattempt).bind ?_
  rw [hstore]
  refine hmutate.bind ?_
  refine goes_answer.bind ((goes_emit hc).bind ?_)
  refine (goes_inspect hc hw.mutated_consistent).bind ?_
  refine (Program.Returns.lift (receiptConfirmed_written hop hw heq)).bind ?_
  refine (Program.Returns.lift heffective).bind ?_
  refine (goes_snapshot hc hw.mutated_consistent (hw.state_mutated hs havailable)).bind ?_
  rw [hw.notes_mutated hs havailable, item, hafter]
  refine (Program.Returns.lift rfl).bind ?_
  rw [Json.pyEq_self (normalize_snapshotJson ..)]
  exact goes_answer.bind Program.Returns.pure

/-- The custody is closed, and the intent read back says so. -/
lemma goes_closeIntent (hstore : c.store = ⟨t₃, st.others w.observationId⟩) :
    Goes c (g.closeIntent w operation b
        ⟨g.store.receipt w.observationId op b, digest (g.store.receipt w.observationId op b)⟩) ()
      { c with
        store := ⟨t₄, st.others w.observationId⟩
        closeAttempted := true
        response := { c.response with
          custody := .closed
          result := some (writeResult
            ⟨g.store.receipt w.observationId op b,
              digest (g.store.receipt w.observationId op b)⟩
            ⟨w.observationId, digest (g.store.receipt w.observationId op b)⟩) } } := by
  have hconfirmed : w.closeConfirmed operation b
      ⟨g.store.receipt w.observationId op b, digest (g.store.receipt w.observationId op b)⟩
      ⟨w.observationId, digest (g.store.receipt w.observationId op b)⟩
      (t₄.1.intent? w.observationId) = true := by
    simp [GatewayWorld.closeConfirmed, hw.intent_closed, ReviewStore.received, intentRow, digest,
      canonical_operation hop]
  refine Program.Returns.bind (Program.Returns.modify fun r hr =>
    congrArg (fun x : CallState => { x with closeAttempted := true }) hr) ?_
  have hacknowledge : g.store.acknowledge .calm w.observationId
      (digest (g.store.receipt w.observationId op b)) c.store.db =
        (.ok ⟨w.observationId, digest (g.store.receipt w.observationId op b)⟩, t₄) := by
    rw [hstore]
    exact hw.acknowledge
  refine (goes_acknowledge (c := { c with closeAttempted := true }) hc hacknowledge).bind ?_
  refine (goes_inspect hc hw.closed_consistent).bind ?_
  rw [hconfirmed, Bool.not_true, if_neg Bool.false_ne_true, hstore]
  exact goes_answer (c := { c with
    store := ⟨t₄, st.others w.observationId⟩, closeAttempted := true })

/-- The result of a write that went through. -/
def ReviewStore.result (s : ReviewStore) (id : String) (op : Operation) (b : String) : Json :=
  writeResult ⟨s.receipt id op b, digest (s.receipt id op b)⟩ ⟨id, digest (s.receipt id op b)⟩

/-- The effect of the write tool. -/
lemma goes_adapt {effective : Json} (heq : op.value.pyEq operation = true)
    (heffective : awardOf effective = .ok op.awardId) (hs : Consistent g.store st.db.1)
    (havailable : Available st.db.1 op) (hstore : c.store = ⟨t₁, st.pending⟩) :
    Goes c (g.adapt w Tool.write.text operation effective b) () { c with
      store := ⟨t₄, st.others w.observationId⟩
      closeAttempted := true
      response := { c.response with
        transactionOutcome := .committed
        custody := .closed
        result := some (g.store.result w.observationId op b) } } := by
  refine (goes_commitIntent hc hop hw heq heffective hs havailable hstore).bind ?_
  exact goes_closeIntent hc hop hw rfl

end

/-! ### The call -/

section

variable {s : Issuance} {request : String} {q : WriteQueryV1} {gr : Grant}
  (hgr : Granted g.authority w.evaluation s (w.evaluateWrite request q) gr)
include hgr

lemma argumentsJson_of_granted :
    gr.retained.envelope.binding.argumentsJson = (Query.write q).text := by
  obtain ⟨q', schema, facts, hq', henvelope⟩ := hgr.query
  obtain rfl : q' = .write q :=
    Except.ok.inj ((query_eq_ok hq').symm.trans (normalizeQuery_write q))
  rw [henvelope]
  rfl

/-- The texts of an approval were checked. -/
lemma texts_of_granted : isText g.authority.owner 200 = true ∧
    isText gr.retained.approvalReference 200 = true := by
  obtain ⟨x, hx, -, -, -, -, hreference⟩ := hgr.approval
  have hmem := List.mem_of_getElem? hx
  have hcheck := g.authority.approvals_valid x hmem
  simp only [HostApproval.check, Except.bind_eq_ok, ensure_eq_ok, Bool.and_eq_true] at hcheck
  obtain ⟨_, ⟨⟨⟨⟨⟨-, howner⟩, -⟩, htext⟩, -⟩, -⟩, -⟩ := hcheck
  rw [(g.authority.approvals_owned x hmem).1] at howner
  rw [← hreference]
  exact ⟨howner, htext⟩

end

/-- The write went through: the call entered the adapter, its operation is committed and closed,
and the approval behind it is spent. -/
structure Wrote (g : WriteGateway) (w : GatewayWorld) (request : String) (q : WriteQueryV1)
    (t : Tables) (s : Issuance) (t' : Tables) (s' : Issuance) (x : WriteResponseV1) : Prop where
  entered : x.adapterEntries = 1
  transactionOutcome : x.transactionOutcome = .committed
  resultVerification : x.resultVerification = .verified
  custody : x.custody = .closed
  store : ∃ op b, op.awardId = q.awardId.1 ∧ op.idempotencyKey = q.idempotencyKey.1 ∧
    t' = g.store.written w.observationId op b t
  issuance : ∃ gr, Granted g.authority w.evaluation s (w.evaluateWrite request q) gr ∧
    s' = (s.grant gr).drop gr.retained.identity

section

variable {s : Issuance} {request : String} {q : WriteQueryV1} (hc : w.Calm g)
include hc

/-- From the issued envelope on. -/
lemma goes_dispatch {c : CallState} {st : StoreState} {gr : Grant}
    (h : Welcome g rules w s request q) (hs : s.Inv) (hinv : Invariant g.store st)
    (hadmits : Admits st.db.1 q) (hnew : w.observationId ∉ st.db.1.intents.map (·.operationId))
    (hgr : Granted g.authority w.evaluation s (w.evaluateWrite request q) gr)
    (haward : q.awardId.1 ∈ g.store.ids) (hstore : c.store = st)
    (hissuance : c.issuance = s.grant gr) :
    ∃ d, Wrote g w request q st.db.1 s d.store.db.1 d.issuance d.response ∧
      d.blocked = c.blocked ∧
      Goes c (g.dispatch w request Tool.write.text gr.retained.identity gr.retained.envelope) ()
        d := by
  obtain ⟨howner, hreference⟩ := texts_of_granted hgr
  obtain ⟨op, hop, hid, hkey, hversion, hvalue⟩ : ∃ op, g.store.operation (.ok (g.operation w
      request Tool.write.text gr.retained.approvalReference (Query.write q).toJson
      gr.retained.envelope.binding.auditRecord)) = .ok op ∧ op.awardId = q.awardId.1 ∧
      op.idempotencyKey = q.idempotencyKey.1 ∧ op.expectedVersion = q.expectedVersion.1 ∧
      op.value = (g.operation w request Tool.write.text gr.retained.approvalReference
        (Query.write q).toJson gr.retained.envelope.binding.auditRecord).normalize :=
    ⟨_, operation_of_write haward h.proposedStatus h.request_text howner hreference, rfl, rfl,
      rfl, rfl⟩
  have havailable : Available st.db.1 op :=
    { newKey := hkey ▸ hadmits.newKey
      noneOpen := hid ▸ hadmits.noneOpen
      state := ⟨_, hid ▸ hadmits.state, by rw [hversion, h.expectedVersion], rfl⟩ }
  have hsha : isSha256Hex gr.retained.envelope.binding.sha256 = true := isSha256Hex_sha256Hex _
  obtain ⟨t₁, t₂, t₃, t₄, hw⟩ := exists_written hinv hop h.observationId hsha havailable hnew
  have heq : op.value.pyEq _ = true := hvalue ▸ pyEq_operation
  have heffective : awardOf (Query.write q).toJson = .ok op.awardId := hid ▸ rfl
  have hloads : Except.reraise (demand (loads gr.retained.envelope.binding.argumentsJson)
      (.other .valueError)) GatewayRaise.store = .ok (Query.write q).toJson := by
    rw [argumentsJson_of_granted hgr, Query.loads_text]
    rfl
  refine ⟨
    { store := ⟨t₄, st.others w.observationId⟩
      issuance := (s.grant gr).drop gr.retained.identity
      blocked := c.blocked
      response := { c.response with
        bindingConsumed := true
        adapterEntries := 1
        transactionOutcome := .committed
        resultVerification := .verified
        custody := .closed
        result := some (g.store.result w.observationId op gr.retained.envelope.binding.sha256)
        evidenceSha256 := some (digest
          (g.store.result w.observationId op gr.retained.envelope.binding.sha256)) }
      intentOpen := true
      closeAttempted := true },
    ⟨rfl, rfl, rfl, rfl, ⟨op, _, hid, hkey, hw.eq_written⟩, gr, hgr, rfl⟩, rfl, ?_⟩
  refine (goes_emit hc).bind ?_
  refine (Program.Returns.lift hloads).bind ?_
  refine (goes_approvalReference hgr hs hissuance).bind ?_
  refine (goes_openIntent hc hop hw hstore).bind ?_
  refine Program.Returns.bind (goes_consume hc hgr h hs ?issued) ?rest
  case issued => exact hissuance
  refine goes_answer.bind ((goes_emit hc).bind ((goes_emit hc).bind (goes_answer.bind ?_)))
  refine (goes_adapt hc hop hw heq heffective hinv.consistent havailable rfl).bind ?_
  exact goes_answer.bind (goes_emit hc)

/-- Where nothing fails, a write that nothing stands against goes through. -/
lemma call_writes {st : GatewayState} (h : Welcome g rules w st.issuance request q)
    (hs : st.issuance.Inv) (hinv : Invariant g.store st.store) (hadmits : Admits st.store.db.1 q)
    (hnew : w.observationId ∉ st.store.db.1.intents.map (·.operationId))
    (hfree : st.blocked = false) :
    ∃ x st', g.call rules w st request Tool.write.text
        (Arguments.ofJson (Query.write q).toJson) = (.ok x, st') ∧ st'.blocked = false ∧
      Wrote g w request q st.store.db.1 st.issuance st'.store.db.1 st'.issuance x := by
  have haward : q.awardId.1 ∈ g.store.ids := by
    rw [← hinv.consistent.awards]
    exact List.mem_map.mpr ⟨_, Table.mem_of_get? hadmits.state, rfl⟩
  obtain ⟨gr, hgr, hevaluate⟩ := goes_evaluate
    (c := (st.start w request Tool.write.text).callState) hc h
  obtain ⟨d, hwrote, hblocked, hdispatch⟩ := goes_dispatch (c := {
      (st.start w request Tool.write.text).callState with
      issuance := st.issuance.grant gr
      response := { (st.start w request Tool.write.text).response with
        decision := permit.decision
        reasons := permit.reasons
        bindingIssued := true
        binding := some gr.retained.envelope.binding.auditRecord } })
    hc h hs hinv hadmits hnew hgr haward rfl rfl
  obtain ⟨r, hrun, rfl⟩ : ∃ r, (g.body rules w request Tool.write.text
      (Arguments.ofJson (Query.write q).toJson)).run (st.start w request Tool.write.text) =
        (.ok (), r) ∧ r.callState = d := by
    refine Program.Returns.bind (z := d) (goes_facts hc hinv.consistent hadmits.state)
      (Program.Returns.tryCatch ?_) _ rfl
    refine Program.Returns.bind hevaluate ?_
    exact goes_answer.bind (goes_answer.bind ((goes_emit hc).bind hdispatch))
  refine ⟨r.response, r.toGatewayState, ?_, hblocked.trans hfree, hwrote⟩
  unfold WriteGateway.call
  rw [hfree, if_neg Bool.false_ne_true, hrun]

end

/-! ## After a write -/

section

variable {s : ReviewStore} {t : Tables} {id b : String} {op : Operation}

/-- The columns of the intents that no statement of a write changes. -/
lemma map_intents_written {column : IntentRow → String}
    (hstart : ∀ r : IntentRow, column { r with attemptStarted := true } = column r)
    (hreceipt : ∀ (r : IntentRow) raw sha,
      column { r with receiptJson := raw, receiptSha256 := sha } = column r)
    (hclose : ∀ r : IntentRow, column { r with custody := .closed } = column r) :
    (s.written id op b t).intents.map column =
      t.intents.map column ++ [column (intentRow id op b)] := by
  calc (s.written id op b t).intents.map column
      = (s.mutated ⟨id, b, intentRow id op b⟩ op
          ((t.insertIntent (intentRow id op b)).startAttempt id)).intents.map column :=
        Table.map_update hclose
    _ = ((t.insertIntent (intentRow id op b)).startAttempt id).intents.map column :=
        Table.map_update fun r => hreceipt r _ _
    _ = (t.intents ++ [intentRow id op b]).map column := Table.map_update hstart
    _ = t.intents.map column ++ [column (intentRow id op b)] := List.map_append

lemma operationIds_written : (s.written id op b t).intents.map (·.operationId) =
    t.intents.map (·.operationId) ++ [id] :=
  map_intents_written (fun _ => rfl) (fun _ _ _ => rfl) fun _ => rfl

lemma idempotencyKeys_written : (s.written id op b t).intents.map (·.idempotencyKey) =
    t.intents.map (·.idempotencyKey) ++ [op.idempotencyKey] :=
  map_intents_written (fun _ => rfl) (fun _ _ _ => rfl) fun _ => rfl

/-- A write leaves no intent open that was not. -/
lemma open_written {i : IntentRow} (hi : i ∈ (s.written id op b t).intents)
    (hopen : i.custody = .open) : i ∈ t.intents := by
  obtain ⟨i, hi, ⟨-, rfl⟩ | ⟨hid, rfl⟩⟩ := Table.mem_update.mp hi
  · cases hopen
  · obtain ⟨i, hi, ⟨heq, rfl⟩ | ⟨-, rfl⟩⟩ := Table.mem_update.mp hi
    · exact absurd heq hid
    · obtain ⟨i, hi, ⟨heq, rfl⟩ | ⟨-, rfl⟩⟩ := Table.mem_update.mp hi
      · exact absurd heq hid
      · rcases List.mem_append.mp hi with hi | hi
        · exact hi
        · exact absurd (List.mem_singleton.mp hi ▸ rfl) hid

/-- A write of one award admits the writes of others. -/
lemma Admits.written {q : WriteQueryV1} (h : Admits t q) (haward : op.awardId ≠ q.awardId.1)
    (hkey : op.idempotencyKey ≠ q.idempotencyKey.1) : Admits (s.written id op b t) q where
  newKey := by
    rw [idempotencyKeys_written, List.mem_append, List.mem_singleton, not_or]
    exact ⟨h.newKey, hkey.symm⟩
  noneOpen i hi hid hopen := h.noneOpen i (open_written hi hopen) hid hopen
  state := by
    rw [← h.state]
    exact Table.get?_update_of_ne haward.symm fun _ => rfl

end

end CivicGate.Write01
