import CivicGate.Write01.GatewayProgress
import CivicGate.Write01.GatewaySafety

/-!
# Runs of the write gateway

One gateway and any number of other processes on a store, each call under an operation of its
own (`Fresh`).  What a call reports is so (`gateway_reports_truthfully`), after a report of
trouble every later call is refused (`gateway_stops`), and no two calls entered the adapter by
one approval (`gateway_approvals_once`).
-/

namespace CivicGate.Write01

variable {Model : Type} {g : WriteGateway} {rules : TextRules Model}

/-! ## Calls -/

/-- The operation a call names. -/
def GatewayInput.operationId? : GatewayInput → Option String
  | .call w _ _ _ => some w.observationId
  | .other _ => none

/-- Nothing is done for an operation. -/
def GatewayInput.Spares (o : String) : GatewayInput → Prop
  | .call w _ _ _ => w.observationId ≠ o ∧ ∀ visit, ∀ a ∈ w.others visit, a.operationId ≠ o
  | .other a => a.operationId ≠ o

/-- Each call names an operation that nobody acted for before, and nobody else acts for while it
goes on. -/
structure Fresh (as : List GatewayInput) : Prop where
  apart : ∀ w request tool query, .call w request tool query ∈ as → w.Apart
  spared : as.Pairwise fun a b => ∀ o, b.operationId? = some o → a.Spares o

/-- What a call leaves, with the view it had at its end. -/
structure Leaves (g : WriteGateway) (w : GatewayWorld) (before after : GatewayState)
    (v : View) : Prop where
  store : ∃ as, w.Takes as v.own ∧ (Write01.store g.store).run before.store as = after.store
  row : after.store.row w.observationId = v.row
  calls : after.store.calls w.observationId = v.calls
  blocked : after.blocked = v.blocked
  issuance : after.issuance = v.issuance

lemma At.leaves {st : GatewayState} {w : GatewayWorld} {v : View} {r : GatewayRun}
    (h : At g w st.store v r) : Leaves g w st r.toGatewayState v where
  store := h.traced
  row := congrArg View.row h.view
  calls := congrArg View.calls h.view
  blocked := congrArg View.blocked h.view
  issuance := congrArg View.issuance h.view

/-- A call of a gateway that is not stopped. -/
lemma call_leaves (rules : TextRules Model) {st : GatewayState} {w : GatewayWorld}
    (request tool : String) (query : Arguments) (hw : w.Apart) (hs : st.issuance.Inv)
    (hrow : st.store.row w.observationId = none) (hcalls : st.store.calls w.observationId = [])
    (hfree : st.blocked = false) :
    ∃ v, Leaves g w st (g.call rules w st request tool query).2 v ∧
      Spends g w request tool query st.issuance v.issuance ∧
      ∀ x, (g.call rules w st request tool query).1 = .ok x →
        v.response = x ∧ Truthful g w request tool query st.issuance v := by
  have hat : At g w st.store (startView w request tool st.issuance)
      (st.start w request tool) := by
    refine ⟨⟨[], ⟨by simp, rfl⟩, rfl⟩, ?_⟩
    simp only [GatewayRun.view, GatewayState.start, startView, hrow, hcalls, hfree]
  have hleads : Leads g w st.store (startView w request tool st.issuance)
      (g.body rules w request tool query)
      (fun _ => Truthful g w request tool query st.issuance)
      fun _ => Sound g w request tool query st.issuance := leads_body hw hs
  have hbody := hleads _ hat
  unfold WriteGateway.call
  rw [hfree, if_neg (by decide)]
  rcases hrun : (g.body rules w request tool query).run (st.start w request tool) with
    ⟨e | ⟨⟩, r⟩
  · rw [hrun] at hbody
    obtain ⟨v, hv, hsound⟩ := hbody
    refine ⟨v, hv.leaves, hsound.spends, fun x hx => ?_⟩
    have hx' : (Except.error e : Except GatewayRaise WriteResponseV1) = .ok x := hx
    cases hx'
  · rw [hrun] at hbody
    obtain ⟨v, hv, htruthful⟩ := hbody
    refine ⟨v, hv.leaves, htruthful.spends, ?_⟩
    rintro x hx
    exact ⟨(congrArg View.response hv.view).symm.trans (Except.ok.inj hx), htruthful⟩

lemma call_blocked {st : GatewayState} {w : GatewayWorld} {request tool : String}
    {query : Arguments} (h : st.blocked = true) :
    g.call rules w st request tool query =
      (.ok { WriteResponseV1.initial w.observationId tool request with
        reasons := ["OWNER_STOPPED_NO_AUTOMATIC_RECOVERY"], custody := .unknown }, st) := by
  unfold WriteGateway.call
  rw [h, if_pos rfl]

/-- The stage of a call. -/
lemma stage_call {st st' : GatewayState} {w : GatewayWorld} {request tool : String}
    {query : Arguments} {x : Except GatewayRaise WriteResponseV1}
    (h : g.call rules w st request tool query = (x, st')) :
    (g.machine rules).stage st (.call w request tool query) =
      ⟨st, .call w request tool query, some x, st'⟩ := by
  simp only [Machine.stage, Machine.out, Machine.next, WriteGateway.machine, h]

/-- What holds after the inputs so far. -/
structure Reached (g : WriteGateway) (as : List GatewayInput) (st : GatewayState) : Prop where
  invariant : Invariant g.store st.store
  issuance : st.issuance.Inv
  spared : ∀ o, (∀ a ∈ as, a.Spares o) → st.store.row o = none ∧ st.store.calls o = []

lemma Spends.inv {w : GatewayWorld} {request tool : String} {query : Arguments} {s t : Issuance}
    (hs : s.Inv) (h : Spends g w request tool query s t) : t.Inv := by
  cases h with
  | kept => exact hs
  | granted hgr => exact hs.grant hgr
  | consumed hgr =>
      exact { hs.grant hgr with
        numbered := (hs.grant hgr).numbered.sublist List.filter_sublist }

/-- What transactions of spared operations leave. -/
lemma Reached.transactions {as : List GatewayInput} {a : GatewayInput} {st : GatewayState}
    {st' : GatewayState} (h : Reached g as st) (hs : st'.issuance.Inv) (bs : List StoreInput)
    (hrun : (store g.store).run st.store bs = st'.store)
    (hbs : ∀ o, a.Spares o → ∀ b ∈ bs, b.operationId ≠ o) : Reached g (as ++ [a]) st' where
  invariant := by
    rw [← hrun]
    exact invariant_preserved.run h.invariant bs
  issuance := hs
  spared o ho := by
    obtain ⟨hrow, hcalls⟩ := h.spared o fun b hb => ho b (List.mem_append_left _ hb)
    obtain ⟨hrow', hcalls'⟩ := foreign_run (s := g.store)
      (hbs o (ho a (List.mem_append_right _ (List.mem_singleton_self a)))) st.store
    rw [← hrun]
    exact ⟨hrow'.trans hrow, hcalls'.trans hcalls⟩

lemma Fresh.left {as bs : List GatewayInput} (h : Fresh (as ++ bs)) : Fresh as where
  apart w request tool query hmem := h.apart w request tool query (List.mem_append_left _ hmem)
  spared := (List.pairwise_append.mp h.spared).1

/-- What is done before a call spares the operation the call names. -/
lemma Fresh.spares {as bs : List GatewayInput} {w : GatewayWorld} {request tool : String}
    {query : Arguments} (h : Fresh (as ++ .call w request tool query :: bs)) :
    ∀ a ∈ as, a.Spares w.observationId := fun a ha =>
  (List.pairwise_append.mp h.spared).2.2 a ha _ List.mem_cons_self _ rfl

lemma reached_run (g : WriteGateway) (rules : TextRules Model) {as : List GatewayInput}
    (h : Fresh as) :
    Reached g as ((g.machine rules).run g.initial as) := by
  induction as using List.reverseRecOn with
  | nil =>
      refine ⟨invariant_initial, Issuance.inv_initial, fun o _ => ⟨?_, rfl⟩⟩
      rfl
  | append_singleton as a ih =>
      have hreached := ih h.left
      rw [Machine.run_concat]
      generalize (g.machine rules).run g.initial as = st at hreached
      cases a with
      | other b =>
          refine hreached.transactions hreached.issuance [b] rfl ?_
          intro o ho c hc
          rw [List.mem_singleton.mp hc]
          exact ho
      | call w request tool query =>
          cases hblocked : st.blocked with
          | true =>
              have hnext : (g.machine rules).next st (.call w request tool query) = st := by
                simp only [Machine.next, WriteGateway.machine, call_blocked hblocked]
              rw [hnext]
              exact hreached.transactions hreached.issuance [] rfl
                fun _ _ => List.forall_mem_nil _
          | false =>
              obtain ⟨hrow, hcalls⟩ := hreached.spared _ h.spares
              have hw := h.apart w request tool query (List.mem_append_right _ List.mem_cons_self)
              obtain ⟨v, hleaves, hspends, -⟩ := call_leaves rules request tool query hw
                hreached.issuance hrow hcalls hblocked
              obtain ⟨bs, htakes, hrun⟩ := hleaves.store
              refine hreached.transactions ?_ bs hrun ?_
              · show (g.call rules w st request tool query).2.issuance.Inv
                rw [hleaves.issuance]
                exact hspends.inv hreached.issuance
              · intro o ho b hb
                by_cases hown : b.operationId = w.observationId
                · rw [hown]
                  exact ho.1
                · obtain ⟨visit, hvisit⟩ := htakes.others b hb hown
                  exact ho.2 visit b hvisit

/-- A receipt stands for the mutation: the note and the state are there. -/
lemma Invariant.durable {s : ReviewStore} {st : StoreState} (h : Invariant s st) {o : String}
    {i : IntentRow} (hrow : st.row o = some i) (hreceipt : i.receiptJson.isSome = true) :
    ∃ op, Records s i op ∧ noteRow o op ∈ st.db.1.notes ∧
      st.db.1.state? op.awardId = some ⟨op.awardId, .pendingReview, 1⟩ := by
  have hmem : i ∈ st.db.1.intents := Table.mem_of_get? hrow
  obtain rfl : i.operationId = o := Table.key_of_get? hrow
  obtain ⟨op, hop⟩ := h.consistent.recorded i hmem
  have hcommitted : i ∈ st.db.1.committed := List.mem_filter.mpr ⟨hmem, hreceipt⟩
  have hmoved : op.awardId ∈ st.db.1.moved := hop.awardId ▸ List.mem_map_of_mem hcommitted
  refine ⟨op, hop, (h.consistent.noted _).mpr ⟨i, hcommitted, op, hop, rfl⟩, ?_⟩
  have haward : op.awardId ∈ st.db.1.states.map (·.awardId) := by
    rw [h.consistent.awards]
    exact hop.accepted.mem_ids
  obtain ⟨r, hr, hid⟩ := List.mem_map.mp haward
  have hstate := h.consistent.states r hr
  rw [hid, Tables.stateOf, if_pos hmoved] at hstate
  rw [← hid, state?_of_mem st.db.2 hr, hstate]

/-- An intent without a receipt has no note. -/
lemma Invariant.unnoted {s : ReviewStore} {st : StoreState} (h : Invariant s st) {o : String}
    (hrow : ∀ i, st.row o = some i → i.receiptJson = none) :
    ∀ n ∈ st.db.1.notes, n.operationId ≠ o := by
  rintro n hn rfl
  obtain ⟨i, hi, op, -, rfl⟩ := (h.consistent.noted n).mp hn
  obtain ⟨hmem, raw, hraw⟩ := Tables.mem_committed.mp hi
  have hnone := hrow i (intent?_of_mem st.db.2 hmem)
  cases hnone.symm.trans hraw

/-- What a gateway that is not stopped answers is so: of the custody, of the transaction and of
the authority. -/
theorem gateway_reports_truthfully (g : WriteGateway) (rules : TextRules Model)
    (as : List GatewayInput) (h : Fresh as) :
    ∀ e ∈ (g.machine rules).trace g.initial as, ∀ w request tool query x,
      e.input = .call w request tool query → e.output = some (.ok x) →
      e.before.blocked = false →
      ∃ v, Leaves g w e.before e.after v ∧ v.response = x ∧
        Truthful g w request tool query e.before.issuance v ∧
        (x.transactionOutcome = .committed → ∃ i op,
          e.after.store.row w.observationId = some i ∧ Records g.store i op ∧
          noteRow w.observationId op ∈ e.after.store.db.1.notes ∧
          e.after.store.db.1.state? op.awardId = some ⟨op.awardId, .pendingReview, 1⟩) ∧
        (x.adapterEntries = 0 →
          ∀ n ∈ e.after.store.db.1.notes, n.operationId ≠ w.observationId) := by
  intro e he w request tool query x hinput houtput hfree
  obtain ⟨pre, post, rfl, hstage⟩ := (g.machine rules).exists_of_mem_trace he
  rw [hinput] at h hstage
  subst hstage
  have hreached := reached_run g rules h.left
  obtain ⟨hrow, hcalls⟩ := hreached.spared _ h.spares
  have hw := h.apart w request tool query (List.mem_append_right _ List.mem_cons_self)
  obtain ⟨v, hleaves, -, hresponse⟩ := call_leaves rules request tool query hw
    hreached.issuance hrow hcalls hfree
  obtain ⟨rfl, htruthful⟩ := hresponse x (Option.some.inj houtput)
  have hinv : Invariant g.store
      (g.call rules w ((g.machine rules).run g.initial pre) request tool query).2.store := by
    obtain ⟨bs, -, hrun⟩ := hleaves.store
    rw [← hrun]
    exact invariant_preserved.run hreached.invariant bs
  refine ⟨v, hleaves, rfl, htruthful, fun hcommitted => ?_, fun hzero => ?_⟩
  · obtain ⟨i, hi, hreceipt⟩ := htruthful.committed hcommitted
    obtain ⟨op, hop, hnote, hstate⟩ := hinv.durable (hleaves.row.trans hi) hreceipt
    exact ⟨i, op, hleaves.row.trans hi, hop, hnote, hstate⟩
  · refine hinv.unnoted fun i hi => ?_
    exact ((htruthful.idle hzero).row i (hleaves.row.symm.trans hi)).2

/-! ### A gateway whose host approved two writes -/

/-- Forty awards with names the queries accept. -/
def approvedStore : ReviewStore where
  storeId := "review-store"
  ids := (List.range 40).map fun n => "SYN-" ++ String.ofList (List.replicate (n + 1) 'A')
  storeId_valid := sampleStore.storeId_valid
  ids_length := by simp
  ids_nodup := by
    refine List.Nodup.map (fun m n h => ?_) List.nodup_range
    simpa using congrArg String.length h

def firstQuery : WriteQueryV1 where
  awardId := ⟨"SYN-A", by decide⟩
  expectedVersion := ⟨0, zero_le_version⟩
  proposedStatus := ⟨"PENDING_REVIEW", by decide⟩
  reviewerNote := ⟨"Check the obligation.", by decide⟩
  idempotencyKey := ⟨"key-1", by decide⟩

def secondQuery : WriteQueryV1 where
  awardId := ⟨"SYN-AA", by decide⟩
  expectedVersion := ⟨0, zero_le_version⟩
  proposedStatus := ⟨"PENDING_REVIEW", by decide⟩
  reviewerNote := ⟨"Check the obligation.", by decide⟩
  idempotencyKey := ⟨"key-2", by decide⟩

/-- An approval of a write. -/
def approvalOf (q : WriteQueryV1) (reference : String) : HostApproval where
  originalRequest := "Mark the award."
  tool := Tool.write.text
  argumentsJson := (Query.write q).text
  ownerId := "owner-1"
  storeId := "review-store"
  reference
  approved := true
  datasetSha256 := datasetSha256

def sampleApprovals : List HostApproval :=
  [approvalOf firstQuery "ref-1", approvalOf secondQuery "ref-2"]

lemma sampleApprovals_valid : ∀ x ∈ sampleApprovals, x.check = .ok () := by
  refine List.forall_mem_cons.mpr ⟨?_, List.forall_mem_singleton.mpr ?_⟩
  · exact check_eq_ok (q := .write firstQuery) (by decide) (by decide) (by decide) (by decide)
      rfl rfl rfl (by decide +kernel)
  · exact check_eq_ok (q := .write secondQuery) (by decide) (by decide) (by decide) (by decide)
      rfl rfl rfl (by decide +kernel)

def approvedGateway : WriteGateway where
  store := approvedStore
  authority :=
    { owner := "owner-1", store := "review-store", approvals := sampleApprovals
      schemas := fun _ => digest (.dict []), maxAge := .int 30, approvals_length := by decide
      approvals_valid := sampleApprovals_valid
      approvals_owned := by simp [sampleApprovals, approvalOf]
      references_nodup := by decide, maxAge_pos := by decide }
  runId := "run-1"
  store_owned := rfl

/-- The world as the authority noted it. -/
def notedWorld : WriteWorld where
  jsonSchema _ := .ok (.dict [])
  approval i := sampleApprovals[i]?.elim (.error .keyError) .ok

/-- A world in which nothing fails and nobody else acts. -/
def GatewayWorld.quiet (uuid : String) : GatewayWorld where
  uuid
  printed := .ok ()
  awardText := .ok ""
  auditFails _ := false
  evaluation := notedWorld
  evaluationClock := .number (.int 0)
  consumption := notedWorld
  consumptionClock := .number (.int 1)
  store _ := .calm
  others _ := []
  className := "OSError"

/-- Rules that find nothing. -/
def silentRules : TextRules Unit := ⟨fun _ _ => false, fun _ => [], fun _ _ _ _ => []⟩

lemma calm_quiet (uuid : String) : (GatewayWorld.quiet uuid).Calm approvedGateway := by
  have hnoted : notedWorld.Faithful approvedGateway.authority :=
    { schema := fun _ => rfl
      approval := fun i x hx => by
        have hx' : sampleApprovals[i]? = some x := hx
        simp [notedWorld, hx'] }
  exact ⟨fun _ => rfl, fun _ => rfl, fun _ => rfl, hnoted, hnoted⟩

/-- The write of a query. -/
def writeCall (uuid : String) (q : WriteQueryV1) : GatewayInput :=
  .call (.quiet uuid) "Mark the award." Tool.write.text (Arguments.ofJson (Query.write q).toJson)

lemma welcome_quiet {uuid : String} {q : WriteQueryV1} {s : Issuance}
    (hid : isStoreId ("WRITE01_OBS_" ++ uuid) = true)
    (htext : isText ("WRITE01_OBS_" ++ uuid) 200 = true)
    (hunused : "WRITE01_OBS_" ++ uuid ∉ s.requestIds)
    (hcapacity : s.requestIds.length < maxApprovals) (hversion : q.expectedVersion = ⟨0, by decide⟩)
    (hstatus : q.proposedStatus.1 = "PENDING_REVIEW")
    (happroval : ∃ place x, Approves approvedGateway.authority s "Mark the award." (.write q)
      place x) :
    Welcome approvedGateway silentRules (.quiet uuid) s "Mark the award." q where
  observationId_text := htext
  observationId := hid
  request_text := by decide
  request_clean := rfl
  expectedVersion := hversion
  proposedStatus := hstatus
  unused := hunused
  capacity := hcapacity
  approval := happroval
  clocks := by
    have hnow : now (.number (.int 1)) = .ok (.int 1) := by decide +kernel
    exact ⟨.int 0, .int 30, .int 1, rfl, by decide +kernel, hnow, by decide, by decide⟩

/-- The first write goes through. -/
lemma first_written : ∃ x st,
    approvedGateway.call silentRules (.quiet "1") approvedGateway.initial "Mark the award."
      Tool.write.text (Arguments.ofJson (Query.write firstQuery).toJson) = (.ok x, st) ∧
    st.blocked = false ∧
    Wrote approvedGateway (.quiet "1") "Mark the award." firstQuery
      approvedGateway.initial.store.db.1 .initial st.store.db.1 st.issuance x := by
  have happroval : ∃ place x, Approves approvedGateway.authority .initial "Mark the award."
      (.write firstQuery) place x :=
    ⟨0, approvalOf firstQuery "ref-1", rfl, rfl, List.not_mem_nil, rfl, rfl, rfl⟩
  have hwelcome : Welcome approvedGateway silentRules (.quiet "1") .initial "Mark the award."
      firstQuery :=
    welcome_quiet (by decide) (by decide) List.not_mem_nil (by decide) rfl rfl happroval
  have hadmits : Admits approvedGateway.initial.store.db.1 firstQuery :=
    ⟨List.not_mem_nil, List.forall_mem_nil _, by decide⟩
  exact call_writes (calm_quiet "1") hwelcome Issuance.inv_initial invariant_initial hadmits
    List.not_mem_nil rfl

/-- The approval of the first write is not the one of the second. -/
lemma place_of_first {s : Issuance} {gr : Grant}
    (hgr : Granted approvedGateway.authority (GatewayWorld.quiet "1").evaluation s
      ((GatewayWorld.quiet "1").evaluateWrite "Mark the award." firstQuery) gr) :
    gr.place ≠ 1 := by
  intro hplace
  obtain ⟨x, hx, -, -, -, harguments, -⟩ := hgr.approval
  rw [hplace] at hx
  obtain rfl : approvalOf secondQuery "ref-2" = x := Option.some.inj hx
  have htext : (Query.write secondQuery).text = (Query.write firstQuery).text :=
    harguments.trans (argumentsJson_of_granted hgr)
  have hquery : Query.write secondQuery = .write firstQuery := Query.text_injective htext
  exact absurd hquery (by decide)

/-- After the first write the second goes through. -/
lemma second_written {st : GatewayState} {x : WriteResponseV1}
    (h : Wrote approvedGateway (.quiet "1") "Mark the award." firstQuery
      approvedGateway.initial.store.db.1 .initial st.store.db.1 st.issuance x)
    (hinv : Invariant approvedGateway.store st.store) (hs : st.issuance.Inv)
    (hfree : st.blocked = false) : ∃ x' st',
      approvedGateway.call silentRules (.quiet "2") st "Mark the award." Tool.write.text
        (Arguments.ofJson (Query.write secondQuery).toJson) = (.ok x', st') ∧
      st'.blocked = false ∧
      Wrote approvedGateway (.quiet "2") "Mark the award." secondQuery st.store.db.1 st.issuance
        st'.store.db.1 st'.issuance x' := by
  obtain ⟨op, b, haward, hkey, hstore⟩ := h.store
  obtain ⟨gr, hgr, hissuance⟩ := h.issuance
  have hrequest : gr.retained.envelope.binding.requestId = "WRITE01_OBS_1" :=
    (Option.some.inj hgr.requestId).symm
  have hids : st.issuance.requestIds = ["WRITE01_OBS_1"] := by
    rw [hissuance, Issuance.drop, Issuance.grant, hrequest]
    rfl
  have hspent : st.issuance.spent = [gr.place] := by
    rw [hissuance]
    rfl
  have happroval : ∃ place x, Approves approvedGateway.authority st.issuance "Mark the award."
      (.write secondQuery) place x := by
    refine ⟨1, approvalOf secondQuery "ref-2", rfl, rfl, ?_, rfl, rfl, rfl⟩
    rw [hspent, List.mem_singleton]
    exact (place_of_first hgr).symm
  have hwelcome : Welcome approvedGateway silentRules (.quiet "2") st.issuance "Mark the award."
      secondQuery := by
    refine welcome_quiet (by decide) (by decide) ?_ ?_ rfl rfl happroval
    · rw [hids]
      decide
    · rw [hids]
      decide
  have hadmits : Admits st.store.db.1 secondQuery := by
    have hinitial : Admits approvedGateway.initial.store.db.1 secondQuery :=
      ⟨List.not_mem_nil, List.forall_mem_nil _, by decide⟩
    rw [hstore]
    refine hinitial.written ?_ ?_
    · rw [haward]
      decide
    · rw [hkey]
      decide
  have hnew : (GatewayWorld.quiet "2").observationId ∉
      st.store.db.1.intents.map (·.operationId) := by
    rw [hstore, operationIds_written]
    decide
  exact call_writes (calm_quiet "2") hwelcome hs hinv hadmits hnew hfree

lemma fresh_quiet :
    Fresh [writeCall "1" firstQuery, writeCall "2" secondQuery] where
  apart w request tool query hmem := by
    rcases List.mem_cons.mp hmem with heq | hmem
    · cases heq
      exact fun _ => List.forall_mem_nil _
    · cases List.mem_singleton.mp hmem
      exact fun _ => List.forall_mem_nil _
  spared := by
    refine List.pairwise_pair.mpr fun o ho => ?_
    obtain rfl := Option.some.inj ho
    exact ⟨by decide, fun _ => List.forall_mem_nil _⟩

/-- The first write is answered as committed and closed, and the store has its note. -/
theorem gateway_reports_truthfully_approved : ∃ x st v i op,
    approvedGateway.call silentRules (.quiet "1") approvedGateway.initial "Mark the award."
      Tool.write.text (Arguments.ofJson (Query.write firstQuery).toJson) = (.ok x, st) ∧
    x.adapterEntries = 1 ∧ x.transactionOutcome = .committed ∧ x.custody = .closed ∧
    Leaves approvedGateway (.quiet "1") approvedGateway.initial st v ∧ v.response = x ∧
    Truthful approvedGateway (.quiet "1") "Mark the award." Tool.write.text
      (Arguments.ofJson (Query.write firstQuery).toJson) .initial v ∧
    st.store.row (GatewayWorld.quiet "1").observationId = some i ∧
    Records approvedGateway.store i op ∧
    noteRow (GatewayWorld.quiet "1").observationId op ∈ st.store.db.1.notes ∧
    st.store.db.1.state? op.awardId = some ⟨op.awardId, .pendingReview, 1⟩ := by
  obtain ⟨x, st, hcall, -, hwrote⟩ := first_written
  have hstage : (approvedGateway.machine silentRules).stage approvedGateway.initial
      (writeCall "1" firstQuery) =
        ⟨approvedGateway.initial, writeCall "1" firstQuery, some (.ok x), st⟩ :=
    stage_call hcall
  have hmem : (⟨approvedGateway.initial, writeCall "1" firstQuery, some (.ok x), st⟩ :
      Stage GatewayState GatewayInput GatewayOutput) ∈
      (approvedGateway.machine silentRules).trace approvedGateway.initial
        [writeCall "1" firstQuery, writeCall "2" secondQuery] := by
    rw [Machine.trace_cons, hstage]
    exact List.mem_cons_self
  obtain ⟨v, hleaves, hresponse, htruthful, hcommitted, -⟩ := gateway_reports_truthfully
    approvedGateway silentRules [writeCall "1" firstQuery, writeCall "2" secondQuery] fresh_quiet
    _ hmem (.quiet "1") "Mark the award." Tool.write.text
    (Arguments.ofJson (Query.write firstQuery).toJson) x rfl rfl rfl
  obtain ⟨i, op, hrow, hrecords, hnote, hstate⟩ := hcommitted hwrote.transactionOutcome
  exact ⟨x, st, v, i, op, hcall, hwrote.entered, hwrote.transactionOutcome, hwrote.custody,
    hleaves, hresponse, htruthful, hrow, hrecords, hnote, hstate⟩

/-! ### Later calls -/

lemma blocked_preserved (g : WriteGateway) (rules : TextRules Model) :
    (g.machine rules).Preserved fun st => st.blocked = true := by
  intro st a h
  cases a with
  | call w request tool query =>
      show (g.call rules w st request tool query).2.blocked = true
      rw [call_blocked h]
      exact h
  | other b => exact h

/-- A response says of the custody whether the gateway is stopped. -/
lemma blocked_of_output {as : List GatewayInput} (h : Fresh as)
    {e : Stage GatewayState GatewayInput GatewayOutput}
    (he : e ∈ (g.machine rules).trace g.initial as) {x : WriteResponseV1}
    (houtput : e.output = some (.ok x)) :
    e.after.blocked = true ↔ x.custody = .open ∨ x.custody = .unknown := by
  obtain ⟨pre, post, rfl, hstage⟩ := (g.machine rules).exists_of_mem_trace he
  rcases hinput : e.input with ⟨w, request, tool, query⟩ | b
  · rw [hinput] at h hstage
    subst hstage
    have hreached := reached_run g rules h.left
    obtain ⟨hrow, hcalls⟩ := hreached.spared _ h.spares
    have hw := h.apart w request tool query (List.mem_append_right _ List.mem_cons_self)
    have hcall : (g.call rules w ((g.machine rules).run g.initial pre) request tool query).1 =
        .ok x := Option.some.inj houtput
    show (g.call rules w ((g.machine rules).run g.initial pre) request tool query).2.blocked =
      true ↔ _
    generalize (g.machine rules).run g.initial pre = st at *
    cases hfree : st.blocked with
    | true =>
        rw [call_blocked hfree] at hcall ⊢
        obtain rfl := Except.ok.inj hcall
        exact ⟨fun _ => .inr rfl, fun _ => hfree⟩
    | false =>
        obtain ⟨v, hleaves, -, hresponse⟩ := call_leaves rules request tool query hw
          hreached.issuance hrow hcalls hfree
        obtain ⟨rfl, htruthful⟩ := hresponse x hcall
        rw [hleaves.blocked]
        exact htruthful.blocked
  · rw [hinput] at hstage
    subst hstage
    cases houtput

/-- After a response that leaves the custody open or unknown, every later call is refused and
does nothing. -/
theorem gateway_stops (g : WriteGateway) (rules : TextRules Model) (as : List GatewayInput)
    (h : Fresh as) :
    ∀ xs d ys e zs, (g.machine rules).trace g.initial as = xs ++ d :: ys ++ e :: zs →
      ∀ x, d.output = some (.ok x) → (x.custody = .open ∨ x.custody = .unknown) →
      ∀ w request tool query, e.input = .call w request tool query →
        e.after = e.before ∧ e.output = some (.ok
          { WriteResponseV1.initial w.observationId tool request with
            reasons := ["OWNER_STOPPED_NO_AUTOMATIC_RECOVERY"], custody := .unknown }) := by
  intro xs d ys e zs hsplit x houtput hcustody w request tool query hinput
  have hd : d ∈ (g.machine rules).trace g.initial as := by
    rw [hsplit]
    simp
  have he : e ∈ (g.machine rules).trace g.initial as := by
    rw [hsplit]
    simp
  have hblocked : e.before.blocked = true := by
    rw [(g.machine rules).before_later hsplit]
    exact (blocked_preserved g rules).run ((blocked_of_output h hd houtput).mpr hcustody) _
  have hstep := (g.machine rules).step_of_mem_trace he
  rw [hinput] at hstep
  simp only [WriteGateway.machine, call_blocked hblocked] at hstep
  obtain ⟨hafter, hanswer⟩ := Prod.mk.inj hstep
  exact ⟨hafter.symm, hanswer.symm⟩

/-! ### A gateway without an audit -/

/-- A gateway whose host approved nothing. -/
def sampleGateway : WriteGateway where
  store := sampleStore
  authority :=
    { owner := "owner-1", store := "review-store", approvals := [], schemas := fun _ => ""
      maxAge := .int 30, approvals_length := by decide, approvals_valid := by simp
      approvals_owned := by simp, references_nodup := List.nodup_nil, maxAge_pos := by decide }
  runId := "run-1"
  store_owned := rfl

/-- A world in which no stage of the audit can be written. -/
def GatewayWorld.unaudited (uuid : String) : GatewayWorld where
  uuid
  printed := .ok ()
  awardText := .ok ""
  auditFails _ := true
  evaluation := ⟨fun _ => .error .valueError, fun _ => .error .valueError⟩
  evaluationClock := .notFinite
  consumption := ⟨fun _ => .error .valueError, fun _ => .error .valueError⟩
  consumptionClock := .notFinite
  store _ := .calm
  others _ := []
  className := "OSError"

/-- A call in that world. -/
def unauditedCall (uuid : String) : GatewayInput :=
  .call (.unaudited uuid) "Read the award." Tool.read.text (.dict [])

lemma fresh_unaudited : Fresh [unauditedCall "0", unauditedCall "1"] where
  apart w request tool query hmem := by
    rcases List.mem_cons.mp hmem with heq | hmem
    · cases heq
      exact fun _ => List.forall_mem_nil _
    · cases List.mem_singleton.mp hmem
      exact fun _ => List.forall_mem_nil _
  spared := by
    refine List.pairwise_pair.mpr fun o ho => ?_
    obtain rfl := Option.some.inj ho
    exact ⟨by decide, fun _ => List.forall_mem_nil _⟩

/-- After the call that could not be written the next one is refused. -/
theorem gateway_stops_unaudited :
    (sampleGateway.machine silentRules).next
        ((sampleGateway.machine silentRules).next sampleGateway.initial (unauditedCall "0"))
        (unauditedCall "1") =
      (sampleGateway.machine silentRules).next sampleGateway.initial (unauditedCall "0") :=
  (gateway_stops sampleGateway silentRules [unauditedCall "0", unauditedCall "1"] fresh_unaudited
    [] _ [] _ [] rfl _ rfl (.inr rfl) _ _ _ _ rfl).1

lemma Spends.le {w : GatewayWorld} {request tool : String} {query : Arguments} {s t : Issuance}
    (h : Spends g w request tool query s t) : s.Le t := by
  cases h with
  | kept => exact .refl s
  | granted hgr => exact s.le_grant _
  | consumed hgr => exact (s.le_grant _).trans ⟨List.prefix_rfl, List.prefix_rfl, le_rfl⟩

/-- What the authority did is never undone. -/
lemma issuance_le (g : WriteGateway) (rules : TextRules Model) {as bs : List GatewayInput}
    (h : Fresh (as ++ bs)) :
    ((g.machine rules).run g.initial as).issuance.Le
      ((g.machine rules).run g.initial (as ++ bs)).issuance := by
  induction bs using List.reverseRecOn with
  | nil =>
      rw [List.append_nil]
      exact .refl _
  | append_singleton bs a ih =>
      rw [← List.append_assoc] at h ⊢
      refine (ih h.left).trans ?_
      rw [Machine.run_concat]
      have hreached := reached_run g rules h.left
      generalize (g.machine rules).run g.initial (as ++ bs) = st at hreached
      cases a with
      | other b => exact .refl _
      | call w request tool query =>
          show st.issuance.Le (g.call rules w st request tool query).2.issuance
          cases hfree : st.blocked with
          | true =>
              rw [call_blocked hfree]
              exact .refl _
          | false =>
              obtain ⟨hrow, hcalls⟩ := hreached.spared _ h.spares
              have hw := h.apart w request tool query (List.mem_append_right _ List.mem_cons_self)
              obtain ⟨v, hleaves, hspends, -⟩ := call_leaves rules request tool query hw
                hreached.issuance hrow hcalls hfree
              rw [hleaves.issuance]
              exact hspends.le

/-- A call that entered the adapter was authorized by a grant of its own. -/
lemma authorized_of_entered {as : List GatewayInput} (h : Fresh as)
    {e : Stage GatewayState GatewayInput GatewayOutput}
    (he : e ∈ (g.machine rules).trace g.initial as) {w : GatewayWorld} {request tool : String}
    {query : Arguments} {x : WriteResponseV1} (hinput : e.input = .call w request tool query)
    (houtput : e.output = some (.ok x)) (hentered : x.adapterEntries ≠ 0) :
    ∃ gr, Authorized g w request tool query e.before.issuance gr x e.after.issuance := by
  obtain ⟨pre, post, rfl, hstage⟩ := (g.machine rules).exists_of_mem_trace he
  rw [hinput] at h hstage
  subst hstage
  have hreached := reached_run g rules h.left
  obtain ⟨hrow, hcalls⟩ := hreached.spared _ h.spares
  have hw := h.apart w request tool query (List.mem_append_right _ List.mem_cons_self)
  have hcall : (g.call rules w ((g.machine rules).run g.initial pre) request tool query).1 =
      .ok x := Option.some.inj houtput
  show ∃ gr, Authorized g w request tool query ((g.machine rules).run g.initial pre).issuance gr x
    (g.call rules w ((g.machine rules).run g.initial pre) request tool query).2.issuance
  generalize (g.machine rules).run g.initial pre = st at *
  cases hfree : st.blocked with
  | true =>
      rw [call_blocked hfree] at hcall
      obtain rfl := Except.ok.inj hcall
      exact absurd rfl hentered
  | false =>
      obtain ⟨v, hleaves, -, hresponse⟩ := call_leaves rules request tool query hw
        hreached.issuance hrow hcalls hfree
      obtain ⟨rfl, htruthful⟩ := hresponse x hcall
      obtain ⟨gr, hauth, -⟩ := (htruthful.entered hentered).entered
      exact ⟨gr, hleaves.issuance ▸ hauth⟩

lemma pairwise_of_split {α : Type} {R : α → α → Prop} {as : List α}
    (h : ∀ xs d ys e zs, as = xs ++ d :: ys ++ e :: zs → R d e) : as.Pairwise R := by
  induction as with
  | nil => exact .nil
  | cons a as ih =>
      refine List.pairwise_cons.mpr ⟨fun e he => ?_, ih fun xs d ys e zs hsplit => ?_⟩
      · obtain ⟨ys, zs, rfl⟩ := List.append_of_mem he
        exact h [] a ys e zs rfl
      · exact h (a :: xs) d ys e zs (by rw [hsplit]; rfl)

/-- Calls that entered the adapter were authorized by different approvals, and no envelope was
consumed twice. -/
theorem gateway_approvals_once (g : WriteGateway) (rules : TextRules Model)
    (as : List GatewayInput) (h : Fresh as) :
    ((g.machine rules).trace g.initial as).Pairwise fun d e =>
      ∀ w request tool query x w' request' tool' query' x',
      d.input = .call w request tool query → d.output = some (.ok x) → x.adapterEntries ≠ 0 →
      e.input = .call w' request' tool' query' → e.output = some (.ok x') →
      x'.adapterEntries ≠ 0 →
      ∃ gr gr', Authorized g w request tool query d.before.issuance gr x d.after.issuance ∧
        Authorized g w' request' tool' query' e.before.issuance gr' x' e.after.issuance ∧
        gr.Distinct gr' := by
  refine pairwise_of_split ?_
  intro xs d ys e zs hsplit w request tool query x w' request' tool' query' x' hd hdx hdentered he
    hex heentered
  have hdmem : d ∈ (g.machine rules).trace g.initial as := by
    rw [hsplit]
    simp
  have hemem : e ∈ (g.machine rules).trace g.initial as := by
    rw [hsplit]
    simp
  obtain ⟨gr, hauth⟩ := authorized_of_entered h hdmem hd hdx hdentered
  obtain ⟨gr', hauth'⟩ := authorized_of_entered h hemem he hex heentered
  -- from the end of the first call to the start of the second
  have hlater : d.after.issuance.Le e.before.issuance := by
    obtain ⟨hbefore, hprefix, -, -⟩ := (g.machine rules).trace_split hsplit
    obtain ⟨pre, post, hpre, -, hstage, hpost⟩ := (g.machine rules).trace_eq_append hprefix
    have hrun : d.after = (g.machine rules).run g.initial (pre ++ [d.input]) := by
      rw [Machine.run_concat, hstage]
      rfl
    have hfresh : Fresh (pre ++ [d.input] ++ post) := by
      obtain ⟨pre', post', hpre', hxs, -, -⟩ := (g.machine rules).trace_eq_append hsplit
      have hinputs : (xs ++ d :: ys).map Stage.input = pre' := by
        rw [← hxs, Machine.map_input_trace]
      rw [hpre', ← hinputs, hpre] at h
      simpa using h.left
    rw [hbefore, hpre, hrun]
    simpa using issuance_le g rules hfresh
  refine ⟨gr, gr', hauth, hauth', ?_⟩
  obtain ⟨facts, hgr⟩ := hauth.granted
  obtain ⟨facts', hgr'⟩ := hauth'.granted
  have hle : (d.before.issuance.grant gr).Le e.before.issuance := by
    rw [hauth.issuance] at hlater
    exact ⟨hlater.spent, hlater.requestIds, hlater.created⟩
  exact distinct_of_later
    (d := ⟨_, .approvalReference 0, .reference (.ok ""), d.before.issuance.grant gr⟩)
    (e := ⟨_, .approvalReference 0, .reference (.ok ""), e.before.issuance⟩) hgr hgr' rfl hle

/-- Both writes entered the adapter, and each by an approval of its own. -/
theorem gateway_approvals_once_approved : ∃ x st x' st' gr gr',
    approvedGateway.call silentRules (.quiet "1") approvedGateway.initial "Mark the award."
      Tool.write.text (Arguments.ofJson (Query.write firstQuery).toJson) = (.ok x, st) ∧
    approvedGateway.call silentRules (.quiet "2") st "Mark the award." Tool.write.text
      (Arguments.ofJson (Query.write secondQuery).toJson) = (.ok x', st') ∧
    x.adapterEntries = 1 ∧ x'.adapterEntries = 1 ∧
    Authorized approvedGateway (.quiet "1") "Mark the award." Tool.write.text
      (Arguments.ofJson (Query.write firstQuery).toJson) .initial gr x st.issuance ∧
    Authorized approvedGateway (.quiet "2") "Mark the award." Tool.write.text
      (Arguments.ofJson (Query.write secondQuery).toJson) st.issuance gr' x' st'.issuance ∧
    gr.Distinct gr' := by
  obtain ⟨x, st, hcall, hfree, hwrote⟩ := first_written
  have hstage : (approvedGateway.machine silentRules).stage approvedGateway.initial
      (writeCall "1" firstQuery) =
        ⟨approvedGateway.initial, writeCall "1" firstQuery, some (.ok x), st⟩ :=
    stage_call hcall
  have hnext : (approvedGateway.machine silentRules).next approvedGateway.initial
      (writeCall "1" firstQuery) = st := (Stage.mk.inj hstage).2.2.2
  have hfresh : Fresh ([writeCall "1" firstQuery] ++ [writeCall "2" secondQuery]) := fresh_quiet
  have hreached : Reached approvedGateway [writeCall "1" firstQuery] st := by
    rw [← hnext]
    exact reached_run approvedGateway silentRules hfresh.left
  obtain ⟨x', st', hcall', -, hwrote'⟩ :=
    second_written hwrote hreached.invariant hreached.issuance hfree
  have hstage' : (approvedGateway.machine silentRules).stage st (writeCall "2" secondQuery) =
      ⟨st, writeCall "2" secondQuery, some (.ok x'), st'⟩ := stage_call hcall'
  have hpairwise := gateway_approvals_once approvedGateway silentRules
    [writeCall "1" firstQuery, writeCall "2" secondQuery] fresh_quiet
  rw [Machine.trace_cons, Machine.trace_cons, Machine.trace_nil, hnext, hstage, hstage']
    at hpairwise
  obtain ⟨gr, gr', hauth, hauth', hdistinct⟩ := List.pairwise_pair.mp hpairwise _ _ _ _ x _ _ _ _
    x' rfl rfl (hwrote.entered ▸ one_ne_zero) rfl rfl (hwrote'.entered ▸ one_ne_zero)
  exact ⟨x, st, x', st', gr, gr', hcall, hcall', hwrote.entered, hwrote'.entered, hauth, hauth',
    hdistinct⟩

end CivicGate.Write01
