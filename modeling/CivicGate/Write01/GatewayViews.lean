import CivicGate.Write01.AuthoritySafety
import CivicGate.Write01.Gateway
import CivicGate.Write01.StoreProgress

/-!
# What a call of the gateway sees of its operation

A call names its operation by its own observation id, and other processes never act for it.  So
between its visits to the store the intent of the operation and the calls of `commit` for it
stay as they are (`foreign_run`), and each visit takes them one step on (`Leads.reserve`,
`Leads.attempt`, `Leads.mutate`, `Leads.acknowledge`).

The triples are over a `View`: the intent, the calls of `commit`, the call's own transactions,
and what changes in the gateway.  `At` says that a state has this view and that its store was
reached by this call and by others.
-/

namespace CivicGate.Write01

variable {s : ReviewStore} {o : String}

/-! ## Other operations -/

/-- The operation a transaction is of. -/
def StoreInput.operationId : StoreInput → String
  | .reserve _ id _ _ | .attempt _ id _ | .mutate _ id | .acknowledge _ id _ => id

/-- The intent of an operation. -/
def StoreState.row (st : StoreState) (o : String) : Option IntentRow := st.db.1.intent? o

/-- The calls of `commit` for an operation, between their transactions. -/
def StoreState.calls (st : StoreState) (o : String) : List PendingCommit :=
  st.pending.filter (·.operationId = o)

lemma intent?_insertIntent {t : Tables} {row : IntentRow} (h : row.operationId ≠ o) :
    (t.insertIntent row).intent? o = t.intent? o := Table.get?_concat_of_ne h

lemma intent?_update {t : Tables} {id : String} {f : IntentRow → IntentRow} (h : id ≠ o)
    (hf : ∀ r, (f r).operationId = r.operationId) :
    Tables.intent? { t with intents := Table.update (·.operationId) id f t.intents } o =
      t.intent? o := Table.get?_update_of_ne h.symm hf

lemma intent?_update_self {t : Tables} {f : IntentRow → IntentRow}
    (hf : ∀ r, (f r).operationId = r.operationId) :
    Tables.intent? { t with intents := Table.update (·.operationId) o f t.intents } o =
      (t.intent? o).map f := Table.get?_update_self hf

lemma intent?_startAttempt {t : Tables} :
    (t.startAttempt o).intent? o =
      (t.intent? o).map fun r => { r with attemptStarted := true } := by
  refine intent?_update_self ?_
  exact fun _ => rfl

lemma intent?_recordReceipt {t : Tables} {raw : String} :
    (t.recordReceipt o raw).intent? o = (t.intent? o).map fun r =>
      { r with receiptJson := some raw, receiptSha256 := some (sha256Hex raw) } := by
  refine intent?_update_self ?_
  exact fun _ => rfl

lemma intent?_closeCustody {t : Tables} :
    (t.closeCustody o).intent? o = (t.intent? o).map fun r => { r with custody := .closed } := by
  refine intent?_update_self ?_
  exact fun _ => rfl

/-- A transaction of another operation leaves this one. -/
lemma foreign_step (st : StoreState) {a : StoreInput} (ha : a.operationId ≠ o) :
    ((store s).next st a).row o = st.row o ∧ ((store s).next st a).calls o = st.calls o := by
  cases a with
  | reserve w id x b =>
      have hne : id ≠ o := ha
      simp only [Machine.next, store, StoreState.row, StoreState.calls]
      rcases hresult : s.reserve w id x b st.db with ⟨r, t⟩
      rcases reserve_cases hresult with ⟨hdb, -⟩ | ⟨op, -, -, -, hdb, -⟩
      · exact ⟨by rw [hdb], trivial⟩
      · refine ⟨?_, trivial⟩
        rw [hdb]
        exact intent?_insertIntent hne
  | attempt w id b =>
      have hne : id ≠ o := ha
      simp only [Machine.next, store, StoreState.row, StoreState.calls]
      rcases hresult : s.attempt w id b st.db with ⟨e | p', t⟩ <;>
        rcases attempt_cases hresult with ⟨hdb, e', he⟩ | ⟨p, rfl, -, -, hdb, hr⟩
      · exact ⟨by rw [hdb], rfl⟩
      · refine ⟨?_, rfl⟩
        rw [hdb]
        exact intent?_update hne fun _ => rfl
      · cases he
      · obtain rfl := hr p' rfl
        refine ⟨?_, List.filter_cons_of_neg (by simpa using hne)⟩
        rw [hdb]
        exact intent?_update hne fun _ => rfl
  | mutate w id =>
      simp only [Machine.next, store, StoreState.row, StoreState.calls]
      split
      · exact ⟨rfl, rfl⟩
      · rename_i p hp
        obtain rfl := Table.key_of_get? hp
        have hne : p.operationId ≠ o := ha
        rcases hresult : s.mutate w p st.db with ⟨r, t⟩
        have hcalls : (st.pending.filter (·.operationId ≠ p.operationId)).filter
            (·.operationId = o) = st.pending.filter (·.operationId = o) := by
          rw [List.filter_filter]
          refine List.filter_congr fun q _ => ?_
          by_cases hq : q.operationId = o
          · simp [hq, hne.symm]
          · simp [hq]
        rcases mutate_cases hresult with ⟨hdb, -⟩ | ⟨op, -, hdb, -⟩
        · exact ⟨by rw [hdb], hcalls⟩
        · refine ⟨?_, hcalls⟩
          rw [hdb]
          exact intent?_update hne fun _ => rfl
  | acknowledge w id sha =>
      have hne : id ≠ o := ha
      simp only [Machine.next, store, StoreState.row, StoreState.calls]
      rcases hresult : s.acknowledge w id sha st.db with ⟨r, t⟩
      rcases acknowledge_cases hresult with ⟨hdb, -⟩ | ⟨-, hdb, -⟩
      · exact ⟨by rw [hdb], trivial⟩
      · refine ⟨?_, trivial⟩
        rw [hdb]
        exact intent?_update hne fun _ => rfl

/-- What others do leaves this operation. -/
lemma foreign_run {as : List StoreInput} (has : ∀ a ∈ as, a.operationId ≠ o) (st : StoreState) :
    ((store s).run st as).row o = st.row o ∧ ((store s).run st as).calls o = st.calls o := by
  induction as generalizing st with
  | nil => exact ⟨rfl, rfl⟩
  | cons a as ih =>
      obtain ⟨ha, has⟩ := List.forall_mem_cons.mp has
      obtain ⟨hrow, hcalls⟩ := foreign_step (s := s) st ha
      obtain ⟨hrow', hcalls'⟩ := ih has ((store s).next st a)
      rw [Machine.run_cons]
      exact ⟨hrow'.trans hrow, hcalls'.trans hcalls⟩

/-- The call of `commit` that goes on for an operation is the first of its calls. -/
lemma get?_pending {st : StoreState} {p : PendingCommit} (h : st.calls o = [p]) :
    Table.get? (·.operationId) o st.pending = some p := by
  rw [Table.get?, ← List.head?_filter]
  exact congrArg List.head? h

/-! ## Views -/

/-- What a call knows of its operation, and what changes in its gateway. -/
structure View where
  /-- The transactions of the call itself. -/
  own : List StoreInput
  row : Option IntentRow
  calls : List PendingCommit
  response : WriteResponseV1
  intentOpen : Bool
  closeAttempted : Bool
  blocked : Bool
  issuance : Issuance

/-- The view of a call on its operation. -/
def GatewayRun.view (r : GatewayRun) (o : String) (own : List StoreInput) : View where
  own
  row := r.store.row o
  calls := r.store.calls o
  response := r.response
  intentOpen := r.intentOpen
  closeAttempted := r.closeAttempted
  blocked := r.blocked
  issuance := r.issuance

/-- No other process acts for the operation of the call. -/
def GatewayWorld.Apart (w : GatewayWorld) : Prop :=
  ∀ visit, ∀ a ∈ w.others visit, a.operationId ≠ w.observationId

/-- The transactions of a call and of the others it meets; its own are `own`. -/
structure GatewayWorld.Takes (w : GatewayWorld) (as own : List StoreInput) : Prop where
  others : ∀ a ∈ as, a.operationId ≠ w.observationId → ∃ visit, a ∈ w.others visit
  own : as.filter (·.operationId = w.observationId) = own

/-- The store was reached from `st` by the call and the others, and the call sees `v`. -/
structure At (g : WriteGateway) (w : GatewayWorld) (st : StoreState) (v : View)
    (r : GatewayRun) : Prop where
  traced : ∃ as, w.Takes as v.own ∧ (store g.store).run st as = r.store
  view : r.view w.observationId v.own = v

/-- From the view `v` a return leads to a view with `Q` and an exception to one with `E`. -/
def Leads {α : Type} (g : WriteGateway) (w : GatewayWorld) (st : StoreState) (v : View)
    (p : GatewayOp α) (Q : α → View → Prop) (E : GatewayRaise → View → Prop) : Prop :=
  Program.Triple (At g w st v) p (fun a r => ∃ v', At g w st v' r ∧ Q a v')
    fun e r => ∃ v', At g w st v' r ∧ E e v'

section

variable {g : WriteGateway} {w : GatewayWorld} {st : StoreState} {v : View} {α β : Type}
  {Q Q' : α → View → Prop} {E : GatewayRaise → View → Prop}

/-! ### Rules -/

lemma Leads.mono {p : GatewayOp α} (h : Leads g w st v p Q E) (hQ : ∀ a v', Q a v' → Q' a v') :
    Leads g w st v p Q' E :=
  h.conseq (fun _ hr => hr) (fun a _ ⟨v', hv', hq⟩ => ⟨v', hv', hQ a v' hq⟩) fun _ _ hr => hr

lemma Leads.pure {a : α} (h : Q a v) : Leads g w st v (Pure.pure a) Q E :=
  Program.Triple.pure fun _ hr => ⟨v, hr, h⟩

lemma Leads.throw {e : GatewayRaise} (h : E e v) :
    Leads g w st v (MonadExcept.throw e : GatewayOp α) Q E :=
  Program.Triple.throw fun _ hr => ⟨v, hr, h⟩

lemma Leads.bind {R : β → View → Prop} {p : GatewayOp α} {f : α → GatewayOp β}
    (hp : Leads g w st v p Q E) (hf : ∀ a v', Q a v' → Leads g w st v' (f a) R E) :
    Leads g w st v (p >>= f) R E :=
  Program.Triple.bind hp fun a r ⟨v', hr, hq⟩ => hf a v' hq r hr

/-- A step that leaves the view, and what follows it. -/
lemma Leads.stay {p : GatewayOp β} {f : β → GatewayOp α}
    (hp : Leads g w st v p (fun _ v' => v' = v) E) (hf : ∀ b, Leads g w st v (f b) Q E) :
    Leads g w st v (p >>= f) Q E :=
  hp.bind fun b v' hv => by
    rw [hv]
    exact hf b

/-- What is caught leads on. -/
lemma Leads.tryCatch {E' : GatewayRaise → View → Prop} {p : GatewayOp α}
    {handler : GatewayRaise → GatewayOp α} (hp : Leads g w st v p Q E)
    (hhandler : ∀ e v', E e v' → Leads g w st v' (handler e) Q E') :
    Leads g w st v (MonadExcept.tryCatch p handler) Q E' :=
  Program.Triple.tryCatch hp fun e r ⟨v', hr, he⟩ => hhandler e v' he r hr

lemma Leads.lift {x : Except GatewayRaise α} (h : ∀ a, x = .ok a → Q a v)
    (he : ∀ e, x = .error e → E e v) : Leads g w st v (Program.lift x) Q E := by
  intro r hr
  cases x with
  | error e => exact ⟨v, hr, he e rfl⟩
  | ok a => exact ⟨v, hr, h a rfl⟩

/-- A check that raises where it fails, and what follows it. -/
lemma Leads.check {c : Bool} {e : GatewayRaise} {p : Unit → GatewayOp α}
    (h : c = false → Leads g w st v (p ()) Q E) (he : E e v) :
    Leads g w st v
      (if c = true then (MonadExcept.throw e : GatewayOp Unit) >>= p else p ()) Q E := by
  cases c with
  | true => exact fun r hr => ⟨v, hr, he⟩
  | false => exact h rfl

/-- A change of the call's own fields. -/
lemma Leads.modify {f : GatewayRun → GatewayRun} {k : View → View} {Q : Unit → View → Prop}
    (hstore : ∀ r, (f r).store = r.store) (hown : ∀ x, (k x).own = x.own)
    (hview : ∀ r own, (f r).view w.observationId own = k (r.view w.observationId own))
    (h : Q () (k v)) : Leads g w st v (MonadStateOf.modifyGet fun r => ((), f r)) Q E := by
  intro r hr
  refine ⟨k v, ⟨?_, ?_⟩, h⟩
  · obtain ⟨as, htakes, hrun⟩ := hr.traced
    exact ⟨as, (hown v).symm ▸ htakes, hrun.trans (hstore r).symm⟩
  · exact (hview r _).trans (congrArg k ((hown v).symm ▸ hr.view))

/-- The response is changed, and what follows. -/
lemma Leads.answer {change : WriteResponseV1 → WriteResponseV1} {f : Unit → GatewayOp α}
    (hf : Leads g w st { v with response := change v.response } (f ()) Q E) :
    Leads g w st v (Write01.answer change >>= f) Q E :=
  Leads.bind (Q := fun _ v' => v' = { v with response := change v.response })
    (Leads.modify (k := fun x => { x with response := change x.response }) (fun _ => rfl)
      (fun _ => rfl) (fun _ _ => rfl) rfl) fun _ v' hv => by
    rw [hv]
    exact hf

lemma Leads.emit {stage : AuditStage} {Q : Unit → View → Prop} (h : Q () v)
    (he : E .osError { v with blocked := true }) :
    Leads g w st v (Write01.emit w stage) Q E := by
  intro r hr
  unfold Program.run Write01.emit
  cases w.auditFails stage with
  | false => exact ⟨v, ⟨hr.traced, hr.view⟩, h⟩
  | true =>
      exact ⟨{ v with blocked := true },
        ⟨hr.traced, congrArg (fun x : View => { x with blocked := true }) hr.view⟩, he⟩

/-- A transaction of the call itself. -/
lemma At.own {r : GatewayRun} (hr : At g w st v r) {a : StoreInput}
    (ha : a.operationId = w.observationId) {st' : StoreState}
    (hst' : st' = (store g.store).next r.store a) {row : Option IntentRow}
    {calls : List PendingCommit} (hrow : st'.row w.observationId = row)
    (hcalls : st'.calls w.observationId = calls) :
    At g w st { v with own := v.own ++ [a], row, calls } { r with store := st' } := by
  obtain ⟨⟨as, ⟨hothers, hown⟩, hrun⟩, hview⟩ := hr
  refine ⟨⟨as ++ [a], ⟨?_, ?_⟩, ?_⟩, ?_⟩
  · intro b hb hne
    rcases List.mem_append.mp hb with hb | hb
    · exact hothers b hb hne
    · exact absurd (List.mem_singleton.mp hb ▸ ha) hne
  · rw [List.filter_append, hown, List.filter_singleton, decide_eq_true ha]
    rfl
  · rw [Machine.run_concat, hrun, hst']
  · rw [← hview, ← hrow, ← hcalls]
    rfl

/-! ### The authority -/

/-- An evaluation permits nothing and changes nothing, or grants. -/
lemma Leads.evaluate {Model : Type} {rules : TextRules Model} {request tool : String}
    {query : Arguments} {facts : StateFacts} {Q : PolicyEvaluation → View → Prop}
    (hrefused : ∀ p : PolicyResult, p.decision ≠ .permit → Q ⟨p, none⟩ v)
    (hgranted : ∀ gr, Granted g.authority w.evaluation v.issuance
        (w.evaluateCall request tool query facts) gr →
      Q ⟨permit, some (gr.retained.identity, gr.retained.envelope)⟩
        { v with issuance := v.issuance.grant gr })
    (he : ∀ e, E (.authority e) v) :
    Leads g w st v (g.evaluate rules w request tool query facts) Q E := by
  intro r hr
  have hissuance : r.issuance = v.issuance := congrArg View.issuance hr.view
  have hrun : (g.evaluate rules w request tool query facts).run r =
      (Except.reraise (g.authority.evaluate rules w.evaluation r.issuance
          (w.evaluateCall request tool query facts)).2 .authority,
        { r with issuance := (g.authority.evaluate rules w.evaluation r.issuance
          (w.evaluateCall request tool query facts)).1 }) := rfl
  rw [hrun, hissuance]
  rcases evaluate_cases g.authority rules w.evaluation v.issuance
    (w.evaluateCall request tool query facts) with ⟨hstate, hresult⟩ | ⟨gr, hgr, heq⟩
  · rw [hstate, ← hissuance]
    rw [← hissuance] at hresult
    cases hx : (g.authority.evaluate rules w.evaluation r.issuance
      (w.evaluateCall request tool query facts)).2 with
    | error e => exact ⟨v, hr, he e⟩
    | ok p =>
        obtain ⟨hnone, hpolicy⟩ := hresult p hx
        refine ⟨v, hr, ?_⟩
        have hp : p = ⟨p.policy, none⟩ := by rw [← hnone]
        rw [hp]
        exact hrefused p.policy hpolicy
  · rw [heq]
    exact ⟨{ v with issuance := v.issuance.grant gr }, ⟨hr.traced,
      congrArg (fun x : View => { x with issuance := v.issuance.grant gr }) hr.view⟩,
      hgranted gr hgr⟩

/-- The state without an envelope. -/
def Issuance.drop (s : Issuance) (identity : ℕ) : Issuance :=
  { s with issued := s.issued.filter fun r => some identity ≠ some r.identity }

/-- `consume` drops the envelope; what it returns is the envelope's binding. -/
lemma Leads.consume {request tool : String} {identity : ℕ} {envelope : AuthorityEnvelope}
    {effective : Json} {Q : ExecutionBinding → View → Prop}
    (h : Q envelope.binding { v with issuance := v.issuance.drop identity })
    (he : ∀ e, E (.authority e) { v with issuance := v.issuance.drop identity }) :
    Leads g w st v (g.consume w identity envelope request tool effective) Q E := by
  intro r hr
  have hat : At g w st { v with issuance := v.issuance.drop identity }
      { r with issuance := r.issuance.drop identity } :=
    ⟨hr.traced, congrArg (fun x : View => { x with issuance := x.issuance.drop identity }) hr.view⟩
  have hstate : (g.authority.consume w.consumption r.issuance
      (w.consumeCall identity envelope request tool effective)).1 = r.issuance.drop identity :=
    consume_fst ..
  have hrun : (g.consume w identity envelope request tool effective).run r =
      (Except.reraise (g.authority.consume w.consumption r.issuance
          (w.consumeCall identity envelope request tool effective)).2 .authority,
        { r with issuance := r.issuance.drop identity }) := by
    rw [← hstate]
    rfl
  rw [hrun]
  cases hx : (g.authority.consume w.consumption r.issuance
      (w.consumeCall identity envelope request tool effective)).2 with
  | error e => exact ⟨_, hat, he e⟩
  | ok binding =>
      obtain ⟨retained, -, -, hverify⟩ := consume_eq_ok hx
      obtain ⟨-, -, found, -, -, hcontents, -, -, -, -, rfl, -⟩ := verify_eq_ok hverify
      obtain rfl : envelope = found := Except.ok.inj hcontents
      exact ⟨_, hat, h⟩

lemma Leads.approvalReference {identity : ℕ} {Q : String → View → Prop}
    (h : ∀ reference, v.issuance.approvalReference identity = .ok reference → Q reference v)
    (he : ∀ e, E (.authority e) v) :
    Leads g w st v (Write01.approvalReference identity) Q E := by
  intro r hr
  have hissuance : r.issuance = v.issuance := congrArg View.issuance hr.view
  have hrun : (Write01.approvalReference identity).run r =
      (Except.reraise (v.issuance.approvalReference identity) .authority, r) := by
    rw [← hissuance]
    rfl
  rw [hrun]
  cases hx : v.issuance.approvalReference identity with
  | error e => exact ⟨v, hr, he e⟩
  | ok reference => exact ⟨v, hr, h reference hx⟩

/-! ### Visits -/

variable (hw : w.Apart)
include hw

/-- What others do before a visit leaves the view. -/
lemma At.visited {r : GatewayRun} (hr : At g w st v r) (visit : StoreVisit) :
    At g w st v { r with store := g.visited w visit r.store } := by
  obtain ⟨⟨as, ⟨hothers, hown⟩, hrun⟩, hview⟩ := hr
  obtain ⟨hrow, hcalls⟩ := foreign_run (s := g.store) (hw visit) r.store
  refine ⟨⟨as ++ w.others visit, ⟨?_, ?_⟩, ?_⟩, ?_⟩
  · intro a ha hne
    rcases List.mem_append.mp ha with ha | ha
    · exact hothers a ha hne
    · exact ⟨visit, ha⟩
  · have hnone : (w.others visit).filter (·.operationId = w.observationId) = [] :=
      List.filter_eq_nil_iff.mpr fun a ha => by simpa using hw visit a ha
    rw [List.filter_append, hown, hnone, List.append_nil]
  · rw [Machine.run_append, hrun]
    rfl
  · rw [← hview]
    simp only [GatewayRun.view, WriteGateway.visited, hrow, hcalls]

lemma Leads.consult {visit : StoreVisit} {reader : StoreWorld → Database → Except StoreRaise α}
    (h : ∀ a, Q a v) (he : ∀ e, E (.store e) v) :
    Leads g w st v (g.consult w visit reader) Q E := by
  intro r hr
  have hvisited := hr.visited hw visit
  have hrun : (g.consult w visit reader).run r =
      (Except.reraise (reader (w.store visit) (g.visited w visit r.store).db) .store,
        { r with store := g.visited w visit r.store }) := rfl
  rw [hrun]
  cases reader (w.store visit) (g.visited w visit r.store).db with
  | error e => exact ⟨v, hvisited, he e⟩
  | ok a => exact ⟨v, hvisited, h a⟩

/-- `reserve` inserts the intent of the operation or nothing. -/
lemma Leads.reserve {operation : Json} {b : String} {Q : OpenAck → View → Prop}
    (h : ∀ op, g.store.operation (.ok operation) = .ok op →
      Q ⟨w.observationId, digest op.value, b⟩ { v with
        own := v.own ++ [.reserve (w.store .reserve) w.observationId (.ok operation) b]
        row := some (intentRow w.observationId op b) })
    (he : ∀ e row, (row = v.row ∨ ∃ op, g.store.operation (.ok operation) = .ok op ∧
        row = some (intentRow w.observationId op b)) →
      E (.store e) { v with
        own := v.own ++ [.reserve (w.store .reserve) w.observationId (.ok operation) b], row }) :
    Leads g w st v (g.reserve w operation b) Q E := by
  intro r hr
  have hvisited := hr.visited hw .reserve
  have hcalls : (g.visited w .reserve r.store).calls w.observationId = v.calls :=
    congrArg View.calls hvisited.view
  have hrow : (g.visited w .reserve r.store).row w.observationId = v.row :=
    congrArg View.row hvisited.view
  rcases hresult : g.store.reserve (w.store .reserve) w.observationId (.ok operation) b
    (g.visited w .reserve r.store).db with ⟨x, d⟩
  have hrun : (g.reserve w operation b).run r = (Except.reraise x .store,
      { r with store := ⟨d, (g.visited w .reserve r.store).pending⟩ }) := by
    simp only [Program.run, WriteGateway.reserve, hresult]
  rw [hrun]
  have hnext : (⟨d, (g.visited w .reserve r.store).pending⟩ : StoreState) =
      (Write01.store g.store).next (g.visited w .reserve r.store)
        (.reserve (w.store .reserve) w.observationId (.ok operation) b) := by
    simp only [Machine.next, store, hresult]
  rcases reserve_cases hresult with ⟨rfl, e, rfl⟩ | ⟨op, hop, -, -, hdb, hack⟩
  · exact ⟨_, hvisited.own rfl hnext hrow hcalls, he e _ (.inl rfl)⟩
  · have hmem : intentRow w.observationId op b ∈ d.1.intents := by
      rw [hdb]
      exact List.mem_append_right _ (List.mem_singleton_self _)
    have hat := hvisited.own rfl hnext (intent?_of_mem d.2 hmem) hcalls
    cases x with
    | error e => exact ⟨_, hat, he e _ (.inr ⟨op, hop, rfl⟩)⟩
    | ok ack =>
        obtain rfl := hack ack rfl
        exact ⟨_, hat, h op hop⟩

/-- The first transaction of `commit` starts the one attempt of an intent, or changes nothing. -/
lemma Leads.attempt {b : String} {Q : PendingCommit → View → Prop}
    (h : ∀ p, p.operationId = w.observationId → p.bindingSha256 = b → v.row = some p.row →
      p.row.custody = .open → p.row.receiptJson = none → p.row.attemptStarted = false →
      Q p { v with
        own := v.own ++ [.attempt (w.store .attempt) w.observationId b]
        row := some { p.row with attemptStarted := true }
        calls := p :: v.calls })
    (he : ∀ e row, (row = v.row ∨ ∃ i, v.row = some i ∧ i.custody = .open ∧
        i.receiptJson = none ∧ row = some { i with attemptStarted := true }) →
      E (.store e) { v with
        own := v.own ++ [.attempt (w.store .attempt) w.observationId b], row }) :
    Leads g w st v (g.attempt w b) Q E := by
  intro r hr
  have hvisited := hr.visited hw .attempt
  have hcalls : (g.visited w .attempt r.store).calls w.observationId = v.calls :=
    congrArg View.calls hvisited.view
  have hrow : (g.visited w .attempt r.store).row w.observationId = v.row :=
    congrArg View.row hvisited.view
  have hstarted : ∀ {d : Database} {p : PendingCommit}, p.operationId = w.observationId →
      Admissible (g.visited w .attempt r.store).db.1 p →
      d.1 = (g.visited w .attempt r.store).db.1.startAttempt w.observationId →
      v.row = some p.row ∧ d.1.intent? w.observationId =
        some { p.row with attemptStarted := true } := by
    intro d p hid hadmissible hdb
    have hfound := hid ▸ hadmissible.found
    refine ⟨hrow.symm.trans hfound, ?_⟩
    rw [hdb, intent?_startAttempt, hfound]
    rfl
  rcases hresult : g.store.attempt (w.store .attempt) w.observationId b
    (g.visited w .attempt r.store).db with ⟨e | p', d⟩
  · have hrun : (g.attempt w b).run r = (.error (.store e),
        { r with store := ⟨d, (g.visited w .attempt r.store).pending⟩ }) := by
      simp only [Program.run, WriteGateway.attempt, hresult]
    have hnext : (⟨d, (g.visited w .attempt r.store).pending⟩ : StoreState) =
        (Write01.store g.store).next (g.visited w .attempt r.store)
          (.attempt (w.store .attempt) w.observationId b) := by
      simp only [Machine.next, store, hresult]
    rw [hrun]
    rcases attempt_cases hresult with ⟨rfl, -⟩ | ⟨p, hid, -, hadmissible, hdb, -⟩
    · exact ⟨_, hvisited.own rfl hnext hrow hcalls, he e _ (.inl rfl)⟩
    · obtain ⟨hold, hnew⟩ := hstarted hid hadmissible hdb
      exact ⟨_, hvisited.own rfl hnext hnew hcalls,
        he e _ (.inr ⟨p.row, hold, hadmissible.custody, hadmissible.receipt, rfl⟩)⟩
  · have hrun : (g.attempt w b).run r = (.ok p',
        { r with store := ⟨d, p' :: (g.visited w .attempt r.store).pending⟩ }) := by
      simp only [Program.run, WriteGateway.attempt, hresult]
    have hnext : (⟨d, p' :: (g.visited w .attempt r.store).pending⟩ : StoreState) =
        (Write01.store g.store).next (g.visited w .attempt r.store)
          (.attempt (w.store .attempt) w.observationId b) := by
      simp only [Machine.next, store, hresult]
    rw [hrun]
    rcases attempt_cases hresult with ⟨-, e, he⟩ | ⟨p, hid, hb, hadmissible, hdb, hp⟩
    · cases he
    · obtain rfl := hp p' rfl
      obtain ⟨hold, hnew⟩ := hstarted hid hadmissible hdb
      have hcons : (⟨d, p' :: (g.visited w .attempt r.store).pending⟩ : StoreState).calls
          w.observationId = p' :: v.calls := by
        rw [StoreState.calls, List.filter_cons_of_pos (by simpa using hid)]
        exact congrArg (p' :: ·) hcalls
      exact ⟨_, hvisited.own rfl hnext hnew hcons,
        h p' hid hb hold hadmissible.custody hadmissible.receipt hadmissible.attempt⟩

/-- The second transaction of `commit` ends the call, with the receipt or without a change. -/
lemma Leads.mutate {p : PendingCommit} {i : IntentRow} {Q : CommitResponse → View → Prop}
    (hp : p.operationId = w.observationId) (hcalls : v.calls = [p]) (hrow : v.row = some i)
    (h : ∀ op v₀, object p.row.operationJson = .ok v₀ → g.store.operation (.ok v₀) = .ok op →
      Q ⟨g.store.receipt p.operationId op p.bindingSha256,
          digest (g.store.receipt p.operationId op p.bindingSha256)⟩ { v with
        own := v.own ++ [.mutate (w.store .mutate) w.observationId]
        row := some { i with
          receiptJson := some (canonical false
            (g.store.receipt p.operationId op p.bindingSha256))
          receiptSha256 := some (digest (g.store.receipt p.operationId op p.bindingSha256)) }
        calls := [] })
    (he : ∀ e row, (row = some i ∨ ∃ raw, row = some { i with
        receiptJson := some raw, receiptSha256 := some (sha256Hex raw) }) →
      E (.store e) { v with
        own := v.own ++ [.mutate (w.store .mutate) w.observationId], row, calls := [] }) :
    Leads g w st v (g.mutate w p) Q E := by
  intro r hr
  have hvisited := hr.visited hw .mutate
  have hpending : (g.visited w .mutate r.store).calls w.observationId = [p] :=
    (congrArg View.calls hvisited.view).trans hcalls
  have hrow' : (g.visited w .mutate r.store).row w.observationId = some i :=
    (congrArg View.row hvisited.view).trans hrow
  rcases hresult : g.store.mutate (w.store .mutate) p (g.visited w .mutate r.store).db with ⟨x, d⟩
  have hrun : (g.mutate w p).run r = (Except.reraise x .store,
      { r with store := ⟨d, (g.visited w .mutate r.store).pending.filter
        (·.operationId ≠ p.operationId)⟩ }) := by
    simp only [Program.run, WriteGateway.mutate, hresult]
  rw [hrun]
  have hnext : (⟨d, (g.visited w .mutate r.store).pending.filter
        (·.operationId ≠ p.operationId)⟩ : StoreState) =
      (Write01.store g.store).next (g.visited w .mutate r.store)
        (.mutate (w.store .mutate) w.observationId) := by
    simp only [Machine.next, store, get?_pending hpending, hresult, hp]
  have hnone : (⟨d, (g.visited w .mutate r.store).pending.filter
      (·.operationId ≠ p.operationId)⟩ : StoreState).calls w.observationId = [] := by
    rw [StoreState.calls, List.filter_filter, ← hp]
    exact List.filter_eq_nil_iff.mpr fun q _ => by simp
  rcases mutate_cases hresult with ⟨rfl, e, rfl⟩ | ⟨op, hmutable, hdb, hresponse⟩
  · exact ⟨_, hvisited.own rfl hnext hrow' hnone, he e _ (.inl rfl)⟩
  · have hnew : d.1.intent? w.observationId = some { i with
        receiptJson := some (canonical false (g.store.receipt p.operationId op p.bindingSha256))
        receiptSha256 := some (digest
          (g.store.receipt p.operationId op p.bindingSha256)) } := by
      rw [hdb, ReviewStore.mutated, hp, intent?_recordReceipt]
      exact congrArg (Option.map _) hrow'
    have hat := hvisited.own rfl hnext hnew hnone
    cases x with
    | error e => exact ⟨_, hat, he e _ (.inr ⟨_, rfl⟩)⟩
    | ok response =>
        obtain rfl := hresponse response rfl
        obtain ⟨v₀, hload, hop⟩ := hmutable.loaded
        exact ⟨_, hat, h op v₀ hload hop⟩

/-- `acknowledge` closes an intent with the receipt named, or changes nothing. -/
lemma Leads.acknowledge {sha : String} {Q : CloseAck → View → Prop}
    (h : ∀ i, v.row = some i → i.receiptJson.isSome = true → i.receiptSha256 = some sha →
      Q ⟨w.observationId, sha⟩ { v with
        own := v.own ++ [.acknowledge (w.store .acknowledge) w.observationId sha]
        row := some { i with custody := .closed } })
    (he : ∀ e row, (row = v.row ∨ ∃ i, v.row = some i ∧ row = some { i with custody := .closed }) →
      E (.store e) { v with
        own := v.own ++ [.acknowledge (w.store .acknowledge) w.observationId sha], row }) :
    Leads g w st v (g.acknowledge w sha) Q E := by
  intro r hr
  have hvisited := hr.visited hw .acknowledge
  have hcalls : (g.visited w .acknowledge r.store).calls w.observationId = v.calls :=
    congrArg View.calls hvisited.view
  have hrow : (g.visited w .acknowledge r.store).row w.observationId = v.row :=
    congrArg View.row hvisited.view
  rcases hresult : g.store.acknowledge (w.store .acknowledge) w.observationId sha
    (g.visited w .acknowledge r.store).db with ⟨x, d⟩
  have hrun : (g.acknowledge w sha).run r = (Except.reraise x .store,
      { r with store := ⟨d, (g.visited w .acknowledge r.store).pending⟩ }) := by
    simp only [Program.run, WriteGateway.acknowledge, hresult]
  rw [hrun]
  have hnext : (⟨d, (g.visited w .acknowledge r.store).pending⟩ : StoreState) =
      (Write01.store g.store).next (g.visited w .acknowledge r.store)
        (.acknowledge (w.store .acknowledge) w.observationId sha) := by
    simp only [Machine.next, store, hresult]
  rcases acknowledge_cases hresult with ⟨rfl, e, rfl⟩ | ⟨⟨i, hclosable⟩, hdb, hack⟩
  · exact ⟨_, hvisited.own rfl hnext hrow hcalls, he e _ (.inl rfl)⟩
  · have hold : v.row = some i := hrow.symm.trans hclosable.found
    have hnew : d.1.intent? w.observationId = some { i with custody := .closed } := by
      rw [hdb, intent?_closeCustody, hclosable.found]
      rfl
    have hat := hvisited.own rfl hnext hnew hcalls
    cases x with
    | error e => exact ⟨_, hat, he e _ (.inr ⟨i, hold, rfl⟩)⟩
    | ok ack =>
        obtain rfl := hack ack rfl
        exact ⟨_, hat, h i hold hclosable.receipt hclosable.receiptSha256⟩

end

end CivicGate.Write01
