import CivicGate.Write01.GatewayViews

/-!
# The write gateway tells the truth

One handler turns whatever failed in a call into the response, from the flags the call set on
its way.  `Sound` is what the flags say of the store wherever a step raises, and each part of the
call leads from its view to a `Sound` one or on (`leads_openIntent`, `leads_commitIntent`,
`leads_closeIntent`, `leads_dispatch`).  The handler makes of a `Sound` view a `Truthful` one
(`leads_stop`).
-/

namespace CivicGate.Write01

/-! ## What a call leaves -/

section

variable (g : WriteGateway) (w : GatewayWorld) (request tool : String) (query : Arguments)
  (s : Issuance)

/-- The transactions of a write, in their order. -/
def GatewayWorld.transactions (operation : Json) (b sha : String) : List StoreInput :=
  [.reserve (w.store .reserve) w.observationId (.ok operation) b,
    .attempt (w.store .attempt) w.observationId b, .mutate (w.store .mutate) w.observationId,
    .acknowledge (w.store .acknowledge) w.observationId sha]

/-- The operation of a call under a grant. -/
def WriteGateway.operationOf (gr : Grant) (effective : Json) : Json :=
  g.operation w request tool gr.retained.approvalReference effective
    gr.retained.envelope.binding.auditRecord

/-- What a call may have done to the authority. -/
inductive Spends : Issuance → Prop
  | kept : Spends s
  | granted {gr : Grant} {facts : StateFacts}
      (granted : Granted g.authority w.evaluation s (w.evaluateCall request tool query facts) gr) :
      Spends (s.grant gr)
  | consumed {gr : Grant} {facts : StateFacts}
      (granted : Granted g.authority w.evaluation s (w.evaluateCall request tool query facts) gr) :
      Spends ((s.grant gr).drop gr.retained.identity)

/-- The authority permitted the call by this grant, and gave its binding back. -/
structure Authorized (gr : Grant) (x : WriteResponseV1) (t : Issuance) : Prop where
  granted : ∃ facts,
    Granted g.authority w.evaluation s (w.evaluateCall request tool query facts) gr
  decision : x.decision = .permit
  issued : x.bindingIssued = true
  consumed : x.bindingConsumed = true
  binding : x.binding = some gr.retained.envelope.binding.auditRecord
  entries : x.adapterEntries = 1
  issuance : t = (s.grant gr).drop gr.retained.identity

/-- The operation of the call was durable and open when `commit` was called for it. -/
structure Submitted (gr : Grant) (effective : Json) (op : Operation) (v : View) : Prop where
  loads : loads gr.retained.envelope.binding.argumentsJson = some effective
  operation : g.store.operation (.ok (g.operationOf w request tool gr effective)) = .ok op
  row : ∃ i, v.row = some i ∧
    Advances (intentRow w.observationId op gr.retained.envelope.binding.sha256) i
  own : ∃ sha, v.own <+: w.transactions (g.operationOf w request tool gr effective)
    gr.retained.envelope.binding.sha256 sha
  attempted : 2 ≤ v.own.length

/-- The adapter was entered. -/
structure Entered (v : View) : Prop where
  entered : ∃ gr, Authorized g w request tool query s gr v.response v.issuance ∧
    (tool = Tool.write.text → ∃ effective op, Submitted g w request tool gr effective op v) ∧
    (tool ≠ Tool.write.text → v.own = [] ∧ v.row = none)

/-- The adapter was not entered: at most an intent was reserved. -/
structure Idle (v : View) : Prop where
  outcome : v.response.transactionOutcome = .notDispatched
  row : ∀ i, v.row = some i → i.attemptStarted = false ∧ i.receiptJson = none
  own : ∃ operation b,
    v.own <+: [StoreInput.reserve (w.store .reserve) w.observationId (.ok operation) b]

/-- What the flags of a call say. -/
structure Sound (v : View) : Prop where
  settled : v.calls = []
  spends : Spends g w request tool query s v.issuance
  idle : v.response.adapterEntries = 0 → Idle w v
  entered : v.response.adapterEntries ≠ 0 → Entered g w request tool query s v
  opened : v.intentOpen = true → v.closeAttempted = false →
    ∃ i, v.row = some i ∧ i.custody = .open
  committed : v.response.transactionOutcome = .committed →
    ∃ i, v.row = some i ∧ i.receiptJson.isSome = true

/-- The intent is closed with the receipt returned. -/
structure Closed (v : View) : Prop where
  row : ∃ i receipt, v.row = some i ∧ i.custody = .closed ∧
    i.receiptJson = some (canonical false receipt) ∧ i.receiptSha256 = some (digest receipt) ∧
    v.response.result = some (writeResult ⟨receipt, digest receipt⟩
      ⟨w.observationId, digest receipt⟩)
  outcome : v.response.transactionOutcome = .committed

/-- The call went through. -/
structure Delivered (v : View) : Prop where
  sound : Sound g w request tool query s v
  blocked : v.blocked = false
  entries : v.response.adapterEntries = 1
  verification : v.response.resultVerification = .verified
  evidence : v.response.evidenceSha256 = v.response.result.map digest
  result : (v.response.custody = .closed ∧ Closed w v) ∨ v.response.custody = .readOnlyNoFence ∧
    v.response.transactionOutcome = .readOnly ∧ v.response.result.isSome = true

end

section

variable {g : WriteGateway} {w : GatewayWorld} {st : StoreState} {request tool : String}
  {query : Arguments} {s : Issuance}

/-- Before the adapter is entered the flags are right. -/
lemma Sound.of_idle {v : View} (hcalls : v.calls = [])
    (hspends : Spends g w request tool query s v.issuance)
    (hentries : v.response.adapterEntries = 0)
    (houtcome : v.response.transactionOutcome = .notDispatched)
    (hown : ∃ operation b,
      v.own <+: [StoreInput.reserve (w.store .reserve) w.observationId (.ok operation) b])
    (hrow : v.row = none ∧ v.intentOpen = false ∨
      ∃ op b, v.row = some (intentRow w.observationId op b)) :
    Sound g w request tool query s v where
  settled := hcalls
  spends := hspends
  idle _ :=
    { outcome := houtcome
      row := by
        intro i hi
        rcases hrow with ⟨hnone, -⟩ | ⟨op, b, hsome⟩
        · rw [hnone] at hi
          cases hi
        · obtain rfl := Option.some.inj (hsome.symm.trans hi)
          exact ⟨rfl, rfl⟩
      own := hown }
  entered hne := absurd hentries hne
  opened hopen _ := by
    rcases hrow with ⟨-, hshut⟩ | ⟨op, b, hsome⟩
    · rw [hshut] at hopen
      cases hopen
    · exact ⟨_, hsome, rfl⟩
  committed h := by
    rw [houtcome] at h
    cases h

lemma leads_openIntent {x : WriteResponseV1} {t : Issuance} {operation : Json} {b : String}
    (hw : w.Apart) (ht : Spends g w request tool query s t) (hentries : x.adapterEntries = 0)
    (houtcome : x.transactionOutcome = .notDispatched) :
    Leads g w st ⟨[], none, [], x, false, false, false, t⟩ (g.openIntent w operation b)
      (fun _ v => ∃ op, g.store.operation (.ok operation) = .ok op ∧
        v = ⟨[.reserve (w.store .reserve) w.observationId (.ok operation) b],
          some (intentRow w.observationId op b), [], { x with custody := .open }, true, false,
          false, t⟩)
      fun _ => Sound g w request tool query s := by
  unfold WriteGateway.openIntent
  refine Leads.bind (Leads.reserve hw (Q := fun _ v => ∃ op,
    g.store.operation (.ok operation) = .ok op ∧
      v = ⟨[.reserve (w.store .reserve) w.observationId (.ok operation) b],
        some (intentRow w.observationId op b), [], x, false, false, false, t⟩)
    (fun op hop => ⟨op, hop, rfl⟩) ?_) ?_
  · intro e row hrow
    refine Sound.of_idle rfl ht hentries houtcome ⟨operation, b, List.prefix_rfl⟩ ?_
    rcases hrow with rfl | ⟨op, -, rfl⟩
    · exact .inl ⟨rfl, rfl⟩
    · exact .inr ⟨op, b, rfl⟩
  · rintro ack _ ⟨op, hop, rfl⟩
    have hsound : ∀ y intentOpen blocked, y.adapterEntries = 0 →
        y.transactionOutcome = .notDispatched → Sound g w request tool query s
          ⟨[.reserve (w.store .reserve) w.observationId (.ok operation) b],
            some (intentRow w.observationId op b), [], y, intentOpen, false, blocked, t⟩ :=
      fun y _ _ hy hy' => Sound.of_idle rfl ht hy hy' ⟨operation, b, List.prefix_rfl⟩
        (.inr ⟨op, b, rfl⟩)
    refine Leads.stay (Leads.consult hw (fun _ => rfl) fun _ =>
      hsound _ _ _ hentries houtcome) fun row => ?_
    refine Leads.check (fun _ => ?_) (hsound _ _ _ hentries houtcome)
    refine Leads.bind (Leads.modify (k := fun v => { v with intentOpen := true })
      (Q := fun _ v => v = ⟨_, _, _, x, true, _, _, t⟩) (fun _ => rfl) (fun _ => rfl)
      (fun _ _ => rfl) rfl) ?_
    rintro _ _ rfl
    refine Leads.answer ?_
    exact Leads.emit ⟨op, hop, rfl⟩ (hsound _ _ _ hentries houtcome)

/-! ## Committing and closing -/

lemma advances_intentRow {id b : String} {op : Operation} {c : Custody} {a : Bool}
    {r r' : Option String} : Advances (intentRow id op b) { intentRow id op b with
      custody := c, attemptStarted := a, receiptJson := r, receiptSha256 := r' } :=
  ⟨rfl, rfl, rfl, rfl, rfl, rfl, nofun, nofun, nofun⟩

/-- What is reported of the transaction is not of the authority. -/
lemma Authorized.report {gr : Grant} {x : WriteResponseV1} {t : Issuance}
    (h : Authorized g w request tool query s gr x t) {reasons : List String}
    {o : TransactionOutcome} {verification : ResultVerification} {custody : ResponseCustody}
    {result : Option Json} {evidence : Option String} :
    Authorized g w request tool query s gr { x with
      reasons, transactionOutcome := o, resultVerification := verification, custody, result,
      evidenceSha256 := evidence } t :=
  ⟨h.granted, h.decision, h.issued, h.consumed, h.binding, h.entries, h.issuance⟩

/-- What a granted call of the write tool submits. -/
structure Writes (g : WriteGateway) (w : GatewayWorld) (request tool : String) (gr : Grant)
    (effective : Json) (op : Operation) : Prop where
  write : tool = Tool.write.text
  loads : loads gr.retained.envelope.binding.argumentsJson = some effective
  operation : g.store.operation (.ok (g.operationOf w request tool gr effective)) = .ok op

/-- The receipt of the operation. -/
def WriteGateway.receiptOf (g : WriteGateway) (w : GatewayWorld) (gr : Grant) (op : Operation) :
    Json :=
  g.store.receipt w.observationId op gr.retained.envelope.binding.sha256

/-- The view of a write that has taken the first `n` of its transactions. -/
def writeView (g : WriteGateway) (w : GatewayWorld) (request tool : String) (gr : Grant)
    (effective : Json) (op : Operation) (n : ℕ) (row : IntentRow) (calls : List PendingCommit)
    (x : WriteResponseV1) (closing blocked : Bool) (t : Issuance) : View where
  own := (w.transactions (g.operationOf w request tool gr effective)
    gr.retained.envelope.binding.sha256 (digest (g.receiptOf w gr op))).take n
  row := some row
  calls
  response := x
  intentOpen := true
  closeAttempted := closing
  blocked
  issuance := t

section

variable {gr : Grant} {effective : Json} {op : Operation} {x : WriteResponseV1} {t : Issuance}

/-- The flags of a write that was submitted are right. -/
lemma Writes.sound (h : Writes g w request tool gr effective op)
    (hauth : Authorized g w request tool query s gr x t) {n : ℕ} (hn : 2 ≤ n) {c : Custody}
    {a : Bool} {r r' : Option String} {closing blocked : Bool} (hopen : closing = false → c = .open)
    (hcommitted : x.transactionOutcome = .committed → r.isSome = true) :
    Sound g w request tool query s (writeView g w request tool gr effective op n
      { intentRow w.observationId op gr.retained.envelope.binding.sha256 with
        custody := c, attemptStarted := a, receiptJson := r, receiptSha256 := r' }
      [] x closing blocked t) where
  settled := rfl
  spends := by
    obtain ⟨facts, hgranted⟩ := hauth.granted
    show Spends g w request tool query s t
    rw [hauth.issuance]
    exact .consumed hgranted
  idle hzero := by
    have hone := hauth.entries
    rw [show x.adapterEntries = 0 from hzero] at hone
    cases hone
  entered _ := by
    refine ⟨gr, hauth, fun _ => ⟨effective, op, h.loads, h.operation, ⟨_, rfl, advances_intentRow⟩,
      ⟨_, List.take_prefix n _⟩, ?_⟩, fun hne => absurd h.write hne⟩
    show 2 ≤ (List.take n _).length
    rw [List.length_take]
    exact le_min hn (show 2 ≤ 4 by decide)
  opened _ hclosing := ⟨_, rfl, hopen hclosing⟩
  committed hcommit := ⟨_, rfl, hcommitted hcommit⟩

/-- The store carries out the operation the intent holds. -/
lemma Writes.loaded (h : Writes g w request tool gr effective op) {v₀ : Json} {op' : Operation}
    (hload : object (canonical false op.value) = .ok v₀)
    (hop : g.store.operation (.ok v₀) = .ok op') : op' = op := by
  have haccepted := accepted_of_operation h.operation
  rw [haccepted.object] at hload
  obtain rfl := Except.ok.inj hload
  rw [haccepted.operation] at hop
  exact (Except.ok.inj hop).symm

/-- The intent with the receipt of the operation. -/
def committedRow (g : WriteGateway) (w : GatewayWorld) (gr : Grant) (op : Operation) : IntentRow :=
  { intentRow w.observationId op gr.retained.envelope.binding.sha256 with
    attemptStarted := true
    receiptJson := some (canonical false (g.receiptOf w gr op))
    receiptSha256 := some (digest (g.receiptOf w gr op)) }

lemma leads_commitIntent (hw : w.Apart) (h : Writes g w request tool gr effective op)
    (hauth : Authorized g w request tool query s gr x t)
    (houtcome : x.transactionOutcome = .notDispatched) :
    Leads g w st (writeView g w request tool gr effective op 1
        (intentRow w.observationId op gr.retained.envelope.binding.sha256) [] x false false t)
      (g.commitIntent w (g.operationOf w request tool gr effective) effective
        gr.retained.envelope.binding.sha256)
      (fun receipt v => receipt = ⟨g.receiptOf w gr op, digest (g.receiptOf w gr op)⟩ ∧
        v = writeView g w request tool gr effective op 3 (committedRow g w gr op) []
          { x with transactionOutcome := .committed } false false t)
      fun _ => Sound g w request tool query s := by
  have hnot : x.transactionOutcome ≠ .committed := by rw [houtcome]; decide
  unfold WriteGateway.commitIntent
  -- the first transaction
  refine Leads.bind (Leads.attempt hw (Q := fun p v => p.operationId = w.observationId ∧
    p.bindingSha256 = gr.retained.envelope.binding.sha256 ∧
    p.row = intentRow w.observationId op gr.retained.envelope.binding.sha256 ∧
    v = writeView g w request tool gr effective op 2
      { intentRow w.observationId op gr.retained.envelope.binding.sha256 with
        attemptStarted := true } [p] x false false t) ?_ ?_) ?_
  · intro p hid hb hrow _ _ _
    have hrow' : p.row = intentRow w.observationId op gr.retained.envelope.binding.sha256 :=
      (Option.some.inj hrow).symm
    exact ⟨hid, hb, hrow', by rw [hrow']; rfl⟩
  · intro e row hrow
    rcases hrow with rfl | ⟨i, hi, -, -, rfl⟩
    · exact h.sound hauth (n := 2) le_rfl (fun _ => rfl) fun hc => absurd hc hnot
    · obtain rfl := Option.some.inj hi
      exact h.sound hauth (n := 2) le_rfl (fun _ => rfl) fun hc => absurd hc hnot
  -- the second
  rintro p _ ⟨hid, hb, hrow, rfl⟩
  refine Leads.bind (Leads.mutate hw (Q := fun receipt v =>
    receipt = ⟨g.receiptOf w gr op, digest (g.receiptOf w gr op)⟩ ∧
      v = writeView g w request tool gr effective op 3 (committedRow g w gr op) [] x false false t)
    hid rfl rfl ?_ ?_) ?_
  · intro op' v₀ hload hop'
    rw [hrow] at hload
    obtain rfl := h.loaded hload hop'
    rw [hid, hb]
    exact ⟨rfl, rfl⟩
  · intro e row hrow'
    rcases hrow' with rfl | ⟨raw, rfl⟩
    · exact h.sound hauth (n := 3) (by decide) (fun _ => rfl) fun hc => absurd hc hnot
    · exact h.sound hauth (n := 3) (by decide) (fun _ => rfl) fun _ => rfl
  -- the evidence
  rintro receipt _ ⟨rfl, rfl⟩
  have hsound : ∀ outcome blocked, Sound g w request tool query s
      (writeView g w request tool gr effective op 3 (committedRow g w gr op) []
        { x with transactionOutcome := outcome } false blocked t) := fun _ _ =>
    h.sound hauth.report (n := 3) (by decide) (fun _ => rfl) fun _ => rfl
  refine Leads.answer ?_
  refine Leads.stay (Leads.emit rfl (hsound _ _)) fun _ => ?_
  refine Leads.stay (Leads.consult hw (fun _ => rfl) fun _ => hsound _ _) fun durable => ?_
  refine Leads.stay (Leads.lift (fun _ _ => rfl) fun _ _ => hsound _ _) fun confirmed => ?_
  refine Leads.check (fun _ => ?_) (hsound _ _)
  refine Leads.stay (Leads.lift (fun _ _ => rfl) fun _ _ => hsound _ _) fun awardId => ?_
  refine Leads.stay (Leads.consult hw (fun _ => rfl) fun _ => hsound _ _) fun state => ?_
  refine Leads.stay (Leads.lift (fun _ _ => rfl) fun _ _ => hsound _ _) fun after => ?_
  refine Leads.check (fun _ => ?_) (hsound _ _)
  refine Leads.answer ?_
  exact Leads.pure ⟨rfl, rfl⟩

/-- The response of a write that was carried through. -/
def closedResponse (g : WriteGateway) (w : GatewayWorld) (gr : Grant) (op : Operation)
    (x : WriteResponseV1) : WriteResponseV1 :=
  { x with
    custody := .closed
    result := some (writeResult ⟨g.receiptOf w gr op, digest (g.receiptOf w gr op)⟩
      ⟨w.observationId, digest (g.receiptOf w gr op)⟩) }

lemma leads_closeIntent (hw : w.Apart) (h : Writes g w request tool gr effective op)
    (hauth : Authorized g w request tool query s gr x t) :
    Leads g w st (writeView g w request tool gr effective op 3 (committedRow g w gr op) [] x
        false false t)
      (g.closeIntent w (g.operationOf w request tool gr effective)
        gr.retained.envelope.binding.sha256
        ⟨g.receiptOf w gr op, digest (g.receiptOf w gr op)⟩)
      (fun _ v => v = writeView g w request tool gr effective op 4
        { committedRow g w gr op with custody := .closed } []
        (closedResponse g w gr op x) true false t)
      fun _ => Sound g w request tool query s := by
  have hsound : ∀ n, 2 ≤ n → ∀ c blocked, Sound g w request tool query s
      (writeView g w request tool gr effective op n
        { committedRow g w gr op with custody := c } [] x true blocked t) := fun n hn _ _ =>
    h.sound hauth hn nofun fun _ => rfl
  unfold WriteGateway.closeIntent
  refine Leads.bind (Leads.modify (k := fun v => { v with closeAttempted := true })
    (Q := fun _ v => v = writeView g w request tool gr effective op 3 (committedRow g w gr op) [] x
      true false t) (fun _ => rfl) (fun _ => rfl) (fun _ _ => rfl) rfl) ?_
  rintro _ _ rfl
  refine Leads.bind (Leads.acknowledge hw (Q := fun ack v =>
    ack = ⟨w.observationId, digest (g.receiptOf w gr op)⟩ ∧
      v = writeView g w request tool gr effective op 4
        { committedRow g w gr op with custody := .closed } [] x true false t) ?_ ?_) ?_
  · intro i hi _ _
    obtain rfl := Option.some.inj hi
    exact ⟨rfl, rfl⟩
  · intro e row hrow
    rcases hrow with rfl | ⟨i, hi, rfl⟩
    · exact hsound 4 (by decide) .open false
    · obtain rfl := Option.some.inj hi
      exact hsound 4 (by decide) .closed false
  rintro ack _ ⟨rfl, rfl⟩
  refine Leads.stay (Leads.consult hw (fun _ => rfl) fun _ => hsound 4 (by decide) _ _)
    fun closed => ?_
  refine Leads.check (fun _ => ?_) (hsound 4 (by decide) _ _)
  exact Leads.modify (k := fun v => { v with response := closedResponse g w gr op v.response })
    (fun _ => rfl) (fun _ => rfl) (fun _ _ => rfl) rfl

end

/-! ## Dispatch -/

lemma Sound.block {v : View} (h : Sound g w request tool query s v) {blocked : Bool} :
    Sound g w request tool query s { v with blocked } where
  settled := h.settled
  spends := h.spends
  idle hzero := ⟨(h.idle hzero).outcome, (h.idle hzero).row, (h.idle hzero).own⟩
  entered hne := by
    obtain ⟨gr, hauth, hwrite, hother⟩ := (h.entered hne).entered
    refine ⟨gr, hauth, fun htool => ?_, hother⟩
    obtain ⟨effective, op, hsub⟩ := hwrite htool
    exact ⟨effective, op, hsub.loads, hsub.operation, hsub.row, hsub.own, hsub.attempted⟩
  opened := h.opened
  committed := h.committed

/-- The flags of a call of another tool that entered the adapter are right. -/
lemma Sound.of_read {gr : Grant} {x : WriteResponseV1} {t : Issuance} {blocked : Bool}
    (htool : tool ≠ Tool.write.text) (hauth : Authorized g w request tool query s gr x t)
    (houtcome : x.transactionOutcome ≠ .committed) :
    Sound g w request tool query s ⟨[], none, [], x, false, false, blocked, t⟩ where
  settled := rfl
  spends := by
    obtain ⟨facts, hgranted⟩ := hauth.granted
    show Spends g w request tool query s t
    rw [hauth.issuance]
    exact .consumed hgranted
  idle hzero := by
    have hone := hauth.entries
    rw [show x.adapterEntries = 0 from hzero] at hone
    cases hone
  entered _ := ⟨gr, hauth, fun h => absurd h htool, fun _ => ⟨rfl, rfl⟩⟩
  opened h := nomatch h
  committed h := absurd h houtcome

section

variable {gr : Grant} {effective : Json} {x : WriteResponseV1} {t : Issuance}

/-- The response of a call that went through. -/
def verified (x : WriteResponseV1) : WriteResponseV1 :=
  { x with resultVerification := .verified, evidenceSha256 := x.result.map digest }

lemma leads_adapt_write {op : Operation} (hw : w.Apart)
    (h : Writes g w request tool gr effective op)
    (hauth : Authorized g w request tool query s gr x t)
    (houtcome : x.transactionOutcome = .notDispatched) :
    Leads g w st (writeView g w request tool gr effective op 1
        (intentRow w.observationId op gr.retained.envelope.binding.sha256) [] x false false t)
      (g.adapt w tool (g.operationOf w request tool gr effective) effective
        gr.retained.envelope.binding.sha256)
      (fun _ v => Delivered g w request tool query s { v with response := verified v.response })
      fun _ => Sound g w request tool query s := by
  unfold WriteGateway.adapt
  rw [if_pos h.write]
  refine Leads.bind (leads_commitIntent hw h hauth houtcome) ?_
  rintro receipt _ ⟨rfl, rfl⟩
  refine Leads.mono (leads_closeIntent hw h hauth.report) ?_
  rintro _ _ rfl
  exact
    { sound := h.sound hauth.report (n := 4) (by decide) nofun fun _ => rfl
      blocked := rfl
      entries := hauth.entries
      verification := rfl
      evidence := rfl
      result := .inl ⟨rfl, ⟨_, _, rfl, rfl, rfl, rfl, rfl⟩, rfl⟩ }

lemma leads_adapt_read {operation : Json} {b : String} (hw : w.Apart)
    (htool : tool ≠ Tool.write.text) (hauth : Authorized g w request tool query s gr x t)
    (houtcome : x.transactionOutcome = .notDispatched) :
    Leads g w st ⟨[], none, [], x, false, false, false, t⟩
      (g.adapt w tool operation effective b)
      (fun _ v => Delivered g w request tool query s { v with response := verified v.response })
      fun _ => Sound g w request tool query s := by
  have hsound : Sound g w request tool query s ⟨[], none, [], x, false, false, false, t⟩ :=
    Sound.of_read htool hauth (by rw [houtcome]; decide)
  unfold WriteGateway.adapt
  rw [if_neg htool]
  split
  · refine Leads.stay (Leads.lift (fun _ _ => rfl) fun _ _ => hsound) fun awardId => ?_
    refine Leads.stay (Leads.consult hw (fun _ => rfl) fun _ => hsound) fun state => ?_
    refine Leads.modify (k := fun v => { v with response := { v.response with
      result := some state, transactionOutcome := .readOnly, custody := .readOnlyNoFence } })
      (fun _ => rfl) (fun _ => rfl) (fun _ _ => rfl) ?_
    exact
      { sound := Sound.of_read htool hauth.report nofun
        blocked := rfl
        entries := hauth.entries
        verification := rfl
        evidence := rfl
        result := .inr ⟨rfl, rfl, rfl⟩ }
  · exact Leads.throw hsound

/-- The envelope is the one its grant issued. -/
lemma approvalReference_grant (hs : s.Inv) {c : EvaluateCall}
    (hgr : Granted g.authority w.evaluation s c gr) {reference : String}
    (h : (s.grant gr).approvalReference gr.retained.identity = .ok reference) :
    reference = gr.retained.approvalReference := by
  unfold Issuance.approvalReference at h
  rw [find?_grant hs hgr] at h
  exact (Except.ok.inj h).symm

/-- What follows the consumption, from where the custody is settled. -/
lemma leads_enter {v : View} {facts : StateFacts} {operation : Json}
    (hgr : Granted g.authority w.evaluation s (w.evaluateCall request tool query facts) gr)
    (hissuance : v.issuance = s.grant gr) (hentries : v.response.adapterEntries = 0)
    (hdecision : v.response.decision = .permit) (hissued : v.response.bindingIssued = true)
    (hbinding : v.response.binding = some gr.retained.envelope.binding.auditRecord)
    (hidle : ∀ y t, y.adapterEntries = 0 → y.transactionOutcome = v.response.transactionOutcome →
      Spends g w request tool query s t →
      Sound g w request tool query s { v with response := y, issuance := t })
    (hadapt : ∀ y t, Authorized g w request tool query s gr y t →
      y.transactionOutcome = v.response.transactionOutcome →
      Leads g w st { v with response := y, issuance := t }
        (g.adapt w tool operation effective gr.retained.envelope.binding.sha256)
        (fun _ v => Delivered g w request tool query s { v with response := verified v.response })
        fun _ => Sound g w request tool query s) :
    Leads g w st v (do
        let binding ← g.consume w gr.retained.identity gr.retained.envelope request tool effective
        answer fun x => { x with bindingConsumed := true }
        emit w .bindingConsumed
        emit w .adapterEntry
        answer fun x => { x with adapterEntries := 1 }
        g.adapt w tool operation effective binding.sha256
        answer fun x => { x with
          resultVerification := .verified, evidenceSha256 := x.result.map digest }
        emit w .completed)
      (fun _ => Delivered g w request tool query s) fun _ => Sound g w request tool query s := by
  have hspends : Spends g w request tool query s (v.issuance.drop gr.retained.identity) := by
    rw [hissuance]
    exact .consumed hgr
  refine Leads.bind (Leads.consume (Q := fun binding v' => binding = gr.retained.envelope.binding ∧
    v' = { v with issuance := v.issuance.drop gr.retained.identity }) ⟨rfl, rfl⟩
    fun _ => hidle _ _ hentries rfl hspends) ?_
  rintro binding _ ⟨rfl, rfl⟩
  have hconsumed := hidle { v.response with bindingConsumed := true } _ hentries rfl hspends
  refine Leads.answer ?_
  refine Leads.stay (Leads.emit rfl hconsumed.block) fun _ => ?_
  refine Leads.stay (Leads.emit rfl hconsumed.block) fun _ => ?_
  refine Leads.answer ?_
  have hauth : Authorized g w request tool query s gr
      { v.response with bindingConsumed := true, adapterEntries := 1 }
      (v.issuance.drop gr.retained.identity) :=
    ⟨⟨facts, hgr⟩, hdecision, hissued, rfl, hbinding, rfl, by rw [hissuance]⟩
  refine Leads.bind (hadapt _ _ hauth rfl) ?_
  rintro _ v' hdelivered
  refine Leads.answer ?_
  exact Leads.emit hdelivered hdelivered.sound.block

lemma leads_dispatch {facts : StateFacts} (hw : w.Apart) (hs : s.Inv)
    (hgr : Granted g.authority w.evaluation s (w.evaluateCall request tool query facts) gr)
    (hentries : x.adapterEntries = 0) (houtcome : x.transactionOutcome = .notDispatched)
    (hdecision : x.decision = .permit) (hissued : x.bindingIssued = true)
    (hbinding : x.binding = some gr.retained.envelope.binding.auditRecord) :
    Leads g w st ⟨[], none, [], x, false, false, false, s.grant gr⟩
      (g.dispatch w request tool gr.retained.identity gr.retained.envelope)
      (fun _ => Delivered g w request tool query s) fun _ => Sound g w request tool query s := by
  have hidle : ∀ y blocked t, y.adapterEntries = 0 → y.transactionOutcome = .notDispatched →
      Spends g w request tool query s t →
      Sound g w request tool query s ⟨[], none, [], y, false, false, blocked, t⟩ :=
    fun _ _ _ hy hy' ht => Sound.of_idle rfl ht hy hy' ⟨.null, "", List.nil_prefix⟩
      (.inl ⟨rfl, rfl⟩)
  have hsound : ∀ blocked, Sound g w request tool query s
      ⟨[], none, [], x, false, false, blocked, s.grant gr⟩ :=
    fun _ => hidle _ _ _ hentries houtcome (.granted hgr)
  unfold WriteGateway.dispatch
  refine Leads.stay (Leads.emit rfl (hsound _)) fun _ => ?_
  refine Leads.bind (Leads.lift (Q := fun effective v =>
    loads gr.retained.envelope.binding.argumentsJson = some effective ∧
      v = ⟨[], none, [], x, false, false, false, s.grant gr⟩)
    (fun effective h => ⟨demand_eq_ok.mp (Except.reraise_eq_ok.mp h), rfl⟩)
    fun _ _ => hsound _) ?_
  rintro effective _ ⟨hloads, rfl⟩
  refine Leads.bind (Leads.approvalReference (Q := fun reference v =>
    reference = gr.retained.approvalReference ∧
      v = ⟨[], none, [], x, false, false, false, s.grant gr⟩)
    (fun reference h => ⟨approvalReference_grant hs hgr h, rfl⟩) fun _ => hsound _) ?_
  rintro reference _ ⟨rfl, rfl⟩
  by_cases htool : tool = Tool.write.text
  · rw [if_pos htool]
    refine Leads.bind (leads_openIntent hw (.granted hgr) hentries houtcome) ?_
    rintro _ _ ⟨op, hop, rfl⟩
    refine leads_enter hgr rfl hentries hdecision hissued hbinding ?_ ?_
    · exact fun y t hy hy' ht => Sound.of_idle rfl ht hy (hy'.trans houtcome)
        ⟨_, _, List.prefix_rfl⟩ (.inr ⟨op, _, rfl⟩)
    · exact fun y t hauth hy =>
        leads_adapt_write hw ⟨htool, hloads, hop⟩ hauth (hy.trans houtcome)
  · rw [if_neg htool]
    refine leads_enter hgr rfl hentries hdecision hissued hbinding ?_ ?_
    · exact fun y t hy hy' => hidle y false t hy (hy'.trans houtcome)
    · exact fun y t hauth hy => leads_adapt_read hw htool hauth (hy.trans houtcome)

end

/-! ## The handler -/

/-- What a call reports is so. -/
structure Truthful (g : WriteGateway) (w : GatewayWorld) (request tool : String)
    (query : Arguments) (s : Issuance) (v : View) : Prop where
  settled : v.calls = []
  spends : Spends g w request tool query s v.issuance
  idle : v.response.adapterEntries = 0 → Idle w v
  entered : v.response.adapterEntries ≠ 0 → Entered g w request tool query s v
  undispatched : v.response.transactionOutcome = .notDispatched → v.response.adapterEntries = 0
  custodyOpen : v.response.custody = .open → ∃ i, v.row = some i ∧ i.custody = .open
  custodyClosed : v.response.custody = .closed → Closed w v
  committed : v.response.transactionOutcome = .committed →
    ∃ i, v.row = some i ∧ i.receiptJson.isSome = true
  verified : v.response.resultVerification = .verified → v.response.adapterEntries = 1 ∧
    v.response.evidenceSha256 = v.response.result.map digest ∧
    (v.response.custody = .closed ∨ v.response.custody = .readOnlyNoFence ∧
      v.response.transactionOutcome = .readOnly ∧ v.response.result.isSome = true)
  withheld : v.response.resultVerification ≠ .verified →
    v.response.result = none ∧ v.response.evidenceSha256 = none
  blocked : v.blocked = true ↔ v.response.custody = .open ∨ v.response.custody = .unknown

/-- An idle call stays idle, whatever is reported of it. -/
lemma Idle.report {v : View} (h : Idle w v) {x : WriteResponseV1} {blocked : Bool}
    (hx : x.transactionOutcome = .notDispatched) :
    Idle w { v with response := x, blocked } := ⟨hx, h.row, h.own⟩

lemma Entered.report {v : View} (h : Entered g w request tool query s v) {reasons : List String}
    {o : TransactionOutcome} {verification : ResultVerification} {custody : ResponseCustody}
    {result : Option Json} {evidence : Option String} {blocked : Bool} :
    Entered g w request tool query s { v with
      blocked
      response := { v.response with
        reasons, transactionOutcome := o, resultVerification := verification, custody, result,
        evidenceSha256 := evidence } } where
  entered := by
    obtain ⟨gr, hauth, hwrite, hother⟩ := h.entered
    refine ⟨gr, hauth.report, fun htool => ?_, hother⟩
    obtain ⟨effective, op, hsub⟩ := hwrite htool
    exact ⟨effective, op, hsub.loads, hsub.operation, hsub.row, hsub.own, hsub.attempted⟩

/-- The handler reports the truth from flags that are right. -/
lemma Sound.stopped {v : View} (h : Sound g w request tool query s v) {e : GatewayRaise}
    {className : String} {custody : ResponseCustody}
    (hcustody : custody = .unknown ∨
      custody = .open ∧ v.intentOpen = true ∧ v.closeAttempted = false) :
    Truthful g w request tool query s { v with
      blocked := true
      response := { v.response.stopped e v.intentOpen v.closeAttempted className with
        custody } } where
  settled := h.settled
  spends := h.spends
  idle hzero := by
    have hidle := h.idle hzero
    refine hidle.report ?_
    show (if v.response.transactionOutcome = .committed then TransactionOutcome.committed
      else if v.response.adapterEntries = 0 then .notDispatched else .unknown) = .notDispatched
    rw [hidle.outcome, if_neg (by decide)]
    exact if_pos hzero
  entered hne := (h.entered hne).report
  undispatched := by
    show (if v.response.transactionOutcome = .committed then TransactionOutcome.committed
      else if v.response.adapterEntries = 0 then .notDispatched else .unknown) =
        .notDispatched → v.response.adapterEntries = 0
    split
    · exact nofun
    · split
      · exact fun _ => ‹_›
      · exact nofun
  custodyOpen hopen := by
    rcases hcustody with hunknown | ⟨-, hintent, hclose⟩
    · cases hunknown.symm.trans hopen
    · exact h.opened hintent hclose
  custodyClosed hclosed := by
    rcases hcustody with hunknown | ⟨hopen, -, -⟩
    · cases hunknown.symm.trans hclosed
    · cases hopen.symm.trans hclosed
  committed := by
    show (if v.response.transactionOutcome = .committed then TransactionOutcome.committed
      else if v.response.adapterEntries = 0 then .notDispatched else .unknown) = .committed → _
    split
    · exact fun _ => h.committed ‹_›
    · split
      · exact nofun
      · exact nofun
  verified := nofun
  withheld _ := ⟨rfl, rfl⟩
  blocked := ⟨fun _ => hcustody.symm.imp And.left id, fun _ => rfl⟩

lemma leads_stop {v : View} (h : Sound g w request tool query s v) (e : GatewayRaise) :
    Leads g w st v (stop w e) (fun _ => Truthful g w request tool query s)
      fun _ => Sound g w request tool query s := by
  unfold stop
  refine Leads.check (fun _ => ?_) h
  refine Leads.bind (Leads.modify (Q := fun _ v' => v' = { v with
      blocked := true
      response := v.response.stopped e v.intentOpen v.closeAttempted w.className })
    (k := fun v => { v with
      blocked := true
      response := v.response.stopped e v.intentOpen v.closeAttempted w.className })
    (fun _ => rfl) (fun _ => rfl) (fun _ _ => rfl) rfl) ?_
  rintro _ _ rfl
  refine Leads.tryCatch (Leads.emit (E := fun _ v' => v' = { v with
      blocked := true
      response := v.response.stopped e v.intentOpen v.closeAttempted w.className }) ?_ rfl) ?_
  · refine h.stopped ?_
    by_cases hopen : (v.intentOpen && !v.closeAttempted && v.response.custody ≠ .closed &&
        e.code? ≠ some StoreCode.custodyAckUnknown.text) = true
    · have hflags := hopen
      simp only [Bool.and_eq_true, Bool.not_eq_true'] at hflags
      obtain ⟨⟨⟨hintent, hclose⟩, -⟩, -⟩ := hflags
      exact .inr ⟨if_pos hopen, hintent, hclose⟩
    · exact .inl (if_neg hopen)
  · rintro e' _ rfl
    exact Leads.modify
      (k := fun v => { v with response := { v.response with custody := .unknown } })
      (fun _ => rfl) (fun _ => rfl) (fun _ _ => rfl) (h.stopped (.inl rfl))

/-! ## The whole call -/

/-- The call was refused by the authority. -/
structure Refused (w : GatewayWorld) (request tool : String) (s : Issuance) (v : View) : Prop where
  view : ∃ policy : PolicyResult, policy.decision ≠ .permit ∧
    v = ⟨[], none, [], { WriteResponseV1.initial w.observationId tool request with
      decision := policy.decision, reasons := policy.reasons }, false, false, false, s⟩

lemma leads_decideAndDispatch {Model : Type} {rules : TextRules Model} {facts : StateFacts}
    (hw : w.Apart) (hs : s.Inv) :
    Leads g w st ⟨[], none, [], .initial w.observationId tool request, false, false, false, s⟩
      (g.decideAndDispatch rules w request tool query facts)
      (fun _ v => Refused w request tool s v ∨ Delivered g w request tool query s v)
      fun _ => Sound g w request tool query s := by
  have hidle : ∀ y blocked t, y.adapterEntries = 0 → y.transactionOutcome = .notDispatched →
      Spends g w request tool query s t →
      Sound g w request tool query s ⟨[], none, [], y, false, false, blocked, t⟩ :=
    fun _ _ _ hy hy' ht => Sound.of_idle rfl ht hy hy' ⟨.null, "", List.nil_prefix⟩
      (.inl ⟨rfl, rfl⟩)
  unfold WriteGateway.decideAndDispatch
  refine Leads.bind (Leads.evaluate (Q := fun evaluation v =>
    (evaluation.envelope = none ∧ evaluation.policy.decision ≠ .permit ∧
      v = ⟨[], none, [], .initial w.observationId tool request, false, false, false, s⟩) ∨
    ∃ gr, Granted g.authority w.evaluation s (w.evaluateCall request tool query facts) gr ∧
      evaluation = ⟨permit, some (gr.retained.identity, gr.retained.envelope)⟩ ∧
      v = ⟨[], none, [], .initial w.observationId tool request, false, false, false, s.grant gr⟩)
    ?_ ?_ ?_) ?_
  · exact fun p hp => .inl ⟨rfl, hp, rfl⟩
  · exact fun gr hgr => .inr ⟨gr, hgr, rfl, rfl⟩
  · exact fun _ => hidle _ _ _ rfl rfl .kept
  rintro evaluation _ (⟨hnone, hdecision, rfl⟩ | ⟨gr, hgr, rfl, rfl⟩)
  · refine Leads.answer ?_
    rw [hnone]
    refine Leads.stay (Leads.emit rfl (hidle _ _ _ rfl rfl .kept)) fun _ => ?_
    exact Leads.emit (.inl ⟨_, hdecision, rfl⟩) (hidle _ _ _ rfl rfl .kept)
  · refine Leads.answer ?_
    refine Leads.answer ?_
    refine Leads.stay (Leads.emit rfl (hidle _ _ _ rfl rfl (.granted hgr))) fun _ => ?_
    exact Leads.mono (leads_dispatch hw hs hgr rfl rfl rfl rfl rfl) fun _ _ => .inr

/-- A call that went through, or was refused, reports so. -/
lemma Delivered.truthful {v : View} (h : Delivered g w request tool query s v) :
    Truthful g w request tool query s v where
  settled := h.sound.settled
  spends := h.sound.spends
  idle := h.sound.idle
  entered := h.sound.entered
  undispatched hnot := by
    rcases h.result with ⟨-, hclosed⟩ | ⟨-, hread, -⟩
    · cases hclosed.outcome.symm.trans hnot
    · cases hread.symm.trans hnot
  custodyOpen hopen := by
    rcases h.result with ⟨hclosed, -⟩ | ⟨hread, -⟩
    · cases hclosed.symm.trans hopen
    · cases hread.symm.trans hopen
  custodyClosed hclosed := by
    rcases h.result with ⟨-, hdone⟩ | ⟨hread, -⟩
    · exact hdone
    · cases hread.symm.trans hclosed
  committed := h.sound.committed
  verified _ := ⟨h.entries, h.evidence, h.result.imp And.left id⟩
  withheld hne := absurd h.verification hne
  blocked := by
    refine ⟨fun hblocked => ?_, fun hcustody => ?_⟩
    · cases h.blocked.symm.trans hblocked
    · rcases h.result with ⟨hclosed, -⟩ | ⟨hread, -⟩ <;> rcases hcustody with hc | hc
      · cases hclosed.symm.trans hc
      · cases hclosed.symm.trans hc
      · cases hread.symm.trans hc
      · cases hread.symm.trans hc

/-- A response that says nothing was dispatched, of a call that did nothing. -/
lemma truthful_untouched {x : WriteResponseV1} {blocked : Bool} (hentries : x.adapterEntries = 0)
    (houtcome : x.transactionOutcome = .notDispatched) (hresult : x.result = none)
    (hevidence : x.evidenceSha256 = none) (hverification : x.resultVerification = .notExecuted)
    (hcustody : blocked = true ∧ x.custody = .unknown ∨
      blocked = false ∧ x.custody = .notOpened) :
    Truthful g w request tool query s ⟨[], none, [], x, false, false, blocked, s⟩ where
  settled := rfl
  spends := .kept
  idle _ := ⟨houtcome, nofun, .null, "", List.nil_prefix⟩
  entered hne := absurd hentries hne
  undispatched _ := hentries
  custodyOpen hopen := by
    rcases hcustody with ⟨-, hc⟩ | ⟨-, hc⟩ <;> cases hc.symm.trans hopen
  custodyClosed hclosed := by
    rcases hcustody with ⟨-, hc⟩ | ⟨-, hc⟩ <;> cases hc.symm.trans hclosed
  committed h := by cases houtcome.symm.trans h
  verified h := by cases hverification.symm.trans h
  withheld _ := ⟨hresult, hevidence⟩
  blocked := by
    rcases hcustody with ⟨hb, hc⟩ | ⟨hb, hc⟩
    · exact ⟨fun _ => .inr hc, fun _ => hb⟩
    · refine ⟨fun h => ?_, fun h => ?_⟩
      · cases hb.symm.trans h
      · rcases h with h | h <;> cases hc.symm.trans h

/-- The view a call starts with. -/
def startView (w : GatewayWorld) (request tool : String) (s : Issuance) : View :=
  ⟨[], none, [], .initial w.observationId tool request, false, false, false, s⟩

/-- How reading the facts raises: only the audit raises an `OSError`, and then it blocks. -/
def FactsRaise (w : GatewayWorld) (request tool : String) (s : Issuance) (e : GatewayRaise)
    (v : View) : Prop :=
  (e = .osError ∧ v = { startView w request tool s with blocked := true }) ∨
    e ≠ .osError ∧ v = startView w request tool s

lemma leads_readFacts (hw : w.Apart) :
    Leads g w st (startView w request tool s) (g.readFacts w query)
      (fun _ v => v = startView w request tool s) (FactsRaise w request tool s) := by
  have hlift : ∀ {α : Type} (x : Except PyException α),
      Leads g w st (startView w request tool s) (Program.lift (Except.reraise x .python))
        (fun _ v => v = startView w request tool s) (FactsRaise w request tool s) := by
    intro α x
    refine Leads.lift (fun _ _ => rfl) fun e he => .inr ⟨?_, rfl⟩
    rintro rfl
    cases x <;> cases he
  have hread : ∀ {k : Json → GatewayOp StateFacts},
      (∀ state, (∃ facts, k state = pure facts) ∨ k state = throw (.python .valueError)) →
      ∀ awardId, Leads g w st (startView w request tool s) (g.snapshot w .facts awardId >>= k)
        (fun _ v => v = startView w request tool s) (FactsRaise w request tool s) := by
    intro k hk awardId
    have hfailed : ∀ e, FactsRaise w request tool s (.store e) (startView w request tool s) :=
      fun e => .inr ⟨(fun h => by cases h), rfl⟩
    refine Leads.stay (Leads.consult hw (fun _ => rfl) hfailed) fun state => ?_
    rcases hk state with ⟨facts, hfacts⟩ | hthrow
    · rw [hfacts]
      exact Leads.pure rfl
    · rw [hthrow]
      exact Leads.throw (.inr ⟨(fun h => by cases h), rfl⟩)
  unfold WriteGateway.readFacts
  cases query with
  | unprintable e => exact Leads.throw (.inr ⟨(fun h => by cases h), rfl⟩)
  | notDict =>
      refine Leads.stay (hlift _) fun _ => ?_
      refine Leads.stay (Leads.emit rfl (.inl ⟨rfl, rfl⟩)) fun _ => ?_
      refine Leads.stay (hlift _) (hread fun state => ?_)
      split
      exacts [.inl ⟨_, rfl⟩, .inr rfl]
  | dict entries =>
      refine Leads.stay (Leads.emit rfl (.inl ⟨rfl, rfl⟩)) fun _ => ?_
      dsimp only
      split
      · refine Leads.stay (Leads.pure rfl) (hread fun state => ?_)
        split
        exacts [.inl ⟨_, rfl⟩, .inr rfl]
      · refine Leads.stay (Leads.pure rfl) (hread fun state => ?_)
        split
        exacts [.inl ⟨_, rfl⟩, .inr rfl]
      · refine Leads.stay (hlift _) (hread fun state => ?_)
        split
        exacts [.inl ⟨_, rfl⟩, .inr rfl]

lemma leads_facts (hw : w.Apart) :
    Leads g w st (startView w request tool s) (g.facts w query)
      (fun facts v => match facts with
        | some _ => v = startView w request tool s
        | none => Truthful g w request tool query s v)
      fun _ => Sound g w request tool query s := by
  have hsound : Sound g w request tool query s (startView w request tool s) :=
    Sound.of_idle rfl .kept rfl rfl ⟨.null, "", List.nil_prefix⟩ (.inl ⟨rfl, rfl⟩)
  unfold WriteGateway.facts
  refine Leads.tryCatch (E := FactsRaise w request tool s) ?_ ?_
  · exact Leads.stay (leads_readFacts hw) fun facts => Leads.pure rfl
  rintro e v (⟨rfl, rfl⟩ | ⟨hne, rfl⟩)
  · refine Leads.answer ?_
    exact Leads.pure (truthful_untouched rfl rfl rfl rfl rfl (.inl ⟨rfl, rfl⟩))
  · split
    · split
      · exact Leads.pure rfl
      · refine Leads.bind (Leads.modify (k := fun v => { v with blocked := true })
          (Q := fun _ v => v = { startView w request tool s with blocked := true })
          (fun _ => rfl) (fun _ => rfl) (fun _ _ => rfl) rfl) ?_
        rintro _ _ rfl
        refine Leads.answer ?_
        exact Leads.pure (truthful_untouched rfl rfl rfl rfl rfl (.inl ⟨rfl, rfl⟩))
    · exact absurd rfl hne
    · exact Leads.throw hsound

/-- However a call ends, its report is true, or it left its flags right and raised. -/
lemma leads_body {Model : Type} {rules : TextRules Model} (hw : w.Apart) (hs : s.Inv) :
    Leads g w st (startView w request tool s) (g.body rules w request tool query)
      (fun _ => Truthful g w request tool query s) fun _ => Sound g w request tool query s := by
  unfold WriteGateway.body
  refine Leads.bind (leads_facts hw) ?_
  rintro (_ | facts) v hv
  · exact Leads.pure hv
  · obtain rfl := hv
    refine Leads.tryCatch (Leads.mono (leads_decideAndDispatch hw hs) ?_) fun e v hv =>
      leads_stop hv e
    rintro _ v (⟨policy, -, rfl⟩ | hdelivered)
    · exact truthful_untouched rfl rfl rfl rfl rfl (.inr ⟨rfl, rfl⟩)
    · exact hdelivered.truthful

end

end CivicGate.Write01
