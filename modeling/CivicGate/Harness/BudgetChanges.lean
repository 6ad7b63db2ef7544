import CivicGate.Harness.LiveAttemptBudget

/-!
# What a transaction of the budget does

`Change` lists everything a method call can do to the store, each with the guards it passed.
`change_of_body` derives it from the bodies once; every invariant below is proved from it, and no
later proof opens a body.  `halts_body` is the other half: a body that raises leaves nothing but a
stop.
-/

namespace CivicGate.Harness

variable {p : BudgetProcess} {x : Fresh} {s t : BudgetStore}

/-! ## Guards -/

/-- Not stopped, and no fence is open but the one the process holds on this observation. -/
structure Running (p : BudgetProcess) (s : BudgetStore) (observationId : String) : Prop where
  running : s.isStopped = false
  access : ∀ f ∈ s.fences, f.state = .opened →
    p.active = some f.capability ∧ observationId = f.observationId

/-- The process holds the open fence of the observation. -/
structure Holding (p : BudgetProcess) (s : BudgetStore) (observationId : String) : Prop
    extends Running p s observationId where
  holds : ∃ f ∈ s.fences, f.state = .opened ∧ f.observationId = observationId ∧
    p.active = some f.capability

/-- The observation is counted, within the maximum. -/
def Observed (s : BudgetStore) (observationId : String) (observations : List String) : Prop :=
  (observationId ∈ s.observations ∧ observations = s.observations) ∨
    (observationId ∉ s.observations ∧ s.observations.length < s.maxObservations ∧
      observations = s.observations ++ [observationId])

/-- A reservation that `reserve` may add after the earlier attempts of its lane. -/
structure Admissible (s : BudgetStore) (r : AttemptReservation) : Prop where
  fresh : ∀ b ∈ s.laneOf (r.observationId, r.role), b.reservation.retryCount ≠ r.retryCount
  retry : r.retryCount ≠ 0 → ∃ original, s.laneOf (r.observationId, r.role) = [original] ∧
    (∃ outcome, original.outcome = some outcome ∧ outcome.known = true) ∧
    original.reservation.identity = r.identity
  index : r.retryCount = 0 ∨ r.retryCount = 1
  cap : s.attempts.countP (·.reservation.role = r.role) < s.roleCaps.of r.role
  attemptId : r.attemptId ∉ s.attempts.map Attempt.attemptId

/-- The context of a lane lets the process act on it. -/
structure ContextOpen (p : BudgetProcess) (s : BudgetStore) (t : LiveTables)
    (context : RequestContext) : Prop extends Holding p s context.observationId where
  live : s.live = some t
  bound : context ∈ t.contexts
  admitted : context.role = .judge → ∃ mcp ∈ s.mcpCalls,
    mcp.observationId = context.observationId ∧ mcp.state = .admitted ∧
      context.effectiveInvocationSha256 = some mcp.proposalSha256

/-- The attempt is the only one of its lane that is under way. -/
structure OnlyInFlight (s : BudgetStore) (a : Attempt) : Prop where
  mem : a ∈ s.attempts
  state : a.state = .inFlight
  only : ∀ b ∈ s.attempts, b.lane = a.lane → b.state = .inFlight → b = a

lemma checkFence_eq_ok {o : String} {row : Fence} {u : Unit} :
    (do check (p.active = some row.capability) (.recoveryBlocked "UNRESOLVED_OBSERVATION_FENCE")
        check (o = row.observationId) (.recoveryBlocked "OTHER_OBSERVATION_FENCE_ACTIVE") :
      Body Unit) = .ok u ↔ p.active = some row.capability ∧ o = row.observationId := by
  simp

lemma assertFenceAccess_eq_ok {o : String} {u : Unit} :
    p.assertFenceAccess s o = .ok u ↔ ∀ f ∈ s.fences, f.state = .opened →
      p.active = some f.capability ∧ o = f.observationId := by
  simp only [BudgetProcess.assertFenceAccess, Except.forM_eq_ok, checkFence_eq_ok,
    List.mem_filter, decide_eq_true_eq, and_imp]

lemma assertRunning_eq_ok {o : String} {u : Unit} :
    p.assertRunning s o = .ok u ↔ Running p s o := by
  simp only [BudgetProcess.assertRunning, Except.bind_eq_ok, check_eq_ok, Bool.not_eq_true',
    assertFenceAccess_eq_ok, exists_const]
  exact ⟨fun h => ⟨h.1, h.2⟩, fun h => ⟨h.1, h.2⟩⟩

lemma exists_of_holdsFence {o : String} (h : p.holdsFence s o = true) :
    ∃ f ∈ s.fences, f.state = .opened ∧ f.observationId = o ∧ p.active = some f.capability := by
  simp only [BudgetProcess.holdsFence, Option.any_eq_true_iff_get, Bool.and_eq_true,
    decide_eq_true_eq] at h
  obtain ⟨hsome, hstate, hactive⟩ := h
  have hf := Option.some_get hsome
  have hkey : ((s.fence? o).get hsome).observationId = o := Table.key_of_get? hf.symm
  refine ⟨(s.fence? o).get hsome, Table.mem_of_get? hf.symm, hstate, hkey, ?_⟩
  rw [hactive, Fence.capability, hkey]

lemma holding_of_assertOpen {o : String} {u : Unit} (h : p.assertOpen s o = .ok u) :
    Holding p s o := by
  simp only [BudgetProcess.assertOpen, Except.bind_eq_ok, check_eq_ok, assertRunning_eq_ok] at h
  obtain ⟨_, _, _, hrunning, hholds⟩ := h
  exact ⟨hrunning, exists_of_holdsFence hholds⟩

lemma observed_of_reserveObservation {o : String}
    (h : s.reserveObservation o = .ok t) :
    ∃ observations, Observed s o observations ∧ t = { s with observations := observations } := by
  unfold BudgetStore.reserveObservation at h
  split at h
  · rename_i hmem
    cases h
    exact ⟨_, .inl ⟨hmem, rfl⟩, rfl⟩
  · rename_i hmem
    simp only [Except.bind_eq_ok, BudgetStore.haltIf, Except.ok.injEq] at h
    obtain ⟨_, hcount, rfl⟩ := h
    split at hcount
    · cases hcount
    · rename_i hroom
      exact ⟨_, .inr ⟨hmem, by simpa using hroom, rfl⟩, rfl⟩

lemma insertAttempt_eq_ok {r : AttemptReservation} (h : s.insertAttempt r = .ok t) :
    r.attemptId ∉ s.attempts.map Attempt.attemptId ∧
      t = { s with attempts := s.attempts ++ [{ reservation := r }] } := by
  simp only [BudgetStore.insertAttempt, Except.bind_eq_ok, check_eq_ok, List.all_eq_true,
    decide_eq_true_eq, Except.ok.injEq] at h
  obtain ⟨_, hfresh, rfl⟩ := h
  refine ⟨fun hmem => ?_, rfl⟩
  obtain ⟨a, ha, hid⟩ := List.mem_map.mp hmem
  exact (hfresh a ha).1 hid

lemma checkPrior_eq_ok {a : ReserveArgs} {prior : List Attempt} {u : Unit}
    (h : a.checkPrior prior = .ok u) :
    (∀ b ∈ prior, b.reservation.retryCount ≠ a.retryCount) ∧
      (a.retryCount ≠ 0 → ∃ original, prior = [original] ∧
        (∃ outcome, original.outcome = some outcome ∧ outcome.known = true) ∧
        original.reservation.identity = a.identity) := by
  simp only [ReserveArgs.checkPrior, Except.bind_eq_ok, check_eq_ok, List.all_eq_true,
    decide_eq_true_eq] at h
  obtain ⟨_, hindex, hretry⟩ := h
  refine ⟨hindex, fun hne => ?_⟩
  rw [if_pos hne] at hretry
  split at hretry
  · rename_i original
    simp only [Except.bind_eq_ok, check_eq_ok, decide_eq_true_eq, Option.any_eq_true] at hretry
    obtain ⟨_, ⟨outcome, houtcome, hknown⟩, hidentity⟩ := hretry
    exact ⟨original, rfl, ⟨outcome, houtcome, hknown⟩, hidentity⟩
  · cases hretry

lemma index_of_validate {a : ReserveArgs} {u : Unit} (h : a.validate = .ok u) :
    a.retryCount = 0 ∨ a.retryCount = 1 := by
  simp only [ReserveArgs.validate, Except.bind_eq_ok, check_eq_ok] at h
  obtain ⟨_, _, _, _, _, hindex, _⟩ := h
  exact of_decide_eq_true hindex

lemma checkRoleCap_eq_ok {role : Role} {u : Unit} (h : s.checkRoleCap role = .ok u) :
    s.attempts.countP (·.reservation.role = role) < s.roleCaps.of role := by
  unfold BudgetStore.checkRoleCap BudgetStore.haltIf at h
  split at h
  · cases h
  · rename_i hcap
    simpa using hcap

lemma row_eq_ok {r : AttemptReservation} {a : Attempt} (h : BudgetProcess.row s r = .ok a) :
    a ∈ s.attempts ∧ a.reservation = r := by
  unfold BudgetProcess.row at h
  split at h
  · rename_i row hrow
    simp only [Except.bind_eq_ok, check_eq_ok, decide_eq_true_eq, Except.ok.injEq] at h
    obtain ⟨_, hreservation, rfl⟩ := h
    exact ⟨Table.mem_of_get? hrow, hreservation⟩
  · cases h

lemma tables_eq_ok {u : LiveTables} : BudgetProcess.tables s = .ok u ↔ s.live = some u := by
  unfold BudgetProcess.tables
  cases s.live <;> simp

lemma contextOpen_of_assertContext {e : ExpectedContext} {context : RequestContext}
    (h : p.assertContext s e = .ok context) :
    ∃ u, ContextOpen p s u context ∧ context.lane = e.lane ∧ e.agrees context = true := by
  simp only [BudgetProcess.assertContext, Except.bind_eq_ok, tables_eq_ok] at h
  obtain ⟨_, hopen, u, hlive, h⟩ := h
  split at h
  · cases h
  · rename_i c hc
    simp only [Except.bind_eq_ok, check_eq_ok, Except.ok.injEq] at h
    obtain ⟨_, hagrees, _, hjudge, rfl⟩ := h
    have hlane : c.lane = e.lane := Table.key_of_get? hc
    obtain ⟨ho, hrole⟩ := Prod.mk.inj hlane
    refine ⟨u, ⟨?_, hlive, Table.mem_of_get? hc, fun hrole' => ?_⟩, hlane, hagrees⟩
    · rw [ho]
      exact holding_of_assertOpen hopen
    · have hadmitted := (of_decide_eq_true hjudge).resolve_left
        (not_not.mpr (hrole.symm.trans hrole'))
      simp only [BudgetProcess.judgeAdmitted, Option.any_eq_true, Bool.and_eq_true,
        decide_eq_true_eq] at hadmitted
      obtain ⟨mcp, hmcp, hstate, sha, hsha, -, hproposal⟩ := hadmitted
      exact ⟨mcp, Table.mem_of_get? hmcp, Table.key_of_get? hmcp, hstate, by rw [hsha, hproposal]⟩

lemma onlyInFlight_of_inFlight? {lane : String × Role} {a : Attempt}
    (h : BudgetProcess.inFlight? s lane = some a) : OnlyInFlight s a ∧ a.lane = lane := by
  unfold BudgetProcess.inFlight? at h
  split at h
  · rename_i row hrows
    cases h
    have hmem : ∀ b, b ∈ (s.laneOf lane).filter (·.state = .inFlight) ↔
        (b ∈ s.attempts ∧ b.lane = lane) ∧ b.state = .inFlight := by
      intro b
      rw [List.mem_filter, BudgetStore.laneOf, List.mem_filter]
      simp
    rw [hrows] at hmem
    have ha := (hmem a).mp (List.mem_singleton_self a)
    refine ⟨⟨ha.1.1, ha.2, fun b hb hlane hstate => ?_⟩, ha.1.2⟩
    exact List.mem_singleton.mp ((hmem b).mpr ⟨⟨hb, hlane.trans ha.1.2⟩, hstate⟩)
  · cases h

/-! ## The changes -/

/-- A method call that returns, with its answer and the store it leaves. -/
inductive Change (p : BudgetProcess) (x : Fresh) (s : BudgetStore) :
    BudgetCall → BudgetAnswer → BudgetStore → Prop
  | asserted {o} : Change p x s (.assertActiveObservation o) .none s
  | recoverable : s.isStopped = false → Change p x s .ensureRecoverable .none s
  | admissible {a} : Change p x s (.assertSendAdmissible a) .none s
  | kept {o c} : p.active = some c → Change p x s (.beginObservation o) (.capability c) s
  | opened {o observations} : p.active = none → Running p s o → s.pending = false →
      o ∉ s.fences.map Fence.observationId → x.uuids 0 ∉ s.fences.map Fence.fenceId →
      Observed s o observations →
      Change p x s (.beginObservation o) (.capability (o, x.uuids 0))
        { s with
          observations := observations
          fences := s.fences ++ [{ observationId := o, fenceId := x.uuids 0 }] }
  | joined {f} : s.isStopped = false → f ∈ s.fences → f.state = .opened →
      Change p x s (.joinObservation f.observationId f.fenceId) (.capability f.capability) s
  | closed {o sha} : Holding p s o →
      (∀ a ∈ s.attempts, a.state = .terminal ∧ ∃ outcome, a.outcome = some outcome ∧
        outcome.known = true) →
      (∀ c ∈ s.mcpCalls, c.state = .terminal) →
      Change p x s (.closeSafeObservation o sha) .none
        { s with fences := s.fences.map fun f =>
          if f.observationId = o ∧ f.state = .opened then
            { f with state := .closed, summarySha256 := some sha } else f }
  | reserved {a observations} : p.isLive = false → a.validate = .ok () →
      Running p s a.observationId → Admissible s (a.reservation p.runId x) →
      Observed s a.observationId observations →
      Change p x s (.reserve a) (.reservation (a.reservation p.runId x))
        { s with
          observations := observations
          attempts := s.attempts ++ [{ reservation := a.reservation p.runId x }] }
  | reservedLive {a context u total perAttempt} : p.isLive = true → ContextOpen p s u context →
      context.lane = a.lane → context.requestSha256 = a.requestSha256 →
      context.schemaSha256 = a.schemaSha256 → u.policy = .synthetic total perAttempt →
      u.used + perAttempt.of a.role ≤ total → Admissible s (a.reservation p.runId x) →
      x.uuids 0 ∉ u.liabilities.map Liability.attemptId →
      x.uuids 0 ∉ u.leases.map SendLease.attemptId →
      Change p x s (.reserve a) (.reservation (a.reservation p.runId x))
        { s with
          attempts := s.attempts ++ [{ reservation := a.reservation p.runId x }]
          live := some { u with
            liabilities := u.liabilities ++ [⟨x.uuids 0, perAttempt.of a.role⟩]
            leases := u.leases ++ [{
              attemptId := x.uuids 0, leaseId := x.uuids 2, binding := context }] } }
  | started {a} : Running p s a.reservation.observationId → a ∈ s.attempts →
      a.state = .reserved →
      Change p x s (.start a.reservation) .none
        (s.updateAttempt a.attemptId fun b => { b with state := .inFlight })
  | finished {a outcome value safe} : a ∈ s.attempts → a.state ≠ .terminal →
      (outcome = .reservationNoSend → a.state = .reserved) →
      (outcome = .responseObserved → a.state = .inFlight) → outcome.known = true →
      Change p x s (.finish a.reservation outcome value) .none
        (s.updateAttempt a.attemptId fun b =>
          { b with state := .terminal, outcome := some outcome, metadata := safe })
  | rejected {a outcome value safe} : a ∈ s.attempts → a.state ≠ .terminal →
      outcome.known = false →
      Change p x s (.finish a.reservation outcome value) .none
        ((s.updateAttempt a.attemptId fun b =>
          { b with state := .terminal, outcome := some outcome, metadata := safe }).halt
            outcome.text)
  | stopped {reason} : Change p x s (.stop reason) .none (s.halt reason)
  | mcpReserved {o sha observations} : isIdentity o = true → isHash sha = true →
      Running p s o → o ∉ s.mcpCalls.map McpCall.observationId → Observed s o observations →
      Change p x s (.reserveMcp o sha) (.mcp (x.uuids 0))
        { s with
          observations := observations
          mcpCalls := s.mcpCalls ++ [{
            observationId := o, reservationId := x.uuids 0, proposalSha256 := sha }] }
  | mcpAdmitted {c} : Running p s c.observationId → c ∈ s.mcpCalls → c.state = .reserved →
      Change p x s (.admitMcp c.observationId c.proposalSha256) .none
        (s.updateMcp c.observationId fun d => { d with state := .admitted })
  | mcpFinished {c value safe} : c ∈ s.mcpCalls → c.state ≠ .terminal →
      Change p x s (.finishMcp c.observationId .clientResponseObserved value) .none
        (s.updateMcp c.observationId fun d => { d with
          state := .terminal, outcome := some .clientResponseObserved, metadata := safe })
  | mcpUnknown {c value safe} : c ∈ s.mcpCalls → c.state ≠ .terminal →
      Change p x s (.finishMcp c.observationId .clientReceiptUnknown value) .none
        ((s.updateMcp c.observationId fun d => { d with
          state := .terminal, outcome := some .clientReceiptUnknown, metadata := safe }).halt
            "CLIENT_RECEIPT_UNKNOWN")
  | rebound {origins a u} : p.isLive = true →
      ContextOpen p s u (a.context p.runId) → Change p x s (.bindRequestContext origins a) .none s
  | bound {origins a u} : p.isLive = true → Holding p s a.observationId → s.live = some u →
      (a.observationId, a.role) ∉ u.contexts.map RequestContext.lane →
      Change p x s (.bindRequestContext origins a) .none
        { s with live := some { u with contexts := u.contexts ++ [a.context p.runId] } }
  | consumed {a u row lease} : p.isLive = true → ContextOpen p s u (a.context p.runId) →
      OnlyInFlight s row → row.lane = (a.observationId, a.role) → lease ∈ u.leases →
      lease.attemptId = row.attemptId → lease.binding = a.context p.runId →
      lease.state = .available →
      Change p x s (.consumeSendLease a)
        (.receipt ⟨lease.leaseId, lease.attemptId, a.context p.runId, x.now⟩)
        { s with live := some { u with
          leases := Table.update SendLease.attemptId lease.attemptId SendLease.consume u.leases } }
  | recorded {o role sha facts context u row lease receipt document digest} : p.isLive = true →
      ContextOpen p s u context → context.lane = (o, role) → OnlyInFlight s row →
      row.lane = (o, role) → lease ∈ u.leases → lease.attemptId = row.attemptId →
      lease.state = .consumed → row.attemptId ∉ u.facts.map ResponseFacts.attemptId →
      receipt.attemptId = row.attemptId →
      Change p x s (.recordResponseFacts o role sha facts) (.facts receipt)
        { s with live := some { u with
          facts := u.facts ++ [⟨row.attemptId, document, digest⟩] } }

/-! ### From the bodies -/

variable {answer : BudgetAnswer}

lemma answerNone_eq_ok {body : Body BudgetStore} (h : answerNone body = .ok (answer, t)) :
    body = .ok t ∧ answer = .none := by
  simp only [answerNone, Except.bind_eq_ok, Except.ok.injEq, Prod.mk.injEq] at h
  obtain ⟨u, hbody, rfl, rfl⟩ := h
  exact ⟨hbody, rfl⟩

lemma answerWith_eq_ok {α : Type} {f : α → BudgetAnswer} {body : Body (α × BudgetStore)}
    (h : answerWith f body = .ok (answer, t)) : ∃ a, body = .ok (a, t) ∧ answer = f a := by
  simp only [answerWith, Except.bind_eq_ok, Except.ok.injEq, Prod.mk.injEq] at h
  obtain ⟨⟨a, u⟩, hbody, rfl, rfl⟩ := h
  exact ⟨a, hbody, rfl⟩

lemma onlyLive_eq_ok {α : Type} {body : Body α} {a : α} (h : p.onlyLive body = .ok a) :
    p.isLive = true ∧ body = .ok a := by
  unfold BudgetProcess.onlyLive at h
  split at h
  · exact ⟨by assumption, h⟩
  · cases h

lemma change_begin {o : String} {c : Capability} (h : p.beginObservation x s o = .ok (c, t)) :
    Change p x s (.beginObservation o) (.capability c) t := by
  simp only [BudgetProcess.beginObservation, Except.bind_eq_ok] at h
  obtain ⟨_, _, h⟩ := h
  split at h
  · rename_i capability hactive
    simp only [Except.bind_eq_ok, Except.ok.injEq, Prod.mk.injEq] at h
    obtain ⟨_, _, _, _, rfl, rfl⟩ := h
    exact .kept hactive
  · rename_i hactive
    simp only [Except.bind_eq_ok, check_eq_ok, assertRunning_eq_ok, Except.ok.injEq,
      Prod.mk.injEq, Bool.not_eq_true', Option.isNone_iff_eq_none, BudgetStore.fence?,
      Table.get?_eq_none] at h
    obtain ⟨_, _, _, hrunning, _, hpending, _, hnew, u, hobserved, v, hinsert, rfl, rfl⟩ := h
    obtain ⟨observations, hobservations, rfl⟩ := observed_of_reserveObservation hobserved
    simp only [BudgetStore.insertFence, Except.bind_eq_ok, check_eq_ok, List.all_eq_true,
      decide_eq_true_eq, Except.ok.injEq] at hinsert
    obtain ⟨_, hfresh, rfl⟩ := hinsert
    refine .opened hactive hrunning hpending hnew (fun hmem => ?_) hobservations
    obtain ⟨f, hf, hid⟩ := List.mem_map.mp hmem
    exact (hfresh f hf).2 hid

lemma change_join {o f : String} {c : Capability} (h : p.joinObservation s o f = .ok (c, t)) :
    Change p x s (.joinObservation o f) (.capability c) t := by
  simp only [BudgetProcess.joinObservation, Except.bind_eq_ok, check_eq_ok, Except.ok.injEq,
    Prod.mk.injEq, Bool.not_eq_true', Option.any_eq_true, Bool.and_eq_true,
    decide_eq_true_eq] at h
  obtain ⟨_, _, _, _, _, _, _, _, _, hrunning, _, ⟨row, hrow, hstate, rfl⟩, rfl, rfl⟩ := h
  obtain rfl : row.observationId = o := Table.key_of_get? hrow
  exact .joined hrunning (Table.mem_of_get? hrow) hstate

lemma change_close {o sha : String} (h : p.closeSafeObservation s o sha = .ok t) :
    Change p x s (.closeSafeObservation o sha) .none t := by
  simp only [BudgetProcess.closeSafeObservation, Except.bind_eq_ok, check_eq_ok, Except.ok.injEq,
    Bool.not_eq_true', assertFenceAccess_eq_ok, Bool.and_eq_true, List.all_eq_true,
    decide_eq_true_eq, Option.any_eq_true] at h
  obtain ⟨_, _, _, _, _, hrunning, _, haccess, _, hholds, _, ⟨hattempts, hcalls⟩, rfl⟩ := h
  exact .closed ⟨⟨hrunning, haccess⟩, exists_of_holdsFence hholds⟩ hattempts
    fun c hc => (hcalls c hc).1

/-- What `reserve` checks of the earlier attempts and of the role, as one fact. -/
lemma admissible_of_checks {a : ReserveArgs} {u v w : Unit} (hvalid : a.validate = .ok u)
    (hprior : a.checkPrior (s.laneOf a.lane) = .ok v) (hcap : s.checkRoleCap a.role = .ok w)
    (hid : x.uuids 0 ∉ s.attempts.map Attempt.attemptId) :
    Admissible s (a.reservation p.runId x) := by
  obtain ⟨hfresh, hretry⟩ := checkPrior_eq_ok hprior
  exact ⟨hfresh, hretry, index_of_validate hvalid, checkRoleCap_eq_ok hcap, hid⟩

lemma change_reserve {a : ReserveArgs} {r : AttemptReservation} (hlive : p.isLive = false)
    (h : p.reserve x s a = .ok (r, t)) : Change p x s (.reserve a) (.reservation r) t := by
  simp only [BudgetProcess.reserve, Except.bind_eq_ok, assertRunning_eq_ok, Except.ok.injEq,
    Prod.mk.injEq] at h
  obtain ⟨_, hvalid, _, _, _, hrunning, _, hprior, _, hcap, u, hobserved, v, hinsert, rfl, rfl⟩ := h
  obtain ⟨observations, hobservations, rfl⟩ := observed_of_reserveObservation hobserved
  obtain ⟨hid, rfl⟩ := insertAttempt_eq_ok hinsert
  exact .reserved hlive hvalid hrunning (admissible_of_checks hvalid hprior hcap hid) hobservations

lemma change_reserveLive {a : ReserveArgs} {r : AttemptReservation} (hlive : p.isLive = true)
    (h : p.reserveLive x s a = .ok (r, t)) : Change p x s (.reserve a) (.reservation r) t := by
  simp only [BudgetProcess.reserveLive, Except.bind_eq_ok, tables_eq_ok] at h
  obtain ⟨_, hvalid, _, _, context, hcontext, u, htables, h⟩ := h
  obtain ⟨u', hopen, hlane, hagrees⟩ := contextOpen_of_assertContext hcontext
  obtain rfl : u' = u := Option.some.inj (hopen.live.symm.trans htables)
  split at h
  · cases h
  · rename_i total perAttempt hpolicy
    simp only [Except.bind_eq_ok, check_eq_ok, Except.ok.injEq, Prod.mk.injEq, Bool.and_eq_true,
      List.all_eq_true, decide_eq_true_eq, BudgetStore.haltIf] at h
    obtain ⟨_, hprior, _, hcap, _, hunits, v, hinsert, _, ⟨hliability, hlease⟩, rfl, rfl⟩ := h
    obtain ⟨hid, rfl⟩ := insertAttempt_eq_ok hinsert
    have hroom : u'.used + perAttempt.of a.role ≤ total := by
      split at hunits
      · cases hunits
      · rename_i hle
        simpa using hle
    obtain ⟨hrequest, hschema⟩ := of_decide_eq_true hagrees
    refine .reservedLive hlive hopen hlane hrequest hschema hpolicy hroom
      (admissible_of_checks hvalid hprior hcap hid) (fun hmem => ?_) fun hmem => ?_
    · obtain ⟨l, hl, hid⟩ := List.mem_map.mp hmem
      exact hliability l hl hid
    · obtain ⟨l, hl, hid⟩ := List.mem_map.mp hmem
      exact (hlease l hl).1 hid

lemma change_start {r : AttemptReservation} (hrunning : Running p s r.observationId)
    (h : BudgetProcess.startRow s r = .ok t) : Change p x s (.start r) .none t := by
  simp only [BudgetProcess.startRow, Except.bind_eq_ok, check_eq_ok, decide_eq_true_eq,
    Except.ok.injEq] at h
  obtain ⟨a, hrow, _, hstate, rfl⟩ := h
  obtain ⟨hmem, rfl⟩ := row_eq_ok hrow
  exact .started hrunning hmem hstate

lemma change_finish {r : AttemptReservation} {outcome : AttemptOutcome} {value : Option Json}
    (h : p.finish s r outcome value = .ok t) :
    Change p x s (.finish r outcome value) .none t := by
  simp only [BudgetProcess.finish, Except.bind_eq_ok, check_eq_ok, decide_eq_true_eq,
    Except.ok.injEq] at h
  obtain ⟨safe, _, _, _, a, hrow, _, hstate, _, hsend, _, hresponse, rfl⟩ := h
  obtain ⟨hmem, rfl⟩ := row_eq_ok hrow
  cases hknown : outcome.known with
  | true =>
      exact .finished hmem hstate (fun h => hsend.resolve_left (not_not.mpr h))
        (fun h => hresponse.resolve_left (not_not.mpr h)) hknown
  | false => exact .rejected hmem hstate hknown

lemma change_reserveMcp {o sha id : String} (h : p.reserveMcp x s o sha = .ok (id, t)) :
    Change p x s (.reserveMcp o sha) (.mcp id) t := by
  simp only [BudgetProcess.reserveMcp, Except.bind_eq_ok, check_eq_ok, assertRunning_eq_ok,
    Except.ok.injEq, Prod.mk.injEq, Option.isNone_iff_eq_none, BudgetStore.mcpCall?,
    Table.get?_eq_none] at h
  obtain ⟨_, hidentity, _, hsha, _, _, _, hrunning, _, hnew, u, hobserved, v, hinsert, rfl,
    rfl⟩ := h
  obtain ⟨observations, hobservations, rfl⟩ := observed_of_reserveObservation hobserved
  simp only [BudgetStore.insertMcp, Except.bind_eq_ok, check_eq_ok, Except.ok.injEq] at hinsert
  obtain ⟨_, _, rfl⟩ := hinsert
  exact .mcpReserved hidentity hsha hrunning hnew hobservations

lemma change_admitMcp {o sha : String} (h : p.admitMcp s o sha = .ok t) :
    Change p x s (.admitMcp o sha) .none t := by
  simp only [BudgetProcess.admitMcp, Except.bind_eq_ok, assertRunning_eq_ok] at h
  obtain ⟨_, _, _, _, _, _, _, hrunning, h⟩ := h
  split at h
  · cases h
  · rename_i c hc
    simp only [Except.bind_eq_ok, check_eq_ok, decide_eq_true_eq, Except.ok.injEq] at h
    obtain ⟨_, rfl, _, hstate, rfl⟩ := h
    obtain rfl : c.observationId = o := Table.key_of_get? hc
    exact .mcpAdmitted hrunning (Table.mem_of_get? hc) hstate

lemma change_finishMcp {o : String} {outcome : McpOutcome} {value : Option Json}
    (h : p.finishMcp s o outcome value = .ok t) :
    Change p x s (.finishMcp o outcome value) .none t := by
  simp only [BudgetProcess.finishMcp, Except.bind_eq_ok, check_eq_ok, Option.any_eq_true,
    decide_eq_true_eq, Except.ok.injEq] at h
  obtain ⟨safe, _, _, _, _, ⟨c, hc, hstate⟩, rfl⟩ := h
  obtain rfl : c.observationId = o := Table.key_of_get? hc
  cases outcome with
  | clientResponseObserved => exact .mcpFinished (Table.mem_of_get? hc) hstate
  | clientReceiptUnknown => exact .mcpUnknown (Table.mem_of_get? hc) hstate

lemma change_bind {origins : Origins} {a : SendArgs} (hlive : p.isLive = true)
    (h : p.bindRequestContext s origins a = .ok t) :
    Change p x s (.bindRequestContext origins a) .none t := by
  simp only [BudgetProcess.bindRequestContext, Except.bind_eq_ok, check_eq_ok, tables_eq_ok,
    Except.ok.injEq] at h
  obtain ⟨_, _, _, _, _, _, _, _, _, _, _, _, _, _, _, _, _, hopen, u, htables, _, hsame, context,
    hcontext, rfl⟩ := h
  obtain ⟨u', hcontextOpen, -, hagrees⟩ := contextOpen_of_assertContext hcontext
  obtain rfl : context = a.context p.runId := of_decide_eq_true hagrees
  cases hc : u.context? (a.observationId, a.role) with
  | some c =>
      rw [hc] at hcontextOpen
      exact .rebound hlive hcontextOpen
  | none => exact .bound hlive (holding_of_assertOpen hopen) htables (Table.get?_eq_none.mp hc)

/-- What the send and its preliminary check both find. -/
lemma admissibleLease_eq_ok {c : RequestContext} {u : LiveTables} {lease : SendLease}
    (h : p.admissibleLease s c = .ok (u, lease)) :
    ContextOpen p s u c ∧ (∃ row, OnlyInFlight s row ∧ row.lane = c.lane ∧
      lease.attemptId = row.attemptId) ∧ lease ∈ u.leases ∧ lease.binding = c ∧
      lease.state = .available := by
  simp only [BudgetProcess.admissibleLease, Except.bind_eq_ok] at h
  obtain ⟨context, hcontext, h⟩ := h
  obtain ⟨u', hopen, -, hagrees⟩ := contextOpen_of_assertContext hcontext
  obtain rfl : context = c := of_decide_eq_true hagrees
  split at h
  · cases h
  · rename_i row hrow
    obtain ⟨honly, hlane⟩ := onlyInFlight_of_inFlight? hrow
    simp only [Except.bind_eq_ok, check_eq_ok, tables_eq_ok] at h
    obtain ⟨_, _, v, htables, _, _, h⟩ := h
    obtain rfl : u' = v := Option.some.inj (hopen.live.symm.trans htables)
    split at h
    · cases h
    · rename_i l hl
      simp only [Except.bind_eq_ok, check_eq_ok, decide_eq_true_eq, Except.ok.injEq,
        Prod.mk.injEq] at h
      obtain ⟨_, hbinding, _, hstate, rfl, rfl⟩ := h
      exact ⟨hopen, ⟨row, honly, hlane, Table.key_of_get? hl⟩, Table.mem_of_get? hl, hbinding,
        hstate⟩

lemma change_consume {a : SendArgs} {receipt : SendLeaseReceipt} (hlive : p.isLive = true)
    (h : p.consumeSendLease x s a = .ok (receipt, t)) :
    Change p x s (.consumeSendLease a) (.receipt receipt) t := by
  simp only [BudgetProcess.consumeSendLease, Except.bind_eq_ok, Except.ok.injEq,
    Prod.mk.injEq] at h
  obtain ⟨_, _, ⟨u, lease⟩, hlease, rfl, rfl⟩ := h
  obtain ⟨hopen, ⟨row, honly, hlane, hid⟩, hmem, hbinding, hstate⟩ := admissibleLease_eq_ok hlease
  exact .consumed hlive hopen honly hlane hmem hid hbinding hstate

lemma change_record {o sha : String} {role : Role} {facts : Json}
    {receipt : ResponseFactsReceipt} (hlive : p.isLive = true)
    (h : p.recordResponseFacts x s o role sha facts = .ok (receipt, t)) :
    Change p x s (.recordResponseFacts o role sha facts) (.facts receipt) t := by
  simp only [BudgetProcess.recordResponseFacts, Except.bind_eq_ok] at h
  obtain ⟨_, _, _, _, _, _, context, hcontext, h⟩ := h
  obtain ⟨u, hopen, hlane, -⟩ := contextOpen_of_assertContext hcontext
  split at h
  · cases h
  · rename_i row hrow
    obtain ⟨honly, hrowLane⟩ := onlyInFlight_of_inFlight? hrow
    simp only [Except.bind_eq_ok, check_eq_ok, tables_eq_ok, Option.any_eq_true,
      Bool.and_eq_true, decide_eq_true_eq, List.all_eq_true, Except.ok.injEq, Prod.mk.injEq] at h
    obtain ⟨_, _, v, htables, _, ⟨lease, hl, hstate, _⟩, _, hnew, rfl, rfl⟩ := h
    obtain rfl : u = v := Option.some.inj (hopen.live.symm.trans htables)
    refine .recorded hlive hopen hlane honly hrowLane (Table.mem_of_get? hl)
      (Table.key_of_get? hl) hstate (fun hmem => ?_) rfl
    obtain ⟨f, hf, hid⟩ := List.mem_map.mp hmem
    exact hnew f hf hid

lemma running_of_startLive {r : AttemptReservation} (h : p.startLive s r = .ok t) :
    Running p s r.observationId ∧ BudgetProcess.startRow s r = .ok t := by
  simp only [BudgetProcess.startLive, Except.bind_eq_ok] at h
  obtain ⟨_, _, context, hcontext, hrow⟩ := h
  obtain ⟨u, hopen, hlane, -⟩ := contextOpen_of_assertContext hcontext
  obtain ⟨ho, -⟩ := Prod.mk.inj hlane
  have hrunning : Running p s context.observationId := hopen.toRunning
  rw [ho] at hrunning
  exact ⟨hrunning, hrow⟩

/-- A body that returns makes one of the changes. -/
theorem change_of_body {call : BudgetCall} (h : p.body x s call = .ok (answer, t)) :
    Change p x s call answer t := by
  cases call with
  | attach => cases h
  | beginObservation o =>
      obtain ⟨c, hbody, rfl⟩ := answerWith_eq_ok h
      exact change_begin hbody
  | joinObservation o f =>
      obtain ⟨c, hbody, rfl⟩ := answerWith_eq_ok h
      exact change_join hbody
  | assertActiveObservation o =>
      simp only [BudgetProcess.body, Except.bind_eq_ok, Except.ok.injEq, Prod.mk.injEq] at h
      obtain ⟨_, _, rfl, rfl⟩ := h
      exact .asserted
  | closeSafeObservation o sha =>
      obtain ⟨hbody, rfl⟩ := answerNone_eq_ok h
      exact change_close hbody
  | reserve a =>
      obtain ⟨r, hbody, rfl⟩ := answerWith_eq_ok h
      split at hbody
      · exact change_reserveLive (by assumption) hbody
      · exact change_reserve (Bool.eq_false_iff.mpr (by assumption)) hbody
  | start r =>
      obtain ⟨hbody, rfl⟩ := answerNone_eq_ok h
      split at hbody
      · obtain ⟨hrunning, hrow⟩ := running_of_startLive hbody
        exact change_start hrunning hrow
      · simp only [BudgetProcess.start, Except.bind_eq_ok, assertRunning_eq_ok] at hbody
        obtain ⟨_, _, _, hrunning, hrow⟩ := hbody
        exact change_start hrunning hrow
  | finish r outcome value =>
      obtain ⟨hbody, rfl⟩ := answerNone_eq_ok h
      exact change_finish hbody
  | stop reason =>
      obtain ⟨hbody, rfl⟩ := answerNone_eq_ok h
      simp only [BudgetProcess.stop, Except.bind_eq_ok, Except.ok.injEq] at hbody
      obtain ⟨_, _, _, _, rfl⟩ := hbody
      exact .stopped
  | reserveMcp o sha =>
      obtain ⟨id, hbody, rfl⟩ := answerWith_eq_ok h
      exact change_reserveMcp hbody
  | admitMcp o sha =>
      obtain ⟨hbody, rfl⟩ := answerNone_eq_ok h
      exact change_admitMcp hbody
  | finishMcp o outcome value =>
      obtain ⟨hbody, rfl⟩ := answerNone_eq_ok h
      exact change_finishMcp hbody
  | ensureRecoverable =>
      simp only [BudgetProcess.body, BudgetProcess.ensureRecoverable, Except.bind_eq_ok,
        check_eq_ok, Bool.not_eq_true', Except.ok.injEq, Prod.mk.injEq] at h
      obtain ⟨_, ⟨_, _, _, _, _, _, hrunning⟩, rfl, rfl⟩ := h
      exact .recoverable hrunning
  | bindRequestContext origins a =>
      obtain ⟨hlive, h⟩ := onlyLive_eq_ok h
      obtain ⟨hbody, rfl⟩ := answerNone_eq_ok h
      exact change_bind hlive hbody
  | assertSendAdmissible a =>
      obtain ⟨-, h⟩ := onlyLive_eq_ok h
      simp only [Except.bind_eq_ok, Except.ok.injEq, Prod.mk.injEq] at h
      obtain ⟨_, _, rfl, rfl⟩ := h
      exact .admissible
  | consumeSendLease a =>
      obtain ⟨hlive, h⟩ := onlyLive_eq_ok h
      obtain ⟨receipt, hbody, rfl⟩ := answerWith_eq_ok h
      exact change_consume hlive hbody
  | recordResponseFacts o role sha facts =>
      obtain ⟨hlive, h⟩ := onlyLive_eq_ok h
      obtain ⟨receipt, hbody, rfl⟩ := answerWith_eq_ok h
      exact change_record hlive hbody

/-! ## Refusals -/

def BudgetError.isExceeded : BudgetError → Bool
  | .exceeded _ => true
  | _ => false

/-- What a body that raises has committed: nothing, or a stop of the run. -/
inductive Halts (s : BudgetStore) : BudgetError → Option BudgetStore → Prop
  | rolledBack {e} : e.isExceeded = false → Halts s e none
  | exceeded (reason) : Halts s (.exceeded reason) (some (s.halt reason))
  | blocked (reason) : Halts s (.recoveryBlocked reason) (some (s.halt reason))

section Refusals

variable {α : Type} {o : String}

lemma halts_check {condition : Bool} {e : BudgetError} (h : e.isExceeded = false) :
    Aborts (Halts s) (check condition e : Body Unit) :=
  .check (.rolledBack h)

lemma halts_error {e : BudgetError} (h : e.isExceeded = false) :
    Aborts (Halts s) (Except.error ⟨e, none⟩ : Body α) :=
  .error (.rolledBack h)

lemma halts_exceeded {condition : Bool} {reason : String} :
    Aborts (Halts s) (s.haltIf condition reason .exceeded) :=
  .ite (.error (.exceeded reason)) .ok

lemma halts_metadata {value : Option Json} : Aborts (Halts s) (metadata value) := by
  unfold metadata readMetadata
  split
  · exact .ok
  · refine (halts_check rfl).bind fun _ => Aborts.bind (.forM fun kv => ?_) fun _ => .ok
    unfold checkMetadata
    split
    · split
      · exact .ok
      · exact halts_error rfl
    split
    · exact .ok
    split
    · split
      · exact (halts_check rfl).bind fun _ => halts_check rfl
      · exact halts_error rfl
    split
    · split
      · exact halts_check rfl
      · exact halts_check rfl
      · exact halts_error rfl
    split
    · exact .ite (halts_check rfl) (halts_check rfl)
    · exact halts_error rfl
  · exact halts_error rfl

lemma halts_mcpMetadata {value : Option Json} : Aborts (Halts s) (mcpMetadata value) := by
  unfold mcpMetadata readMetadata
  split
  · exact .ok
  · refine (halts_check rfl).bind fun _ => Aborts.bind (.forM fun kv => ?_) fun _ => .ok
    unfold checkMcpMetadata
    split
    · exact .ok
    split
    · split
      · exact .ok
      · exact halts_error rfl
    split
    · split
      · exact halts_check rfl
      · exact halts_error rfl
    split
    · exact halts_check rfl
    · exact halts_error rfl
  · exact halts_error rfl

lemma halts_settings : Aborts (Halts s) (p.settings t) := by
  refine (halts_check rfl).bind fun _ => (halts_check rfl).bind fun _ => .ite ?_ .ok
  cases t.live with
  | none => exact halts_error rfl
  | some u => exact halts_check rfl

lemma halts_access : Aborts (Halts s) (p.assertFenceAccess t o) :=
  .forM fun _ => (halts_check rfl).bind fun _ => halts_check rfl

lemma halts_running : Aborts (Halts s) (p.assertRunning t o) :=
  (halts_check rfl).bind fun _ => halts_access

lemma halts_open : Aborts (Halts s) (p.assertOpen t o) :=
  halts_settings.bind fun _ => halts_running.bind fun _ => halts_check rfl

lemma halts_active {o : Option String} : Aborts (Halts s) (p.assertActiveObservation t o) := by
  have hnamed (o : String) : Aborts (Halts s) (do
      p.settings t
      p.assertRunning t o
      check (p.holdsFence t o)
        (.recoveryBlocked "ACKNOWLEDGED_OBSERVATION_FENCE_REQUIRED") : Body Unit) :=
    halts_settings.bind fun _ => halts_running.bind fun _ => halts_check rfl
  unfold BudgetProcess.assertActiveObservation
  split
  · exact Aborts.bind .ok fun _ => hnamed _
  · exact Aborts.bind .ok fun _ => hnamed _
  · exact Aborts.bind (halts_error rfl) fun _ => hnamed _

lemma halts_observation : Aborts (Halts s) (s.reserveObservation o) :=
  .ite .ok (halts_exceeded.bind fun _ => .ok)

lemma halts_insertAttempt {r : AttemptReservation} : Aborts (Halts s) (t.insertAttempt r) :=
  (halts_check rfl).bind fun _ => .ok

lemma halts_validate {a : ReserveArgs} : Aborts (Halts s) a.validate :=
  (halts_check rfl).bind fun _ => (halts_check rfl).bind fun _ => (halts_check rfl).bind fun _ =>
    (halts_check rfl).bind fun _ => (halts_check rfl).bind fun _ => halts_check rfl

lemma halts_prior {a : ReserveArgs} {prior : List Attempt} :
    Aborts (Halts s) (a.checkPrior prior) := by
  refine (halts_check rfl).bind fun _ => .ite ?_ .ok
  split
  · exact (halts_check rfl).bind fun _ => halts_check rfl
  · exact halts_error rfl

lemma halts_row {r : AttemptReservation} : Aborts (Halts s) (BudgetProcess.row s r) := by
  unfold BudgetProcess.row
  split
  · exact (halts_check rfl).bind fun _ => .ok
  · exact halts_error rfl

lemma halts_startRow {r : AttemptReservation} : Aborts (Halts s) (BudgetProcess.startRow s r) :=
  halts_row.bind fun _ => (halts_check rfl).bind fun _ => .ok

lemma halts_tables : Aborts (Halts s) (BudgetProcess.tables t) := by
  unfold BudgetProcess.tables
  split
  · exact .ok
  · exact halts_error rfl

lemma halts_context {e : ExpectedContext} : Aborts (Halts s) (p.assertContext t e) := by
  refine halts_open.bind fun _ => halts_tables.bind fun _ => ?_
  split
  · exact halts_error rfl
  · exact (halts_check rfl).bind fun _ => (halts_check rfl).bind fun _ => .ok

lemma halts_begin : Aborts (Halts s) (p.beginObservation x s o) := by
  refine (halts_check rfl).bind fun _ => ?_
  split
  · exact (halts_check rfl).bind fun _ => halts_active.bind fun _ => .ok
  · exact halts_settings.bind fun _ => halts_running.bind fun _ => (halts_check rfl).bind fun _ =>
      (halts_check rfl).bind fun _ => halts_observation.bind fun _ =>
        Aborts.bind ((halts_check rfl).bind fun _ => .ok) fun _ => .ok

lemma halts_reserve {a : ReserveArgs} : Aborts (Halts s) (p.reserve x s a) :=
  halts_validate.bind fun _ => halts_settings.bind fun _ => halts_running.bind fun _ =>
    halts_prior.bind fun _ => Aborts.bind halts_exceeded fun _ => halts_observation.bind fun _ =>
      halts_insertAttempt.bind fun _ => .ok

lemma halts_reserveLive {a : ReserveArgs} : Aborts (Halts s) (p.reserveLive x s a) := by
  refine halts_validate.bind fun _ => halts_settings.bind fun _ => halts_context.bind fun _ =>
    halts_tables.bind fun _ => ?_
  split
  · exact halts_error rfl
  · exact halts_prior.bind fun _ => Aborts.bind halts_exceeded fun _ => halts_exceeded.bind
      fun _ => halts_insertAttempt.bind fun _ => (halts_check rfl).bind fun _ => .ok

lemma halts_finish {r : AttemptReservation} {outcome : AttemptOutcome} {value : Option Json} :
    Aborts (Halts s) (p.finish s r outcome value) :=
  halts_metadata.bind fun _ => halts_settings.bind fun _ => halts_row.bind fun _ =>
    (halts_check rfl).bind fun _ => (halts_check rfl).bind fun _ => (halts_check rfl).bind
      fun _ => .ok

lemma halts_reserveMcp {sha : String} : Aborts (Halts s) (p.reserveMcp x s o sha) :=
  (halts_check rfl).bind fun _ => (halts_check rfl).bind fun _ => halts_settings.bind fun _ =>
    halts_running.bind fun _ => (halts_check rfl).bind fun _ => halts_observation.bind fun _ =>
      Aborts.bind ((halts_check rfl).bind fun _ => .ok) fun _ => .ok

lemma halts_admitMcp {sha : String} : Aborts (Halts s) (p.admitMcp s o sha) := by
  refine (halts_check rfl).bind fun _ => (halts_check rfl).bind fun _ => halts_settings.bind
    fun _ => halts_running.bind fun _ => ?_
  split
  · exact halts_error rfl
  · exact (halts_check rfl).bind fun _ => (halts_check rfl).bind fun _ => .ok

lemma halts_recoverable : Aborts (Halts s) (p.ensureRecoverable s) :=
  halts_settings.bind fun _ => halts_access.bind fun _ =>
    Aborts.bind (.ite (.error (.blocked _)) .ok) fun _ => halts_check rfl

lemma halts_bind {origins : Origins} {a : SendArgs} :
    Aborts (Halts s) (p.bindRequestContext s origins a) :=
  (halts_check rfl).bind fun _ => (halts_check rfl).bind fun _ => (halts_check rfl).bind fun _ =>
    (halts_check rfl).bind fun _ => (halts_check rfl).bind fun _ => (halts_check rfl).bind fun _ =>
      (halts_check rfl).bind fun _ => halts_settings.bind fun _ => halts_open.bind fun _ =>
        halts_tables.bind fun _ => (halts_check rfl).bind fun _ => halts_context.bind fun _ => .ok

lemma halts_lease {c : RequestContext} : Aborts (Halts s) (p.admissibleLease s c) := by
  refine halts_context.bind fun _ => ?_
  split
  · exact halts_error rfl
  · refine (halts_check rfl).bind fun _ => halts_tables.bind fun _ => (halts_check rfl).bind
      fun _ => ?_
    split
    · exact halts_error rfl
    · exact (halts_check rfl).bind fun _ => (halts_check rfl).bind fun _ => .ok

lemma halts_record {sha : String} {role : Role} {facts : Json} :
    Aborts (Halts s) (p.recordResponseFacts x s o role sha facts) := by
  have hfacts : Aborts (Halts s) (responseFacts facts) :=
    (halts_check rfl).bind fun _ => (halts_check rfl).bind fun _ => (halts_check rfl).bind
      fun _ => (halts_check rfl).bind fun _ => (halts_check rfl).bind fun _ =>
        (halts_check rfl).bind fun _ => (halts_check rfl).bind fun _ => .ok
  refine hfacts.bind fun _ => (halts_check rfl).bind fun _ => halts_settings.bind fun _ =>
    halts_context.bind fun _ => ?_
  split
  · exact halts_error rfl
  · exact (halts_check rfl).bind fun _ => halts_tables.bind fun _ => (halts_check rfl).bind
      fun _ => (halts_check rfl).bind fun _ => .ok

lemma halts_answerNone {body : Body BudgetStore} (h : Aborts (Halts s) body) :
    Aborts (Halts s) (answerNone body) :=
  h.bind fun _ => .ok

lemma halts_answerWith {f : α → BudgetAnswer} {body : Body (α × BudgetStore)}
    (h : Aborts (Halts s) body) : Aborts (Halts s) (answerWith f body) :=
  h.bind fun _ => .ok

lemma halts_onlyLive {body : Body α} (h : Aborts (Halts s) body) :
    Aborts (Halts s) (p.onlyLive body) :=
  .ite h (halts_error rfl)

/-- A body that raises leaves the store as it was, or stopped. -/
theorem halts_body (call : BudgetCall) : Aborts (Halts s) (p.body x s call) := by
  cases call with
  | attach => exact halts_error rfl
  | beginObservation o => exact halts_answerWith halts_begin
  | joinObservation o f =>
      exact halts_answerWith ((halts_check rfl).bind fun _ => (halts_check rfl).bind fun _ =>
        (halts_check rfl).bind fun _ => halts_settings.bind fun _ => (halts_check rfl).bind
          fun _ => (halts_check rfl).bind fun _ => .ok)
  | assertActiveObservation o => exact halts_active.bind fun _ => .ok
  | closeSafeObservation o sha =>
      exact halts_answerNone ((halts_check rfl).bind fun _ => halts_settings.bind fun _ =>
        (halts_check rfl).bind fun _ => halts_access.bind fun _ => (halts_check rfl).bind
          fun _ => (halts_check rfl).bind fun _ => .ok)
  | reserve a => exact halts_answerWith (.ite halts_reserveLive halts_reserve)
  | start r =>
      exact halts_answerNone (.ite
        (halts_settings.bind fun _ => halts_context.bind fun _ => halts_startRow)
        (halts_settings.bind fun _ => halts_running.bind fun _ => halts_startRow))
  | finish r outcome value => exact halts_answerNone halts_finish
  | stop reason =>
      exact halts_answerNone ((halts_check rfl).bind fun _ => halts_settings.bind fun _ => .ok)
  | reserveMcp o sha => exact halts_answerWith halts_reserveMcp
  | admitMcp o sha => exact halts_answerNone halts_admitMcp
  | finishMcp o outcome value =>
      exact halts_answerNone (halts_mcpMetadata.bind fun _ => halts_settings.bind fun _ =>
        (halts_check rfl).bind fun _ => .ok)
  | ensureRecoverable => exact halts_recoverable.bind fun _ => .ok
  | bindRequestContext origins a => exact halts_onlyLive (halts_answerNone halts_bind)
  | assertSendAdmissible a =>
      exact halts_onlyLive (Aborts.bind (halts_settings.bind fun _ => halts_lease.bind
        fun _ => .ok) fun _ => .ok)
  | consumeSendLease a =>
      exact halts_onlyLive (halts_answerWith (halts_settings.bind fun _ => halts_lease.bind
        fun _ => .ok))
  | recordResponseFacts o role sha facts =>
      exact halts_onlyLive (halts_answerWith halts_record)

end Refusals

end CivicGate.Harness
