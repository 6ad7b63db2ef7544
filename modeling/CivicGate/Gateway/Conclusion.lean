import CivicGate.Audit.History.Event
import CivicGate.Gateway.Completion

/-!
# What the completion of a dispatched call leaves

Whatever a single-attempt adapter returns or raises, a completion that returns leaves an
envelope that reports the adapter's attempts and whose reasons and errors are codes
(`conclude_spec`).  The proof follows the statements: `Gathered` holds of the variables until
the attempts are summarized in the envelope, `Concluded` from then on.
-/

namespace CivicGate

/-! ## Envelopes of dispatched calls -/

/-- What no statement after the dispatch changes, and the codes it leaves. -/
structure Envelope.Dispatched (requestId : String) (e : Envelope) : Prop where
  requestId : e.requestId = requestId
  executed : e.toolExecuted = true
  nextAction : e.nextAction ≠ .retryAllowed
  reasons : ∃ c, e.governance.policyReasons = [c] ∧ isCode c = true
  errors : e.errors = [] ∨ ∃ error, e.errors = [error] ∧ isCode error.code = true

/-- The states an envelope takes from the attempts of its call. -/
def attemptStates (attempts : List AttemptRecord) : DispatchState × ResponseState :=
  match attempts.getLast? with
  | some final => (final.dispatchState, final.responseState)
  | none => (.dispatchUnknown, .noResponse)

/-- The envelope reports these attempts. -/
structure Envelope.Reports (records : List AttemptRecord) (e : Envelope) : Prop where
  available : e.attemptMetadataAvailable = !records.isEmpty
  states : (e.dispatchState, e.responseState) = attemptStates records

/-- The update changes nothing that is reported, and leaves codes. -/
def Envelope.Neutral (f : Envelope → Envelope) : Prop :=
  ∀ requestId attempts e, e.Dispatched requestId → e.Reports attempts →
    (f e).Dispatched requestId ∧ (f e).Reports attempts

/-! ## The variables -/

/-- The variables from the dispatch on. -/
structure CallLocals.Pending (requestId : String) (records : List AttemptRecord)
    (s : CallLocals) : Prop where
  envelope : s.envelope.Dispatched requestId
  silent : records = [] → s.envelope.responseState = .noResponse
  verification : s.verification = .pass
  boundaryError : s.boundaryError = none

/-- The variables once they hold the attempts. -/
structure CallLocals.Gathered (requestId : String) (records : List AttemptRecord)
    (s : CallLocals) : Prop extends s.Pending requestId records where
  attempts : s.attempts = records
  available : s.metadataAvailable = !records.isEmpty

/-- The variables once the envelope reports the attempts. -/
structure CallLocals.Concluded (requestId : String) (records : List AttemptRecord)
    (s : CallLocals) : Prop extends s.Gathered requestId records where
  reports : s.envelope.Reports records

/-- The variables of a permitted call when its adapter method is entered. -/
def CallLocals.dispatched (requestId tool : String) (judge : JudgeSignal) (agentK : KSignal)
    (policy : PolicyResult) : CallLocals where
  envelope := {
    decision := policy.decision
    tool
    requestId
    status := .blocked
    governance := ⟨judge, agentK, policy.reasons⟩
    toolExecuted := true }
  verification := .pass

variable {requestId : String} {records : List AttemptRecord} {s : CallLocals}

lemma concluded_update {f : Envelope → Envelope} (hf : Envelope.Neutral f)
    (h : s.Concluded requestId records) : (s.update f).Concluded requestId records := by
  obtain ⟨henvelope, hreports⟩ := hf _ _ _ h.envelope h.reports
  refine { h with envelope := henvelope, reports := hreports, silent := fun hnil => ?_ }
  have hstates := hreports.states
  rw [hnil, attemptStates] at hstates
  exact (Prod.mk.inj hstates).2

/-- A summary makes the envelope report the attempts. -/
lemma concluded_summarized (h : s.Gathered requestId records) :
    s.summarized.Concluded requestId records := by
  have hsame : (s.envelope.applyAttemptSummary s.attempts s.metadataAvailable
      s.retryClass).Dispatched requestId ∧
      (s.envelope.applyAttemptSummary s.attempts s.metadataAvailable s.retryClass).Reports
        records := by
    obtain ⟨⟨⟨hrequest, hexecuted, haction, hreasons, herrors⟩, hsilent, -, -⟩, rfl, havailable⟩ := h
    unfold Envelope.applyAttemptSummary
    cases hlast : s.attempts.getLast? with
    | some final =>
        refine ⟨⟨hrequest, hexecuted, haction, hreasons, herrors⟩, havailable, ?_⟩
        rw [attemptStates, hlast]
    | none =>
        rw [List.getLast?_eq_none_iff] at hlast
        simp only [hexecuted, if_true]
        refine ⟨⟨hrequest, rfl, haction, hreasons, herrors⟩, havailable, ?_⟩
        rw [hlast, attemptStates]
        exact Prod.ext rfl (hsilent hlast)
  have hstates := hsame.2.states
  exact { h with
    envelope := hsame.1
    reports := hsame.2
    silent := fun hnil => by
      rw [hnil, attemptStates] at hstates
      exact (Prod.mk.inj hstates).2 }

/-! ## Neutral updates -/

lemma neutral_id : Envelope.Neutral id := fun _ _ _ h hr => ⟨h, hr⟩

/-- An update of fields that no report reads, with a next action and errors as recorded. -/
lemma neutral_setValidationState {f : Envelope → Envelope} (hf : Envelope.Neutral f)
    (code : String) : Envelope.Neutral fun e => (f e).setValidationState code := by
  intro requestId records e h hr
  obtain ⟨⟨hrequest, hexecuted, haction, hreasons, herrors⟩, ⟨havailable, hstates⟩⟩ :=
    hf requestId records e h hr
  simp only [Envelope.setValidationState]
  split_ifs
  · exact ⟨⟨hrequest, hexecuted, by simp, hreasons, herrors⟩, havailable, hstates⟩
  · exact ⟨⟨hrequest, hexecuted, by simp, hreasons, herrors⟩, havailable, hstates⟩
  · exact ⟨⟨hrequest, hexecuted, by simp, hreasons, herrors⟩, havailable, hstates⟩
  · exact ⟨⟨hrequest, hexecuted, by simp, hreasons, herrors⟩, havailable, hstates⟩
  · exact ⟨⟨hrequest, hexecuted, haction, hreasons, herrors⟩, havailable, hstates⟩

/-! ## The statements -/

/-- What an exception of the body leaves to its handler. -/
def Raised (requestId : String) (records : List AttemptRecord) (raise : CallRaise)
    (s : CallLocals) : Prop :=
  match raise with
  | .boundary _ => False
  | .adapter e => s.Pending requestId records ∧ e.attempts = records ∧ e.retryable = false ∧
      isCode e.code = true
  | .other _ => s.Gathered requestId records

section Statements

variable {x : Completion} (hreview : ∀ reason post, isCode reason = true →
  x.review reason = .ok post → ∃ c, post.reasons = [c] ∧ isCode c = true)

lemma triple_modify {f : Envelope → Envelope} (hf : Envelope.Neutral f)
    {E : CallRaise → CallLocals → Prop} :
    Program.Triple (CallLocals.Concluded requestId records)
      (modify (·.update f) : Completing Unit)
      (fun _ => CallLocals.Concluded requestId records) E :=
  fun _ hs => concluded_update hf hs

include hreview in
lemma triple_reviewed {reason : String} (hreason : isCode reason = true)
    {update : Envelope → Envelope} (hupdate : Envelope.Neutral update) :
    Program.Triple (CallLocals.Concluded requestId records) (x.reviewed reason update)
      (fun _ => CallLocals.Concluded requestId records)
      (Raised requestId records) := by
  intro s hs
  rw [Completion.reviewed, Program.run_bind]
  cases hpost : x.review reason with
  | error e =>
      simp only [orRaise, Except.reraise, Program.run_lift]
      exact hs.toGathered
  | ok post =>
      simp only [orRaise, Except.reraise, Program.run_lift, Program.run_modify]
      refine concluded_update ?_ hs
      intro requestId records e h hr
      exact hupdate _ _ _ { h with reasons := hreview _ _ hreason hpost } ⟨hr.available, hr.states⟩

/-- The code of a review is a code. -/
lemma isCode_reviewReason {b : Batch} {reason clarification : String}
    (h : x.reviewReason b = some (reason, clarification)) : isCode reason = true := by
  unfold Completion.reviewReason at h
  split at h
  · split at h
    · obtain ⟨rfl, -⟩ := Prod.mk.inj (Option.some.inj h)
      split <;> decide
    · cases h
  · simp only at h
    split at h
    · obtain ⟨rfl, -⟩ := Prod.mk.inj (Option.some.inj h)
      decide
    · cases h
  · cases h

include hreview in
lemma triple_release (b : Batch) :
    Program.Triple (CallLocals.Concluded requestId records) (x.release b)
      (fun _ => CallLocals.Concluded requestId records)
      (Raised requestId records) := by
  unfold Completion.release
  refine Program.Triple.bind (triple_modify fun _ _ _ h hr => ?_) fun _ => ?_
  · exact ⟨{ h with }, hr.available, hr.states⟩
  cases hreason : x.reviewReason b with
  | some r =>
      obtain ⟨reason, clarification⟩ := r
      refine Program.Triple.bind (triple_modify fun _ _ _ h hr => ?_) fun _ => ?_
      · exact ⟨{ h with nextAction := by simp }, hr.available, hr.states⟩
      · refine triple_reviewed hreview (isCode_reviewReason hreason) fun _ _ _ h hr => ?_
        exact ⟨{ h with }, hr.available, hr.states⟩
  | none =>
      refine Program.Triple.ite (fun _ => ?_) fun _ => ?_
      · intro s hs
        rw [Program.run_bind]
        cases htotal : x.decimalTotal b.records with
        | error e =>
            simp only [orRaise, Except.reraise, Program.run_lift]
            exact hs.toGathered
        | ok total =>
            simp only [orRaise, Except.reraise, Program.run_lift, Program.run_modify]
            refine concluded_update (fun _ _ _ h hr => ?_) hs
            exact ⟨{ h with nextAction := by simp }, hr.available, hr.states⟩
      · refine triple_modify fun _ _ _ h hr => ?_
        exact ⟨{ h with nextAction := by simp }, hr.available, hr.states⟩

/-- A batch without provenance is the adapter's error, with the attempts gathered. -/
lemma triple_provenanceUnavailable :
    Program.Triple (CallLocals.Concluded requestId records) Completion.provenanceUnavailable
      (fun _ _ => False) (Raised requestId records) := by
  intro s hs
  rw [Completion.provenanceUnavailable, Program.run_get_bind]
  simp only [Program.run_throw]
  exact ⟨hs.toPending, hs.attempts, rfl, show isCode "PROVENANCE_UNAVAILABLE" = true by decide⟩

include hreview in
/-- What the body makes of what the adapter returned, without a contract for the tool. -/
lemma triple_accept (hfind : x.validateFindResult = none) {c : AdapterCall}
    (hattempts : c.outcome.attempts ≠ []) :
    Program.Triple (CallLocals.Pending requestId c.outcome.attempts) (x.accept (.call c))
      (fun _ => CallLocals.Concluded requestId c.outcome.attempts)
      (Raised requestId c.outcome.attempts) := by
  have hgather : ∀ s : CallLocals, s.Pending requestId c.outcome.attempts →
      ({ s with attempts := c.outcome.attempts, metadataAvailable := true,
                retryClass := c.outcome.retryClass } : CallLocals).Gathered requestId
        c.outcome.attempts := by
    intro s hs
    refine { hs with attempts := rfl, available := ?_ }
    cases hc : c.outcome.attempts with
    | nil => exact absurd hc hattempts
    | cons => rfl
  intro s hs
  have hs' := hgather s hs
  unfold Completion.accept
  rw [Program.run_bind]
  simp only [Program.run_bind, Program.run_modify, Program.run_pure]
  cases hb : x.revalidate c.batch with
  | error e =>
      simp only [orRaise, Except.reraise, Program.run_lift]
      exact hs'
  | ok b =>
      simp only [orRaise, Except.reraise, Program.run_lift, hfind]
      have hrefuse {p : Completing Unit} :
          Program.Triple (CallLocals.Concluded requestId c.outcome.attempts)
            (do Completion.provenanceUnavailable; p)
            (fun _ => CallLocals.Concluded requestId c.outcome.attempts)
            (Raised requestId c.outcome.attempts) :=
        triple_provenanceUnavailable.bind fun _ _ h => h.elim
      refine Program.Triple.ite (fun _ => hrefuse) (fun _ => ?_) _ (concluded_summarized hs')
      exact Program.Triple.ite (fun _ => hrefuse) fun _ => triple_release hreview b

include hreview in
/-- Every handler that returns leaves a concluded call. -/
lemma triple_handle (e : CallRaise) :
    Program.Triple (Raised requestId records e) (x.handle e)
      (fun _ => CallLocals.Concluded requestId records) (fun _ _ => True) := by
  cases e with
  | boundary code => exact fun s hs => hs.elim
  | adapter e =>
      show Program.Triple _ (x.handleAdapter e) _ _
      unfold Completion.handleAdapter
      by_cases hcode : isCode e.code = true ∧ e.retryable = false
      swap
      · exact fun s hs => absurd ⟨hs.2.2.2, hs.2.2.1⟩ hcode
      obtain ⟨hcode, hretryable⟩ := hcode
      have hupdate : Envelope.Neutral fun envelope =>
          { envelope with
            status := .error
            result := none
            errors := [{
              code := e.code
              message := "Public source request failed. Refine inputs or retry if retryable; no substitute data were used."
              retryable := e.retryable }] } :=
        fun _ _ _ h hr =>
          ⟨{ h with errors := .inr ⟨_, rfl, hcode⟩ }, hr.available, hr.states⟩
      have hlast : Program.Triple (CallLocals.Concluded requestId records)
          (if e.code ∈ ["CONFLICTING_SOURCE_RESULTS", "PROVENANCE_UNAVAILABLE"] then
            x.reviewed e.code id else pure ())
          (fun _ => CallLocals.Concluded requestId records) (fun _ _ => True) := by
        refine Program.Triple.ite (fun _ => ?_) fun _ => Program.Triple.pure fun _ h => h
        exact (triple_reviewed hreview hcode neutral_id).conseq (fun _ h => h) (fun _ _ h => h)
          fun _ _ _ => trivial
      refine Program.Triple.bind (Q := fun _ => CallLocals.Gathered requestId records) ?_ fun _ =>
        Program.Triple.bind (Q := fun _ => CallLocals.Concluded requestId records)
          (fun _ hs => concluded_summarized hs) fun _ => Program.Triple.bind
            (triple_modify (neutral_setValidationState hupdate e.code)) fun _ => ?_
      · rintro s ⟨hs, rfl, -, -⟩
        refine { hs with attempts := rfl, available := ?_ }
        show decide (e.attempts ≠ []) = _
        cases e.attempts <;> rfl
      refine Program.Triple.ite (fun _ => ?_) fun _ => hlast
      refine Program.Triple.bind (triple_modify fun _ _ _ h hr => ?_) fun _ => hlast
      exact ⟨{ h with nextAction := by simp [hretryable] }, hr.available, hr.states⟩
  | other e =>
      refine Program.Triple.ite (fun _ => ?_) fun _ => Program.Triple.throw fun _ _ => trivial
      have hupdate : Envelope.Neutral fun envelope =>
          { envelope with
            status := .error
            result := none
            provenance := none
            errors := [{
              code := "MALFORMED_ADAPTER_RESPONSE"
              message := "Adapter response failed validation; no data released." }] } :=
        fun _ _ _ h hr =>
          ⟨{ h with errors := .inr ⟨_, rfl, by decide⟩ }, hr.available, hr.states⟩
      refine Program.Triple.bind (Q := fun _ => CallLocals.Concluded requestId records)
        (fun _ hs => concluded_summarized hs) fun _ => ?_
      exact (triple_reviewed hreview (by decide) (neutral_setValidationState hupdate _)).conseq
        (fun _ h => h) (fun _ _ h => h) fun _ _ _ => trivial

end Statements

/-! ## The law -/

/-- The attempts of what an adapter method returned or raised. -/
def attemptsOf : Except AdapterRaise AdapterCall → List AttemptRecord
  | .ok c => c.outcome.attempts
  | .error (.error e) => e.attempts
  | .error (.other _) => []

/-- What a method with a single attempt returns or raises. -/
def SingleAttempt : Except AdapterRaise AdapterCall → Prop
  | .ok c => c.outcome.attempts ≠ []
  | .error (.error e) => e.retryable = false ∧ isCode e.code = true
  | .error (.other _) => True

/-- A completion that returns reports the attempts of the adapter. -/
theorem conclude_spec {x : Completion} (hreview : ∀ reason post, isCode reason = true →
      x.review reason = .ok post → ∃ c, post.reasons = [c] ∧ isCode c = true)
    (hfind : x.validateFindResult = none) {result : Except AdapterRaise AdapterCall}
    (hresult : SingleAttempt result) {tool : String} {judge : JudgeSignal} {agentK : KSignal}
    {policy : PolicyResult} (hpolicy : ∃ c, policy.reasons = [c] ∧ isCode c = true)
    {s : CallLocals}
    (h : (x.conclude (result.map .call)).run (.dispatched requestId tool judge agentK policy) =
      (.ok (), s)) : s.Concluded requestId (attemptsOf result) := by
  have hpending : (CallLocals.dispatched requestId tool judge agentK policy).Pending requestId
      (attemptsOf result) :=
    ⟨⟨rfl, rfl, by simp [CallLocals.dispatched], hpolicy, .inl rfl⟩, fun _ => rfl, rfl, rfl⟩
  have hbody : Program.Triple (fun s => s = .dispatched requestId tool judge agentK policy)
      (do
        let r ← Program.lift (Except.reraise (result.map .call) AdapterRaise.inCall)
        x.accept r : Completing Unit)
      (fun _ => CallLocals.Concluded requestId (attemptsOf result))
      (Raised requestId (attemptsOf result)) := by
    rintro _ rfl
    rw [Program.run_bind]
    rcases result with (e | e) | c
    · exact ⟨hpending, rfl, hresult⟩
    · exact { hpending with attempts := rfl, available := rfl }
    · exact triple_accept hreview hfind hresult _ hpending
  exact (hbody.tryCatch (triple_handle hreview)).returns rfl h

end CivicGate
