import CivicGate.Gateway.FinishEvidence

/-!
# Recording the end of a call

The `finish` event of a dispatched call fits in a row whatever the history was
(`recordable_finish`), so the validator takes it exactly when it takes the attempts
(`accepts_finish`), and the attempts a single exchange leaves are taken exactly when
`Exchange.recordable` holds of it (`finish_recorded_iff`).  `finish` itself appends that event or
stops (`finish_run`).
-/

namespace CivicGate

variable {d : Domain} {j : PostgresJournal} {s : CallLocals} {requestId : String}
  {records : List AttemptRecord} {time : PyFloat}

/-! ## Size of the event -/

/-- The journal owns an accepted history whose request is at its intent. -/
structure PostgresJournal.Intending (j : PostgresJournal) (d : Domain) (rows : List Row)
    (requestId : String) : Prop where
  accepted : ∃ r, replayAll (j.identity d) rows = some r ∧ r.ledger = j.state ∧
    r.instanceId = some j.instanceId
  owner : j.state.ownerId = some j.ownerId
  ownerActive : j.state.ownerActive = true
  held : j.state.held = false
  phase : j.state.phase = some .intent
  active : j.state.active = some requestId

/-- The `finish` event the journal makes of a completed call. -/
def PostgresJournal.finishEvent (j : PostgresJournal) (d : Domain) (time : PyFloat)
    (s : CallLocals) : Json :=
  j.event d .finish j.state.epoch time (s.finishFields j.state.denials)

/-- The sizes of what the event repeats from its history. -/
structure PostgresJournal.Small (j : PostgresJournal) (d : Domain) (requestId : String) :
    Prop where
  identity : (j.identity d).valid = true
  denials : j.state.denials < 10 ^ maxDigits
  epoch : 1 ≤ j.state.epoch ∧ j.state.epoch ≤ maxEvents
  ownerId : isText j.ownerId 128 = true
  instanceId : isText j.instanceId 256 = true
  request : isText requestId 128 = true

lemma PostgresJournal.Intending.small {rows : List Row} (h : j.Intending d rows requestId) :
    j.Small d requestId := by
  obtain ⟨r, hr, hstate, hinstance⟩ := h.accepted
  simp only [replayAll, Option.bind_eq_bind, Option.bind_eq_some_iff, require_eq_some,
    Bool.and_eq_true, decide_eq_true_eq] at hr
  obtain ⟨-, ⟨⟨-, hmax⟩, hvalid⟩, haccept⟩ := hr
  have hlimits := limits_of_accept haccept
  have hsequence := (projects_of_accept haccept).sequence
  refine ⟨hvalid, hstate ▸ hlimits.denials, ⟨?_, ?_⟩, ?_, hlimits.instanceId _ hinstance, ?_⟩
  · rw [← hstate]
    exact hlimits.booted (hstate ▸ h.ownerActive)
  · rw [← hstate]
    exact hlimits.epoch.trans (hsequence ▸ hmax)
  · exact hlimits.ownerId _ (hstate ▸ h.owner)
  · exact hlimits.active _ (hstate ▸ h.active)

lemma strBound_decision (x : Decision) : strBound x.text ≤ 20 := by cases x <;> decide

lemma strBound_nextAction (x : NextAction) : strBound x.text ≤ 30 := by cases x <;> decide

/-- The attempts of the event are small. -/
lemma attempts_small (h : recordableAttempts records = true) :
    (Json.list (records.map AttemptRecord.projected)).withinDigits = true ∧
      (Json.list (records.map AttemptRecord.projected)).sizeBound ≤ 310 := by
  match records with
  | [] => exact ⟨by rw [List.map_nil, Json.withinDigits, Json.withinDigitsItems],
      by simp [Json.sizeBound, Json.sizeBoundItems]⟩
  | [a] =>
      obtain ⟨hdigits, hsize⟩ := projected_small h
      constructor
      · rw [List.map_cons, List.map_nil, Json.withinDigits, Json.withinDigitsItems, hdigits,
          Json.withinDigitsItems, Bool.and_self]
      · simp only [List.map_cons, List.map_nil, Json.sizeBound, Json.sizeBoundItems]
        omega
  | a :: b :: rest => exact absurd h Bool.false_ne_true

/-- A list of at most one code is small. -/
lemma codes_small {cs : List String} (h : cs = [] ∨ ∃ c, cs = [c] ∧ isCode c = true) :
    (Json.list (cs.map .str)).withinDigits = true ∧ (Json.list (cs.map .str)).sizeBound ≤ 140 := by
  rcases h with rfl | ⟨c, rfl, hc⟩
  · exact ⟨by rw [List.map_nil, Json.withinDigits, Json.withinDigitsItems],
      by simp [Json.sizeBound, Json.sizeBoundItems]⟩
  · have := strBound_of_isCode hc
    constructor
    · simp [Json.withinDigits, Json.withinDigitsItems]
    · simp only [List.map_cons, List.map_nil, Json.sizeBound, Json.sizeBoundItems]
      omega

lemma finished_errors (h : s.Concluded requestId records) :
    s.finished.errors.map ErrorRecord.code = [] ∨
      ∃ c, s.finished.errors.map ErrorRecord.code = [c] ∧ isCode c = true := by
  rw [finished_codes]
  rcases h.envelope.errors with hnil | ⟨error, herror, hcode⟩
  · exact .inl (by rw [hnil, List.map_nil])
  · exact .inr ⟨error.code, by rw [herror]; rfl, hcode⟩

lemma strBound_consumptionText (v : Json) : strBound (consumptionText v) ≤ 20 := by
  unfold consumptionText
  split_ifs <;> decide

lemma evidence_verification (s : CallLocals) :
    s.finishEvidence.lookup "pre_dispatch_verification" = some (.str s.verification.text) := rfl

lemma evidence_boundaryError (s : CallLocals) :
    s.finishEvidence.lookup "execution_boundary_error" = some (optStr s.boundaryError) := rfl

/-- The event fits in a row. -/
lemma recordable_finish (hsmall : j.Small d requestId) (h : s.Concluded requestId records)
    (hrecords : recordableAttempts records = true) :
    (j.finishEvent d time s).recordable = true := by
  have hattempts := attempts_small hrecords
  rw [← h.attempts] at hattempts
  have hreasons : (Json.list (s.envelope.governance.policyReasons.map .str)).withinDigits = true ∧
      (Json.list (s.envelope.governance.policyReasons.map .str)).sizeBound ≤ 140 := by
    obtain ⟨c, hc, hcode⟩ := h.envelope.reasons
    exact codes_small (.inr ⟨c, hc, hcode⟩)
  have herrors : (Json.list (s.finished.errors.map fun e => .str e.code)).withinDigits = true ∧
      (Json.list (s.finished.errors.map fun e => .str e.code)).sizeBound ≤ 140 := by
    have hcodes := codes_small (finished_errors h)
    rwa [List.map_map] at hcodes
  have hprojected : (s.attempts.map AttemptRecord.toJson).map projectAttempt =
      s.attempts.map AttemptRecord.projected := by
    rw [List.map_map]
    rfl
  have hdenials : (Json.int j.state.denials).withinDigits = true ∧
      (Json.int j.state.denials).sizeBound ≤ maxDigits := by
    refine ⟨?_, ?_⟩
    · rw [Json.withinDigits, decide_eq_true_eq, Int.natAbs_natCast]
      exact hsmall.denials
    · rw [Json.sizeBound]
      exact printInt_length (by decide) hsmall.denials
  have hepoch : (Json.int j.state.epoch).withinDigits = true ∧
      (Json.int j.state.epoch).sizeBound ≤ 5 :=
    ⟨withinDigits_int (by rw [Int.natAbs_natCast]; exact hsmall.epoch.2),
      sizeBound_int hsmall.epoch.2⟩
  refine recordable_normalize ?_ ?_
  · rw [Json.withinDigits]
    simp only [CallLocals.finishFields, finishFields, List.cons_append, List.nil_append,
      Json.withinDigitsEntries, withinDigits_str, withinDigits_bool, withinDigits_float,
      evidence_verification, evidence_boundaryError, h.boundaryError, optStr, withinDigits_null,
      Option.getD_some, hprojected, hattempts.1, hreasons.1, hdenials.1, hepoch.1, Bool.true_and,
      Bool.and_true]
    exact herrors.1
  · have hvalid := hsmall.identity
    simp only [LedgerIdentity.valid, PostgresJournal.identity, Bool.and_eq_true] at hvalid
    obtain ⟨⟨⟨⟨⟨hkey, hrevision⟩, hsource⟩, -⟩, -⟩, -⟩ := hvalid
    have hkey := strBound_of_isHex hkey
    have hrevision := strBound_of_isHex hrevision
    have hsource := strBound_of_isHex hsource
    have hkeys : ∀ k ∈ (j.entries d .finish j.state.epoch time
        (s.finishFields j.state.denials)).map Prod.fst, strBound k ≤ 28 := by
      intro k hk
      have hbound : ∀ k ∈ commonFields ++ EventKind.finish.fields, strBound k ≤ 28 := by decide
      exact hbound k ((keys_entries (keys_finishFields s _)).mem_iff.mp hk)
    have howner := strBound_of_isText hsmall.ownerId
    have hinstance := strBound_of_isText hsmall.instanceId
    have hrequest := strBound_of_isText hsmall.request
    have hverification : strBound s.verification.text ≤ 20 := by
      cases s.verification <;> decide
    have hconsumption := strBound_consumptionText (.str s.verification.text)
    have hdecision := strBound_decision s.envelope.decision
    have hdispatch := strBound_dispatch s.finished.dispatchState
    have hresponse := strBound_response s.finished.responseState
    have hnext := strBound_nextAction s.finished.nextAction
    have hphase : strBound (if s.envelope.toolExecuted then "post_dispatch" else "pre_dispatch") ≤
        20 := by
      split <;> decide
    have hkind : strBound EventKind.finish.text = 8 := by decide
    have hdigits : maxDigits = 4300 := rfl
    refine (Nat.add_le_add_right (sizeBoundEntries_le hkeys) 2).trans ?_
    rw [show (j.entries d .finish j.state.epoch time (s.finishFields j.state.denials)).length = 24
      from rfl, maxPayloadBytes]
    simp only [PostgresJournal.entries, CallLocals.finishFields, finishFields, List.cons_append,
      List.nil_append, List.map_cons, List.map_nil, List.sum_cons, List.sum_nil,
      evidence_verification, evidence_boundaryError, h.boundaryError, optStr, Option.getD_some,
      hprojected, h.envelope.requestId]
    rw [CallLocals.finished] at hdispatch hresponse hnext herrors
    simp only [Json.sizeBound] at hattempts hreasons herrors hdenials hepoch ⊢
    omega

/-! ## Acceptance -/

lemma readEntry_finishEvent (hsmall : j.Small d requestId) (h : s.Concluded requestId records) :
    readEntry (j.identity d) false (j.finishEvent d time s) =
      (readAttempts (j.finishEvent d time s) s.envelope.attemptMetadataAvailable).map fun attempt =>
        .event ⟨j.state.epoch, j.ownerId, j.instanceId, .float time⟩
          (.finish requestId (s.evidence j.state.denials attempt)) := by
  rw [PostgresJournal.finishEvent, readEntry_eventJson (keys_finishFields s _) hsmall.epoch.1
    hsmall.ownerId hsmall.instanceId (by decide), read_finish h, Option.map_map]
  rfl

lemma readAttempts_finishEvent (time : PyFloat) (h : s.Concluded requestId records) :
    (recordableAttempts records = true → ∃ attempt,
      readAttempts (j.finishEvent d time s) s.envelope.attemptMetadataAvailable = some attempt ∧
      attempt.map Attempt.states = records.head?.map fun a => (a.dispatchState, a.responseState)) ∧
    (∀ attempt, readAttempts (j.finishEvent d time s) s.envelope.attemptMetadataAvailable =
      some attempt → recordableAttempts records = true) :=
  read_attempts h

/-- **Acceptance of a `finish`**: the row of the event is the next of the history exactly when
there is room for it and the validator takes the attempts. -/
theorem accepts_finish {rows : List Row} (time : PyFloat) (hj : j.Intending d rows requestId)
    (h : s.Concluded requestId records) :
    (∃ next, replay (j.identity d) (rows ++
      [rowAfter j.state.sequence j.state.digest (j.finishEvent d time s)]) = some next) ↔
      rows.length < maxEvents ∧ recordableAttempts records = true := by
  have hsmall := hj.small
  obtain ⟨r, hr, hstate, hinstance⟩ := hj.accepted
  simp only [replayAll, Option.bind_eq_bind, Option.bind_eq_some_iff, require_eq_some,
    Bool.and_eq_true, decide_eq_true_eq] at hr
  obtain ⟨-, ⟨⟨hpos, -⟩, hvalid⟩, haccept⟩ := hr
  have hsequence := (projects_of_accept haccept).sequence
  have hfirst : decide (j.state.sequence = 0) = false := by
    rw [← hstate, hsequence]
    exact decide_eq_false (by omega)
  obtain ⟨htake, hback⟩ := readAttempts_finishEvent (d := d) (j := j) time h
  constructor
  · rintro ⟨next, hnext⟩
    obtain ⟨⟨-, hmax, -⟩, t, ht, -⟩ := replay_eq_some.mp hnext
    rw [List.length_append, List.length_singleton] at hmax
    obtain ⟨r', hr', hrow⟩ := accept_concat_eq_some.mp ht
    obtain ⟨-, -, -, x, u, hx, -, -⟩ := replayRow_eq_some hrow
    obtain ⟨v, hv, hread⟩ := entry_eq_some hx
    -- The text holds the event alone, so the entry is read from the event itself.
    have hevent : v = j.finishEvent d time s := by
      rw [eq_of_loads_canonical hv, PostgresJournal.finishEvent, PostgresJournal.event,
        Json.normalize_normalize]
    have hlater : decide ((rowAfter j.state.sequence j.state.digest
        (j.finishEvent d time s)).sequence = 1) = false := by
      refine decide_eq_false ?_
      show (j.state.sequence : ℤ) + 1 ≠ 1
      have := of_decide_eq_false hfirst
      omega
    rw [hevent, hlater, readEntry_finishEvent hsmall h] at hread
    obtain ⟨attempt, hattempt, -⟩ := Option.map_eq_some_iff.mp hread
    exact ⟨by omega, hback attempt hattempt⟩
  · rintro ⟨hroom, hrecords⟩
    obtain ⟨attempt, hattempt, hstates⟩ := htake hrecords
    have hlimits := limits_of_accept haccept
    have hintent : j.state.initialDecision = some .permit ∧ j.state.bindingIssued = true := by
      have hpermit := hlimits.intent (hstate ▸ hj.phase)
      rwa [hstate] at hpermit
    have hfinish : ∃ ledger, j.state.finish (s.evidence j.state.denials attempt) = some ledger := by
      have hconsistent : (s.evidence j.state.denials attempt).consistent = true :=
        consistent_evidence h hrecords hstates
      have hexecuted : (s.evidence j.state.denials attempt).toolExecuted = true :=
        h.envelope.executed
      have hdenials : (s.evidence j.state.denials attempt).denials = j.state.denials := rfl
      simp only [LedgerState.finish, hconsistent, hexecuted, hdenials, hj.phase, hintent.1,
        hintent.2, le_refl, if_true, decide_true, Bool.and_self, Bool.or_true, require_true,
        Option.bind_eq_bind, Option.bind_some, Option.pure_def]
      exact ⟨_, rfl⟩
    obtain ⟨ledger, hledger⟩ := hfinish
    have hrecordable : (j.finishEvent d time s).recordable = true :=
      recordable_finish hsmall h hrecords
    have hadvance : ∃ t, projectEvent (j.identity d) r (j.finishEvent d time s) = some t := by
      simp only [projectEvent, hstate, hfirst, readEntry_finishEvent hsmall h, hattempt,
        Option.map_some, Replay.advance, Replay.act, hinstance, hj.ownerActive, hj.owner, hj.held,
        hj.active, hledger, decide_true, Bool.and_self, Bool.not_false, Bool.true_or,
        require_true, Option.bind_eq_bind, Option.bind_some, Option.pure_def]
      exact ⟨_, rfl⟩
    obtain ⟨t, ht⟩ := hadvance
    refine ⟨t.ledger, replay_eq_some.mpr ⟨⟨?_, ?_, hvalid⟩, t, ?_, rfl⟩⟩
    · rw [List.length_append, List.length_singleton]
      omega
    · rw [List.length_append, List.length_singleton]
      omega
    · refine accept_concat_eq_some.mpr ⟨r, haccept, ?_⟩
      rw [← hstate, replayRow_rowAfter hrecordable, ht]

/-! ## What an exchange leaves -/

section Exchanges

variable {x : Exchange} {r : Response}

lemma recordable_success (h : r.statusCode = 200) : (successRecord 1 1 x r).recordable = true := by
  simp [AttemptRecord.recordable, successRecord, statusConsistent, h]

lemma recordable_early (f : TransportFailure) :
    (failureRecord 1 1 x none f).recordable = true := by
  simp [AttemptRecord.recordable, failureRecord, statusConsistent, retryDecision]

/-- A failure after the headers is recorded with a status code and a transport error. -/
lemma recordable_late (f : TransportFailure) :
    (failureRecord 1 1 x (some r) f).recordable = false := by
  simp [AttemptRecord.recordable, failureRecord, statusConsistent]

lemma recordable_error (code : String) :
    (errorRecord 1 1 x r code).recordable = true ↔ 100 ≤ r.statusCode ∧ r.statusCode ≤ 599 := by
  by_cases hcode : code = "UPSTREAM_UNAVAILABLE" <;>
    simp [AttemptRecord.recordable, errorRecord, statusConsistent, retryDecision, hcode]

/-- A response whose body is not read is an error of its own. -/
lemma read_of_not_readsBody (h : r.readsBody = false) :
    ∃ code retryable, r.read = (.error code retryable, false) ∧ isCode code = true := by
  unfold Response.read
  by_cases hnone : r.statusCode = 404
  · exact ⟨"NOT_FOUND", false, if_pos hnone, by decide⟩
  rw [if_neg hnone]
  by_cases hbusy : r.statusCode = 429 ∨ 500 ≤ r.statusCode
  · exact ⟨"UPSTREAM_UNAVAILABLE", true, if_pos hbusy, by decide⟩
  rw [if_neg hbusy]
  by_cases hstatus : r.statusCode = 200
  swap
  · exact ⟨"UPSTREAM_REJECTED", false, if_pos hstatus, by decide⟩
  rw [if_neg (not_not.mpr hstatus)]
  refine ⟨"MALFORMED_RESPONSE", false, if_pos fun htype => ?_, by decide⟩
  have hbody : r.readsBody = true := by
    rw [Response.readsBody, Bool.and_eq_true]
    exact ⟨decide_eq_true hstatus, decide_eq_true htype⟩
  rw [h] at hbody
  cases hbody

lemma read_of_readsBody (h : r.readsBody = true) : r.statusCode = 200 ∧
    r.read = match readChunks 0 r.chunks, r.broken with
      | none, _ => (.error "RESPONSE_TOO_LARGE" false, false)
      | some _, some f => (.failed f, false)
      | some _, none =>
        match r.parsed with
        | .ok raw => (.success raw, true)
        | .error .valueError => (.error "MALFORMED_RESPONSE" false, true)
        | .error e => (.raises e, true) := by
  simp only [Response.readsBody, Bool.and_eq_true, decide_eq_true_eq] at h
  refine ⟨h.1, ?_⟩
  exact (if_neg (by omega)).trans ((if_neg (by omega)).trans
    ((if_neg (by omega)).trans (if_neg (not_not.mpr h.2))))

/-- The attempts of an exchange are taken exactly when it is regular. -/
lemma recordableAttempts_records : recordableAttempts x.records = true ↔ x.regular := by
  unfold Exchange.regular Exchange.records
  by_cases hexhausted : x.exhausted = true
  · simp [hexhausted, recordableAttempts]
  simp only [hexhausted, false_or, Bool.false_eq_true, if_false]
  cases hresponse : x.response with
  | error f => simp [Exchange.tried, hresponse, recordableAttempts, recordable_early]
  | ok r =>
      simp only [Exchange.tried, hresponse, Except.ok.injEq, forall_eq']
      cases hclosing : r.closing with
      | some f =>
          cases hread : r.read.2 <;>
            simp [Response.stream, hclosing, hread, recordableAttempts, recordable_late,
              Response.regular]
      | none =>
          have hstream : r.stream = r.read := by rw [Response.stream, hclosing]
          rw [hstream]
          cases hbody : r.readsBody with
          | false =>
              obtain ⟨code, retryable, hread, -⟩ := read_of_not_readsBody hbody
              simp [hread, recordableAttempts, recordable_error, Response.regular, hclosing, hbody]
          | true =>
              obtain ⟨hstatus, hread⟩ := read_of_readsBody hbody
              cases hchunks : readChunks 0 r.chunks with
              | none =>
                  simp only [hread, hchunks]
                  simp [recordableAttempts, recordable_error, Response.regular, hclosing, hbody,
                    hchunks, hstatus]
              | some size =>
                  cases hbroken : r.broken with
                  | some f =>
                      simp only [hread, hchunks, hbroken]
                      simp [recordableAttempts, recordable_late, Response.regular, hclosing, hbody,
                        hchunks, hbroken]
                  | none =>
                      rcases hparsed : r.parsed with e | raw
                      · cases e <;> simp only [hread, hchunks, hbroken, hparsed] <;>
                          simp [recordableAttempts, Response.regular, hclosing, hbody, hchunks,
                            hbroken, hparsed]
                      · simp only [hread, hchunks, hbroken, hparsed]
                        simp [recordableAttempts, recordable_success hstatus, Response.regular,
                          hclosing, hbody, hchunks, hbroken, hparsed]

/-- The error codes of an exchange are codes. -/
lemma isCode_of_tried {code : String} {retryable : Bool}
    (h : x.tried 1 1 = .failed code retryable records) : isCode code = true := by
  have hfailure (f : TransportFailure) : isCode f.code = true := by
    cases f <;> simp only [TransportFailure.code] <;> decide
  unfold Exchange.tried at h
  split at h
  · rename_i f _
    cases h
    exact hfailure f
  · rename_i r _
    simp only at h
    split at h
    · cases h
    · rename_i code' retryable' hstream
      cases h
      unfold Response.stream at hstream
      split at hstream
      · cases hstream
      · cases hbody : r.readsBody with
        | false =>
            obtain ⟨c, b, hread, hc⟩ := read_of_not_readsBody hbody
            rw [hread] at hstream
            cases hstream
            exact hc
        | true =>
            rw [(read_of_readsBody hbody).2] at hstream
            split at hstream
            · cases hstream
              decide
            · cases hstream
            · split at hstream <;> cases hstream
              decide
    · rename_i f _
      cases h
      exact hfailure f
    · cases h

lemma recorded_of_returned {raw : Json} (h : x.tried 1 1 = .returned raw records) :
    records ≠ [] := by
  unfold Exchange.tried at h
  split at h
  · cases h
  · rename_i r _
    simp only at h
    split at h
    · rename_i raw' hstream
      cases h
      unfold Response.stream at hstream
      split at hstream
      · cases hstream
      · rename_i hclosing
        have hrecorded : r.stream.2 = true := by
          rw [Response.stream, hclosing]
          cases hbody : r.readsBody with
          | false =>
              obtain ⟨c, b, hread, -⟩ := read_of_not_readsBody hbody
              rw [hread] at hstream
              cases hstream
          | true =>
              rw [(read_of_readsBody hbody).2] at hstream ⊢
              split at hstream
              · cases hstream
              · cases hstream
              · split at hstream <;> cases hstream
                rfl
        simp [hrecorded]
    · cases h
    · cases h
    · cases h

end Exchanges

/-! ## What a method of the adapter leaves -/

/-- A request of one attempt returns or raises with the records of its exchange. -/
lemma request_outcome (exchanges : ℕ → Exchange) :
    match request 1 exchanges with
    | .ok outcome => outcome.attempts = (exchanges 1).records ∧ outcome.attempts ≠ []
    | .error (.error e) =>
      e.attempts = (exchanges 1).records ∧ e.retryable = false ∧ isCode e.code = true
    | .error (.other _) => (exchanges 1).records = [] := by
  rw [request_single, Exchange.records]
  split_ifs with hexhausted
  · exact ⟨rfl, rfl, by decide⟩
  · cases htried : (exchanges 1).tried 1 1 with
    | returned raw records => exact ⟨rfl, recorded_of_returned htried⟩
    | failed code retryable records => exact ⟨rfl, rfl, isCode_of_tried htried⟩
    | raises e => rfl

/-- A result of a single attempt with these records. -/
def Carries (records : List AttemptRecord) (result : Except AdapterRaise AdapterCall) : Prop :=
  SingleAttempt result ∧ attemptsOf result = records

lemma carries_ensure {outcome : RequestOutcome} {condition : Bool} {code : String}
    (hcode : isCode code = true) {rest : Except AdapterRaise AdapterCall}
    (hrest : Carries outcome.attempts rest) :
    Carries outcome.attempts (do ensure condition (outcome.refused code); rest) := by
  cases condition
  · exact ⟨⟨rfl, hcode⟩, rfl⟩
  · exact hrest

lemma call_single (models : UpstreamModels) (fixture : Bool) (exchanges : ℕ → Exchange)
    (m : AdapterMethod) :
    Carries (exchanges 1).records (m.call models fixture 1 exchanges) := by
  have hrequest := request_outcome exchanges
  cases hr : request 1 exchanges with
  | error e =>
      rw [hr] at hrequest
      have hcall : m.call models fixture 1 exchanges = .error e := by
        cases m <;> simp only [AdapterMethod.call, search, recipients, detail, hr] <;> rfl
      rw [hcall]
      cases e with
      | error e => exact ⟨hrequest.2, hrequest.1⟩
      | other e => exact ⟨trivial, hrequest.symm⟩
  | ok outcome =>
      rw [hr] at hrequest
      obtain ⟨hattempts, hne⟩ := hrequest
      rw [← hattempts]
      have hreturned (b : Batch) : Carries outcome.attempts (.ok ⟨b, outcome⟩) := ⟨hne, rfl⟩
      have hrefused (code : String) (hcode : isCode code = true) :
          Carries outcome.attempts (.error (outcome.refused code)) := ⟨⟨rfl, hcode⟩, rfl⟩
      have hmalformed : isCode "MALFORMED_RESPONSE" = true := by decide
      cases m with
      | search limit =>
          simp only [AdapterMethod.call, search, hr, Except.ok_bind]
          cases models.searchResponse outcome.raw with
          | none => exact hrefused _ hmalformed
          | some rows =>
              exact carries_ensure hmalformed (carries_ensure (by decide) (hreturned _))
      | recipients limit =>
          simp only [AdapterMethod.call, recipients, hr, Except.ok_bind]
          cases models.recipientResponse outcome.raw with
          | none => exact hrefused _ hmalformed
          | some rows => exact carries_ensure hmalformed (hreturned _)
      | detail awardId =>
          simp only [AdapterMethod.call, detail, hr, Except.ok_bind]
          cases models.detailResponse outcome.raw with
          | none => exact hrefused _ hmalformed
          | some row => exact carries_ensure hmalformed (hreturned _)

/-! ## Recording -/

/-- `finish`, called with the evidence of a completed call, appends its `finish` event or stops. -/
lemma finish_run (x : Surroundings) (s : CallLocals) (denials : ℤ) :
    PostgresJournal.finish d x s.envelope denials s.finishEvidence =
      PostgresJournal.stopping
        (PostgresJournal.run d x (some (.finish, s.finishFields denials))) := by
  obtain ⟨hfields, hattempts⟩ := attemptEvidence_finishEvidence s
  simp only [PostgresJournal.finish, hfields, hattempts, Bool.not_true, Bool.false_eq_true,
    if_false]
  rfl

section Recording

variable {Model Args : Type} {rules : TextRules Model} {p : Pydantic Model Args}
  {facts : PolicyFacts} {judge : JudgeSignal} {agentK : KSignal} {threshold : PyNum}
  {contract : Option (InvocationContract Model)} {policy : PolicyResult}

lemma isCode_reasons (hpolicy : evaluate rules p facts judge agentK threshold contract = .ok policy)
    (hpermit : policy.decision = .permit) : ∃ c, policy.reasons = [c] ∧ isCode c = true := by
  obtain ⟨-, -, -, -, hreasons⟩ := evaluate_permit hpolicy hpermit
  exact ⟨_, hreasons, by decide⟩

/-- The completion of a permitted call reports the records of its exchange. -/
lemma concluded_of_permitted {tool : String} {x : Completion}
    (hpolicy : evaluate rules p facts judge agentK threshold contract = .ok policy)
    (hpermit : policy.decision = .permit)
    (hreview : ∀ reason, ∃ q : Pydantic Model Args, x.review reason =
      evaluate rules q { facts with reviewReason := some reason } judge agentK threshold contract)
    (hfind : x.validateFindResult = none) (models : UpstreamModels) (fixture : Bool)
    (exchanges : ℕ → Exchange) (m : AdapterMethod)
    (hrun : (x.conclude ((m.call models fixture 1 exchanges).map .call)).run
      (.dispatched requestId tool judge agentK policy) = (.ok (), s)) :
    s.Concluded requestId (exchanges 1).records := by
  obtain ⟨hsingle, hrecords⟩ := call_single models fixture exchanges m
  rw [← hrecords]
  refine conclude_spec (fun reason post hreason hpost => ?_) hfind hsingle
    (isCode_reasons hpolicy hpermit) hrun
  obtain ⟨q, hq⟩ := hreview reason
  rw [hq] at hpost
  have hne : reason ≠ "" := by
    rintro rfl
    exact absurd hreason (by decide)
  rcases evaluate_review hpolicy hpermit hne hpost with heq | heq
  · exact ⟨reason, heq, hreason⟩
  · exact ⟨_, heq, by decide⟩

/-- **Recording of a finish.**  A call was permitted and its request is at its intent; the
adapter makes its single attempt and the completion returns.  Then `replay` takes the `finish`
event as the next one exactly when there is room for it and the exchange was regular. -/
theorem finish_recorded_iff {rows : List Row} {tool : String} {x : Completion}
    (hj : j.Intending d rows requestId)
    (hpolicy : evaluate rules p facts judge agentK threshold contract = .ok policy)
    (hpermit : policy.decision = .permit)
    (hreview : ∀ reason, ∃ q : Pydantic Model Args, x.review reason =
      evaluate rules q { facts with reviewReason := some reason } judge agentK threshold contract)
    (hfind : x.validateFindResult = none) (models : UpstreamModels) (fixture : Bool)
    (exchanges : ℕ → Exchange) (m : AdapterMethod)
    (hrun : (x.conclude ((m.call models fixture 1 exchanges).map .call)).run
      (.dispatched requestId tool judge agentK policy) = (.ok (), s)) :
    (∃ next, replay (j.identity d) (rows ++
      [rowAfter j.state.sequence j.state.digest (j.finishEvent d time s)]) = some next) ↔
      rows.length < maxEvents ∧ (exchanges 1).regular := by
  rw [accepts_finish time hj (concluded_of_permitted hpolicy hpermit hreview hfind models fixture
    exchanges m hrun), recordableAttempts_records]

end Recording

/-! ### A synthetic call -/

/-- The state of the synthetic ledger, up to the intent. -/
def sampleState : LedgerState :=
  ((accept (projectEvent sampleIdentity) {} sampleEvents).map Replay.ledger).getD {}

/-- The owner of the synthetic ledger. -/
def sampleJournal : PostgresJournal where
  instanceId := "instance"
  revision := sampleIdentity.revision
  sourceSha := sampleIdentity.sourceSha
  ownerId := "owner"
  connected := true
  state := sampleState

/-- Rules that find nothing. -/
def sampleRules : TextRules Unit := ⟨fun _ _ => false, fun _ => [], fun _ _ _ _ => []⟩

/-- Models that take nothing. -/
def samplePydantic : Pydantic Unit Unit :=
  ⟨fun _ => .error .valueError, fun _ _ => .error .valueError, fun _ _ => .error .valueError,
    fun _ => .error .valueError, fun _ => .error .valueError⟩

def sampleFacts : PolicyFacts where
  tool := "get_federal_award"
  text := "award"
  semanticRequired := false

lemma sampleProvider_length : "disabled".length ≤ 100 := by decide

def sampleJudge : JudgeSignal := .unavailable "" "disabled" (by decide) sampleProvider_length

def sampleThreshold : PyNum := .float .zero

/-- The completion of the synthetic call. -/
def sampleCompletion : Completion where
  tool := "get_federal_award"
  args := .award
  fixture := true
  revalidate := .ok
  validateFindResult := none
  casefold := id
  str := fun _ => ""
  decimalTotal := fun _ => .ok "0"
  review reason := evaluate sampleRules samplePydantic
    { sampleFacts with reviewReason := some reason } sampleJudge .default sampleThreshold none

/-- Upstream models that take nothing. -/
def sampleModels : UpstreamModels := ⟨fun _ => none, fun _ => none, fun _ => none⟩

/-- An attempt with this response. -/
def sampleExchange (response : Except TransportFailure Response) : Exchange where
  exhausted := false
  response := response
  elapsedMs := .zero
  overrun := false

/-- The connection times out. -/
def unansweredExchange : Exchange := sampleExchange (.error (.timeout "ConnectTimeout"))

/-- The headers arrive, and reading the body times out. -/
def brokenExchange : Exchange := sampleExchange (.ok {
  statusCode := 200
  contentType := "application/json"
  retryAfter := none
  chunks := [1024]
  broken := some (.timeout "ReadTimeout")
  parsed := .error .valueError
  closing := none })

/-- The completion of the synthetic call after an attempt. -/
def sampleRun (x : Exchange) : Except CallRaise Unit × CallLocals :=
  (sampleCompletion.conclude
    (((AdapterMethod.detail "award").call sampleModels true 1 fun _ => x).map .call)).run
    (.dispatched "request" "get_federal_award" sampleJudge .default
      ⟨.permit, ["BOUNDED_PUBLIC_RESEARCH"]⟩)

lemma identity_sample : sampleJournal.identity sampleIdentity.domain = sampleIdentity := rfl

lemma intending_sample :
    sampleJournal.Intending sampleIdentity.domain (chainRows 0 "" sampleEvents) "request" := by
  obtain ⟨r, hr, hinstance, howner, hactive, hheld, hphase, hrequest, -⟩ := accept_sampleEvents
  have hrecordable : sampleEvents.all Json.recordable = true := by
    have hall := recordable_sampleEvents
    rw [List.all_append, Bool.and_eq_true] at hall
    exact hall.1
  have hstate : sampleJournal.state = r.ledger := by
    simp only [sampleJournal, sampleState, hr, Option.map_some, Option.getD_some]
  have haccept : replayAll sampleIdentity (chainRows 0 "" sampleEvents) = some r := by
    have hchain : accept (replayRow sampleIdentity) {} (chainRows 0 "" sampleEvents) =
        some r := (accept_chainRows hrecordable).trans hr
    simp only [replayAll, length_chainRows, valid_sampleIdentity, hchain, Option.bind_eq_bind]
    rfl
  refine ⟨⟨r, ?_, hstate.symm, hinstance⟩, ?_, ?_, ?_, ?_, ?_⟩
  · rw [identity_sample]
    exact haccept
  all_goals rw [hstate]
  · exact howner
  · exact hactive
  · exact hheld
  · exact hphase
  · exact hrequest

/-- Every exchange of the synthetic call is completed. -/
lemma sampleRun_unanswered : (sampleRun unansweredExchange).1 = .ok () := rfl

lemma sampleRun_broken : (sampleRun brokenExchange).1 = .ok () := rfl

lemma evaluate_sample : evaluate sampleRules samplePydantic sampleFacts sampleJudge .default
    sampleThreshold none = .ok ⟨.permit, ["BOUNDED_PUBLIC_RESEARCH"]⟩ := rfl

/-- The row the journal appends at the end of the synthetic call. -/
def sampleFinishRow (x : Exchange) : Row :=
  rowAfter sampleState.sequence sampleState.digest
    (sampleJournal.finishEvent sampleIdentity.domain .zero (sampleRun x).2)

/-- The end of a call whose connection timed out is recorded. -/
theorem finish_recorded_unanswered : ∃ next,
    replay sampleIdentity (chainRows 0 "" sampleEvents ++ [sampleFinishRow unansweredExchange]) =
      some next := by
  refine (finish_recorded_iff (x := sampleCompletion) intending_sample evaluate_sample rfl
    (fun reason => ⟨samplePydantic, rfl⟩) rfl sampleModels true (fun _ => unansweredExchange)
    (.detail "award") (Prod.ext sampleRun_unanswered rfl)).mpr ⟨?_, .inr ?_⟩
  · rw [length_chainRows]
    decide
  · intro r hr
    cases hr

/-- The end of a call whose body timed out is refused: the call is at its intent, the completion
returns, and `replay` does not take its `finish` event. -/
theorem finish_refused_broken :
    sampleJournal.Intending sampleIdentity.domain (chainRows 0 "" sampleEvents) "request" ∧
      (sampleRun brokenExchange).1 = .ok () ∧
      replay sampleIdentity (chainRows 0 "" sampleEvents ++ [sampleFinishRow brokenExchange]) =
        none := by
  have hconcluded := concluded_of_permitted (x := sampleCompletion) evaluate_sample rfl
    (fun reason => ⟨samplePydantic, rfl⟩) rfl sampleModels true (fun _ => brokenExchange)
    (.detail "award") (Prod.ext sampleRun_broken rfl)
  have hiff := accepts_finish .zero intending_sample hconcluded
  refine ⟨intending_sample, sampleRun_broken, Option.eq_none_iff_forall_not_mem.mpr ?_⟩
  intro next hnext
  exact Bool.false_ne_true (hiff.mp ⟨next, hnext⟩).2

end CivicGate
