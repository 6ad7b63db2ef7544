import CivicGate.Audit.OwnedEvents
import CivicGate.Gateway.Conclusion

/-!
# Whether the end of a call can be recorded

The `finish` event a dispatched call ends with, and when `replay` takes it.  The adapter, the
journal's projection of the attempts and the validator agree on one attempt whose response and
status go together (`AttemptRecord.recordable`).
-/

namespace CivicGate

/-! ## One attempt -/

/-- What a ledger keeps of an attempt. -/
def AttemptRecord.projected (a : AttemptRecord) : Json :=
  .dict [("attempt", .int a.attempt), ("max_attempts", .int a.maxAttempts),
    ("dispatch_state", .str a.dispatchState.text), ("response_state", .str a.responseState.text),
    ("status_code", optInt a.statusCode), ("response_received", .bool a.responseReceived),
    ("retry_decision", .str a.retryDecision.text)]

lemma projectAttempt_toJson (a : AttemptRecord) : projectAttempt a.toJson = a.projected := rfl

/-- The validator takes the record. -/
def AttemptRecord.recordable (a : AttemptRecord) : Bool :=
  a.attempt = 1 && a.maxAttempts = 1 && a.dispatchState ≠ .notDispatched &&
    a.retryDecision ≠ .retryAllowed && statusConsistent a.responseState a.responseReceived a.statusCode

lemma received_of_statusConsistent {response : ResponseState} {received : Bool} {status : Option ℤ}
    (h : statusConsistent response received status = true) :
    received = decide (response = .responseReceived) := by
  simp only [statusConsistent, Bool.and_eq_true, decide_eq_true_eq] at h
  exact Bool.eq_iff_iff.mpr (by simpa using h.1)

@[simp] lemma normalize_optInt (n : Option ℤ) : (optInt n).normalize = optInt n := by
  cases n <;> simp [optInt]

lemma get?_projected (a : AttemptRecord) (key : String) : a.projected.normalize.get? key =
    ([("attempt", Json.int a.attempt), ("max_attempts", .int a.maxAttempts),
      ("dispatch_state", .str a.dispatchState.text), ("response_state", .str a.responseState.text),
      ("status_code", optInt a.statusCode), ("response_received", .bool a.responseReceived),
      ("retry_decision", .str a.retryDecision.text)].lookup key).map Json.normalize :=
  Json.get?_normalize (by simp only [List.map_cons, List.map_nil]; decide) key

lemma hasFields_projected (a : AttemptRecord) :
    a.projected.normalize.hasFields attemptFields = true :=
  Json.hasFields_normalize (by simp only [List.map_cons, List.map_nil]; decide)
    (by simp only [List.map_cons, List.map_nil]; decide)

/-- Reading a projected record gives the record back, exactly when the validator takes it. -/
lemma read_projected (a : AttemptRecord) :
    (a.recordable = true → ∃ t, Attempt.read a.projected.normalize = some t ∧
      t.dispatchState = a.dispatchState ∧ t.responseState = a.responseState) ∧
    (∀ t, Attempt.read a.projected.normalize = some t → a.recordable = true) := by
  have hstatus : a.projected.normalize.getOptInt? "status_code" = some a.statusCode := by
    rw [Json.getOptInt?, get?_projected]
    cases a.statusCode <;> simp [List.lookup_cons, optInt]
  have hdispatch : a.projected.normalize.getEnum? "dispatch_state" DispatchState.all
      DispatchState.text = some a.dispatchState := by
    rw [Json.getEnum?, get?_projected]
    simpa [List.lookup_cons] using a.dispatchState.find?_text
  have hresponse : a.projected.normalize.getEnum? "response_state" ResponseState.all
      ResponseState.text = some a.responseState := by
    rw [Json.getEnum?, get?_projected]
    simpa [List.lookup_cons] using a.responseState.find?_text
  have hreceived : a.projected.normalize.getBool? "response_received" =
      some a.responseReceived := by
    rw [Json.getBool?, get?_projected]
    simp [List.lookup_cons]
  have hattempt : a.projected.normalize.getInt? "attempt" = some a.attempt := by
    rw [Json.getInt?, get?_projected]
    simp
  have hmax : a.projected.normalize.getInt? "max_attempts" = some a.maxAttempts := by
    rw [Json.getInt?, get?_projected]
    simp [List.lookup_cons]
  have hretry : a.projected.normalize.getEnum? "retry_decision" RetryDecision.recorded
      RetryDecision.text = RetryDecision.recorded.find? (·.text = a.retryDecision.text) := by
    rw [Json.getEnum?, get?_projected]
    simp [List.lookup_cons]
  simp only [Attempt.read, hasFields_projected, require_true, hstatus, hdispatch, hresponse,
    hreceived, hattempt, hmax, hretry, Option.bind_eq_bind, Option.bind_some]
  constructor
  · intro h
    simp only [AttemptRecord.recordable, Bool.and_eq_true, decide_eq_true_eq] at h
    obtain ⟨⟨⟨⟨hone, hone'⟩, hdispatched⟩, hretry⟩, hconsistent⟩ := h
    have heq := received_of_statusConsistent hconsistent
    rw [heq] at hconsistent
    simp [hone, hone', hdispatched, hretry, hconsistent, RetryDecision.find?_text hretry, heq]
  · intro t h
    simp only [Option.bind_eq_some_iff, require_eq_some, Bool.and_eq_true, decide_eq_true_eq,
      Option.some.injEq] at h
    obtain ⟨-, ⟨hone, hone'⟩, retry, hretry, h⟩ := h
    split at h
    · rename_i hchecks
      obtain ⟨_, hguard, -⟩ := Option.bind_eq_some_iff.mp h
      have hsame := iff_of_eq (of_decide_eq_true (require_eq_some.mp hguard))
      have heq : a.responseReceived = decide (a.responseState = .responseReceived) :=
        Bool.eq_iff_iff.mpr (hsame.trans decide_eq_true_iff.symm)
      have hretried : retry.text = a.retryDecision.text := by
        simpa using List.find?_some hretry
      have hnot : a.retryDecision ≠ .retryAllowed := by
        intro hallowed
        rw [hallowed] at hretried
        cases retry with
        | retryAllowed => exact hchecks.2.1 rfl
        | none | retryBlocked => exact absurd hretried (by decide)
      simp [AttemptRecord.recordable, hone, hone', hchecks.1, hnot, heq, hchecks.2.2]
    · cases h

/-! ## The event -/

/-- The fields of the `finish` event of a completed call. -/
def CallLocals.finishFields (s : CallLocals) (denials : ℤ) : List (String × Json) :=
  CivicGate.finishFields s.envelope denials s.finishEvidence (s.attempts.map AttemptRecord.toJson)

/-- The outcome is unknown, as `finish` sees it. -/
def CallLocals.unknown (s : CallLocals) : Bool :=
  s.envelope.outcomeUnknown (s.attempts.map AttemptRecord.projected)

/-- The envelope as `finish` leaves it. -/
def CallLocals.finished (s : CallLocals) : Envelope :=
  s.envelope.finished (s.attempts.map AttemptRecord.toJson)

/-- What the event says. -/
def CallLocals.evidence (s : CallLocals) (denials : ℕ) (attempt : Option Attempt) :
    FinishEvidence where
  denials := denials
  hold := s.unknown
  finalDecision := s.envelope.decision
  toolExecuted := s.envelope.toolExecuted
  dispatchState := s.finished.dispatchState
  responseState := s.finished.responseState
  nextAction := s.finished.nextAction
  verification := s.verification
  boundaryError := none
  attempt := attempt

variable {s : CallLocals} {requestId : String} {records : List AttemptRecord}

lemma keys_finishFields (s : CallLocals) (denials : ℤ) :
    ((s.finishFields denials).map Prod.fst).Perm EventKind.finish.fields := by
  simp only [CallLocals.finishFields, finishFields, List.map_cons, List.map_nil, EventKind.fields]
  decide

/-- `finish` gives the journal these fields. -/
lemma attemptEvidence_finishEvidence (s : CallLocals) :
    (Json.dict s.finishEvidence).hasFields finishEvidenceFields = true ∧
      attemptEvidence s.finishEvidence = some (s.attempts.map AttemptRecord.toJson) := by
  have hall : (s.attempts.map AttemptRecord.toJson).all (·.hasFields attemptRecordFields) =
      true := by
    simp only [List.all_map, List.all_eq_true, Function.comp_apply]
    intro a _
    rfl
  constructor
  · rfl
  · have hlookup : s.finishEvidence.lookup "attempts" =
        some (.list (s.attempts.map AttemptRecord.toJson)) := by
      simp [CallLocals.finishEvidence, List.lookup_cons]
    simp only [attemptEvidence, hlookup, hall, if_true]

lemma finished_nextAction (h : s.Concluded requestId records) :
    s.finished.nextAction ≠ .retryAllowed := by
  rw [CallLocals.finished, Envelope.finished]
  split
  · simp [Envelope.withUnknownOutcome]
  · exact h.envelope.nextAction

/-- The codes of the errors stay. -/
lemma finished_codes (s : CallLocals) :
    s.finished.errors.map ErrorRecord.code = s.envelope.errors.map ErrorRecord.code := by
  rw [CallLocals.finished, Envelope.finished]
  split
  · simp [Envelope.withUnknownOutcome, Function.comp_def]
  · rfl

lemma readList_single {v : Json} {key c : String} (hv : v.getList? key = some [.str c])
    (hc : isCode c = true) : Code.readList v key = some [⟨c, hc⟩] := by
  simp [Code.readList, hv, Code.read, hc]

lemma readList_nil {v : Json} {key : String} (hv : v.getList? key = some []) :
    Code.readList v key = some [] := by
  simp [Code.readList, hv]

/-- What is read of the event, but for the attempts. -/
lemma read_finish {d : Domain} {j : PostgresJournal} {epoch denials : ℕ} {time : PyFloat}
    (h : s.Concluded requestId records) :
    Action.read .finish (j.event d .finish epoch time (s.finishFields denials)) =
      (readAttempts (j.event d .finish epoch time (s.finishFields denials))
        s.envelope.attemptMetadataAvailable).map fun attempt =>
          .finish requestId (s.evidence denials attempt) := by
  have hget (key : String) (hkey : key ∉ commonFields) :
      (j.event d .finish epoch time (s.finishFields denials)).get? key =
        ((s.finishFields denials).lookup key).map Json.normalize :=
    get?_event_field (keys_finishFields s denials) hkey
  have hreasons : ∃ codes, Code.readList (j.event d .finish epoch time (s.finishFields denials))
      "policy_reasons" = some codes := by
    obtain ⟨c, hreasons, hc⟩ := h.envelope.reasons
    refine ⟨_, readList_single (c := c) ?_ hc⟩
    rw [Json.getList?, hget _ (by decide)]
    simp [CallLocals.finishFields, finishFields, List.lookup_cons, hreasons, Json.normalize,
      Json.normalizeList]
  have herrors : ∃ codes, Code.readList (j.event d .finish epoch time (s.finishFields denials))
      "error_codes" = some codes := by
    have hlist : (j.event d .finish epoch time (s.finishFields denials)).getList? "error_codes" =
        some ((s.envelope.errors.map ErrorRecord.code).map .str) := by
      rw [Json.getList?, hget _ (by decide), ← finished_codes]
      simp [CallLocals.finishFields, finishFields, List.lookup_cons, Json.normalize,
        Json.normalizeList_eq_map, CallLocals.finished]
    rcases h.envelope.errors with hnil | ⟨error, herror, hcode⟩
    · exact ⟨_, readList_nil (by rw [hlist, hnil]; rfl)⟩
    · exact ⟨_, readList_single (by rw [hlist, herror]; rfl) hcode⟩
  have hstr (key text : String) (hkey : key ∉ commonFields)
      (hlookup : (s.finishFields denials).lookup key = some (.str text)) :
      (j.event d .finish epoch time (s.finishFields denials)).get? key = some (.str text) := by
    rw [hget key hkey, hlookup, Option.map_some, Json.normalize_str]
  have hbool (key : String) (b : Bool) (hkey : key ∉ commonFields)
      (hlookup : (s.finishFields denials).lookup key = some (.bool b)) :
      (j.event d .finish epoch time (s.finishFields denials)).getBool? key = some b := by
    rw [Json.getBool?, hget key hkey, hlookup, Option.map_some, Json.normalize_bool]
  have hrequest := hstr "request_id" _ (by decide) rfl
  have hverification := hstr "pre_dispatch_verification" s.verification.text (by decide) rfl
  have hconsumption := hstr "binding_consumption" "VERIFIED" (by decide) (by
    simp [CallLocals.finishFields, finishFields, List.lookup_cons, CallLocals.finishEvidence,
      h.verification, Verification.text, consumptionText])
  have hexecuted := hbool "tool_executed" _ (by decide) rfl
  have hphase := hstr "phase" "post_dispatch" (by decide) (by
    simp [CallLocals.finishFields, finishFields, List.lookup_cons, h.envelope.executed])
  have havailable := hbool "attempt_metadata_available" _ (by decide) rfl
  have hhold := hbool "hold" s.unknown (by decide) (by
    simp [CallLocals.finishFields, finishFields, List.lookup_cons, CallLocals.unknown,
      Function.comp_def, projectAttempt_toJson])
  have hdecision := hstr "final_decision" _ (by decide) rfl
  have hdispatch := hstr "dispatch_state" s.finished.dispatchState.text (by decide) rfl
  have hresponse := hstr "response_state" s.finished.responseState.text (by decide) rfl
  have hnext := hstr "next_action" s.finished.nextAction.text (by decide) rfl
  have hboundary : (j.event d .finish epoch time (s.finishFields denials)).get?
      "execution_boundary_error" = some .null := by
    rw [hget _ (by decide)]
    simp [CallLocals.finishFields, finishFields, List.lookup_cons, CallLocals.finishEvidence,
      h.boundaryError, optStr]
  have hdenials : (j.event d .finish epoch time (s.finishFields denials)).getNat? "denials" 0 =
      some denials := by
    rw [Json.getNat?, hget _ (by decide)]
    simp [CallLocals.finishFields, finishFields, List.lookup_cons]
  obtain ⟨reasons, hreasons⟩ := hreasons
  obtain ⟨errors, herrors⟩ := herrors
  have hfind := NextAction.find?_text (finished_nextAction h)
  simp only [Action.read, FinishEvidence.read, Json.getStr?, Json.getEnum?, Code.readOption,
    hrequest, hverification, hconsumption, hexecuted, hphase, havailable, hhold, hdecision,
    hdispatch, hresponse, hnext, hboundary, hdenials, hreasons, herrors, h.verification,
    h.envelope.requestId, h.envelope.executed, Decision.find?_text, DispatchState.find?_text,
    ResponseState.find?_text, Verification.find?_text, hfind, Verification.consumption,
    if_true, decide_true, require_true, Option.bind_eq_bind, Option.bind_some, Option.pure_def]
  cases readAttempts (j.event d .finish epoch time (s.finishFields denials))
    s.envelope.attemptMetadataAvailable with
  | none => rfl
  | some attempt =>
      simp [CallLocals.evidence, h.envelope.executed, h.verification]

/-! ## The attempts -/

/-- The validator takes these attempts: none, or one whose record it takes. -/
def recordableAttempts : List AttemptRecord → Bool
  | [] => true
  | [a] => a.recordable
  | _ => false

/-- The states of an attempt as it was read. -/
def Attempt.states (t : Attempt) : DispatchState × ResponseState :=
  (t.dispatchState, t.responseState)

lemma read_attempts {d : Domain} {j : PostgresJournal} {epoch denials : ℕ} {time : PyFloat}
    (h : s.Concluded requestId records) :
    (recordableAttempts records = true → ∃ attempt,
      readAttempts (j.event d .finish epoch time (s.finishFields denials))
        s.envelope.attemptMetadataAvailable = some attempt ∧
      attempt.map Attempt.states = records.head?.map fun a => (a.dispatchState, a.responseState)) ∧
    (∀ attempt, readAttempts (j.event d .finish epoch time (s.finishFields denials))
      s.envelope.attemptMetadataAvailable = some attempt → recordableAttempts records = true) := by
  have hlist : (j.event d .finish epoch time (s.finishFields denials)).getList? "attempts" =
      some (records.map fun a => a.projected.normalize) := by
    have hlookup : (s.finishFields denials).lookup "attempts" =
        some (.list ((s.attempts.map AttemptRecord.toJson).map projectAttempt)) := rfl
    rw [Json.getList?, get?_event_field (keys_finishFields s denials) (by decide), hlookup,
      h.attempts]
    simp [Json.normalize, Json.normalizeList_eq_map, projectAttempt_toJson, Function.comp_def]
  have havailable := h.reports.available
  simp only [readAttempts, hlist, havailable, Option.bind_eq_bind, Option.bind_some]
  match records with
  | [] => exact ⟨fun _ => ⟨none, rfl, rfl⟩, fun _ _ => rfl⟩
  | [a] =>
      obtain ⟨hread, hback⟩ := read_projected a
      constructor
      · intro ha
        obtain ⟨t, ht, hdispatch, hresponse⟩ := hread ha
        exact ⟨some t, by simp [ht], by simp [Attempt.states, hdispatch, hresponse]⟩
      · intro attempt hattempt
        simp only [List.map_cons, List.map_nil, Option.bind_eq_some_iff] at hattempt
        obtain ⟨_, -, t, ht, -⟩ := hattempt
        exact hback t ht
  | a :: b :: rest => exact ⟨fun h => (by cases h), fun _ h => by cases h⟩

/-! ## The transition -/

lemma unknown_nil (h : s.Concluded requestId []) : s.unknown = true := by
  simp [CallLocals.unknown, Envelope.outcomeUnknown, h.envelope.executed, h.reports.available]

lemma unknown_single {a : AttemptRecord} (h : s.Concluded requestId [a]) :
    s.unknown = !(a.dispatchState = .requestConfirmed && a.responseState = .responseReceived) := by
  have hstates := h.reports.states
  simp only [attemptStates, List.getLast?_singleton, Prod.mk.injEq] at hstates
  have hdispatch : a.projected.get? "dispatch_state" = some (.str a.dispatchState.text) := rfl
  have hresponse : a.projected.get? "response_state" = some (.str a.responseState.text) := rfl
  have hunknown : a.dispatchState.text = "DISPATCH_UNKNOWN" ↔ a.dispatchState = .dispatchUnknown := by
    cases a.dispatchState <;> decide
  have herror : a.responseState.text = "TRANSPORT_ERROR" ↔ a.responseState = .transportError := by
    cases a.responseState <;> decide
  simp only [CallLocals.unknown, Envelope.outcomeUnknown, h.envelope.executed, h.attempts,
    h.reports.available, hstates.1, hstates.2, List.map_cons, List.map_nil, List.any_cons,
    List.any_nil, List.isEmpty_cons, hdispatch, hresponse, Option.some.injEq, Json.str.injEq,
    hunknown, herror]
  cases a.dispatchState <;> cases a.responseState <;> decide

lemma finished_eq (s : CallLocals) :
    s.finished = if s.unknown then s.envelope.withUnknownOutcome else s.envelope := by
  rw [CallLocals.finished, Envelope.finished, CallLocals.unknown, List.map_map]
  rfl

/-- The event of a completed call is consistent, if its attempt was taken. -/
lemma consistent_evidence {denials : ℕ} {attempt : Option Attempt}
    (h : s.Concluded requestId records) (hrecords : recordableAttempts records = true)
    (hattempt : attempt.map Attempt.states =
      records.head?.map fun a => (a.dispatchState, a.responseState)) :
    (s.evidence denials attempt).consistent = true := by
  match records with
  | [] =>
      obtain rfl : attempt = none := by simpa using hattempt
      have hunknown := unknown_nil h
      simp [FinishEvidence.consistent, CallLocals.evidence, FinishEvidence.unknown,
        outcomeUnknown, finished_eq, hunknown, h.envelope.executed, h.verification,
        Envelope.withUnknownOutcome]
  | a :: b :: rest => exact absurd hrecords Bool.false_ne_true
  | [a] =>
      obtain ⟨t, rfl, ht⟩ : ∃ t, attempt = some t ∧ t.states = (a.dispatchState, a.responseState) := by
        simpa using hattempt
      obtain ⟨htdispatch, htresponse⟩ := Prod.mk.inj ht
      have hstates := h.reports.states
      simp only [attemptStates, List.getLast?_singleton, Prod.mk.injEq] at hstates
      have hunknown := unknown_single h
      by_cases hconfirmed : a.dispatchState = .requestConfirmed ∧ a.responseState = .responseReceived
      · simp [FinishEvidence.consistent, CallLocals.evidence, FinishEvidence.unknown,
          outcomeUnknown, finished_eq, hunknown, hconfirmed.1, hconfirmed.2, h.envelope.executed,
          h.verification, hstates.1, hstates.2, htdispatch, htresponse]
      · have hheld : s.unknown = true := by
          rw [hunknown]
          simpa using not_and_or.mp hconfirmed
        simp [FinishEvidence.consistent, CallLocals.evidence, FinishEvidence.unknown,
          outcomeUnknown, finished_eq, hheld, h.envelope.executed, h.verification,
          hstates.2, htdispatch, htresponse, Envelope.withUnknownOutcome]

/-! ## Size -/

lemma withinDigits_int {n : ℤ} (h : n.natAbs ≤ 10000) : (Json.int n).withinDigits = true := by
  have hpow : 10 ^ 5 ≤ 10 ^ maxDigits := Nat.pow_le_pow_right (by decide) (by decide)
  rw [Json.withinDigits, decide_eq_true_eq]
  omega

lemma sizeBound_int {n : ℕ} (h : n ≤ 10000) : (Json.int n).sizeBound ≤ 5 := by
  rw [Json.sizeBound]
  exact printInt_length (by decide) (by omega)

lemma sizeBoundEntries_le {n : ℕ} {kvs : List (String × Json)}
    (h : ∀ k ∈ kvs.map Prod.fst, strBound k ≤ n) :
    Json.sizeBoundEntries kvs ≤ (n + 2) * kvs.length + (kvs.map (·.2.sizeBound)).sum := by
  induction kvs with
  | nil => simp [Json.sizeBoundEntries]
  | cons e rest ih =>
      obtain ⟨k, v⟩ := e
      obtain ⟨hk, hrest⟩ := List.forall_mem_cons.mp h
      have hk : strBound k ≤ n := hk
      have hentries := ih hrest
      simp only [Json.sizeBoundEntries, List.length_cons, List.map_cons, List.sum_cons]
      rw [Nat.mul_succ]
      omega

lemma status_of_recordable {a : AttemptRecord} (h : a.recordable = true) :
    a.attempt = 1 ∧ a.maxAttempts = 1 ∧
      (a.statusCode = none ∨ ∃ n : ℕ, a.statusCode = some (n : ℤ) ∧ n ≤ 599) := by
  simp only [AttemptRecord.recordable, Bool.and_eq_true, decide_eq_true_eq, statusConsistent] at h
  obtain ⟨⟨⟨⟨hone, hone'⟩, -⟩, -⟩, -, hstatus⟩ := h
  refine ⟨hone, hone', ?_⟩
  cases hcode : a.statusCode with
  | none => exact .inl rfl
  | some n =>
      rw [hcode] at hstatus
      simp only [Bool.and_eq_true, decide_eq_true_eq] at hstatus
      obtain ⟨⟨-, hlow⟩, hhigh⟩ := hstatus
      obtain ⟨m, rfl⟩ := Int.eq_ofNat_of_zero_le (by omega : 0 ≤ n)
      exact .inr ⟨m, rfl, by omega⟩

lemma strBound_dispatch (x : DispatchState) : strBound x.text ≤ 20 := by cases x <;> decide

lemma strBound_response (x : ResponseState) : strBound x.text ≤ 20 := by cases x <;> decide

lemma strBound_retry (x : RetryDecision) : strBound x.text ≤ 20 := by cases x <;> decide

/-- A record the validator takes is small. -/
lemma projected_small {a : AttemptRecord} (h : a.recordable = true) :
    a.projected.withinDigits = true ∧ a.projected.sizeBound ≤ 300 := by
  obtain ⟨hone, hone', hstatus⟩ := status_of_recordable h
  have hcode : (optInt a.statusCode).withinDigits = true ∧ (optInt a.statusCode).sizeBound ≤ 5 := by
    rcases hstatus with hnone | ⟨n, hn, hle⟩
    · rw [hnone]
      exact ⟨rfl, by simp [optInt, Json.sizeBound]⟩
    · rw [hn]
      exact ⟨withinDigits_int (by omega), sizeBound_int (by omega)⟩
  have hint : (Json.int 1).withinDigits = true ∧ (Json.int 1).sizeBound ≤ 5 :=
    ⟨withinDigits_int (by decide), sizeBound_int (n := 1) (by decide)⟩
  have hdispatch := strBound_dispatch a.dispatchState
  have hresponse := strBound_response a.responseState
  have hretry := strBound_retry a.retryDecision
  rw [AttemptRecord.projected, hone, hone']
  constructor
  · rw [Json.withinDigits]
    simp only [Json.withinDigitsEntries, withinDigits_str, withinDigits_bool, hcode.1, hint.1,
      Bool.and_self]
  · rw [Json.sizeBound]
    refine (Nat.add_le_add_right (sizeBoundEntries_le (n := 19) ?_) 2).trans ?_
    · simp only [List.map_cons, List.map_nil]
      decide
    · simp only [List.length_cons, List.length_nil, List.map_cons, List.map_nil, List.sum_cons,
        List.sum_nil, Json.sizeBound] at hint hcode ⊢
      omega

end CivicGate
