import CivicGate.Console.Executor

/-!
# The two executors

What `DemoExecutor` and `ChatExecutor` take, and the checks of the files a worker process left.
The files hold whatever the process wrote: `run_result.get(…)` on a document that is no object
raises an `AttributeError`, which no handler of the worker thread names.
-/

namespace CivicGate.Console.Executor

/-! ## Result files -/

/-- What `json.loads(path.read_bytes())` meets. -/
inductive FileContent
  | unreadable
  /-- No UTF-8, no JSON, or a number Python does not read. -/
  | malformed
  /-- Nested deeper than Python's recursion limit. -/
  | tooDeep
  | value (v : Json)

/-- `json.loads(path.read_bytes())` -/
def FileContent.load : FileContent → Except WorkerException Json
  | .unreadable => throw .caught
  | .malformed => throw .caught
  | .tooDeep => throw .uncaught
  | .value v => return v.normalize

/-- `value.get(key)` -/
def get (v : Json) (key : String) : Except WorkerException (Option Json) :=
  match v with
  | .dict entries => return entries.lookup key
  | _ => throw .uncaught

/-- `value.get(section, {})` -/
def getSection (v : Json) (section' : String) : Except WorkerException Json := do
  return (← get v section').getD (.dict [])

/-- `value == n`, for a small integer. -/
def equalsInt (v : Option Json) (n : ℤ) : Bool :=
  match v with
  | some (.int m) => m = n
  | some (.bool b) => (if b then 1 else 0) = n
  | some (.float x) => x.value = n
  | _ => false

/-- `value == {"PASS": 1, "FAIL": 0, "ERROR": 0, "SKIP": 0}` -/
def isOnePass (v : Option Json) : Bool :=
  match v with
  | some v => v.hasFields ["PASS", "FAIL", "ERROR", "SKIP"] && equalsInt (v.get? "PASS") 1 &&
      ["FAIL", "ERROR", "SKIP"].all fun key => equalsInt (v.get? key) 0
  | none => false

/-- An observation of the run as the reader lists it. -/
structure ObservationRow where
  id : String
  caseName : String
  decision : Option String

/-- The run as the reader shows it. -/
structure RunSummary where
  integrity : String
  observations : List ObservationRow

/-- The only observation of a run that is verified. -/
def RunSummary.verified (run : RunSummary) (code : String) :
    Except WorkerException ObservationRow := do
  ensure (run.integrity = "VERIFIED") (.demo code)
  match run.observations with
  | [observation] => return observation
  | _ => throw (.demo code)

/-- The digest of the manifest, if it could be read. -/
def manifestDigest (manifest : Option String) : Except WorkerException String :=
  match manifest with
  | some sha => return sha
  | none => throw .caught

/-! ## The demonstration executor -/

/-- `SCENARIOS` -/
inductive Scenario
  | permit
  | deny
  | review
  deriving DecidableEq

/-- The text of a scenario. -/
def Scenario.text : Scenario → String
  | .permit => "permit"
  | .deny => "deny"
  | .review => "review"

/-- The decision a scenario must end with. -/
def Scenario.decision : Scenario → String
  | .permit => "PERMIT"
  | .deny => "DENY"
  | .review => "REVIEW_REQUIRED"

/-- What a process of the demonstration left. -/
structure DemoReads where
  runResult : FileContent
  manifest : Option String
  /-- `EvidenceStore([entry]).get_run(entry["id"])` -/
  observed : Except WorkerException RunSummary

/-- The checks of a receipt: these entries are `True` or `False`, and the others as given. -/
def checkReceipt (result : Json) (code finalStatus : String) (yes no : List String)
    (texts : List (String × String)) : Except WorkerException Unit := do
  let status ← get result "final_status"
  ensure (status = some (.str finalStatus) && isOnePass (result.get? "counts") &&
    yes.all (fun key => result.get? key = some (.bool true)) &&
    no.all (fun key => result.get? key = some (.bool false)) &&
    texts.all fun entry => result.get? entry.1 = some (.str entry.2)) (.demo code)

/-- The checks of `DemoExecutor._run_job`. -/
def admitDemo (scenario : Scenario) (reads : DemoReads) :
    Except WorkerException (String × String) := do
  let result ← reads.runResult.load
  checkReceipt result "FRESH_WORKER_RECEIPT_UNVERIFIED" "A2_INTEGRATED_DEMO_READY"
    ["source_copy_unchanged", "guard_primary_evidence_verified"] ["automatic_retry"]
    [("scenario", scenario.text)]
  let manifest ← manifestDigest reads.manifest
  let run ← reads.observed
  let observation ← run.verified "FRESH_EVIDENCE_ADMISSION_FAILED"
  ensure (observation.caseName = scenario.text && observation.decision = some scenario.decision)
    (.demo "FRESH_SCENARIO_CORRELATION_FAILED")
  return (manifest, observation.id)

/-- `DemoExecutor` -/
def demoExecutor (maxJobs deadlineSeconds : ℕ) (hjobs : 1 ≤ maxJobs ∧ maxJobs ≤ 8)
    (hdeadline : 10 ≤ deadlineSeconds ∧ deadlineSeconds ≤ 120) :
    Scheduler Scenario DemoReads Unit where
  maxJobs
  deadlineSeconds
  maxJobs_bounds := hjobs
  deadlineSeconds_bounds := hdeadline
  accepts _ := true
  invalidCode := "UNSUPPORTED_SYNTHETIC_SCENARIO"
  holdCode := "SYNTHETIC_EXECUTION_HOLD"
  busyCode := "SYNTHETIC_EXECUTOR_BUSY"
  limitCode := "SYNTHETIC_TASK_LIMIT"
  reservationCode := "RESERVATION_CUSTODY_UNCONFIRMED"
  rejectedCode := "SYNTHETIC_WORKER_REJECTED"
  entryPrefix := "e2e-"
  checks := admitDemo
  details _ _ := return ()

/-! ## The chat executor -/

/-- A character `str.strip` removes. -/
def isBlank (c : Char) : Bool :=
  (9 ≤ c.toNat && c.toNat ≤ 13) || (28 ≤ c.toNat && c.toNat ≤ 32) ||
    (0x2000 ≤ c.toNat && c.toNat ≤ 0x200A) ||
    c.toNat ∈ [0x85, 0xA0, 0x1680, 0x2028, 0x2029, 0x202F, 0x205F, 0x3000]

/-- The check of a prompt. -/
def isPrompt (prompt : String) : Bool :=
  !prompt.toList.all isBlank && prompt.length ≤ 4000 && prompt.utf8ByteSize ≤ 16000 &&
    !prompt.toList.contains '\x00'

/-- What a process of a chat turn left. -/
structure ChatReads where
  runResult : FileContent
  /-- The files named `console-evidence-projection.json`. -/
  projections : List FileContent
  manifest : Option String
  /-- `EvidenceStore([entry]).get_run(entry["id"])` -/
  observed : Except WorkerException RunSummary

/-- The projection, if there is one file of that name. -/
def ChatReads.projection (reads : ChatReads) : Except WorkerException Json :=
  match reads.projections with
  | [projection] => projection.load
  | _ => throw (.demo "FRESH_CHAT_PROJECTION_MISSING")

/-- `value not in {…}`: a list or a dictionary cannot be looked up. -/
def isDisposition (v : Option Json) : Except WorkerException Bool :=
  match v with
  | some (.str s) => return s ∈ ["PERMIT", "DENY", "REVIEW_REQUIRED"]
  | some (.list _) => throw .caught
  | some (.dict _) => throw .caught
  | _ => return false

/-- `type(value) is int` -/
def isInt : Option Json → Bool
  | some (.int _) => true
  | _ => false

/-- The checks that the projection is of this prompt. -/
def correlate (prompt : String) (projection : Json) : Except WorkerException Unit := do
  let failed : WorkerException := .demo "FRESH_CHAT_CORRELATION_FAILED"
  let proposal ← get (← getSection projection "proposal") "effective"
  let request ← getSection projection "request"
  let original ← get request "original_request"
  ensure (original = some (.str prompt)) failed
  ensure (request.get? "sha256" = some (.str (sha256Hex prompt))) failed
  ensure (proposal.any (·.hasFields ["tool", "arguments"])) failed
  let disposition ← get (← getSection projection "policy") "final_disposition"
  let known ← isDisposition disposition
  ensure known failed
  let binding ← getSection projection "binding"
  let issued ← get binding "issued_count"
  ensure (isInt issued) failed
  ensure (isInt (binding.get? "consumed_count")) failed
  let attempts ← get (← getSection projection "backend") "mock_transport_attempts"
  ensure (isInt attempts) failed

/-- The checks of `ChatExecutor._run_job`. -/
def admitChat (prompt : String) (reads : ChatReads) :
    Except WorkerException (String × String) := do
  let result ← reads.runResult.load
  checkReceipt result "FRESH_CHAT_WORKER_RECEIPT_UNVERIFIED" "MINI10_CHAT_TURN_VERIFIED"
    ["source_unchanged", "projection_verified", "guard_primary_evidence_verified"]
    ["automatic_retry"]
    [("prompt_sha256", sha256Hex prompt), ("host_owner", "CHANNEL_A_LOCAL_READ_V1"),
      ("write_execution", "DISABLED_NOT_COMPOSED")]
  let projection ← reads.projection
  correlate prompt projection
  let manifest ← manifestDigest reads.manifest
  let run ← reads.observed
  let observation ← run.verified "FRESH_CHAT_EVIDENCE_ADMISSION_FAILED"
  return (manifest, observation.id)

/-- What a chat turn shows once complete. -/
structure ChatDetails where
  selectedTool : Json
  canonicalArguments : Json
  decision : Json
  policyReasons : Json
  bindingIssuances : Json
  bindingConsumptions : Json
  backendAttempts : Json
  resultState : Json
  result : Json
  stageEntryDeltasMs : List (String × PyFloat)

/-- `round(x, 3)` -/
def roundThree (x : PyFloat) : Option PyFloat :=
  let scaled := x.value * 1000
  let low := scaled.floor
  let rest := scaled - low
  let n := if rest < 1 / 2 ∨ (rest = 1 / 2 ∧ low % 2 = 0) then low else low + 1
  PyFloat.ofRat (n / 1000)

/-- The row of a node: its name and its entry time. -/
def nodeEntry (row : Json) : Except WorkerException (String × ℤ) :=
  match row.getStr? "node", row.getInt? "parent_monotonic_ns" with
  | some name, some time => return (name, time)
  | _, _ => throw (.demo "CHAT_GRAPH_TIMING_INVALID")

/-- The time from each node's entry to the next one's; a quotient too large for a float raises an
`OverflowError`. -/
def deltas : List (String × ℤ) → Except WorkerException (List (String × PyFloat))
  | a :: b :: rest =>
    match (PyFloat.ofRat ((b.2 - a.2 : ℤ) / 1000000)).bind roundThree with
    | some delta => do
      let later ← deltas (b :: rest)
      return (a.1 ++ "_to_" ++ b.1, delta) :: later
    | none => throw .uncaught
  | _ => return []

/-- `_entry_deltas(projection)` -/
def entryDeltas (projection : Json) : Except WorkerException (List (String × PyFloat)) := do
  let invalid : WorkerException := .demo "CHAT_GRAPH_TIMING_INVALID"
  let nodes ← get (← getSection projection "graph") "node_entries"
  match nodes with
  | some (.list rows) =>
    ensure (rows.length = 5) invalid
    let values ← rows.mapM nodeEntry
    ensure (values.map Prod.fst = ["intake", "discovery", "planner", "gateway", "result"]) invalid
    ensure ((values.map Prod.snd).Pairwise (· ≤ ·)) invalid
    deltas values
  | _ => throw invalid

/-- What `candidate.update(…)` reads of a projection that was correlated. -/
def chatDetails (_ : String) (reads : ChatReads) : Except WorkerException ChatDetails := do
  let projection ← reads.projection
  let proposal := (← get (← getSection projection "proposal") "effective").getD .null
  let policy ← getSection projection "policy"
  let binding ← getSection projection "binding"
  let backend ← getSection projection "backend"
  let result ← getSection projection "result"
  let state ← get result "verification_state"
  let stageEntryDeltasMs ← entryDeltas projection
  return {
    selectedTool := (proposal.get? "tool").getD .null
    canonicalArguments := (proposal.get? "arguments").getD .null
    decision := (policy.get? "final_disposition").getD .null
    policyReasons := (policy.get? "reasons").getD (.list [])
    bindingIssuances := (binding.get? "issued_count").getD .null
    bindingConsumptions := (binding.get? "consumed_count").getD .null
    backendAttempts := (backend.get? "mock_transport_attempts").getD .null
    resultState := state.getD (.str "UNKNOWN")
    result := (result.get? "value").getD .null
    stageEntryDeltasMs }

/-- `ChatExecutor` -/
def chatExecutor (maxJobs deadlineSeconds : ℕ) (hjobs : 1 ≤ maxJobs ∧ maxJobs ≤ 8)
    (hdeadline : 10 ≤ deadlineSeconds ∧ deadlineSeconds ≤ 120) :
    Scheduler String ChatReads ChatDetails where
  maxJobs
  deadlineSeconds
  maxJobs_bounds := hjobs
  deadlineSeconds_bounds := hdeadline
  accepts := isPrompt
  invalidCode := "INVALID_CHAT_PROMPT"
  holdCode := "SYNTHETIC_CHAT_HOLD"
  busyCode := "SYNTHETIC_CHAT_BUSY"
  limitCode := "SYNTHETIC_CHAT_LIMIT"
  reservationCode := "CHAT_RESERVATION_CUSTODY_UNCONFIRMED"
  rejectedCode := "SYNTHETIC_CHAT_WORKER_REJECTED"
  entryPrefix := "chat-e2e-"
  checks := admitChat
  details := chatDetails

/-! ## What the handlers name -/

section Handled

variable {α β : Type}

/-- A handler of the worker thread names the exception, if there is one. -/
def Handled (r : Except WorkerException α) : Prop := r ≠ .error .uncaught

lemma handled_ok (a : α) : Handled (.ok a) := nofun

lemma handled_demo (code : String) : Handled (.error (.demo code) : Except WorkerException α) := by
  simp [Handled]

lemma handled_caught : Handled (.error .caught : Except WorkerException α) := by
  simp [Handled]

lemma handled_ensure (condition : Bool) (code : String) :
    Handled (ensure condition (.demo code)) := by
  intro h
  cases (ensure_eq_error.mp h).2

lemma Handled.bind {r : Except WorkerException α} {f : α → Except WorkerException β}
    (h : Handled r) (hf : ∀ a, r = .ok a → Handled (f a)) : Handled (r >>= f) := by
  intro hraised
  rcases Except.bind_eq_error.mp hraised with hr | ⟨a, ha, hr⟩
  · exact h hr
  · exact hf a ha hr

/-- What was read is an object. -/
def FileContent.IsObject (c : FileContent) : Prop :=
  c ≠ .tooDeep ∧ ∀ v, c = .value v → ∃ entries, v.normalize = .dict entries

lemma FileContent.IsObject.load {c : FileContent} (h : c.IsObject) : Handled c.load := by
  cases c with
  | unreadable => exact handled_caught
  | malformed => exact handled_caught
  | tooDeep => exact absurd rfl h.1
  | value v => exact handled_ok _

lemma FileContent.load_eq_ok {c : FileContent} {result : Json} (h : c.load = .ok result) :
    ∃ v, c = .value v ∧ v.normalize = result := by
  cases c with
  | value v => exact ⟨v, rfl, Except.ok.inj h⟩
  | _ => cases h

lemma handled_get (entries : List (String × Json)) (key : String) :
    Handled (get (.dict entries) key) := handled_ok _

lemma handled_checkReceipt (entries : List (String × Json)) (code finalStatus : String)
    (yes no : List String) (texts : List (String × String)) :
    Handled (checkReceipt (.dict entries) code finalStatus yes no texts) :=
  (handled_get _ _).bind fun _ _ => handled_ensure _ _

lemma handled_verified (run : RunSummary) (code : String) : Handled (run.verified code) := by
  refine (handled_ensure _ _).bind fun _ _ => ?_
  split
  · exact handled_ok _
  · exact handled_demo _

lemma handled_manifestDigest (manifest : Option String) : Handled (manifestDigest manifest) := by
  cases manifest with
  | some sha => exact handled_ok _
  | none => exact handled_caught

/-- The checks of a demonstration end in a handler, if the receipt is an object and the reader
raises what a handler names. -/
lemma admitDemo_handled {scenario : Scenario} {reads : DemoReads}
    (hresult : reads.runResult.IsObject) (hobserved : Handled reads.observed) :
    Handled (admitDemo scenario reads) := by
  refine hresult.load.bind fun result hload => ?_
  obtain ⟨v, hv, rfl⟩ := FileContent.load_eq_ok hload
  obtain ⟨entries, hentries⟩ := hresult.2 v hv
  rw [hentries]
  refine (handled_checkReceipt _ _ _ _ _ _).bind fun _ _ => ?_
  refine (handled_manifestDigest _).bind fun _ _ => ?_
  refine hobserved.bind fun run _ => ?_
  refine (handled_verified run _).bind fun _ _ => ?_
  exact (handled_ensure _ _).bind fun _ _ => handled_ok _

lemma handled_isDisposition (v : Option Json) : Handled (isDisposition v) := by
  unfold isDisposition
  split
  · exact handled_ok _
  · exact handled_caught
  · exact handled_caught
  · exact handled_ok _

/-- The sections of an object that are there are objects. -/
def Sectioned (v : Json) : Prop :=
  ∃ entries, v = .dict entries ∧
    ∀ key ∈ ["proposal", "request", "policy", "binding", "backend", "result", "graph"],
      ∀ w, entries.lookup key = some w → ∃ fields, w = .dict fields

/-- What was read is an object with such sections. -/
def FileContent.HasSections (c : FileContent) : Prop :=
  c ≠ .tooDeep ∧ ∀ v, c = .value v → Sectioned v.normalize

lemma Sectioned.bind_getSection {v : Json} (h : Sectioned v) {key : String}
    (hkey : key ∈ ["proposal", "request", "policy", "binding", "backend", "result", "graph"])
    {f : Json → Except WorkerException β} (hf : ∀ fields, Handled (f (.dict fields))) :
    Handled (getSection v key >>= f) := by
  obtain ⟨entries, rfl, hsections⟩ := h
  simp only [getSection, get, pure_bind]
  cases hlookup : entries.lookup key with
  | none => exact hf []
  | some w =>
      obtain ⟨fields, rfl⟩ := hsections key hkey w hlookup
      exact hf fields

lemma ChatReads.handled_projection {reads : ChatReads}
    (h : ∀ c ∈ reads.projections, c.HasSections) :
    Handled reads.projection ∧ ∀ v, reads.projection = .ok v → Sectioned v := by
  unfold ChatReads.projection
  split
  · rename_i c hc
    have hc : c.HasSections := h c (by rw [hc]; exact List.mem_singleton_self c)
    refine ⟨?_, fun v hv => ?_⟩
    · refine FileContent.IsObject.load ⟨hc.1, fun v hv => ?_⟩
      obtain ⟨entries, hentries, -⟩ := hc.2 v hv
      exact ⟨entries, hentries⟩
    · obtain ⟨w, hw, rfl⟩ := FileContent.load_eq_ok hv
      exact hc.2 w hw
  · exact ⟨handled_demo _, nofun⟩

lemma Sectioned.correlate {prompt : String} {v : Json} (h : Sectioned v) :
    Handled (correlate prompt v) := by
  unfold Executor.correlate
  dsimp only
  refine h.bind_getSection (by simp) fun proposal => ?_
  refine (handled_get _ _).bind fun effective _ => ?_
  refine h.bind_getSection (by simp) fun request => ?_
  refine (handled_get _ _).bind fun original _ => ?_
  refine (handled_ensure _ _).bind fun _ _ => (handled_ensure _ _).bind fun _ _ => ?_
  refine (handled_ensure _ _).bind fun _ _ => ?_
  refine h.bind_getSection (by simp) fun policy => ?_
  refine (handled_get _ _).bind fun disposition _ => ?_
  refine (handled_isDisposition _).bind fun known _ => (handled_ensure _ _).bind fun _ _ => ?_
  refine h.bind_getSection (by simp) fun binding => ?_
  refine (handled_get _ _).bind fun issued _ => ?_
  refine (handled_ensure _ _).bind fun _ _ => (handled_ensure _ _).bind fun _ _ => ?_
  refine h.bind_getSection (by simp) fun backend => ?_
  exact (handled_get _ _).bind fun attempts _ => handled_ensure _ _

/-- The checks of a chat turn end in a handler, if the receipt is an object, the projection one
with objects for its sections, and the reader raises what a handler names. -/
lemma admitChat_handled {prompt : String} {reads : ChatReads}
    (hresult : reads.runResult.IsObject) (hprojection : ∀ c ∈ reads.projections, c.HasSections)
    (hobserved : Handled reads.observed) : Handled (admitChat prompt reads) := by
  obtain ⟨hread, hsections⟩ := ChatReads.handled_projection hprojection
  refine hresult.load.bind fun result hload => ?_
  obtain ⟨v, hv, rfl⟩ := FileContent.load_eq_ok hload
  obtain ⟨entries, hentries⟩ := hresult.2 v hv
  rw [hentries]
  refine (handled_checkReceipt _ _ _ _ _ _).bind fun _ _ => ?_
  refine hread.bind fun projection hp => ?_
  refine (hsections _ hp).correlate.bind fun _ _ => ?_
  refine (handled_manifestDigest _).bind fun _ _ => ?_
  refine hobserved.bind fun run _ => ?_
  exact (handled_verified run _).bind fun _ _ => handled_ok _

/-- What a complete chat turn shows is found, or a handler takes over, if the sections of the
projection are objects and the times between its nodes fit a float. -/
lemma chatDetails_handled {prompt : String} {reads : ChatReads}
    (hprojection : ∀ c ∈ reads.projections, c.HasSections)
    (hdeltas : ∀ v, reads.projection = .ok v → Handled (entryDeltas v)) :
    Handled (chatDetails prompt reads) := by
  obtain ⟨hread, hsections⟩ := ChatReads.handled_projection hprojection
  refine hread.bind fun projection hp => ?_
  have h := hsections _ hp
  refine h.bind_getSection (by simp) fun proposal => ?_
  refine (handled_get _ _).bind fun effective _ => ?_
  dsimp only
  refine h.bind_getSection (by simp) fun policy => ?_
  refine h.bind_getSection (by simp) fun binding => ?_
  refine h.bind_getSection (by simp) fun backend => ?_
  refine h.bind_getSection (by simp) fun result => ?_
  refine (handled_get _ _).bind fun state _ => ?_
  exact (hdeltas _ hp).bind fun deltas _ => handled_ok _

end Handled

end CivicGate.Console.Executor
