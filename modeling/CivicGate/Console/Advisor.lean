import CivicGate.Console.AdvisorReport
import CivicGate.Framework.Machine

/-!
# The advisor service

`AdvisorService` of `evidence_console/evidence_advisor_v1.py`: at most one analysis at a time,
each by a worker thread that calls the provider once.

A job is named by its place in the table (`uuid4` tells jobs apart).  What the request threads
and a worker do under the service's lock is one step; in between, a worker is in one of the
phases of `Phase`.  What the evidence store returns at each read, what the provider answers, the
clock readings and whether a file could be written are part of a step's input.
-/

namespace CivicGate.Console

/-! ## Exceptions -/

/-- An exception, as `_selection` and the handler of `_analyze` tell them apart. -/
inductive Raised
  | advisor (e : AdvisorError)
  | safeEvidence (code : String)
  /-- Another `Exception`, with its attribute `code` if that is a string. -/
  | other (code : Option String)
  /-- No `Exception`: `SystemExit`, `KeyboardInterrupt`, `CancelledError`. -/
  | exit
  deriving DecidableEq

/-- `ADVISOR_[A-Z0-9_]{1,64}` -/
def isAdvisorCode (code : String) : Bool :=
  "ADVISOR_".toList.isPrefixOf code.toList && 8 < code.length && code.length ≤ 72 &&
    (code.toList.drop 8).all fun c => c.isUpper || c.isDigit || c = '_'

/-- The code kept of an exception. -/
def Raised.code (e : Raised) : String :=
  let code := match e with
    | .advisor e => some e.code
    | .safeEvidence code => some code
    | .other code => code
    | .exit => none
  match code with
  | some code => if isAdvisorCode code then code else "ADVISOR_ANALYSIS_FAILED"
  | none => "ADVISOR_ANALYSIS_FAILED"

/-! ## Jobs -/

/-- `job["status"]` -/
inductive JobStatus
  | running
  | complete
  | failed
  deriving DecidableEq

/-- What a job shows. -/
structure Job where
  runId : String
  observationId : String
  status : JobStatus
  createdAtUtc : String
  completedAtUtc : Option String
  model : String
  integrity : String
  requestSha256 : String
  evidenceBindingSha256 : String
  report : Option Json
  errorCode : Option String
  referenceValidation : String
  sources : List LocalSource
  facts : List Fact
  usage : Option Json
  deriving DecidableEq

/-- Where the worker of a job is. -/
inductive Phase
  /-- No thread was started. -/
  | absent
  | starting
  /-- In `provider.analyze`, since a clock reading. -/
  | calling (started : PyFloat)
  /-- With a report accepted, before the lock. -/
  | reported (started : PyFloat) (report : Json) (usage : Option Json)
  /-- In the handler, before the lock. -/
  | failing (code : String)
  /-- In the `finally` clause, before the lock. -/
  | leaving
  | done
  deriving DecidableEq

/-- A job with its worker and the worker's arguments. -/
structure Entry where
  job : Job
  payload : Payload
  localSources : List LocalSource
  binding : String
  phase : Phase
  deriving DecidableEq

/-- A file of the output directory that was written. -/
inductive Document
  | request (place : ℕ)
  | analysis (place : ℕ) (candidate : Job)
  | failure (place : ℕ) (code : String)
  deriving DecidableEq

/-- What changes in a service.  `calls` lists the jobs whose worker called the provider. -/
structure Session where
  entries : List Entry
  requests : List (String × ℕ)
  active : Bool
  blocked : Bool
  closed : Bool
  calls : List ℕ
  files : List Document
  deriving DecidableEq

/-- A service as constructed. -/
def Session.initial : Session := ⟨[], [], false, false, false, [], []⟩

/-- The job at a place. -/
def Session.job? (s : Session) (place : ℕ) : Option Job := (s.entries[place]?).map Entry.job

/-- What `__init__` fixed. -/
structure AdvisorService where
  model : String
  timeoutSeconds : PyNum
  maxJobs : ℕ
  screen : TextScreen
  maxJobs_pos : 1 ≤ maxJobs
  maxJobs_le : maxJobs ≤ 32

/-! ## Selection -/

/-- What the store gives for the run and the observation. -/
abbrev Evidence := Except Raised (RunView × Observation)

/-- `_selection(run_id, observation_id)` -/
def selection (evidence : Evidence) : Except Raised (Payload × List LocalSource × String) :=
  match evidence with
  | .error (.safeEvidence _) => .error (.advisor ⟨"ADVISOR_OBSERVATION_UNAVAILABLE", 404⟩)
  | .error e => .error e
  | .ok (run, observation) =>
    match buildPayload run observation with
    | .error e => .error (.advisor e)
    | .ok (payload, localSources) =>
      .ok (payload, localSources, digest (.dict [("manifest", .str run.manifestSha256),
        ("observation", observation.toJson)]))

/-! ## Requests -/

/-- `valid_id(value)` -/
def isValidId (value : String) : Bool :=
  match value.toList with
  | [] => false
  | c :: rest => c.isAlphanum && rest.length ≤ 95 && rest.all (isWord ['_', '-'])

/-- The text of a `uuid.UUID` of version 4. -/
def isUuid4 (text : String) : Bool :=
  let isHex (c : Char) := c.isDigit || ('a' ≤ c && c ≤ 'f')
  match text.toList.splitOn '-' with
  | [a, b, c, d, e] =>
    [a, b, c, d, e].map List.length = [8, 4, 4, 4, 12] && (a ++ b ++ c ++ d ++ e).all isHex &&
      c.head? = some '4' && d.head?.any (· ∈ ['8', '9', 'a', 'b'])
  | _ => false

/-- The arguments of `submit`, `none` for a value that is no string, and what it meets. -/
structure SubmitCall where
  runId : Option String
  observationId : Option String
  idempotencyKey : Option String
  evidence : Evidence
  now : String
  /-- The request file was written. -/
  requestWritten : Bool
  /-- `thread.start()` did not raise. -/
  threadStarted : Bool

/-- The job `submit` creates. -/
def AdvisorService.newJob (a : AdvisorService) (runId observationId now : String)
    (payload : Payload) (binding : String) : Job :=
  { runId, observationId, status := .running, createdAtUtc := now, completedAtUtc := none,
    model := a.model, integrity := payload.integrity, requestSha256 := digest payload.toJson,
    evidenceBindingSha256 := binding, report := none, errorCode := none,
    referenceValidation := "NOT_PERFORMED", sources := [], facts := [], usage := none }

/-- The job after a failure that keeps it from being analysed. -/
def Job.refused (job : Job) (code : String) : Job :=
  { job with status := .failed, errorCode := some code }

/-- `submit` for a key not yet used, once a job may be accepted. -/
def AdvisorService.accept (a : AdvisorService) (s : Session) (runId observationId key : String)
    (c : SubmitCall) : Session × Except Raised (ℕ × Job) :=
  match selection c.evidence with
  | .error e => (s, .error e)
  | .ok (payload, localSources, binding) =>
    let place := s.entries.length
    let job := a.newJob runId observationId c.now payload binding
    let entry (job : Job) (phase : Phase) : Entry := { job, payload, localSources, binding, phase }
    let accepted : Session := { s with requests := s.requests ++ [(key, place)] }
    if !c.requestWritten then
      let code := "ADVISOR_CUSTODY_UNCONFIRMED"
      ({ accepted with entries := s.entries ++ [entry (job.refused code) .absent], blocked := true },
        .error (.advisor ⟨code, 503⟩))
    else if !c.threadStarted then
      let code := "ADVISOR_START_UNCONFIRMED"
      ({ accepted with
          entries := s.entries ++ [entry (job.refused code) .absent]
          files := s.files ++ [.request place]
          blocked := true },
        .error (.advisor ⟨code, 503⟩))
    else
      ({ accepted with
          entries := s.entries ++ [entry job .starting]
          files := s.files ++ [.request place]
          active := true },
        .ok (place, job))

/-- `submit` -/
def AdvisorService.submit (a : AdvisorService) (s : Session) (c : SubmitCall) :
    Session × Except Raised (ℕ × Job) :=
  match c.runId, c.observationId with
  | some runId, some observationId =>
    if !(isValidId runId && isValidId observationId) then
      (s, .error (.advisor ⟨"ADVISOR_OBSERVATION_UNAVAILABLE", 404⟩))
    else match c.idempotencyKey with
      | none => (s, .error (.advisor ⟨"ADVISOR_IDEMPOTENCY_REQUIRED", 400⟩))
      | some key =>
        if !isUuid4 key then (s, .error (.advisor ⟨"ADVISOR_IDEMPOTENCY_REQUIRED", 400⟩))
        else match s.requests.lookup key with
          | some place =>
            match s.job? place with
            | some job =>
              if job.runId = runId ∧ job.observationId = observationId then (s, .ok (place, job))
              else (s, .error (.advisor ⟨"ADVISOR_IDEMPOTENCY_CONFLICT", 409⟩))
            | none => (s, .error (.other none))
          | none =>
            if s.closed || s.blocked then (s, .error (.advisor ⟨"ADVISOR_SESSION_BLOCKED", 503⟩))
            else if s.active then (s, .error (.advisor ⟨"ADVISOR_BUSY", 409⟩))
            else if a.maxJobs ≤ s.entries.length then
              (s, .error (.advisor ⟨"ADVISOR_BUDGET_EXHAUSTED", 429⟩))
            else a.accept s runId observationId key c
  | _, _ => (s, .error (.advisor ⟨"ADVISOR_OBSERVATION_UNAVAILABLE", 404⟩))

/-- `get_job` -/
def Session.getJob (s : Session) (place : ℕ) : Except Raised (ℕ × Job) :=
  match s.job? place with
  | some job => .ok (place, job)
  | none => .error (.advisor ⟨"ADVISOR_UNKNOWN_ANALYSIS", 404⟩)

/-- `shutdown` -/
def Session.shutdown (s : Session) : Session :=
  { s with closed := true, blocked := s.blocked || s.active }

/-! ## The worker -/

/-- What `provider.analyze` returns. -/
structure ProviderReply where
  report : Json
  model : String
  usage : Option Json

/-- The outcome of the provider call, or of reading what it returned. -/
abbrev Answer := Except Raised ProviderReply

/-- The usage of a reply is none, or two counts. -/
def isUsage : Option Json → Bool
  | none => true
  | some usage => usage.hasFields ["input_tokens", "output_tokens"] &&
      ["input_tokens", "output_tokens"].all fun k =>
        (usage.getInt? k).any fun n => 0 ≤ n && n ≤ 1000000

/-- The checks of a reply, up to the lock. -/
def AdvisorService.examine (a : AdvisorService) (payload : Payload) (answer : Answer) :
    Except Raised (Json × Option Json) := do
  let reply ← answer
  ensure (reply.model = a.model) (.advisor ⟨"ADVISOR_MODEL_MISMATCH", 502⟩)
  ensure (isUsage reply.usage) (.advisor ⟨"ADVISOR_USAGE_INVALID", 502⟩)
  let report ← Except.reraise (validateReport a.screen reply.report payload) .advisor
  return (report, reply.usage)

/-- `now - started > timeout_seconds` -/
def AdvisorService.late (a : AdvisorService) (started now : PyFloat) : Bool :=
  match PyFloat.ofRat (now.value - started.value) with
  | some elapsed => a.timeoutSeconds.value < elapsed.value
  | none => true

/-- What the publication of a report meets under the lock. -/
structure PublishCall where
  clock : PyFloat
  evidence : Evidence
  now : String
  /-- The candidate file was written. -/
  written : Bool
  /-- The clock after the write. -/
  acknowledged : PyFloat

/-- The job as published. -/
def Entry.completed (entry : Entry) (report : Json) (usage : Option Json) (now : String) : Job :=
  { entry.job with
    status := .complete
    completedAtUtc := some now
    report := some report
    sources := entry.localSources
    facts := entry.payload.facts
    usage
    referenceValidation := "RESOLVED_NOT_SEMANTIC_VERIFICATION" }

/-- The checks under the lock before the candidate is written. -/
def AdvisorService.recheck (a : AdvisorService) (closed : Bool) (entry : Entry)
    (started : PyFloat) (c : PublishCall) : Except Raised Unit := do
  ensure (!closed) (.advisor ⟨"ADVISOR_SHUTDOWN_RESULT_UNKNOWN", 503⟩)
  ensure (!a.late started c.clock) (.advisor ⟨"ADVISOR_DEADLINE_EXCEEDED", 504⟩)
  let current ← selection c.evidence
  ensure (current.2.2 = entry.binding &&
    canonicalText current.1.toJson = canonicalText entry.payload.toJson &&
    current.2.1 = entry.localSources) (.advisor ⟨"ADVISOR_EVIDENCE_CHANGED", 409⟩)

/-- The candidate is written, then published: the files afterwards, and the job or what is
raised. -/
def AdvisorService.publish (a : AdvisorService) (s : Session) (place : ℕ) (entry : Entry)
    (started : PyFloat) (report : Json) (usage : Option Json) (c : PublishCall) :
    List Document × Except Raised Job :=
  match a.recheck s.closed entry started c with
  | .error e => (s.files, .error e)
  | .ok () =>
    let job := entry.completed report usage c.now
    if !c.written then (s.files, .error (.other none))
    else if s.closed || a.late started c.acknowledged then
      (s.files ++ [.analysis place job], .error (.advisor ⟨"ADVISOR_DEADLINE_EXCEEDED", 504⟩))
    else (s.files ++ [.analysis place job], .ok job)

/-- The job after its analysis failed; `written` says whether the failure file was. -/
def Job.failed (job : Job) (code now : String) (written : Bool) : Job :=
  { job with
    status := .failed
    errorCode := some (if written then code else "ADVISOR_CUSTODY_UNCONFIRMED")
    completedAtUtc := some now
    report := none }

/-- A step of a worker. -/
inductive WorkerStep
  /-- The clock is read and the provider called. -/
  | call (clock : PyFloat)
  /-- The provider returns or raises, and the reply is examined. -/
  | answer (answer : Answer)
  | publish (c : PublishCall)
  /-- The handler's part under the lock. -/
  | fail (now : String) (written : Bool)
  /-- The `finally` clause. -/
  | leave

/-- The session with another entry at a place. -/
def Session.setEntry (s : Session) (place : ℕ) (entry : Entry) : Session :=
  { s with entries := s.entries.set place entry }

/-- Where an exception takes the worker: to the handler, or past it. -/
def Raised.phase : Raised → Phase
  | .exit => .leaving
  | e => .failing e.code

/-- A step of the worker of the job at a place; a step it is not at changes nothing. -/
def AdvisorService.work (a : AdvisorService) (s : Session) (place : ℕ) (step : WorkerStep) :
    Session :=
  match s.entries[place]? with
  | none => s
  | some entry =>
    match step, entry.phase with
    | .call clock, .starting =>
      { s.setEntry place { entry with phase := .calling clock } with calls := s.calls ++ [place] }
    | .answer answer, .calling started =>
      match a.examine entry.payload answer with
      | .ok (report, usage) =>
        s.setEntry place { entry with phase := .reported started report usage }
      | .error e => s.setEntry place { entry with phase := e.phase }
    | .publish c, .reported started report usage =>
      match a.publish s place entry started report usage c with
      | (files, .ok job) =>
        { s.setEntry place { entry with job, phase := .leaving } with files }
      | (files, .error e) => { s.setEntry place { entry with phase := e.phase } with files }
    | .fail now written, .failing code =>
      { s.setEntry place
          { entry with job := entry.job.failed code now written, phase := .leaving } with
        blocked := true
        files := if written then s.files ++ [.failure place code] else s.files }
    | .leave, .leaving =>
      { s.setEntry place { entry with phase := .done } with active := false }
    | _, _ => s

/-! ## Runs -/

/-- What the service is asked, or a step of a worker. -/
inductive AdvisorInput
  | submit (c : SubmitCall)
  | getJob (place : ℕ)
  | shutdown
  | worker (place : ℕ) (step : WorkerStep)

/-- What a request returns or raises. -/
inductive AdvisorOutput
  | job (r : Except Raised (ℕ × Job))
  | nothing

/-- The service as a system. -/
def AdvisorService.machine (a : AdvisorService) : Machine Session AdvisorInput AdvisorOutput where
  step s
    | .submit c => ((a.submit s c).1, .job (a.submit s c).2)
    | .getJob place => (s, .job (s.getJob place))
    | .shutdown => (s.shutdown, .nothing)
    | .worker place step => (a.work s place step, .nothing)

end CivicGate.Console
