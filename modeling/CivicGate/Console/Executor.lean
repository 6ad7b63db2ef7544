import CivicGate.Console.Advisor

/-!
# The job executors

`DemoExecutor` (`evidence_console/demo_execution_v1.py`) and `ChatExecutor`
(`chat_execution_v1.py`) schedule one worker process at a time.  They differ in what they take,
in their codes and in the checks of what the process left; `Scheduler` is what they share.

A job is named by its place in the table.  What happens under the executor's lock is one step,
and a worker thread in between is in one of the phases of `Phase`.  Clock readings, the outcomes
of file writes and of the process, and what its result files hold are part of a step's input.
-/

namespace CivicGate.Console.Executor

/-! ## Exceptions -/

/-- An exception in the worker thread, as its handlers tell exceptions apart. -/
inductive WorkerException
  | demo (code : String)
  | timeoutExpired
  /-- Another `OSError`, `ValueError`, `KeyError`, `TypeError` or `SubprocessError`. -/
  | caught
  /-- Anything else: `AttributeError`, `RecursionError`, `OverflowError`. -/
  | uncaught
  deriving DecidableEq

/-- `DemoError(code, status_code)`, which the request threads raise. -/
structure DemoError where
  code : String
  statusCode : ℕ
  deriving DecidableEq

/-! ## Jobs -/

/-- `job["status"]` -/
inductive Status
  | reserved
  | running
  | complete
  | unknown
  | hold
  deriving DecidableEq

/-- The job is neither decided nor given up. -/
def Status.isOpen : Status → Bool
  | .reserved | .running => true
  | _ => false

/-- `job["_entry"]` -/
structure EvidenceEntry where
  id : String
  root : String
  manifestSha256 : String
  deriving DecidableEq

/-- A job: what it is for, what it shows, and what its custody needs. -/
structure Job (R D : Type) where
  /-- `uuid4().hex`, the varying part of the identifier. -/
  hex : String
  request : R
  status : Status
  createdAtUtc : String
  startedAtUtc : Option String
  completedAtUtc : Option String
  errorCode : Option String
  runId : Option String
  observationId : Option String
  details : Option D
  entry : Option EvidenceEntry
  stateNumber : ℕ
  /-- The absolute deadline; `none` if the sum is infinite. -/
  deadline : Option PyFloat

/-- Where the worker thread of a job is. -/
inductive Phase (W : Type)
  /-- No thread was started. -/
  | absent
  | starting
  /-- With the job running, before the process is started. -/
  | launching
  /-- The process was started. -/
  | waiting
  /-- What the process left was admitted; before the lock. -/
  | collected (entry : EvidenceEntry) (observationId : String) (reads : W)
  /-- In a handler, before the lock. -/
  | failing (code : String) (cleanup : Option Bool)
  /-- In the `finally` clause, before the lock. -/
  | leaving
  | done

/-- A job with its worker thread. -/
structure Entry (R W D : Type) where
  job : Job R D
  phase : Phase W

/-- What changes in an executor. -/
structure State (R W D : Type) where
  entries : List (Entry R W D)
  requests : List (String × ℕ)
  active : Bool
  blocked : Bool

/-- What the two executors share, and what each fixes. -/
structure Scheduler (R W D : Type) where
  maxJobs : ℕ
  deadlineSeconds : ℕ
  maxJobs_bounds : 1 ≤ maxJobs ∧ maxJobs ≤ 8
  deadlineSeconds_bounds : 10 ≤ deadlineSeconds ∧ deadlineSeconds ≤ 120
  /-- The check of a request. -/
  accepts : R → Bool
  invalidCode : String
  holdCode : String
  busyCode : String
  limitCode : String
  reservationCode : String
  rejectedCode : String
  entryPrefix : String
  /-- The checks of what a process left that ended in time: the manifest's digest and the
  observation. -/
  checks : R → W → Except WorkerException (String × String)
  /-- What the job shows of it. -/
  details : R → W → Except WorkerException D

variable {R W D : Type}

/-- An executor as constructed. -/
def State.initial : State R W D := ⟨[], [], false, false⟩

/-- The job at a place. -/
def State.job? (s : State R W D) (place : ℕ) : Option (Job R D) := (s.entries[place]?).map Entry.job

/-- `evidence_entries` -/
def State.evidenceEntries (s : State R W D) : List EvidenceEntry :=
  s.entries.filterMap fun e => if e.job.status = .complete then e.job.entry else none

/-- `now >= deadline` -/
def reached (now : PyFloat) (deadline : Option PyFloat) : Bool :=
  deadline.any (·.value ≤ now.value)

/-- `now > deadline` -/
def passed (now : PyFloat) (deadline : Option PyFloat) : Bool :=
  deadline.any (·.value < now.value)

/-- What `_fail_job` meets. -/
structure FailCall where
  now : String
  persisted : Bool
  cleanupWritten : Bool

/-- `_fail_job`: the job afterwards. -/
def Job.fail (job : Job R D) (code : String) (unknown : Bool) (cleanup : Option Bool)
    (c : FailCall) : Job R D :=
  let acknowledged := c.persisted && (cleanup.isNone || c.cleanupWritten)
  { job with
    status := if unknown then .unknown else .hold
    errorCode := some (if acknowledged then code else "TERMINAL_CUSTODY_UNKNOWN")
    completedAtUtc := some c.now
    runId := none
    observationId := none
    entry := none
    stateNumber := if c.persisted then job.stateNumber + 1 else job.stateNumber }

/-! ## Requests -/

/-- The arguments of `submit`, `none` for a value its checks refuse by type, and what it meets. -/
structure SubmitCall (R : Type) where
  request : Option R
  idempotencyKey : Option String
  clock : PyFloat
  hex : String
  now : String
  /-- The directories, the request files and the first state file were written. -/
  reserved : Bool
  /-- The clock once the job is in the table. -/
  acknowledged : PyFloat
  /-- `thread.start()` did not raise. -/
  threadStarted : Bool
  /-- The state file of a start that failed was written. -/
  persisted : Bool
  fail : FailCall

/-- The job `submit` creates, its first state file written. -/
def Scheduler.newJob (x : Scheduler R W D) (request : R) (c : SubmitCall R) : Job R D :=
  { hex := c.hex, request, status := .reserved, createdAtUtc := c.now, startedAtUtc := none,
    completedAtUtc := none, errorCode := none, runId := none, observationId := none,
    details := none, entry := none, stateNumber := 1,
    deadline := PyFloat.ofRat (c.clock.value + x.deadlineSeconds) }

/-- The job whose thread could not be started. -/
def Job.unstarted (job : Job R D) (persisted : Bool) : Job R D :=
  { job with
    status := .unknown
    errorCode := some "DISPATCH_START_UNCONFIRMED"
    stateNumber := if persisted then job.stateNumber + 1 else job.stateNumber }

/-- `submit` for a key not yet used, once a job may be accepted. -/
def Scheduler.accept (x : Scheduler R W D) (s : State R W D) (request : R) (key : String)
    (c : SubmitCall R) : State R W D × Except DemoError (ℕ × Job R D) :=
  if !c.reserved then ({ s with blocked := true }, .error ⟨x.reservationCode, 503⟩)
  else
    let place := s.entries.length
    let job := x.newJob request c
    let requests := s.requests ++ [(key, place)]
    if reached c.acknowledged job.deadline then
      let job := job.fail "INITIAL_CUSTODY_ACK_AFTER_DEADLINE" true none c.fail
      ({ s with entries := s.entries ++ [⟨job, .absent⟩], requests, blocked := true },
        .ok (place, job))
    else if !c.threadStarted then
      let job := job.unstarted c.persisted
      ({ s with entries := s.entries ++ [⟨job, .absent⟩], requests, blocked := true },
        .ok (place, job))
    else
      ({ s with entries := s.entries ++ [⟨job, .starting⟩], requests, active := true },
        .ok (place, job))

/-- `submit`, or `submit_prompt` -/
def Scheduler.submit [DecidableEq R] (x : Scheduler R W D) (s : State R W D) (c : SubmitCall R) :
    State R W D × Except DemoError (ℕ × Job R D) :=
  match c.request with
  | none => (s, .error ⟨x.invalidCode, 422⟩)
  | some request =>
    if !x.accepts request then (s, .error ⟨x.invalidCode, 422⟩)
    else match c.idempotencyKey with
      | none => (s, .error ⟨"INVALID_IDEMPOTENCY_KEY", 422⟩)
      | some key =>
        if !isUuid4 key then (s, .error ⟨"INVALID_IDEMPOTENCY_KEY", 422⟩)
        else match s.requests.lookup key with
          | some place =>
            match s.job? place with
            | some job =>
              if job.request = request then (s, .ok (place, job))
              else (s, .error ⟨"IDEMPOTENCY_CONFLICT", 409⟩)
            | none => (s, .error ⟨"UNKNOWN_EXECUTION", 404⟩)
          | none =>
            if s.blocked then (s, .error ⟨x.holdCode, 503⟩)
            else if s.active then (s, .error ⟨x.busyCode, 429⟩)
            else if x.maxJobs ≤ s.entries.length then (s, .error ⟨x.limitCode, 429⟩)
            else x.accept s request key c

/-- `get_job` -/
def State.getJob (s : State R W D) (place : ℕ) : Except DemoError (ℕ × Job R D) :=
  match s.job? place with
  | some job => .ok (place, job)
  | none => .error ⟨"UNKNOWN_EXECUTION", 404⟩

/-- `shutdown`: the jobs open fail, each with what its custody meets. -/
def State.shutdown (s : State R W D) (c : ℕ → FailCall) : State R W D :=
  { s with
    blocked := true
    entries := s.entries.mapIdx fun i e =>
      if e.job.status.isOpen then
        { e with job := e.job.fail "SHUTDOWN_OUTCOME_UNKNOWN" true none (c i) }
      else e }

/-! ## The worker thread -/

/-- What the thread meets under its first lock. -/
structure StartCall where
  clock : PyFloat
  now : String
  persisted : Bool
  acknowledged : PyFloat
  fail : FailCall

/-- What the thread meets up to the start of the process. -/
structure LaunchCall where
  /-- The command file and the log files. -/
  prepared : Except WorkerException Unit
  clock : PyFloat
  popen : Except WorkerException Unit

/-- What the thread meets from the wait on. -/
structure CollectCall (W : Type) where
  /-- `process.wait(…)` -/
  exit : Except WorkerException ℤ
  clock : PyFloat
  reads : W
  /-- `_terminate_tree(process)`, on a timeout. -/
  terminated : Bool

/-- What the thread meets under its last lock. -/
structure PublishCall where
  clock : PyFloat
  now : String
  persisted : Except WorkerException Unit
  acknowledged : PyFloat
  fail : FailCall

/-- A step of a worker thread. -/
inductive WorkerStep (W : Type)
  | start (c : StartCall)
  | launch (c : LaunchCall)
  | collect (c : CollectCall W)
  | publish (c : PublishCall)
  /-- `_fail_job`, from a handler. -/
  | fail (c : FailCall)
  /-- The `finally` clause. -/
  | leave

/-- Where an exception takes the thread: to a handler, or past them. -/
def WorkerException.phase (terminated : Bool) : WorkerException → Phase W
  | .demo code => .failing code none
  | .timeoutExpired => .failing "EXECUTION_DEADLINE_UNKNOWN" (some terminated)
  | .caught => .failing "EXECUTION_OR_CUSTODY_UNCONFIRMED" none
  | .uncaught => .leaving

/-- The state with another entry at a place. -/
def State.setEntry (s : State R W D) (place : ℕ) (entry : Entry R W D) : State R W D :=
  { s with entries := s.entries.set place entry }

/-- The thread's first step: the state afterwards. -/
def State.start (s : State R W D) (place : ℕ) (entry : Entry R W D) (c : StartCall) :
    State R W D :=
  if s.blocked || reached c.clock entry.job.deadline then
    let job := entry.job.fail "EXECUTION_DEADLINE_BEFORE_DISPATCH" true none c.fail
    { s.setEntry place ⟨job, .done⟩ with blocked := true, active := false }
  else
    let job := { entry.job with status := .running, startedAtUtc := some c.now }
    if !c.persisted then
      let job : Job R D :=
        { job with status := .unknown, errorCode := some "START_CUSTODY_UNCONFIRMED" }
      { s.setEntry place ⟨job, .done⟩ with blocked := true, active := false }
    else
      let job := { job with stateNumber := job.stateNumber + 1 }
      if reached c.acknowledged entry.job.deadline then
        let job := job.fail "RUNNING_ACK_AFTER_DEADLINE" true none c.fail
        { s.setEntry place ⟨job, .done⟩ with blocked := true, active := false }
      else s.setEntry place ⟨job, .launching⟩

/-- Up to the start of the process. -/
def Job.launched (job : Job R D) (blocked : Bool) (c : LaunchCall) :
    Except WorkerException Unit := do
  c.prepared
  ensure (!(blocked || reached c.clock job.deadline)) (.demo "EXECUTION_DEADLINE_BEFORE_SEND")
  c.popen

/-- The evidence entry of a job. -/
def Scheduler.evidenceEntry (x : Scheduler R W D) (job : Job R D) (manifestSha256 : String) :
    EvidenceEntry :=
  { id := x.entryPrefix ++ job.hex, root := "capture-" ++ job.hex, manifestSha256 }

/-- From the wait on: the evidence entry and the observation. -/
def Scheduler.collected (x : Scheduler R W D) (job : Job R D) (c : CollectCall W) :
    Except WorkerException (EvidenceEntry × String) := do
  let code ← c.exit
  ensure (code = 0) (.demo x.rejectedCode)
  ensure (!passed c.clock job.deadline) (.demo "EXECUTION_DEADLINE_EXCEEDED")
  let admitted ← x.checks job.request c.reads
  return (x.evidenceEntry job admitted.1, admitted.2)

/-- Under the last lock: the candidate, its state file written. -/
def Scheduler.candidate (x : Scheduler R W D) (job : Job R D) (blocked : Bool)
    (entry : EvidenceEntry) (observationId : String) (reads : W) (c : PublishCall) :
    Except WorkerException (Job R D) := do
  ensure (!(blocked || passed c.clock job.deadline)) (.demo "EXECUTION_DEADLINE_OR_STOP")
  let details ← x.details job.request reads
  c.persisted
  return { job with
    status := .complete
    completedAtUtc := some c.now
    runId := some entry.id
    observationId := some observationId
    details := some details
    entry := some entry
    stateNumber := job.stateNumber + 1 }

/-- A step of the worker thread of the job at a place; a step it is not at changes nothing. -/
def Scheduler.work (x : Scheduler R W D) (s : State R W D) (place : ℕ) (step : WorkerStep W) :
    State R W D :=
  match s.entries[place]? with
  | none => s
  | some entry =>
    match step, entry.phase with
    | .start c, .starting => s.start place entry c
    | .launch c, .launching =>
      match entry.job.launched s.blocked c with
      | .ok () => s.setEntry place { entry with phase := .waiting }
      | .error e => s.setEntry place { entry with phase := e.phase false }
    | .collect c, .waiting =>
      match x.collected entry.job c with
      | .ok (evidence, observationId) =>
        s.setEntry place { entry with phase := .collected evidence observationId c.reads }
      | .error e => s.setEntry place { entry with phase := e.phase c.terminated }
    | .publish c, .collected evidence observationId reads =>
      match x.candidate entry.job s.blocked evidence observationId reads c with
      | .error e => s.setEntry place { entry with phase := e.phase false }
      | .ok candidate =>
        if passed c.acknowledged entry.job.deadline then
          let job := { entry.job with stateNumber := candidate.stateNumber }.fail
            "FINAL_CUSTODY_ACK_AFTER_DEADLINE" true none c.fail
          { s.setEntry place ⟨job, .leaving⟩ with blocked := true }
        else s.setEntry place ⟨candidate, .leaving⟩
    | .fail c, .failing code cleanup =>
      { s.setEntry place ⟨entry.job.fail code true cleanup c, .leaving⟩ with blocked := true }
    | .leave, .leaving => { s.setEntry place { entry with phase := .done } with active := false }
    | _, _ => s

/-! ## Runs -/

/-- What an executor is asked, or a step of a worker thread. -/
inductive Input (R W : Type)
  | submit (c : SubmitCall R)
  | getJob (place : ℕ)
  | evidenceEntries
  | shutdown (c : ℕ → FailCall)
  | worker (place : ℕ) (step : WorkerStep W)

/-- What a request returns or raises. -/
inductive Output (R D : Type)
  | job (r : Except DemoError (ℕ × Job R D))
  | evidence (entries : List EvidenceEntry)
  | nothing

/-- The executor as a system. -/
def Scheduler.machine [DecidableEq R] (x : Scheduler R W D) :
    Machine (State R W D) (Input R W) (Output R D) where
  step s
    | .submit c => ((x.submit s c).1, .job (x.submit s c).2)
    | .getJob place => (s, .job (s.getJob place))
    | .evidenceEntries => (s, .evidence s.evidenceEntries)
    | .shutdown c => (s.shutdown c, .nothing)
    | .worker place step => (x.work s place step, .nothing)

end CivicGate.Console.Executor
