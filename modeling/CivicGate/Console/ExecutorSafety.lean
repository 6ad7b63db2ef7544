import CivicGate.Console.ExecutorKinds
import CivicGate.Framework.Requests
import CivicGate.Framework.Slots
import CivicGate.Governance.Signals

/-!
# Job executors never leave a job undecided

`ExecutorStep` lists what one step can do.  A job whose thread is under way is the last one and
keeps the executor active, and a job given up keeps it blocked, so a job is accepted only when
every job before it is complete.

The handlers of the worker thread name some classes of exceptions.  Where the checks of the
files a process left end with another (`Escapes`), the `finally` clause leaves the executor idle
and open with the job still running (`escape_leaves_open`); the results are about runs
without such a step.
-/

namespace CivicGate.Console.Executor

variable {R W D : Type} {x : Scheduler R W D} {s t : State R W D}

/-! ## What a step can do -/

/-- The thread has not left its `try` statement and handlers. -/
def Phase.Pending : Phase W → Prop
  | .absent | .leaving | .done => False
  | _ => True

/-- The thread has not ended. -/
def Phase.Live : Phase W → Prop
  | .absent | .done => False
  | _ => True

lemma Phase.Pending.live {phase : Phase W} (h : phase.Pending) : phase.Live := by
  cases phase <;> trivial

/-- The `try` statement of the thread of an open job ends, in this step, with an exception no
handler names. -/
def Escapes (x : Scheduler R W D) (s : State R W D) : Input R W → Prop
  | .worker place step => ∃ entry, s.entries[place]? = some entry ∧
    entry.job.status.isOpen = true ∧
    match step, entry.phase with
    | .launch c, .launching => c.prepared = .error .uncaught ∨
      (c.prepared = .ok () ∧ (s.blocked || reached c.clock entry.job.deadline) = false ∧
        c.popen = .error .uncaught)
    | .collect c, .waiting => c.exit = .error .uncaught ∨
      (c.exit = .ok 0 ∧ passed c.clock entry.job.deadline = false ∧
        x.checks entry.job.request c.reads = .error .uncaught)
    | .publish c, .collected _ _ reads =>
      (s.blocked || passed c.clock entry.job.deadline) = false ∧
      (x.details entry.job.request reads = .error .uncaught ∨
        ((x.details entry.job.request reads).isOk = true ∧ c.persisted = .error .uncaught))
    | _, _ => False
  | _ => False

/-- What one step can do. -/
inductive ExecutorStep (x : Scheduler R W D) (s : State R W D) : Input R W → State R W D → Prop
  | same {input} : ExecutorStep x s input s
  | refused {c} : ExecutorStep x s (.submit c) { s with blocked := true }
  | added {c key job} (hidle : s.active = false) (hopen : s.blocked = false)
      (hroom : s.entries.length < x.maxJobs) (hstatus : job.status = .unknown) :
      ExecutorStep x s (.submit c)
        { s with
          entries := s.entries ++ [⟨job, .absent⟩]
          requests := s.requests ++ [(key, s.entries.length)]
          blocked := true }
  | accepted {c key job} (hidle : s.active = false) (hopen : s.blocked = false)
      (hroom : s.entries.length < x.maxJobs) (hstatus : job.status = .reserved) :
      ExecutorStep x s (.submit c)
        { s with
          entries := s.entries ++ [⟨job, .starting⟩]
          requests := s.requests ++ [(key, s.entries.length)]
          active := true }
  | shutdown {c} : ExecutorStep x s (.shutdown c) (s.shutdown c)
  | halted {place step entry job} (hentry : s.entries[place]? = some entry)
      (hphase : entry.phase = .starting) (hstatus : job.status = .unknown) :
      ExecutorStep x s (.worker place step)
        { s.setEntry place ⟨job, .done⟩ with blocked := true, active := false }
  | started {place step entry job} (hentry : s.entries[place]? = some entry)
      (hphase : entry.phase = .starting) (hopen : s.blocked = false)
      (hstatus : job.status = .running) :
      ExecutorStep x s (.worker place step) (s.setEntry place ⟨job, .launching⟩)
  | moved {place step entry phase} (hentry : s.entries[place]? = some entry)
      (hpending : entry.phase.Pending) (hphase : Phase.Pending phase)
      (hcollected : ∀ evidence observationId reads,
        phase = .collected evidence observationId reads → ∃ c, step = .collect c ∧ c.reads = reads) :
      ExecutorStep x s (.worker place step) (s.setEntry place { entry with phase })
  | escaped {place step entry} (hentry : s.entries[place]? = some entry)
      (hpending : entry.phase.Pending)
      (hescapes : entry.job.status.isOpen = true → Escapes x s (.worker place step)) :
      ExecutorStep x s (.worker place step) (s.setEntry place { entry with phase := .leaving })
  | failed {place step entry job} (hentry : s.entries[place]? = some entry)
      (hpending : entry.phase.Pending) (hstatus : job.status = .unknown) :
      ExecutorStep x s (.worker place step)
        { s.setEntry place ⟨job, .leaving⟩ with blocked := true }
  | published {place step entry job} (hentry : s.entries[place]? = some entry)
      (hpending : entry.phase.Pending) (hopen : s.blocked = false)
      (hstatus : job.status = .complete) :
      ExecutorStep x s (.worker place step) (s.setEntry place ⟨job, .leaving⟩)
  | left {place step entry} (hentry : s.entries[place]? = some entry)
      (hphase : entry.phase = .leaving) :
      ExecutorStep x s (.worker place step)
        { s.setEntry place { entry with phase := .done } with active := false }

lemma accept_step {request : R} {key : String} {c : SubmitCall R} (hidle : s.active = false)
    (hopen : s.blocked = false) (hroom : s.entries.length < x.maxJobs) :
    ExecutorStep x s (.submit c) (x.accept s request key c).1 := by
  unfold Scheduler.accept
  split
  · exact .refused
  · dsimp only
    split
    · exact .added hidle hopen hroom rfl
    · split
      · exact .added hidle hopen hroom rfl
      · exact .accepted hidle hopen hroom rfl

lemma start_step {place : ℕ} {entry : Entry R W D} {c : StartCall}
    (hentry : s.entries[place]? = some entry) (hphase : entry.phase = .starting) :
    ExecutorStep x s (.worker place (.start c)) (s.start place entry c) := by
  unfold State.start
  split
  · exact .halted hentry hphase rfl
  · rename_i hopen
    rw [Bool.or_eq_true, not_or, Bool.not_eq_true] at hopen
    dsimp only
    split
    · exact .halted hentry hphase rfl
    · split
      · exact .halted hentry hphase rfl
      · exact .started hentry hphase hopen.1 rfl

/-- An exception leads to a handler, unless it escapes. -/
lemma raised_step {place : ℕ} {entry : Entry R W D} {step : WorkerStep W} {e : WorkerException}
    {terminated : Bool} (hentry : s.entries[place]? = some entry) (hpending : entry.phase.Pending)
    (hescapes : e = .uncaught → entry.job.status.isOpen = true →
      Escapes x s (.worker place step)) :
    ExecutorStep x s (.worker place step)
      (s.setEntry place { entry with phase := e.phase terminated }) := by
  cases e with
  | demo code => exact .moved hentry hpending trivial fun _ _ _ h => by cases h
  | timeoutExpired => exact .moved hentry hpending trivial fun _ _ _ h => by cases h
  | caught => exact .moved hentry hpending trivial fun _ _ _ h => by cases h
  | uncaught => exact .escaped hentry hpending (hescapes rfl)

/-! ### Where an exception escapes -/

lemma launched_eq_uncaught {job : Job R D} {blocked : Bool} {c : LaunchCall} :
    job.launched blocked c = .error .uncaught ↔ c.prepared = .error .uncaught ∨
      (c.prepared = .ok () ∧ (blocked || reached c.clock job.deadline) = false ∧
        c.popen = .error .uncaught) := by
  unfold Job.launched
  constructor
  · intro h
    rcases Except.bind_eq_error.mp h with h | ⟨_, hprepared, h⟩
    · exact .inl h
    · rcases Except.bind_eq_error.mp h with h | ⟨_, hopen, h⟩
      · cases (ensure_eq_error.mp h).2
      · exact .inr ⟨hprepared, by simpa using ensure_eq_ok.mp hopen, h⟩
  · rintro (h | ⟨hprepared, hopen, h⟩)
    · rw [h, Except.error_bind]
    · rw [hprepared, hopen, h]
      rfl

lemma collected_eq_uncaught {job : Job R D} {c : CollectCall W} :
    x.collected job c = .error .uncaught ↔ c.exit = .error .uncaught ∨
      (c.exit = .ok 0 ∧ passed c.clock job.deadline = false ∧
        x.checks job.request c.reads = .error .uncaught) := by
  unfold Scheduler.collected
  constructor
  · intro h
    rcases Except.bind_eq_error.mp h with h | ⟨code, hcode, h⟩
    · exact .inl h
    · rcases Except.bind_eq_error.mp h with h | ⟨_, hzero, h⟩
      · cases (ensure_eq_error.mp h).2
      · rcases Except.bind_eq_error.mp h with h | ⟨_, htime, h⟩
        · cases (ensure_eq_error.mp h).2
        · rcases Except.bind_eq_error.mp h with h | ⟨_, -, h⟩
          · have hzero : code = 0 := by simpa using ensure_eq_ok.mp hzero
            exact .inr ⟨hzero ▸ hcode, by simpa using ensure_eq_ok.mp htime, h⟩
          · cases h
  · rintro (h | ⟨hcode, htime, h⟩)
    · rw [h, Except.error_bind]
    · rw [hcode, htime, h]
      rfl

lemma candidate_eq_uncaught {job : Job R D} {blocked : Bool} {evidence : EvidenceEntry}
    {observationId : String} {reads : W} {c : PublishCall} :
    x.candidate job blocked evidence observationId reads c = .error .uncaught ↔
      (blocked || passed c.clock job.deadline) = false ∧
        (x.details job.request reads = .error .uncaught ∨
          ((x.details job.request reads).isOk = true ∧ c.persisted = .error .uncaught)) := by
  unfold Scheduler.candidate
  constructor
  · intro h
    rcases Except.bind_eq_error.mp h with h | ⟨_, hopen, h⟩
    · cases (ensure_eq_error.mp h).2
    · refine ⟨by simpa using ensure_eq_ok.mp hopen, ?_⟩
      rcases Except.bind_eq_error.mp h with h | ⟨details, hdetails, h⟩
      · exact .inl h
      · rcases Except.bind_eq_error.mp h with h | ⟨_, -, h⟩
        · exact .inr ⟨by rw [hdetails]; rfl, h⟩
        · cases h
  · rintro ⟨hopen, h | ⟨hok, h⟩⟩
    · rw [hopen, h]
      rfl
    · cases hdetails : x.details job.request reads with
      | error e =>
          rw [hdetails] at hok
          cases hok
      | ok details =>
          rw [hopen, h]
          rfl

/-- A candidate is complete, of an executor not blocked. -/
lemma candidate_eq_ok {job candidate : Job R D} {blocked : Bool} {evidence : EvidenceEntry}
    {observationId : String} {reads : W} {c : PublishCall}
    (h : x.candidate job blocked evidence observationId reads c = .ok candidate) :
    blocked = false ∧ candidate.status = .complete := by
  simp only [Scheduler.candidate, Except.bind_eq_ok, ensure_eq_ok, Except.pure_eq_ok,
    Bool.not_eq_true', Bool.or_eq_false_iff] at h
  obtain ⟨-, ⟨hopen, -⟩, details, -, -, -, rfl⟩ := h
  exact ⟨hopen, rfl⟩

lemma work_step (x : Scheduler R W D) (s : State R W D) (place : ℕ) (step : WorkerStep W) :
    ExecutorStep x s (.worker place step) (x.work s place step) := by
  unfold Scheduler.work
  split
  · exact .same
  · rename_i entry hentry
    split
    · rename_i hphase
      exact start_step hentry hphase
    · rename_i c hphase
      have hpending : entry.phase.Pending := by rw [hphase]; trivial
      split
      · exact .moved hentry hpending trivial fun _ _ _ h => by cases h
      · rename_i e he
        refine raised_step hentry hpending ?_
        rintro rfl hstatus
        refine ⟨entry, hentry, hstatus, ?_⟩
        rw [hphase]
        exact launched_eq_uncaught.mp he
    · rename_i c hphase
      have hpending : entry.phase.Pending := by rw [hphase]; trivial
      split
      · refine .moved hentry hpending trivial fun _ _ _ h => ⟨c, rfl, ?_⟩
        cases h
        rfl
      · rename_i e he
        refine raised_step hentry hpending ?_
        rintro rfl hstatus
        refine ⟨entry, hentry, hstatus, ?_⟩
        rw [hphase]
        exact collected_eq_uncaught.mp he
    · rename_i c evidence observationId reads hphase
      have hpending : entry.phase.Pending := by rw [hphase]; trivial
      split
      · rename_i e he
        refine raised_step hentry hpending ?_
        rintro rfl hstatus
        refine ⟨entry, hentry, hstatus, ?_⟩
        rw [hphase]
        exact candidate_eq_uncaught.mp he
      · rename_i candidate hcandidate
        obtain ⟨hopen, hstatus⟩ := candidate_eq_ok hcandidate
        split
        · exact .failed hentry hpending rfl
        · exact .published hentry hpending hopen hstatus
    · rename_i c code cleanup hphase
      exact .failed hentry (by rw [hphase]; trivial) rfl
    · rename_i hphase
      exact .left hentry hphase
    · exact .same

section Requests

variable [DecidableEq R]

/-- The jobs and keys of an executor, and its refusals. -/
def Scheduler.table (x : Scheduler R W D) : JobTable (State R W D) R (Job R D) DemoError where
  jobs s := s.entries.map Entry.job
  requests := State.requests
  isKey := isUuid4
  asks request job := job.request = request
  decideAsks _ _ := inferInstance
  malformed := ⟨x.invalidCode, 422⟩
  unkeyed := ⟨"INVALID_IDEMPOTENCY_KEY", 422⟩
  conflict := ⟨"IDEMPOTENCY_CONFLICT", 409⟩
  missing := ⟨"UNKNOWN_EXECUTION", 404⟩

/-- `submit`, for a key not yet used. -/
def Scheduler.create (x : Scheduler R W D) (s : State R W D) (c : SubmitCall R) (request : R)
    (key : String) : State R W D × Except DemoError (ℕ × Job R D) :=
  if s.blocked then (s, .error ⟨x.holdCode, 503⟩)
  else if s.active then (s, .error ⟨x.busyCode, 429⟩)
  else if x.maxJobs ≤ s.entries.length then (s, .error ⟨x.limitCode, 429⟩)
  else x.accept s request key c

lemma submit_eq (x : Scheduler R W D) (s : State R W D) (c : SubmitCall R) :
    x.submit s c = x.table.submit s (c.request.filter x.accepts) c.idempotencyKey (x.create s c) := by
  unfold Scheduler.submit
  cases c.request with
  | none => rfl
  | some request =>
      by_cases haccepts : x.accepts request = true
      · rw [Option.filter_some_pos haccepts]
        simp only [haccepts]
        cases c.idempotencyKey with
        | none => rfl
        | some key =>
            have hjobs (place : ℕ) : (x.table.jobs s)[place]? = s.job? place := List.getElem?_map ..
            have hrequests : x.table.requests s = s.requests := rfl
            unfold JobTable.submit
            simp only [hjobs, hrequests]
            cases s.requests.lookup key with
            | none => rfl
            | some place =>
                dsimp only
                cases s.job? place <;> rfl
      · rw [Bool.not_eq_true] at haccepts
        rw [Option.filter_some_neg haccepts]
        simp only [haccepts]
        rfl

omit [DecidableEq R] in
lemma create_step {c : SubmitCall R} {request : R} {key : String} :
    ExecutorStep x s (.submit c) (x.create s c request key).1 := by
  unfold Scheduler.create
  split
  · exact .same
  · rename_i hopen
    split
    · exact .same
    · rename_i hactive
      split
      · exact .same
      · rename_i hroom
        rw [Bool.not_eq_true] at hopen hactive
        exact accept_step hactive hopen (not_le.mp hroom)

lemma submit_step (x : Scheduler R W D) (s : State R W D) (c : SubmitCall R) :
    ExecutorStep x s (.submit c) (x.submit s c).1 := by
  rw [submit_eq]
  rcases x.table.submit_cases s (c.request.filter x.accepts) c.idempotencyKey (x.create s c) with
    ⟨e, h⟩ | ⟨request, key, -, -, ⟨place, job, -, -, h⟩ | ⟨-, h⟩⟩
  · rw [h]
    exact .same
  · rw [h]
    exact .same
  · rw [h]
    exact create_step

lemma step_next (x : Scheduler R W D) (s : State R W D) (input : Input R W) :
    ExecutorStep x s input (x.machine.next s input) := by
  cases input with
  | submit c => exact submit_step x s c
  | getJob place => exact .same
  | evidenceEntries => exact .same
  | shutdown c => exact .shutdown
  | worker place step => exact work_step x s place step

end Requests

/-! ## The invariant -/

/-- What holds of the entry at a place. -/
structure EntryInv (s : State R W D) (place : ℕ) (entry : Entry R W D) : Prop where
  /-- A thread under way is that of the last job, and keeps the executor active. -/
  live : entry.phase.Live → s.active = true ∧ place + 1 = s.entries.length
  /-- A job is open only while its thread can still decide it. -/
  isOpen : entry.job.status.isOpen = true → entry.phase.Pending
  /-- A job given up keeps the executor blocked. -/
  blocked : entry.job.status = .unknown ∨ entry.job.status = .hold → s.blocked = true

/-- The invariant of an executor. -/
structure State.Inv (x : Scheduler R W D) (s : State R W D) : Prop where
  bounded : s.entries.length ≤ x.maxJobs
  entry : Slots.All (EntryInv s) s.entries

lemma State.inv_initial (x : Scheduler R W D) : (State.initial : State R W D).Inv x :=
  ⟨Nat.zero_le _, Slots.all_nil _⟩

/-- An entry replaced while the executor becomes at most more blocked: the others keep the
invariant, whether or not the executor ends to be active, if the entry's thread was under way. -/
lemma State.Inv.set (h : s.Inv x) {place : ℕ} {entry entry' : Entry R W D}
    (hentry : s.entries[place]? = some entry) (hlive : entry.phase.Live)
    (hentries : t.entries = s.entries.set place entry')
    (hblocked : s.blocked = true → t.blocked = true) (hnew : EntryInv t place entry') :
    t.Inv x where
  bounded := by
    rw [hentries, List.length_set]
    exact h.bounded
  entry := by
    rw [hentries]
    refine h.entry.set (fun i y hne hy hold => ?_) hnew
    -- Another thread under way would be that of the last job too.
    have hrest : ¬y.phase.Live := fun hy' => hne
      (Nat.succ_injective ((hold.live hy').2.trans ((h.entry _ _ hentry).live hlive).2.symm))
    exact ⟨fun hy' => absurd hy' hrest, hold.isOpen, fun hy' => hblocked (hold.blocked hy')⟩

/-- A job added to an idle executor. -/
lemma State.Inv.concat (h : s.Inv x) {entry : Entry R W D} (hidle : s.active = false)
    (hroom : s.entries.length < x.maxJobs) (hentries : t.entries = s.entries ++ [entry])
    (hblocked : s.blocked = true → t.blocked = true) (hnew : EntryInv t s.entries.length entry) :
    t.Inv x where
  bounded := by
    rw [hentries, List.length_append, List.length_singleton]
    exact hroom
  entry := by
    rw [hentries]
    refine h.entry.concat (fun i y _ hold => ?_) hnew
    have hrest : ¬y.phase.Live := fun hy => by simpa [hidle] using (hold.live hy).1
    exact ⟨fun hy => absurd hy hrest, hold.isOpen, fun hy => hblocked (hold.blocked hy)⟩

/-- A job that failed, its thread on the way out. -/
lemma EntryInv.gaveUp {place : ℕ} {entry entry' : Entry R W D} (h : EntryInv s place entry)
    (hactive : entry'.phase.Live → entry.phase.Live ∧ t.active = s.active)
    (hlength : t.entries.length = s.entries.length) (hstatus : entry'.job.status = .unknown)
    (hblocked : t.blocked = true) : EntryInv t place entry' where
  live hlive := by
    rw [(hactive hlive).2, hlength]
    exact h.live (hactive hlive).1
  isOpen hopen := by
    rw [hstatus] at hopen
    cases hopen
  blocked _ := hblocked

/-- Shutdown gives up every open job. -/
lemma State.Inv.shutdown (h : s.Inv x) (c : ℕ → FailCall) : (s.shutdown c).Inv x where
  bounded := by
    rw [State.shutdown, List.length_mapIdx]
    exact h.bounded
  entry := by
    refine h.entry.mapIdx fun i y _ hold => ?_
    have hlength : (s.shutdown c).entries.length = s.entries.length := List.length_mapIdx
    split
    · exact hold.gaveUp (fun hlive => ⟨hlive, rfl⟩) hlength rfl rfl
    · exact ⟨fun hlive => hlength ▸ hold.live hlive, hold.isOpen, fun _ => rfl⟩

/-- A step whose exception does not escape keeps the invariant. -/
lemma inv_step {input : Input R W} (h : s.Inv x) (hescapes : ¬Escapes x s input)
    (hstep : ExecutorStep x s input t) : t.Inv x := by
  have hlength (place : ℕ) (entry : Entry R W D) :
      (s.setEntry place entry).entries.length = s.entries.length := List.length_set
  cases hstep with
  | same => exact h
  | refused =>
      exact ⟨h.bounded, h.entry.imp fun i y _ hold => ⟨hold.live, hold.isOpen, fun _ => rfl⟩⟩
  | added hidle _ hroom hstatus =>
      refine h.concat hidle hroom rfl (fun _ => rfl) ⟨False.elim, fun hopen => ?_, fun _ => rfl⟩
      rw [hstatus] at hopen
      cases hopen
  | accepted hidle _ hroom hstatus =>
      refine h.concat hidle hroom rfl id ⟨fun _ => ⟨rfl, ?_⟩, fun _ => trivial, fun hgiven => ?_⟩
      · rw [List.length_append, List.length_singleton]
      · rw [hstatus] at hgiven
        simp at hgiven
  | shutdown => exact h.shutdown _
  | halted hentry hphase hstatus =>
      refine h.set hentry (by rw [hphase]; trivial) rfl (fun _ => rfl) ?_
      exact (h.entry _ _ hentry).gaveUp False.elim (hlength _ _) hstatus rfl
  | started hentry hphase hopen hstatus =>
      have hlive := (h.entry _ _ hentry).live (by rw [hphase]; trivial)
      refine h.set hentry (by rw [hphase]; trivial) rfl id
        ⟨fun _ => ⟨hlive.1, hlive.2.trans (hlength _ _).symm⟩, fun _ => trivial, fun hgiven => ?_⟩
      rw [hstatus] at hgiven
      simp at hgiven
  | moved hentry hpending hphase =>
      have hold := h.entry _ _ hentry
      have hlive := hold.live hpending.live
      exact h.set hentry hpending.live rfl id
        ⟨fun _ => ⟨hlive.1, hlive.2.trans (hlength _ _).symm⟩, fun _ => hphase, hold.blocked⟩
  | escaped hentry hpending hbroken =>
      have hold := h.entry _ _ hentry
      have hlive := hold.live hpending.live
      exact h.set hentry hpending.live rfl id
        ⟨fun _ => ⟨hlive.1, hlive.2.trans (hlength _ _).symm⟩,
          fun hopen => absurd (hbroken hopen) hescapes, hold.blocked⟩
  | failed hentry hpending hstatus =>
      refine h.set hentry hpending.live rfl (fun _ => rfl) ?_
      exact (h.entry _ _ hentry).gaveUp (fun _ => ⟨hpending.live, rfl⟩) (hlength _ _) hstatus rfl
  | published hentry hpending hopen hstatus =>
      have hlive := (h.entry _ _ hentry).live hpending.live
      refine h.set hentry hpending.live rfl id
        ⟨fun _ => ⟨hlive.1, hlive.2.trans (hlength _ _).symm⟩, fun hopen' => ?_, fun hgiven => ?_⟩
      · rw [hstatus] at hopen'
        cases hopen'
      · rw [hstatus] at hgiven
        simp at hgiven
  | left hentry hphase =>
      have hold := h.entry _ _ hentry
      refine h.set hentry (by rw [hphase]; trivial) rfl id
        ⟨False.elim, fun hopen => ?_, hold.blocked⟩
      have hpending := hold.isOpen hopen
      rw [hphase] at hpending
      exact hpending

/-! ## What later steps keep -/

/-- A blocked executor stays so, and accepts no job. -/
lemma blocked_step {input : Input R W} (hblocked : s.blocked = true)
    (hstep : ExecutorStep x s input t) :
    t.blocked = true ∧ t.entries.length = s.entries.length := by
  cases hstep with
  | same => exact ⟨hblocked, rfl⟩
  | refused => exact ⟨rfl, rfl⟩
  | added _ hopen => simp [hblocked] at hopen
  | accepted _ hopen => simp [hblocked] at hopen
  | shutdown => exact ⟨rfl, List.length_mapIdx⟩
  | halted => exact ⟨rfl, List.length_set⟩
  | started => exact ⟨hblocked, List.length_set⟩
  | moved => exact ⟨hblocked, List.length_set⟩
  | escaped => exact ⟨hblocked, List.length_set⟩
  | failed => exact ⟨rfl, List.length_set⟩
  | published => exact ⟨hblocked, List.length_set⟩
  | left => exact ⟨hblocked, List.length_set⟩

/-- The status of the job at a place. -/
def State.status? (s : State R W D) (place : ℕ) : Option Status :=
  Slots.read (fun entry => entry.job.status) s.entries place

/-- A job given up stays so. -/
lemma unknown_step {input : Input R W} (h : s.Inv x) (hstep : ExecutorStep x s input t) {i : ℕ}
    (hunknown : s.status? i = some .unknown) : t.status? i = some .unknown := by
  -- The executor is blocked, so no job is started or published.
  have hblocked : s.blocked = true := by
    obtain ⟨entry, hentry, hstatus⟩ := Option.map_eq_some_iff.mp hunknown
    exact (h.entry _ _ hentry).blocked (.inl hstatus)
  have hset {place : ℕ} {entry entry' : Entry R W D} (hentry : s.entries[place]? = some entry)
      (hstatus : entry'.job.status = .unknown) :
      Slots.read (fun entry => entry.job.status) (s.entries.set place entry') i =
        some .unknown := by
    rw [Slots.read_set hentry, hstatus]
    split
    · rfl
    · exact hunknown
  have hsame {place : ℕ} {entry entry' : Entry R W D} (hentry : s.entries[place]? = some entry)
      (hjob : entry'.job = entry.job) :
      Slots.read (fun entry => entry.job.status) (s.entries.set place entry') i =
        some .unknown := by
    rw [Slots.read_set_same hentry (congrArg Job.status hjob)]
    exact hunknown
  cases hstep with
  | same => exact hunknown
  | refused => exact hunknown
  | added => exact Slots.read_concat hunknown
  | accepted => exact Slots.read_concat hunknown
  | shutdown =>
      obtain ⟨entry, hentry, hstatus⟩ := Option.map_eq_some_iff.mp hunknown
      refine (Slots.read_mapIdx i).trans ?_
      rw [hentry, Option.map_some]
      split
      · rfl
      · exact congrArg some hstatus
  | halted hentry _ hstatus => exact hset hentry hstatus
  | started _ _ hopen => simp [hblocked] at hopen
  | moved hentry => exact hsame hentry rfl
  | escaped hentry => exact hsame hentry rfl
  | failed hentry _ hstatus => exact hset hentry hstatus
  | published _ _ hopen => simp [hblocked] at hopen
  | left hentry => exact hsame hentry rfl

/-! ## Runs -/

variable [DecidableEq R] {inputs : List (Input R W)}

/-- A stage of a run of an executor. -/
abbrev ExecutorStage (R W D : Type) := Stage (State R W D) (Input R W) (Output R D)

/-- A run without an escaping exception keeps the invariant. -/
lemma inv_run (h : s.Inv x)
    (hescapes : ∀ e ∈ x.machine.trace s inputs, ¬Escapes x e.before e.input) :
    (x.machine.run s inputs).Inv x :=
  Machine.run_of_forall_stage (C := fun e => ¬Escapes x e.before e.input)
    (fun s input hs hC => inv_step hs hC (step_next x s input)) h hescapes

/-- A job given up at a stage of such a run is so at its end. -/
lemma unknown_run {xs ys : List (ExecutorStage R W D)} {e : ExecutorStage R W D} {place : ℕ}
    (hescapes : ∀ e ∈ x.machine.trace .initial inputs, ¬Escapes x e.before e.input)
    (htrace : x.machine.trace .initial inputs = xs ++ e :: ys)
    (hunknown : e.before.status? place = some .unknown) :
    (x.machine.run .initial inputs).status? place = some .unknown := by
  obtain ⟨hstart, hrest, hrun⟩ := x.machine.trace_rest htrace
  have hbefore : e.before.Inv x := by
    rw [← hstart.1]
    refine inv_run (State.inv_initial x) fun d hd => hescapes d ?_
    rw [htrace, ← hstart.2]
    exact List.mem_append_left _ hd
  have hkept : (x.machine.run e.before (e.input :: ys.map Stage.input)).Inv x ∧
      (x.machine.run e.before (e.input :: ys.map Stage.input)).status? place = some .unknown := by
    refine Machine.run_of_forall_stage (I := fun s => s.Inv x ∧ s.status? place = some .unknown)
      (C := fun e => ¬Escapes x e.before e.input)
      (fun s input hs hC => ?_) ⟨hbefore, hunknown⟩ fun d hd => hescapes d ?_
    · have hstep := step_next x s input
      exact ⟨inv_step hs.1 hC hstep, unknown_step hs.1 hstep hs.2⟩
    · rw [hrest] at hd
      rw [htrace]
      exact List.mem_append_right _ hd
  rw [hrun]
  exact hkept.2

/-! ### Keys used again -/

/-- No step takes a key or a job away. -/
lemma grows_step {input : Input R W} (hstep : ExecutorStep x s input t) : x.table.Grows s t := by
  have hadded (key : String) (entry : Entry R W D) (blocked active : Bool) :
      x.table.Grows s ⟨s.entries ++ [entry], s.requests ++ [(key, s.entries.length)], active,
        blocked⟩ := by
    refine ⟨List.prefix_append .., ?_⟩
    simp [Scheduler.table]
  have hset (place : ℕ) (entry : Entry R W D) (blocked active : Bool) :
      x.table.Grows s ⟨s.entries.set place entry, s.requests, active, blocked⟩ := by
    refine ⟨List.prefix_rfl, ?_⟩
    simp [Scheduler.table]
  cases hstep with
  | same => exact .refl _ _
  | refused => exact .refl _ _
  | shutdown => exact ⟨List.prefix_rfl, by simp [Scheduler.table, State.shutdown]⟩
  | added => exact hadded _ _ _ _
  | accepted => exact hadded _ _ _ _
  | halted => exact hset _ _ _ _
  | started => exact hset _ _ _ _
  | moved => exact hset _ _ _ _
  | escaped => exact hset _ _ _ _
  | failed => exact hset _ _ _ _
  | published => exact hset _ _ _ _
  | left => exact hset _ _ _ _

lemma accept_eq_ok {request : R} {key : String} {c : SubmitCall R} {place : ℕ} {job : Job R D}
    (hfree : s.requests.lookup key = none)
    (h : (x.accept s request key c).2 = .ok (place, job)) :
    x.table.Names (x.accept s request key c).1 key place := by
  have hnamed (entry : Entry R W D) (blocked active : Bool) :
      x.table.Names ⟨s.entries ++ [entry], s.requests ++ [(key, s.entries.length)], active,
        blocked⟩ key s.entries.length :=
    JobTable.names_added hfree rfl (by simp [Scheduler.table])
  unfold Scheduler.accept at h ⊢
  split at h
  · cases h
  · rename_i hreserved
    rw [if_neg hreserved]
    dsimp only at h ⊢
    split at h
    · rename_i hlate
      obtain ⟨rfl, -⟩ := Prod.mk.inj (Except.ok.inj h)
      rw [if_pos hlate]
      exact hnamed _ _ _
    · rename_i hlate
      rw [if_neg hlate]
      split at h
      · rename_i hthread
        obtain ⟨rfl, -⟩ := Prod.mk.inj (Except.ok.inj h)
        rw [if_pos hthread]
        exact hnamed _ _ _
      · rename_i hthread
        obtain ⟨rfl, -⟩ := Prod.mk.inj (Except.ok.inj h)
        rw [if_neg hthread]
        exact hnamed _ _ _

lemma create_eq_ok {c : SubmitCall R} {request : R} {key : String} {place : ℕ} {job : Job R D}
    (hfree : s.requests.lookup key = none) (h : (x.create s c request key).2 = .ok (place, job)) :
    x.table.Names (x.create s c request key).1 key place := by
  unfold Scheduler.create at h ⊢
  split at h
  · cases h
  · rename_i hopen
    split at h
    · cases h
    · rename_i hidle
      split at h
      · cases h
      · rename_i hroom
        rw [if_neg hopen, if_neg hidle, if_neg hroom]
        exact accept_eq_ok hfree h

/-- What a submission with a key already used may return: the job, or that the key is in
conflict.  A request that is refused in itself is so before the key is looked at. -/
def SameJob (x : Scheduler R W D) (place : ℕ) (c : SubmitCall R) (output : Output R D) : Prop :=
  ∃ r, output = .job r ∧ x.table.Repeated place (c.request.filter x.accepts) r

/-! ## The defect -/

/-- An exception that escapes leaves the executor idle with its job still open, and blocked only
if it was. -/
lemma escape_leaves_open {place : ℕ} {step : WorkerStep W}
    (h : Escapes x s (.worker place step)) :
    let final := x.machine.run s [.worker place step, .worker place .leave]
    (final.active = false ∧ final.blocked = s.blocked) ∧
      ∃ status, final.status? place = some status ∧ status.isOpen = true := by
  obtain ⟨entry, hentry, hopen, h⟩ := h
  have hlt : place < s.entries.length := Slots.lt_length hentry
  -- The step takes the thread past its handlers.
  have hwork : x.work s place step = s.setEntry place { entry with phase := .leaving } := by
    unfold Scheduler.work
    rw [hentry]
    dsimp only
    split at h
    · rename_i hphase
      rw [hphase]
      dsimp only
      rw [launched_eq_uncaught.mpr h]
      rfl
    · rename_i hphase
      rw [hphase]
      dsimp only
      rw [collected_eq_uncaught.mpr h]
      rfl
    · rename_i hphase
      rw [hphase]
      dsimp only
      rw [candidate_eq_uncaught.mpr h]
      rfl
    · exact h.elim
  have hleave : x.work (s.setEntry place { entry with phase := .leaving }) place .leave =
      { (s.setEntry place { entry with phase := .leaving }).setEntry place
          { entry with phase := .done } with active := false } := by
    unfold Scheduler.work State.setEntry
    rw [List.getElem?_set_self hlt]
  have hrun : x.machine.run s [.worker place step, .worker place .leave] =
      x.work (x.work s place step) place .leave := rfl
  rw [hrun, hwork, hleave]
  refine ⟨⟨rfl, rfl⟩, entry.job.status, ?_, hopen⟩
  simp only [State.status?, Slots.read, State.setEntry, List.set_set]
  rw [List.getElem?_set_self hlt, Option.map_some]

/-! ## Result -/

/-- What is claimed of a run. -/
structure Decided (x : Scheduler R W D) (inputs : List (Input R W)) : Prop where
  /-- At most one job is open, and none while the executor is idle. -/
  isOpen : ∀ i a, (x.machine.run .initial inputs).status? i = some a → a.isOpen = true →
    (x.machine.run .initial inputs).active = true ∧
      ∀ j b, (x.machine.run .initial inputs).status? j = some b → b.isOpen = true → i = j
  /-- A job that ended, but is not complete, leaves the executor blocked. -/
  gaveUp : ∀ i a, (x.machine.run .initial inputs).status? i = some a → a ≠ .complete →
    a.isOpen = false → (x.machine.run .initial inputs).blocked = true
  /-- Once blocked, it stays so and accepts no job. -/
  blocked : ∀ xs e ys, x.machine.trace .initial inputs = xs ++ e :: ys →
    e.before.blocked = true → (x.machine.run .initial inputs).blocked = true ∧
      (x.machine.run .initial inputs).entries.length = e.before.entries.length
  bounded : (x.machine.run .initial inputs).entries.length ≤ x.maxJobs
  /-- A key used again returns the same job or a conflict. -/
  idempotent : ∀ xs d ys e zs c c' place job,
    x.machine.trace .initial inputs = xs ++ d :: ys ++ e :: zs → d.input = .submit c →
    e.input = .submit c' → c'.idempotencyKey = c.idempotencyKey →
    d.output = .job (.ok (place, job)) → SameJob x place c' e.output
  /-- A job that is unknown stays so. -/
  unknown : ∀ xs e ys place, x.machine.trace .initial inputs = xs ++ e :: ys →
    e.before.status? place = some .unknown →
      (x.machine.run .initial inputs).status? place = some .unknown
  /-- Evidence is shown of complete jobs only. -/
  evidence : ∀ entry ∈ (x.machine.run .initial inputs).evidenceEntries, ∃ place job,
    (x.machine.run .initial inputs).job? place = some job ∧ job.status = .complete ∧
      job.entry = some entry

lemma decided_of_no_escape (x : Scheduler R W D) (inputs : List (Input R W))
    (hescapes : ∀ e ∈ x.machine.trace .initial inputs, ¬Escapes x e.before e.input) :
    Decided x inputs := by
  have hinv := inv_run (State.inv_initial x) hescapes
  have hread {i : ℕ} {a : Status} (h : (x.machine.run .initial inputs).status? i = some a) :
      ∃ entry, EntryInv (x.machine.run .initial inputs) i entry ∧ entry.job.status = a := by
    obtain ⟨entry, hentry, rfl⟩ := Option.map_eq_some_iff.mp h
    exact ⟨entry, hinv.entry _ _ hentry, rfl⟩
  refine ⟨?_, ?_, ?_, hinv.bounded, ?_, ?_, ?_⟩
  · intro i a ha hopen
    obtain ⟨entry, hentry, rfl⟩ := hread ha
    obtain ⟨hactive, hlast⟩ := hentry.live (hentry.isOpen hopen).live
    refine ⟨hactive, fun j b hb hopen' => ?_⟩
    obtain ⟨entry', hentry', rfl⟩ := hread hb
    exact Nat.succ_injective
      (hlast.trans (hentry'.live (hentry'.isOpen hopen').live).2.symm)
  · intro i a ha hcomplete hopen
    obtain ⟨entry, hentry, rfl⟩ := hread ha
    refine hentry.blocked ?_
    cases hstatus : entry.job.status with
    | reserved => simp [hstatus, Status.isOpen] at hopen
    | running => simp [hstatus, Status.isOpen] at hopen
    | complete => exact absurd hstatus hcomplete
    | unknown => exact .inl rfl
    | hold => exact .inr rfl
  · intro xs e ys htrace hblocked
    obtain ⟨-, -, hrun⟩ := x.machine.trace_rest htrace
    rw [hrun]
    have hkept : x.machine.Preserved fun s =>
        s.blocked = true ∧ s.entries.length = e.before.entries.length := by
      intro s input hs
      have hstep := blocked_step hs.1 (step_next x s input)
      exact ⟨hstep.1, hstep.2.trans hs.2⟩
    exact hkept.run ⟨hblocked, rfl⟩ _
  · intro xs d ys e zs c c' place job htrace hd he hkey hout
    obtain ⟨-, -, hestep, -⟩ := x.machine.trace_split htrace
    have hlate := htrace
    rw [List.append_assoc, List.cons_append] at htrace
    obtain ⟨-, -, hdstep, -⟩ := x.machine.trace_split htrace
    rw [hd] at hdstep
    have hsubmit : (x.submit d.before c).2 = .ok (place, job) :=
      Output.job.inj ((congrArg Prod.snd hdstep).trans hout)
    rw [submit_eq] at hsubmit
    obtain ⟨key, hckey, huuid, hnames⟩ :=
      JobTable.names_of_submit (fun _ _ _ _ hfree hnew => create_eq_ok hfree hnew) hsubmit
    rw [← submit_eq, show (x.submit d.before c).1 = d.after from congrArg Prod.fst hdstep] at hnames
    have hnames' := JobTable.names_later (fun s input => grows_step (step_next x s input)) hlate hnames
    rw [he] at hestep
    refine ⟨(x.submit e.before c').2, (congrArg Prod.snd hestep).symm, ?_⟩
    rw [submit_eq, hkey, hckey]
    exact JobTable.repeated_of_names hnames' huuid
  · intro xs e ys place htrace hunknown
    exact unknown_run hescapes htrace hunknown
  · intro entry hentry
    obtain ⟨y, hy, hshown⟩ := List.mem_filterMap.mp hentry
    obtain ⟨place, hplace⟩ := List.getElem?_of_mem hy
    split at hshown
    · rename_i hcomplete
      exact ⟨place, y.job, by rw [State.job?, hplace, Option.map_some], hcomplete, hshown⟩
    · cases hshown

/-- **Job executors never leave a job undecided**, of either kind, in every run whose exceptions do
not escape the handlers of the worker thread. -/
theorem executors_leaveNoJobUndecided (maxJobs deadlineSeconds : ℕ)
    (hjobs : 1 ≤ maxJobs ∧ maxJobs ≤ 8) (hdeadline : 10 ≤ deadlineSeconds ∧ deadlineSeconds ≤ 120)
    (scenarios : List (Input Scenario DemoReads)) (prompts : List (Input String ChatReads))
    (hdemo : ∀ e ∈ (demoExecutor maxJobs deadlineSeconds hjobs hdeadline).machine.trace .initial
        scenarios,
      ¬Escapes (demoExecutor maxJobs deadlineSeconds hjobs hdeadline) e.before e.input)
    (hchat : ∀ e ∈ (chatExecutor maxJobs deadlineSeconds hjobs hdeadline).machine.trace .initial
        prompts,
      ¬Escapes (chatExecutor maxJobs deadlineSeconds hjobs hdeadline) e.before e.input) :
    Decided (demoExecutor maxJobs deadlineSeconds hjobs hdeadline) scenarios ∧
      Decided (chatExecutor maxJobs deadlineSeconds hjobs hdeadline) prompts :=
  ⟨decided_of_no_escape _ scenarios hdemo, decided_of_no_escape _ prompts hchat⟩

/-! ### Runs of the demonstration -/

/-- What a step of the demonstration meets is an object, where a receipt is read, and raises
only what a handler names. -/
def MeetsNamed : Input Scenario DemoReads → Prop
  | .worker _ (.launch c) => Handled c.prepared ∧ Handled c.popen
  | .worker _ (.collect c) =>
    Handled c.exit ∧ c.reads.runResult.IsObject ∧ Handled c.reads.observed
  | .worker _ (.publish c) => Handled c.persisted
  | _ => True

lemma MeetsNamed.not_escapes {maxJobs deadlineSeconds : ℕ} {hjobs : 1 ≤ maxJobs ∧ maxJobs ≤ 8}
    {hdeadline : 10 ≤ deadlineSeconds ∧ deadlineSeconds ≤ 120} {s : State Scenario DemoReads Unit}
    {input : Input Scenario DemoReads} (h : MeetsNamed input) :
    ¬Escapes (demoExecutor maxJobs deadlineSeconds hjobs hdeadline) s input := by
  cases input with
  | worker place step =>
      rintro ⟨entry, -, -, hescapes⟩
      split at hescapes
      · rcases hescapes with hraised | ⟨-, -, hraised⟩
        · exact h.1 hraised
        · exact h.2 hraised
      · rcases hescapes with hraised | ⟨-, -, hraised⟩
        · exact h.1 hraised
        · exact admitDemo_handled h.2.1 h.2.2 hraised
      · rcases hescapes.2 with hraised | ⟨-, hraised⟩
        · cases hraised
        · exact h hraised
      · exact hescapes
  | _ => exact not_false

/-! ### Runs of the chat -/

/-- Files a chat turn reads without an exception that escapes: the receipt is an object, the
projection one with objects for its sections and times that fit a float. -/
structure ChatReads.Regular (reads : ChatReads) : Prop where
  result : reads.runResult.IsObject
  sections : ∀ c ∈ reads.projections, c.HasSections
  deltas : ∀ v, reads.projection = .ok v → Handled (entryDeltas v)
  observed : Handled reads.observed

/-- What a step of the chat meets is regular, where files are read, and raises only what a
handler names. -/
def MeetsRegular : Input String ChatReads → Prop
  | .worker _ (.launch c) => Handled c.prepared ∧ Handled c.popen
  | .worker _ (.collect c) => Handled c.exit ∧ c.reads.Regular
  | .worker _ (.publish c) => Handled c.persisted
  | _ => True

/-- The files collected are regular. -/
def CollectedRegular (s : State String ChatReads D) : Prop :=
  Slots.All (fun _ entry => ∀ evidence observationId reads,
    entry.phase = .collected evidence observationId reads → reads.Regular) s.entries

section

variable {x : Scheduler String ChatReads D} {s t : State String ChatReads D}
  {input : Input String ChatReads}

lemma collectedRegular_step (hs : CollectedRegular s) (hinput : MeetsRegular input)
    (hstep : ExecutorStep x s input t) : CollectedRegular t := by
  have hset {place : ℕ} {entry : Entry String ChatReads D}
      (hnew : ∀ evidence observationId reads,
        entry.phase = .collected evidence observationId reads → reads.Regular) :
      CollectedRegular (s.setEntry place entry) :=
    Slots.All.set hs (fun _ _ _ _ h => h) hnew
  have hconcat {entry : Entry String ChatReads D}
      (hnew : ∀ evidence observationId reads,
        entry.phase = .collected evidence observationId reads → reads.Regular) :
      Slots.All (fun _ entry => ∀ evidence observationId reads,
        entry.phase = .collected evidence observationId reads → reads.Regular)
        (s.entries ++ [entry]) :=
    Slots.All.concat hs (fun _ _ _ h => h) hnew
  cases hstep with
  | same => exact hs
  | refused => exact hs
  | added => exact hconcat fun _ _ _ h => by cases h
  | accepted => exact hconcat fun _ _ _ h => by cases h
  | shutdown =>
      refine Slots.All.mapIdx hs fun i entry _ h => ?_
      split
      · exact h
      · exact h
  | halted => exact hset fun _ _ _ h => by cases h
  | started => exact hset fun _ _ _ h => by cases h
  | moved hentry hpending hphase hcollected =>
      refine hset fun evidence observationId reads h => ?_
      obtain ⟨c, rfl, rfl⟩ := hcollected _ _ _ h
      exact hinput.2
  | escaped => exact hset fun _ _ _ h => by cases h
  | failed => exact hset fun _ _ _ h => by cases h
  | published => exact hset fun _ _ _ h => by cases h
  | left => exact hset fun _ _ _ h => by cases h

end

lemma MeetsRegular.not_escapes {maxJobs deadlineSeconds : ℕ} {hjobs : 1 ≤ maxJobs ∧ maxJobs ≤ 8}
    {hdeadline : 10 ≤ deadlineSeconds ∧ deadlineSeconds ≤ 120}
    {s : State String ChatReads ChatDetails} {input : Input String ChatReads}
    (hs : CollectedRegular s) (h : MeetsRegular input) :
    ¬Escapes (chatExecutor maxJobs deadlineSeconds hjobs hdeadline) s input := by
  cases input with
  | worker place step =>
      rintro ⟨entry, hentry, -, hescapes⟩
      split at hescapes
      · rcases hescapes with hraised | ⟨-, -, hraised⟩
        · exact h.1 hraised
        · exact h.2 hraised
      · rcases hescapes with hraised | ⟨-, -, hraised⟩
        · exact h.1 hraised
        · exact admitChat_handled h.2.result h.2.sections h.2.observed hraised
      · rename_i hphase
        have hreads := hs _ _ hentry _ _ _ hphase
        rcases hescapes.2 with hraised | ⟨-, hraised⟩
        · exact @chatDetails_handled entry.job.request _ hreads.sections hreads.deltas hraised
        · exact h hraised
      · exact hescapes
  | _ => exact not_false

/-- No exception escapes in a run of the chat that meets regular files. -/
lemma chat_not_escapes {maxJobs deadlineSeconds : ℕ} {hjobs : 1 ≤ maxJobs ∧ maxJobs ≤ 8}
    {hdeadline : 10 ≤ deadlineSeconds ∧ deadlineSeconds ≤ 120}
    {prompts : List (Input String ChatReads)} (h : ∀ input ∈ prompts, MeetsRegular input) :
    ∀ e ∈ (chatExecutor maxJobs deadlineSeconds hjobs hdeadline).machine.trace .initial prompts,
      ¬Escapes (chatExecutor maxJobs deadlineSeconds hjobs hdeadline) e.before e.input := by
  intro e he
  obtain ⟨xs, ys, htrace⟩ := List.append_of_mem he
  obtain ⟨hstart, -, -⟩ := Machine.trace_rest _ htrace
  have hmeets : ∀ d ∈ (chatExecutor maxJobs deadlineSeconds hjobs hdeadline).machine.trace
      .initial prompts, MeetsRegular d.input := by
    intro d hd
    have hinput := List.mem_map_of_mem (f := Stage.input) hd
    rw [Machine.map_input_trace] at hinput
    exact h _ hinput
  have hinitial : CollectedRegular (State.initial : State String ChatReads ChatDetails) :=
    Slots.all_nil _
  refine MeetsRegular.not_escapes ?_ (hmeets e he)
  rw [← hstart.1]
  refine Machine.run_of_forall_stage (C := fun d => MeetsRegular d.input)
    (fun s input hs hC => collectedRegular_step hs hC (step_next _ s input)) hinitial
    fun d hd => hmeets d ?_
  rw [htrace, ← hstart.2]
  exact List.mem_append_left _ hd

/-! ### Samples -/

/-- A demonstration executor. -/
def sampleExecutor : Scheduler Scenario DemoReads Unit :=
  demoExecutor 8 90 ⟨by decide, by decide⟩ ⟨by decide, by decide⟩

/-- A request that is accepted, its thread up to the wait. -/
def sampleStart : List (Input Scenario DemoReads) :=
  [.submit ⟨some .permit, some "00000000-0000-4000-8000-000000000000", .zero, "0a", "now", true,
      .zero, true, true, ⟨"now", true, true⟩⟩,
    .worker 0 (.start ⟨.zero, "now", true, .zero, ⟨"now", true, true⟩⟩),
    .worker 0 (.launch ⟨.ok (), .zero, .ok ()⟩)]

/-- The process ends with success and leaves a list for its receipt. -/
theorem executors_listReceipt :
    let final := sampleExecutor.machine.run .initial (sampleStart ++
      [.worker 0 (.collect ⟨.ok 0, .zero, ⟨.value (.list []), none, .error .caught⟩, false⟩),
        .worker 0 .leave])
    final.active = false ∧ final.blocked = false ∧ final.status? 0 = some .running := by
  decide +kernel

/-- A prompt that is submitted. -/
def samplePrompt : Input String ChatReads :=
  .submit ⟨some "hello", some "00000000-0000-4000-8000-000000000000", .zero, "0a", "now", true,
    .zero, true, true, ⟨"now", true, true⟩⟩

/-- What a turn leaves that did not end in time. -/
def sampleReads : ChatReads := ⟨.unreadable, [], none, .error .caught⟩

/-- A turn that does not end in time, and its prompt submitted again. -/
def sampleTurn : List (Input String ChatReads) :=
  [samplePrompt, .worker 0 (.start ⟨.zero, "now", true, .zero, ⟨"now", true, true⟩⟩),
    .worker 0 (.launch ⟨.ok (), .zero, .ok ()⟩),
    .worker 0 (.collect ⟨.error .timeoutExpired, .zero, sampleReads, true⟩),
    .worker 0 (.fail ⟨"now", true, true⟩), .worker 0 .leave, samplePrompt]

lemma regular_sampleReads : sampleReads.Regular where
  result := ⟨by simp [sampleReads], by simp [sampleReads]⟩
  sections := by simp [sampleReads]
  deltas := by
    intro v h
    cases h
  observed := handled_caught

/-- The process of the demonstration is rejected, the one of the chat does not end in time, and
either job is given up. -/
theorem executors_leaveNoJobUndecided_rejected :
    Decided (demoExecutor 8 90 ⟨by decide, by decide⟩ ⟨by decide, by decide⟩) (sampleStart ++
      [.worker 0 (.collect ⟨.ok 1, .zero, ⟨.malformed, none, .error .caught⟩, false⟩),
        .worker 0 (.fail ⟨"now", true, true⟩), .worker 0 .leave]) ∧
      Decided (chatExecutor 8 90 ⟨by decide, by decide⟩ ⟨by decide, by decide⟩) sampleTurn := by
  refine executors_leaveNoJobUndecided 8 90 _ _ _ _ (fun e he => ?_)
    (chat_not_escapes fun input hinput => ?_)
  · have hinput := List.mem_map_of_mem (f := Stage.input) he
    rw [Machine.map_input_trace, sampleStart] at hinput
    refine MeetsNamed.not_escapes ?_
    simp only [List.cons_append, List.nil_append, List.mem_cons, List.not_mem_nil, or_false]
      at hinput
    rcases hinput with h | h | h | h | h | h
    · rw [h]; trivial
    · rw [h]; trivial
    · rw [h]; exact ⟨handled_ok _, handled_ok _⟩
    · rw [h]; exact ⟨handled_ok _, ⟨nofun, nofun⟩, handled_caught⟩
    · rw [h]; trivial
    · rw [h]; trivial
  · simp only [sampleTurn, List.mem_cons, List.not_mem_nil, or_false] at hinput
    rcases hinput with h | h | h | h | h | h | h
    · rw [h]; trivial
    · rw [h]; trivial
    · rw [h]; exact ⟨handled_ok _, handled_ok _⟩
    · rw [h]; exact ⟨by simp [Handled], regular_sampleReads⟩
    · rw [h]; trivial
    · rw [h]; trivial
    · rw [h]; trivial

end CivicGate.Console.Executor
