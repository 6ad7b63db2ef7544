import CivicGate.Console.Advisor
import CivicGate.Framework.Requests
import CivicGate.Framework.Slots
import CivicGate.Governance.Signals

/-!
# Advisor reports are fresh, valid and final

`AdvisorStep` lists what one step can do.  An entry whose worker is under way is the last one
and keeps the service active (`EntryInv.live`), so a job is accepted only when no worker is
under way, and a failed job, which blocks the service, is the last one too.

The worker's handler catches `Exception`.  A provider call or an evidence read that ends with
another exception leaves the job running in a service that is idle (`exit_leaves_running`), so
the results are about runs without one (`Caught`).
-/

namespace CivicGate.Console

variable {a : AdvisorService} {s t : Session}

/-! ## What a step can do -/

/-- The worker has not left its `try` statement. -/
def Phase.Pending : Phase → Prop
  | .absent | .leaving | .done => False
  | _ => True

/-- The worker has not ended. -/
def Phase.Live : Phase → Prop
  | .absent | .done => False
  | _ => True

/-- An entry as `submit` adds it. -/
structure Entry.Accepted (a : AdvisorService) (entry : Entry) : Prop where
  report : entry.job.report = none
  request : entry.job.requestSha256 = digest entry.payload.toJson
  binding : entry.job.evidenceBindingSha256 = entry.binding

/-- What one step can do. -/
inductive AdvisorStep (a : AdvisorService) (s : Session) : AdvisorInput → Session → Prop
  | same {input} : AdvisorStep a s input s
  | refused {c key entry} {files : List Document} (hidle : s.active = false)
      (hopen : s.blocked = false) (hroom : s.entries.length < a.maxJobs)
      (hkey : s.requests.lookup key = none) (haccepted : entry.Accepted a)
      (hstatus : entry.job.status = .failed) (hphase : entry.phase = .absent) :
      AdvisorStep a s (.submit c)
        { s with
          entries := s.entries ++ [entry]
          requests := s.requests ++ [(key, s.entries.length)]
          files
          blocked := true }
  | accepted {c key entry} {files : List Document} (hidle : s.active = false)
      (hopen : s.blocked = false) (hroom : s.entries.length < a.maxJobs)
      (hkey : s.requests.lookup key = none) (haccepted : entry.Accepted a)
      (hstatus : entry.job.status = .running) (hphase : entry.phase = .starting) :
      AdvisorStep a s (.submit c)
        { s with
          entries := s.entries ++ [entry]
          requests := s.requests ++ [(key, s.entries.length)]
          files
          active := true }
  | shutdown : AdvisorStep a s .shutdown s.shutdown
  | called {place entry clock} (hentry : s.entries[place]? = some entry)
      (hphase : entry.phase = .starting) :
      AdvisorStep a s (.worker place (.call clock))
        { s.setEntry place { entry with phase := .calling clock } with calls := s.calls ++ [place] }
  | examined {place entry answer started report usage} (hentry : s.entries[place]? = some entry)
      (hphase : entry.phase = .calling started)
      (hexamine : a.examine entry.payload answer = .ok (report, usage)) :
      AdvisorStep a s (.worker place (.answer answer))
        (s.setEntry place { entry with phase := .reported started report usage })
  | unanswered {place entry answer started e} (hentry : s.entries[place]? = some entry)
      (hphase : entry.phase = .calling started)
      (hexamine : a.examine entry.payload answer = .error e) :
      AdvisorStep a s (.worker place (.answer answer))
        (s.setEntry place { entry with phase := e.phase })
  | published {place entry c started report usage} {files : List Document} {job : Job}
      (hentry : s.entries[place]? = some entry)
      (hphase : entry.phase = .reported started report usage)
      (hpublish : a.publish s place entry started report usage c = (files, .ok job)) :
      AdvisorStep a s (.worker place (.publish c))
        { s.setEntry place { entry with job, phase := .leaving } with files }
  | unpublished {place entry c started report usage} {files : List Document} {e : Raised}
      (hentry : s.entries[place]? = some entry)
      (hphase : entry.phase = .reported started report usage)
      (hpublish : a.publish s place entry started report usage c = (files, .error e)) :
      AdvisorStep a s (.worker place (.publish c))
        { s.setEntry place { entry with phase := e.phase } with files }
  | failed {place entry code now written} {files : List Document}
      (hentry : s.entries[place]? = some entry) (hphase : entry.phase = .failing code) :
      AdvisorStep a s (.worker place (.fail now written))
        { s.setEntry place
            { entry with job := entry.job.failed code now written, phase := .leaving } with
          blocked := true
          files }
  | left {place entry} (hentry : s.entries[place]? = some entry)
      (hphase : entry.phase = .leaving) :
      AdvisorStep a s (.worker place .leave)
        { s.setEntry place { entry with phase := .done } with active := false }

lemma accept_step {runId observationId key : String} {c : SubmitCall} (hidle : s.active = false)
    (hopen : s.blocked = false) (hroom : s.entries.length < a.maxJobs)
    (hkey : s.requests.lookup key = none) :
    AdvisorStep a s (.submit c) (a.accept s runId observationId key c).1 := by
  unfold AdvisorService.accept
  split
  · exact .same
  · dsimp only
    split
    · exact @AdvisorStep.refused a s c key _ s.files hidle hopen hroom hkey ⟨rfl, rfl, rfl⟩ rfl rfl
    · split
      · exact .refused hidle hopen hroom hkey ⟨rfl, rfl, rfl⟩ rfl rfl
      · exact .accepted hidle hopen hroom hkey ⟨rfl, rfl, rfl⟩ rfl rfl

/-! ### Requests -/

/-- The identifiers of a submission, if they are texts of valid form. -/
def SubmitCall.selected (c : SubmitCall) : Option (String × String) :=
  match c.runId, c.observationId with
  | some runId, some observationId =>
    if isValidId runId && isValidId observationId then some (runId, observationId) else none
  | _, _ => none

/-- The jobs and keys of the service, and its refusals. -/
def advisorTable : JobTable Session (String × String) Job Raised where
  jobs s := s.entries.map Entry.job
  requests := Session.requests
  isKey := isUuid4
  asks ids job := job.runId = ids.1 ∧ job.observationId = ids.2
  decideAsks _ _ := inferInstance
  malformed := .advisor ⟨"ADVISOR_OBSERVATION_UNAVAILABLE", 404⟩
  unkeyed := .advisor ⟨"ADVISOR_IDEMPOTENCY_REQUIRED", 400⟩
  conflict := .advisor ⟨"ADVISOR_IDEMPOTENCY_CONFLICT", 409⟩
  missing := .other none

/-- `submit`, for a key not yet used. -/
def AdvisorService.create (a : AdvisorService) (s : Session) (c : SubmitCall)
    (ids : String × String) (key : String) : Session × Except Raised (ℕ × Job) :=
  if s.closed || s.blocked then (s, .error (.advisor ⟨"ADVISOR_SESSION_BLOCKED", 503⟩))
  else if s.active then (s, .error (.advisor ⟨"ADVISOR_BUSY", 409⟩))
  else if a.maxJobs ≤ s.entries.length then
    (s, .error (.advisor ⟨"ADVISOR_BUDGET_EXHAUSTED", 429⟩))
  else a.accept s ids.1 ids.2 key c

lemma submit_eq (a : AdvisorService) (s : Session) (c : SubmitCall) :
    a.submit s c = advisorTable.submit s c.selected c.idempotencyKey (a.create s c) := by
  unfold AdvisorService.submit SubmitCall.selected
  cases c.runId with
  | none => rfl
  | some runId =>
      cases c.observationId with
      | none => rfl
      | some observationId =>
          dsimp only
          by_cases hvalid : (isValidId runId && isValidId observationId) = true
          · rw [hvalid, if_pos rfl, if_neg (by simp)]
            cases c.idempotencyKey with
            | none => rfl
            | some key =>
                have hjobs (place : ℕ) : (advisorTable.jobs s)[place]? = s.job? place :=
                  List.getElem?_map ..
                have hrequests : advisorTable.requests s = s.requests := rfl
                unfold JobTable.submit
                simp only [hjobs, hrequests]
                cases s.requests.lookup key with
                | none => rfl
                | some place =>
                    dsimp only
                    cases s.job? place <;> rfl
          · rw [if_neg hvalid, if_pos (by rw [Bool.not_eq_true] at hvalid; rw [hvalid]; rfl)]
            rfl

lemma create_step {c : SubmitCall} {ids : String × String} {key : String}
    (hfree : s.requests.lookup key = none) :
    AdvisorStep a s (.submit c) (a.create s c ids key).1 := by
  unfold AdvisorService.create
  split
  · exact .same
  · rename_i hclosed
    rw [Bool.or_eq_true, not_or, Bool.not_eq_true, Bool.not_eq_true] at hclosed
    split
    · exact .same
    · rename_i hactive
      split
      · exact .same
      · rename_i hroom
        exact accept_step (Bool.not_eq_true _ ▸ hactive) hclosed.2 (not_le.mp hroom) hfree

lemma submit_step (a : AdvisorService) (s : Session) (c : SubmitCall) :
    AdvisorStep a s (.submit c) (a.submit s c).1 := by
  rw [submit_eq]
  rcases advisorTable.submit_cases s c.selected c.idempotencyKey (a.create s c) with
    ⟨e, h⟩ | ⟨ids, key, -, -, ⟨place, job, -, -, h⟩ | ⟨hfree, h⟩⟩
  · rw [h]
    exact .same
  · rw [h]
    exact .same
  · rw [h]
    exact create_step hfree

lemma work_step (a : AdvisorService) (s : Session) (place : ℕ) (step : WorkerStep) :
    AdvisorStep a s (.worker place step) (a.work s place step) := by
  unfold AdvisorService.work
  split
  · exact .same
  · rename_i entry hentry
    split
    · rename_i hphase
      exact .called hentry hphase
    · rename_i hphase
      split
      · rename_i hexamine
        exact .examined hentry hphase hexamine
      · rename_i hexamine
        exact .unanswered hentry hphase hexamine
    · rename_i hphase
      split
      · rename_i hpublish
        exact .published hentry hphase hpublish
      · rename_i hpublish
        exact .unpublished hentry hphase hpublish
    · rename_i hphase
      exact .failed hentry hphase
    · rename_i hphase
      exact .left hentry hphase
    · exact .same

lemma step_next (a : AdvisorService) (s : Session) (input : AdvisorInput) :
    AdvisorStep a s input (a.machine.next s input) := by
  cases input with
  | submit c => exact submit_step a s c
  | getJob place => exact .same
  | shutdown => exact .shutdown
  | worker place step => exact work_step a s place step

/-! ## The condition -/

/-- No `SystemExit` or the like comes out of the provider or the evidence store during an
analysis. -/
def AdvisorInput.Caught : AdvisorInput → Prop
  | .worker _ (.answer answer) => answer ≠ .error .exit
  | .worker _ (.publish c) => c.evidence ≠ .error .exit
  | _ => True

/-- What the checks of a reply raise on their own is an `AdvisorError`. -/
lemma examine_ne_exit {payload : Payload} {answer : Answer} (hcaught : answer ≠ .error .exit) :
    a.examine payload answer ≠ .error .exit := by
  intro h
  rcases Except.bind_eq_error.mp h with h | ⟨reply, -, h⟩
  · exact hcaught h
  rcases Except.bind_eq_error.mp h with h | ⟨-, -, h⟩
  · cases (ensure_eq_error.mp h).2
  rcases Except.bind_eq_error.mp h with h | ⟨-, -, h⟩
  · cases (ensure_eq_error.mp h).2
  rcases Except.bind_eq_error.mp h with h | ⟨_, -, h⟩
  · obtain ⟨e, -, he⟩ := Except.reraise_eq_error.mp h
    cases he
  · cases h

lemma selection_ne_exit {evidence : Evidence} (hcaught : evidence ≠ .error .exit) :
    selection evidence ≠ .error .exit := by
  unfold selection
  split
  · simp
  · rename_i e _
    intro h
    exact hcaught (by rw [Except.error.inj h])
  · split <;> simp

lemma recheck_ne_exit {closed : Bool} {entry : Entry} {started : PyFloat} {c : PublishCall}
    (hcaught : c.evidence ≠ .error .exit) :
    a.recheck closed entry started c ≠ .error .exit := by
  intro h
  rcases Except.bind_eq_error.mp h with h | ⟨-, -, h⟩
  · cases (ensure_eq_error.mp h).2
  rcases Except.bind_eq_error.mp h with h | ⟨-, -, h⟩
  · cases (ensure_eq_error.mp h).2
  rcases Except.bind_eq_error.mp h with h | ⟨_, -, h⟩
  · exact selection_ne_exit hcaught h
  · cases (ensure_eq_error.mp h).2

lemma publish_ne_exit {place : ℕ} {entry : Entry} {started : PyFloat} {report : Json}
    {usage : Option Json} {c : PublishCall} (hcaught : c.evidence ≠ .error .exit) :
    (a.publish s place entry started report usage c).2 ≠ .error .exit := by
  unfold AdvisorService.publish
  split
  · rename_i e he
    intro h
    exact recheck_ne_exit hcaught (he.trans (congrArg Except.error (Except.error.inj h)))
  · dsimp only
    split
    · simp
    · split <;> simp

/-- What a publication checked: the service open, the evidence unchanged, the candidate written
and the clock within the deadline, before and after. -/
lemma publish_eq_ok {place : ℕ} {entry : Entry} {started : PyFloat} {report : Json}
    {usage : Option Json} {c : PublishCall} {files : List Document} {job : Job}
    (h : a.publish s place entry started report usage c = (files, .ok job)) :
    a.recheck s.closed entry started c = .ok () ∧ c.written = true ∧
      (s.closed = false ∧ a.late started c.acknowledged = false) ∧
      job = entry.completed report usage c.now ∧ files = s.files ++ [.analysis place job] := by
  unfold AdvisorService.publish at h
  split at h
  · cases h
  · rename_i hrecheck
    dsimp only at h
    split at h
    · cases h
    · rename_i hwritten
      split at h
      · cases h
      · rename_i hopen
        obtain ⟨rfl, hjob⟩ := Prod.mk.inj h
        obtain rfl := Except.ok.inj hjob
        rw [Bool.or_eq_true, not_or, Bool.not_eq_true, Bool.not_eq_true] at hopen
        exact ⟨hrecheck, by simpa using hwritten, hopen, rfl, rfl⟩

/-! ## The invariant -/

/-- What holds of the entry at a place. -/
structure EntryInv (s : Session) (place : ℕ) (entry : Entry) : Prop where
  live : entry.phase.Live → s.active = true ∧ place + 1 = s.entries.length
  running : entry.job.status = .running ↔ entry.phase.Pending
  uncalled : entry.phase = .starting → place ∉ s.calls
  failed : entry.job.status = .failed → s.blocked = true ∧ place + 1 = s.entries.length
  report : entry.job.report ≠ none → entry.job.status = .complete
  request : entry.job.requestSha256 = digest entry.payload.toJson
  binding : entry.job.evidenceBindingSha256 = entry.binding

/-- What holds of a service in every state of a run. -/
structure Session.Inv (a : AdvisorService) (s : Session) : Prop where
  bounded : s.entries.length ≤ a.maxJobs
  calls : s.calls.Nodup
  calls_lt : ∀ i ∈ s.calls, i < s.entries.length
  keys : ∀ key place, s.requests.lookup key = some place → place < s.entries.length
  entry : Slots.All (EntryInv s) s.entries

lemma Session.inv_initial (a : AdvisorService) : Session.initial.Inv a where
  bounded := Nat.zero_le _
  calls := List.nodup_nil
  calls_lt := by simp [Session.initial]
  keys := by simp [Session.initial]
  entry := Slots.all_nil _

lemma Phase.Pending.live {phase : Phase} (h : phase.Pending) : phase.Live := by
  cases phase <;> trivial

/-- Changing the entry whose worker is under way leaves the others as they were, and these have
no worker under way. -/
lemma Session.Inv.set (h : s.Inv a) {place : ℕ} {entry entry' : Entry}
    (hentry : s.entries[place]? = some entry) (hlive : entry.phase.Live)
    (hentries : t.entries = s.entries.set place entry') (hrequests : t.requests = s.requests)
    (hcalls : t.calls.Nodup)
    (hcall : ∀ i ∈ t.calls, i ∈ s.calls ∨ i = place) (hnew : EntryInv t place entry') :
    t.Inv a := by
  have hlength : t.entries.length = s.entries.length := by rw [hentries, List.length_set]
  have hlast := ((h.entry _ _ hentry).live hlive).2
  refine ⟨hlength ▸ h.bounded, hcalls, fun i hi => ?_, fun key i hi => ?_, ?_⟩
  · rcases hcall i hi with hi | rfl
    · exact hlength ▸ h.calls_lt i hi
    · exact hlength ▸ Slots.lt_length hentry
  · rw [hrequests] at hi
    exact hlength ▸ h.keys key i hi
  · rw [hentries]
    refine h.entry.set (fun i e hne hi hold => ?_) hnew
    have hidle : ¬ e.phase.Live := fun hl => by
      have := (hold.live hl).2
      omega
    refine
      { hold with
        live := fun hl => absurd hl hidle
        uncalled := fun hstart => absurd (by rw [hstart]; trivial) hidle
        failed := fun hfailed => ?_ }
    obtain ⟨hb, hl⟩ := hold.failed hfailed
    omega

/-- A new entry is the last one, and no worker was under way before. -/
lemma Session.Inv.concat (h : s.Inv a) {entry : Entry} {key : String} (hidle : s.active = false)
    (hopen : s.blocked = false) (hroom : s.entries.length < a.maxJobs)
    (hentries : t.entries = s.entries ++ [entry])
    (hrequests : t.requests = s.requests ++ [(key, s.entries.length)])
    (hcalls : t.calls = s.calls) (hnew : EntryInv t s.entries.length entry) : t.Inv a := by
  have hlength : t.entries.length = s.entries.length + 1 := by
    rw [hentries, List.length_append, List.length_singleton]
  refine ⟨by omega, hcalls ▸ h.calls, fun i hi => ?_, fun k i hi => ?_, ?_⟩
  · rw [hcalls] at hi
    have := h.calls_lt i hi
    omega
  · rw [hrequests, List.lookup_append] at hi
    cases hold : s.requests.lookup k with
    | some j =>
        rw [hold] at hi
        have := h.keys k j hold
        have hij : j = i := by simpa using hi
        omega
    | none =>
        rw [hold, Option.none_or] at hi
        have hi : s.entries.length = i := by
          by_cases hk : k = key
          · simpa [hk] using hi
          · simp [List.lookup_cons, beq_eq_false_iff_ne.mpr hk] at hi
        omega
  · rw [hentries]
    refine h.entry.concat (fun i e hi hold => ?_) hnew
    have hdone : ¬ e.phase.Live := fun hl => by
      have := (hold.live hl).1
      rw [hidle] at this
      cases this
    refine
      { hold with
        live := fun hl => absurd hl hdone
        uncalled := fun hstart => absurd (by rw [hstart]; trivial) hdone
        failed := fun hfailed => ?_ }
    have := (hold.failed hfailed).1
    rw [hopen] at this
    cases this

lemma Raised.phase_pending {e : Raised} (h : e ≠ .exit) : e.phase.Pending := by
  cases e <;> trivial

lemma Raised.phase_ne_starting (e : Raised) : e.phase ≠ .starting := by
  cases e <;> nofun

/-- A worker's step that leaves the job as it was, from one pending phase to another. -/
lemma EntryInv.advance {place : ℕ} {entry : Entry} (h : EntryInv s place entry)
    (hpending : entry.phase.Pending) {phase : Phase} (hphase : phase.Pending)
    (hstart : phase ≠ .starting) (hactive : t.active = s.active) (hblocked : t.blocked = s.blocked)
    (hlength : t.entries.length = s.entries.length) :
    EntryInv t place { entry with phase } where
  live _ := by
    rw [hactive, hlength]
    exact h.live hpending.live
  running := ⟨fun _ => hphase, fun _ => h.running.mpr hpending⟩
  uncalled heq := absurd heq hstart
  failed hfailed := by
    rw [hblocked, hlength]
    exact h.failed hfailed
  report := h.report
  request := h.request
  binding := h.binding

lemma inv_step {input : AdvisorInput} (h : s.Inv a) (hcaught : input.Caught)
    (hstep : AdvisorStep a s input t) : t.Inv a := by
  cases hstep with
  | same => exact h
  | @refused _ key entry _ hidle hopen hroom hkey haccepted hstatus hphase =>
      refine h.concat hidle hopen hroom rfl rfl rfl ?_
      exact
        { live := by simp [hphase, Phase.Live]
          running := by simp [hstatus, hphase, Phase.Pending]
          uncalled := by simp [hphase]
          failed := fun _ => ⟨rfl, by simp⟩
          report := fun hr => absurd haccepted.report hr
          request := haccepted.request
          binding := haccepted.binding }
  | @accepted _ key entry _ hidle hopen hroom hkey haccepted hstatus hphase =>
      refine h.concat hidle hopen hroom rfl rfl rfl ?_
      exact
        { live := fun _ => ⟨rfl, by simp⟩
          running := by simp [hstatus, hphase, Phase.Pending]
          uncalled := fun _ hmem => (h.calls_lt _ hmem).ne rfl
          failed := by simp [hstatus]
          report := fun hr => absurd haccepted.report hr
          request := haccepted.request
          binding := haccepted.binding }
  | shutdown =>
      refine ⟨h.bounded, h.calls, h.calls_lt, h.keys, fun i entry hi => ?_⟩
      have hold := h.entry i entry hi
      refine { hold with failed := fun hf => ⟨?_, (hold.failed hf).2⟩ }
      show (s.blocked || s.active) = true
      rw [(hold.failed hf).1, Bool.true_or]
  | @called place entry clock hentry hphase =>
      have hold := h.entry _ _ hentry
      have hpending : entry.phase.Pending := by rw [hphase]; trivial
      refine h.set hentry hpending.live rfl rfl ?_ ?_ ?_
      · refine List.nodup_append.mpr ⟨h.calls, List.nodup_singleton _, fun x hx y hy heq => ?_⟩
        rw [heq, List.mem_singleton.mp hy] at hx
        exact hold.uncalled hphase hx
      · intro i hi
        exact (List.mem_append.mp hi).imp_right List.mem_singleton.mp
      · exact hold.advance hpending trivial nofun rfl rfl (List.length_set ..)
  | @examined place entry answer started report usage hentry hphase hexamine =>
      have hpending : entry.phase.Pending := by rw [hphase]; trivial
      refine h.set hentry hpending.live rfl rfl h.calls (fun _ hi => .inl hi) ?_
      exact (h.entry _ _ hentry).advance hpending trivial nofun rfl rfl (List.length_set ..)
  | @unanswered place entry answer started e hentry hphase hexamine =>
      have hpending : entry.phase.Pending := by rw [hphase]; trivial
      have hne : e ≠ .exit := fun he => examine_ne_exit hcaught (he ▸ hexamine)
      refine h.set hentry hpending.live rfl rfl h.calls (fun _ hi => .inl hi) ?_
      exact (h.entry _ _ hentry).advance hpending (e.phase_pending hne) e.phase_ne_starting rfl rfl
        (List.length_set ..)
  | @published place entry c started report usage files job hentry hphase hpublish =>
      have hold := h.entry _ _ hentry
      have hpending : entry.phase.Pending := by rw [hphase]; trivial
      have hlive := hold.live hpending.live
      obtain ⟨-, -, -, rfl, -⟩ := publish_eq_ok hpublish
      refine h.set hentry hpending.live rfl rfl h.calls (fun _ hi => .inl hi) ?_
      have hlength : (s.entries.set place
          { entry with job := entry.completed report usage c.now, phase := .leaving }).length =
            s.entries.length := List.length_set ..
      exact
        { live := fun _ => ⟨hlive.1, hlive.2.trans hlength.symm⟩
          running := ⟨nofun, nofun⟩
          uncalled := nofun
          failed := nofun
          report := fun _ => rfl
          request := hold.request
          binding := hold.binding }
  | @unpublished place entry c started report usage files e hentry hphase hpublish =>
      have hpending : entry.phase.Pending := by rw [hphase]; trivial
      have hne : e ≠ .exit := fun he =>
        publish_ne_exit hcaught (he ▸ congrArg Prod.snd hpublish)
      refine h.set hentry hpending.live rfl rfl h.calls (fun _ hi => .inl hi) ?_
      exact (h.entry _ _ hentry).advance hpending (e.phase_pending hne) e.phase_ne_starting rfl rfl
        (List.length_set ..)
  | @failed place entry code now written files hentry hphase =>
      have hold := h.entry _ _ hentry
      have hpending : entry.phase.Pending := by rw [hphase]; trivial
      have hlive := hold.live hpending.live
      refine h.set hentry hpending.live rfl rfl h.calls (fun _ hi => .inl hi) ?_
      have hlength : (s.entries.set place
          { entry with job := entry.job.failed code now written, phase := .leaving }).length =
            s.entries.length := List.length_set ..
      exact
        { live := fun _ => ⟨hlive.1, hlive.2.trans hlength.symm⟩
          running := ⟨nofun, nofun⟩
          uncalled := nofun
          failed := fun _ => ⟨rfl, hlive.2.trans hlength.symm⟩
          report := fun hr => absurd rfl hr
          request := hold.request
          binding := hold.binding }
  | @left place entry hentry hphase =>
      have hold := h.entry _ _ hentry
      have hlive : entry.phase.Live := by rw [hphase]; trivial
      refine h.set hentry hlive rfl rfl h.calls (fun _ hi => .inl hi) ?_
      have hlength : (s.entries.set place { entry with phase := .done }).length =
          s.entries.length := List.length_set ..
      exact
        { live := nofun
          running := ⟨fun hr => by simpa [hphase, Phase.Pending] using hold.running.mp hr, nofun⟩
          uncalled := nofun
          failed := fun hf => ⟨(hold.failed hf).1, (hold.failed hf).2.trans hlength.symm⟩
          report := hold.report
          request := hold.request
          binding := hold.binding }

/-! ## What later steps keep -/

/-- The job at a place after the entry at one place has been changed. -/
lemma job?_set {place : ℕ} {entry entry' : Entry} (hentry : s.entries[place]? = some entry)
    (hentries : t.entries = s.entries.set place entry') (i : ℕ) :
    t.job? i = if i = place then some entry'.job else s.job? i := by
  rw [Session.job?, hentries]
  exact Slots.read_set hentry i

lemma job?_concat {entry : Entry} (hentries : t.entries = s.entries ++ [entry]) {i : ℕ} {job : Job}
    (h : s.job? i = some job) : t.job? i = some job := by
  rw [Session.job?, hentries]
  exact Slots.read_concat h

lemma job?_eq_some {i : ℕ} {entry : Entry} (h : s.entries[i]? = some entry) :
    s.job? i = some entry.job :=
  Slots.read_eq_some h

/-- A job that is complete or failed stays as it is. -/
lemma settled_step {input : AdvisorInput} (h : s.Inv a) (hstep : AdvisorStep a s input t) {i : ℕ}
    {job : Job} (hjob : s.job? i = some job) (hstatus : job.status ≠ .running) :
    t.job? i = some job := by
  -- The entry whose worker is in its `try` statement or handler has a job still running.
  have hother : ∀ {place entry entry'}, s.entries[place]? = some entry → entry.phase.Pending →
      t.entries = s.entries.set place entry' → t.job? i = some job := by
    intro place entry entry' hentry hpending hentries
    rw [job?_set hentry hentries]
    by_cases hi : i = place
    · rw [hi, job?_eq_some hentry] at hjob
      rw [← Option.some.inj hjob] at hstatus
      exact absurd ((h.entry _ _ hentry).running.mpr hpending) hstatus
    · rwa [if_neg hi]
  cases hstep with
  | same => exact hjob
  | refused => exact job?_concat rfl hjob
  | accepted => exact job?_concat rfl hjob
  | shutdown => exact hjob
  | called hentry hphase => exact hother hentry (by rw [hphase]; trivial) rfl
  | examined hentry hphase => exact hother hentry (by rw [hphase]; trivial) rfl
  | unanswered hentry hphase => exact hother hentry (by rw [hphase]; trivial) rfl
  | published hentry hphase => exact hother hentry (by rw [hphase]; trivial) rfl
  | unpublished hentry hphase => exact hother hentry (by rw [hphase]; trivial) rfl
  | failed hentry hphase => exact hother hentry (by rw [hphase]; trivial) rfl
  | @left place entry hentry =>
      rw [job?_set hentry rfl]
      by_cases hi : i = place
      · rw [if_pos hi, ← hjob, hi, job?_eq_some hentry]
      · rwa [if_neg hi]

/-- Once a job failed, no job is accepted and the provider is not called. -/
lemma stopped_step {input : AdvisorInput} (h : s.Inv a) (hstep : AdvisorStep a s input t) {i : ℕ}
    {job : Job} (hjob : s.job? i = some job) (hfailed : job.status = .failed) :
    t.entries.length = s.entries.length ∧ t.calls = s.calls := by
  obtain ⟨entry, hentry, rfl⟩ := Option.map_eq_some_iff.mp hjob
  obtain ⟨hblocked, hlast⟩ := (h.entry _ _ hentry).failed hfailed
  cases hstep with
  | refused hidle hopen => exact absurd (hblocked.symm.trans hopen) nofun
  | accepted hidle hopen => exact absurd (hblocked.symm.trans hopen) nofun
  | called hplace hphase =>
      have hother := (h.entry _ _ hplace).live (by rw [hphase]; trivial)
      obtain rfl := Nat.succ_injective (hlast.trans hother.2.symm)
      obtain rfl := Option.some.inj (hentry.symm.trans hplace)
      have hrunning := (h.entry _ _ hentry).running.mpr (by rw [hphase]; trivial)
      exact absurd (hfailed.symm.trans hrunning) nofun
  | same => exact ⟨rfl, rfl⟩
  | shutdown => exact ⟨rfl, rfl⟩
  | examined => exact ⟨List.length_set .., rfl⟩
  | unanswered => exact ⟨List.length_set .., rfl⟩
  | published => exact ⟨List.length_set .., rfl⟩
  | unpublished => exact ⟨List.length_set .., rfl⟩
  | failed => exact ⟨List.length_set .., rfl⟩
  | left => exact ⟨List.length_set .., rfl⟩

/-- No step takes a key or a job away. -/
lemma grows_step {input : AdvisorInput} (hstep : AdvisorStep a s input t) :
    advisorTable.Grows s t := by
  have hadded (x : String × ℕ) (entry : Entry) (u : Session)
      (hrequests : u.requests = s.requests ++ [x]) (hentries : u.entries = s.entries ++ [entry]) :
      advisorTable.Grows s u := by
    refine ⟨⟨[x], hrequests.symm⟩, ?_⟩
    simp [advisorTable, hentries]
  have hset (place : ℕ) (entry : Entry) (u : Session) (hrequests : u.requests = s.requests)
      (hentries : u.entries = s.entries.set place entry) : advisorTable.Grows s u := by
    refine ⟨⟨[], by rw [List.append_nil]; exact hrequests.symm⟩, ?_⟩
    simp [advisorTable, hentries]
  cases hstep with
  | same => exact .refl _ _
  | shutdown => exact .refl _ _
  | refused => exact hadded _ _ _ rfl rfl
  | accepted => exact hadded _ _ _ rfl rfl
  | called => exact hset _ _ _ rfl rfl
  | examined => exact hset _ _ _ rfl rfl
  | unanswered => exact hset _ _ _ rfl rfl
  | published => exact hset _ _ _ rfl rfl
  | unpublished => exact hset _ _ _ rfl rfl
  | failed => exact hset _ _ _ rfl rfl
  | left => exact hset _ _ _ rfl rfl

/-! ## Where reports come from -/

/-- A step of a run, with the states around it. -/
abbrev AdvisorStage := Stage Session AdvisorInput AdvisorOutput

/-- The provider answered, in one of these stages, with a report accepted against the payload. -/
def Answered (a : AdvisorService) (xs : List AdvisorStage) (place : ℕ) (payload : Payload)
    (report : Json) : Prop :=
  ∃ d ∈ xs, ∃ reply, d.input = .worker place (.answer (.ok reply)) ∧
    validateReport a.screen reply.report payload = .ok report

lemma Answered.mono {xs ys : List AdvisorStage} {place : ℕ} {payload : Payload} {report : Json}
    (h : Answered a xs place payload report) : Answered a (xs ++ ys) place payload report := by
  obtain ⟨d, hd, hanswer⟩ := h
  exact ⟨d, List.mem_append_left _ hd, hanswer⟩

/-- The stage published the report of the job, after the stages before it. -/
structure Published (a : AdvisorService) (before : List AdvisorStage) (p : AdvisorStage)
    (place : ℕ) (job : Job) (payload : Payload) (c : PublishCall) : Prop where
  answered : ∃ report, job.report = some report ∧ Answered a before place payload report
  input : p.input = .worker place (.publish c)
  /-- The payload was sent, and is what the evidence still gives. -/
  requested : job.requestSha256 = digest payload.toJson
  unchanged : ∃ current, selection c.evidence = .ok current ∧
    current.2.2 = job.evidenceBindingSha256 ∧
    canonicalText current.1.toJson = canonicalText payload.toJson ∧ current.2.1 = job.sources
  isOpen : p.before.closed = false ∧ p.after.closed = false
  written : c.written = true ∧ .analysis place job ∈ p.after.files
  shown : p.after.job? place = some job

/-- What the stages of a run say about the entries at its end. -/
structure Provenance (a : AdvisorService) (xs : List AdvisorStage) (s : Session) : Prop where
  reported : ∀ place entry started report usage, s.entries[place]? = some entry →
    entry.phase = .reported started report usage → Answered a xs place entry.payload report
  complete : ∀ place entry, s.entries[place]? = some entry → entry.job.status = .complete →
    ∃ ys p zs c, xs = ys ++ p :: zs ∧ Published a ys p place entry.job entry.payload c

lemma examine_eq_ok {payload : Payload} {answer : Answer} {report : Json} {usage : Option Json}
    (h : a.examine payload answer = .ok (report, usage)) :
    ∃ reply, answer = .ok reply ∧ validateReport a.screen reply.report payload = .ok report := by
  simp only [AdvisorService.examine, Except.bind_eq_ok, Except.reraise_eq_ok, Except.pure_eq_ok,
    Prod.mk.injEq] at h
  obtain ⟨reply, hreply, -, -, -, -, report', hreport, rfl, -⟩ := h
  exact ⟨reply, hreply, hreport⟩

lemma recheck_eq_ok {closed : Bool} {entry : Entry} {started : PyFloat} {c : PublishCall}
    (h : a.recheck closed entry started c = .ok ()) :
    ∃ current, selection c.evidence = .ok current ∧ current.2.2 = entry.binding ∧
      canonicalText current.1.toJson = canonicalText entry.payload.toJson ∧
      current.2.1 = entry.localSources := by
  simp only [AdvisorService.recheck, Except.bind_eq_ok, ensure_eq_ok, Bool.and_eq_true,
    decide_eq_true_eq] at h
  obtain ⟨-, -, -, -, current, hcurrent, ⟨hbinding, hpayload⟩, hsources⟩ := h
  exact ⟨current, hcurrent, hbinding, hpayload, hsources⟩

/-- Changing one entry leaves what is known of the others. -/
lemma Provenance.set {xs : List AdvisorStage} {e : AdvisorStage} (h : Provenance a xs s)
    {place : ℕ} {entry' : Entry} (hentries : t.entries = s.entries.set place entry')
    (hreported : ∀ started report usage, entry'.phase = .reported started report usage →
      Answered a (xs ++ [e]) place entry'.payload report)
    (hcomplete : entry'.job.status = .complete → ∃ ys p zs c, xs ++ [e] = ys ++ p :: zs ∧
      Published a ys p place entry'.job entry'.payload c) :
    Provenance a (xs ++ [e]) t where
  reported i x started report usage hi hphase := by
    rw [hentries] at hi
    rcases Slots.getElem?_set_cases hi with ⟨rfl, rfl⟩ | ⟨-, hi⟩
    · exact hreported _ _ _ hphase
    · exact (h.reported _ _ _ _ _ hi hphase).mono
  complete i x hi hstatus := by
    rw [hentries] at hi
    rcases Slots.getElem?_set_cases hi with ⟨rfl, rfl⟩ | ⟨-, hi⟩
    · exact hcomplete hstatus
    · obtain ⟨ys, p, zs, c, rfl, hpublished⟩ := h.complete _ _ hi hstatus
      exact ⟨ys, p, zs ++ [e], c, by simp, hpublished⟩

lemma Provenance.keep {xs : List AdvisorStage} {e : AdvisorStage} (h : Provenance a xs s)
    (hentries : t.entries = s.entries) : Provenance a (xs ++ [e]) t where
  reported i x started report usage hi hphase :=
    (h.reported _ _ _ _ _ (hentries ▸ hi) hphase).mono
  complete i x hi hstatus := by
    obtain ⟨ys, p, zs, c, rfl, hpublished⟩ := h.complete _ _ (hentries ▸ hi) hstatus
    exact ⟨ys, p, zs ++ [e], c, by simp, hpublished⟩

lemma Provenance.concat {xs : List AdvisorStage} {e : AdvisorStage} (h : Provenance a xs s)
    {entry : Entry} (hentries : t.entries = s.entries ++ [entry])
    (hphase : ∀ started report usage, entry.phase ≠ .reported started report usage)
    (hstatus : entry.job.status ≠ .complete) : Provenance a (xs ++ [e]) t where
  reported i x started report usage hi hx := by
    rw [hentries] at hi
    rcases Slots.getElem?_concat_cases hi with hi | ⟨-, rfl⟩
    · exact (h.reported _ _ _ _ _ hi hx).mono
    · exact absurd hx (hphase _ _ _)
  complete i x hi hx := by
    rw [hentries] at hi
    rcases Slots.getElem?_concat_cases hi with hi | ⟨-, rfl⟩
    · obtain ⟨ys, p, zs, c, rfl, hpublished⟩ := h.complete _ _ hi hx
      exact ⟨ys, p, zs ++ [e], c, by simp, hpublished⟩
    · exact absurd hx hstatus

lemma provenance_step {xs : List AdvisorStage} {input : AdvisorInput} {out : AdvisorOutput}
    (h : Provenance a xs s) (hinv : s.Inv a) (hstep : AdvisorStep a s input t) :
    Provenance a (xs ++ [⟨s, input, out, t⟩]) t := by
  -- A job still running is not complete, so a pending worker has published nothing.
  have hpending : ∀ {place : ℕ} {entry : Entry}, s.entries[place]? = some entry →
      entry.phase.Pending → entry.job.status ≠ .complete := by
    intro place entry hentry hphase heq
    have := (hinv.entry _ _ hentry).running.mpr hphase
    rw [heq] at this
    cases this
  cases hstep with
  | same => exact h.keep rfl
  | shutdown => exact h.keep rfl
  | refused _ _ _ _ _ hstatus hphase =>
      exact h.concat rfl (by simp [hphase]) (by simp [hstatus])
  | accepted _ _ _ _ _ hstatus hphase =>
      exact h.concat rfl (by simp [hphase]) (by simp [hstatus])
  | called hentry hphase =>
      exact h.set rfl nofun fun hx => (hpending hentry (by rw [hphase]; trivial) hx).elim
  | @examined place entry answer started report usage hentry hphase hexamine =>
      obtain ⟨reply, rfl, hreport⟩ := examine_eq_ok hexamine
      refine h.set rfl (fun started' report' usage' heq => ?_) fun hx =>
        (hpending hentry (by rw [hphase]; trivial) hx).elim
      cases heq
      exact ⟨_, List.mem_append_right _ (List.mem_singleton.mpr rfl), reply, rfl, hreport⟩
  | @unanswered place entry answer started e hentry hphase hexamine =>
      refine h.set rfl (fun started' report' usage' heq => ?_) fun hx =>
        (hpending hentry (by rw [hphase]; trivial) hx).elim
      cases e <;> cases heq
  | @published place entry c started report usage files job hentry hphase hpublish =>
      obtain ⟨hrecheck, hwritten, ⟨hopen, -⟩, rfl, rfl⟩ := publish_eq_ok hpublish
      have hold := hinv.entry _ _ hentry
      refine h.set rfl nofun fun _ => ⟨xs, _, [], c, rfl, ?_⟩
      obtain ⟨current, hcurrent, hbinding, hpayload, hsources⟩ := recheck_eq_ok hrecheck
      exact
        { answered := ⟨report, rfl, h.reported _ entry _ _ _ hentry hphase⟩
          input := rfl
          requested := hold.request
          unchanged := ⟨current, hcurrent, hbinding.trans hold.binding.symm, hpayload, hsources⟩
          isOpen := ⟨hopen, hopen⟩
          written := ⟨hwritten, List.mem_append_right _ (List.mem_singleton.mpr rfl)⟩
          shown := by rw [job?_set hentry rfl, if_pos rfl] }
  | @unpublished place entry c started report usage files e hentry hphase hpublish =>
      refine h.set rfl (fun started' report' usage' heq => ?_) fun hx =>
        (hpending hentry (by rw [hphase]; trivial) hx).elim
      cases e <;> cases heq
  | failed => exact h.set rfl nofun nofun
  | @left place entry hentry hphase =>
      refine h.set rfl nofun fun hx => ?_
      obtain ⟨ys, p, zs, c, rfl, hpublished⟩ := h.complete _ _ hentry hx
      exact ⟨ys, p, zs ++ [_], c, List.append_assoc .., hpublished⟩

/-! ## Runs -/

/-- A run of steps that meet the condition keeps the invariant, and its stages explain what its
end shows. -/
lemma inv_run (a : AdvisorService) {inputs : List AdvisorInput}
    (hcaught : ∀ input ∈ inputs, input.Caught) :
    (a.machine.run .initial inputs).Inv a ∧
      Provenance a (a.machine.trace .initial inputs) (a.machine.run .initial inputs) := by
  have hrun := Machine.trace_induction (m := a.machine) (s := Session.initial)
    (Q := fun xs s => (∀ d ∈ xs, d.input.Caught) → s.Inv a ∧ Provenance a xs s)
    (fun _ => ⟨Session.inv_initial a, ⟨by simp [Session.initial], by simp [Session.initial]⟩⟩)
    (fun xs t input ih hall => ?_) inputs
  · refine hrun fun d hd => ?_
    rw [← a.machine.map_input_trace .initial inputs] at hcaught
    exact hcaught _ (List.mem_map_of_mem hd)
  · obtain ⟨hinv, hprovenance⟩ := ih fun d hd => hall d (List.mem_append_left _ hd)
    have hinput := hall _ (List.mem_append_right _ (List.mem_singleton.mpr rfl))
    exact ⟨inv_step hinv hinput (step_next a t input),
      provenance_step hprovenance hinv (step_next a t input)⟩

variable {inputs : List AdvisorInput}

/-- What every step that meets the condition keeps, of states with the invariant, holds from any
state of a run to its end. -/
lemma run_keeps {I : Session → Prop} {s : Session} (hinv : s.Inv a)
    (hcaught : ∀ input ∈ inputs, input.Caught) (hI : I s)
    (hstep : ∀ s t input, s.Inv a → AdvisorStep a s input t → I s → I t) :
    I (a.machine.run s inputs) := by
  induction inputs generalizing s with
  | nil => exact hI
  | cons input inputs ih =>
      obtain ⟨hinput, hinputs⟩ := List.forall_mem_cons.mp hcaught
      have hnext := step_next a s input
      exact ih (inv_step hinv hinput hnext) hinputs (hstep _ _ _ hinv hnext hI)

/-- A stage of a run meeting the condition starts in a state with the invariant, and the rest of
the run is one from there. -/
lemma stage_split (hcaught : ∀ input ∈ inputs, input.Caught) {xs ys : List AdvisorStage}
    {e : AdvisorStage} (h : a.machine.trace .initial inputs = xs ++ e :: ys) :
    e.before.Inv a ∧ a.machine.step e.before e.input = (e.after, e.output) ∧ e.input.Caught ∧
      (∀ input ∈ ys.map Stage.input, input.Caught) ∧
      a.machine.run .initial inputs = a.machine.run e.after (ys.map Stage.input) := by
  obtain ⟨hbefore, -, hstep, hrun⟩ := a.machine.trace_split h
  have hinputs : inputs = xs.map Stage.input ++ e.input :: ys.map Stage.input := by
    rw [← a.machine.map_input_trace .initial inputs, h, List.map_append, List.map_cons]
  rw [hinputs] at hcaught
  refine ⟨?_, hstep, hcaught _ (by simp), fun input hi => hcaught _ (by simp_all), hrun⟩
  rw [hbefore]
  exact (inv_run a fun input hi => hcaught _ (List.mem_append_left _ hi)).1

lemma accept_eq_ok {runId observationId key : String} {c : SubmitCall} {place : ℕ} {job : Job}
    (hfree : s.requests.lookup key = none)
    (h : (a.accept s runId observationId key c).2 = .ok (place, job)) :
    advisorTable.Names (a.accept s runId observationId key c).1 key place := by
  unfold AdvisorService.accept at h ⊢
  split at h
  · cases h
  · dsimp only at h ⊢
    split at h
    · cases h
    · rename_i hwritten
      split at h
      · cases h
      · rename_i hstarted
        obtain ⟨rfl, rfl⟩ := Prod.mk.inj (Except.ok.inj h)
        rw [if_neg hwritten, if_neg hstarted]
        exact JobTable.names_added hfree rfl (by simp [advisorTable])

lemma create_eq_ok {c : SubmitCall} {ids : String × String} {key : String} {place : ℕ} {job : Job}
    (hfree : s.requests.lookup key = none) (h : (a.create s c ids key).2 = .ok (place, job)) :
    advisorTable.Names (a.create s c ids key).1 key place := by
  unfold AdvisorService.create at h ⊢
  split at h
  · cases h
  · rename_i hopen
    split at h
    · cases h
    · rename_i hidle
      split at h
      · cases h
      · rename_i hroom
        rw [if_neg hopen, if_neg hidle, if_neg hroom]
        exact accept_eq_ok hfree h

/-- What a submission with a key already used may return: the job, or that the key is in
conflict.  Identifiers of no valid form are refused before the key is looked at. -/
def SameJob (place : ℕ) (c : SubmitCall) (output : AdvisorOutput) : Prop :=
  ∃ r, output = .job r ∧ advisorTable.Repeated place c.selected r

/-! ## The defect -/

/-- An analysis whose provider call ends with an exception the handler does not catch leaves its
job running for good, in a service that is idle and takes further jobs. -/
lemma exit_leaves_running {c : SubmitCall} {place : ℕ} {job : Job} (clock : PyFloat)
    (h : (a.submit .initial c).2 = .ok (place, job)) :
    let final := a.machine.run .initial [.submit c, .worker 0 (.call clock),
      .worker 0 (.answer (.error .exit)), .worker 0 .leave]
    (final.active = false ∧ final.blocked = false) ∧
      ∃ job, final.job? 0 = some job ∧ job.status = .running := by
  have hsubmit := submit_eq a .initial c
  rcases advisorTable.submit_cases .initial c.selected c.idempotencyKey (a.create .initial c) with
    ⟨e, hs⟩ | ⟨⟨runId, observationId⟩, key, -, -, ⟨found, old, hfound, -⟩ | ⟨-, hs⟩⟩
  · rw [hsubmit, hs] at h
    cases h
  · cases hfound
  · have hroom : ¬a.maxJobs ≤ 0 := not_le.mpr a.maxJobs_pos
    have hs : a.submit .initial c = a.accept .initial runId observationId key c :=
      (hsubmit.trans hs).trans (if_neg hroom)
    have hnext : a.machine.next .initial (.submit c) =
        (a.accept .initial runId observationId key c).1 := congrArg Prod.fst hs
    rw [Machine.run_cons, hnext]
    rw [hs] at h
    unfold AdvisorService.accept at h ⊢
    split at h
    · cases h
    · dsimp only at h ⊢
      split at h
      · cases h
      · rename_i hwritten
        split at h
        · cases h
        · rename_i hstarted
          rw [if_neg hwritten, if_neg hstarted]
          exact ⟨⟨rfl, rfl⟩, _, rfl, rfl⟩

/-! ## Result -/

/-- What is claimed of a run. -/
structure FreshValidFinal (a : AdvisorService) (inputs : List AdvisorInput) : Prop where
  /-- A report shown is that of a complete job. -/
  report : ∀ place job, (a.machine.run .initial inputs).job? place = some job →
    job.report ≠ none → job.status = .complete
  /-- A complete job was published by a stage of the run. -/
  complete : ∀ place job, (a.machine.run .initial inputs).job? place = some job →
    job.status = .complete → ∃ xs p ys payload c,
      a.machine.trace .initial inputs = xs ++ p :: ys ∧ Published a xs p place job payload c
  /-- A job complete or failed never changes again. -/
  settled : ∀ xs e ys, a.machine.trace .initial inputs = xs ++ e :: ys → ∀ place job,
    e.before.job? place = some job → job.status ≠ .running →
      (a.machine.run .initial inputs).job? place = some job
  /-- At most one job is running, and none while the service is idle. -/
  running : ∀ i x, (a.machine.run .initial inputs).job? i = some x → x.status = .running →
    (a.machine.run .initial inputs).active = true ∧
      ∀ j y, (a.machine.run .initial inputs).job? j = some y → y.status = .running → i = j
  /-- After a failure no job is accepted and the provider is not called. -/
  stopped : ∀ xs e ys, a.machine.trace .initial inputs = xs ++ e :: ys →
    (∃ place job, e.before.job? place = some job ∧ job.status = .failed) →
      (a.machine.run .initial inputs).entries.length = e.before.entries.length ∧
        (a.machine.run .initial inputs).calls = e.before.calls
  /-- The provider is called at most once for a job, and at most `max_jobs` times. -/
  calls : (a.machine.run .initial inputs).calls.Nodup ∧
    (a.machine.run .initial inputs).calls.length ≤ a.maxJobs
  /-- A key used again returns the same job or a conflict. -/
  idempotent : ∀ xs d ys e zs c c' place job,
    a.machine.trace .initial inputs = xs ++ d :: ys ++ e :: zs → d.input = .submit c →
    e.input = .submit c' → c'.idempotencyKey = c.idempotencyKey →
    d.output = .job (.ok (place, job)) → SameJob place c' e.output

/-- **Advisor reports are fresh, valid and final**, in every run whose provider calls and
evidence reads end with a value or an `Exception`. -/
theorem advisor_freshValidFinal (a : AdvisorService) (inputs : List AdvisorInput)
    (hcaught : ∀ input ∈ inputs, input.Caught) : FreshValidFinal a inputs := by
  obtain ⟨hinv, hprovenance⟩ := inv_run a hcaught
  have hentry {place : ℕ} {job : Job} (h : (a.machine.run .initial inputs).job? place = some job) :
      ∃ entry, (a.machine.run .initial inputs).entries[place]? = some entry ∧ entry.job = job :=
    Option.map_eq_some_iff.mp h
  refine ⟨?_, ?_, ?_, ?_, ?_, ⟨hinv.calls, ?_⟩, ?_⟩
  · intro place job hjob hreport
    obtain ⟨entry, hentry, rfl⟩ := hentry hjob
    exact (hinv.entry _ _ hentry).report hreport
  · intro place job hjob hcomplete
    obtain ⟨entry, hentry, rfl⟩ := hentry hjob
    obtain ⟨xs, p, ys, c, htrace, hpublished⟩ := hprovenance.complete _ _ hentry hcomplete
    exact ⟨xs, p, ys, _, c, htrace, hpublished⟩
  · intro xs e ys htrace place job hjob hstatus
    obtain ⟨hbefore, hstep, hinput, hlater, hrun⟩ := stage_split hcaught htrace
    have hnext := step_next a e.before e.input
    rw [show a.machine.next e.before e.input = e.after from congrArg Prod.fst hstep] at hnext
    rw [hrun]
    refine run_keeps (I := fun s => s.job? place = some job) (inv_step hbefore hinput hnext) hlater
      (settled_step hbefore hnext hjob hstatus) ?_
    exact fun s t input hs hst hjob => settled_step hs hst hjob hstatus
  · intro i x hx hrunning
    obtain ⟨entry, hi, rfl⟩ := hentry hx
    have hpending := ((hinv.entry _ _ hi).running.mp hrunning).live
    obtain ⟨hactive, hlast⟩ := (hinv.entry _ _ hi).live hpending
    refine ⟨hactive, fun j y hy hrunning' => ?_⟩
    obtain ⟨entry', hj, rfl⟩ := hentry hy
    have hpending' := ((hinv.entry _ _ hj).running.mp hrunning').live
    exact Nat.succ_injective (hlast.trans ((hinv.entry _ _ hj).live hpending').2.symm)
  · intro xs e ys htrace ⟨place, job, hjob, hfailed⟩
    obtain ⟨hbefore, hstep, hinput, hlater, hrun⟩ := stage_split hcaught htrace
    have hnext := step_next a e.before e.input
    rw [show a.machine.next e.before e.input = e.after from congrArg Prod.fst hstep] at hnext
    have hne : job.status ≠ .running := by rw [hfailed]; nofun
    have hkept := run_keeps (a := a) (s := e.after)
      (I := fun s => s.job? place = some job ∧ s.entries.length = e.before.entries.length ∧
        s.calls = e.before.calls) (inv_step hbefore hinput hnext) hlater
      ⟨settled_step hbefore hnext hjob hne, stopped_step hbefore hnext hjob hfailed⟩
      fun s t input hs hst ⟨hj, hlength, hcalls⟩ =>
        have hstopped := stopped_step hs hst hj hfailed
        ⟨settled_step hs hst hj hne, hstopped.1.trans hlength, hstopped.2.trans hcalls⟩
    rw [hrun]
    exact hkept.2
  · -- The places called are distinct places of the table.
    have hsub : (a.machine.run .initial inputs).calls ⊆
        List.range (a.machine.run .initial inputs).entries.length :=
      fun i hi => List.mem_range.mpr (hinv.calls_lt i hi)
    calc (a.machine.run .initial inputs).calls.length
        ≤ (List.range (a.machine.run .initial inputs).entries.length).length :=
          (hinv.calls.subperm hsub).length_le
      _ = (a.machine.run .initial inputs).entries.length := List.length_range
      _ ≤ a.maxJobs := hinv.bounded
  · intro xs d ys e zs c c' place job htrace hd he hkey hout
    obtain ⟨-, -, hestep, -⟩ := a.machine.trace_split htrace
    have hlate := htrace
    rw [List.append_assoc, List.cons_append] at htrace
    obtain ⟨-, -, hstep, -⟩ := a.machine.trace_split htrace
    rw [hd] at hstep
    have hsubmit : (a.submit d.before c).2 = .ok (place, job) :=
      AdvisorOutput.job.inj ((congrArg Prod.snd hstep).trans hout)
    rw [submit_eq] at hsubmit
    obtain ⟨key, hckey, huuid, hnames⟩ :=
      JobTable.names_of_submit (fun _ _ _ _ hfree hnew => create_eq_ok hfree hnew) hsubmit
    rw [← submit_eq, show (a.submit d.before c).1 = d.after from congrArg Prod.fst hstep] at hnames
    have hnames' := JobTable.names_later (fun s input => grows_step (step_next a s input)) hlate hnames
    rw [he] at hestep
    refine ⟨(a.submit e.before c').2, (congrArg Prod.snd hestep).symm, ?_⟩
    rw [submit_eq, hkey, hckey]
    exact JobTable.repeated_of_names hnames' huuid

/-! ### A sample -/

/-- A service that refuses no text. -/
def sampleAdvisor : AdvisorService where
  model := "synthetic-claude-advisor-v1"
  timeoutSeconds := .int 10
  maxJobs := 8
  screen := ⟨fun text _ => text, fun _ => false⟩
  maxJobs_pos := by decide
  maxJobs_le := by decide

/-- An observation with one source. -/
def sampleObservation : Observation where
  integrity := .str "VERIFIED"
  artifacts := [⟨"execution/cases/permit/audit.jsonl",
    .str "0000000000000000000000000000000000000000000000000000000000000000", .int 1⟩]
  policy := []
  judge := []
  binding := []
  backend := []
  result := []
  custody := []
  others := []

/-- A submission that a fresh service accepts. -/
def sampleSubmission : SubmitCall where
  runId := some "run"
  observationId := some "observation"
  idempotencyKey := some "00000000-0000-4000-8000-000000000000"
  evidence := .ok (⟨"VERIFIED", "manifest"⟩, sampleObservation)
  now := "2026-01-01T00:00:00+00:00"
  requestWritten := true
  threadStarted := true

lemma sampleSubmission_accepted :
    ∃ place job, (sampleAdvisor.submit .initial sampleSubmission).2 = .ok (place, job) := by
  obtain ⟨⟨payload, sources⟩, hx⟩ :
      ∃ x, buildPayload ⟨"VERIFIED", "manifest"⟩ sampleObservation = .ok x := by
    have hok : (buildPayload ⟨"VERIFIED", "manifest"⟩ sampleObservation).isOk = true := by
      decide +kernel
    cases h : buildPayload ⟨"VERIFIED", "manifest"⟩ sampleObservation with
    | error e => rw [h] at hok; cases hok
    | ok x => exact ⟨x, rfl⟩
  have hids : (isValidId "run" && isValidId "observation") = true := by decide
  have huuid : isUuid4 "00000000-0000-4000-8000-000000000000" = true := by decide
  have hsubmit : sampleAdvisor.submit .initial sampleSubmission =
      sampleAdvisor.accept .initial "run" "observation" "00000000-0000-4000-8000-000000000000"
        sampleSubmission := by
    simp only [AdvisorService.submit, sampleSubmission, hids, huuid]
    rfl
  rw [hsubmit]
  simp only [AdvisorService.accept, selection, sampleSubmission, hx]
  exact ⟨_, _, rfl⟩

/-- The provider call of an analysis ends with `SystemExit`. -/
theorem advisor_exit_leavesRunning :
    let final := sampleAdvisor.machine.run .initial [.submit sampleSubmission,
      .worker 0 (.call .zero), .worker 0 (.answer (.error .exit)), .worker 0 .leave]
    (final.active = false ∧ final.blocked = false) ∧
      ∃ job, final.job? 0 = some job ∧ job.status = .running := by
  obtain ⟨place, job, hsubmit⟩ := sampleSubmission_accepted
  exact exit_leaves_running .zero hsubmit

/-- A run that meets the condition: the provider fails, and the job with it. -/
theorem advisor_freshValidFinal_sample :
    FreshValidFinal sampleAdvisor [.submit sampleSubmission, .worker 0 (.call .zero),
      .worker 0 (.answer (.error (.other none))), .worker 0 (.fail "" true), .worker 0 .leave] := by
  refine advisor_freshValidFinal _ _ fun input hinput => ?_
  simp only [List.mem_cons, List.not_mem_nil, or_false] at hinput
  rcases hinput with rfl | rfl | rfl | rfl | rfl
  · trivial
  · trivial
  · show Except.error (Raised.other none) ≠ .error .exit
    nofun
  · trivial
  · trivial

end CivicGate.Console
