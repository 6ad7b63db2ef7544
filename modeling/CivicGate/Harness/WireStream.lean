import CivicGate.Framework.Machine
import CivicGate.Framework.Program
import Mathlib.Data.Rat.Defs

/-!
# One request on the wire

`_OneRequestStream.write` of `harness/live_http_transport_v1.py` lets through the header block,
once and after its lease, and then the body in order.  It counts a buffer as emitted before
`sock_sendall` is done with it.  So what is on the socket stays a prefix of the request unless a
write goes on after a send that left bytes behind (`write_law`).

The write lock makes each write a step of its own.  A send that fails has put any prefix of its
buffer on the socket; `aclose` during a send is a failed send and then the close.
-/

namespace CivicGate.Harness

/-- The bytes of a buffer. -/
abbrev WireBytes := List UInt8

/-- How `sock_sendall` ends. -/
inductive SendOutcome
  | completed
  /-- An exception, with this many bytes put on the socket. -/
  | failed (put : ℕ)

/-- What the send put on the socket. -/
def SendOutcome.put (buffer : WireBytes) : SendOutcome → WireBytes
  | .completed => buffer
  | .failed n => buffer.take n

/-- What a stream did outside its own attributes. -/
inductive WireEvent
  /-- `consume_send_lease` returned. -/
  | leaseReturned
  /-- `time.monotonic()` was compared with the deadline. -/
  | clock (now : ℚ)
  /-- `sock_sendall` was called, and put some bytes on the socket. -/
  | send (isHeader : Bool) (buffer put : WireBytes)
  deriving DecidableEq

/-- The facts that a write changes. -/
structure WireFacts where
  blockedWriteCount : ℕ := 0
  sendLeaseCustody : String := "NOT_ATTEMPTED"
  sendLeaseAcknowledged : Bool := false
  headerEmissionAttempts : ℕ := 0
  bodyEmissionAttemptedBytes : ℕ := 0
  socketWriteCalls : ℕ := 0
  wireCompletionState : String := "NOT_STARTED"
  headersSocketWriteCompleted : Bool := false

/-- A `_OneRequestStream` with what it uses of its owner. -/
structure WireStream where
  headers : WireBytes
  body : WireBytes
  headersEmitted : Bool := false
  bodyOffset : ℕ := 0
  closed : Bool := false
  ownerClosed : Bool := false
  ownerEntered : Bool := true
  sendDeadline : Option ℚ := none
  facts : WireFacts := {}
  log : List WireEvent := []

/-- What `write` raises. -/
inductive WireError
  /-- `SyntheticHTTPTransportError` -/
  | transport (code : String)
  | valueError (code : String)
  /-- The exception of `consume_send_lease`. -/
  | lease
  /-- The exception of `sock_sendall`. -/
  | socket
  deriving DecidableEq

/-- A call of `write` with what the world answers. -/
structure WriteCall where
  /-- `none` stands for an object that is not `bytes`. -/
  buffer : Option WireBytes
  /-- The budget, its methods and the endpoint are those of the construction. -/
  isIntact : Bool := true
  leaseReturns : Bool := true
  now : ℚ := 0
  outcome : SendOutcome := .completed

abbrev WireProgram := Program WireStream WireError

/-! ## The write -/

/-- `self._owner._facts[...] = ...` -/
def setFacts (change : WireFacts → WireFacts) : WireProgram Unit :=
  modify fun s => { s with facts := change s.facts }

def record (event : WireEvent) : WireProgram Unit :=
  modify fun s => { s with log := s.log ++ [event] }

/-- `integrity` -/
def integrity (isIntact : Bool) : WireProgram Unit := do
  let s ← get
  if s.ownerClosed || !isIntact then
    throw (.transport "SYNTHETIC_TRANSPORT_INTEGRITY_CHANGED")
  else pure ()

/-- A write that is not let through. -/
def blockWrite (code : String) : WireProgram Unit := do
  setFacts fun f => { f with blockedWriteCount := f.blockedWriteCount + 1 }
  throw (.transport code)

/-- `_guard_send_deadline(stage)` -/
def guardSendDeadline (stage : String) (now : ℚ) : WireProgram Unit := do
  let s ← get
  match s.sendDeadline with
  | none => do
    setFacts fun f => { f with wireCompletionState := "SEND_DEADLINE_UNARMED_NO_HEADERS" }
    throw (.transport "SEND_DEADLINE_NOT_ARMED")
  | some deadline => do
    record (.clock now)
    if deadline ≤ now then do
      setFacts fun f =>
        { f with wireCompletionState := stage ++ "_AFTER_SEND_DEADLINE_NO_HEADERS" }
      throw (.transport (stage ++ "_AFTER_SEND_DEADLINE_NO_HEADERS"))
    else pure ()

/-- The lease is consumed, or `consume_send_lease` raises. -/
def consumeLease (returns : Bool) : WireProgram Unit :=
  if returns then record .leaseReturned else throw .lease

/-- The headers count as emitted. -/
def markHeaders : WireProgram Unit :=
  modify fun s => { s with
    headersEmitted := true
    facts := { s.facts with headerEmissionAttempts := s.facts.headerEmissionAttempts + 1 } }

/-- The branch of `write` for the first bytes. -/
def beginHeaders (w : WriteCall) (buffer : WireBytes) : WireProgram Unit := do
  let s ← get
  if buffer ≠ s.headers then blockWrite "FIRST_HEADER_BYTES_MISMATCH"
  else do
    setFacts fun f => { f with sendLeaseCustody := "UNKNOWN_PENDING_ACK" }
    consumeLease w.leaseReturns
    setFacts fun f =>
      { f with sendLeaseAcknowledged := true, sendLeaseCustody := "ACKNOWLEDGED_CONSUMED" }
    guardSendDeadline "LEASE_ACK" w.now
    markHeaders

/-- The branch of `write` for the bytes after the headers. -/
def beginBody (buffer : WireBytes) : WireProgram Unit := do
  let s ← get
  let remaining := s.body.drop s.bodyOffset
  if remaining.length < buffer.length ∨ buffer ≠ remaining.take buffer.length then
    blockWrite "ADDITIONAL_OR_CHANGED_HTTP_BYTES_BLOCKED"
  else modify fun s => { s with
    bodyOffset := s.bodyOffset + buffer.length
    facts := { s.facts with bodyEmissionAttemptedBytes := s.bodyOffset + buffer.length } }

/-- `sock_sendall`, with the facts around it. -/
def sendAll (isHeader : Bool) (buffer : WireBytes) (outcome : SendOutcome) : WireProgram Unit := do
  setFacts fun f => { f with socketWriteCalls := f.socketWriteCalls + 1 }
  record (.send isHeader buffer (outcome.put buffer))
  match outcome with
  | .failed _ => do
    setFacts fun f => { f with wireCompletionState := "SEND_COMPLETION_UNKNOWN" }
    throw .socket
  | .completed =>
    if isHeader then setFacts fun f => { f with headersSocketWriteCompleted := true } else pure ()

/-- `write(buffer, timeout)` -/
def write (w : WriteCall) : WireProgram Unit := do
  integrity w.isIntact
  let s ← get
  if s.closed then throw (.transport "CLOSED_WIRE_STREAM")
  else match w.buffer with
    | none => throw (.transport "WIRE_BYTES_REQUIRED")
    | some buffer => do
      let isHeader := !s.headersEmitted
      if isHeader then beginHeaders w buffer else beginBody buffer
      if buffer = [] then pure () else sendAll isHeader buffer w.outcome

/-- `arm_send_deadline`; `none` stands for what is no positive finite number. -/
def armSendDeadline (absoluteMonotonic : Option ℚ) : WireProgram Unit := do
  let s ← get
  if s.ownerEntered || s.sendDeadline.isSome then
    throw (.transport "SEND_DEADLINE_ALREADY_ARMED_OR_ENTERED")
  else match absoluteMonotonic with
    | none => throw (.valueError "ABSOLUTE_MONOTONIC_SEND_DEADLINE_REQUIRED")
    | some deadline => modify fun s => { s with sendDeadline := some deadline }

/-- What can happen to a stream. -/
inductive WireInput
  | write (w : WriteCall)
  | aclose
  | acloseOwner
  | armSendDeadline (absoluteMonotonic : Option ℚ)

/-- What each input runs. -/
def WireInput.program : WireInput → WireProgram Unit
  | .write w => Harness.write w
  | .aclose => modify fun s => { s with closed := true }
  | .acloseOwner => modify fun s => { s with ownerClosed := true, closed := true }
  | .armSendDeadline absoluteMonotonic => Harness.armSendDeadline absoluteMonotonic

/-- A stream and the calls on it. -/
def wireMachine : Machine WireStream WireInput (Except WireError Unit) where
  step s a := ((a.program.run s).2, (a.program.run s).1)

/-! ## What a write can do -/

def WireEvent.isSend : WireEvent → Bool
  | .send .. => true
  | _ => false

/-- Nothing reaches the socket layer. -/
structure Refused (s t : WireStream) : Prop where
  same : t = { s with facts := t.facts, log := t.log }
  quiet : ∃ events, t.log = s.log ++ events ∧ ∀ e ∈ events, e.isSend = false
  attempted : t.facts.bodyEmissionAttemptedBytes = s.facts.bodyEmissionAttemptedBytes

/-- The buffer is the header block, and the lease is consumed in time. -/
structure HeadersBegun (buffer : WireBytes) (now : ℚ) (s t : WireStream) : Prop where
  same : t = { s with headersEmitted := true, facts := t.facts, log := t.log }
  isHeaders : buffer = s.headers
  inTime : ∃ deadline, s.sendDeadline = some deadline ∧ now < deadline
  log : t.log = s.log ++ [.leaseReturned, .clock now]
  attempted : t.facts.bodyEmissionAttemptedBytes = s.facts.bodyEmissionAttemptedBytes

/-- The buffer is the next part of the body. -/
structure BodyBegun (buffer : WireBytes) (s t : WireStream) : Prop where
  same : t = { s with bodyOffset := s.bodyOffset + buffer.length, facts := t.facts }
  next : buffer <+: s.body.drop s.bodyOffset
  attempted : t.facts.bodyEmissionAttemptedBytes = s.bodyOffset + buffer.length

/-- The call of `sock_sendall`, unless the buffer is empty. -/
def sendEvents (isHeader : Bool) (buffer : WireBytes) (outcome : SendOutcome) : List WireEvent :=
  if buffer = [] then [] else [.send isHeader buffer (outcome.put buffer)]

/-- The buffer went to `sock_sendall`, unless it is empty. -/
structure Sent (isHeader : Bool) (buffer : WireBytes) (outcome : SendOutcome) (s t : WireStream) :
    Prop where
  same : t = { s with facts := t.facts, log := t.log }
  log : t.log = s.log ++ sendEvents isHeader buffer outcome
  attempted : t.facts.bodyEmissionAttemptedBytes = s.facts.bodyEmissionAttemptedBytes

/-- The stream takes the buffer for the next part of the body. -/
def Continues (s : WireStream) (w : WriteCall) (buffer : WireBytes) : Prop :=
  w.buffer = some buffer ∧ w.isIntact = true ∧ s.ownerClosed = false ∧ s.closed = false ∧
    s.headersEmitted = true ∧ buffer <+: s.body.drop s.bodyOffset

/-- The streams a write can leave. -/
inductive WriteStep (s : WireStream) (w : WriteCall) (t : WireStream) : Prop
  | refused (h : Refused s t)
  | header {buffer m} (hemitted : s.headersEmitted = false) (hbegun : HeadersBegun buffer w.now s m)
      (hsent : Sent true buffer w.outcome m t)
  | body {buffer m} (hcontinues : Continues s w buffer) (hbegun : BodyBegun buffer s m)
      (hsent : Sent false buffer w.outcome m t)

section

variable {s : WireStream} {w : WriteCall} {buffer : WireBytes}

lemma guardSendDeadline_triple {stage : String} {now : ℚ} :
    Program.Triple (· = s) (guardSendDeadline stage now)
      (fun _ t => t = { s with log := s.log ++ [.clock now] } ∧
        ∃ deadline, s.sendDeadline = some deadline ∧ now < deadline) fun _ t => Refused s t := by
  rintro s rfl
  unfold guardSendDeadline
  rw [Program.run_get_bind]
  cases hdeadline : s.sendDeadline with
  | none =>
      show Refused s { s with facts := _ }
      exact ⟨rfl, ⟨[], (List.append_nil _).symm, nofun⟩, rfl⟩
  | some deadline =>
      by_cases hlate : deadline ≤ now
      · simp only [if_pos hlate]
        show Refused s { s with facts := _, log := s.log ++ [.clock now] }
        exact ⟨rfl, ⟨_, rfl, by simp [WireEvent.isSend]⟩, rfl⟩
      · simp only [if_neg hlate]
        rw [← hdeadline]
        exact ⟨rfl, deadline, hdeadline, Rat.not_le.mp hlate⟩

/-- A stream whose lease is acknowledged. -/
def WireStream.acknowledged (s : WireStream) : WireStream :=
  { s with
    facts := { s.facts with
      sendLeaseCustody := "ACKNOWLEDGED_CONSUMED"
      sendLeaseAcknowledged := true }
    log := s.log ++ [.leaseReturned] }

lemma beginHeaders_triple : Program.Triple (· = s) (beginHeaders w buffer)
    (fun _ t => HeadersBegun buffer w.now s t) fun _ t => Refused s t := by
  rintro s rfl
  unfold beginHeaders
  rw [Program.run_get_bind]
  by_cases hbuffer : buffer = s.headers
  · rw [if_neg (not_not.mpr hbuffer)]
    cases w.leaseReturns with
    | false =>
        show Refused s { s with facts := _ }
        exact ⟨rfl, ⟨[], (List.append_nil _).symm, nofun⟩, rfl⟩
    | true =>
        have hguard := @guardSendDeadline_triple _ "LEASE_ACK" w.now s.acknowledged rfl
        simp only [setFacts, consumeLease, record, if_true, Program.run_bind, Program.run_modify]
        rw [show { s with facts := _, log := _ } = s.acknowledged from rfl]
        rcases hrun : (guardSendDeadline "LEASE_ACK" w.now).run s.acknowledged with ⟨e | _, t⟩ <;>
          rw [hrun] at hguard
        · obtain ⟨hsame, ⟨events, hlog, hquiet⟩, hattempted⟩ := hguard
          refine ⟨hsame.trans rfl, ⟨.leaseReturned :: events, ?_, ?_⟩, hattempted⟩
          · rw [hlog, WireStream.acknowledged, List.append_assoc]
            rfl
          · exact List.forall_mem_cons.mpr ⟨rfl, hquiet⟩
        · obtain ⟨rfl, hdeadline⟩ := hguard
          exact ⟨rfl, hbuffer, hdeadline, List.append_assoc .., rfl⟩
  · rw [if_pos hbuffer]
    show Refused s { s with facts := _ }
    exact ⟨rfl, ⟨[], (List.append_nil _).symm, nofun⟩, rfl⟩

lemma beginBody_triple : Program.Triple (· = s) (beginBody buffer)
    (fun _ t => BodyBegun buffer s t) fun _ t => Refused s t := by
  rintro s rfl
  unfold beginBody
  rw [Program.run_get_bind]
  by_cases hchanged : (s.body.drop s.bodyOffset).length < buffer.length ∨
      buffer ≠ (s.body.drop s.bodyOffset).take buffer.length
  · simp only [if_pos hchanged]
    show Refused s { s with facts := _ }
    exact ⟨rfl, ⟨[], (List.append_nil _).symm, nofun⟩, rfl⟩
  · simp only [if_neg hchanged]
    push Not at hchanged
    exact ⟨rfl, List.prefix_iff_eq_take.mpr hchanged.2, rfl⟩

lemma sendAll_relates {isHeader : Bool} {outcome : SendOutcome} (hbuffer : buffer ≠ []) :
    Program.Relates (sendAll isHeader buffer outcome) (Sent isHeader buffer outcome) := by
  intro s
  cases outcome with
  | completed => cases isHeader <;> exact ⟨rfl, by rw [sendEvents, if_neg hbuffer]; rfl, rfl⟩
  | failed n => exact ⟨rfl, by rw [sendEvents, if_neg hbuffer]; rfl, rfl⟩

/-- What happens once the first bytes or the next are let through. -/
lemma emit_relates {isHeader : Bool} :
    Program.Relates (if buffer = [] then pure () else sendAll isHeader buffer w.outcome)
      (Sent isHeader buffer w.outcome) := by
  intro s
  by_cases hbuffer : buffer = []
  · rw [if_pos hbuffer]
    exact ⟨rfl, by rw [sendEvents, if_pos hbuffer]; exact (List.append_nil _).symm, rfl⟩
  · rw [if_neg hbuffer]
    exact sendAll_relates hbuffer s

lemma Refused.refl (s : WireStream) : Refused s s :=
  ⟨rfl, ⟨[], (List.append_nil _).symm, nofun⟩, rfl⟩

/-- A program after one that may refuse. -/
lemma run_then {p q : WireProgram Unit} {Q : WireStream → Prop} {R : WireStream → WireStream → Prop}
    (hp : Program.Triple (· = s) p (fun _ m => Q m) fun _ t => Refused s t)
    (hq : Program.Relates q R) : Refused s ((p >>= fun _ => q).run s).2 ∨
      ∃ m, Q m ∧ R m ((p >>= fun _ => q).run s).2 := by
  have hfirst := hp s rfl
  rw [Program.run_bind]
  rcases hrun : p.run s with ⟨e | _, m⟩ <;> rw [hrun] at hfirst
  · exact .inl hfirst
  · exact .inr ⟨m, hfirst, hq m⟩

lemma run_integrity (isIntact : Bool) (s : WireStream) : (integrity isIntact).run s =
    if s.ownerClosed || !isIntact then
      (.error (.transport "SYNTHETIC_TRANSPORT_INTEGRITY_CHANGED"), s)
    else (.ok (), s) := by
  unfold integrity
  rw [Program.run_get_bind]
  split_ifs <;> rfl

lemma write_step (s : WireStream) (w : WriteCall) : WriteStep s w ((write w).run s).2 := by
  unfold write
  rw [Program.run_bind, run_integrity]
  by_cases hintact : (s.ownerClosed || !w.isIntact) = true
  · rw [if_pos hintact]
    exact .refused (Refused.refl s)
  · rw [if_neg hintact]
    simp only [Program.run_get_bind]
    cases hclosed : s.closed with
    | true =>
        rw [if_pos rfl]
        exact .refused (Refused.refl s)
    | false =>
        rw [if_neg Bool.false_ne_true]
        cases hbuffer : w.buffer with
        | none => exact .refused (Refused.refl s)
        | some buffer =>
            cases hemitted : s.headersEmitted with
            | false =>
                rcases run_then beginHeaders_triple emit_relates with h | ⟨m, hbegun, hsent⟩
                · exact .refused h
                · exact .header hemitted hbegun hsent
            | true =>
                rcases run_then beginBody_triple emit_relates with h | ⟨m, hbegun, hsent⟩
                · exact .refused h
                · have hopen : s.ownerClosed = false ∧ w.isIntact = true := by
                    simpa using hintact
                  exact .body ⟨hbuffer, hopen.2, hopen.1, hclosed, hemitted, hbegun.next⟩ hbegun
                    hsent

end

/-! ## The ledger of a stream -/

/-- The bytes that an event put on the socket. -/
def WireEvent.put : WireEvent → WireBytes
  | .send _ _ put => put
  | _ => []

/-- The bytes that an event handed to the socket layer. -/
def WireEvent.handed : WireEvent → WireBytes
  | .send _ buffer _ => buffer
  | _ => []

/-- The bytes of the body that an event handed to the socket layer. -/
def WireEvent.handedBody : WireEvent → WireBytes
  | .send false buffer _ => buffer
  | _ => []

/-- A send of the header block was started. -/
def WireEvent.isHeaderSend : WireEvent → Bool
  | .send isHeader _ _ => isHeader
  | _ => false

/-- The bytes on the socket. -/
def WireStream.wire (s : WireStream) : WireBytes := s.log.flatMap WireEvent.put

/-- Every send so far put its whole buffer on the socket. -/
def WireStream.Complete (s : WireStream) : Prop := ∀ e ∈ s.log, e.put = e.handed

/-- A lease was consumed and a later reading of the clock was before the deadline. -/
def InTime (deadline : Option ℚ) (log : List WireEvent) : Prop :=
  ∃ before between after now at', log = before ++ .leaseReturned :: between ++ .clock now :: after ∧
    deadline = some at' ∧ now < at'

/-- What holds of a stream whatever its sends put on the socket. -/
structure Ledger (s : WireStream) : Prop where
  handed : s.log.flatMap WireEvent.handed =
    if s.headersEmitted then s.headers ++ s.body.take s.bodyOffset else []
  offset : s.headersEmitted = false → s.bodyOffset = 0
  attempted : s.facts.bodyEmissionAttemptedBytes = s.bodyOffset
  counted : (s.log.flatMap WireEvent.handedBody).length = s.bodyOffset
  once : s.log.countP WireEvent.isHeaderSend ≤ if s.headersEmitted then 1 else 0
  inTime : ∀ pre e, pre ++ [e] <+: s.log → e.isSend = true → InTime s.sendDeadline pre
  emitted : s.headersEmitted = true → InTime s.sendDeadline s.log

lemma InTime.append {deadline : Option ℚ} {log : List WireEvent} (h : InTime deadline log)
    (more : List WireEvent) : InTime deadline (log ++ more) := by
  obtain ⟨before, between, after, now, at', rfl, hdeadline, hnow⟩ := h
  exact ⟨before, between, after ++ more, now, at', by simp, hdeadline, hnow⟩

/-- Events that are no sends add nothing to what is handed over or put on the socket. -/
lemma quiet_events {events : List WireEvent} (h : ∀ e ∈ events, e.isSend = false) :
    events.flatMap WireEvent.handed = [] ∧ events.flatMap WireEvent.handedBody = [] ∧
      events.flatMap WireEvent.put = [] ∧ events.countP WireEvent.isHeaderSend = 0 := by
  have hevent : ∀ e : WireEvent, e.isSend = false →
      e.handed = [] ∧ e.handedBody = [] ∧ e.put = [] ∧ e.isHeaderSend = false := by
    rintro (_ | _ | _) he
    · exact ⟨rfl, rfl, rfl, rfl⟩
    · exact ⟨rfl, rfl, rfl, rfl⟩
    · cases he
  refine ⟨?_, ?_, ?_, ?_⟩
  · exact List.flatMap_eq_nil_iff.mpr fun e he => (hevent e (h e he)).1
  · exact List.flatMap_eq_nil_iff.mpr fun e he => (hevent e (h e he)).2.1
  · exact List.flatMap_eq_nil_iff.mpr fun e he => (hevent e (h e he)).2.2.1
  · exact List.countP_eq_zero.mpr fun e he => by simp [(hevent e (h e he)).2.2.2]

/-- Prefixes of a longer log that end in a send, where the new events are no sends. -/
lemma inTime_quiet {deadline : Option ℚ} {log events : List WireEvent}
    (h : ∀ pre e, pre ++ [e] <+: log → e.isSend = true → InTime deadline pre)
    (hquiet : ∀ e ∈ events, e.isSend = false) :
    ∀ pre e, pre ++ [e] <+: log ++ events → e.isSend = true → InTime deadline pre := by
  intro pre e hpre hsend
  induction events using List.reverseRecOn with
  | nil => exact h pre e (by rwa [List.append_nil] at hpre) hsend
  | append_singleton events last ih =>
      rw [← List.append_assoc, List.prefix_concat_iff] at hpre
      rcases hpre with heq | hpre
      · obtain ⟨-, hlast⟩ := List.append_inj' heq rfl
        obtain rfl := List.singleton_inj.mp hlast
        rw [hquiet e (by simp)] at hsend
        cases hsend
      · exact ih (fun e' he' => hquiet e' (List.mem_append_left _ he')) hpre

lemma put_prefix (buffer : WireBytes) (outcome : SendOutcome) : outcome.put buffer <+: buffer := by
  cases outcome with
  | completed => exact List.prefix_refl buffer
  | failed n => exact List.take_prefix n buffer

/-- What a send adds. -/
lemma sendEvents_spec (isHeader : Bool) (buffer : WireBytes) (outcome : SendOutcome) :
    (sendEvents isHeader buffer outcome).flatMap WireEvent.handed = buffer ∧
    (sendEvents isHeader buffer outcome).flatMap WireEvent.handedBody =
      (if isHeader then [] else buffer) ∧
    (sendEvents isHeader buffer outcome).flatMap WireEvent.put <+: buffer ∧
    (sendEvents isHeader buffer outcome).countP WireEvent.isHeaderSend ≤
      if isHeader then 1 else 0 := by
  unfold sendEvents
  by_cases hbuffer : buffer = []
  · subst hbuffer
    cases isHeader <;> simp
  · rw [if_neg hbuffer]
    refine ⟨List.append_nil _, ?_, ?_, ?_⟩
    · cases isHeader <;> simp [WireEvent.handedBody]
    · show outcome.put buffer ++ [] <+: buffer
      rw [List.append_nil]
      exact put_prefix buffer outcome
    · cases isHeader <;> simp [WireEvent.isHeaderSend]

/-- Prefixes of a longer log that end in a send, where the log before it is in time. -/
lemma inTime_send {deadline : Option ℚ} {log : List WireEvent} {isHeader : Bool}
    {buffer : WireBytes} {outcome : SendOutcome}
    (h : ∀ pre e, pre ++ [e] <+: log → e.isSend = true → InTime deadline pre)
    (hlog : InTime deadline log) : ∀ pre e, pre ++ [e] <+: log ++ sendEvents isHeader buffer outcome →
      e.isSend = true → InTime deadline pre := by
  intro pre e hpre hsend
  unfold sendEvents at hpre
  split_ifs at hpre
  · rw [List.append_nil] at hpre
    exact h pre e hpre hsend
  · rcases List.prefix_concat_iff.mp hpre with heq | hpre
    · rw [(List.append_inj' heq rfl).1]
      exact hlog
    · exact h pre e hpre hsend

section

variable {s t m : WireStream}

lemma Ledger.refused (h : Ledger s) (hrefused : Refused s t) : Ledger t := by
  obtain ⟨hsame, ⟨events, hlog, hquiet⟩, hattempted⟩ := hrefused
  obtain ⟨hhanded, hbody, -, hcount⟩ := quiet_events hquiet
  rw [hsame] at hlog hattempted ⊢
  constructor
  · show List.flatMap _ _ = _
    rw [show t.log = _ from hlog, List.flatMap_append, hhanded, List.append_nil]
    exact h.handed
  · exact h.offset
  · exact hattempted.trans h.attempted
  · show (List.flatMap _ t.log).length = _
    rw [show t.log = _ from hlog, List.flatMap_append, hbody, List.append_nil]
    exact h.counted
  · show List.countP _ t.log ≤ _
    rw [show t.log = _ from hlog, List.countP_append, hcount, Nat.add_zero]
    exact h.once
  · show ∀ pre e, pre ++ [e] <+: t.log → _
    rw [show t.log = _ from hlog]
    exact inTime_quiet h.inTime hquiet
  · intro hemitted
    show InTime _ t.log
    rw [show t.log = _ from hlog]
    exact (h.emitted hemitted).append events

/-- The header block is sent once, in time. -/
lemma Ledger.header {buffer : WireBytes} {now : ℚ} {outcome : SendOutcome} (h : Ledger s)
    (hemitted : s.headersEmitted = false) (hbegun : HeadersBegun buffer now s m)
    (hsent : Sent true buffer outcome m t) : Ledger t := by
  obtain ⟨hfirst, rfl, ⟨deadline, hdeadline, hnow⟩, hlog, hattempted⟩ := hbegun
  obtain ⟨hsecond, hlog', hattempted'⟩ := hsent
  rw [hlog] at hlog'
  rw [hattempted, h.attempted, h.offset hemitted] at hattempted'
  have hsame : t = { s with headersEmitted := true, facts := t.facts, log := t.log } := by
    rw [hfirst] at hsecond
    exact hsecond
  obtain ⟨hhanded, hbody, -, hcount⟩ := sendEvents_spec true s.headers outcome
  have hlease : InTime s.sendDeadline (s.log ++ [.leaseReturned, .clock now]) :=
    ⟨s.log, [], [], now, deadline, by simp, hdeadline, hnow⟩
  have hbefore : s.log.flatMap WireEvent.handed = [] := by simpa [hemitted] using h.handed
  have hbodyBefore : (s.log.flatMap WireEvent.handedBody).length = 0 := by
    rw [h.counted, h.offset hemitted]
  have honce : s.log.countP WireEvent.isHeaderSend = 0 := by simpa [hemitted] using h.once
  rw [hsame]
  constructor
  · show List.flatMap _ t.log = s.headers ++ s.body.take s.bodyOffset
    rw [hlog', List.flatMap_append, List.flatMap_append, hbefore, hhanded, h.offset hemitted]
    simp [WireEvent.handed]
  · exact fun hfalse => nomatch hfalse
  · show t.facts.bodyEmissionAttemptedBytes = s.bodyOffset
    rw [hattempted', h.offset hemitted]
  · show (List.flatMap _ t.log).length = s.bodyOffset
    rw [hlog', List.flatMap_append, List.flatMap_append, hbody, List.length_append,
      List.length_append, hbodyBefore, h.offset hemitted]
    simp [WireEvent.handedBody]
  · show List.countP _ t.log ≤ 1
    rw [hlog', List.countP_append, List.countP_append, honce]
    simpa [WireEvent.isHeaderSend] using hcount
  · show ∀ pre e, pre ++ [e] <+: t.log → _
    rw [hlog']
    exact inTime_send (inTime_quiet h.inTime (by simp [WireEvent.isSend])) hlease
  · intro _
    show InTime _ t.log
    rw [hlog']
    exact hlease.append _

/-- A part of the body is sent after the headers. -/
lemma Ledger.body {buffer : WireBytes} {outcome : SendOutcome} (h : Ledger s)
    (hemitted : s.headersEmitted = true) (hbegun : BodyBegun buffer s m)
    (hsent : Sent false buffer outcome m t) : Ledger t := by
  obtain ⟨hfirst, ⟨rest, hnext⟩, hattempted⟩ := hbegun
  obtain ⟨hsecond, hlog, hattempted'⟩ := hsent
  rw [hattempted] at hattempted'
  have hsame : t = { s with
      bodyOffset := s.bodyOffset + buffer.length, facts := t.facts, log := t.log } := by
    rw [hfirst] at hsecond
    exact hsecond
  have hlog' : t.log = s.log ++ sendEvents false buffer outcome := by
    rw [hlog, hfirst]
  obtain ⟨hhanded, hbody, -, hcount⟩ := sendEvents_spec false buffer outcome
  have htake : s.body.take (s.bodyOffset + buffer.length) = s.body.take s.bodyOffset ++ buffer := by
    rw [List.take_add, ← hnext, List.take_left]
  have hbefore := h.handed
  rw [if_pos hemitted] at hbefore
  rw [hsame]
  constructor
  · show List.flatMap _ t.log = if s.headersEmitted then _ else _
    rw [if_pos hemitted, hlog', List.flatMap_append, hbefore, hhanded, htake, List.append_assoc]
  · intro hfalse
    cases hfalse.symm.trans hemitted
  · exact hattempted'
  · show (List.flatMap _ t.log).length = _
    rw [hlog', List.flatMap_append, hbody, List.length_append, h.counted]
    rfl
  · show List.countP _ t.log ≤ if s.headersEmitted then 1 else 0
    rw [hlog', List.countP_append]
    exact Nat.add_le_add h.once hcount
  · show ∀ pre e, pre ++ [e] <+: t.log → _
    rw [hlog']
    exact inTime_send h.inTime (h.emitted hemitted)
  · intro _
    show InTime _ t.log
    rw [hlog']
    exact (h.emitted hemitted).append _

lemma Ledger.next (h : Ledger s) (a : WireInput) : Ledger (wireMachine.next s a) := by
  cases a with
  | write w =>
      show Ledger ((write w).run s).2
      cases write_step s w with
      | refused hrefused => exact h.refused hrefused
      | header hemitted hbegun hsent =>
          exact h.header hemitted hbegun hsent
      | body hcontinues hbegun hsent => exact h.body hcontinues.2.2.2.2.1 hbegun hsent
  | aclose => exact ⟨h.handed, h.offset, h.attempted, h.counted, h.once, h.inTime, h.emitted⟩
  | acloseOwner =>
      exact ⟨h.handed, h.offset, h.attempted, h.counted, h.once, h.inTime, h.emitted⟩
  | armSendDeadline absoluteMonotonic =>
      show Ledger ((armSendDeadline absoluteMonotonic).run s).2
      unfold armSendDeadline
      rw [Program.run_get_bind]
      by_cases hrefused : (s.ownerEntered || s.sendDeadline.isSome) = true
      · rw [if_pos hrefused]
        exact h
      · rw [if_neg hrefused]
        have hnone : s.sendDeadline = none := by
          cases hdeadline : s.sendDeadline with
          | none => rfl
          | some deadline =>
              rw [hdeadline, Option.isSome_some, Bool.or_true] at hrefused
              exact absurd rfl hrefused
        have hlate : ∀ log, ¬ InTime s.sendDeadline log := by
          rintro log ⟨_, _, _, _, _, -, hsome, -⟩
          cases hnone.symm.trans hsome
        cases absoluteMonotonic with
        | none => exact h
        | some deadline =>
            exact ⟨h.handed, h.offset, h.attempted, h.counted, h.once,
              fun pre e hpre hsend => absurd (h.inTime pre e hpre hsend) (hlate pre),
              fun hemitted => absurd (h.emitted hemitted) (hlate s.log)⟩

end

/-- The request of a stream never changes. -/
lemma request_next (s : WireStream) (a : WireInput) :
    (wireMachine.next s a).headers = s.headers ∧ (wireMachine.next s a).body = s.body := by
  cases a with
  | write w =>
      show ((write w).run s).2.headers = s.headers ∧ ((write w).run s).2.body = s.body
      cases write_step s w with
      | refused hrefused => exact hrefused.same ▸ ⟨rfl, rfl⟩
      | header hemitted hbegun hsent =>
          rw [hsent.same, hbegun.same]
          exact ⟨rfl, rfl⟩
      | body hcontinues hbegun hsent =>
          rw [hsent.same, hbegun.same]
          exact ⟨rfl, rfl⟩
  | aclose => exact ⟨rfl, rfl⟩
  | acloseOwner => exact ⟨rfl, rfl⟩
  | armSendDeadline absoluteMonotonic =>
      show ((armSendDeadline absoluteMonotonic).run s).2.headers = s.headers ∧
        ((armSendDeadline absoluteMonotonic).run s).2.body = s.body
      unfold armSendDeadline
      rw [Program.run_get_bind]
      split_ifs
      · exact ⟨rfl, rfl⟩
      · cases absoluteMonotonic <;> exact ⟨rfl, rfl⟩

/-! ## The request on the wire -/

/-- The stream lets through a part of the body while bytes of an earlier send are missing from the
socket. -/
def Resumes (e : Stage WireStream WireInput (Except WireError Unit)) : Prop :=
  ∃ w buffer, e.input = .write w ∧ Continues e.before w buffer ∧ buffer ≠ [] ∧ ¬ e.before.Complete

/-- A stream that has not been written to. -/
def WireStream.opened (headers body : WireBytes) (ownerClosed ownerEntered : Bool)
    (sendDeadline : Option ℚ) : WireStream :=
  { headers, body, ownerClosed, ownerEntered, sendDeadline }

section

variable {s t : WireStream}

lemma ledger_opened (headers body : WireBytes) (ownerClosed ownerEntered : Bool)
    (sendDeadline : Option ℚ) :
    Ledger (WireStream.opened headers body ownerClosed ownerEntered sendDeadline) where
  handed := rfl
  offset _ := rfl
  attempted := rfl
  counted := rfl
  once := le_refl _
  inTime pre e hpre _ := by
    have hlength := hpre.length_le
    rw [List.length_append] at hlength
    exact absurd hlength (by simp [WireStream.opened])
  emitted hfalse := nomatch hfalse

/-- The socket holds a prefix of what was handed over. -/
def WireStream.InOrder (s : WireStream) : Prop := s.wire <+: s.log.flatMap WireEvent.handed

lemma wire_of_complete (h : s.Complete) : s.wire = s.log.flatMap WireEvent.handed :=
  List.flatMap_congr h

lemma inOrder_sent {isHeader : Bool} {buffer : WireBytes} {outcome : SendOutcome}
    {log : List WireEvent} (hwhole : log.flatMap WireEvent.put = log.flatMap WireEvent.handed)
    (hlog : t.log = log ++ sendEvents isHeader buffer outcome) : t.InOrder := by
  obtain ⟨hhanded, -, hput, -⟩ := sendEvents_spec isHeader buffer outcome
  rw [WireStream.InOrder, WireStream.wire, hlog, List.flatMap_append, List.flatMap_append, hwhole,
    hhanded]
  exact (List.prefix_append_right_inj _).mpr hput

lemma inOrder_write {w : WriteCall} (h : Ledger s) (horder : s.InOrder)
    (hresumes : ∀ buffer, Continues s w buffer → buffer ≠ [] → s.Complete)
    (hstep : WriteStep s w t) : t.InOrder := by
  cases hstep with
  | refused hrefused =>
      obtain ⟨events, hlog, hquiet⟩ := hrefused.quiet
      obtain ⟨hhanded, -, hput, -⟩ := quiet_events hquiet
      rw [WireStream.InOrder, WireStream.wire, hlog, List.flatMap_append, List.flatMap_append, hput,
        hhanded, List.append_nil, List.append_nil]
      exact horder
  | @header buffer m hemitted hbegun hsent =>
      have hnone : s.log.flatMap WireEvent.handed = [] := by
        rw [h.handed, hemitted]
        rfl
      have hwire : s.log.flatMap WireEvent.put = [] := by
        have hempty := horder
        rw [WireStream.InOrder, hnone, List.prefix_nil] at hempty
        exact hempty
      have hlog : t.log = (s.log ++ [.leaseReturned, .clock w.now]) ++
          sendEvents true buffer w.outcome := by
        rw [hsent.log, hbegun.log]
      refine inOrder_sent ?_ hlog
      rw [List.flatMap_append, List.flatMap_append, hwire, hnone]
      rfl
  | @body buffer m hcontinues hbegun hsent =>
      have hlog : t.log = s.log ++ sendEvents false buffer w.outcome := by
        rw [hsent.log, hbegun.same]
      by_cases hbuffer : buffer = []
      · rw [hbuffer, sendEvents, if_pos rfl, List.append_nil] at hlog
        rw [WireStream.InOrder, WireStream.wire, hlog]
        exact horder
      · exact inOrder_sent (wire_of_complete (hresumes buffer hcontinues hbuffer)) hlog

lemma inOrder_next (h : Ledger s ∧ s.InOrder) (a : WireInput)
    (hresumes : ¬ Resumes (wireMachine.stage s a)) :
    Ledger (wireMachine.next s a) ∧ (wireMachine.next s a).InOrder := by
  refine ⟨h.1.next a, ?_⟩
  cases a with
  | write w =>
      refine inOrder_write h.1 h.2 (fun buffer hcontinues hbuffer => ?_) (write_step s w)
      by_contra hmissing
      exact hresumes ⟨w, buffer, rfl, hcontinues, hbuffer, hmissing⟩
  | aclose => exact h.2
  | acloseOwner => exact h.2
  | armSendDeadline absoluteMonotonic =>
      show ((armSendDeadline absoluteMonotonic).run s).2.InOrder
      unfold armSendDeadline
      rw [Program.run_get_bind]
      split_ifs
      · exact h.2
      · cases absoluteMonotonic <;> exact h.2

end

/-- Whatever is written and however the lease, the clock and the socket answer: nothing is sent
unless the lease was consumed and a later reading of the clock was before the deadline, the header
block is sent at most once, and the attempted bytes of the body are those handed to the socket
layer.  The bytes on the socket are a prefix of the header block and the body as long as no write
goes on after a send that left bytes behind. -/
theorem write_law (headers body : WireBytes) (ownerClosed ownerEntered : Bool)
    (sendDeadline : Option ℚ) (inputs : List WireInput) :
    let start := WireStream.opened headers body ownerClosed ownerEntered sendDeadline
    let s := wireMachine.run start inputs
    (∀ pre e, pre ++ [e] <+: s.log → e.isSend = true → InTime s.sendDeadline pre) ∧
      s.log.countP WireEvent.isHeaderSend ≤ 1 ∧
      s.facts.bodyEmissionAttemptedBytes = (s.log.flatMap WireEvent.handedBody).length ∧
      ((∀ e ∈ wireMachine.trace start inputs, ¬ Resumes e) → s.wire <+: headers ++ body) := by
  intro start s
  have hledger : Ledger s := by
    have hpreserved : wireMachine.Preserved Ledger := fun s a h => h.next a
    exact hpreserved.run (ledger_opened ..) inputs
  refine ⟨hledger.inTime, hledger.once.trans (by split_ifs <;> decide),
    hledger.attempted.trans hledger.counted.symm, fun hresumes => ?_⟩
  have hrequest : s.headers = headers ∧ s.body = body := by
    have hpreserved : wireMachine.Preserved fun s => s.headers = headers ∧ s.body = body := by
      intro s a h
      rw [(request_next s a).1, (request_next s a).2]
      exact h
    exact hpreserved.run ⟨rfl, rfl⟩ inputs
  have horder : s.InOrder := by
    have hrun := @Machine.run_of_forall_stage _ _ _ wireMachine (fun s => Ledger s ∧ s.InOrder)
      (fun e => ¬ Resumes e) (fun s a h hC => inOrder_next h a hC) start
      ⟨ledger_opened .., List.prefix_refl _⟩ inputs hresumes
    exact hrun.2
  refine horder.trans ?_
  rw [hledger.handed, hrequest.1, hrequest.2]
  split_ifs
  · exact (List.prefix_append_right_inj headers).mpr (List.take_prefix _ body)
  · exact List.nil_prefix

/-- A stream whose deadline is armed, with a request of two header bytes and two body bytes. -/
def sampleStream : WireStream := .opened [1, 2] [3, 4] false true (some 10)

/-- A request in three writes, the last of which fails. -/
theorem write_law_split : (wireMachine.run sampleStream [.write { buffer := some [1, 2] },
    .write { buffer := some [3] },
    .write { buffer := some [4], outcome := .failed 0 }]).wire <+: [1, 2] ++ [3, 4] := by
  have hcomplete : ∀ e ∈ wireMachine.trace sampleStream [.write { buffer := some [1, 2] },
      .write { buffer := some [3] }, .write { buffer := some [4], outcome := .failed 0 }],
      ∀ event ∈ e.before.log, event.put = event.handed := by decide
  refine (write_law [1, 2] [3, 4] false true (some 10) _).2.2.2 fun e he => ?_
  rintro ⟨w, buffer, -, -, -, hmissing⟩
  exact hmissing (hcomplete e he)

/-- The headers are cut off by a failed send, and the body goes on. -/
theorem not_prefix_resumedWrite : ∃ inputs,
    ¬ (wireMachine.run sampleStream inputs).wire <+: [1, 2] ++ [3, 4] := by
  refine ⟨[.write { buffer := some [1, 2], outcome := .failed 1 }, .write { buffer := some [3] }], ?_⟩
  decide

end CivicGate.Harness
