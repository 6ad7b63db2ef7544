import CivicGate.Framework.Slots
import CivicGate.Mcp.HttpApp

/-!
# The session gate holds

`GateStep` lists what one step can do.  Every session in the table was created by a successful
answer to a request without one (`Created`), and every session initialized had an initialized
notification answered 202 (`Notified`); a call past admission keeps what its arrival checked.

A successful answer that names the session of its request enters the session into the table,
whether or not it was deleted since the request was checked (`Revives`); the result about
deleted sessions is about runs without such an answer.
-/

namespace CivicGate.Mcp

variable {app : GatewayApp} {s t : AppState}

/-! ## What a step can do -/

/-- The call has not ended. -/
def Call.isLive (call : Call) : Bool := call.phase ≠ .ended

/-- What one step can do. -/
inductive GateStep (app : GatewayApp) (s : AppState) : AppInput → AppState → AppOutput → Prop
  | same {input} (hinput : ∀ a, input ≠ .arrive a) : GateStep app s input s .nothing
  | refused {a r} : GateStep app s (.arrive a) s (.rejected r)
  | purged {a caller r} (hidentify : app.identify a = .ok caller) :
      GateStep app s (.arrive a) (s.purge a.clock) (.rejected r)
  | admitted {a caller} (hidentify : app.identify a = .ok caller)
      (hadmission : (s.purge a.clock).admission caller = .ok ()) :
      GateStep app s (.arrive a)
        { s.purge a.clock with
          inflight := s.inflight + 1
          calls := s.calls ++ [⟨caller, [], .reading⟩] }
        (.admitted s.calls.length)
  | read {place r request call body phase out} (hcall : s.calls[place]? = some call)
      (hreading : call.phase = .reading) (hphase : phase = .reading ∨ phase = .rejecting)
      (hout : ∀ context message, out ≠ .forwarded context message) :
      GateStep app s (.receive place r request)
        (s.setCall place { call with body, phase }) out
  | forwarded {place r request call body flag message} (hcall : s.calls[place]? = some call)
      (hreading : call.phase = .reading)
      (hmessage : ∀ parsed, message = some parsed →
        app.examine s.initialized call.caller.session body = some (parsed, flag))
      (hflag : message = none → flag = false) :
      GateStep app s (.receive place r request)
        (s.setCall place { call with body, phase := .forwarded flag })
        (.forwarded (call.caller.context request) message)
  | answered {place status sessionIds call flag} (hcall : s.calls[place]? = some call)
      (hphase : call.phase = .forwarded flag) :
      GateStep app s (.answer place status sessionIds)
        ((s.boundSend call.caller flag status sessionIds).setCall place
          { call with phase := .answered }) .answered
  | left {input place call} (hinput : ∀ a, input ≠ .arrive a)
      (hcall : s.calls[place]? = some call) (hlive : call.isLive = true) :
      GateStep app s input (s.leave place call) .nothing

lemma arrive_step (app : GatewayApp) (s : AppState) (a : Arrival) :
    GateStep app s (.arrive a) (app.arrive s a).1 (app.arrive s a).2 := by
  unfold GatewayApp.arrive
  split
  · exact .refused
  · rename_i caller hidentify
    dsimp only
    split
    · exact .purged hidentify
    · rename_i hadmission
      exact .admitted hidentify hadmission

lemma forward_step {place : ℕ} {call : Call} {r : Received} (hcall : s.calls[place]? = some call)
    (hreading : call.phase = .reading) (body : Bytes) (request : String) :
    GateStep app s (.receive place r request) (app.forward s place call body request).1
      (app.forward s place call body request).2 := by
  unfold GatewayApp.forward
  split
  · exact .forwarded hcall hreading nofun fun _ => rfl
  · split
    · exact .read hcall hreading (.inr rfl) nofun
    · rename_i parsed flag hexamine
      exact .forwarded hcall hreading (fun _ h => Option.some.inj h ▸ hexamine) nofun

lemma receive_step {place : ℕ} {call : Call} (hcall : s.calls[place]? = some call)
    (hreading : call.phase = .reading) (r : Received) (request : String) :
    GateStep app s (.receive place r request) (app.receive s place call r request).1
      (app.receive s place call r request).2 := by
  unfold GatewayApp.receive
  split
  · exact .left nofun hcall (by simp [Call.isLive, hreading])
  · exact .read hcall hreading (.inr rfl) nofun
  · dsimp only
    split
    · exact .read hcall hreading (.inr rfl) nofun
    · split
      · exact .read hcall hreading (.inl hreading) nofun
      · exact forward_step hcall hreading _ _

lemma step_next (app : GatewayApp) (s : AppState) (input : AppInput) :
    GateStep app s input (app.machine.next s input) (app.machine.out s input) := by
  cases input with
  | arrive a => exact arrive_step app s a
  | receive place r request =>
      simp only [Machine.next, Machine.out, GatewayApp.machine]
      split
      · rename_i call hcall
        split
        · rename_i hreading
          exact receive_step hcall hreading r request
        · exact .same nofun
      · exact .same nofun
  | answer place status sessionIds =>
      simp only [Machine.next, Machine.out, GatewayApp.machine]
      split
      · rename_i call hcall
        split
        · rename_i flag hphase
          exact .answered hcall hphase
        · exact .same nofun
      · exact .same nofun
  | finish place =>
      simp only [Machine.next, Machine.out, GatewayApp.machine]
      split
      · rename_i call hcall
        split
        · exact .same nofun
        · rename_i hphase
          exact .left nofun hcall (by simp [Call.isLive, hphase])
      · exact .same nofun

/-! ### Tables -/

lemma lookup_unexpired {sessions : AList fun _ : String => Owner} {clock : String → ℚ}
    {w : String} {o : Owner} :
    (unexpired sessions clock).lookup w = some o ↔
      sessions.lookup w = some o ∧ clock w < o.expiresAt := by
  rw [← Option.mem_def, ← Option.mem_def, AList.mem_lookup_iff, AList.mem_lookup_iff, unexpired,
    List.mem_filter, decide_eq_true_iff]

/-- What a session header enters. -/
lemma lookup_foldl_insert {owner o : Owner} {w : String} : ∀ {ids : List String}
    {sessions : AList fun _ : String => Owner},
    (ids.foldl (fun sessions id => sessions.insert id owner) sessions).lookup w = some o →
      sessions.lookup w = some o ∨ (w ∈ ids ∧ o = owner)
  | [], _, h => .inl h
  | id :: ids, sessions, h => by
    rw [List.foldl_cons] at h
    rcases lookup_foldl_insert h with h | ⟨hmem, ho⟩
    · by_cases hid : w = id
      · rw [hid, AList.lookup_insert] at h
        exact .inr ⟨hid ▸ List.mem_cons_self .., (Option.some.inj h).symm⟩
      · rw [AList.lookup_insert_ne hid] at h
        exact .inl h
    · exact .inr ⟨List.mem_cons_of_mem _ hmem, ho⟩

/-- The sessions after an answer. -/
lemma boundSend_lookup {c : Caller} {flag : Bool} {status : ℤ} {ids : List String} {w : String}
    {o : Owner} (h : (s.boundSend c flag status ids).sessions.lookup w = some o) :
    s.sessions.lookup w = some o ∨ (isSuccess status = true ∧ w ∈ ids ∧ o = c.owner) := by
  unfold AppState.boundSend at h
  dsimp only at h
  split at h
  · rename_i hsuccess
    have hinserted : (ids.foldl (fun sessions id => sessions.insert id c.owner)
        s.sessions).lookup w = some o := by
      split at h
      · by_cases hw : w = c.session
        · rw [hw, AList.lookup_erase] at h
          cases h
        · rwa [AList.lookup_erase_ne hw] at h
      · exact h
    rcases lookup_foldl_insert hinserted with hold | ⟨hmem, ho⟩
    · exact .inl hold
    · exact .inr ⟨hsuccess, hmem, ho⟩
  · exact .inl h

/-- A session deleted with success is gone. -/
lemma boundSend_deleted {c : Caller} {flag : Bool} {status : ℤ} {ids : List String}
    (hsuccess : isSuccess status = true) (hmethod : c.method = .delete) :
    (s.boundSend c flag status ids).sessions.lookup c.session = none := by
  unfold AppState.boundSend
  rw [if_pos hsuccess, if_pos hmethod]
  exact AList.lookup_erase _ _

/-- The sessions initialized after an answer. -/
lemma boundSend_initialized {c : Caller} {flag : Bool} {status : ℤ} {ids : List String}
    {w : String} (h : w ∈ (s.boundSend c flag status ids).initialized) :
    w ∈ s.initialized ∨ (flag = true ∧ status = 202 ∧ w = c.session) := by
  have hadded : w ∈ (if flag && status = 202 then insert c.session s.initialized
      else s.initialized) := by
    unfold AppState.boundSend at h
    dsimp only at h
    split at h
    · split at h
      · exact Finset.mem_of_mem_erase h
      · exact h
    · exact h
  split at hadded
  · rename_i hflag
    rw [Bool.and_eq_true, decide_eq_true_iff] at hflag
    rcases Finset.mem_insert.mp hadded with hw | hw
    · exact .inr ⟨hflag.1, hflag.2, hw⟩
    · exact .inl hw
  · exact .inl hadded

lemma boundSend_calls (s : AppState) (c : Caller) (flag : Bool) (status : ℤ) (ids : List String) :
    (s.boundSend c flag status ids).calls = s.calls ∧
      (s.boundSend c flag status ids).inflight = s.inflight := by
  unfold AppState.boundSend
  dsimp only
  split
  · split
    · exact ⟨rfl, rfl⟩
    · exact ⟨rfl, rfl⟩
  · exact ⟨rfl, rfl⟩

/-! ## Where sessions come from -/

/-- A stage of a run of the gate. -/
abbrev GateStage := Stage AppState AppInput AppOutput

/-- The stage is an answer to a forwarded call. -/
def Answers (e : GateStage) (call : Call) (flag : Bool) (status : ℤ) (ids : List String) : Prop :=
  ∃ place, e.input = .answer place status ids ∧ e.output = .answered ∧
    e.before.calls[place]? = some call ∧ call.phase = .forwarded flag

/-- A successful answer to a request without a session created it for this owner. -/
def Created (xs : List GateStage) (w : String) (owner : Owner) : Prop :=
  ∃ d ∈ xs, ∃ call flag status ids, Answers d call flag status ids ∧ isSuccess status = true ∧
    w ∈ ids ∧ call.caller.session = "" ∧ call.caller.owner = owner

/-- An initialized notification of the session was forwarded for the call at a place. -/
def Sent (xs : List GateStage) (place : ℕ) (w : String) : Prop :=
  ∃ f ∈ xs, ∃ r request context message, f.input = .receive place r request ∧
    f.output = .forwarded context (some message) ∧
    hasMethod message "notifications/initialized" = true ∧ context.session = w

/-- An initialized notification of the session was answered 202. -/
def Notified (xs : List GateStage) (w : String) : Prop :=
  ∃ i ∈ xs, ∃ place ids, i.input = .answer place 202 ids ∧ i.output = .answered ∧ Sent xs place w

/-- The stage admitted the caller at a place, unexpired and as the owner of its session, or without
one. -/
def Arrived (app : GatewayApp) (ys : List GateStage) (a : GateStage) (place : ℕ)
    (caller : Caller) : Prop :=
  ∃ arrival, a.input = .arrive arrival ∧ a.output = .admitted place ∧
    app.identify arrival = .ok caller ∧ (caller.session ≠ "" →
      arrival.clock caller.session < caller.claims.exp ∧
        Created ys caller.session caller.owner) ∧
    (caller.session = "" → caller.method = .post)

lemma Created.mono {xs ys : List GateStage} {w : String} {owner : Owner}
    (h : Created xs w owner) : Created (xs ++ ys) w owner := by
  obtain ⟨d, hd, hrest⟩ := h
  exact ⟨d, List.mem_append_left _ hd, hrest⟩

lemma Sent.mono {xs ys : List GateStage} {place : ℕ} {w : String} (h : Sent xs place w) :
    Sent (xs ++ ys) place w := by
  obtain ⟨f, hf, hrest⟩ := h
  exact ⟨f, List.mem_append_left _ hf, hrest⟩

lemma Notified.mono {xs ys : List GateStage} {w : String} (h : Notified xs w) :
    Notified (xs ++ ys) w := by
  obtain ⟨i, hi, place, ids, hinput, hout, hsent⟩ := h
  exact ⟨i, List.mem_append_left _ hi, place, ids, hinput, hout, hsent.mono⟩

/-- What the stages so far say of the state. -/
structure Explained (app : GatewayApp) (xs : List GateStage) (s : AppState) : Prop where
  owner : ∀ w o, s.sessions.lookup w = some o → Created xs w o
  initialized : ∀ w ∈ s.initialized, Notified xs w
  caller : Slots.All (fun place call => ∃ ys a zs, xs = ys ++ a :: zs ∧
    Arrived app ys a place call.caller) s.calls
  sent : Slots.All (fun place call => call.phase = .forwarded true →
    Sent xs place call.caller.session) s.calls

lemma explained_initial (app : GatewayApp) : Explained app [] .initial where
  owner := by simp [AppState.initial]
  initialized := by simp [AppState.initial]
  caller := Slots.all_nil _
  sent := Slots.all_nil _

/-- A request is admitted as the owner of the session it names. -/
lemma admission_eq_ok {c : Caller} (h : s.admission c = .ok ()) :
    (c.session ≠ "" → s.sessions.lookup c.session = some c.owner) ∧
      (c.session = "" → c.method = .post) ∧ s.inflight < maxInflight := by
  unfold AppState.admission at h
  simp only [Except.bind_eq_ok, ensure_eq_ok, Bool.or_eq_true, decide_eq_true_eq,
    Bool.and_eq_true] at h
  obtain ⟨-, hsession, -, hroom, hinflight⟩ := h
  refine ⟨fun hne => hsession.resolve_left hne, fun heq => ?_, hinflight⟩
  exact (hroom.resolve_left fun hne => hne heq).1

/-- A message that initializes its session is an initialized notification. -/
lemma examine_eq_true {initialized : Finset String} {session : String} {body : Bytes}
    {parsed : Json} (h : app.examine initialized session body = some (parsed, true)) :
    hasMethod parsed "notifications/initialized" = true := by
  unfold GatewayApp.examine at h
  split at h
  · dsimp only at h
    split at h
    · cases h
    · split at h
      · split at h <;> cases h
      · split at h
        · cases h
        · split at h
          · rename_i hmethod
            split at h
            · cases h
            · cases h
              exact hmethod
          · split at h <;> cases h
  · cases h

/-- Any other message than `initialize` and `ping` is of an initialized session. -/
lemma examine_governed {initialized : Finset String} {session : String} {body : Bytes}
    {parsed : Json} {flag : Bool}
    (h : app.examine initialized session body = some (parsed, flag))
    (hmethod : ∀ method ∈ ["initialize", "ping", "notifications/initialized"],
      hasMethod parsed method = false) : session ≠ "" ∧ session ∈ initialized := by
  simp only [List.forall_mem_cons, List.not_mem_nil, false_imp_iff, implies_true,
    and_true] at hmethod
  obtain ⟨hfirst, hping, hnotification⟩ := hmethod
  unfold GatewayApp.examine at h
  split at h
  · dsimp only at h
    split at h
    · cases h
    · split at h
      · split at h
        · cases h
          rename_i hyes
          rw [hfirst] at hyes
          cases hyes
        · cases h
      · rename_i hsession
        refine ⟨hsession, ?_⟩
        split at h
        · cases h
        · split at h
          · rename_i hyes
            split at h
            · cases h
            · cases h
              rw [hnotification] at hyes
              cases hyes
          · split at h
            · rename_i hyes
              cases h
              rw [hping, Bool.or_false, decide_eq_true_iff] at hyes
              exact hyes
            · cases h
  · cases h

/-- The SDK names the request's own session, or one not named before. -/
def Fresh (xs : List GateStage) (e : GateStage) : Prop :=
  ∀ call flag status ids, Answers e call flag status ids → ∀ id ∈ ids,
    id = call.caller.session ∨ (call.caller.session = "" ∧
      ∀ d ∈ xs, ∀ call' flag' status' ids', Answers d call' flag' status' ids' → id ∉ ids')

lemma Explained.step {xs : List GateStage} {input : AppInput} {out : AppOutput}
    (h : Explained app xs s) (hfresh : Fresh xs ⟨s, input, out, t⟩)
    (hstep : GateStep app s input t out) :
    Explained app (xs ++ [⟨s, input, out, t⟩]) t := by
  have hcaller : Slots.All (fun place call => ∃ ys a zs,
      xs ++ [⟨s, input, out, t⟩] = ys ++ a :: zs ∧ Arrived app ys a place call.caller) s.calls :=
    h.caller.imp fun _ _ _ ⟨ys, a, zs, hxs, ha⟩ =>
      ⟨ys, a, zs ++ [⟨s, input, out, t⟩], by rw [hxs, List.append_assoc, List.cons_append], ha⟩
  have hsent : Slots.All (fun place call => call.phase = .forwarded true →
      Sent (xs ++ [⟨s, input, out, t⟩]) place call.caller.session) s.calls :=
    h.sent.imp fun _ _ _ hcall hphase => (hcall hphase).mono
  have howner (w : String) (o : Owner) (ho : s.sessions.lookup w = some o) :
      Created (xs ++ [⟨s, input, out, t⟩]) w o := (h.owner w o ho).mono
  have hinitialized (w : String) (hw : w ∈ s.initialized) :
      Notified (xs ++ [⟨s, input, out, t⟩]) w := (h.initialized w hw).mono
  -- The call at a place changes, and keeps its caller.
  have hset {place : ℕ} {call call' : Call} (hcall : s.calls[place]? = some call)
      (hsame : call'.caller = call.caller) :
      Slots.All (fun place call => ∃ ys a zs, xs ++ [⟨s, input, out, t⟩] = ys ++ a :: zs ∧
        Arrived app ys a place call.caller) (s.calls.set place call') :=
    hcaller.set (fun _ _ _ _ hold => hold) (by rw [hsame]; exact hcaller _ _ hcall)
  have hkeep {place : ℕ} {call' : Call} (hphase : call'.phase ≠ .forwarded true) :
      Slots.All (fun place call => call.phase = .forwarded true →
        Sent (xs ++ [⟨s, input, out, t⟩]) place call.caller.session) (s.calls.set place call') :=
    hsent.set (fun _ _ _ _ hold => hold) fun hcontra => absurd hcontra hphase
  cases hstep with
  | same => exact ⟨howner, hinitialized, hcaller, hsent⟩
  | refused => exact ⟨howner, hinitialized, hcaller, hsent⟩
  | purged =>
      exact ⟨fun w o ho => howner w o (lookup_unexpired.mp ho).1,
        fun w hw => hinitialized w (Finset.mem_filter.mp hw).1, hcaller, hsent⟩
  | @admitted a caller hidentify hadmission =>
      refine ⟨fun w o ho => howner w o (lookup_unexpired.mp ho).1,
        fun w hw => hinitialized w (Finset.mem_filter.mp hw).1,
        hcaller.concat (fun _ _ _ hold => hold) ?_, hsent.concat (fun _ _ _ hold => hold) nofun⟩
      refine ⟨xs, _, [], rfl, a, rfl, rfl, hidentify, fun hne => ?_,
        (admission_eq_ok hadmission).2.1⟩
      obtain ⟨howned, hlive⟩ := lookup_unexpired.mp ((admission_eq_ok hadmission).1 hne)
      exact ⟨hlive, h.owner _ _ howned⟩
  | read hcall hreading hphase =>
      refine ⟨howner, hinitialized, hset hcall rfl, hkeep ?_⟩
      rcases hphase with hphase | hphase
      · rw [hphase]; nofun
      · rw [hphase]; nofun
  | @forwarded place r request call body flag message hcall hreading hmessage hflag =>
      refine ⟨howner, hinitialized, hset hcall rfl, hsent.set (fun _ _ _ _ hold => hold) ?_⟩
      intro hphase
      obtain rfl := CallPhase.forwarded.inj hphase
      cases message with
      | none => cases hflag rfl
      | some parsed =>
          exact ⟨_, List.mem_append_right _ (List.mem_singleton.mpr rfl), r, request, _, parsed,
            rfl, rfl, examine_eq_true (hmessage parsed rfl), rfl⟩
  | @answered place status ids call flag hcall hphase =>
      have hanswers : Answers ⟨s, .answer place status ids, .answered,
          (s.boundSend call.caller flag status ids).setCall place { call with phase := .answered }⟩
          call flag status ids := ⟨place, rfl, rfl, hcall, hphase⟩
      have hlast := List.mem_append_right xs (List.mem_singleton.mpr (Eq.refl
        (⟨s, .answer place status ids, .answered, (s.boundSend call.caller flag status
          ids).setCall place { call with phase := .answered }⟩ : GateStage)))
      have hcalls := (boundSend_calls s call.caller flag status ids).1
      refine ⟨fun w o ho => ?_, fun w hw => ?_, ?_, ?_⟩
      · rcases boundSend_lookup ho with hold | ⟨hsuccess, hmem, rfl⟩
        · exact howner w o hold
        · -- A session named again was created for the same owner.
          by_cases hnone : call.caller.session = ""
          · exact ⟨_, hlast, call, flag, status, ids, hanswers, hsuccess, hmem, hnone, rfl⟩
          · obtain rfl := (hfresh _ _ _ _ hanswers w hmem).resolve_right fun hnew =>
              hnone hnew.1
            obtain ⟨ys, a, zs, rfl, arrival, -, -, -, hchecked, -⟩ := h.caller _ _ hcall
            have hcreated := (hchecked hnone).2
            rw [List.append_assoc]
            exact hcreated.mono
      · rcases boundSend_initialized hw with hold | ⟨rfl, rfl, rfl⟩
        · exact hinitialized w hold
        · exact ⟨_, hlast, place, ids, rfl, rfl, (h.sent _ _ hcall hphase).mono⟩
      · show Slots.All _ ((s.boundSend call.caller flag status ids).calls.set place _)
        rw [hcalls]
        exact hset hcall rfl
      · show Slots.All _ ((s.boundSend call.caller flag status ids).calls.set place _)
        rw [hcalls]
        exact hkeep nofun
  | left _ hcall => exact ⟨howner, hinitialized, hset hcall rfl, hkeep nofun⟩

/-! ## Deleted sessions -/

/-- The stage answers a `DELETE` of the session with success. -/
def Deletes (d : GateStage) (w : String) : Prop :=
  ∃ call flag status ids, Answers d call flag status ids ∧ isSuccess status = true ∧
    call.caller.method = .delete ∧ call.caller.session = w

/-- The stage answers a `POST` with success, naming its session although it was deleted. -/
def Revives (xs : List GateStage) (e : GateStage) : Prop :=
  ∃ call flag status ids, Answers e call flag status ids ∧ isSuccess status = true ∧
    call.caller.method = .post ∧ call.caller.session ∈ ids ∧
    ∃ d ∈ xs, Deletes d call.caller.session

/-- Sessions deleted are not in the table, and the SDK named them before. -/
def Gone (xs : List GateStage) (s : AppState) : Prop :=
  ∀ w, (∃ d ∈ xs, Deletes d w) → s.sessions.lookup w = none ∧
    ∃ d ∈ xs, ∃ call flag status ids, Answers d call flag status ids ∧ w ∈ ids

lemma gone_step {xs : List GateStage} {input : AppInput} {out : AppOutput}
    (h : Explained app xs s) (hgone : Gone xs s) (hfresh : Fresh xs ⟨s, input, out, t⟩)
    (hrevives : ¬Revives xs ⟨s, input, out, t⟩) (hstep : GateStep app s input t out) :
    Gone (xs ++ [⟨s, input, out, t⟩]) t := by
  have hmono {w : String} (hw : ∃ d ∈ xs, ∃ call flag status ids,
      Answers d call flag status ids ∧ w ∈ ids) : ∃ d ∈ xs ++ [⟨s, input, out, t⟩],
      ∃ call flag status ids, Answers d call flag status ids ∧ w ∈ ids := by
    obtain ⟨d, hd, hrest⟩ := hw
    exact ⟨d, List.mem_append_left _ hd, hrest⟩
  -- Unless the step is an answer, it deletes nothing and enters nothing.
  have hquiet (hanswers : ∀ call flag status ids, ¬Answers ⟨s, input, out, t⟩ call flag status ids)
      (hsessions : ∀ w, s.sessions.lookup w = none → t.sessions.lookup w = none) :
      Gone (xs ++ [⟨s, input, out, t⟩]) t := by
    rintro w ⟨d, hd, hdeletes⟩
    rcases List.mem_append.mp hd with hd | hd
    · obtain ⟨hnone, hissued⟩ := hgone w ⟨d, hd, hdeletes⟩
      exact ⟨hsessions w hnone, hmono hissued⟩
    · obtain rfl := List.mem_singleton.mp hd
      obtain ⟨call, flag, status, ids, hcontra, -⟩ := hdeletes
      exact absurd hcontra (hanswers _ _ _ _)
  have hunexpired (clock : String → ℚ) (w : String) (hw : s.sessions.lookup w = none) :
      (unexpired s.sessions clock).lookup w = none := by
    refine Option.eq_none_iff_forall_ne_some.mpr fun o ho => ?_
    rw [(lookup_unexpired.mp ho).1] at hw
    cases hw
  cases hstep with
  | same => exact hquiet (fun _ _ _ _ ⟨_, _, hout, _⟩ => nomatch hout) fun _ hw => hw
  | refused => exact hquiet (fun _ _ _ _ ⟨_, hinput, _⟩ => nomatch hinput) fun _ hw => hw
  | purged =>
      exact hquiet (fun _ _ _ _ ⟨_, hinput, _⟩ => nomatch hinput) fun w hw => hunexpired _ w hw
  | admitted =>
      exact hquiet (fun _ _ _ _ ⟨_, hinput, _⟩ => nomatch hinput) fun w hw => hunexpired _ w hw
  | read => exact hquiet (fun _ _ _ _ ⟨_, hinput, _⟩ => nomatch hinput) fun _ hw => hw
  | forwarded => exact hquiet (fun _ _ _ _ ⟨_, hinput, _⟩ => nomatch hinput) fun _ hw => hw
  | left => exact hquiet (fun _ _ _ _ ⟨_, _, hout, _⟩ => nomatch hout) fun _ hw => hw
  | @answered place status ids call flag hcall hphase =>
      have hanswers : Answers ⟨s, .answer place status ids, .answered,
          (s.boundSend call.caller flag status ids).setCall place { call with phase := .answered }⟩
          call flag status ids := ⟨place, rfl, rfl, hcall, hphase⟩
      rintro w ⟨d, hd, hdeletes⟩
      rcases List.mem_append.mp hd with hd | hd
      · obtain ⟨hnone, hissued⟩ := hgone w ⟨d, hd, hdeletes⟩
        refine ⟨Option.eq_none_iff_forall_ne_some.mpr fun o ho => ?_, hmono hissued⟩
        rcases boundSend_lookup ho with hold | ⟨hsuccess, hmem, -⟩
        · rw [hnone] at hold
          cases hold
        · rcases hfresh _ _ _ _ hanswers w hmem with rfl | ⟨-, hnew⟩
          · -- Its own session: a `DELETE` drops it again, a `POST` would revive it.
            cases hmethod : call.caller.method with
            | post =>
                exact hrevives ⟨call, flag, status, ids, hanswers, hsuccess, hmethod, hmem, d, hd,
                  hdeletes⟩
            | delete =>
                have hlookup : (s.boundSend call.caller flag status ids).sessions.lookup
                    call.caller.session = some o := ho
                rw [boundSend_deleted hsuccess hmethod] at hlookup
                cases hlookup
          · obtain ⟨d', hd', call', flag', status', ids', hanswers', hmem'⟩ := hissued
            exact hnew d' hd' _ _ _ _ hanswers' hmem'
      · obtain rfl := List.mem_singleton.mp hd
        obtain ⟨call', flag', status', ids', ⟨place', hinput, -, hcall', hphase'⟩, hsuccess,
          hmethod, rfl⟩ := hdeletes
        cases hinput
        obtain rfl := Option.some.inj (hcall.symm.trans hcall')
        refine ⟨boundSend_deleted hsuccess hmethod, hmono ?_⟩
        obtain ⟨ys, a, zs, rfl, arrival, -, -, -, hchecked, hnone⟩ := h.caller _ _ hcall
        have hne : call.caller.session ≠ "" := fun heq => by
          rw [hnone heq] at hmethod
          cases hmethod
        obtain ⟨d', hd', call', flag', status', ids', hanswers', -, hmem, -⟩ := (hchecked hne).2
        exact ⟨d', List.mem_append_left _ hd', call', flag', status', ids', hanswers', hmem⟩

/-! ## Calls in flight -/

/-- The counter counts the calls that have not ended, and stays within its limit. -/
structure Counted (s : AppState) : Prop where
  inflight : s.inflight = (s.calls.countP Call.isLive : ℤ)
  bounded : s.inflight ≤ maxInflight

lemma counted_step {input : AppInput} {out : AppOutput} (h : Counted s)
    (hstep : GateStep app s input t out) : Counted t := by
  have hset {place : ℕ} {call call' : Call} (hcall : s.calls[place]? = some call)
      (hlive : call.isLive = true) (hlive' : call'.isLive = true) :
      (s.calls.set place call').countP Call.isLive = s.calls.countP Call.isLive := by
    obtain ⟨hlt, rfl⟩ := List.getElem?_eq_some_iff.mp hcall
    have hpos : 0 < s.calls.countP Call.isLive :=
      List.countP_pos_iff.mpr ⟨_, List.getElem_mem hlt, hlive⟩
    rw [List.countP_set hlt, if_pos hlive, if_pos hlive']
    omega
  cases hstep with
  | same => exact h
  | refused => exact h
  | purged => exact ⟨h.inflight, h.bounded⟩
  | admitted _ hadmission =>
      have hroom : s.inflight < maxInflight := (admission_eq_ok hadmission).2.2
      refine ⟨?_, Int.add_one_le_of_lt hroom⟩
      rw [List.countP_append, h.inflight]
      rfl
  | read hcall hreading hphase =>
      refine ⟨h.inflight.trans (congrArg _ (hset hcall ?_ ?_).symm), h.bounded⟩
      · simp [Call.isLive, hreading]
      · rcases hphase with rfl | rfl
        · rfl
        · rfl
  | forwarded hcall hreading =>
      refine ⟨h.inflight.trans (congrArg _ (hset hcall ?_ rfl).symm), h.bounded⟩
      simp [Call.isLive, hreading]
  | @answered place status ids call flag hcall hphase =>
      obtain ⟨hcalls, hinflight⟩ := boundSend_calls s call.caller flag status ids
      refine ⟨?_, hinflight.trans_le h.bounded⟩
      show (s.boundSend call.caller flag status ids).inflight =
        (((s.boundSend call.caller flag status ids).calls.set place _).countP Call.isLive : ℤ)
      rw [hcalls, hinflight, hset hcall (by simp [Call.isLive, hphase]) rfl]
      exact h.inflight
  | @left input place call _ hcall hlive =>
      refine ⟨?_, (sub_le_self _ zero_le_one).trans h.bounded⟩
      obtain ⟨hlt, rfl⟩ := List.getElem?_eq_some_iff.mp hcall
      have hpos : 0 < s.calls.countP Call.isLive :=
        List.countP_pos_iff.mpr ⟨_, List.getElem_mem hlt, hlive⟩
      show s.inflight - 1 = ((s.calls.set place { s.calls[place] with phase := .ended }).countP
        Call.isLive : ℤ)
      rw [List.countP_set hlt, if_pos hlive, if_neg (by simp [Call.isLive]), h.inflight]
      omega

/-! ## Runs -/

variable {inputs : List AppInput}

/-- The claims of a caller are those verified of the credential its headers present, and its
session is the one they name. -/
structure Presents (app : GatewayApp) (arrival : Arrival) (caller : Caller) : Prop where
  headers : ∃ headers, readHeaders [] arrival.headers = .ok headers ∧
    decodeAscii ((headers.lookup (ascii "authorization")).getD []) =
      some ("Bearer " ++ caller.credential) ∧
    decodeAscii ((headers.lookup (ascii "mcp-session-id")).getD []) = some caller.session
  verified : app.verifier.verify caller.credential arrival.decodeClock arrival.verifyClock =
    .ok caller.claims

lemma authorize_eq_some {arrival : Arrival} {headers : List (Bytes × Bytes)} {credential : String}
    {claims : Claims} (h : app.authorize arrival headers = some (credential, claims)) :
    decodeAscii ((headers.lookup (ascii "authorization")).getD []) =
        some ("Bearer " ++ credential) ∧
      app.verifier.verify credential arrival.decodeClock arrival.verifyClock = .ok claims := by
  unfold GatewayApp.authorize at h
  obtain ⟨authorization, hread, h⟩ := Option.bind_eq_some_iff.mp h
  split at h
  · rename_i hbearer
    dsimp only at h
    split at h
    · rename_i found hverify
      obtain ⟨rfl, rfl⟩ := Prod.mk.inj (Option.some.inj h)
      refine ⟨hread.trans (congrArg some (String.toList_inj.mp ?_)), hverify⟩
      rw [String.toList_append, String.toList_ofList, String.toList_ofList]
      exact (hbearer ▸ List.take_append_drop 7 authorization.toList).symm
    · cases h
  · cases h

lemma identify_presents {arrival : Arrival} {caller : Caller}
    (h : app.identify arrival = .ok caller) : Presents app arrival caller := by
  unfold GatewayApp.identify at h
  simp only [Except.bind_eq_ok, ensure_eq_ok] at h
  obtain ⟨-, -, headers, hheaders, -, -, -, -, -, -, h⟩ := h
  split at h
  · cases h
  · rename_i credential claims hauthorize
    split at h
    · cases h
    · simp only [Except.bind_eq_ok, ensure_eq_ok] at h
      obtain ⟨-, -, h⟩ := h
      split at h
      · cases h
      · rename_i session hsession
        obtain rfl := Except.pure_eq_ok.mp h
        obtain ⟨hcredential, hverify⟩ := authorize_eq_some hauthorize
        exact ⟨⟨headers, hheaders, hcredential, hsession⟩, hverify⟩

/-- Every stage of a run is explained by those before it, and meets no session deleted. -/
lemma explained_at (hfresh : ∀ xs e ys, app.machine.trace .initial inputs = xs ++ e :: ys →
      Fresh xs e) {xs ys : List GateStage} {e : GateStage}
    (htrace : app.machine.trace .initial inputs = xs ++ e :: ys) :
    Explained app xs e.before ∧
      ((∀ xs e ys, app.machine.trace .initial inputs = xs ++ e :: ys → ¬Revives xs e) →
        Gone xs e.before) := by
  obtain ⟨⟨hbefore, hxs⟩, -, -⟩ := app.machine.trace_rest htrace
  have hstages {P : List GateStage → GateStage → Prop}
      (hP : ∀ xs e ys, app.machine.trace .initial inputs = xs ++ e :: ys → P xs e) :
      ∀ us d vs, app.machine.trace .initial (xs.map Stage.input) = us ++ d :: vs → P us d := by
    intro us d vs hus
    refine hP us d (vs ++ e :: ys) ?_
    rw [htrace, ← hxs, hus, List.append_assoc, List.cons_append]
  constructor
  · have hrun := Machine.trace_induction_of (P := Fresh) (Q := Explained app)
      (explained_initial app)
      (fun us s input hP hQ => hQ.step hP (step_next app s input)) _ (hstages hfresh)
    rwa [hxs, hbefore] at hrun
  · intro hrevives
    have hrun := Machine.trace_induction_of (P := fun us d => Fresh us d ∧ ¬Revives us d)
      (Q := fun us s => Explained app us s ∧ Gone us s)
      ⟨explained_initial app, fun w ⟨d, hd, _⟩ => absurd hd List.not_mem_nil⟩
      (fun us s input hP hQ => ⟨hQ.1.step hP.1 (step_next app s input),
        gone_step hQ.1 hQ.2 hP.1 hP.2 (step_next app s input)⟩) _
      (hstages fun us d vs h => ⟨hfresh us d vs h, hrevives us d vs h⟩)
    rw [hxs, hbefore] at hrun
    exact hrun.2

/-- A message forwarded is that of a call whose arrival is behind. -/
lemma forwarded_at (hfresh : ∀ xs e ys, app.machine.trace .initial inputs = xs ++ e :: ys →
      Fresh xs e) {xs ys : List GateStage} {e : GateStage} {place : ℕ} {r : Received}
    {request : String} {context : InvocationContext} {message : Option Json}
    (htrace : app.machine.trace .initial inputs = xs ++ e :: ys)
    (hinput : e.input = .receive place r request) (hout : e.output = .forwarded context message) :
    ∃ zs a ws caller, xs = zs ++ a :: ws ∧ Arrived app zs a place caller ∧
      context = caller.context request ∧ ∀ parsed, message = some parsed →
        ∃ body flag, app.examine e.before.initialized caller.session body = some (parsed, flag) := by
  obtain ⟨-, -, hnext, -⟩ := app.machine.trace_split htrace
  have hstep := step_next app e.before e.input
  rw [show app.machine.out e.before e.input = e.output from congrArg Prod.snd hnext, hinput,
    hout] at hstep
  generalize app.machine.next e.before (.receive place r request) = t at hstep
  cases hstep with
  | read _ _ _ hnot => exact absurd rfl (hnot _ _)
  | @forwarded _ _ _ call body flag _ hcall _ hmessage =>
      obtain ⟨zs, a, ws, hxs, ha⟩ := (explained_at hfresh htrace).1.caller _ _ hcall
      exact ⟨zs, a, ws, call.caller, hxs, ha, rfl, fun parsed hp => ⟨body, flag, hmessage parsed hp⟩⟩

/-! ## Result -/

/-- The credentials are the same, as far as their digests tell. -/
def SameCredential (c c' : String) : Prop := c = c' ∨ (c ≠ c' ∧ sha256Hex c = sha256Hex c')

/-- What is claimed of a run. -/
structure Gated (app : GatewayApp) (inputs : List AppInput) : Prop where
  /-- Another message than the three is forwarded for a session created for its credential by the
  answer to a request without one, unexpired as it arrived, and initialized. -/
  session : ∀ xs e ys place r request context message,
    app.machine.trace .initial inputs = xs ++ e :: ys → e.input = .receive place r request →
    e.output = .forwarded context (some message) →
    (∀ method ∈ ["initialize", "ping", "notifications/initialized"],
      hasMethod message method = false) →
    ∃ zs a ws arrival caller, xs = zs ++ a :: ws ∧ a.input = .arrive arrival ∧
      a.output = .admitted place ∧ app.identify arrival = .ok caller ∧
      context.session = caller.session ∧ arrival.clock caller.session < caller.claims.exp ∧
      (∃ d ∈ zs, ∃ call flag status ids, Answers d call flag status ids ∧
        isSuccess status = true ∧ caller.session ∈ ids ∧ call.caller.session = "" ∧
        SameCredential call.caller.credential caller.credential) ∧
      Notified xs caller.session
  /-- The context attached is that of the request's own credential and session. -/
  context : ∀ xs e ys place r request context message,
    app.machine.trace .initial inputs = xs ++ e :: ys → e.input = .receive place r request →
    e.output = .forwarded context message →
    ∃ a ∈ xs, ∃ arrival caller, a.input = .arrive arrival ∧ a.output = .admitted place ∧
      Presents app arrival caller ∧ context = caller.context request
  /-- The calls past admission are counted, and at most `MAX_INFLIGHT`. -/
  inflight : Counted (app.machine.run .initial inputs)
  ended : (∀ call ∈ (app.machine.run .initial inputs).calls, call.phase = .ended) →
    (app.machine.run .initial inputs).inflight = 0
  /-- A request that names a session deleted before it arrives is rejected. -/
  deleted : ∀ xs d ys e zs arrival caller,
    app.machine.trace .initial inputs = xs ++ d :: ys ++ e :: zs → Deletes d caller.session →
    e.input = .arrive arrival → app.identify arrival = .ok caller → ∃ r, e.output = .rejected r

/-- **The session gate holds**, for an SDK that names a request's own session or a fresh one, in
every run in which no successful answer names the session of its `POST` once it was deleted. -/
theorem sessionGate_holds (app : GatewayApp) (inputs : List AppInput)
    (hsdk : ∀ xs e ys, app.machine.trace .initial inputs = xs ++ e :: ys → Fresh xs e)
    (hrevives : ∀ xs e ys, app.machine.trace .initial inputs = xs ++ e :: ys → ¬Revives xs e) :
    Gated app inputs := by
  have hcounted : Counted (app.machine.run .initial inputs) := by
    have hkept : app.machine.Preserved Counted :=
      fun s input hs => counted_step hs (step_next app s input)
    exact hkept.run ⟨rfl, by decide⟩ inputs
  refine ⟨?_, ?_, hcounted, ?_, ?_⟩
  · intro xs e ys place r request context message htrace hinput hout hmethod
    obtain ⟨zs, a, ws, caller, hxs, ⟨arrival, ha, hadmitted, hidentify, hchecked, -⟩, rfl,
      hexamine⟩ := forwarded_at hsdk htrace hinput hout
    obtain ⟨body, flag, hexamine⟩ := hexamine message rfl
    obtain ⟨hne, hmem⟩ := examine_governed hexamine hmethod
    obtain ⟨hlive, d, hd, call, flag', status, ids, hanswers, hsuccess, hids, hnone, howner⟩ :=
      hchecked hne
    refine ⟨zs, a, ws, arrival, caller, hxs, ha, hadmitted, hidentify, rfl, hlive,
      ⟨d, hd, call, flag', status, ids, hanswers, hsuccess, hids, hnone, ?_⟩,
      (explained_at hsdk htrace).1.initialized _ hmem⟩
    have hhash : sha256Hex call.caller.credential = sha256Hex caller.credential :=
      congrArg Owner.credentialHash howner
    by_cases hsame : call.caller.credential = caller.credential
    · exact .inl hsame
    · exact .inr ⟨hsame, hhash⟩
  · intro xs e ys place r request context message htrace hinput hout
    obtain ⟨zs, a, ws, caller, rfl, ⟨arrival, ha, hadmitted, hidentify, -⟩, hcontext, -⟩ :=
      forwarded_at hsdk htrace hinput hout
    exact ⟨a, by simp, arrival, caller, ha, hadmitted, identify_presents hidentify, hcontext⟩
  · intro hended
    rw [hcounted.inflight, List.countP_eq_zero.mpr fun call hcall => ?_, Nat.cast_zero]
    simp [Call.isLive, hended call hcall]
  · intro xs d ys e zs arrival caller htrace hdeletes hinput hidentify
    have hgone := (explained_at hsdk htrace).2 hrevives caller.session
      ⟨d, by simp, hdeletes⟩
    obtain ⟨-, -, hnext, -⟩ := app.machine.trace_split htrace
    have hstep := step_next app e.before e.input
    rw [show app.machine.out e.before e.input = e.output from congrArg Prod.snd hnext, hinput]
      at hstep
    have hne : caller.session ≠ "" := by
      -- A session deleted was named by the call that deleted it.
      obtain ⟨call, flag, status, ids, ⟨place, -, -, hcall, -⟩, -, hmethod, hsession⟩ := hdeletes
      rw [List.append_assoc, List.cons_append] at htrace
      obtain ⟨us, a, vs, -, arrival', -, -, -, -, hnone⟩ :=
        (explained_at hsdk htrace).1.caller _ _ hcall
      rw [← hsession]
      intro heq
      rw [hnone heq] at hmethod
      cases hmethod
    generalize e.output = out at hstep
    generalize app.machine.next e.before (.arrive arrival) = t at hstep
    cases hstep with
    | same hinput => exact absurd rfl (hinput arrival)
    | refused => exact ⟨_, rfl⟩
    | purged => exact ⟨_, rfl⟩
    | admitted hidentify' hadmission =>
        cases hidentify.symm.trans hidentify'
        have howner := lookup_unexpired.mp ((admission_eq_ok hadmission).1 hne)
        rw [hgone.1] at howner
        cases howner.1
    | left hinput => exact absurd rfl (hinput arrival)

/-! ### Runs of a sample -/

/-- An application with one credential, whose bodies are of ASCII characters. -/
def sampleApp : GatewayApp where
  verifier :=
    { domain :=
        { issuer := "issuer", audience := "http://127.0.0.1:8000/mcp", principal := "caller",
          serviceIdentity := "service", inst := "instance",
          bounded := by decide +kernel, distinct := by decide +kernel }
      decode := fun token _ =>
        if token = "token" then
          some ⟨"issuer", "http://127.0.0.1:8000/mcp", .str "caller", .int 0, .int 0, .int 300,
            .str "0123456789abcdef", some (.str "civicgate:invoke")⟩
        else none }
  port := 8000
  port_bounds := by decide
  loads body := (decodeAscii body).bind parseText
  validNotification _ := true
  audience_eq := by decide +kernel

/-- A request of the credential, with these further headers. -/
def sampleArrival (method : String) (headers : List (Bytes × Bytes)) : AppInput :=
  .arrive
    { method
      headers := [(ascii "Host", ascii "127.0.0.1:8000"),
        (ascii "Authorization", ascii "Bearer token")] ++ headers
      peer := some "127.0.0.1", scheme := some "http", path := "/mcp", queryString := []
      decodeClock := 1, verifyClock := 1, clock := fun _ => 1 }

/-- The header that names the session. -/
def sampleSession : List (Bytes × Bytes) := [(ascii "Mcp-Session-Id", ascii "s")]

/-- The whole body of a call. -/
def sampleBody (place : ℕ) (text : String) : AppInput :=
  .receive place (.chunk (ascii text) false) "request"

/-- A session is created; a ping and a deletion of it are in the wrapped application. -/
def sampleOverlap : List AppInput :=
  [sampleArrival "POST" [], sampleBody 0 "\x7b\"method\":\"initialize\"\x7d", .answer 0 200 ["s"],
    .finish 0, sampleArrival "POST" sampleSession, sampleBody 1 "\x7b\"method\":\"ping\"\x7d",
    sampleArrival "DELETE" sampleSession, sampleBody 2 ""]

/-- The deletion is answered with success, and then the ping, naming its session: a request that
arrives later is forwarded. -/
theorem sessionGate_revived :
    let overlap := sampleApp.machine.run .initial sampleOverlap
    let later := sampleApp.machine.run overlap [.answer 2 200 [], .answer 1 200 ["s"]]
    let admitted := sampleApp.machine.next later (sampleArrival "POST" sampleSession)
    (overlap.calls.map fun call => (call.caller.method, call.caller.session, call.phase)) =
        [(.post, "", .ended), (.post, "s", .forwarded false), (.delete, "s", .forwarded false)] ∧
      sampleApp.machine.out later (sampleArrival "POST" sampleSession) = .admitted 3 ∧
      sampleApp.machine.out admitted (sampleBody 3 "\x7b\"method\":\"ping\"\x7d") =
        .forwarded ⟨"caller", "issuer", "http://127.0.0.1:8000/mcp", "s", "request", 300⟩
          (some (.dict [("method", .str "ping")])) := by
  decide +kernel

/-- A session is created and initialized, a tool is called in it, and it is deleted; a request that
names it later arrives. -/
def sampleVisit : List AppInput :=
  [sampleArrival "POST" [], sampleBody 0 "\x7b\"method\":\"initialize\"\x7d", .answer 0 200 ["s"],
    .finish 0, sampleArrival "POST" sampleSession,
    sampleBody 1 "\x7b\"method\":\"notifications/initialized\"\x7d", .answer 1 202 [], .finish 1,
    sampleArrival "POST" sampleSession, sampleBody 2 "\x7b\"method\":\"tools/call\"\x7d",
    .answer 2 200 [], .finish 2, sampleArrival "DELETE" sampleSession, sampleBody 3 "",
    .answer 3 200 [], .finish 3, sampleArrival "POST" sampleSession]

/-- The input is an answer that names a session. -/
def AppInput.names : AppInput → Bool
  | .answer _ _ ids => !ids.isEmpty
  | _ => false

/-- Only the answer to the first request of the visit names a session, and that request has none. -/
lemma sampleVisit_answers {xs ys : List GateStage} {e : GateStage} {call : Call} {flag : Bool}
    {status : ℤ} {ids : List String} {id : String}
    (htrace : sampleApp.machine.trace .initial sampleVisit = xs ++ e :: ys)
    (hanswers : Answers e call flag status ids) (hid : id ∈ ids) :
    xs.map Stage.input = sampleVisit.take 2 ∧ call.caller.session = "" := by
  obtain ⟨place, hinput, -, hcall, -⟩ := hanswers
  obtain ⟨⟨hbefore, -⟩, -, -⟩ := sampleApp.machine.trace_rest htrace
  have hinputs := congrArg (List.map Stage.input) htrace
  rw [Machine.map_input_trace, List.map_append, List.map_cons, hinput] at hinputs
  have hnames : AppInput.names (.answer place status ids) = true := by
    cases ids with
    | nil => cases hid
    | cons => rfl
  have hcount : sampleVisit.countP AppInput.names = 1 := rfl
  have hnone : ∀ a ∈ xs.map Stage.input, !a.names := by
    rw [hinputs, List.countP_append, List.countP_cons_of_pos hnames] at hcount
    have hzero : (xs.map Stage.input).countP AppInput.names = 0 := by omega
    simpa using List.countP_eq_zero.mp hzero
  have hxs : xs.map Stage.input = sampleVisit.take 2 := by
    have htake : sampleVisit.takeWhile (!·.names) = sampleVisit.take 2 := rfl
    rw [← htake, hinputs, List.takeWhile_append_of_pos hnone,
      List.takeWhile_cons_of_neg (by simp [hnames]), List.append_nil]
  have hplace : place = 0 := by
    rw [hxs] at hinputs
    have hrest := List.append_cancel_left ((List.take_append_drop 2 sampleVisit).trans hinputs)
    cases (List.cons.inj hrest).1
    rfl
  have hsession : ((sampleApp.machine.run .initial (sampleVisit.take 2)).calls[0]?).map
      (fun call => call.caller.session) = some "" := by
    decide +kernel
  rw [← hxs, hbefore, ← hplace, hcall] at hsession
  exact ⟨hxs, Option.some.inj hsession⟩

/-- A run that meets the conditions: the tool call is forwarded, and the last request rejected. -/
theorem sessionGate_holds_visit :
    Gated sampleApp sampleVisit ∧
      (sampleApp.machine.trace .initial sampleVisit).map Stage.output =
        [.admitted 0,
          .forwarded ⟨"caller", "issuer", "http://127.0.0.1:8000/mcp", "", "request", 300⟩
            (some (.dict [("method", .str "initialize")])),
          .answered, .nothing, .admitted 1,
          .forwarded ⟨"caller", "issuer", "http://127.0.0.1:8000/mcp", "s", "request", 300⟩
            (some (.dict [("method", .str "notifications/initialized")])),
          .answered, .nothing, .admitted 2,
          .forwarded ⟨"caller", "issuer", "http://127.0.0.1:8000/mcp", "s", "request", 300⟩
            (some (.dict [("method", .str "tools/call")])),
          .answered, .nothing, .admitted 3,
          .forwarded ⟨"caller", "issuer", "http://127.0.0.1:8000/mcp", "s", "request", 300⟩ none,
          .answered, .nothing, .rejected ⟨404, "Session not found"⟩] := by
  refine ⟨sessionGate_holds _ _ (fun xs e ys htrace => ?_) fun xs e ys htrace => ?_, ?_⟩
  · intro call flag status ids hanswers id hid
    obtain ⟨hxs, hnone⟩ := sampleVisit_answers htrace hanswers hid
    refine .inr ⟨hnone, fun d hd call' flag' status' ids' ⟨_, hinput', _⟩ => ?_⟩
    have hmem : d.input ∈ sampleVisit.take 2 := hxs ▸ List.mem_map_of_mem hd
    rw [hinput'] at hmem
    simp [sampleVisit, sampleArrival, sampleBody] at hmem
  · rintro ⟨call, flag, status, ids, hanswers, -, -, hid, d, hd, call', flag', status', ids',
      ⟨place', hinput', -⟩, -⟩
    have hmem : d.input ∈ sampleVisit.take 2 :=
      (sampleVisit_answers htrace hanswers hid).1 ▸ List.mem_map_of_mem hd
    rw [hinput'] at hmem
    simp [sampleVisit, sampleArrival, sampleBody] at hmem
  · decide +kernel

end CivicGate.Mcp
