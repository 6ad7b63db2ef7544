import CivicGate.Audit.TransportGuard
import CivicGate.Gateway.Recording

/-!
# The guarded transport delegates once

What one check establishes is read off its guards in their order (`cleared_of_inspect`), and an
accepted history at its intent is taken apart into the three events of its request
(`authorizes_of_replay`).  A check that raises leaves `_poisoned` set, which nothing resets, and
a poisoned journal passes no check.
-/

namespace CivicGate

/-! ## An accepted history at its intent -/

/-- The history ends with the three events of a request that may be dispatched, all of one owner
in one epoch, and nothing before them concerns the request. -/
structure Authorizes (l : LedgerIdentity) (rows : List Row) (requestId : String)
    (owns : Header → Prop) (context : Context) : Prop where
  entries : ∃ pre hb c hp p hi i, rows.mapM (Row.entry l) = some (pre ++
      [.event hb (.begin requestId c), .event hp (.policy requestId p),
        .event hi (.intent requestId i)]) ∧
    (∀ x ∈ pre, x.requestId? ≠ some requestId) ∧
    p.initialDecision = .permit ∧ p.bindingIssued = true ∧ i.context = context ∧
    owns hb ∧ owns hp ∧ owns hi

/-- An event between a boot and a close is the owner's and leaves it. -/
lemma owns_of_replayRow {l : LedgerIdentity} {s t : Replay} {row : Row} {h : Header} {a : Action}
    (hrow : replayRow l s row = some t) (hentry : row.entry l = some (.event h a))
    (hkind : a.kind = .begin ∨ a.kind = .policy ∨ a.kind = .intent) :
    h.epoch = t.ledger.epoch ∧ t.ledger.ownerId = some h.ownerId ∧
      s.ledger.epoch = t.ledger.epoch ∧ s.ledger.ownerId = t.ledger.ownerId := by
  obtain ⟨-, -, -, x, u, hx, hmoves, rfl⟩ := replayRow_eq_some hrow
  obtain rfl := Option.some.inj (hentry.symm.trans hx)
  cases hmoves with
  | begin howns => exact ⟨howns.epoch, howns.ownerId, rfl, rfl⟩
  | policy howns => exact ⟨howns.epoch, howns.ownerId, rfl, rfl⟩
  | intent howns => exact ⟨howns.epoch, howns.ownerId, rfl, rfl⟩
  | _ => simp [Action.kind] at hkind

/-- The context of an intent is the one its payload holds. -/
lemma lastContext_of_intent {l : LedgerIdentity} {row : Row} {h : Header} {requestId : String}
    {i : IntentEvidence} {v : Json} {pre : List Row}
    (hentry : row.entry l = some (.event h (.intent requestId i)))
    (hlast : lastContext (pre ++ [row]) = .ok v) : Context.read v = some i.context := by
  obtain ⟨payload, hpayload, hread⟩ := entry_eq_some hentry
  obtain ⟨-, -, haction⟩ := readEntry_event hread
  simp only [Action.kind, Action.read, Option.bind_eq_bind, Option.bind_eq_some_iff,
    Option.pure_def, Option.some.injEq, Action.intent.injEq] at haction
  obtain ⟨-, -, i', hi, -, rfl⟩ := haction
  simp only [IntentEvidence.read, Option.bind_eq_bind, Option.bind_eq_some_iff, Option.pure_def,
    Option.some.injEq] at hi
  obtain ⟨-, -, w, hw, context, hcontext, _, -, _, -, _, -, rfl⟩ := hi
  rw [lastContext, List.getLast?_concat, Option.bind_some, hpayload, Option.bind_some, hw] at hlast
  obtain rfl := Except.ok.inj hlast
  exact hcontext

/-- A context is read back from its evidence. -/
lemma read_contextJson (c : Context) : Context.read c.toJson.normalize = some c := by
  have hnodup : (([("principal", .str c.principal), ("issuer", .str c.issuer),
      ("audience", .str c.audience), ("session", .str c.session), ("request", .str c.request),
      ("expires_at", .int c.expiresAt)] : List (String × Json)).map Prod.fst).Nodup := by
    simp only [List.map_cons, List.map_nil]
    decide
  have hfields : c.toJson.normalize.hasFields contextFields = true :=
    Json.hasFields_normalize hnodup (.refl _)
  have hget (k : String) := Json.get?_normalize hnodup k
  change ∀ k, c.toJson.normalize.get? k = _ at hget
  simp only [Context.read, Json.getStr?, Json.getInt?, hfields, hget, require_true,
    List.lookup_cons]
  simp

lemma mapM_cons_eq_some {α β : Type} {f : α → Option β} {as : List α} {y : β} {ys : List β}
    (h : as.mapM f = some (y :: ys)) :
    ∃ a rest, as = a :: rest ∧ f a = some y ∧ rest.mapM f = some ys := by
  have hnil : as.mapM f = some ([] ++ y :: ys) := h
  obtain ⟨pre, a, rest, rfl, hpre, ha, hrest⟩ := mapM_split hnil
  cases pre with
  | nil => exact ⟨a, rest, rfl, ha, hrest⟩
  | cons b pre =>
      simp only [List.mapM_cons, Option.bind_eq_bind, Option.bind_eq_some_iff, Option.pure_def,
        Option.some.injEq, reduceCtorEq, and_false, exists_false] at hpre

/-- An accepted history that is not held, at the intent of its active request. -/
lemma authorizes_of_replay {l : LedgerIdentity} {rows : List Row} {state : LedgerState}
    {requestId : String} {context : Context} (hreplay : replay l rows = some state)
    (hheld : state.held = false) (hactive : state.active = some requestId)
    (hphase : state.phase = some .intent)
    (hcontext : lastContext rows = .ok context.toJson.normalize) :
    Authorizes l rows requestId
      (fun h => h.epoch = state.epoch ∧ state.ownerId = some h.ownerId) context := by
  obtain ⟨-, s, haccept, rfl⟩ := replay_eq_some.mp hreplay
  obtain ⟨entries, hentries, -, hexplains⟩ := read_of_accept haccept
  have htail := hexplains.tail hheld requestId hactive
  rw [EndsWith, hphase] at htail
  obtain ⟨pre, hb, c, hp, p, hi, i, rfl, ⟨-, hfresh⟩, hpermit, hissued⟩ := htail
  have hsplit := hentries
  obtain ⟨rows, rowB, rest, rfl, -, hrowB, hrest⟩ := mapM_split hsplit
  obtain ⟨rowP, rest, rfl, hrowP, hrest⟩ := mapM_cons_eq_some hrest
  obtain ⟨rowI, rest, rfl, hrowI, hrest⟩ := mapM_cons_eq_some hrest
  cases rest with
  | cons row rest =>
      simp only [List.mapM_cons, Option.bind_eq_bind, Option.bind_eq_some_iff, Option.pure_def,
        Option.some.injEq, reduceCtorEq, and_false, exists_false] at hrest
  | nil =>
      obtain ⟨s₀, s₁, -, hB, haccept⟩ := accept_split haccept
      rw [accept_cons, Option.bind_eq_some_iff] at haccept
      obtain ⟨s₂, hP, haccept⟩ := haccept
      rw [accept_cons, Option.bind_eq_some_iff] at haccept
      obtain ⟨s₃, hI, haccept⟩ := haccept
      obtain rfl := Option.some.inj haccept
      obtain ⟨hepochB, hownerB, -, -⟩ := owns_of_replayRow hB hrowB (.inl rfl)
      obtain ⟨hepochP, hownerP, hsameP, hkeptP⟩ := owns_of_replayRow hP hrowP (.inr (.inl rfl))
      obtain ⟨hepochI, hownerI, hsameI, hkeptI⟩ := owns_of_replayRow hI hrowI (.inr (.inr rfl))
      have hread : Context.read context.toJson.normalize = some i.context := by
        have hlast : lastContext ((rows ++ [rowB, rowP]) ++ [rowI]) =
            .ok context.toJson.normalize := by
          rw [List.append_assoc]
          exact hcontext
        exact lastContext_of_intent hrowI hlast
      refine ⟨pre, hb, c, hp, p, hi, i, hentries, hfresh, hpermit, hissued, ?_, ?_, ?_, ?_⟩
      · exact Option.some.inj (hread.symm.trans (read_contextJson context))
      · exact ⟨hepochB.trans (hsameP.trans hsameI), by rw [← hkeptI, ← hkeptP, hownerB]⟩
      · exact ⟨hepochP.trans hsameI, by rw [← hkeptI, hownerP]⟩
      · exact ⟨hepochI, hownerI⟩

/-! ## One check -/

/-- What a check found that let a request through, `t` being the transport as it was built. -/
structure Cleared (t : GuardedPostgresTransport) (w : GuardedJournal) (c : Checkpoint)
    (requestId : String) : Prop where
  committed : c.surroundings.commit = .acknowledged
  generation : w.generation = t.generation
  session : Backend.read c.backend = .ok t.session
  loaded : w.desk.ledger.load (w.desk.journal.identity w.domain) =
    .ok (w.desk.journal.state, w.desk.ledger.events)
  active : w.desk.journal.state.active = some requestId
  intent : ∃ context, c.surroundings.context = some context ∧ c.contextAfter = some context ∧
    Authorizes (w.desk.journal.identity w.domain) w.desk.ledger.events requestId
      (fun h => h.epoch = t.generation.epoch ∧ h.ownerId = t.generation.ownerId) context
  lock : ∃ rows, c.locks = .table rows ∧
    ∃ row ∈ rows, row.owned t.session t.generation.domainKey = true

lemma requireConnection_eq_ok {w : GuardedJournal} {connection : Option ℕ} {pinned : Generation}
    {autocommit : Bool} {u : Unit} :
    w.requireConnection connection pinned autocommit = .ok u ↔
      (w.desk.journal.closed = false ∧ w.desk.journal.held = false ∧ connection ≠ none ∧
        w.db = connection ∧ autocommit = false) ∧ w.generation = pinned ∧
        w.domain.key = w.domainKey := by
  simp only [GuardedJournal.requireConnection, ensure_eq_ok, Bool.and_eq_true, Bool.not_eq_true',
    decide_eq_true_eq, and_assoc]

/-- The context a journal accepts is the one it was given. -/
lemma context_eq_ok {w : GuardedJournal} {x : Surroundings} {time : PyFloat} {c : Context}
    (h : w.context x time = .ok c) : x.context = some c := by
  rw [GuardedJournal.context, PostgresJournal.callerContext] at h
  split at h
  · cases h
  · rename_i c' hc
    split_ifs at h
    · exact hc.trans (congrArg some (Except.ok.inj h))
    · cases h

lemma owned_eq_ok {answer : LockAnswer} {b : Backend} {key : String}
    (h : answer.owned b key = .ok true) :
    ∃ rows, answer = .table rows ∧ ∃ row ∈ rows, row.owned b key = true := by
  cases answer with
  | table rows => exact ⟨rows, rfl, List.any_eq_true.mp (Except.ok.inj h)⟩
  | malformed | raises => cases h

lemma activeIntent_eq_ok {t : GuardedPostgresTransport} {state : LedgerState} {rows : List Row}
    {context : Context} {requestId : String}
    (h : t.activeIntent state rows context = .ok requestId) :
    state.active = some requestId ∧ state.phase = some .intent ∧ requestId ∉ t.delegated ∧
      lastContext rows = .ok context.toJson.normalize := by
  unfold GuardedPostgresTransport.activeIntent at h
  split at h
  · cases h
  · rename_i r hactive
    simp only [Except.bind_eq_ok, ensure_eq_ok, Except.pure_eq_ok, Bool.and_eq_true,
      decide_eq_true_eq] at h
    obtain ⟨-, ⟨⟨⟨⟨hphase, -⟩, -⟩, hnew⟩, -⟩, recorded, hrecorded, -, rfl, rfl⟩ := h
    exact ⟨hactive, hphase, hnew, hrecorded⟩

/-- The guards of `_verify`, in their order. -/
lemma cleared_of_inspect {g : Guard} {c : Checkpoint} {requestId : String}
    (h : g.inspect c = .ok requestId) :
    Cleared g.transport g.guarded c requestId ∧ requestId ∉ g.transport.delegated ∧
      g.guarded.desk.journal.poisoned = false := by
  simp only [Guard.inspect, rejecting, Except.bind_eq_ok, Except.reraise_eq_ok, ensure_eq_ok,
    Except.pure_eq_ok, Prod.exists, Bool.and_eq_true, Bool.not_eq_true', decide_eq_true_eq] at h
  obtain ⟨_, hrequire, context, hcontext, _, -, session, hsession, _, hsame, state, rows, hload, _,
    ⟨⟨⟨⟨hcached, hepoch⟩, howner⟩, -⟩, hheld⟩, owned, howned, _, hlock, r, hintent, _, -, _,
    hcommit, _, -, after, hafter, _, hunchanged, rfl⟩ := h
  subst hsame hcached hlock hunchanged
  obtain ⟨hholds, rfl⟩ := load_eq_ok hload
  obtain ⟨hactive, hphase, hnew, hlast⟩ := activeIntent_eq_ok hintent
  obtain ⟨⟨-, hlive, -⟩, hgeneration, -⟩ := requireConnection_eq_ok.mp hrequire
  have hauthorizes := authorizes_of_replay hholds.accepted hheld hactive hphase hlast
  obtain ⟨rows, hrows, howns⟩ := owned_eq_ok howned
  refine ⟨⟨hcommit, hgeneration, hsession, hload, hactive, ⟨_, context_eq_ok hcontext,
    context_eq_ok hafter, ?_⟩, rows, hrows, ?_⟩, hnew, ?_⟩
  · obtain ⟨pre, hb, c, hp, p, hi, i, hentries, hfresh, hpermit, hissued, hsame, hb', hp', hi'⟩ :=
      hauthorizes.entries
    have howns {h : Header} (hh : h.epoch = g.guarded.desk.journal.state.epoch ∧
        g.guarded.desk.journal.state.ownerId = some h.ownerId) :
        h.epoch = g.transport.generation.epoch ∧ h.ownerId = g.transport.generation.ownerId :=
      ⟨hh.1.trans hepoch, Option.some.inj (hh.2.symm.trans howner)⟩
    exact ⟨pre, hb, c, hp, p, hi, i, hentries, hfresh, hpermit, hissued, hsame, howns hb',
      howns hp', howns hi'⟩
  · rw [← hgeneration]
    exact howns
  · rw [PostgresJournal.held, Bool.or_eq_false_iff] at hlive
    exact hlive.1

/-! ## Nothing resets `_poisoned` -/

/-- A poisoned journal stays poisoned. -/
def Desk.StaysPoisoned (s t : Desk) : Prop := s.journal.poisoned = true → t.journal.poisoned = true

section Poisoned

variable {d : Domain} {x : Surroundings} {α β : Type}

lemma poisoned_of_refl {p : JournalProgram α} (h : ∀ k, (p.run k).2 = k) :
    p.Relates Desk.StaysPoisoned :=
  fun k => by rw [h k]; exact id

lemma poisoned_bind {p : JournalProgram α} {f : α → JournalProgram β}
    (hp : p.Relates Desk.StaysPoisoned) (hf : ∀ a, (f a).Relates Desk.StaysPoisoned) :
    (p >>= f).Relates Desk.StaysPoisoned :=
  hp.bind hf (fun _ _ _ h h' hs => h' (h hs)) fun _ _ => id

lemma poisoned_stopping {p : JournalProgram α} (h : p.Relates Desk.StaysPoisoned) :
    (PostgresJournal.stopping p).Relates Desk.StaysPoisoned :=
  h.tryCatch (S := Desk.StaysPoisoned) (fun _ _ _ => rfl) (fun _ _ _ h h' hs => h' (h hs))
    fun _ _ => id

lemma poisoned_run (event : Option (EventKind × List (String × Json))) :
    (PostgresJournal.run d x event).Relates Desk.StaysPoisoned := by
  refine poisoned_bind (poisoned_of_refl fun _ => rfl) fun k => ?_
  split_ifs
  · exact poisoned_of_refl fun _ => rfl
  intro k' hk
  rw [run_settle]
  split
  · exact hk
  · rfl
  · rfl

lemma poisoned_callerContext {time : PyFloat} :
    (PostgresJournal.callerContext d x time).Relates Desk.StaysPoisoned := by
  intro k
  rw [PostgresJournal.callerContext]
  split
  · exact id
  · split_ifs <;> exact id

lemma poisoned_thenAlways {p : JournalProgram Unit} {cleanup : Desk → Desk}
    (hp : p.Relates Desk.StaysPoisoned) (hcleanup : ∀ k, Desk.StaysPoisoned k (cleanup k)) :
    (p.thenAlways cleanup).Relates Desk.StaysPoisoned :=
  hp.thenAlways fun _ _ h hs => hcleanup _ (h hs)

lemma poisoned_failed : (PostgresJournal.failed d x).Relates Desk.StaysPoisoned := by
  refine poisoned_thenAlways ?_ fun _ _ => rfl
  refine Program.Relates.tryCatch (R := Desk.StaysPoisoned) (S := Desk.StaysPoisoned) ?_
    (fun _ => poisoned_of_refl fun _ => rfl) (fun _ _ _ h h' hs => h' (h hs)) fun _ _ => id
  refine poisoned_bind (poisoned_of_refl fun _ => rfl) fun k => ?_
  split_ifs
  · exact poisoned_run _
  · exact poisoned_of_refl fun _ => rfl

lemma poisoned_close : (PostgresJournal.close d x).Relates Desk.StaysPoisoned := by
  refine poisoned_thenAlways ?_ fun _ => id
  refine poisoned_bind (poisoned_of_refl fun _ => rfl) fun k => ?_
  split_ifs
  · exact poisoned_run _
  · exact fun _ _ => rfl
  · exact poisoned_of_refl fun _ => rfl

/-- No method of a journal resets `_poisoned`. -/
lemma poisoned_call (call : JournalCall) :
    (call.program d x).Relates Desk.StaysPoisoned := by
  cases call with
  | admitCall =>
      refine poisoned_bind (poisoned_stopping ?_) fun _ => poisoned_of_refl fun _ => rfl
      refine poisoned_bind (poisoned_of_refl fun _ => rfl) fun k => ?_
      split_ifs
      · exact poisoned_of_refl fun _ => rfl
      refine poisoned_bind poisoned_callerContext fun _ => poisoned_bind (poisoned_run _) fun _ => ?_
      exact poisoned_bind poisoned_callerContext fun _ => poisoned_of_refl fun _ => rfl
  | begin =>
      exact poisoned_stopping (poisoned_bind poisoned_callerContext fun _ => poisoned_run _)
  | policy =>
      refine poisoned_stopping ?_
      split_ifs
      · exact poisoned_of_refl fun _ => rfl
      · exact poisoned_run _
  | intent authority =>
      refine poisoned_stopping (poisoned_bind (poisoned_of_refl fun _ => rfl) fun k => ?_)
      cases authority with
      | none => exact poisoned_of_refl fun _ => rfl
      | some a =>
          dsimp only
          split_ifs
          · exact poisoned_of_refl fun _ => rfl
          refine poisoned_bind poisoned_callerContext fun _ =>
            poisoned_bind (poisoned_run _) fun _ => ?_
          exact poisoned_bind poisoned_callerContext fun _ => poisoned_of_refl fun _ => rfl
  | finish envelope denials evidence =>
      refine poisoned_stopping ?_
      split_ifs
      · exact poisoned_of_refl fun _ => rfl
      cases attemptEvidence evidence with
      | none => exact poisoned_of_refl fun _ => rfl
      | some records => exact poisoned_run _
  | failed => exact poisoned_failed
  | close => exact poisoned_close

end Poisoned

/-! ## What a step does -/

/-- What a transport pinned when it was built is as it was, and a poisoned journal stays so. -/
structure Guard.Keeps (g h : Guard) : Prop where
  connection : h.transport.connection = g.transport.connection
  generation : h.transport.generation = g.transport.generation
  session : h.transport.session = g.transport.session
  poisoned : Desk.StaysPoisoned g.guarded.desk h.guarded.desk

/-- The request a step handed to the inner transport. -/
def GuardOutput.delegated? : GuardOutput → Option String
  | .delegated requestId => some requestId
  | _ => none

/-- What a step can do, as far as delegations are concerned. -/
inductive GuardStep (g h : Guard) : GuardInput → GuardOutput → Prop
  | delegated {c : Checkpoint} {requestId : String}
      (hcleared : Cleared g.transport g.guarded c requestId)
      (hnew : requestId ∉ g.transport.delegated)
      (hhealthy : g.guarded.desk.journal.poisoned = false)
      (hdelegated : h.transport.delegated = insert requestId g.transport.delegated) :
      GuardStep g h (.request c) (.delegated requestId)
  | refused {c : Checkpoint} {code : String}
      (hpoisoned : h.guarded.desk.journal.poisoned = true)
      (hdelegated : h.transport.delegated = g.transport.delegated) :
      GuardStep g h (.request c) (.raised code)
  | other {a : GuardInput} {o : GuardOutput} (hinput : ∀ c, a ≠ .request c)
      (houtput : o.delegated? = none)
      (hdelegated : h.transport.delegated = g.transport.delegated) : GuardStep g h a o

section Steps

variable {g h : Guard} {c : Checkpoint}

/-- A program that raises in any case, with the transport as it was and the journal stopped. -/
def Guard.Stops {α : Type} (t : GuardedPostgresTransport) (p : GuardProgram α) (Q : Prop) : Prop :=
  p.Triple (fun s => s.transport = t) (fun _ s => Q ∧ s.transport = t) fun _ s =>
    s.transport = t ∧ s.guarded.desk.journal.poisoned = true

lemma stops_stop {α : Type} {t : GuardedPostgresTransport} {Q : Prop} (e : Fault) :
    Guard.Stops t (Guard.stop e : GuardProgram α) Q :=
  fun _ hs => ⟨hs, rfl⟩

lemma run_journal (p : Domain → JournalProgram Unit) (g : Guard) :
    (Guard.journal p).run g = (((p g.guarded.domain).run g.guarded.desk).1,
      { g with guarded := { g.guarded with
        desk := ((p g.guarded.domain).run g.guarded.desk).2 } }) := rfl

lemma stops_failed {t : GuardedPostgresTransport} {x : Surroundings} :
    Guard.Stops t (Guard.journal fun d => PostgresJournal.failed d x) True := by
  intro s hs
  rw [run_journal]
  cases ((PostgresJournal.failed s.guarded.domain x).run s.guarded.desk).1 with
  | ok => exact ⟨trivial, hs⟩
  | error => exact ⟨hs, rfl⟩

/-- The handler of a check raises and leaves the journal stopped. -/
lemma stops_reject {t : GuardedPostgresTransport} (c : Checkpoint) (r : Rejection) :
    Guard.Stops t (Guard.reject c r) False := by
  obtain ⟨error, safe⟩ := r
  cases error with
  | driver => exact stops_stop _
  | hold code =>
      cases safe with
      | false => exact stops_stop _
      | true =>
          let same : Guard → Prop := fun s => s.transport = t
          have hlift {α : Type} (x : Except Fault α) :
              (Program.lift x).Triple same (fun _ => same) fun _ => same := by
            intro s hs
            cases x <;> exact hs
          refine Program.Triple.bind (Q := fun _ => same) (fun _ hs => hs) fun g => ?_
          refine Program.Triple.bind (Q := fun _ s => True ∧ same s)
            (Program.Triple.tryCatch (E := fun _ => same) ?_ stops_stop) fun _ => ?_
          · refine (Program.Triple.bind (hlift _) fun _ => hlift _).conseq (fun _ => id) ?_
              fun _ _ => id
            exact fun _ _ hs => ⟨trivial, hs⟩
          refine Program.Triple.bind (Q := fun _ => same) (fun s hs => hs.2) fun _ => ?_
          refine Program.Triple.bind stops_failed fun _ => ?_
          exact (stops_stop _).conseq (fun _ hs => hs.2) (fun _ _ => id) fun _ _ => id

lemma run_handleAsyncRequest (c : Checkpoint) (g : Guard) :
    (Guard.handleAsyncRequest c).run g =
      (tryCatch (Guard.verify c) fun e => do
        Guard.setPrimaryFailure true
        throw e).run
          { g with transport := { g.transport with primaryFailure := false } } := rfl

lemma run_verify (c : Checkpoint) (g : Guard) :
    (Guard.verify c).run g = match g.inspect c with
      | .ok r => (.ok r, { g with
          transport := { g.transport with delegated := insert r g.transport.delegated } })
      | .error r => (Guard.reject c r).run g := by
  rw [Guard.verify, Program.run_get_bind]
  cases g.inspect c <;> rfl

/-- A request that the check clears is handed over. -/
lemma request_of_ok {c : Checkpoint} {g : Guard} {requestId : String}
    (h : g.inspect c = .ok requestId) :
    (Guard.handleAsyncRequest c).run g = (.ok requestId, { g with
      transport := { g.transport with
        delegated := insert requestId g.transport.delegated, primaryFailure := false } }) := by
  have hinspect : Guard.inspect
      { g with transport := { g.transport with primaryFailure := false } } c = .ok requestId := h
  rw [run_handleAsyncRequest, Program.run_tryCatch, run_verify, hinspect]

/-- A request that it does not clear raises with the journal stopped. -/
lemma request_of_error {c : Checkpoint} {g : Guard} {r : Rejection} (h : g.inspect c = .error r) :
    ∃ e h, (Guard.handleAsyncRequest c).run g = (.error e, h) ∧
      h.guarded.desk.journal.poisoned = true ∧
      h.transport = { g.transport with primaryFailure := true } := by
  let g' : Guard := { g with transport := { g.transport with primaryFailure := false } }
  have hinspect : g'.inspect c = .error r := h
  have hstops := stops_reject (t := g'.transport) c r g' rfl
  rw [run_handleAsyncRequest, Program.run_tryCatch, run_verify, hinspect]
  dsimp only
  rcases hreject : (Guard.reject c r).run g' with ⟨e | a, k⟩ <;> rw [hreject] at hstops
  · obtain ⟨htransport, hpoisoned⟩ := hstops
    refine ⟨e, _, rfl, hpoisoned, ?_⟩
    change { k.transport with primaryFailure := true } = _
    rw [htransport]
  · exact hstops.1.elim

lemma keeps_journal {p : Domain → JournalProgram Unit}
    (h : ∀ d, (p d).Relates Desk.StaysPoisoned) (g : Guard) :
    (((Guard.journal p).run g).2).transport = g.transport ∧
      Desk.StaysPoisoned g.guarded.desk ((Guard.journal p).run g).2.guarded.desk := by
  rw [run_journal]
  exact ⟨rfl, h _ _⟩

lemma keeps_aclose (innerRaises : Bool) (x : Surroundings) (g : Guard) :
    ((Guard.aclose innerRaises x).run g).2.transport = g.transport ∧
      Desk.StaysPoisoned g.guarded.desk ((Guard.aclose innerRaises x).run g).2.guarded.desk := by
  rw [Guard.aclose, Program.run_get_bind]
  split_ifs
  · obtain ⟨htransport, hpoisoned⟩ := keeps_journal (p := fun d => PostgresJournal.failed d x)
      (fun _ => poisoned_failed) g
    rw [Program.run_bind]
    rcases hp : (Guard.journal fun d => PostgresJournal.failed d x).run g with ⟨e | a, h⟩ <;>
      rw [hp] at htransport hpoisoned
    · exact ⟨htransport, hpoisoned⟩
    · exact ⟨htransport, hpoisoned⟩
  · exact ⟨rfl, id⟩

lemma delegated?_ofUnit (result : Except Fault Unit) :
    (GuardOutput.ofUnit result).delegated? = none := by
  cases result <;> rfl

/-- What one step keeps and what it can do. -/
lemma guard_step (g : Guard) (a : GuardInput) :
    g.Keeps (guardMachine.next g a) ∧
      GuardStep g (guardMachine.next g a) a (guardMachine.out g a) := by
  cases a with
  | request c =>
      cases hinspect : g.inspect c with
      | ok r =>
        obtain ⟨hcleared, hnew, hhealthy⟩ := cleared_of_inspect hinspect
        simp only [guardMachine, Machine.next, Machine.out, request_of_ok hinspect]
        exact ⟨⟨rfl, rfl, rfl, id⟩, .delegated hcleared hnew hhealthy rfl⟩
      | error r =>
        obtain ⟨e, h, hrun, hpoisoned, htransport⟩ := request_of_error hinspect
        simp only [guardMachine, Machine.next, Machine.out, hrun]
        refine ⟨⟨?_, ?_, ?_, fun _ => hpoisoned⟩, .refused hpoisoned ?_⟩
        all_goals rw [htransport]
  | innerRaised =>
      simp only [guardMachine, Machine.next, Machine.out]
      exact ⟨⟨rfl, rfl, rfl, id⟩, .other (fun _ h => nomatch h) rfl rfl⟩
  | aclose innerRaises x =>
      simp only [guardMachine, Machine.next, Machine.out]
      obtain ⟨htransport, hpoisoned⟩ := keeps_aclose innerRaises x g
      refine ⟨⟨?_, ?_, ?_, hpoisoned⟩, .other (fun _ h => nomatch h) (delegated?_ofUnit _) ?_⟩
      all_goals exact congrArg _ htransport
  | aexit raised innerRaises x =>
      let g' : Guard := { g with
        transport := { g.transport with primaryFailure := g.transport.primaryFailure || raised } }
      obtain ⟨htransport, hpoisoned⟩ := keeps_aclose innerRaises x g'
      have hsame {β : Type} (f : GuardedPostgresTransport → β) (hf : f g'.transport = f g.transport) :
          f ((Guard.aclose innerRaises x).run g').2.transport = f g.transport :=
        (congrArg f htransport).trans hf
      simp only [guardMachine, Machine.next, Machine.out]
      exact ⟨⟨hsame _ rfl, hsame _ rfl, hsame _ rfl, hpoisoned⟩,
        .other (fun _ h => nomatch h) (delegated?_ofUnit _) (hsame _ rfl)⟩
  | call call x =>
      simp only [guardMachine, Machine.next, Machine.out]
      obtain ⟨htransport, hpoisoned⟩ := keeps_journal (p := fun d => call.program d x)
        (fun _ => poisoned_call call) g
      refine ⟨⟨?_, ?_, ?_, hpoisoned⟩, .other (fun _ h => nomatch h) (delegated?_ofUnit _) ?_⟩
      all_goals exact congrArg _ htransport
  | elsewhere w =>
      simp only [guardMachine, Machine.next, Machine.out]
      refine ⟨⟨rfl, rfl, rfl, fun h => ?_⟩, .other (fun _ h => nomatch h) rfl rfl⟩
      change (g.guarded.desk.journal.poisoned || w.desk.journal.poisoned) = true
      rw [show g.guarded.desk.journal.poisoned = true from h, Bool.true_or]

end Steps

/-! ## Single delegation -/

/-- One step of a guarded transport, with the states around it. -/
abbrev GuardStage := Stage Guard GuardInput GuardOutput

/-- A check that failed or raised. -/
def GuardStage.Refused (e : GuardStage) : Prop :=
  ∃ c code, e.input = .request c ∧ e.output = .raised code

lemma Cleared.of_keeps {t t' : GuardedPostgresTransport} {w : GuardedJournal} {c : Checkpoint}
    {requestId : String} (h : Cleared t' w c requestId) (hgeneration : t'.generation = t.generation)
    (hsession : t'.session = t.session) : Cleared t w c requestId := by
  obtain ⟨hcommitted, hsame, hbackend, hloaded, hactive, hintent, hlock⟩ := h
  rw [hgeneration] at hsame hintent hlock
  rw [hsession] at hbackend hlock
  exact ⟨hcommitted, hsame, hbackend, hloaded, hactive, hintent, hlock⟩

/-- What a constructor pins. -/
lemma pinned_of_construct {k k' : GuardedJournal} {c : Checkpoint} {t : GuardedPostgresTransport}
    (h : GuardedPostgresTransport.construct c k = (.ok t, k')) :
    t.generation = k.generation ∧ Backend.read c.backend = .ok t.session ∧ t.delegated = ∅ := by
  unfold GuardedPostgresTransport.construct at h
  dsimp only at h
  split at h
  · rename_i session hchecked
    obtain ⟨ht, -⟩ := Prod.mk.inj h
    simp only [Except.bind_eq_ok, Except.pure_eq_ok] at hchecked
    obtain ⟨_, -, _, -, session', hsession, _, -, _, -, _, -, rfl⟩ := hchecked
    rw [← Except.ok.inj ht]
    exact ⟨rfl, hsession, rfl⟩
  · cases (Prod.mk.inj h).1

/-- **Single delegation.**  In every run of a transport from its construction:
* what it pinned is the epoch, the owner and the session of its journal then;
* no request is handed to the inner transport twice;
* a request is handed over only by a check that cleared it: its commit was acknowledged, what
  `_load` returned was the journal's own state, and the history it validated ends with the
  `begin`, the `policy` (a permission with its binding) and the `intent` of the active request,
  of the pinned owner in the pinned epoch, with the context of the caller now and after the
  commit, and the pinned session holds the owner's lock;
* after a check that failed or raised, nothing is handed over. -/
theorem guardedTransport_single_delegation {k k' : GuardedJournal} {c : Checkpoint}
    {t : GuardedPostgresTransport} (h : GuardedPostgresTransport.construct c k = (.ok t, k'))
    (inputs : List GuardInput) :
    let stages := guardMachine.trace ⟨t, k'⟩ inputs
    (t.generation = k.generation ∧ Backend.read c.backend = .ok t.session ∧ t.delegated = ∅) ∧
    (stages.filterMap fun e => e.output.delegated?).Nodup ∧
    (∀ e ∈ stages, ∀ requestId, e.output = .delegated requestId →
      ∃ c, e.input = .request c ∧ Cleared t e.before.guarded c requestId) ∧
    stages.Pairwise fun a b => GuardStage.Refused a → b.output.delegated? = none := by
  refine ⟨pinned_of_construct h, ?_, ?_, ?_⟩
  · have hrun := guardMachine.trace_induction (s := ⟨t, k'⟩)
      (Q := fun stages g => (stages.filterMap fun e => e.output.delegated?).Nodup ∧
        ∀ r ∈ stages.filterMap fun e => e.output.delegated?, r ∈ g.transport.delegated)
      ⟨List.nodup_nil, by simp⟩ ?_ inputs
    · exact hrun.1
    rintro stages g a ⟨hnodup, hmem⟩
    obtain ⟨-, hstep⟩ := guard_step g a
    generalize guardMachine.next g a = g' at hstep ⊢
    have hout : (guardMachine.stage g a).output = guardMachine.out g a := rfl
    rw [List.filterMap_append, List.filterMap_cons, hout, List.filterMap_nil]
    generalize guardMachine.out g a = o at hstep ⊢
    cases hstep with
    | @delegated c r hcleared hnew hhealthy hdelegated =>
        refine ⟨?_, fun q hq => ?_⟩
        · refine List.nodup_append.mpr ⟨hnodup, List.nodup_singleton _, ?_⟩
          rintro q hq _ hq' rfl
          obtain rfl := List.mem_singleton.mp hq'
          exact hnew (hmem _ hq)
        · rw [hdelegated, Finset.mem_insert]
          rcases List.mem_append.mp hq with hq | hq
          · exact .inr (hmem q hq)
          · exact .inl (List.mem_singleton.mp hq)
    | refused hpoisoned hdelegated =>
        simp only [GuardOutput.delegated?, List.append_nil, hdelegated]
        exact ⟨hnodup, hmem⟩
    | other hinput houtput hdelegated =>
        simp only [houtput, List.append_nil, hdelegated]
        exact ⟨hnodup, hmem⟩
  · have hpinned : guardMachine.Preserved fun g =>
        g.transport.generation = t.generation ∧ g.transport.session = t.session := by
      intro g a hg
      obtain ⟨hkeeps, -⟩ := guard_step g a
      exact ⟨hkeeps.generation.trans hg.1, hkeeps.session.trans hg.2⟩
    intro e he requestId hdelegated
    obtain ⟨hgeneration, hsession⟩ := hpinned.trace ⟨rfl, rfl⟩ he
    obtain ⟨pre, -, -, hstage⟩ := guardMachine.exists_of_mem_trace he
    obtain ⟨-, hstep⟩ := guard_step e.before e.input
    have hout : guardMachine.out e.before e.input = .delegated requestId := by
      rw [← hdelegated, hstage]
      rfl
    rw [hout] at hstep
    cases hinput : e.input with
    | request c =>
        rw [hinput] at hstep
        cases hstep with
        | delegated hcleared => exact ⟨c, rfl, hcleared.of_keeps hgeneration hsession⟩
        | other _ houtput => cases houtput
    | _ =>
        rw [hinput] at hstep
        cases hstep with
        | other _ houtput => cases houtput
  · refine Machine.pairwise_trace (I := fun _ => True)
      (K := fun a g => GuardStage.Refused a → g.guarded.desk.journal.poisoned = true)
      (fun _ _ _ => trivial) ?_ ?_ ?_ trivial inputs
    · rintro g a _ ⟨c, code, hinput, houtput⟩
      obtain ⟨-, hstep⟩ := guard_step g a
      rw [show guardMachine.out g a = .raised code from houtput] at hstep
      cases hstep with
      | refused hpoisoned => exact hpoisoned
      | other hother => exact absurd hinput (hother c)
    · intro d g a _ hkept hrefused
      exact (guard_step g a).1.poisoned (hkept hrefused)
    · intro d g a _ hkept hrefused
      have hpoisoned := hkept hrefused
      obtain ⟨-, hstep⟩ := guard_step g a
      change (guardMachine.out g a).delegated? = none
      generalize guardMachine.out g a = o at hstep ⊢
      cases hstep with
      | delegated _ _ hhealthy => simp [hpoisoned] at hhealthy
      | refused => rfl
      | other _ houtput => exact houtput

/-! ### A synthetic transport -/

lemma construct_of_checks {w : GuardedJournal} {c : Checkpoint} {session : Backend}
    (hrequire : w.requireConnection w.db w.generation c.autocommit = .ok ())
    (hprepare : c.surroundings.session.prepare = .ok ())
    (hsession : Backend.read c.backend = .ok session) (hcloses : c.closes = true)
    (hcommit : c.surroundings.commit = .acknowledged)
    (hafter : w.requireConnection w.db w.generation c.autocommitAfter = .ok ()) :
    GuardedPostgresTransport.construct c w =
      (.ok { connection := w.db, generation := w.generation, session }, w) := by
  simp only [GuardedPostgresTransport.construct, hrequire, hprepare, hsession, hcloses, hcommit,
    hafter, ensure_true, decide_true, Except.ok_bind]
  rfl

lemma out_of_ok {g : Guard} {c : Checkpoint} {requestId : String}
    (h : g.inspect c = .ok requestId) :
    guardMachine.out g (.request c) = .delegated requestId := by
  simp only [guardMachine, Machine.out, request_of_ok h]

/-- A ledger whose row is the projection of its history loads. -/
lemma load_of_replay {db : Ledger} {l : LedgerIdentity} {row : DomainRow} {state : LedgerState}
    (hrow : db.row = some (row.project state))
    (hsame : row.domainJson = canonical true l.domain.toJson ∧ row.revision = l.revision ∧
      row.sourceSha = l.sourceSha)
    (hreplay : replay l db.events = some state) : db.load l = .ok (state, db.events) := by
  obtain ⟨hdomain, hrevision, hsource⟩ := hsame
  have hlength := (replay_eq_some.mp hreplay).1.2.1
  have htake : db.events.take (maxEvents + 1) = db.events := List.take_of_length_le (by omega)
  have hstate := replayOrHold_eq_ok.mpr hreplay
  simp only [Ledger.load, hrow, DomainRow.project, hdomain, hrevision, hsource, htake, hstate,
    decide_true, Bool.and_self, ensure_true, Except.ok_bind]
  rfl

def sampleCaller : Context := ⟨"caller", "issuer", "audience", "session", "call", 200⟩

/-- What a check finds where all is well. -/
def sampleSurroundings : Surroundings where
  session := { responds := true, autocommit := false, fsync := "on", synchronousCommit := "on",
               versions := [1], lock := true, writes := true }
  commit := .acknowledged
  context := some sampleCaller
  checkTime := .zero
  eventTime := .zero
  recheckTime := .zero

/-- The owner of the synthetic ledger, with its rows and its row. -/
def sampleGuarded : GuardedJournal where
  desk := {
    ledger := {
      row := some (DomainRow.project {
        domainJson := canonical true sampleIdentity.domain.toJson
        revision := sampleIdentity.revision
        sourceSha := sampleIdentity.sourceSha
        epoch := 0
        ownerId := none
        ownerActive := false
        denials := 0
        held := false
        sequence := 0
        digest := "" } sampleJournal.state)
      events := chainRows 0 "" sampleEvents }
    journal := sampleJournal }
  domain := sampleIdentity.domain
  domainKey := sampleIdentity.domainKey
  connection := 0

def sampleBackend : Backend where
  pid := 1
  database := 1
  databaseName := "civicgate"
  user := "owner"
  started := "now"
  positive := by decide
  named := by decide

/-- The lock of the synthetic owner. -/
def sampleLock : LockRow where
  locktype := "advisory"
  granted := true
  mode := "ExclusiveLock"
  pid := 1
  database := 1
  classid := lockKey sampleIdentity.domainKey / 2 ^ 32
  objid := lockKey sampleIdentity.domainKey % 2 ^ 32
  objsubid := 1

def sampleCheckpoint : Checkpoint where
  autocommit := false
  autocommitAfter := false
  autocommitLast := false
  surroundings := sampleSurroundings
  backend := some [.int 1, .int 1, .text "civicgate", .text "owner", .text "now"]
  locks := .table [sampleLock]
  closes := true
  rollsBack := true
  contextAfter := some sampleCaller
  ledgerAtHold := {}
  hold := sampleSurroundings

def sampleTransport : GuardedPostgresTransport where
  connection := sampleGuarded.db
  generation := sampleGuarded.generation
  session := sampleBackend

lemma requireConnection_sample (h : sampleGuarded.desk.journal.state.held = false) :
    sampleGuarded.requireConnection sampleGuarded.db sampleGuarded.generation false = .ok () := by
  have hkey : sampleIdentity.domain.key = sampleIdentity.domainKey := by
    simp only [sampleIdentity]
  refine requireConnection_eq_ok.mpr ⟨⟨rfl, ?_, ?_, rfl, rfl⟩, rfl, hkey⟩
  · rw [PostgresJournal.held, h]
    rfl
  · exact Option.some_ne_none _

lemma construct_sample : GuardedPostgresTransport.construct sampleCheckpoint sampleGuarded =
    (.ok sampleTransport, sampleGuarded) := by
  have hrequire := requireConnection_sample intending_sample.held
  exact construct_of_checks hrequire rfl rfl rfl rfl hrequire

/-- The payload of the last row is the text of the last event. -/
lemma getLast?_chainRows (sequence : ℕ) (digest : String) (events : List Json) (event : Json) :
    ((chainRows sequence digest (events ++ [event])).getLast?.map Row.payload) =
      some (canonical true event) := by
  induction events generalizing sequence digest with
  | nil => rfl
  | cons e events ih =>
      rw [List.cons_append, chainRows]
      cases hrows : chainRows (sequence + 1) (rowAfter sequence digest e).digest
        (events ++ [event]) with
      | nil =>
          have := congrArg List.length hrows
          simp [length_chainRows] at this
      | cons row rows => rw [List.getLast?_cons_cons, ← hrows, ih]

lemma context_sampleIntent :
    (sampleEvents.getLast (by decide)).get? "context" = some sampleCaller.toJson.normalize := by
  have hlast : sampleEvents.getLast (by decide) = sampleEvent .intent [("request_id", .str "request"), ("context", sampleContext),
      ("authority", .dict [("authority_source", .str "DETERMINISTIC_POLICY_GATE"),
        ("decision", .str "PERMIT"), ("reasons", .list [.str "BOUNDED_PUBLIC_RESEARCH"]),
        ("policy_version", .str policyVersion), ("binding", sampleBinding)]),
      ("containment_denials", .int 0), ("dispatch_state", .str "NOT_DISPATCHED")] := by
    simp only [sampleEvents, List.getLast_cons_cons, List.getLast_singleton]
  rw [hlast, sampleEvent, Json.get?_normalize]
  · rfl
  · simp only [List.map_append, List.map_cons, List.map_nil]
    decide

lemma lastContext_sample :
    lastContext (chainRows 0 "" sampleEvents) = .ok sampleCaller.toJson.normalize := by
  have hmem : sampleEvents.getLast (by decide) ∈ sampleEvents ++ [sampleFinish] :=
    List.mem_append_left _ (List.getLast_mem _)
  have hrecordable := List.all_eq_true.mp recordable_sampleEvents _ hmem
  simp only [Json.recordable, Bool.and_eq_true, decide_eq_true_eq] at hrecordable
  obtain ⟨⟨hnormal, hdigits⟩, -⟩ := hrecordable
  have hlast := getLast?_chainRows 0 "" sampleEvents.dropLast (sampleEvents.getLast (by decide))
  rw [List.dropLast_append_getLast] at hlast
  obtain ⟨row, hrow, hpayload⟩ := Option.map_eq_some_iff.mp hlast
  have hloads : loads row.payload = some (sampleEvents.getLast (by decide)) := by
    rw [hpayload, loads_canonical (by rw [hnormal]; exact hdigits), hnormal]
  rw [lastContext, hrow, Option.bind_some, hloads, Option.bind_some, context_sampleIntent]

lemma load_sample : sampleGuarded.desk.ledger.load
    (sampleGuarded.desk.journal.identity sampleGuarded.domain) =
      .ok (sampleJournal.state, chainRows 0 "" sampleEvents) := by
  obtain ⟨r, hr, hstate, -⟩ := intending_sample.accepted
  rw [identity_sample] at hr
  have hreplay : replay sampleIdentity (chainRows 0 "" sampleEvents) =
      some sampleJournal.state := by
    rw [replay, hr, Option.map_some, hstate]
  have hidentity : sampleGuarded.desk.journal.identity sampleGuarded.domain = sampleIdentity := by
    simp only [sampleGuarded, identity_sample]
  rw [hidentity]
  exact load_of_replay rfl ⟨rfl, rfl, rfl⟩ hreplay

lemma context_sample {x : Surroundings} (hx : x.context = some sampleCaller) {time : PyFloat}
    (htime : time.value < 200) : sampleGuarded.context x time = .ok sampleCaller := by
  have hcaller : sampleCaller.principal = sampleGuarded.domain.principal ∧
      sampleCaller.issuer = sampleGuarded.domain.issuer ∧
      sampleCaller.audience = sampleGuarded.domain.audience ∧
      time.value < sampleCaller.expiresAt := ⟨rfl, rfl, rfl, htime⟩
  simp only [GuardedJournal.context, PostgresJournal.callerContext, hx, if_pos hcaller]
  rfl

lemma intent_sample : sampleTransport.activeIntent sampleJournal.state (chainRows 0 "" sampleEvents)
    sampleCaller = .ok "request" := by
  obtain ⟨r, hr, -, -, -, -, -, -, hpermitted, hissued, -⟩ := accept_sampleEvents
  have hstate : sampleJournal.state = r.ledger := by
    simp only [sampleJournal, sampleState, hr, Option.map_some, Option.getD_some]
  have hdecided : sampleJournal.state.initialDecision = some .permit ∧
      sampleJournal.state.bindingIssued = true := by
    rw [hstate]
    exact ⟨hpermitted, hissued⟩
  have hphase : sampleJournal.state.phase = some .intent := intending_sample.phase
  have hrequest : sampleJournal.state.active = some "request" := intending_sample.active
  have hdelegated : sampleTransport.delegated = ∅ := rfl
  unfold GuardedPostgresTransport.activeIntent
  simp only [hrequest, hphase, hdecided, hdelegated, lastContext_sample, Except.ok_bind]
  rfl

lemma inspect_sample : Guard.inspect ⟨sampleTransport, sampleGuarded⟩ sampleCheckpoint =
    .ok "request" := by
  obtain ⟨-, howner, hactive, hheld, hphase, hrequest⟩ := intending_sample
  have hrequire := requireConnection_sample hheld
  have hzero : PyFloat.zero.value < 200 := by decide
  have hbefore := context_sample (x := sampleCheckpoint.surroundings) rfl hzero
  have hafter := context_sample (x := { sampleCheckpoint.surroundings with
    context := sampleCheckpoint.contextAfter }) rfl hzero
  have howned : sampleCheckpoint.locks.owned sampleTransport.session sampleGuarded.domainKey =
      .ok true := by
    simp [LockAnswer.owned, sampleCheckpoint, sampleLock, LockRow.owned, sampleBackend,
      sampleTransport, sampleGuarded]
  have hprepare : sampleCheckpoint.surroundings.session.prepare = .ok () := rfl
  have hbackend : Backend.read sampleCheckpoint.backend = .ok sampleTransport.session := rfl
  have hcached : sampleGuarded.desk.journal.state = sampleJournal.state := rfl
  have hcommit : sampleCheckpoint.surroundings.commit = .acknowledged := rfl
  have hepoch : sampleJournal.state.epoch = sampleTransport.generation.epoch := by
    simp only [sampleTransport, GuardedJournal.generation, hcached]
  have hpinned : sampleJournal.state.ownerId = some sampleTransport.generation.ownerId := howner
  simp only [Guard.inspect, rejecting, Except.bind_eq_ok, Except.reraise_eq_ok, ensure_eq_ok,
    Except.pure_eq_ok, Prod.exists, Bool.and_eq_true, Bool.not_eq_true', decide_eq_true_eq,
    hcached]
  refine ⟨(), hrequire, sampleCaller, hbefore, (), hprepare, sampleTransport.session, hbackend, (),
    rfl, sampleJournal.state, chainRows 0 "" sampleEvents, load_sample, (), ?_, true, howned, (), rfl, "request",
    intent_sample, (), ?_, (), hcommit, (), hrequire, sampleCaller, hafter, (), rfl, rfl⟩
  · exact ⟨⟨⟨⟨rfl, hepoch⟩, hpinned⟩, hactive⟩, hheld⟩
  · rfl

/-- A request, its outcome, and the request again. -/
def sampleRequests : List GuardInput :=
  [.request sampleCheckpoint, .innerRaised, .request sampleCheckpoint]

/-- The intent of the synthetic ledger is handed over, and never twice. -/
theorem guardedTransport_single_delegation_sample :
    GuardedPostgresTransport.construct sampleCheckpoint sampleGuarded =
        (.ok sampleTransport, sampleGuarded) ∧
      guardMachine.out ⟨sampleTransport, sampleGuarded⟩ (.request sampleCheckpoint) =
        .delegated "request" ∧
      ((guardMachine.trace ⟨sampleTransport, sampleGuarded⟩ sampleRequests).filterMap
        fun e => e.output.delegated?).Nodup := by
  have hrun := guardedTransport_single_delegation construct_sample sampleRequests
  exact ⟨construct_sample, out_of_ok inspect_sample, hrun.2.1⟩

end CivicGate
