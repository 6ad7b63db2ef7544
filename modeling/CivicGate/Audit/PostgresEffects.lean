import CivicGate.Audit.History.Projection
import CivicGate.Audit.PostgresJournal

/-!
# What a method of the PostgreSQL journal does

A transaction that commits adds one event to a ledger that holds the state it loaded
(`Appends`).  A method does nothing durable or runs one such transaction from the state its
journal remembers (`Desk.Effect`, `relates_call`); one that raised leaves a journal that cannot
append (`not_live_of_call`).
-/

namespace CivicGate

/-! ## Transactions -/

/-- The ledger validates as this domain and source, with the state as its projection. -/
structure Ledger.Holds (db : Ledger) (l : LedgerIdentity) (state : LedgerState) : Prop where
  row : ∃ r, db.row = some r ∧ r.revision = l.revision ∧ r.sourceSha = l.sourceSha ∧
    r.project state = r
  accepted : replay l db.events = some state

lemma Ledger.Holds.unique {db : Ledger} {d : Domain} {revision revision' source source' : String}
    {state state' : LedgerState} (h : db.Holds ⟨d.key, d, revision, source⟩ state)
    (h' : db.Holds ⟨d.key, d, revision', source'⟩ state') :
    (revision = revision' ∧ source = source') ∧ state = state' := by
  obtain ⟨⟨r, hr, rfl, rfl, -⟩, haccepted⟩ := h
  obtain ⟨⟨r', hr', rfl, rfl, -⟩, haccepted'⟩ := h'
  obtain rfl := Option.some.inj (hr.symm.trans hr')
  exact ⟨⟨rfl, rfl⟩, Option.some.inj (haccepted.symm.trans haccepted')⟩

lemma Ledger.Holds.projects {db : Ledger} {l : LedgerIdentity} {state : LedgerState}
    (h : db.Holds l state) : ∃ s, s.ledger = state ∧ Projects db.events s := by
  obtain ⟨-, s, hs, hstate⟩ := replay_eq_some.mp h.accepted
  exact ⟨s, hstate, projects_of_accept hs⟩

/-- One event appended to a ledger. -/
structure Appends (l : LedgerIdentity) (kind : EventKind) (before after : Ledger)
    (state next : LedgerState) (row : Row) : Prop where
  holds : before.Holds l state
  holdsNext : after.Holds l next
  events : after.events = before.events ++ [row]
  kind : row.kind = kind.text

lemma replayOrHold_eq_ok {l : LedgerIdentity} {rows : List Row} {state : LedgerState} :
    replayOrHold l rows = .ok state ↔ replay l rows = some state := by
  unfold replayOrHold
  cases replay l rows <;> simp

/-- What `_load` returns is what the ledger holds. -/
lemma load_eq_ok {db : Ledger} {l : LedgerIdentity} {state : LedgerState} {rows : List Row}
    (h : db.load l = .ok (state, rows)) : db.Holds l state ∧ rows = db.events := by
  unfold Ledger.load at h
  split at h
  · cases h
  · rename_i row hrow
    simp only [Except.bind_eq_ok, ensure_eq_ok, Except.pure_eq_ok, replayOrHold_eq_ok,
      Bool.and_eq_true, decide_eq_true_eq, Prod.mk.injEq] at h
    obtain ⟨-, ⟨⟨-, hrevision⟩, hsource⟩, state', hreplay, -, hproject, rfl, rfl⟩ := h
    have hall : db.events.take (maxEvents + 1) = db.events := by
      have hlength := (replay_eq_some.mp hreplay).1.2.1
      rw [List.length_take] at hlength
      exact List.take_of_length_le (by omega)
    rw [hall] at hreplay
    exact ⟨⟨⟨row, hrow, hrevision, hsource, hproject⟩, hreplay⟩, hall⟩

lemma kind_rowAfter {sequence : ℕ} {digest : String} {event : Json} {kind : EventKind}
    (h : event.getStr? "kind" = some kind.text) :
    (rowAfter sequence digest event).kind = kind.text := by
  rw [rowAfter, h]
  rfl

/-- What `_append` leaves, where it returns. -/
lemma append_eq_ok {db after : Ledger} {l : LedgerIdentity} {state next : LedgerState}
    {rows : List Row} {writes : Bool} {event : Json}
    (h : db.append l state rows writes event = .ok (after, next)) :
    replay l (rows ++ [rowAfter state.sequence state.digest event]) = some next ∧
      after.events = db.events ++ [rowAfter state.sequence state.digest event] ∧
      ∃ r, db.row = some r ∧ after.row = some (r.project next) ∧ r.revision = l.revision ∧
        r.sourceSha = l.sourceSha := by
  simp only [Ledger.append, Except.bind_eq_ok, ensure_eq_ok, Except.pure_eq_ok,
    replayOrHold_eq_ok, Prod.mk.injEq, Ledger.insertEvent] at h
  obtain ⟨-, -, next', hreplay, -, -, inserted, ⟨-, -, rfl⟩, updated, hupdate, rfl, rfl⟩ := h
  unfold Ledger.updateState at hupdate
  split at hupdate
  · cases hupdate
  · rename_i r hr
    simp only [Except.bind_eq_ok, ensure_eq_ok, Except.pure_eq_ok, Bool.and_eq_true,
      decide_eq_true_eq] at hupdate
    obtain ⟨-, ⟨⟨-, hrevision⟩, hsource⟩, rfl⟩ := hupdate
    exact ⟨hreplay, rfl, r, hr, rfl, hrevision, hsource⟩

/-- A transaction that loads and appends adds one event. -/
lemma appends_of_append {db after : Ledger} {l : LedgerIdentity} {state next : LedgerState}
    {writes : Bool} {event : Json} {kind : EventKind} (hbefore : db.Holds l state)
    (hkind : event.getStr? "kind" = some kind.text)
    (h : db.append l state db.events writes event = .ok (after, next)) :
    ∃ row, Appends l kind db after state next row := by
  obtain ⟨hreplay, hevents, r, -, hafter, hrevision, hsource⟩ := append_eq_ok h
  exact ⟨_, hbefore, ⟨⟨_, hafter, hrevision, hsource, rfl⟩, hevents ▸ hreplay⟩, hevents,
    kind_rowAfter hkind⟩

/-- The row an append adds is the last step of its replay. -/
lemma Appends.replayRow {l : LedgerIdentity} {kind : EventKind} {before after : Ledger}
    {state next : LedgerState} {row : Row} (h : Appends l kind before after state next row) :
    ∃ s t, s.ledger = state ∧ t.ledger = next ∧ 0 < s.ledger.sequence ∧
      replayRow l s row = some t := by
  obtain ⟨⟨hpos, -, -⟩, s, hs, hstate⟩ := replay_eq_some.mp h.holds.accepted
  have haccepted := h.holdsNext.accepted
  rw [h.events] at haccepted
  obtain ⟨-, t, ht, hnext⟩ := replay_eq_some.mp haccepted
  obtain ⟨s', hs', hrow⟩ := accept_concat_eq_some.mp ht
  obtain rfl := Option.some.inj (hs.symm.trans hs')
  exact ⟨s, t, hstate, hnext, by rw [(projects_of_accept hs).sequence]; exact hpos, hrow⟩

/-- A boot opens the next epoch. -/
lemma Appends.boot {l : LedgerIdentity} {before after : Ledger} {state next : LedgerState}
    {row : Row} (h : Appends l .boot before after state next row) :
    state.held = false ∧ state.ownerActive = false ∧ next.epoch = state.epoch + 1 ∧
      next.ownerActive = true ∧ row.epoch? = some next.epoch := by
  obtain ⟨s, t, rfl, rfl, -, hrow⟩ := h.replayRow
  exact replayRow_boot hrow h.kind

/-- Any other event stays in the epoch of the active owner. -/
lemma Appends.owned {l : LedgerIdentity} {kind : EventKind} {before after : Ledger}
    {state next : LedgerState} {row : Row} (h : Appends l kind before after state next row)
    (hkind : kind ≠ .boot) :
    state.ownerActive = true ∧ next.epoch = state.epoch ∧
      next.ownerActive = decide (kind ≠ .close) ∧ row.epoch? = some next.epoch := by
  obtain ⟨s, t, rfl, rfl, hpos, hrow⟩ := h.replayRow
  have htext : row.kind ≠ "boot" := by
    rw [h.kind]
    cases kind <;> first | exact absurd rfl hkind | decide
  have hclose : row.kind = "close" ↔ kind = .close := by
    rw [h.kind]
    cases kind <;> decide
  obtain ⟨hactive, hepoch, howner, hrowEpoch⟩ := replayRow_owned hrow hpos htext
  refine ⟨hactive, hepoch, ?_, hrowEpoch⟩
  rw [howner, decide_eq_decide, ne_eq, ne_eq, hclose]

lemma Appends.since {l : LedgerIdentity} {kind : EventKind} {before after : Ledger}
    {state next : LedgerState} {row : Row} (h : Appends l kind before after state next row) :
    after.since before = [row] := by
  rw [Ledger.since, h.events, List.drop_left]

/-! ## Methods -/

/-- A journal that can still append. -/
def PostgresJournal.live (j : PostgresJournal) : Bool := !j.closed && !j.held && j.connected

/-- A later journal appends only if the earlier one could, and then from the same state. -/
structure PostgresJournal.Keeps (d : Domain) (j j' : PostgresJournal) : Prop where
  identity : j'.identity d = j.identity d
  live : j'.live = true → j.live = true ∧ j'.state = j.state

/-- Nothing durable happened. -/
structure Desk.Quiet (d : Domain) (s t : Desk) : Prop where
  ledger : t.ledger = s.ledger
  journal : s.journal.Keeps d t.journal

/-- What a method may do to a ledger and its journal: nothing durable, or one event. -/
inductive Desk.Effect (d : Domain) (x : Surroundings) (kind : Option EventKind) (s t : Desk) : Prop
  | quiet (h : Desk.Quiet d s t)
  | append {k : EventKind} {row : Row} {next : LedgerState} (hkind : kind = some k)
      (hlive : s.journal.live = true)
      (happends : Appends (s.journal.identity d) k s.ledger t.ledger s.journal.state next row)
      (hidentity : t.journal.identity d = s.journal.identity d)
      (hafter : t.journal.live = true → x.commit = .acknowledged ∧ t.journal.state = next)

/-- The kind of event a method appends. -/
def JournalCall.kind : JournalCall → Option EventKind
  | .admitCall => none
  | .begin _ => some .begin
  | .policy _ _ => some .policy
  | .intent _ => some .intent
  | .finish _ _ _ => some .finish
  | .failed => some .hold
  | .close => some .close

section Effects

variable {d : Domain} {x : Surroundings} {kind : Option EventKind} {s t u : Desk}

lemma Desk.Quiet.refl (s : Desk) : Desk.Quiet d s s := ⟨rfl, rfl, fun h => ⟨h, rfl⟩⟩

lemma Desk.Quiet.trans (h : Desk.Quiet d s t) (h' : Desk.Quiet d t u) : Desk.Quiet d s u := by
  refine ⟨h'.ledger.trans h.ledger, h'.journal.identity.trans h.journal.identity, fun hlive => ?_⟩
  obtain ⟨hlive', hstate'⟩ := h'.journal.live hlive
  obtain ⟨hlive'', hstate''⟩ := h.journal.live hlive'
  exact ⟨hlive'', hstate'.trans hstate''⟩

lemma Desk.Effect.then_quiet (h : Desk.Effect d x kind s t) (h' : Desk.Quiet d t u) :
    Desk.Effect d x kind s u := by
  cases h with
  | quiet h => exact .quiet (h.trans h')
  | append hkind hlive happends hidentity hafter =>
      refine .append hkind hlive (h'.ledger ▸ happends) (h'.journal.identity.trans hidentity) ?_
      intro hu
      obtain ⟨ht, hstate⟩ := h'.journal.live hu
      exact ⟨(hafter ht).1, hstate.trans (hafter ht).2⟩

lemma Desk.Quiet.then_effect (h : Desk.Quiet d s t) (h' : Desk.Effect d x kind t u) :
    Desk.Effect d x kind s u := by
  cases h' with
  | quiet h' => exact .quiet (h.trans h')
  | append hkind hlive happends hidentity hafter =>
      obtain ⟨hs, hstate⟩ := h.journal.live hlive
      rw [h.journal.identity, h.ledger, hstate] at happends
      exact .append hkind hs happends (hidentity.trans h.journal.identity) hafter

lemma not_live_stopped (j : PostgresJournal) : j.stopped.live = false := by
  simp [PostgresJournal.live, PostgresJournal.stopped]

lemma quiet_stopped (k : Desk) : Desk.Quiet d k { k with journal := k.journal.stopped } :=
  ⟨rfl, rfl, fun h => by simp [not_live_stopped] at h⟩

/-- `_stop` appends nothing. -/
lemma relates_stopping {α : Type} {p : JournalProgram α}
    (h : p.Relates (Desk.Effect d x kind)) :
    (PostgresJournal.stopping p).Relates (Desk.Effect d x kind) :=
  h.tryCatch (S := Desk.Quiet d) (fun _ k => quiet_stopped k)
    (fun _ _ _ => Desk.Effect.then_quiet) (fun _ _ => id)

/-- A method that raised out of `_stop` leaves a journal that cannot append. -/
lemma not_live_of_stopping {α : Type} {p : JournalProgram α} {e : Fault}
    (h : (PostgresJournal.stopping p).run s = (.error e, t)) : t.journal.live = false := by
  rw [PostgresJournal.stopping, Program.run_tryCatch] at h
  rcases hp : p.run s with ⟨f | a, u⟩ <;> rw [hp] at h
  · obtain ⟨-, rfl⟩ := Prod.mk.inj h
    exact not_live_stopped _
  · cases (Prod.mk.inj h).1

/-- What a transaction leaves, once its commit ended. -/
lemma run_settle (commit : Commit) (transaction : Except Fault (Ledger × LedgerState)) (k : Desk) :
    ((PostgresJournal.settle commit transaction).run k).2 = match transaction, commit with
      | .ok (ledger, state), .acknowledged => { ledger, journal := { k.journal with state } }
      | .ok (ledger, _), .lost => { ledger, journal := k.journal.stopped }
      | _, _ => { k with journal := k.journal.stopped } := by
  cases transaction with
  | error e => rfl
  | ok result => cases commit <;> rfl

/-- The kind of an event is the one it was made with. -/
lemma getStr?_event {j : PostgresJournal} {kind : EventKind} {epoch : ℕ} {time : PyFloat}
    {fields : List (String × Json)} (h : "kind" ∉ fields.map Prod.fst) :
    (j.event d kind epoch time fields).getStr? "kind" = some kind.text := by
  have hreverse : fields.reverse.lookup "kind" = none := by
    refine List.lookup_eq_none_iff.mpr fun e he => ?_
    have hne : "kind" ≠ e.1 := fun heq =>
      h (List.mem_map.mpr ⟨e, List.mem_reverse.mp he, heq.symm⟩)
    simpa using hne
  rw [Json.getStr?, PostgresJournal.event, Json.normalize, Json.get?, lookup_normalizeDict,
    List.reverse_append, List.lookup_append, hreverse]
  simp [List.lookup_cons]

/-- A transaction of `_run` finds the ledger in the state its journal remembers. -/
lemma runTransaction_eq_ok {j : PostgresJournal} {event : Option (EventKind × List (String × Json))}
    {db db' : Ledger} {next : LedgerState}
    (hfields : ∀ e ∈ event, "kind" ∉ e.2.map Prod.fst)
    (h : j.runTransaction d x event db = .ok (db', next)) :
    match event with
    | none => db' = db ∧ next = j.state
    | some (k, _) => ∃ row, Appends (j.identity d) k db db' j.state next row := by
  simp only [PostgresJournal.runTransaction, Except.bind_eq_ok, ensure_eq_ok, Prod.exists,
    Bool.and_eq_true, decide_eq_true_eq] at h
  obtain ⟨-, -, state, rows, hload, -, ⟨-, rfl⟩, h⟩ := h
  obtain ⟨hholds, rfl⟩ := load_eq_ok hload
  cases event with
  | none =>
      obtain ⟨rfl, rfl⟩ := Prod.mk.inj (Except.pure_eq_ok.mp h)
      exact ⟨rfl, rfl⟩
  | some e => exact appends_of_append hholds (getStr?_event (hfields e rfl)) h

/-- `_run` appends at most its event. -/
lemma relates_run (event : Option (EventKind × List (String × Json)))
    (hfields : ∀ e ∈ event, "kind" ∉ e.2.map Prod.fst) :
    (PostgresJournal.run d x event).Relates (Desk.Effect d x (event.map Prod.fst)) := by
  intro k
  have hrun : (PostgresJournal.run d x event).run k =
      if k.journal.closed || k.journal.held || !k.journal.connected then
        (.error (.hold "POSTGRES_DURABLE_HOLD"), k)
      else (PostgresJournal.settle x.commit
        (k.journal.runTransaction d x event k.ledger)).run k := by
    rw [PostgresJournal.run, Program.run_get_bind]
    split_ifs <;> rfl
  rw [hrun]
  split_ifs with hblocked
  · exact .quiet (.refl k)
  have hlive : k.journal.live = true := by
    simpa [PostgresJournal.live, and_assoc] using hblocked
  rw [run_settle]
  cases htransaction : k.journal.runTransaction d x event k.ledger with
  | error e => exact .quiet (quiet_stopped k)
  | ok result =>
      obtain ⟨db, next⟩ := result
      have hdone := runTransaction_eq_ok hfields htransaction
      cases event with
      | none =>
          obtain ⟨rfl, rfl⟩ := hdone
          cases x.commit with
          | acknowledged => exact .quiet (.refl k)
          | lost | rolledBack => exact .quiet (quiet_stopped k)
      | some e =>
          obtain ⟨row, happends⟩ := hdone
          cases hcommit : x.commit with
          | acknowledged => exact .append rfl hlive happends rfl fun _ => ⟨hcommit, rfl⟩
          | lost =>
              refine .append rfl hlive happends rfl fun h => ?_
              exact absurd h (by simp [not_live_stopped])
          | rolledBack => exact .quiet (quiet_stopped k)

lemma relates_callerContext {time : PyFloat} :
    (PostgresJournal.callerContext d x time).Relates (Desk.Quiet d) := by
  intro k
  rw [PostgresJournal.callerContext]
  split
  · exact .refl k
  · split_ifs <;> exact .refl k

lemma relates_quiet_bind {α β : Type} {p : JournalProgram α} {f : α → JournalProgram β}
    (hp : p.Relates (Desk.Quiet d)) (hf : ∀ a, (f a).Relates (Desk.Effect d x kind)) :
    (p >>= f).Relates (Desk.Effect d x kind) :=
  hp.bind hf (fun _ _ _ => Desk.Quiet.then_effect) fun _ _ => .quiet

lemma relates_bind_quiet {α β : Type} {p : JournalProgram α} {f : α → JournalProgram β}
    (hp : p.Relates (Desk.Effect d x kind)) (hf : ∀ a, (f a).Relates (Desk.Quiet d)) :
    (p >>= f).Relates (Desk.Effect d x kind) :=
  hp.bind hf (fun _ _ _ => Desk.Effect.then_quiet) fun _ _ => id

lemma relates_refl {α : Type} {p : JournalProgram α} (h : ∀ k, (p.run k).2 = k) :
    p.Relates (Desk.Effect d x kind) :=
  fun k => .quiet (by rw [h k]; exact .refl k)

lemma quiet_refl {α : Type} {p : JournalProgram α} (h : ∀ k, (p.run k).2 = k) :
    p.Relates (Desk.Quiet d) :=
  fun k => by rw [h k]; exact .refl k

lemma relates_admitCall : (PostgresJournal.admitCall d x).Relates (Desk.Effect d x none) := by
  refine relates_stopping (relates_quiet_bind (quiet_refl fun _ => rfl) fun k => ?_)
  split_ifs
  · exact relates_refl fun _ => rfl
  refine relates_quiet_bind relates_callerContext fun _ => ?_
  refine relates_bind_quiet (relates_run none (by simp)) fun _ => ?_
  refine relates_callerContext.bind (S := Desk.Quiet d) (fun _ => quiet_refl fun _ => rfl)
    (fun _ _ _ => Desk.Quiet.trans) fun _ _ => id

lemma relates_begin (requestId : String) :
    (PostgresJournal.begin d x requestId).Relates (Desk.Effect d x (some .begin)) :=
  relates_stopping (relates_quiet_bind relates_callerContext fun _ =>
    relates_run (some _) (by simp))

lemma not_mem_keys_of_hasFields (key : String) {fields : List (String × Json)} {names : List String}
    (h : (Json.dict fields).hasFields names = true) (hnames : names.Nodup)
    (hkey : key ∉ names) : key ∉ fields.map Prod.fst := by
  have hnone := List.lookup_eq_none_iff.mp (get?_of_hasFields h hnames hkey)
  intro hmem
  obtain ⟨e, he, rfl⟩ := List.mem_map.mp hmem
  simpa using hnone e he

lemma relates_policy (requestId : String) (evidence : List (String × Json)) :
    (PostgresJournal.policy d x requestId evidence).Relates (Desk.Effect d x (some .policy)) := by
  refine relates_stopping ?_
  split_ifs with hfields
  · exact relates_refl fun _ => rfl
  rw [Bool.not_eq_true, Bool.not_eq_false'] at hfields
  refine relates_run (some _) ?_
  have hkind := not_mem_keys_of_hasFields "kind" hfields (by decide) (by decide)
  simpa using hkind

lemma relates_intent (authority : Option AuthorityEnvelope) :
    (PostgresJournal.intent d x authority).Relates (Desk.Effect d x (some .intent)) := by
  refine relates_stopping (relates_quiet_bind (quiet_refl fun _ => rfl) fun k => ?_)
  cases authority with
  | none => exact relates_refl fun _ => rfl
  | some a =>
      dsimp only
      split_ifs
      · exact relates_refl fun _ => rfl
      refine relates_quiet_bind relates_callerContext fun _ => ?_
      refine relates_bind_quiet (relates_run (some _) (by simp))
        fun _ => ?_
      exact relates_callerContext.bind (S := Desk.Quiet d) (fun _ => quiet_refl fun _ => rfl)
        (fun _ _ _ => Desk.Quiet.trans) fun _ _ => id

lemma relates_finish (envelope : Envelope) (denials : ℤ) (evidence : List (String × Json)) :
    (PostgresJournal.finish d x envelope denials evidence).Relates
      (Desk.Effect d x (some .finish)) := by
  refine relates_stopping ?_
  split_ifs
  · exact relates_refl fun _ => rfl
  cases attemptEvidence evidence with
  | none => exact relates_refl fun _ => rfl
  | some records =>
      exact relates_run (some _) (by simp [finishFields])

lemma relates_failed : (PostgresJournal.failed d x).Relates (Desk.Effect d x (some .hold)) := by
  refine Program.Relates.thenAlways (R := Desk.Effect d x (some .hold)) ?_
    fun _ _ h => h.then_quiet (quiet_stopped _)
  refine Program.Relates.tryCatch (R := Desk.Effect d x (some .hold)) (S := Desk.Quiet d) ?_
    (fun _ => quiet_refl fun _ => rfl) (fun _ _ _ => Desk.Effect.then_quiet) fun _ _ => id
  refine relates_quiet_bind (quiet_refl fun _ => rfl) fun k => ?_
  split_ifs
  · exact relates_run (some _) (by simp)
  · exact relates_refl fun _ => rfl

lemma relates_close : (PostgresJournal.close d x).Relates (Desk.Effect d x (some .close)) := by
  refine Program.Relates.thenAlways (R := Desk.Effect d x (some .close)) ?_
    fun s t h => h.then_quiet ⟨rfl, rfl, fun hlive => ?_⟩
  · refine relates_quiet_bind (quiet_refl fun _ => rfl) fun k => ?_
    split_ifs
    · exact relates_run (some _) (by simp)
    · refine fun k => .quiet ⟨rfl, rfl, fun hlive => ?_⟩
      simp [PostgresJournal.live, PostgresJournal.held] at hlive
    · exact relates_refl fun _ => rfl
  · simp [PostgresJournal.live] at hlive

/-- A method appends at most one event, of its own kind. -/
lemma relates_call (call : JournalCall) :
    (call.program d x).Relates (Desk.Effect d x call.kind) := by
  cases call with
  | admitCall => exact relates_bind_quiet relates_admitCall fun _ => quiet_refl fun _ => rfl
  | begin r => exact relates_begin r
  | policy r evidence => exact relates_policy r evidence
  | intent authority => exact relates_intent authority
  | finish envelope denials evidence => exact relates_finish envelope denials evidence
  | failed => exact relates_failed
  | close => exact relates_close

/-- A method that raised, `failed` and `close` leave a journal that cannot append. -/
lemma not_live_of_call {call : JournalCall} {result : Except Fault Unit}
    (h : (call.program d x).run s = (result, t))
    (hend : (∃ e, result = .error e) ∨ call.kind = some .hold ∨ call.kind = some .close) :
    t.journal.live = false := by
  cases call with
  | failed =>
      obtain ⟨-, rfl⟩ := Prod.mk.inj h
      exact not_live_stopped _
  | close =>
      obtain ⟨-, rfl⟩ := Prod.mk.inj h
      simp [PostgresJournal.live]
  | admitCall =>
      obtain ⟨e, rfl⟩ := hend.resolve_right (by simp [JournalCall.kind])
      simp only [JournalCall.program, Program.run_bind] at h
      rcases hp : (PostgresJournal.admitCall d x).run s with ⟨f | a, u⟩ <;> rw [hp] at h
      · obtain ⟨-, rfl⟩ := Prod.mk.inj h
        exact not_live_of_stopping hp
      · cases (Prod.mk.inj h).1
  | begin | policy | intent | finish =>
      obtain ⟨e, rfl⟩ := hend.resolve_right (by simp [JournalCall.kind])
      exact not_live_of_stopping h

lemma bootTransaction_eq_ok {j : PostgresJournal} {db db' : Ledger} {next : LedgerState}
    (h : j.bootTransaction d x db = .ok (db', next)) :
    ∃ state row, Appends (j.identity d) .boot db db' state next row := by
  simp only [PostgresJournal.bootTransaction, Except.bind_eq_ok, Prod.exists] at h
  obtain ⟨-, -, -, -, -, -, state, rows, hload, -, -, h⟩ := h
  obtain ⟨hholds, rfl⟩ := load_eq_ok hload
  obtain ⟨row, happends⟩ := appends_of_append hholds (getStr?_event (by simp)) h
  exact ⟨state, row, happends⟩

/-- A constructor boots, or raises and leaves nothing durable. -/
lemma run_construct (c : Configuration) (db : Ledger) {result : Except Fault Unit}
    (h : (PostgresJournal.construct d x c).run ⟨db, c.fresh⟩ = (result, t)) :
    ((∃ e, result = .error e) ∧ t.ledger = db ∧ t.journal.live = false) ∨
      ∃ state next row, Appends (t.journal.identity d) .boot db t.ledger state next row ∧
        (t.journal.live = true → x.commit = .acknowledged ∧ t.journal.state = next) := by
  cases hsource : readSourceIdentity c.revision c.manifestSha with
  | error e =>
      rw [PostgresJournal.construct, hsource] at h
      obtain ⟨rfl, rfl⟩ := Prod.mk.inj h
      exact .inl ⟨⟨_, rfl⟩, rfl, not_live_stopped _⟩
  | ok sha =>
      rw [PostgresJournal.construct, hsource] at h
      by_cases howner : isOwnerId c.ownerId = true
      · simp only [howner, Bool.not_true, Bool.false_eq_true, if_false] at h
        let j : PostgresJournal := { c.fresh with sourceSha := sha, connected := true }
        change (PostgresJournal.stopping (PostgresJournal.settle x.commit
          (j.bootTransaction d x db))).run ⟨db, j⟩ = (result, t) at h
        cases htransaction : j.bootTransaction d x db with
        | error e =>
            rw [htransaction] at h
            obtain ⟨rfl, rfl⟩ := Prod.mk.inj h
            exact .inl ⟨⟨_, rfl⟩, rfl, not_live_stopped _⟩
        | ok done =>
            obtain ⟨db', next⟩ := done
            obtain ⟨state, row, happends⟩ := bootTransaction_eq_ok htransaction
            rw [htransaction] at h
            cases hcommit : x.commit with
            | acknowledged =>
                rw [hcommit] at h
                obtain ⟨rfl, rfl⟩ := Prod.mk.inj h
                exact .inr ⟨state, next, row, happends, fun _ => ⟨rfl, rfl⟩⟩
            | lost =>
                rw [hcommit] at h
                obtain ⟨rfl, rfl⟩ := Prod.mk.inj h
                refine .inr ⟨state, next, row, happends, fun hlive => ?_⟩
                exact absurd hlive (by simp [PostgresJournal.live, PostgresJournal.stopped])
            | rolledBack =>
                rw [hcommit] at h
                obtain ⟨rfl, rfl⟩ := Prod.mk.inj h
                exact .inl ⟨⟨_, rfl⟩, rfl, not_live_stopped _⟩
      · simp only [howner, Bool.not_false, if_true] at h
        obtain ⟨rfl, rfl⟩ := Prod.mk.inj h
        exact .inl ⟨⟨_, rfl⟩, rfl, not_live_stopped _⟩

/-- A provision inserts the first row of a ledger without one, or leaves it as it is. -/
lemma provision_eq {revision : String} {manifestSha : Option String} {session : Session}
    {commit : Commit} {db db' : Ledger} {result : Except String Unit}
    (h : provisionPostgresDomain d revision manifestSha session commit db = (result, db')) :
    db' = db ∨ db.row = none ∧ ∃ source row next, ∃ r : DomainRow,
      replay ⟨d.key, d, revision, source⟩ [row] = some next ∧ row.kind = "provision" ∧
        db'.events = db.events ++ [row] ∧ db'.row = some (r.project next) ∧
        r.revision = revision ∧ r.sourceSha = source := by
  unfold provisionPostgresDomain at h
  cases htransaction : provisionTransaction d revision manifestSha session db with
  | error e =>
      rw [htransaction] at h
      exact .inl (Prod.mk.inj h).2.symm
  | ok done =>
      obtain ⟨after, next⟩ := done
      rw [htransaction] at h
      simp only [provisionTransaction, Except.bind_eq_ok, Ledger.insertDomain, ensure_eq_ok,
        Except.pure_eq_ok] at htransaction
      obtain ⟨source, -, -, -, -, -, -, -, inserted, ⟨-, hnone, rfl⟩, happend⟩ := htransaction
      obtain ⟨hreplay, hevents, r, hr, hrow, hrevision, hsource⟩ := append_eq_ok happend
      have hnew : db.row = none ∧ ∃ source row next, ∃ r : DomainRow,
          replay ⟨d.key, d, revision, source⟩ [row] = some next ∧ row.kind = "provision" ∧
            after.events = db.events ++ [row] ∧ after.row = some (r.project next) ∧
            r.revision = revision ∧ r.sourceSha = source :=
        ⟨Option.isNone_iff_eq_none.mp hnone, source, _, next, r, hreplay, rfl, hevents, hrow,
          hrevision, hsource⟩
      cases commit with
      | acknowledged | lost => exact .inr ((Prod.mk.inj h).2 ▸ hnew)
      | rolledBack => exact .inl (Prod.mk.inj h).2.symm

end Effects

end CivicGate
