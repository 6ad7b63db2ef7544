import CivicGate.Write01.StoreProgress

/-!
# What the errors of the review store say

A call of `store` that returns has left its effect.  One that raises may have left it too, as when
the acknowledgement of its commit is lost, but then the error is marked uncertain, unless it was
injected after the commit (`store_errors_truthful`).
-/

namespace CivicGate.Write01

variable {s : ReviewStore}

/-- The error says that the outcome is not known. -/
def StoreRaise.isUncertain : StoreRaise → Bool
  | .store e => e.uncertain
  | _ => false

/-- The error a call raised. -/
def StoreOutput.error? : StoreOutput → Option StoreRaise
  | .reserved (.error e) | .admitted (.error e) | .mutated (.error e)
  | .acknowledged (.error e) => some e
  | _ => none

/-- What is injected after the commit of a transaction. -/
def StoreInput.lastFault : StoreInput → Option StoreRaise
  | .reserve w _ _ _ => w.fault .afterOpen
  | .attempt w _ _ => w.fault .afterAttemptStart
  | .mutate w _ => w.fault .afterCommit
  | .acknowledge w _ _ => w.fault .afterAck

/-- What a transaction that returns found and left. -/
inductive Effect (s : ReviewStore) : StoreInput → StoreOutput → Database → Database → Prop
  | reserved {w : StoreWorld} {id b : String} {x : Except PyException Json} {op : Operation}
      {d t : Database} (operation : s.operation x = .ok op) (available : Available d.1 op)
      (db : t.1 = d.1.insertIntent (intentRow id op b)) :
      Effect s (.reserve w id x b) (.reserved (.ok ⟨id, digest op.value, b⟩)) d t
  | admitted {w : StoreWorld} {p : PendingCommit} {d t : Database}
      (admissible : Admissible d.1 p) (db : t.1 = d.1.startAttempt p.operationId) :
      Effect s (.attempt w p.operationId p.bindingSha256) (.admitted (.ok p)) d t
  | mutated {w : StoreWorld} {p : PendingCommit} {op : Operation} {d t : Database}
      (mutable : Mutable s d.1 p op) (db : t.1 = s.mutated p op d.1) :
      Effect s (.mutate w p.operationId) (.mutated (.ok ⟨s.receipt p.operationId op
        p.bindingSha256, digest (s.receipt p.operationId op p.bindingSha256)⟩)) d t
  | acknowledged {w : StoreWorld} {id sha : String} {row : IntentRow} {d t : Database}
      (closable : Closable d.1 id sha row) (db : t.1 = d.1.closeCustody id) :
      Effect s (.acknowledge w id sha) (.acknowledged (.ok ⟨id, sha⟩)) d t
  | idle {w : StoreWorld} {id : String} {d : Database} : Effect s (.mutate w id) .idle d d

lemma inject_eq_error {w : StoreWorld} {stage : StoreStage} {e : StoreRaise} :
    w.inject stage = .error e ↔ w.fault stage = some e := by
  unfold StoreWorld.inject
  cases w.fault stage <;> simp

/-- A transaction that raises a certain error left the database, or the error was injected after
its commit. -/
lemma settle_certain {α : Type} {wrapped : Part → StoreRaise}
    {body : Except StoreRaise (α × Database)} {commit : Commit} {w : StoreWorld}
    {stage : StoreStage} {d t : Database} {e : StoreRaise}
    (h : settle wrapped body commit (w.inject stage) d = (.error e, t))
    (hcommit : (wrapped .commit).isUncertain = true)
    (hafter : (wrapped .after).isUncertain = true) (he : e.isUncertain = false) :
    t = d ∨ w.fault stage = some e := by
  rcases settle_eq_error h with ⟨-, -, -, hdb⟩ | rfl | ⟨e', hfault, rfl⟩
  · exact .inl hdb
  · rw [hcommit] at he
    cases he
  · refine .inr (inject_eq_error.mp ?_)
    rw [hfault]
    rcases e' with e' | _ | e'
    · rfl
    · exact absurd (hafter.symm.trans he) (by decide)
    · cases e' with
      | exit => rfl
      | _ => exact absurd (hafter.symm.trans he) (by decide)

/-- A step left the database, or the effect with which its call returns when nothing fails. -/
lemma effect_of_step (st : StoreState) (a : StoreInput) :
    ((store s).next st a).db = st.db ∨ ∃ output, output.error? = none ∧
      Effect s a output st.db ((store s).next st a).db := by
  cases a with
  | reserve w id x b =>
      simp only [Machine.next, store]
      rcases hresult : s.reserve w id x b st.db with ⟨r, t⟩
      rcases reserve_cases hresult with ⟨hdb, -⟩ | ⟨op, hop, -, havailable, hdb, -⟩
      · exact .inl hdb
      · exact .inr ⟨_, rfl, .reserved hop havailable hdb⟩
  | attempt w id b =>
      simp only [Machine.next, store]
      rcases hresult : s.attempt w id b st.db with ⟨e | p', t⟩ <;>
        rcases attempt_cases hresult with ⟨hdb, -⟩ | ⟨p, rfl, rfl, hadmissible, hdb, -⟩
      · exact .inl hdb
      · exact .inr ⟨_, rfl, .admitted hadmissible hdb⟩
      · exact .inl hdb
      · exact .inr ⟨_, rfl, .admitted hadmissible hdb⟩
  | mutate w id =>
      simp only [Machine.next, store]
      split
      · exact .inl rfl
      · rename_i p hp
        obtain rfl := Table.key_of_get? hp
        rcases hresult : s.mutate w p st.db with ⟨r, t⟩
        rcases mutate_cases hresult with ⟨hdb, -⟩ | ⟨op, hmutable, hdb, -⟩
        · exact .inl hdb
        · exact .inr ⟨_, rfl, .mutated hmutable hdb⟩
  | acknowledge w id sha =>
      simp only [Machine.next, store]
      rcases hresult : s.acknowledge w id sha st.db with ⟨r, t⟩
      rcases acknowledge_cases hresult with ⟨hdb, -⟩ | ⟨⟨row, hclosable⟩, hdb, -⟩
      · exact .inl hdb
      · exact .inr ⟨_, rfl, .acknowledged hclosable hdb⟩

/-- A call that returns left its effect. -/
lemma effect_of_returned (st : StoreState) (a : StoreInput)
    (hreturned : ((store s).out st a).error? = none) :
    Effect s a ((store s).out st a) st.db ((store s).next st a).db := by
  cases a with
  | reserve w id x b =>
      simp only [Machine.next, Machine.out, store] at hreturned ⊢
      rcases hresult : s.reserve w id x b st.db with ⟨e | ack, t⟩
      · simp [hresult, StoreOutput.error?] at hreturned
      · rcases reserve_cases hresult with ⟨-, e, he⟩ | ⟨op, hop, -, havailable, hdb, hr⟩
        · cases he
        · rw [hr ack rfl]
          exact .reserved hop havailable hdb
  | attempt w id b =>
      simp only [Machine.next, Machine.out, store] at hreturned ⊢
      rcases hresult : s.attempt w id b st.db with ⟨e | p', t⟩
      · simp [hresult, StoreOutput.error?] at hreturned
      · rcases attempt_cases hresult with ⟨-, e, he⟩ | ⟨p, rfl, rfl, hadmissible, hdb, hr⟩
        · cases he
        · obtain rfl := hr p' rfl
          exact .admitted hadmissible hdb
  | mutate w id =>
      simp only [Machine.next, Machine.out, store] at hreturned ⊢
      cases hp : Table.get? (·.operationId) id st.pending with
      | none => exact .idle
      | some p =>
          obtain rfl := Table.key_of_get? hp
          simp only [hp] at hreturned ⊢
          rcases hresult : s.mutate w p st.db with ⟨e | response, t⟩
          · simp [hresult, StoreOutput.error?] at hreturned
          · rcases mutate_cases hresult with ⟨-, e, he⟩ | ⟨op, hmutable, hdb, hr⟩
            · cases he
            · rw [hr response rfl]
              exact .mutated hmutable hdb
  | acknowledge w id sha =>
      simp only [Machine.next, Machine.out, store] at hreturned ⊢
      rcases hresult : s.acknowledge w id sha st.db with ⟨e | ack, t⟩
      · simp [hresult, StoreOutput.error?] at hreturned
      · rcases acknowledge_cases hresult with ⟨-, e, he⟩ | ⟨⟨row, hclosable⟩, hdb, hr⟩
        · cases he
        · rw [hr ack rfl]
          exact .acknowledged hclosable hdb

/-- A certain error means that the database is as it was, unless it was injected after the
commit. -/
lemma certain_of_step (st : StoreState) (a : StoreInput) {e : StoreRaise}
    (herror : ((store s).out st a).error? = some e) (he : e.isUncertain = false) :
    ((store s).next st a).db = st.db ∨ a.lastFault = some e := by
  cases a with
  | reserve w id x b =>
      simp only [Machine.next, Machine.out, store, StoreInput.lastFault] at herror ⊢
      rcases hresult : s.reserve w id x b st.db with ⟨r | ack, t⟩
      · obtain rfl : r = e := by simpa [hresult, StoreOutput.error?] using herror
        unfold ReviewStore.reserve at hresult
        split at hresult
        · cases hresult
          exact .inl rfl
        · exact settle_certain hresult rfl rfl he
      · simp [hresult, StoreOutput.error?] at herror
  | attempt w id b =>
      simp only [Machine.next, Machine.out, store, StoreInput.lastFault] at herror ⊢
      rcases hresult : s.attempt w id b st.db with ⟨r | p, t⟩
      · obtain rfl : r = e := by simpa [hresult, StoreOutput.error?] using herror
        unfold ReviewStore.attempt at hresult
        split at hresult
        · cases hresult
          exact .inl rfl
        · exact settle_certain hresult rfl rfl he
      · simp [hresult, StoreOutput.error?] at herror
  | mutate w id =>
      simp only [Machine.next, Machine.out, store, StoreInput.lastFault] at herror ⊢
      cases hp : Table.get? (·.operationId) id st.pending with
      | none => simp [hp, StoreOutput.error?] at herror
      | some p =>
          simp only [hp] at herror ⊢
          rcases hresult : s.mutate w p st.db with ⟨r | response, t⟩
          · obtain rfl : r = e := by simpa [hresult, StoreOutput.error?] using herror
            exact settle_certain hresult rfl rfl he
          · simp [hresult, StoreOutput.error?] at herror
  | acknowledge w id sha =>
      simp only [Machine.next, Machine.out, store, StoreInput.lastFault] at herror ⊢
      rcases hresult : s.acknowledge w id sha st.db with ⟨r | ack, t⟩
      · obtain rfl : r = e := by simpa [hresult, StoreOutput.error?] using herror
        unfold ReviewStore.acknowledge at hresult
        split at hresult
        · cases hresult
          exact .inl rfl
        · exact settle_certain hresult rfl rfl he
      · simp [hresult, StoreOutput.error?] at herror

/-- A call that returns left exactly its effect, and one that raises left it or nothing: nothing,
where the error is not marked uncertain, unless that very error was injected after the commit. -/
theorem store_errors_truthful (s : ReviewStore) (as : List StoreInput) :
    ∀ e ∈ (store s).trace s.initial as,
      (e.output.error? = none → Effect s e.input e.output e.before.db e.after.db) ∧
      (∀ r, e.output.error? = some r → r.isUncertain = false →
        e.after.db = e.before.db ∨ e.input.lastFault = some r) ∧
      (e.after.db = e.before.db ∨ ∃ output, output.error? = none ∧
        Effect s e.input output e.before.db e.after.db) := by
  intro e he
  obtain ⟨pre, post, -, hstage⟩ := (store s).exists_of_mem_trace he
  rw [hstage]
  exact ⟨effect_of_returned _ _, fun r => certain_of_step _ _, effect_of_step _ _⟩

/-! ### A commit that is lost -/

/-- Nothing fails but the acknowledgement of the commit. -/
def StoreWorld.unacknowledged : StoreWorld := { StoreWorld.calm with commit := .lost }

/-- The attempt is started, and its caller does not know. -/
lemma attempt_unacknowledged {d : Database} {p : PendingCommit} (h : Consistent s d.1)
    (hp : Admissible d.1 p) :
    ∃ t, s.attempt .unacknowledged p.operationId p.bindingSha256 d =
        (.error (uncertain .transactionNotConfirmed), t) ∧
      t.1 = d.1.startAttempt p.operationId := by
  obtain ⟨t, hbody, ht⟩ := attemptBody_calm h hp
  have hbody' : s.attemptBody .unacknowledged p.operationId p.bindingSha256 d = .ok (p, t) := hbody
  refine ⟨t, ?_, ht⟩
  rw [ReviewStore.attempt]
  simp only [StoreWorld.unacknowledged, StoreWorld.calm] at hbody' ⊢
  rw [hbody']
  rfl

/-- An attempt that starts changes the tables. -/
lemma startAttempt_ne {t : Tables} {p : PendingCommit} (hp : Admissible t p) :
    t.startAttempt p.operationId ≠ t := by
  intro hsame
  have hrow : (t.startAttempt p.operationId).intent? p.operationId =
      (t.intent? p.operationId).map fun i => { i with attemptStarted := true } :=
    Table.get?_update_self fun _ => rfl
  rw [hsame, hp.found, Option.map_some, Option.some.injEq] at hrow
  have hattempt := congrArg IntentRow.attemptStarted hrow
  rw [hp.attempt] at hattempt
  cases hattempt

/-- After a `reserve` that returns, a `commit` whose first acknowledgement is lost raises, with its
attempt started. -/
lemma exists_unacknowledged {st : StoreState} (h : Invariant s st) {id b : String} {op : Operation}
    (haccepted : Accepted s op) (hid : isStoreId id = true) (hb : isSha256Hex b = true)
    (havailable : Available st.db.1 op) (hnew : id ∉ st.db.1.intents.map (·.operationId)) :
    ∃ e ∈ (store s).trace st [.reserve .calm id (.ok op.value) b, .attempt .unacknowledged id b],
      e.output = .admitted (.error (uncertain .transactionNotConfirmed)) ∧
        e.after.db ≠ e.before.db := by
  obtain ⟨t₁, t₂, t₃, t₄, hwritten⟩ :=
    exists_written h haccepted.operation hid hb havailable hnew
  have hadmissible := admissible_of_reserved hwritten.reserved
  obtain ⟨t, hattempt, ht⟩ := attempt_unacknowledged hwritten.reserved_consistent hadmissible
  refine ⟨⟨⟨t₁, st.pending⟩, .attempt .unacknowledged id b,
    .admitted (.error (uncertain .transactionNotConfirmed)), ⟨t, st.pending⟩⟩, ?_, rfl, ?_⟩
  · simp only [Machine.trace, Machine.stage, Machine.next, Machine.out, store, hwritten.reserve,
      hattempt]
    exact List.mem_cons_of_mem _ (List.mem_singleton_self _)
  · intro hsame
    obtain rfl : t = t₁ := hsame
    exact startAttempt_ne hadmissible ht.symm

/-- The first transaction of `commit` raises an uncertain error, and its attempt is started. -/
theorem store_errors_truthful_unacknowledged :
    ∃ e ∈ (store sampleStore).trace sampleStore.initial
        [.reserve .calm "op-1" (.ok sampleOperation.value) datasetSha256,
          .attempt .unacknowledged "op-1" datasetSha256],
      e.output.error? = some (uncertain .transactionNotConfirmed) ∧
        e.after.db ≠ e.before.db ∧ ∃ output, output.error? = none ∧
          Effect sampleStore e.input output e.before.db e.after.db := by
  obtain ⟨e, he, hout, hne⟩ := exists_unacknowledged (s := sampleStore) invariant_initial
    sampleOperation_accepted (by decide) (by decide : isSha256Hex datasetSha256 = true)
    (available_eq_ok.mp (by decide)) (by decide : "op-1" ∉ _)
  exact ⟨e, he, by rw [hout]; rfl, hne,
    (store_errors_truthful sampleStore _ e he).2.2.resolve_left hne⟩

end CivicGate.Write01
