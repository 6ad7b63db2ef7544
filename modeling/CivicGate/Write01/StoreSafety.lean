import CivicGate.Write01.StoreInvariant

/-!
# The safety of the review store

Over every run of `store`, with any faults, crashes and interleavings:

- `store_exactly_once`: the database passes `_validate`, and each award is unreviewed without
  evidence or was moved by exactly one committed intent, whose note it has;
- `store_history`: nothing that was recorded is changed or removed later, and custody, attempts
  and receipts only advance;
- `store_mutation_admitted`: an award moves only in the second transaction of a call of `commit`
  that was admitted before, and no other call ever moves the award or carries out the operation.
-/

namespace CivicGate.Write01

variable {s : ReviewStore}

/-! ## Exactly once -/

/-- Where an award stands, with the evidence the tables hold for it. -/
inductive AwardEvidence (s : ReviewStore) (t : Tables) (a : String) : Prop
  | unreviewed
      (states : t.states.filter (·.awardId = a) = [⟨a, .unreviewed, 0⟩])
      (intents : t.committed.filter (·.awardId = a) = [])
      (notes : t.notes.filter (·.awardId = a) = [])
  | moved (i : IntentRow) (op : Operation) (records : Records s i op) (awardId : op.awardId = a)
      (states : t.states.filter (·.awardId = a) = [⟨a, .pendingReview, 1⟩])
      (intents : t.committed.filter (·.awardId = a) = [i])
      (notes : t.notes.filter (·.awardId = a) = [noteRow i.operationId op])

lemma Consistent.awardEvidence {t : Tables} (h : Consistent s t) (hkeys : t.Keys) {a : String}
    (ha : a ∈ s.ids) : AwardEvidence s t a := by
  rw [← h.awards] at ha
  obtain ⟨r, hr, rfl⟩ := List.mem_map.mp ha
  have hstate := h.states r hr
  have hstates := Table.filter_of_mem hkeys.states hr
  by_cases hmoved : r.awardId ∈ t.moved
  · rw [Tables.stateOf, if_pos hmoved] at hstate
    obtain ⟨i, hi, haward⟩ := List.mem_map.mp hmoved
    obtain ⟨op, hop⟩ := h.recorded i (Tables.mem_committed.mp hi).1
    have hnote : noteRow i.operationId op ∈ t.notes := (h.noted _).mpr ⟨i, hi, op, hop, rfl⟩
    have hop' : op.awardId = r.awardId := hop.awardId.symm.trans haward
    refine .moved i op hop hop' (by rw [hstates, ← hstate]) ?_ ?_
    · rw [← haward]
      exact Table.filter_of_mem h.once hi
    · rw [← hop']
      exact Table.filter_of_mem (h.noteAwards_nodup hkeys) hnote
  · rw [Tables.stateOf, if_neg hmoved] at hstate
    refine .unreviewed (by rw [hstates, ← hstate]) (Table.filter_eq_nil hmoved) (Table.filter_eq_nil ?_)
    rw [h.mem_noted]
    exact hmoved

lemma Consistent.validate {d : Database} (h : Consistent s d.1) : s.validate false d = .ok () := by
  simp only [ReviewStore.validate, Except.reraise_eq_ok, Except.bind_eq_ok]
  exact ⟨(), rfl, h.validateTables d.2⟩

/-- Every database a run reaches passes `_validate`, holds each operation and each idempotency
key once and at most one open intent for an award, closes custody only over a receipt, and has
moved each award at most once, with its evidence. -/
theorem store_exactly_once (s : ReviewStore) (as : List StoreInput) :
    let d := ((store s).run s.initial as).db
    s.validate false d = .ok () ∧
      (∀ a ∈ s.ids, AwardEvidence s d.1 a) ∧
      (d.1.intents.map (·.operationId)).Nodup ∧
      (d.1.intents.map (·.idempotencyKey)).Nodup ∧
      ((d.1.intents.filter (·.custody = .open)).map (·.awardId)).Nodup ∧
      ∀ i ∈ d.1.intents, i.custody = .closed → ∃ op, Records s i op ∧
        i.receiptJson = some (canonical false (s.receipt i.operationId op i.bindingSha256)) := by
  intro d
  have h := (invariant_run (s := s) as).consistent
  refine ⟨h.validate, fun a ha => h.awardEvidence d.2 ha, d.2.operations, d.2.idempotencyKeys,
    d.2.openTargets, fun i hi hclosed => ?_⟩
  obtain ⟨op, hop⟩ := h.recorded i hi
  refine ⟨op, hop, ?_⟩
  cases hreceipt : i.receiptJson with
  | none =>
      rw [(hop.withoutReceipt hreceipt).2] at hclosed
      cases hclosed
  | some raw => rw [(hop.withReceipt raw hreceipt).1]

/-! ## History -/

/-- A later form of an intent. -/
structure Advances (i j : IntentRow) : Prop where
  operationId : j.operationId = i.operationId
  awardId : j.awardId = i.awardId
  idempotencyKey : j.idempotencyKey = i.idempotencyKey
  operationJson : j.operationJson = i.operationJson
  operationSha256 : j.operationSha256 = i.operationSha256
  bindingSha256 : j.bindingSha256 = i.bindingSha256
  attempt : i.attemptStarted = true → j.attemptStarted = true
  receipt : ∀ raw, i.receiptJson = some raw →
    j.receiptJson = some raw ∧ j.receiptSha256 = i.receiptSha256
  closed : i.custody = .closed → j.custody = .closed

/-- A later form of a state. -/
structure Moves (r q : StateRow) : Prop where
  awardId : q.awardId = r.awardId
  version : r.version ≤ q.version
  pending : r.status = .pendingReview → q = r

/-- The tables later hold all that they held. -/
structure Progress (t u : Tables) : Prop where
  metadata : u.metadata = t.metadata
  intents : ∃ rows new, u.intents = rows ++ new ∧ List.Forall₂ Advances t.intents rows
  notes : t.notes <+: u.notes
  states : List.Forall₂ Moves t.states u.states

lemma Advances.refl (i : IntentRow) : Advances i i :=
  ⟨rfl, rfl, rfl, rfl, rfl, rfl, id, fun _ h => ⟨h, rfl⟩, id⟩

lemma Advances.trans {i j k : IntentRow} (h : Advances i j) (h' : Advances j k) : Advances i k where
  operationId := h'.operationId.trans h.operationId
  awardId := h'.awardId.trans h.awardId
  idempotencyKey := h'.idempotencyKey.trans h.idempotencyKey
  operationJson := h'.operationJson.trans h.operationJson
  operationSha256 := h'.operationSha256.trans h.operationSha256
  bindingSha256 := h'.bindingSha256.trans h.bindingSha256
  attempt := h'.attempt ∘ h.attempt
  receipt raw hraw := by
    obtain ⟨hj, hsha⟩ := h.receipt raw hraw
    obtain ⟨hk, hsha'⟩ := h'.receipt raw hj
    exact ⟨hk, hsha'.trans hsha⟩
  closed := h'.closed ∘ h.closed

lemma Moves.refl (r : StateRow) : Moves r r := ⟨rfl, le_rfl, fun _ => rfl⟩

lemma Moves.trans {q r u : StateRow} (h : Moves q r) (h' : Moves r u) : Moves q u where
  awardId := h'.awardId.trans h.awardId
  version := h.version.trans h'.version
  pending hq := by
    have hr := h.pending hq
    rw [h'.pending (by rw [hr, hq]), hr]

instance : Std.Refl Advances := ⟨Advances.refl⟩

instance : Std.Refl Moves := ⟨Moves.refl⟩

instance : IsTrans IntentRow Advances := ⟨fun _ _ _ => Advances.trans⟩

instance : IsTrans StateRow Moves := ⟨fun _ _ _ => Moves.trans⟩

lemma Progress.refl (t : Tables) : Progress t t :=
  ⟨rfl, ⟨t.intents, [], (List.append_nil _).symm, List.forall₂_refl _⟩, List.prefix_refl _,
    List.forall₂_refl _⟩

lemma Progress.trans {t u v : Tables} (h : Progress t u) (h' : Progress u v) : Progress t v := by
  obtain ⟨rows, new, hu, hrows⟩ := h.intents
  obtain ⟨rows', new', hv, hrows'⟩ := h'.intents
  rw [hu] at hrows'
  have hkept := (List.forall₂_take_append _ _ _ hrows'.flip).flip
  refine ⟨h'.metadata.trans h.metadata,
    ⟨_, rows'.drop rows.length ++ new', ?_, Table.forall₂_trans hrows hkept⟩,
    h.notes.trans h'.notes, Table.forall₂_trans h.states h'.states⟩
  rw [hv, ← List.append_assoc, List.take_append_drop]

lemma Change.progress {st st' : StoreState} (hc : Change s st st') (h : Invariant s st) :
    Progress st.db.1 st'.db.1 := by
  cases hc with
  | stayed hdb hpending =>
      rw [hdb]
      exact .refl _
  | opened id op b haccepted hb havailable hdb hpending =>
      rw [hdb]
      exact ⟨rfl, ⟨_, _, rfl, List.forall₂_refl _⟩, List.prefix_refl _,
        List.forall₂_refl _⟩
  | admitted p hadmissible hdb hpending =>
      rw [hdb]
      refine ⟨rfl, ⟨_, [], (List.append_nil _).symm, ?_⟩, List.prefix_refl _,
        List.forall₂_refl _⟩
      refine Table.forall₂_update fun i _ _ => ?_
      exact ⟨rfl, rfl, rfl, rfl, rfl, rfl, fun _ => rfl, fun _ hraw => ⟨hraw, rfl⟩, fun h => h⟩
  | committed p op hp hmutable hdb hpending =>
      have hcarries := h.carries hp hmutable
      rw [hdb]
      refine ⟨rfl, ⟨_, [], (List.append_nil _).symm, ?_⟩, List.prefix_append _ _, ?_⟩
      · refine Table.forall₂_update fun i hi hkey => ?_
        have hnone : i.receiptJson = none := by
          rw [Table.eq_of_key st.db.2.operations hi hcarries.mem
            (hkey.trans hcarries.operationId.symm)]
          exact hcarries.receipt
        refine ⟨rfl, rfl, rfl, rfl, rfl, rfl, fun h => h, fun raw hraw => ?_, fun h => h⟩
        rw [hnone] at hraw
        cases hraw
      · refine Table.forall₂_update fun r hr hkey => ⟨rfl, Nat.le_succ _, fun hpending => ?_⟩
        have hstate := h.consistent.states r hr
        rw [Tables.stateOf, if_neg (hkey ▸ hcarries.unmoved h.consistent)] at hstate
        rw [hstate] at hpending
        cases hpending
  | closed id sha row hclosable hdb hpending =>
      rw [hdb]
      refine ⟨rfl, ⟨_, [], (List.append_nil _).symm, ?_⟩, List.prefix_refl _,
        List.forall₂_refl _⟩
      refine Table.forall₂_update fun i _ _ => ?_
      exact ⟨rfl, rfl, rfl, rfl, rfl, rfl, fun h => h, fun _ hraw => ⟨hraw, rfl⟩, fun _ => rfl⟩

/-- From any state of a run to a later one the tables only progress. -/
lemma progress_run {st : StoreState} (h : Invariant s st) (bs : List StoreInput) :
    Progress st.db.1 ((store s).run st bs).db.1 := by
  induction bs generalizing st with
  | nil => exact .refl _
  | cons a bs ih =>
      exact ((change_step st a).progress h).trans (ih (invariant_preserved st a h))

/-- What a run recorded stays: later the metadata is the same, every intent is there with its
identity, its receipt and its custody if closed, the notes are extended, and no award that moved
moves again. -/
theorem store_history (s : ReviewStore) (as bs : List StoreInput) :
    Progress ((store s).run s.initial as).db.1 ((store s).run s.initial (as ++ bs)).db.1 := by
  rw [Machine.run_append]
  exact progress_run (invariant_run as) bs

/-! ## One mutation -/

/-- A stage that carries out the operation of a pending call of `commit`. -/
structure Mutation (s : ReviewStore) (e : Stage StoreState StoreInput StoreOutput)
    (p : PendingCommit) (op : Operation) : Prop where
  input : ∃ w, e.input = .mutate w p.operationId
  pending : p ∈ e.before.pending
  mutable : Mutable s e.before.db.1 p op
  after : e.after.db.1 = s.mutated p op e.before.db.1

/-- A step that adds a note or moves an award is a mutation. -/
lemma mutation_of_moved {st : StoreState} {a : StoreInput}
    (hmoved : ((store s).next st a).db.1.notes ≠ st.db.1.notes ∨
      ((store s).next st a).db.1.states ≠ st.db.1.states) :
    ∃ p op, Mutation s ((store s).stage st a) p op := by
  simp only [Machine.stage, Machine.next, Machine.out, store] at hmoved ⊢
  cases a with
  | reserve w id x b =>
      rcases hresult : s.reserve w id x b st.db with ⟨r, t⟩
      simp only [hresult] at hmoved
      rcases reserve_cases hresult with ⟨hdb, -⟩ | ⟨op, -, -, -, hdb, -⟩ <;>
        simp [hdb, Tables.insertIntent] at hmoved
  | attempt w id b =>
      rcases hresult : s.attempt w id b st.db with ⟨e | p', t⟩ <;> simp only [hresult] at hmoved <;>
        rcases attempt_cases hresult with ⟨hdb, -⟩ | ⟨p, -, -, -, hdb, -⟩ <;>
        simp [hdb, Tables.startAttempt] at hmoved
  | mutate w id =>
      cases hp : Table.get? (·.operationId) id st.pending with
      | none => simp [hp] at hmoved
      | some p =>
          obtain rfl := Table.key_of_get? hp
          rcases hresult : s.mutate w p st.db with ⟨r, t⟩
          rcases mutate_cases hresult with ⟨hdb, -⟩ | ⟨op, hmutable, hdb, -⟩
          · simp [hp, hresult, hdb] at hmoved
          · exact ⟨p, op, ⟨w, rfl⟩, Table.mem_of_get? hp, hmutable, by simp only [hp, hresult, hdb]⟩
  | acknowledge w id sha =>
      rcases hresult : s.acknowledge w id sha st.db with ⟨r, t⟩
      simp only [hresult] at hmoved
      rcases acknowledge_cases hresult with ⟨hdb, -⟩ | ⟨-, hdb, -⟩ <;>
        simp [hdb, Tables.closeCustody] at hmoved

/-- The calls between their transactions were admitted on the way. -/
lemma admitted_of_pending {as : List StoreInput} {p : PendingCommit}
    (hp : p ∈ ((store s).run s.initial as).pending) :
    ∃ d ∈ (store s).trace s.initial as, d.output = .admitted (.ok p) ∧
      Admissible d.before.db.1 p := by
  have horigin := (store s).exists_origin (fun st => {p | p ∈ st.pending})
    (fun st a p => ((store s).stage st a).output = .admitted (.ok p) ∧ Admissible st.db.1 p)
    (s := s.initial) (x := p) ?_ hp
  · rcases horigin with hinitial | ⟨d, hd, houtput, hadmissible⟩
    · cases hinitial
    · refine ⟨d, hd, ?_, hadmissible⟩
      obtain ⟨pre, post, -, hstage⟩ := (store s).exists_of_mem_trace hd
      rw [hstage] at houtput ⊢
      exact houtput
  · intro st a p hp
    simp only [Machine.stage, Machine.next, Machine.out, store, Set.mem_ofPred_eq] at hp ⊢
    cases a with
    | reserve w id x b => exact .inl hp
    | attempt w id b =>
        rcases hresult : s.attempt w id b st.db with ⟨e | p', t⟩
        · simp only [hresult] at hp
          exact .inl hp
        · simp only [hresult] at hp ⊢
          rcases List.mem_cons.mp hp with rfl | hp
          · rcases attempt_cases hresult with ⟨-, e, he⟩ | ⟨p', -, -, hadmissible, -, hr⟩
            · cases he
            · obtain rfl := hr p rfl
              exact .inr ⟨rfl, hadmissible⟩
          · exact .inl hp
    | mutate w id =>
        cases hget : Table.get? (·.operationId) id st.pending with
        | none =>
            simp only [hget] at hp
            exact .inl hp
        | some q =>
            simp only [hget] at hp
            exact .inl (List.mem_filter.mp hp).1
    | acknowledge w id sha => exact .inl hp

/-- The tables hold a committed intent of this operation, for this award. -/
def Tables.Carried (t : Tables) (operationId awardId : String) : Prop :=
  ∃ i ∈ t.intents, i.operationId = operationId ∧ i.awardId = awardId ∧ i.receiptJson.isSome

/-- The tables hold an intent of this operation whose attempt started. -/
def Tables.Attempted (t : Tables) (operationId : String) : Prop :=
  ∃ i ∈ t.intents, i.operationId = operationId ∧ i.attemptStarted = true

/-- Where the rows of a table are found later. -/
lemma exists_of_forall₂ {α : Type} {R : α → α → Prop} {as bs : List α}
    (h : List.Forall₂ R as bs) {a : α} (ha : a ∈ as) : ∃ b ∈ bs, R a b := by
  induction h with
  | nil => cases ha
  | cons hab _ ih =>
      rcases List.mem_cons.mp ha with rfl | ha
      · exact ⟨_, List.mem_cons_self, hab⟩
      · obtain ⟨b, hb, hR⟩ := ih ha
        exact ⟨b, List.mem_cons_of_mem _ hb, hR⟩

lemma Progress.exists_advances {t u : Tables} (h : Progress t u) {i : IntentRow}
    (hi : i ∈ t.intents) : ∃ j ∈ u.intents, Advances i j := by
  obtain ⟨rows, new, hu, hrows⟩ := h.intents
  obtain ⟨j, hj, hadvances⟩ := exists_of_forall₂ hrows hi
  exact ⟨j, hu ▸ List.mem_append_left _ hj, hadvances⟩

lemma Progress.carried {t u : Tables} (h : Progress t u) {operationId awardId : String}
    (hcarried : t.Carried operationId awardId) : u.Carried operationId awardId := by
  obtain ⟨i, hi, rfl, rfl, hreceipt⟩ := hcarried
  obtain ⟨j, hj, hadvances⟩ := h.exists_advances hi
  obtain ⟨raw, hraw⟩ := Option.isSome_iff_exists.mp hreceipt
  refine ⟨j, hj, hadvances.operationId, hadvances.awardId, ?_⟩
  rw [(hadvances.receipt raw hraw).1]
  rfl

lemma Progress.attempted {t u : Tables} (h : Progress t u) {operationId : String}
    (hattempted : t.Attempted operationId) : u.Attempted operationId := by
  obtain ⟨i, hi, rfl, hattempt⟩ := hattempted
  obtain ⟨j, hj, hadvances⟩ := h.exists_advances hi
  exact ⟨j, hj, hadvances.operationId, hadvances.attempt hattempt⟩

lemma carried_of_mutation {st : StoreState} {a : StoreInput} (h : Invariant s st)
    {p : PendingCommit} {op : Operation} (hm : Mutation s ((store s).stage st a) p op) :
    ((store s).next st a).db.1.Carried p.operationId op.awardId := by
  have hc := h.carries hm.pending hm.mutable
  have hafter : ((store s).next st a).db.1 = s.mutated p op st.db.1 := hm.after
  refine ⟨s.received op { p.row with attemptStarted := true }, ?_, hc.operationId,
    hc.records.awardId, rfl⟩
  rw [hafter]
  exact (hc.mem_intents st.db.2).mpr (.inl rfl)

/-- A mutation is the first of its operation and of its award. -/
lemma new_of_mutation {st : StoreState} {a : StoreInput} (h : Invariant s st)
    {p : PendingCommit} {op : Operation} (hm : Mutation s ((store s).stage st a) p op)
    {operationId awardId : String} (hcarried : st.db.1.Carried operationId awardId) :
    p.operationId ≠ operationId ∧ op.awardId ≠ awardId := by
  have hc := h.carries hm.pending hm.mutable
  obtain ⟨i, hi, rfl, rfl, hreceipt⟩ := hcarried
  constructor
  · intro hid
    rw [Table.eq_of_key st.db.2.operations hi hc.mem (hid.symm.trans hc.operationId.symm),
      hc.receipt] at hreceipt
    cases hreceipt
  · intro haward
    refine hc.unmoved h.consistent ?_
    rw [haward]
    exact List.mem_map.mpr ⟨i, List.mem_filter.mpr ⟨hi, hreceipt⟩, rfl⟩

lemma output_admitted {st : StoreState} {a : StoreInput} {p : PendingCommit}
    (houtput : (store s).out st a = .admitted (.ok p)) :
    Admissible st.db.1 p ∧ ((store s).next st a).db.1 = st.db.1.startAttempt p.operationId := by
  cases a with
  | reserve w id x b => cases houtput
  | mutate w id =>
      simp only [Machine.out, store] at houtput
      cases hget : Table.get? (·.operationId) id st.pending <;> simp [hget] at houtput
  | acknowledge w id sha => cases houtput
  | attempt w id b =>
      simp only [Machine.next, Machine.out, store] at houtput ⊢
      rcases hresult : s.attempt w id b st.db with ⟨e | p', t⟩
      · simp [hresult] at houtput
      · simp only [hresult] at houtput ⊢
        obtain rfl : p' = p := by cases houtput; rfl
        rcases attempt_cases hresult with ⟨-, e, he⟩ | ⟨q, rfl, -, hadmissible, hdb, hr⟩
        · cases he
        · obtain rfl := hr p' rfl
          exact ⟨hadmissible, hdb⟩

lemma attempted_of_admitted {st : StoreState} {a : StoreInput} {p : PendingCommit}
    (houtput : (store s).out st a = .admitted (.ok p)) :
    ((store s).next st a).db.1.Attempted p.operationId := by
  obtain ⟨hadmissible, hdb⟩ := output_admitted houtput
  rw [hdb]
  have hkey := Table.key_of_get? hadmissible.found
  refine ⟨{ p.row with attemptStarted := true }, Table.mem_update.mpr ?_, hkey, rfl⟩
  exact ⟨p.row, Table.mem_of_get? hadmissible.found, .inl ⟨hkey, rfl⟩⟩

/-- An award moves, and a note appears, only where a call of `commit` admitted earlier in the run
carries out its operation.  Over the run an operation is admitted at most once, and no two
mutations are of one operation or of one award. -/
theorem store_mutation_admitted (s : ReviewStore) (as : List StoreInput) :
    (∀ xs e ys, (store s).trace s.initial as = xs ++ e :: ys →
        (e.after.db.1.notes ≠ e.before.db.1.notes ∨ e.after.db.1.states ≠ e.before.db.1.states) →
        ∃ p op, Mutation s e p op ∧
          ∃ d ∈ xs, d.output = .admitted (.ok p) ∧ Admissible d.before.db.1 p) ∧
      ((store s).trace s.initial as).Pairwise (fun d e => ∀ p q,
        d.output = .admitted (.ok p) → e.output = .admitted (.ok q) →
          q.operationId ≠ p.operationId) ∧
      ((store s).trace s.initial as).Pairwise fun d e => ∀ p op q op',
        Mutation s d p op → Mutation s e q op' →
          q.operationId ≠ p.operationId ∧ op'.awardId ≠ op.awardId := by
  refine ⟨fun xs e ys htrace hmoved => ?_, ?_, ?_⟩
  · obtain ⟨hbefore, hxs, hstep, -⟩ := (store s).trace_split htrace
    have hstage : e = (store s).stage e.before e.input := by
      simp only [Machine.stage, Machine.next, Machine.out, hstep]
    rw [hstage] at hmoved ⊢
    obtain ⟨p, op, hm⟩ := mutation_of_moved hmoved
    have hpending : p ∈ ((store s).run s.initial (xs.map Stage.input)).pending := by
      rw [← hbefore]
      exact hm.pending
    obtain ⟨d, hd, hadmitted⟩ := admitted_of_pending hpending
    exact ⟨p, op, hm, d, hxs ▸ hd, hadmitted⟩
  · refine Machine.pairwise_trace (K := fun d st => ∀ p, d.output = .admitted (.ok p) →
      st.db.1.Attempted p.operationId) invariant_preserved ?_ ?_ ?_ invariant_initial as
    · exact fun st a _ p houtput => attempted_of_admitted houtput
    · intro d st a h hattempted p houtput
      exact ((change_step st a).progress h).attempted (hattempted p houtput)
    · intro d st a h hattempted p q houtput houtput' heq
      obtain ⟨i, hi, hid, hattempt⟩ := hattempted p houtput
      obtain ⟨hadmissible, -⟩ := output_admitted houtput'
      have hrow : i = q.row := Table.eq_of_key st.db.2.operations hi
        (Table.mem_of_get? hadmissible.found)
        (hid.trans (heq.symm.trans (Table.key_of_get? hadmissible.found).symm))
      rw [hrow, hadmissible.attempt] at hattempt
      cases hattempt
  · refine Machine.pairwise_trace (K := fun d st => ∀ p op, Mutation s d p op →
      st.db.1.Carried p.operationId op.awardId) invariant_preserved ?_ ?_ ?_ invariant_initial as
    · exact fun st a h p op hm => carried_of_mutation h hm
    · intro d st a h hcarried p op hm
      exact ((change_step st a).progress h).carried (hcarried p op hm)
    · intro d st a h hcarried p op q op' hm hm'
      exact new_of_mutation h hm' (hcarried p op hm)

end CivicGate.Write01
