import CivicGate.Audit.PostgresEffects

/-!
# Ownership of the PostgreSQL ledger

The invariant that ties the journals' own state to the durable one: the ledger is unprovisioned
or validates with its row as the projection, and a journal that can still append is the only
one, is the active owner and remembers the durable state exactly (`Deployment.Inv`).

A step of the machine is one of the four cases of `JournalStage.Effect`: nothing durable, the
provision, a boot, or an event of the one journal that can append.  Every property of
`postgresJournal_ownership` is read off these cases.
-/

namespace CivicGate

/-! ## Steps of a deployment -/

/-- The ledger is not provisioned, or validates. -/
def Ledger.Valid (d : Domain) (db : Ledger) : Prop :=
  db = {} ∨ ∃ revision source state, db.Holds ⟨d.key, d, revision, source⟩ state

/-- The invariant of a deployment. -/
structure Deployment.Inv (d : Domain) (w : Deployment) : Prop where
  valid : w.ledger.Valid d
  owner : ∀ (i : ℕ) (j : PostgresJournal), w.journals[i]? = some j → j.live = true →
    w.ledger.Holds (j.identity d) j.state ∧ j.state.ownerActive = true
  single : ∀ (i i' : ℕ) (j j' : PostgresJournal), w.journals[i]? = some j → w.journals[i']? = some j' →
    j.live = true → j'.live = true → i = i'

/-- A step of the machine, and what it left. -/
abbrev JournalStage := Stage Deployment JournalInput JournalOutput

/-- The journal that acts in a step: a constructor makes the next one. -/
def JournalStage.actor (e : JournalStage) : Option ℕ :=
  match e.input with
  | .provision .. => none
  | .construct _ _ => some e.before.journals.length
  | .call i _ _ => some i

/-- How the commit of a step's transaction ends. -/
def JournalStage.commit (e : JournalStage) : Commit :=
  match e.input with
  | .provision _ _ _ commit => commit
  | .construct _ x => x.commit
  | .call _ _ x => x.commit

/-- What a step of a deployment does. -/
inductive JournalStage.Effect (d : Domain) (e : JournalStage) : Prop
  | quiet (hledger : e.after.ledger = e.before.ledger)
      (hlength : e.before.journals.length ≤ e.after.journals.length)
      (hjournals : ∀ (i : ℕ) (j' : PostgresJournal), e.after.journals[i]? = some j' →
        j'.live = true → ∃ j : PostgresJournal, e.before.journals[i]? = some j ∧ j.Keeps d j')
      (hraised : ∀ c x, e.input = .construct c x → ∃ code, e.output.result = .error code)
  | provision {source revision : String} {row : Row} {next : LedgerState}
      (hactor : JournalStage.actor e = none)
      (hrow : e.before.ledger.row = none) (hevents : e.after.ledger.events = [row])
      (hkind : row.kind = "provision")
      (hholds : e.after.ledger.Holds ⟨d.key, d, revision, source⟩ next)
      (hjournals : e.after.journals = e.before.journals)
  | boot {j : PostgresJournal} {state next : LedgerState} {row : Row}
      (hactor : JournalStage.actor e = some e.before.journals.length)
      (happends : Appends (j.identity d) .boot e.before.ledger e.after.ledger state next row)
      (hjournals : e.after.journals = e.before.journals ++ [j])
      (hafter : j.live = true → JournalStage.commit e = .acknowledged ∧ j.state = next)
  | event {i : ℕ} {k : EventKind} {j j' : PostgresJournal} {row : Row} {next : LedgerState}
      (hactor : JournalStage.actor e = some i) (hkind : k ≠ .boot)
      (hconstruct : ∀ c x, e.input ≠ .construct c x)
      (hj : e.before.journals[i]? = some j) (hlive : j.live = true)
      (happends : Appends (j.identity d) k e.before.ledger e.after.ledger j.state next row)
      (hjournals : e.after.journals = e.before.journals.set i j')
      (hidentity : j'.identity d = j.identity d)
      (hafter : j'.live = true →
        JournalStage.commit e = .acknowledged ∧ j'.state = next ∧ k ≠ .close)

lemma JournalCall.kind_ne_boot {call : JournalCall} {k : EventKind} (h : call.kind = some k) :
    k ≠ .boot := by
  rintro rfl
  cases call <;> simp [JournalCall.kind] at h

/-- Every step is one of the four. -/
lemma effect_of_step {d : Domain} {w : Deployment} (hw : w.Inv d) (a : JournalInput) :
    JournalStage.Effect d ((journalMachine d).stage w a) := by
  have hsame (i : ℕ) (j : PostgresJournal) (hj : w.journals[i]? = some j) (hlive : j.live = true) :
      ∃ j' : PostgresJournal, w.journals[i]? = some j' ∧ j'.Keeps d j := ⟨j, hj, rfl, fun _ => ⟨hlive, rfl⟩⟩
  cases a with
  | provision revision manifestSha session commit =>
      rcases hp : provisionPostgresDomain d revision manifestSha session commit w.ledger with
        ⟨result, db'⟩
      have hstage : (journalMachine d).stage w (.provision revision manifestSha session commit) =
          ⟨w, .provision revision manifestSha session commit, ⟨db'.since w.ledger, result⟩,
            { w with ledger := db' }⟩ := by
        simp only [Machine.stage, Machine.out, Machine.next, journalMachine, hp]
      rw [hstage]
      rcases provision_eq hp with rfl | ⟨hnone, source, row, next, r, hreplay, hkind, hevents,
        hrow, hrevision, hsource⟩
      · exact .quiet rfl le_rfl hsame fun _ _ h => by cases h
      · have hempty : w.ledger = {} := by
          rcases hw.valid with hempty | ⟨_, _, _, ⟨r', hr', -⟩, -⟩
          · exact hempty
          · rw [hnone] at hr'
            cases hr'
        rw [hempty] at hevents
        refine .provision rfl hnone hevents hkind ⟨⟨_, hrow, hrevision, hsource, rfl⟩, ?_⟩ rfl
        rw [hevents]
        exact hreplay
  | construct c x =>
      rcases hp : (PostgresJournal.construct d x c).run ⟨w.ledger, c.fresh⟩ with ⟨result, k⟩
      have hstage : (journalMachine d).stage w (.construct c x) =
          ⟨w, .construct c x, ⟨k.ledger.since w.ledger, codeOf result⟩,
            { ledger := k.ledger, journals := w.journals ++ [k.journal] }⟩ := by
        simp only [Machine.stage, Machine.out, Machine.next, journalMachine, hp]
      rw [hstage]
      rcases run_construct c w.ledger hp with ⟨⟨f, rfl⟩, hledger, hdead⟩ |
        ⟨state, next, row, happends, hafter⟩
      · refine .quiet hledger (by simp) (fun i j hj hlive => ?_) fun _ _ _ => ⟨_, rfl⟩
        dsimp only at hj
        rw [List.getElem?_append] at hj
        split_ifs at hj with hlt
        · exact hsame i j hj hlive
        · obtain rfl := List.mem_singleton.mp (List.mem_of_getElem? hj)
          simp [hdead] at hlive
      · exact .boot rfl happends rfl hafter
  | call i call x =>
      cases hj : w.journals[i]? with
      | none =>
          have hstage : (journalMachine d).stage w (.call i call x) =
              ⟨w, .call i call x, ⟨[], .ok ()⟩, w⟩ := by
            simp only [Machine.stage, Machine.out, Machine.next, journalMachine, hj]
          rw [hstage]
          exact .quiet rfl le_rfl hsame fun _ _ h => by cases h
      | some j =>
          rcases hp : (call.program d x).run ⟨w.ledger, j⟩ with ⟨result, k⟩
          have hstage : (journalMachine d).stage w (.call i call x) =
              ⟨w, .call i call x, ⟨k.ledger.since w.ledger, codeOf result⟩,
                { ledger := k.ledger, journals := w.journals.set i k.journal }⟩ := by
            simp only [Machine.stage, Machine.out, Machine.next, journalMachine, hj, hp]
          rw [hstage]
          have heffect := relates_call (d := d) (x := x) call ⟨w.ledger, j⟩
          rw [hp] at heffect
          cases heffect with
          | quiet h =>
              refine .quiet h.ledger (by simp) (fun i' j' hj' hlive => ?_) fun _ _ h => by cases h
              dsimp only at hj'
              rw [List.getElem?_set] at hj'
              split_ifs at hj' with hi
              · obtain rfl := hi
                obtain rfl := Option.some.inj hj'
                exact ⟨j, hj, h.journal⟩
              · exact hsame i' j' hj' hlive
          | @append kind row next hkind hlive happends hidentity hafter =>
              have happends' : Appends (j.identity d) kind w.ledger k.ledger j.state next row :=
                happends
              have hidentity' : k.journal.identity d = j.identity d := hidentity
              refine .event rfl (JournalCall.kind_ne_boot hkind) (fun _ _ h => by cases h) hj hlive
                happends' rfl hidentity' fun h => ?_
              obtain ⟨hcommit, hstate⟩ := hafter h
              refine ⟨hcommit, hstate, ?_⟩
              rintro rfl
              have hdead := not_live_of_call hp (.inr (.inr hkind))
              exact absurd h (by simp [hdead])

/-! ## The invariant -/

section Invariant

variable {d : Domain} {w : Deployment} {e : JournalStage}

lemma Deployment.Inv.not_live (hw : w.Inv d) {revision source : String} {state : LedgerState}
    (hholds : w.ledger.Holds ⟨d.key, d, revision, source⟩ state)
    (hinactive : state.ownerActive = false) (i : ℕ) (j : PostgresJournal)
    (hj : w.journals[i]? = some j) : j.live = false := by
  by_contra hlive
  rw [Bool.not_eq_false] at hlive
  obtain ⟨hholds', hactive⟩ := hw.owner i j hj hlive
  rw [(hholds.unique hholds').2, hactive] at hinactive
  cases hinactive

/-- After a boot, no other journal can append. -/
lemma live_after_boot (hw : w.Inv d) {w' : Deployment} {j : PostgresJournal}
    {state next : LedgerState} {row : Row}
    (happends : Appends (j.identity d) .boot w.ledger w'.ledger state next row)
    (hjournals : w'.journals = w.journals ++ [j]) (i : ℕ) (j' : PostgresJournal)
    (hj' : w'.journals[i]? = some j') (hlive : j'.live = true) :
    i = w.journals.length ∧ j' = j := by
  have hdead := hw.not_live happends.holds happends.boot.2.1
  rw [hjournals, List.getElem?_append] at hj'
  split_ifs at hj' with hlt
  · simp [hdead i j' hj'] at hlive
  · obtain rfl := List.mem_singleton.mp (List.mem_of_getElem? hj')
    have hlength := (List.getElem?_eq_some_iff.mp hj').1
    rw [List.length_singleton] at hlength
    exact ⟨by omega, rfl⟩

/-- After an event, no journal but its author can append. -/
lemma live_after_event (hw : w.Inv d) {w' : Deployment} {i : ℕ} {j j' : PostgresJournal}
    (hj : w.journals[i]? = some j) (hlive : j.live = true)
    (hjournals : w'.journals = w.journals.set i j') (i₁ : ℕ) (j₁ : PostgresJournal)
    (hj₁ : w'.journals[i₁]? = some j₁) (hlive₁ : j₁.live = true) : i₁ = i ∧ j₁ = j' := by
  rw [hjournals, List.getElem?_set] at hj₁
  split_ifs at hj₁ with hi
  · exact ⟨hi.symm, (Option.some.inj hj₁).symm⟩
  · exact absurd (hw.single i i₁ j j₁ hj hj₁ hlive hlive₁) hi

/-- Every step keeps the invariant. -/
lemma inv_of_effect (hbefore : e.before.Inv d) (h : JournalStage.Effect d e) : e.after.Inv d := by
  cases h with
  | quiet hledger hlength hjournals hraised =>
      refine ⟨hledger ▸ hbefore.valid, fun i j' hj' hlive => ?_, fun i i' j j' hj hj' hl hl' => ?_⟩
      · obtain ⟨j, hj, hkeeps⟩ := hjournals i j' hj' hlive
        obtain ⟨hlive', hstate⟩ := hkeeps.live hlive
        rw [hledger, hkeeps.identity, hstate]
        exact hbefore.owner i j hj hlive'
      · obtain ⟨j₀, hj₀, hkeeps⟩ := hjournals i j hj hl
        obtain ⟨j₁, hj₁, hkeeps'⟩ := hjournals i' j' hj' hl'
        exact hbefore.single i i' j₀ j₁ hj₀ hj₁ (hkeeps.live hl).1 (hkeeps'.live hl').1
  | provision hactor hrow hevents hkind hholds hjournals =>
      have hdead (i : ℕ) (j : PostgresJournal) (hj : e.after.journals[i]? = some j) :
          j.live ≠ true := by
        intro hlive
        rw [hjournals] at hj
        obtain ⟨⟨⟨r, hr, -⟩, -⟩, -⟩ := hbefore.owner i j hj hlive
        rw [hrow] at hr
        cases hr
      exact ⟨.inr ⟨_, _, _, hholds⟩, fun i j hj hlive => absurd hlive (hdead i j hj),
        fun i i' j j' hj _ hlive _ => absurd hlive (hdead i j hj)⟩
  | @boot j state next row hactor happends hjournals hafter =>
      have honly := live_after_boot hbefore happends hjournals
      refine ⟨.inr ⟨_, _, _, happends.holdsNext⟩, fun i j' hj' hlive => ?_,
        fun i i' j₀ j₁ hj₀ hj₁ hl hl' => ?_⟩
      · obtain ⟨-, rfl⟩ := honly i j' hj' hlive
        rw [(hafter hlive).2]
        exact ⟨happends.holdsNext, happends.boot.2.2.2.1⟩
      · rw [(honly i j₀ hj₀ hl).1, (honly i' j₁ hj₁ hl').1]
  | @event i k j j' row next hactor hkind hconstruct hj hlive happends hjournals hidentity hafter =>
      have honly := live_after_event hbefore hj hlive hjournals
      refine ⟨.inr ⟨_, _, _, happends.holdsNext⟩, fun i₁ j₁ hj₁ hlive₁ => ?_,
        fun i₁ i₂ j₁ j₂ hj₁ hj₂ hl hl' => ?_⟩
      · obtain ⟨rfl, rfl⟩ := honly i₁ j₁ hj₁ hlive₁
        obtain ⟨-, hstate, hclose⟩ := hafter hlive₁
        rw [hidentity, hstate]
        refine ⟨happends.holdsNext, ?_⟩
        rw [(happends.owned hkind).2.2.1]
        exact decide_eq_true hclose
      · rw [(honly i₁ j₁ hj₁ hl).1, (honly i₂ j₂ hj₂ hl').1]

lemma preserved_inv (d : Domain) : (journalMachine d).Preserved (Deployment.Inv d) :=
  fun _ a hw => inv_of_effect (e := (journalMachine d).stage _ a) hw (effect_of_step hw a)

lemma inv_initial (d : Domain) : Deployment.Inv d {} :=
  ⟨.inl rfl, by simp, by simp⟩

/-! ## What a step appends -/

/-- The durable epoch. -/
def Ledger.epoch (db : Ledger) : ℕ := (db.row.map DomainRow.epoch).getD 0

lemma Ledger.Holds.epoch_eq {db : Ledger} {l : LedgerIdentity} {state : LedgerState}
    (h : db.Holds l state) : db.epoch = state.epoch := by
  obtain ⟨⟨r, hr, -, -, hproject⟩, -⟩ := h
  rw [Ledger.epoch, hr, ← hproject]
  rfl

/-- What is durable after a provision. -/
lemma replay_provision {l : LedgerIdentity} {row : Row} {next : LedgerState}
    (h : replay l [row] = some next) (hkind : row.kind = "provision") : row.epoch? = none := by
  obtain ⟨-, s, hs, -⟩ := replay_eq_some.mp h
  rw [accept_cons, Option.bind_eq_some_iff] at hs
  obtain ⟨t, ht, -⟩ := hs
  obtain ⟨-, -, -, x, u, hx, -, -⟩ := replayRow_eq_some ht
  have htext := row_kind hx
  rw [hkind] at htext
  cases x with
  | provision => exact epoch?_of_provision hx
  | event hd a => cases a <;> simp [Entry.kind, Action.kind, EventKind.text] at htext

lemma since_self (db : Ledger) : db.since db = [] := List.drop_length

/-- The row a step appended, and what it says of the step. -/
inductive JournalStage.Appended (d : Domain) (e : JournalStage) (row : Row) : Prop
  | provision (hactor : JournalStage.actor e = none) (hrow : e.before.ledger.row = none)
      (hrow' : e.after.ledger.row ≠ none) (hepoch : row.epoch? = none)
      (hkind : row.kind = "provision") (hjournals : e.after.journals = e.before.journals)
  | boot (hactor : JournalStage.actor e = some e.before.journals.length)
      (hepoch : row.epoch? = some (e.before.ledger.epoch + 1))
  | event {i : ℕ} {j : PostgresJournal} (hactor : JournalStage.actor e = some i)
      (hj : e.before.journals[i]? = some j) (hlive : j.live = true)
      (hepoch : row.epoch? = some e.before.ledger.epoch)

lemma appended_of_effect (hbefore : e.before.Inv d) (h : JournalStage.Effect d e) {row : Row}
    (hrow : row ∈ e.after.ledger.since e.before.ledger) : JournalStage.Appended d e row := by
  cases h with
  | quiet hledger =>
      rw [hledger, since_self] at hrow
      simp at hrow
  | @provision source revision row' next hactor hnone hevents hkind hholds hjournals =>
      have hempty : e.before.ledger = {} := by
        rcases hbefore.valid with hempty | ⟨_, _, _, ⟨r, hr, -⟩, -⟩
        · exact hempty
        · rw [hnone] at hr
          cases hr
      rw [Ledger.since, hempty, hevents] at hrow
      obtain rfl := List.mem_singleton.mp hrow
      have haccepted := hholds.accepted
      rw [hevents] at haccepted
      obtain ⟨r, hr, -⟩ := hholds.row
      exact .provision hactor hnone (by simp [hr]) (replay_provision haccepted hkind) hkind
        hjournals
  | boot hactor happends hjournals hafter =>
      rw [happends.since] at hrow
      obtain rfl := List.mem_singleton.mp hrow
      obtain ⟨-, -, hnext, -, hepoch⟩ := happends.boot
      exact .boot hactor (by rw [hepoch, hnext, happends.holds.epoch_eq])
  | event hactor hkind hconstruct hj hlive happends hjournals hidentity hafter =>
      rw [happends.since] at hrow
      obtain rfl := List.mem_singleton.mp hrow
      obtain ⟨-, hnext, -, hepoch⟩ := happends.owned hkind
      exact .event hactor hj hlive (by rw [hepoch, hnext, happends.holds.epoch_eq])

/-! ## What later steps keep -/

/-- In epoch `k`, only the journals of `P` can append, and the epoch is reached. -/
structure Deployment.Only (P : ℕ → Prop) (k : ℕ) (w : Deployment) : Prop where
  provisioned : w.ledger.row ≠ none
  epoch : k ≤ w.ledger.epoch
  owner : w.ledger.epoch = k → ∀ (i : ℕ) (j : PostgresJournal),
    w.journals[i]? = some j → j.live = true → P i

lemma only_of_effect {P : ℕ → Prop} {k : ℕ} (h : JournalStage.Effect d e)
    (honly : e.before.Only P k) : e.after.Only P k := by
  obtain ⟨hprovisioned, hepoch, howner⟩ := honly
  cases h with
  | quiet hledger hlength hjournals hraised =>
      refine ⟨hledger ▸ hprovisioned, hledger ▸ hepoch, fun hk i j' hj' hlive => ?_⟩
      obtain ⟨j, hj, hkeeps⟩ := hjournals i j' hj' hlive
      exact howner (hledger ▸ hk) i j hj (hkeeps.live hlive).1
  | provision hactor hrow => exact absurd hrow hprovisioned
  | boot hactor happends =>
      have hnext := happends.boot.2.2.1
      rw [← happends.holds.epoch_eq, ← happends.holdsNext.epoch_eq] at hnext
      obtain ⟨r, hr, -⟩ := happends.holdsNext.row
      exact ⟨by simp [hr], by omega, fun hk => by omega⟩
  | @event i _ j j' _ _ hactor hkind hconstruct hj hlive happends hjournals hidentity hafter =>
      have hnext := (happends.owned hkind).2.1
      rw [← happends.holds.epoch_eq, ← happends.holdsNext.epoch_eq] at hnext
      obtain ⟨r, hr, -⟩ := happends.holdsNext.row
      refine ⟨by simp [hr], by omega, fun hk i₁ j₁ hj₁ hlive₁ => ?_⟩
      rw [hjournals, List.getElem?_set] at hj₁
      split_ifs at hj₁ with hi
      · exact hi ▸ howner (by omega) i j hj hlive
      · exact howner (by omega) i₁ j₁ hj₁ hlive₁

/-- What is appended after that is of a later epoch, or of one of `P`. -/
lemma only_appends {P : ℕ → Prop} {k : ℕ} {row : Row} (h : JournalStage.Appended d e row)
    (honly : e.before.Only P k) :
    ∃ n, row.epoch? = some n ∧ k ≤ n ∧
      (n = k → ∃ i, JournalStage.actor e = some i ∧ P i) := by
  cases h with
  | provision _ hrow => exact absurd hrow honly.provisioned
  | boot _ hepoch =>
      have := honly.epoch
      exact ⟨_, hepoch, by omega, fun hk => by omega⟩
  | event hactor hj hlive hepoch =>
      exact ⟨_, hepoch, honly.epoch, fun hk => ⟨_, hactor, honly.owner hk _ _ hj hlive⟩⟩

/-- After an event, only its author can append in its epoch, and only if it was told. -/
lemma only_author (hbefore : e.before.Inv d) (h : JournalStage.Effect d e) {row : Row}
    (hrow : row ∈ e.after.ledger.since e.before.ledger) :
    e.after.Only (fun i => JournalStage.actor e = some i ∧ JournalStage.commit e = .acknowledged)
      (row.epoch?.getD 0) := by
  have happended := appended_of_effect hbefore h hrow
  cases h with
  | quiet hledger =>
      rw [hledger, since_self] at hrow
      simp at hrow
  | provision hactor' hnone hevents hkind hholds hjournals =>
      cases happended with
      | provision _ _ hrow' hepoch =>
          rw [hepoch]
          refine ⟨hrow', Nat.zero_le _, fun _ i j hj hlive => ?_⟩
          rw [hjournals] at hj
          obtain ⟨⟨⟨r, hr, -⟩, -⟩, -⟩ := hbefore.owner i j hj hlive
          rw [hnone] at hr
          cases hr
      | boot hactor | event hactor => rw [hactor'] at hactor; cases hactor
  | @boot j _ _ _ hactor' happends hjournals hafter =>
      rw [happends.since] at hrow
      obtain rfl := List.mem_singleton.mp hrow
      obtain ⟨r, hr, -⟩ := happends.holdsNext.row
      rw [happends.boot.2.2.2.2, ← happends.holdsNext.epoch_eq]
      refine ⟨by simp [hr], le_rfl, fun _ i j' hj' hlive => ?_⟩
      obtain ⟨rfl, rfl⟩ := live_after_boot hbefore happends hjournals i j' hj' hlive
      exact ⟨hactor', (hafter hlive).1⟩
  | event hactor' hkind _ hj hlive happends hjournals hidentity hafter =>
      rw [happends.since] at hrow
      obtain rfl := List.mem_singleton.mp hrow
      obtain ⟨r, hr, -⟩ := happends.holdsNext.row
      rw [(happends.owned hkind).2.2.2, ← happends.holdsNext.epoch_eq]
      refine ⟨by simp [hr], le_rfl, fun _ i₁ j₁ hj₁ hlive₁ => ?_⟩
      obtain ⟨rfl, rfl⟩ := live_after_event hbefore hj hlive hjournals i₁ j₁ hj₁ hlive₁
      exact ⟨hactor', (hafter hlive₁).1⟩

/-- A journal that can never append again. -/
def Deployment.Dead (i : ℕ) (w : Deployment) : Prop :=
  ∃ j : PostgresJournal, w.journals[i]? = some j ∧ j.live = false

lemma dead_of_effect {i : ℕ} (h : JournalStage.Effect d e) (hdead : e.before.Dead i) :
    e.after.Dead i := by
  obtain ⟨j, hj, hlive⟩ := hdead
  have hlt := (List.getElem?_eq_some_iff.mp hj).1
  cases h with
  | quiet hledger hlength hjournals hraised =>
      refine ⟨e.after.journals[i], List.getElem?_eq_getElem (by omega), ?_⟩
      by_contra hcontra
      rw [Bool.not_eq_false] at hcontra
      obtain ⟨j₀, hj₀, hkeeps⟩ := hjournals i _ (List.getElem?_eq_getElem (by omega)) hcontra
      obtain rfl := Option.some.inj (hj.symm.trans hj₀)
      exact absurd (hkeeps.live hcontra).1 (by simp [hlive])
  | provision _ _ _ _ _ hjournals => exact ⟨j, hjournals ▸ hj, hlive⟩
  | boot _ _ hjournals =>
      exact ⟨j, by rw [hjournals, List.getElem?_append_left hlt, hj], hlive⟩
  | @event i' _ j' _ _ _ _ _ _ hj' hlive' _ hjournals =>
      refine ⟨j, ?_, hlive⟩
      rw [hjournals, List.getElem?_set_ne, hj]
      rintro rfl
      obtain rfl := Option.some.inj (hj.symm.trans hj')
      simp [hlive] at hlive'

lemma dead_appends {i : ℕ} {row : Row} (h : JournalStage.Appended d e row)
    (hdead : e.before.Dead i) : JournalStage.actor e ≠ some i := by
  intro hactor
  obtain ⟨j, hj, hlive⟩ := hdead
  cases h with
  | provision hactor' => rw [hactor'] at hactor; cases hactor
  | boot hactor' =>
      obtain rfl := Option.some.inj (hactor'.symm.trans hactor)
      simp at hj
  | event hactor' hj' hlive' =>
      obtain rfl := Option.some.inj (hactor'.symm.trans hactor)
      obtain rfl := Option.some.inj (hj.symm.trans hj')
      simp [hlive] at hlive'

/-- An owner is active, and no journal can append: nothing is ever appended again. -/
structure Deployment.Frozen (d : Domain) (w : Deployment) : Prop where
  owned : ∃ revision source state, w.ledger.Holds ⟨d.key, d, revision, source⟩ state ∧
    state.ownerActive = true
  dead : ∀ (i : ℕ) (j : PostgresJournal), w.journals[i]? = some j → j.live = false

lemma frozen_effect (h : JournalStage.Effect d e) (hfrozen : e.before.Frozen d) :
    e.after.ledger = e.before.ledger ∧ e.after.Frozen d := by
  obtain ⟨⟨revision, source, state, hholds, hactive⟩, hdead⟩ := hfrozen
  cases h with
  | quiet hledger hlength hjournals hraised =>
      refine ⟨hledger, ⟨_, _, _, hledger ▸ hholds, hactive⟩, fun i j' hj' => ?_⟩
      by_contra hlive
      rw [Bool.not_eq_false] at hlive
      obtain ⟨j, hj, hkeeps⟩ := hjournals i j' hj' hlive
      exact absurd (hkeeps.live hlive).1 (by simp [hdead i j hj])
  | provision hactor hrow =>
      obtain ⟨r, hr, -⟩ := hholds.row
      rw [hrow] at hr
      cases hr
  | boot hactor happends =>
      have hinactive := happends.boot.2.1
      rw [← (hholds.unique happends.holds).2, hactive] at hinactive
      cases hinactive
  | event hactor hkind hconstruct hj hlive => simp [hdead _ _ hj] at hlive

/-- A lost event other than a `close` freezes the ledger. -/
lemma frozen_of_lost (hbefore : e.before.Inv d) (h : JournalStage.Effect d e)
    (hlost : JournalStage.commit e = .lost) {row : Row}
    (hrow : row ∈ e.after.ledger.since e.before.ledger) (hprovision : row.kind ≠ "provision")
    (hclose : row.kind ≠ "close") : e.after.Frozen d := by
  cases h with
  | quiet hledger =>
      rw [hledger, since_self] at hrow
      simp at hrow
  | provision hactor hnone hevents hkind hholds hjournals =>
      have happended := appended_of_effect hbefore
        (.provision hactor hnone hevents hkind hholds hjournals) hrow
      cases happended with
      | provision _ _ _ _ hkind' => exact absurd hkind' hprovision
      | boot hactor' | event hactor' => rw [hactor] at hactor'; cases hactor'
  | boot hactor happends hjournals hafter =>
      refine ⟨⟨_, _, _, happends.holdsNext, happends.boot.2.2.2.1⟩, fun i j' hj' => ?_⟩
      by_contra hlive
      rw [Bool.not_eq_false] at hlive
      obtain ⟨-, rfl⟩ := live_after_boot hbefore happends hjournals i j' hj' hlive
      simp [hlost] at hafter
      simp [hafter] at hlive
  | event hactor hkind hconstruct hj hlive happends hjournals hidentity hafter =>
      rw [happends.since] at hrow
      obtain rfl := List.mem_singleton.mp hrow
      refine ⟨⟨_, _, _, happends.holdsNext, ?_⟩, fun i₁ j₁ hj₁ => ?_⟩
      · rw [(happends.owned hkind).2.2.1]
        refine decide_eq_true fun hk => hclose ?_
        rw [happends.kind, hk]
        rfl
      · by_contra hlive₁
        rw [Bool.not_eq_false] at hlive₁
        obtain ⟨-, rfl⟩ := live_after_event hbefore hj hlive hjournals i₁ j₁ hj₁ hlive₁
        have := (hafter hlive₁).1
        rw [hlost] at this
        cases this

/-- A constructor that finds a hold or an open owner raises and appends nothing. -/
lemma recovery_hold (h : JournalStage.Effect d e) {c : Configuration}
    {x : Surroundings} (hinput : e.input = .construct c x)
    (hhold : ownerOpen e.before.ledger.events = true ∨
      ∃ row ∈ e.before.ledger.events, row.holds = true) :
    e.after.ledger = e.before.ledger ∧ ∃ code, e.output.result = .error code := by
  cases h with
  | quiet hledger hlength hjournals hraised => exact ⟨hledger, hraised c x hinput⟩
  | provision hactor =>
      rw [JournalStage.actor, hinput] at hactor
      cases hactor
  | boot hactor happends =>
      obtain ⟨s, rfl, hprojects⟩ := happends.holds.projects
      obtain ⟨hheld, hinactive, -⟩ := happends.boot
      rw [hprojects.held, List.any_eq_false] at hheld
      rw [hprojects.owner] at hinactive
      rcases hhold with hopen | ⟨row, hrow, hholds⟩
      · simp [hopen] at hinactive
      · exact absurd hholds (hheld row hrow)
  | event hactor hkind hconstruct => exact absurd hinput (hconstruct c x)

end Invariant

/-! ## Ownership -/

/-- The method of a step raised, or it was `failed`, which keeps what its append raised. -/
def JournalStage.stopped (e : JournalStage) : Prop :=
  (∃ code, e.output.result = .error code) ∨
    ∃ i x, e.input = .call i .failed x ∧ i < e.before.journals.length

lemma appended_eq (d : Domain) (w : Deployment) (a : JournalInput) :
    ((journalMachine d).stage w a).output.appended =
      ((journalMachine d).stage w a).after.ledger.since w.ledger := by
  cases a with
  | call i call x =>
      simp only [Machine.stage, Machine.out, Machine.next, journalMachine]
      cases w.journals[i]? with
      | none => exact (since_self _).symm
      | some j => rfl
  | _ => rfl

/-- The journal of a step that stopped can never append again. -/
lemma dead_of_stopped {d : Domain} {w : Deployment} {a : JournalInput} {i : ℕ}
    (hactor : JournalStage.actor ((journalMachine d).stage w a) = some i)
    (hstopped : JournalStage.stopped ((journalMachine d).stage w a)) :
    ((journalMachine d).stage w a).after.Dead i := by
  cases a with
  | provision => cases hactor
  | construct c x =>
      obtain rfl := Option.some.inj hactor
      rcases hp : (PostgresJournal.construct d x c).run ⟨w.ledger, c.fresh⟩ with ⟨result, k⟩
      simp only [JournalStage.stopped, Machine.stage, Machine.out, Machine.next, journalMachine,
        hp] at hstopped ⊢
      refine ⟨k.journal, by simp, ?_⟩
      rcases hstopped with ⟨code, hcode⟩ | ⟨_, _, hinput, -⟩
      · cases result with
        | ok => cases hcode
        | error f => exact not_live_of_stopping hp
      · cases hinput
  | call i' call x =>
      obtain rfl := Option.some.inj hactor
      cases hj : w.journals[i']? with
      | none =>
          simp only [JournalStage.stopped, Machine.stage, Machine.out, Machine.next,
            journalMachine, hj] at hstopped
          rcases hstopped with ⟨code, hcode⟩ | ⟨i, x', hinput, hlt⟩
          · cases hcode
          · cases hinput
            have := List.getElem?_eq_none_iff.mp hj
            omega
      | some j =>
          have hlt := (List.getElem?_eq_some_iff.mp hj).1
          rcases hp : (call.program d x).run ⟨w.ledger, j⟩ with ⟨result, k⟩
          simp only [JournalStage.stopped, Machine.stage, Machine.out, Machine.next,
            journalMachine, hj, hp] at hstopped ⊢
          refine ⟨k.journal, by simp [hlt], not_live_of_call hp ?_⟩
          rcases hstopped with ⟨code, hcode⟩ | ⟨i, x', hinput, -⟩
          · cases result with
            | ok => cases hcode
            | error f => exact .inl ⟨f, rfl⟩
          · cases hinput
            exact .inr (.inl rfl)

/-- **Ownership of one ledger**, in every run of any number of journals over it:
* the ledger is unprovisioned, or its rows are a chain that `replay` accepts and its row is the
  projection of the state `replay` computes;
* at most one journal can append; it is the active owner and remembers the durable state;
* no two journals append events of one epoch;
* a journal whose method raised, or swallowed what its append raised, never appends again;
* after an append whose acknowledgement was lost, only events of later epochs are appended, and
  none at all unless what was lost is the provision or a `close`;
* a constructor that finds a hold, or an owner that booted and did not close, raises and appends
  nothing. -/
theorem postgresJournal_ownership (d : Domain) (inputs : List JournalInput) :
    let w := (journalMachine d).run {} inputs
    let stages := (journalMachine d).trace {} inputs
    (w.ledger = {} ∨ ∃ revision source state,
      w.ledger.Holds ⟨d.key, d, revision, source⟩ state ∧ IsChain w.ledger.events) ∧
    (∀ (i i' : ℕ) (j j' : PostgresJournal), w.journals[i]? = some j → w.journals[i']? = some j' →
      j.live = true → j'.live = true → i = i' ∧ w.ledger.Holds (j.identity d) j.state ∧
        j.state.ownerActive = true) ∧
    stages.Pairwise (fun a b => ∀ i i', JournalStage.actor a = some i →
      JournalStage.actor b = some i' → ∀ r ∈ a.output.appended, ∀ q ∈ b.output.appended,
        r.epoch? = q.epoch? → i = i') ∧
    stages.Pairwise (fun a b => JournalStage.stopped a → ∀ i, JournalStage.actor a = some i →
      JournalStage.actor b = some i → b.output.appended = []) ∧
    stages.Pairwise (fun a b => JournalStage.commit a = .lost →
      ∀ r ∈ a.output.appended, ∀ q ∈ b.output.appended,
        (∃ n, q.epoch? = some n ∧ r.epoch?.getD 0 < n) ∧
          (r.kind = "provision" ∨ r.kind = "close")) ∧
    ∀ e ∈ stages, ∀ c x, e.input = .construct c x →
      (ownerOpen e.before.ledger.events = true ∨
        ∃ row ∈ e.before.ledger.events, row.holds = true) →
      e.output.appended = [] ∧ ∃ code, e.output.result = .error code := by
  have hpreserved := preserved_inv d
  have hinv := hpreserved.run (inv_initial d) inputs
  refine ⟨?_, ?_, ?_, ?_, ?_, ?_⟩
  · rcases hinv.valid with hempty | ⟨revision, source, state, hholds⟩
    · exact .inl hempty
    · obtain ⟨s, -, hprojects⟩ := hholds.projects
      exact .inr ⟨revision, source, state, hholds, hprojects.chain⟩
  · intro i i' j j' hj hj' hlive hlive'
    obtain ⟨hholds, hactive⟩ := hinv.owner i j hj hlive
    exact ⟨hinv.single i i' j j' hj hj' hlive hlive', hholds, hactive⟩
  · refine Machine.pairwise_trace (K := fun a w => ∀ i, JournalStage.actor a = some i →
      ∀ r ∈ a.output.appended, w.Only (fun i' => i' = i) (r.epoch?.getD 0)) hpreserved ?_ ?_ ?_
      (inv_initial d) inputs
    · intro w a hw i hi r hr
      rw [appended_eq] at hr
      obtain ⟨hprovisioned, hepoch, howner⟩ := only_author hw (effect_of_step hw a) hr
      refine ⟨hprovisioned, hepoch, fun hk i' j' hj' hlive => ?_⟩
      exact Option.some.inj ((howner hk i' j' hj' hlive).1.symm.trans hi)
    · exact fun a w b hw hkept i hi r hr =>
        only_of_effect (effect_of_step hw b) (hkept i hi r hr)
    · intro a w b hw hkept i i' hi hi' r hr q hq hepoch
      rw [appended_eq] at hq
      obtain ⟨n, hn, -, hauthor⟩ :=
        only_appends (appended_of_effect hw (effect_of_step hw b) hq) (hkept i hi r hr)
      obtain ⟨i'', hi'', rfl⟩ := hauthor (by rw [hepoch, hn]; rfl)
      exact Option.some.inj (hi''.symm.trans hi')
  · refine Machine.pairwise_trace (K := fun a w => JournalStage.stopped a →
      ∀ i, JournalStage.actor a = some i → w.Dead i) hpreserved ?_ ?_ ?_ (inv_initial d) inputs
    · exact fun w a hw hstopped i hi => dead_of_stopped hi hstopped
    · exact fun a w b hw hkept hstopped i hi =>
        dead_of_effect (effect_of_step hw b) (hkept hstopped i hi)
    · intro a w b hw hkept hstopped i hi hi'
      rw [appended_eq, List.eq_nil_iff_forall_not_mem]
      exact fun row hrow => dead_appends (appended_of_effect hw (effect_of_step hw b) hrow)
        (hkept hstopped i hi) hi'
  · refine Machine.pairwise_trace (K := fun a w => JournalStage.commit a = .lost →
      ∀ r ∈ a.output.appended, w.Only (fun _ => False) (r.epoch?.getD 0) ∧
        (r.kind ≠ "provision" → r.kind ≠ "close" → w.Frozen d)) hpreserved ?_ ?_ ?_
      (inv_initial d) inputs
    · intro w a hw hlost r hr
      rw [appended_eq] at hr
      obtain ⟨hprovisioned, hepoch, howner⟩ := only_author hw (effect_of_step hw a) hr
      refine ⟨⟨hprovisioned, hepoch, fun hk i' j' hj' hlive => ?_⟩,
        frozen_of_lost hw (effect_of_step hw a) hlost hr⟩
      have hcommit := (howner hk i' j' hj' hlive).2
      rw [hlost] at hcommit
      cases hcommit
    · intro a w b hw hkept hlost r hr
      obtain ⟨honly, hfrozen⟩ := hkept hlost r hr
      exact ⟨only_of_effect (effect_of_step hw b) honly, fun hprovision hclose =>
        (frozen_effect (effect_of_step hw b) (hfrozen hprovision hclose)).2⟩
    · intro a w b hw hkept hlost r hr q hq
      obtain ⟨honly, hfrozen⟩ := hkept hlost r hr
      rw [appended_eq] at hq
      obtain ⟨n, hn, hle, hauthor⟩ :=
        only_appends (appended_of_effect hw (effect_of_step hw b) hq) honly
      refine ⟨⟨n, hn, lt_of_le_of_ne hle fun hk => ?_⟩, ?_⟩
      · obtain ⟨_, -, hfalse⟩ := hauthor hk.symm
        exact hfalse
      · by_contra hother
        rw [not_or] at hother
        have hsame := (frozen_effect (effect_of_step hw b) (hfrozen hother.1 hother.2)).1
        rw [show ((journalMachine d).stage w b).after.ledger = w.ledger from hsame,
          since_self] at hq
        simp at hq
  · intro e he c x hinput hhold
    obtain ⟨pre, -, -, hstage⟩ := (journalMachine d).exists_of_mem_trace he
    have hw := hpreserved.run (inv_initial d) pre
    rw [hstage] at hinput hhold ⊢
    obtain ⟨hsame, hraised⟩ := recovery_hold (effect_of_step hw _) hinput hhold
    refine ⟨?_, hraised⟩
    rw [appended_eq, show ((journalMachine d).stage _ _).after.ledger =
      ((journalMachine d).run {} pre).ledger from hsame, since_self]

end CivicGate
