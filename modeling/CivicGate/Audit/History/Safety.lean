import CivicGate.Audit.History.Append

/-!
# What an accepted history says

The safety of the ledger is proved from what one row can do.  `Replay.Moves` lists the
transitions with what each requires, and `Explains` is the account the loop's state gives of the
entries read so far: which epochs were opened, which requests began, and how the entries end
while a request is active.  Every row keeps the account (`explains_step`), so it holds after any
accepted history (`read_of_accept`), and `ledgerHistory_safe` reads the claims off it.
-/

namespace CivicGate

/-! ## What a row can do -/

/-- The event is the current owner's. -/
structure Replay.Owns (s : Replay) (h : Header) : Prop where
  active : s.ledger.ownerActive = true
  epoch : h.epoch = s.ledger.epoch
  ownerId : s.ledger.ownerId = some h.ownerId
  instanceId : s.instanceId = some h.instanceId

/-- The transitions, each with what it requires and what it changes. -/
inductive Replay.Moves (d : Domain) (s : Replay) : Entry → Replay → Prop
  | provision : Moves d s .provision s
  | boot {h : Header} (hheld : s.ledger.held = false) (howner : s.ledger.ownerActive = false)
      (hactive : s.ledger.active = none) (hepoch : h.epoch = s.ledger.epoch + 1) :
      Moves d s (.event h .boot)
        { s with
          instanceId := some h.instanceId
          ledger := { s.ledger with epoch := h.epoch, ownerId := some h.ownerId,
                                    ownerActive := true } }
  | close {h : Header} (howns : s.Owns h) (hheld : s.ledger.held = false)
      (hactive : s.ledger.active = none) :
      Moves d s (.event h .close)
        { s with ledger := { s.ledger with ownerId := none, ownerActive := false } }
  | begin {h : Header} {r : String} {c : Context} (howns : s.Owns h)
      (hheld : s.ledger.held = false) (hactive : s.ledger.active = none)
      (hseen : r ∉ s.ledger.seen) (htext : isText r 128 = true) :
      Moves d s (.event h (.begin r c))
        { s with
          activeContext := some c
          ledger := { s.ledger with active := some r, phase := some .begin,
                                    seen := insert r s.ledger.seen } }
  | policy {h : Header} {r : String} {e : PolicyEvidence} (howns : s.Owns h)
      (hheld : s.ledger.held = false) (hactive : s.ledger.active = some r)
      (hphase : s.ledger.phase = some .begin) :
      Moves d s (.event h (.policy r e))
        { s with
          policyReasons := e.reasons
          ledger := { s.ledger with phase := some .policy,
                                    initialDecision := some e.initialDecision,
                                    bindingIssued := e.bindingIssued } }
  | intent {h : Header} {r : String} {e : IntentEvidence} (howns : s.Owns h)
      (hheld : s.ledger.held = false) (hactive : s.ledger.active = some r)
      (hphase : s.ledger.phase = some .policy)
      (hpermit : s.ledger.initialDecision = some .permit) (hissued : s.ledger.bindingIssued = true) :
      Moves d s (.event h (.intent r e))
        { s with ledger := { s.ledger with phase := some .intent } }
  | finish {h : Header} {r : String} {e : FinishEvidence} {ledger : LedgerState}
      (howns : s.Owns h) (hheld : s.ledger.held = false) (hactive : s.ledger.active = some r)
      (hfinish : s.ledger.finish e = some ledger) :
      Moves d s (.event h (.finish r e))
        { s with ledger, activeContext := none, policyReasons := [] }
  | hold {h : Header} {r : Option String} (howns : s.Owns h) (hactive : r = s.ledger.active) :
      Moves d s (.event h (.hold r)) { s with ledger := { s.ledger with held := true } }

/-- An event other than `boot` is the current owner's, and after a hold it is a `hold`. -/
lemma advance_event {d : Domain} {s t : Replay} {h : Header} {a : Action} (ha : a ≠ .boot)
    (hs : s.advance d (.event h a) = some t) :
    s.Owns h ∧ (s.ledger.held = false ∨ a.kind = .hold) ∧ s.act d h.time a = some t := by
  have hadvance : s.advance d (.event h a) = (do
      require (s.ledger.ownerActive && h.epoch = s.ledger.epoch)
      require (s.ledger.ownerId = some h.ownerId && s.instanceId = some h.instanceId)
      require (!s.ledger.held || a.kind = .hold)
      s.act d h.time a) := by
    cases a <;> first | rfl | exact absurd rfl ha
  rw [hadvance] at hs
  simp only [Option.bind_eq_bind, Option.bind_eq_some_iff, require_eq_some, Bool.and_eq_true,
    Bool.or_eq_true, Bool.not_eq_true', decide_eq_true_eq] at hs
  obtain ⟨-, ⟨hactive, hepoch⟩, -, ⟨howner, hinstance⟩, -, hheld, hact⟩ := hs
  exact ⟨⟨hactive, hepoch, howner, hinstance⟩, hheld, hact⟩

lemma moves_of_advance {d : Domain} {s t : Replay} {x : Entry} (h : s.advance d x = some t) :
    s.Moves d x t := by
  cases x with
  | provision =>
      obtain rfl := Option.some.inj h
      exact .provision
  | event header a =>
      by_cases hboot : a = .boot
      · subst hboot
        simp only [Replay.advance, Option.bind_eq_bind, Option.bind_eq_some_iff, require_eq_some,
          Option.pure_def, Option.some.injEq, Bool.and_eq_true, Bool.not_eq_true',
          decide_eq_true_eq] at h
        obtain ⟨-, -, -, ⟨⟨hheld, howner⟩, hactive⟩, -, hepoch, rfl⟩ := h
        exact .boot hheld howner hactive hepoch
      · obtain ⟨howns, hheld, hact⟩ := advance_event hboot h
        have hheld' : a.kind ≠ .hold → s.ledger.held = false := hheld.resolve_right
        cases a <;> simp only [Replay.act, Option.bind_eq_bind, Option.bind_eq_some_iff,
          require_eq_some, Option.pure_def, Option.some.injEq, Bool.and_eq_true,
          decide_eq_true_eq, reduceCtorEq] at hact
        case close =>
          obtain ⟨-, hactive, rfl⟩ := hact
          exact .close howns (hheld' (by decide)) hactive
        case begin r c =>
          obtain ⟨-, hactive, -, ⟨htext, hseen⟩, -, -, rfl⟩ := hact
          exact .begin howns (hheld' (by simp [Action.kind])) hactive hseen htext
        case policy r e =>
          obtain ⟨-, hactive, -, hphase, -, -, -, -, rfl⟩ := hact
          exact .policy howns (hheld' (by simp [Action.kind])) hactive hphase
        case intent r e =>
          obtain ⟨-, hactive, -, hphase, -, ⟨hpermit, hissued⟩, -, -, -, -, -, -, rfl⟩ := hact
          exact .intent howns (hheld' (by simp [Action.kind])) hactive hphase hpermit hissued
        case finish r e =>
          obtain ⟨-, hactive, ledger, hfinish, rfl⟩ := hact
          exact .finish howns (hheld' (by simp [Action.kind])) hactive hfinish
        case hold r =>
          obtain ⟨-, hactive, rfl⟩ := hact
          exact .hold howns hactive

/-- What one iteration of the loop does. -/
lemma replayRow_eq_some {l : LedgerIdentity} {s t : Replay} {row : Row}
    (h : replayRow l s row = some t) :
    row.sequence = s.ledger.sequence + 1 ∧ row.previous = s.ledger.digest ∧
      row.digest = eventDigest row.previous row.payload ∧
      ∃ x u, row.entry l = some x ∧ s.Moves l.domain x u ∧
        t = { u with
          ledger := { u.ledger with sequence := s.ledger.sequence + 1, digest := row.digest }
          previousKind := some x.kind } := by
  simp only [replayRow, Option.bind_eq_bind, Option.bind_eq_some_iff, require_eq_some,
    Option.pure_def, Option.some.injEq, Bool.and_eq_true, decide_eq_true_eq] at h
  obtain ⟨-, hseq, -, ⟨hprevious, hdigest⟩, x, hx, u, hu, rfl⟩ := h
  exact ⟨hseq, hprevious, hdigest, x, u, hx, moves_of_advance hu, rfl⟩

lemma row_kind {l : LedgerIdentity} {row : Row} {x : Entry} (h : row.entry l = some x) :
    row.kind = x.kind.text := by
  simp only [Row.entry, Option.bind_eq_bind, Option.bind_eq_some_iff, require_eq_some,
    Option.pure_def, Option.some.injEq, Bool.and_eq_true, decide_eq_true_eq] at h
  obtain ⟨-, -, v, -, -, -, y, -, -, ⟨hkind, -⟩, rfl⟩ := h
  exact hkind

/-- What `_finish` leaves, whatever the event. -/
lemma finish_eq_some {s t : LedgerState} {e : FinishEvidence} (h : s.finish e = some t) :
    s.denials ≤ e.denials ∧
      (e.toolExecuted = true →
        s.phase = some .intent ∧ s.initialDecision = some .permit ∧ s.bindingIssued = true) ∧
      t = { s with denials := e.denials, held := s.held || e.hold, active := none, phase := none,
                   initialDecision := none, bindingIssued := false } := by
  simp only [LedgerState.finish, Option.bind_eq_bind, Option.bind_eq_some_iff, require_eq_some,
    Option.pure_def, Option.some.injEq, decide_eq_true_eq] at h
  obtain ⟨-, -, -, hdenials, -, -, -, hstate, rfl⟩ := h
  refine ⟨hdenials, fun hexecuted => ?_, rfl⟩
  rw [if_pos hexecuted, Bool.and_eq_true, Bool.and_eq_true, decide_eq_true_eq,
    decide_eq_true_eq] at hstate
  exact ⟨hstate.1.1, hstate.1.2, hstate.2⟩

/-! ## What the entries read so far say of the state -/

/-- The request an entry begins. -/
def Entry.begins? : Entry → Option String
  | .event _ (.begin r _) => some r
  | _ => none

/-- The epoch an entry opens. -/
def Entry.bootEpoch? : Entry → Option ℕ
  | .event h .boot => some h.epoch
  | _ => none

/-- Some owner booted, and nothing concerns the request. -/
structure Before (xs : List Entry) (r : String) : Prop where
  booted : ∃ h, .event h .boot ∈ xs
  fresh : ∀ x ∈ xs, x.requestId? ≠ some r

/-- How the entries end while a request is active: with its own events, in order. -/
def EndsWith (xs : List Entry) (r : String) (s : LedgerState) : Prop :=
  match s.phase with
  | none => True
  | some .begin => ∃ pre h c, xs = pre ++ [.event h (.begin r c)] ∧ Before pre r
  | some .policy => ∃ pre h c h' p,
      xs = pre ++ [.event h (.begin r c), .event h' (.policy r p)] ∧ Before pre r ∧
        s.initialDecision = some p.initialDecision ∧ s.bindingIssued = p.bindingIssued
  | some .intent => ∃ pre h c h' p h'' i,
      xs = pre ++ [.event h (.begin r c), .event h' (.policy r p), .event h'' (.intent r i)] ∧
        Before pre r ∧ p.initialDecision = .permit ∧ p.bindingIssued = true

/-- What the loop's state says of the entries read. -/
structure Explains (xs : List Entry) (s : LedgerState) : Prop where
  epochs : xs.filterMap Entry.bootEpoch? = List.range' 1 s.epoch
  begins : (xs.filterMap Entry.begins?).Nodup
  seen : ∀ x ∈ xs, ∀ r, x.requestId? = some r → r ∈ s.seen
  active : ∀ r, s.active = some r → r ∈ s.seen
  nonempty : xs = [] → s.active = none
  owner : s.ownerActive = true → ∃ h, .event h .boot ∈ xs
  tail : s.held = false → ∀ r, s.active = some r → EndsWith xs r s

lemma Explains.before {xs : List Entry} {s : LedgerState} (h : Explains xs s) {r : String}
    (howner : s.ownerActive = true) (hseen : r ∉ s.seen) : Before xs r :=
  ⟨h.owner howner, fun x hx heq => hseen (h.seen x hx r heq)⟩

lemma explains_nil : Explains [] {} :=
  ⟨rfl, List.nodup_nil, by simp, by simp, fun _ => rfl, by simp, by simp⟩

lemma filterMap_concat_none {α β : Type} {f : α → Option β} {xs : List α} {x : α}
    (h : f x = none) : (xs ++ [x]).filterMap f = xs.filterMap f := by
  rw [List.filterMap_append, List.filterMap_cons_none h, List.filterMap_nil, List.append_nil]

lemma forall_mem_concat {α : Type} {P : α → Prop} {xs : List α} {x : α} (hxs : ∀ y ∈ xs, P y)
    (hx : P x) : ∀ y ∈ xs ++ [x], P y := by
  intro y hy
  rcases List.mem_append.mp hy with hy | hy
  · exact hxs y hy
  · exact List.mem_singleton.mp hy ▸ hx

/-- Each transition keeps the account of the entries. -/
lemma explains_step {d : Domain} {xs : List Entry} {s t : Replay} {x : Entry}
    (h : Explains xs s.ledger) (hfirst : x = .provision → xs = []) (hm : s.Moves d x t) :
    Explains (xs ++ [x]) t.ledger := by
  have howner (hactive : s.ledger.ownerActive = true) : ∃ h, .event h .boot ∈ xs ++ [x] := by
    obtain ⟨b, hb⟩ := h.owner hactive
    exact ⟨b, List.mem_append_left _ hb⟩
  cases hm with
  | provision =>
      refine ⟨?_, ?_, forall_mem_concat h.seen (by simp [Entry.requestId?]), h.active, by simp, howner, ?_⟩
      · rw [filterMap_concat_none rfl]
        exact h.epochs
      · rw [filterMap_concat_none rfl]
        exact h.begins
      · intro hheld r hr
        exact absurd ((h.nonempty (hfirst rfl)).symm.trans hr) (by simp)
  | boot hheld hinactive hactive hepoch =>
      refine ⟨?_, ?_, forall_mem_concat h.seen (by simp [Entry.requestId?, Action.requestId?]),
        h.active, by simp, fun _ => ⟨_, List.mem_append_right _ (List.mem_singleton.mpr rfl)⟩, ?_⟩
      · rw [List.filterMap_append, h.epochs]
        simp only [hepoch, List.range'_concat, List.filterMap_cons, Entry.bootEpoch?,
          List.filterMap_nil]
        rw [Nat.one_mul, Nat.add_comm]
      · rw [filterMap_concat_none rfl]
        exact h.begins
      · intro _ r hr
        exact absurd (hactive.symm.trans hr) (by simp)
  | close howns hheld hactive =>
      refine ⟨?_, ?_, forall_mem_concat h.seen (by simp [Entry.requestId?, Action.requestId?]),
        h.active, by simp, by simp, ?_⟩
      · rw [filterMap_concat_none rfl]
        exact h.epochs
      · rw [filterMap_concat_none rfl]
        exact h.begins
      · intro _ r hr
        exact absurd (hactive.symm.trans hr) (by simp)
  | @begin hd r c howns hheld hactive hseen _ =>
      refine ⟨?_, ?_, ?_, ?_, by simp, howner, ?_⟩
      · rw [filterMap_concat_none rfl]
        exact h.epochs
      · rw [List.filterMap_append]
        refine List.nodup_append.mpr ⟨h.begins, List.nodup_singleton r, fun q hq q' hq' => ?_⟩
        obtain ⟨y, hy, hbegin⟩ := List.mem_filterMap.mp hq
        rw [List.mem_singleton.mp hq']
        rintro rfl
        refine hseen (h.seen y hy q ?_)
        cases y with
        | provision => cases hbegin
        | event hd' a => cases a <;> simp_all [Entry.begins?, Entry.requestId?, Action.requestId?]
      · refine forall_mem_concat (fun y hy q hq => Finset.mem_insert_of_mem (h.seen y hy q hq)) ?_
        intro q hq
        obtain rfl := Option.some.inj hq
        exact Finset.mem_insert_self ..
      · intro q hq
        obtain rfl := Option.some.inj hq
        exact Finset.mem_insert_self ..
      · intro _ q hq
        obtain rfl := Option.some.inj hq
        exact ⟨xs, hd, c, rfl, h.before howns.active hseen⟩
  | @policy hd r e howns hheld hactive hphase =>
      refine ⟨?_, ?_, forall_mem_concat h.seen ?_, h.active, by simp, howner, ?_⟩
      · rw [filterMap_concat_none rfl]
        exact h.epochs
      · rw [filterMap_concat_none rfl]
        exact h.begins
      · intro q hq
        obtain rfl := Option.some.inj hq
        exact h.active _ hactive
      · intro _ q hq
        obtain rfl : r = q := Option.some.inj (hactive.symm.trans hq)
        have htail := h.tail hheld r hactive
        simp only [EndsWith, hphase] at htail
        obtain ⟨pre, hd', c, rfl, hbefore⟩ := htail
        exact ⟨pre, hd', c, hd, e, by simp, hbefore, rfl, rfl⟩
  | @intent hd r e howns hheld hactive hphase hpermit hissued =>
      refine ⟨?_, ?_, forall_mem_concat h.seen ?_, h.active, by simp, howner, ?_⟩
      · rw [filterMap_concat_none rfl]
        exact h.epochs
      · rw [filterMap_concat_none rfl]
        exact h.begins
      · intro q hq
        obtain rfl := Option.some.inj hq
        exact h.active _ hactive
      · intro _ q hq
        obtain rfl : r = q := Option.some.inj (hactive.symm.trans hq)
        have htail := h.tail hheld r hactive
        simp only [EndsWith, hphase] at htail
        obtain ⟨pre, hd', c, hd'', p, rfl, hbefore, hdecision, hbinding⟩ := htail
        rw [hpermit] at hdecision
        rw [hissued] at hbinding
        exact ⟨pre, hd', c, hd'', p, hd, e, by simp, hbefore, (Option.some.inj hdecision).symm,
          hbinding.symm⟩
  | @finish hd r e ledger howns hheld hactive hfinish =>
      obtain ⟨-, -, rfl⟩ := finish_eq_some hfinish
      refine ⟨?_, ?_, forall_mem_concat h.seen ?_, by simp, by simp, howner, by simp⟩
      · rw [filterMap_concat_none rfl]
        exact h.epochs
      · rw [filterMap_concat_none rfl]
        exact h.begins
      · intro q hq
        obtain rfl := Option.some.inj hq
        exact h.active _ hactive
  | @hold hd r howns hactive =>
      refine ⟨?_, ?_, forall_mem_concat h.seen ?_, h.active, by simp, howner, by simp⟩
      · rw [filterMap_concat_none rfl]
        exact h.epochs
      · rw [filterMap_concat_none rfl]
        exact h.begins
      · intro q hq
        exact h.active q (hactive ▸ hq)

/-! ## From rows to entries -/

lemma row_first {l : LedgerIdentity} {row : Row} (h : row.entry l = some .provision) :
    row.sequence = 1 := by
  simp only [Row.entry, Option.bind_eq_bind, Option.bind_eq_some_iff, require_eq_some,
    Option.pure_def, Option.some.injEq] at h
  obtain ⟨-, -, v, -, -, -, y, hy, -, -, rfl⟩ := h
  by_contra hne
  rw [readEntry, decide_eq_false hne] at hy
  simp only [Bool.false_eq_true, if_false, Option.bind_eq_bind, Option.bind_eq_some_iff,
    Option.pure_def, Option.some.injEq, reduceCtorEq, and_false, exists_false] at hy

lemma mapM_concat {α β : Type} {f : α → Option β} {xs : List α} {x : α} {ys : List β} {y : β}
    (hxs : xs.mapM f = some ys) (hx : f x = some y) :
    (xs ++ [x]).mapM f = some (ys ++ [y]) := by
  simp [List.mapM_append, hxs, hx]

/-- The rows read so far hold entries that account for the state. -/
def Read (l : LedgerIdentity) (rows : List Row) (s : Replay) : Prop :=
  ∃ entries, rows.mapM (Row.entry l) = some entries ∧ s.ledger.sequence = rows.length ∧
    Explains entries s.ledger

lemma read_of_accept {l : LedgerIdentity} {rows : List Row} {s : Replay}
    (h : accept (replayRow l) {} rows = some s) : Read l rows s := by
  refine accept_history ⟨[], rfl, rfl, explains_nil⟩ ?_ h
  rintro rows s row t ⟨entries, hentries, hlength, hexplains⟩ hrow
  obtain ⟨hseq, -, -, x, u, hx, hmoves, rfl⟩ := replayRow_eq_some hrow
  refine ⟨entries ++ [x], mapM_concat hentries hx, by simp [hlength], ?_⟩
  have hfirst : x = .provision → entries = [] := by
    rintro rfl
    have hone := row_first hx
    have : rows = [] := List.length_eq_zero_iff.mp (by omega)
    subst this
    exact (Option.some.inj hentries).symm
  obtain ⟨h₁, h₂, h₃, h₄, h₅, h₆, h₇⟩ := explains_step hexplains hfirst hmoves
  exact ⟨h₁, h₂, h₃, h₄, h₅, h₆, h₇⟩

lemma mapM_split {α β : Type} {f : α → Option β} {as : List α} {xs ys : List β} {y : β}
    (h : as.mapM f = some (xs ++ y :: ys)) :
    ∃ pre a post, as = pre ++ a :: post ∧ pre.mapM f = some xs ∧ f a = some y ∧
      post.mapM f = some ys := by
  induction xs generalizing as with
  | nil =>
      cases as with
      | nil => simp at h
      | cons a as =>
          simp only [List.mapM_cons, Option.bind_eq_bind, Option.bind_eq_some_iff, Option.pure_def,
            Option.some.injEq, List.nil_append, List.cons.injEq] at h
          obtain ⟨b, hb, bs, hbs, rfl, rfl⟩ := h
          exact ⟨[], a, as, rfl, rfl, hb, hbs⟩
  | cons x xs ih =>
      cases as with
      | nil => simp at h
      | cons a as =>
          simp only [List.mapM_cons, Option.bind_eq_bind, Option.bind_eq_some_iff, Option.pure_def,
            Option.some.injEq, List.cons_append, List.cons.injEq] at h
          obtain ⟨b, hb, bs, hbs, rfl, rfl⟩ := h
          obtain ⟨pre, c, post, rfl, hpre, hc, hpost⟩ := ih hbs
          exact ⟨a :: pre, c, post, rfl, by simp [hb, hpre], hc, hpost⟩

lemma mem_of_mapM {α β : Type} {f : α → Option β} {as : List α} {ys : List β} {a : α} {y : β}
    (h : as.mapM f = some ys) (ha : a ∈ as) (hy : f a = some y) : y ∈ ys := by
  induction as generalizing ys with
  | nil => exact absurd ha List.not_mem_nil
  | cons b as ih =>
      simp only [List.mapM_cons, Option.bind_eq_bind, Option.bind_eq_some_iff, Option.pure_def,
        Option.some.injEq] at h
      obtain ⟨z, hz, zs, hzs, rfl⟩ := h
      rcases List.mem_cons.mp ha with rfl | ha
      · rw [hz] at hy
        exact Option.some.inj hy ▸ List.mem_cons_self ..
      · exact List.mem_cons_of_mem _ (ih hzs ha)

lemma replay_eq_some {l : LedgerIdentity} {rows : List Row} {state : LedgerState} :
    replay l rows = some state ↔
      (0 < rows.length ∧ rows.length ≤ maxEvents ∧ l.valid = true) ∧
        ∃ s, accept (replayRow l) {} rows = some s ∧ s.ledger = state := by
  simp only [replay, replayAll, Option.map_eq_some_iff, Option.bind_eq_bind,
    Option.bind_eq_some_iff, require_eq_some, Bool.and_eq_true, decide_eq_true_eq, and_assoc]
  constructor
  · rintro ⟨s, ⟨-, h₁, h₂, h₃, hs⟩, rfl⟩
    exact ⟨h₁, h₂, h₃, s, hs, rfl⟩
  · rintro ⟨h₁, h₂, h₃, s, hs, rfl⟩
    exact ⟨s, ⟨(), h₁, h₂, h₃, hs⟩, rfl⟩

/-! ## Along a history -/

lemma replayRow_sequence {l : LedgerIdentity} {s t : Replay} {row : Row}
    (h : replayRow l s row = some t) : t.ledger.sequence = s.ledger.sequence + 1 := by
  obtain ⟨-, -, -, x, u, -, -, rfl⟩ := replayRow_eq_some h
  rfl

/-- A hold is for good, and from then on every event is a `hold`. -/
lemma replayRow_held {l : LedgerIdentity} {s t : Replay} {row : Row}
    (h : replayRow l s row = some t) (hheld : s.ledger.held = true)
    (hseq : 0 < s.ledger.sequence) : row.kind = "hold" ∧ t.ledger.held = true := by
  obtain ⟨hrow, -, -, x, u, hx, hmoves, rfl⟩ := replayRow_eq_some h
  have hkind := row_kind hx
  cases hmoves with
  | provision =>
      have := row_first hx
      omega
  | boot hfalse => simp [hheld] at hfalse
  | close _ hfalse => simp [hheld] at hfalse
  | begin _ hfalse => simp [hheld] at hfalse
  | policy _ hfalse => simp [hheld] at hfalse
  | intent _ hfalse => simp [hheld] at hfalse
  | finish _ hfalse => simp [hheld] at hfalse
  | hold => exact ⟨hkind, rfl⟩

lemma accept_held {l : LedgerIdentity} {rows : List Row} {s t : Replay}
    (h : accept (replayRow l) s rows = some t) (hheld : s.ledger.held = true)
    (hseq : 0 < s.ledger.sequence) : ∀ row ∈ rows, row.kind = "hold" := by
  intro row hrow
  obtain ⟨pre, post, rfl⟩ := List.append_of_mem hrow
  obtain ⟨u, v, hu, hv, -⟩ := accept_split h
  have hkept : u.ledger.held = true ∧ 0 < u.ledger.sequence := by
    refine accept_invariant (I := fun s => s.ledger.held = true ∧ 0 < s.ledger.sequence)
      ⟨hheld, hseq⟩ (fun s row t _ hs ht => ⟨(replayRow_held ht hs.1 hs.2).2, ?_⟩) hu
    rw [replayRow_sequence ht]
    omega
  exact (replayRow_held hv hkept.1 hkept.2).1

lemma replayRow_denials {l : LedgerIdentity} {s t : Replay} {row : Row}
    (h : replayRow l s row = some t) : s.ledger.denials ≤ t.ledger.denials := by
  obtain ⟨-, -, -, x, u, -, hmoves, rfl⟩ := replayRow_eq_some h
  cases hmoves with
  | finish _ _ _ hfinish =>
      obtain ⟨hle, -, rfl⟩ := finish_eq_some hfinish
      exact hle
  | _ => exact le_rfl

/-- An owner stays active until a `close`. -/
lemma replayRow_ownerActive {l : LedgerIdentity} {s t : Replay} {row : Row}
    (h : replayRow l s row = some t) (hactive : s.ledger.ownerActive = true)
    (hclose : ∀ hd, row.entry l ≠ some (.event hd .close)) : t.ledger.ownerActive = true := by
  obtain ⟨-, -, -, x, u, hx, hmoves, rfl⟩ := replayRow_eq_some h
  cases hmoves with
  | close => exact absurd hx (hclose _)
  | boot => rfl
  | finish _ _ _ hfinish =>
      obtain ⟨-, -, rfl⟩ := finish_eq_some hfinish
      exact hactive
  | _ => exact hactive

/-! ## The safety of an accepted history -/

/-- **Ledger history safety.**  In the entries of a history `replay` accepts:
* a `finish` of an executed call comes right after the `begin`, the `policy` (a permission with
  its binding) and the `intent` of its request, no earlier entry concerns that request, and its
  owner had booted;
* no request begins twice;
* boots open the epochs 1, 2, 3, …, and a `close` comes between any two;
* after a prefix that is held, every event is a `hold`;
* denials never decrease from one prefix to a longer one;
* every nonempty prefix is accepted. -/
theorem ledgerHistory_safe (l : LedgerIdentity) (rows : List Row) (state : LedgerState)
    (h : replay l rows = some state) :
    ∃ entries, rows.mapM (Row.entry l) = some entries ∧
      (∀ xs hd r e ys, entries = xs ++ .event hd (.finish r e) :: ys → e.toolExecuted = true →
        ∃ pre hb c hp p hi i,
          xs = pre ++ [.event hb (.begin r c), .event hp (.policy r p), .event hi (.intent r i)] ∧
          p.initialDecision = .permit ∧ p.bindingIssued = true ∧
          (∀ x ∈ pre, x.requestId? ≠ some r) ∧ ∃ h₀, .event h₀ .boot ∈ pre) ∧
      (entries.filterMap Entry.begins?).Nodup ∧
      ((∃ n, entries.filterMap Entry.bootEpoch? = List.range' 1 n) ∧
        ∀ xs h₁ ys h₂ zs, entries = xs ++ .event h₁ .boot :: ys ++ .event h₂ .boot :: zs →
          ∃ h₀, .event h₀ .close ∈ ys) ∧
      (∀ pre post s, rows = pre ++ post → replay l pre = some s → s.held = true →
        ∀ row ∈ post, row.kind = "hold") ∧
      (∀ pre mid post s t, rows = pre ++ mid ++ post → replay l pre = some s →
        replay l (pre ++ mid) = some t → s.denials ≤ t.denials) ∧
      (∀ pre post, rows = pre ++ post → pre ≠ [] → ∃ s, replay l pre = some s) := by
  obtain ⟨⟨hpos, hmax, hvalid⟩, final, haccept, -⟩ := replay_eq_some.mp h
  obtain ⟨entries, hentries, -, hexplains⟩ := read_of_accept haccept
  refine ⟨entries, hentries, ?_, hexplains.begins, ⟨⟨_, hexplains.epochs⟩, ?_⟩, ?_, ?_, ?_⟩
  · rintro xs hd r e ys rfl hexecuted
    obtain ⟨pre, row, post, rfl, hpre, hrow, -⟩ := mapM_split hentries
    obtain ⟨s, t, hs, ht, -⟩ := accept_split haccept
    obtain ⟨xs', hxs', -, hbefore⟩ := read_of_accept hs
    obtain rfl : xs' = xs := Option.some.inj (hxs'.symm.trans hpre)
    obtain ⟨-, -, -, x, u, hx, hmoves, -⟩ := replayRow_eq_some ht
    obtain rfl := Option.some.inj (hrow.symm.trans hx)
    cases hmoves with
    | finish howns hheld hactive hfinish =>
        obtain ⟨-, hphase, -⟩ := finish_eq_some hfinish
        have htail := hbefore.tail hheld r hactive
        rw [EndsWith, (hphase hexecuted).1] at htail
        obtain ⟨pre, hb, c, hp, p, hi, i, hxs, ⟨hbooted, hfresh⟩, hpermit, hissued⟩ := htail
        exact ⟨pre, hb, c, hp, p, hi, i, hxs, hpermit, hissued, hfresh, hbooted⟩
  · rintro xs h₁ ys h₂ zs rfl
    rw [List.append_assoc, List.cons_append] at hentries
    obtain ⟨pre, row, rest, rfl, -, hrow, hrest⟩ := mapM_split hentries
    obtain ⟨mid, row', post, rfl, hmid, hrow', -⟩ := mapM_split hrest
    obtain ⟨s, t, -, ht, haccept⟩ := accept_split haccept
    obtain ⟨u, v, hu, hv, -⟩ := accept_split haccept
    by_contra hnone
    have hbooted : t.ledger.ownerActive = true := by
      obtain ⟨-, -, -, x, u, hx, hmoves, rfl⟩ := replayRow_eq_some ht
      obtain rfl := Option.some.inj (hrow.symm.trans hx)
      cases hmoves
      rfl
    have hstill : u.ledger.ownerActive = true := by
      refine accept_invariant (I := fun s => s.ledger.ownerActive = true) hbooted ?_ hu
      intro s row'' t hmem hactive hstep
      exact replayRow_ownerActive hstep hactive fun hd hclose =>
        hnone ⟨hd, mem_of_mapM hmid hmem hclose⟩
    obtain ⟨-, -, -, x, w, hx, hmoves, -⟩ := replayRow_eq_some hv
    obtain rfl := Option.some.inj (hrow'.symm.trans hx)
    cases hmoves with
    | boot _ hinactive => simp [hstill] at hinactive
  · rintro pre post s rfl hs hheld
    obtain ⟨⟨hpre, -, -⟩, t, ht, rfl⟩ := replay_eq_some.mp hs
    obtain ⟨t', ht', hpost⟩ := accept_append_eq_some.mp haccept
    obtain rfl : t = t' := Option.some.inj (ht.symm.trans ht')
    obtain ⟨-, -, hlength, -⟩ := read_of_accept ht
    exact accept_held hpost hheld (by omega)
  · rintro pre mid post s t rfl hs ht
    obtain ⟨-, u, hu, rfl⟩ := replay_eq_some.mp hs
    obtain ⟨-, v, hv, rfl⟩ := replay_eq_some.mp ht
    obtain ⟨u', hu', hmid⟩ := accept_append_eq_some.mp hv
    obtain rfl : u = u' := Option.some.inj (hu.symm.trans hu')
    exact accept_relation (R := fun s t => s.ledger.denials ≤ t.ledger.denials)
      (fun _ => le_rfl) (fun _ _ _ => le_trans) (fun _ _ _ => replayRow_denials) hmid
  · rintro pre post rfl hne
    obtain ⟨t, ht, -⟩ := accept_append_eq_some.mp haccept
    rw [List.length_append] at hmax
    exact ⟨t.ledger, replay_eq_some.mpr ⟨⟨List.length_pos_iff.mpr hne, by omega, hvalid⟩, t, ht,
      rfl⟩⟩

/-! ### A synthetic ledger -/

/-- A synthetic ledger identity. -/
def sampleIdentity : LedgerIdentity where
  domainKey := Domain.key ⟨"issuer", "audience", "caller", "service"⟩
  domain := ⟨"issuer", "audience", "caller", "service"⟩
  revision := String.ofList (List.replicate 40 'a')
  sourceSha := String.ofList (List.replicate 64 'b')

/-- An event of a synthetic owner. -/
def sampleEvent (kind : EventKind) (fields : List (String × Json)) : Json :=
  (Json.dict ([("kind", .str kind.text), ("domain_key", .str sampleIdentity.domainKey),
    ("epoch", .int 1), ("owner_id", .str "owner"), ("instance", .str "instance"),
    ("source_revision", .str sampleIdentity.revision),
    ("source_sha256", .str sampleIdentity.sourceSha), ("time", .int 100)] ++ fields)).normalize

def sampleContext : Json :=
  .dict [("principal", .str "caller"), ("issuer", .str "issuer"), ("audience", .str "audience"),
    ("session", .str "session"), ("request", .str "call"), ("expires_at", .int 200)]

def sampleBinding : Json :=
  .dict ([("request_id", .str "request"), ("tool", .str "get_federal_award"),
    ("operation_scope", .str operationScope), ("policy_decision", .str "PERMIT")] ++
    ["arguments_sha256", "schema_sha256", "policy_sha256", "policy_facts_sha256",
      "policy_context_sha256", "binding_sha256"].map fun k => (k, .str sampleIdentity.sourceSha))

/-- A ledger up to the intent of a permitted call. -/
def sampleEvents : List Json :=
  [provisionJson sampleIdentity,
    sampleEvent .boot [],
    sampleEvent .begin [("request_id", .str "request"), ("context", sampleContext)],
    sampleEvent .policy [("request_id", .str "request"), ("initial_decision", .str "PERMIT"),
      ("reasons", .list [.str "BOUNDED_PUBLIC_RESEARCH"]), ("binding_issued", .bool true),
      ("binding_issuance_error", .null)],
    sampleEvent .intent [("request_id", .str "request"), ("context", sampleContext),
      ("authority", .dict [("authority_source", .str "DETERMINISTIC_POLICY_GATE"),
        ("decision", .str "PERMIT"), ("reasons", .list [.str "BOUNDED_PUBLIC_RESEARCH"]),
        ("policy_version", .str policyVersion), ("binding", sampleBinding)]),
      ("containment_denials", .int 0), ("dispatch_state", .str "NOT_DISPATCHED")]]

/-- The end of that call, with a confirmed response. -/
def sampleFinish : Json :=
  sampleEvent .finish [("request_id", .str "request"), ("denials", .int 0), ("hold", .bool false),
    ("final_decision", .str "PERMIT"), ("phase", .str "post_dispatch"),
    ("tool_executed", .bool true), ("dispatch_state", .str "REQUEST_CONFIRMED"),
    ("response_state", .str "RESPONSE_RECEIVED"), ("next_action", .str "NONE"),
    ("pre_dispatch_verification", .str "PASS"), ("execution_boundary_error", .null),
    ("binding_consumption", .str "VERIFIED"), ("attempt_metadata_available", .bool true),
    ("attempts", .list [.dict [("attempt", .int 1), ("max_attempts", .int 1),
      ("dispatch_state", .str "REQUEST_CONFIRMED"), ("response_state", .str "RESPONSE_RECEIVED"),
      ("status_code", .int 200), ("response_received", .bool true),
      ("retry_decision", .str "NONE")]]),
    ("policy_reasons", .list [.str "BOUNDED_PUBLIC_RESEARCH"]), ("error_codes", .list [])]

lemma normalize_sampleEvents : ∀ e ∈ sampleEvents ++ [sampleFinish], e.normalize = e := by
  simp [sampleEvents, sampleFinish, sampleEvent, normalize_provisionJson, Json.normalize_normalize]

lemma recordable_sampleEvents : (sampleEvents ++ [sampleFinish]).all Json.recordable = true := by
  have hbounds : (sampleEvents ++ [sampleFinish]).all (fun e =>
      e.withinDigits && e.sizeBound ≤ maxPayloadBytes) = true := by decide +kernel
  rw [List.all_eq_true] at hbounds ⊢
  intro e he
  have hbound := hbounds e he
  rw [Bool.and_eq_true, decide_eq_true_eq] at hbound
  exact recordable_of_sizeBound (normalize_sampleEvents e he) hbound.1 hbound.2

/-- An identity whose key is that of its domain is valid if its texts are. -/
lemma valid_of_key {l : LedgerIdentity} (hkey : l.domainKey = l.domain.key)
    (htexts : (isHex l.revision 40 && isHex l.sourceSha 64 &&
      [l.domain.issuer, l.domain.audience, l.domain.principal, l.domain.serviceIdentity].all
        (isText · 256) && l.domain.principal ≠ l.domain.serviceIdentity) = true) :
    l.valid = true := by
  obtain ⟨hlength, hall⟩ := @sha256Hex_digits (canonical true l.domain.toJson)
    (· ∈ "0123456789abcdef".toList) (by decide)
  have hhex : isHex l.domain.key 64 = true := by
    rw [isHex, Domain.key, hall, Bool.and_true]
    exact decide_eq_true hlength
  simp only [Bool.and_eq_true] at htexts
  obtain ⟨⟨⟨hrevision, hsource⟩, hbounds⟩, hservice⟩ := htexts
  simp only [LedgerIdentity.valid, Bool.and_eq_true]
  exact ⟨⟨⟨⟨⟨hkey ▸ hhex, hrevision⟩, hsource⟩, hbounds⟩, hservice⟩, decide_eq_true hkey⟩

lemma valid_sampleIdentity : sampleIdentity.valid = true :=
  valid_of_key rfl (by decide +kernel)

/-- The ledger up to the intent is accepted, and so is the end of its call. -/
lemma accept_sampleEvents : ∃ r, accept (projectEvent sampleIdentity) {} sampleEvents = some r ∧
    r.instanceId = some "instance" ∧ r.ledger.ownerId = some "owner" ∧
    r.ledger.ownerActive = true ∧ r.ledger.held = false ∧ r.ledger.phase = some .intent ∧
    r.ledger.active = some "request" ∧ r.ledger.initialDecision = some .permit ∧
    r.ledger.bindingIssued = true ∧ (projectEvent sampleIdentity r sampleFinish).isSome = true := by
  have hfacts : (accept (projectEvent sampleIdentity) {} sampleEvents).any (fun r =>
      r.instanceId = some "instance" ∧ r.ledger.ownerId = some "owner" ∧
      r.ledger.ownerActive = true ∧ r.ledger.held = false ∧ r.ledger.phase = some .intent ∧
      r.ledger.active = some "request" ∧ r.ledger.initialDecision = some .permit ∧
      r.ledger.bindingIssued = true ∧
        (projectEvent sampleIdentity r sampleFinish).isSome = true) = true := by
    decide +kernel
  obtain ⟨r, hr, hfacts⟩ := (Option.any_eq_true ..).mp hfacts
  exact ⟨r, hr, of_decide_eq_true hfacts⟩

/-- A synthetic ledger with a completed call is accepted, and its call began once. -/
theorem ledgerHistory_safe_sample : ∃ state,
    replay sampleIdentity (chainRows 0 "" (sampleEvents ++ [sampleFinish])) = some state ∧
      ∃ entries, (chainRows 0 "" (sampleEvents ++ [sampleFinish])).mapM
        (Row.entry sampleIdentity) = some entries ∧ (entries.filterMap Entry.begins?).Nodup := by
  obtain ⟨r, hr, -, -, -, -, -, -, -, -, hfinish⟩ := accept_sampleEvents
  obtain ⟨s, hfinish⟩ := Option.isSome_iff_exists.mp hfinish
  have hs := accept_concat_eq_some.mpr ⟨r, hr, hfinish⟩
  have haccept := accept_chainRows (l := sampleIdentity) (s := {}) recordable_sampleEvents
  rw [hs] at haccept
  have hreplay := replay_eq_some.mpr ⟨⟨by rw [length_chainRows]; decide,
    by rw [length_chainRows]; decide, valid_sampleIdentity⟩, s, haccept, rfl⟩
  obtain ⟨entries, hentries, -, hbegins, -⟩ := ledgerHistory_safe _ _ _ hreplay
  exact ⟨_, hreplay, entries, hentries, hbegins⟩

end CivicGate
