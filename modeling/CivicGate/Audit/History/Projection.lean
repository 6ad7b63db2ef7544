import CivicGate.Audit.History.Safety

/-!
# What a projected state says of the rows

A validated history is a chain of rows, and the owner and the hold of the state it projects to
are those its rows record (`projects_of_accept`).  `replayRow_boot` and `replayRow_owned` are
what one more row requires of the state before it and leaves after it.
-/

namespace CivicGate

/-! ## Rows of a history -/

/-- The epoch an event's payload states. -/
def Row.epoch? (row : Row) : Option ℕ :=
  (loads row.payload).bind fun v => v.getNat? "epoch" 1

/-- The event puts the ledger on hold. -/
def Row.holds (row : Row) : Bool :=
  ((loads row.payload).bind fun v => v.getBool? "hold") = some true

/-- The rows are numbered from 1 and each is linked to the one before it by its digest. -/
def IsChain (rows : List Row) : Prop :=
  ∀ pre row post, rows = pre ++ row :: post →
    row.sequence = (pre.length : ℤ) + 1 ∧
      row.previous = (pre.getLast?.map Row.digest).getD "" ∧
      row.digest = eventDigest row.previous row.payload

/-- An owner booted and did not close. -/
def ownerOpen (rows : List Row) : Bool :=
  rows.foldl (fun isOpen row =>
    if row.kind = "boot" then true else if row.kind = "close" then false else isOpen) false

lemma ownerOpen_concat (rows : List Row) (row : Row) :
    ownerOpen (rows ++ [row]) =
      if row.kind = "boot" then true else if row.kind = "close" then false
      else ownerOpen rows := by
  rw [ownerOpen, List.foldl_append]
  rfl

/-- What a row's entry is read from. -/
lemma entry_eq_some {l : LedgerIdentity} {row : Row} {x : Entry} (h : row.entry l = some x) :
    ∃ v, loads row.payload = some v ∧ readEntry l (row.sequence = 1) v = some x := by
  simp only [Row.entry, Option.bind_eq_bind, Option.bind_eq_some_iff, Option.pure_def,
    Option.some.injEq] at h
  obtain ⟨-, -, v, hv, -, -, y, hy, -, -, rfl⟩ := h
  exact ⟨v, hv, hy⟩

lemma readEntry_event {l : LedgerIdentity} {first : Bool} {v : Json} {hd : Header} {a : Action}
    (h : readEntry l first v = some (.event hd a)) :
    v.hasFields (commonFields ++ a.kind.fields) = true ∧ Header.read l v = some hd ∧
      Action.read a.kind v = some a := by
  unfold readEntry at h
  split at h
  · simp only [Option.bind_eq_bind, Option.bind_eq_some_iff, Option.pure_def, Option.some.injEq,
      reduceCtorEq, and_false, exists_false] at h
  · simp only [Option.bind_eq_bind, Option.bind_eq_some_iff, require_eq_some, Option.pure_def,
      Option.some.injEq, Entry.event.injEq] at h
    obtain ⟨kind, -, -, hfields, header, hheader, b, hb, rfl, rfl⟩ := h
    have hkind := Action.read_kind hb
    subst hkind
    exact ⟨hfields, hheader, hb⟩

lemma epoch?_of_entry {l : LedgerIdentity} {row : Row} {hd : Header} {a : Action}
    (h : row.entry l = some (.event hd a)) : row.epoch? = some hd.epoch := by
  obtain ⟨v, hv, hread⟩ := entry_eq_some h
  obtain ⟨-, hheader, -⟩ := readEntry_event hread
  simp only [Header.read, Option.bind_eq_bind, Option.bind_eq_some_iff, Option.pure_def,
    Option.some.injEq] at hheader
  obtain ⟨-, -, -, -, -, -, epoch, hepoch, owner, -, name, -, time, -, -, -, rfl⟩ := hheader
  rw [Row.epoch?, hv]
  exact hepoch

lemma readEntry_provision {l : LedgerIdentity} {first : Bool} {v : Json}
    (h : readEntry l first v = some .provision) : v = provisionJson l := by
  unfold readEntry at h
  split at h
  · simp only [Option.bind_eq_bind, Option.bind_eq_some_iff, require_eq_some,
      decide_eq_true_eq] at h
    obtain ⟨-, rfl, -⟩ := h
    exact normalize_provisionJson l
  · simp only [Option.bind_eq_bind, Option.bind_eq_some_iff, Option.pure_def,
      Option.some.injEq, reduceCtorEq, and_false, exists_false] at h

lemma epoch?_of_provision {l : LedgerIdentity} {row : Row} (h : row.entry l = some .provision) :
    row.epoch? = none := by
  obtain ⟨v, hv, hread⟩ := entry_eq_some h
  rw [Row.epoch?, hv, readEntry_provision hread]
  rfl

/-- What an entry says of a hold. -/
def Entry.holds : Entry → Bool
  | .event _ (.finish _ e) => e.hold
  | .event _ (.hold _) => true
  | _ => false

lemma holds_of_entry {l : LedgerIdentity} {row : Row} {x : Entry} (h : row.entry l = some x) :
    row.holds = x.holds := by
  obtain ⟨v, hv, hread⟩ := entry_eq_some h
  rw [Row.holds, hv, Option.bind_some]
  cases x with
  | provision =>
      rw [readEntry_provision hread]
      rfl
  | event hd a =>
      obtain ⟨hfields, -, haction⟩ := readEntry_event hread
      have habsent (hkind : "hold" ∉ commonFields ++ a.kind.fields)
          (hnodup : (commonFields ++ a.kind.fields).Nodup) : v.getBool? "hold" = none := by
        rw [Json.getBool?, get?_of_hasFields hfields hnodup hkind]
      cases a with
      | finish r e =>
          simp only [Action.kind, Action.read, Option.bind_eq_bind, Option.bind_eq_some_iff,
            Option.pure_def, Option.some.injEq, Action.finish.injEq] at haction
          obtain ⟨-, -, e', he, -, rfl⟩ := haction
          simp only [FinishEvidence.read, Option.bind_eq_bind, Option.bind_eq_some_iff,
            Option.pure_def, Option.some.injEq] at he
          obtain ⟨_, -, _, -, _, -, _, -, _, -, _, -, _, -, _, -, _, -, hold, hhold, _, -, _, -, _,
            -, _, -, _, -, rfl⟩ := he
          rw [hhold]
          cases hold <;> rfl
      | hold r =>
          simp only [Action.kind, Action.read, Option.bind_eq_bind, Option.bind_eq_some_iff,
            Option.pure_def, Option.some.injEq, readHold, require_eq_some, Bool.and_eq_true,
            decide_eq_true_eq] at haction
          obtain ⟨-, ⟨-, ⟨-, hhold⟩, -⟩, -⟩ := haction
          rw [hhold]
          rfl
      | boot | close | begin | policy | intent =>
          rw [habsent (by simp only [Action.kind]; decide) (by simp only [Action.kind]; decide)]
          rfl

/-! ## Replay of a history -/

/-- Where a state's fields come from. -/
structure Projects (rows : List Row) (s : Replay) : Prop where
  chain : IsChain rows
  sequence : s.ledger.sequence = rows.length
  digest : s.ledger.digest = (rows.getLast?.map Row.digest).getD ""
  owner : s.ledger.ownerActive = ownerOpen rows
  held : s.ledger.held = rows.any Row.holds

lemma isChain_concat {rows : List Row} {row : Row} (h : IsChain rows)
    (hseq : row.sequence = (rows.length : ℤ) + 1)
    (hprevious : row.previous = (rows.getLast?.map Row.digest).getD "")
    (hdigest : row.digest = eventDigest row.previous row.payload) : IsChain (rows ++ [row]) := by
  intro pre row' post heq
  rcases List.append_eq_append_iff.mp heq with ⟨mid, rfl, hmid⟩ | ⟨mid, rfl, hmid⟩
  · cases mid with
    | nil =>
        obtain ⟨rfl, -⟩ := List.cons_eq_cons.mp hmid
        rw [List.append_nil]
        exact ⟨hseq, hprevious, hdigest⟩
    | cons _ mid => simp at hmid
  · cases mid with
    | nil =>
        obtain ⟨rfl, -⟩ := List.cons_eq_cons.mp hmid
        rw [List.append_nil] at hseq hprevious
        exact ⟨hseq, hprevious, hdigest⟩
    | cons x mid =>
        obtain ⟨rfl, -⟩ := List.cons_eq_cons.mp hmid
        exact h pre row' mid rfl

/-- A boot opens the next epoch of a ledger without an owner or a hold. -/
lemma replayRow_boot {l : LedgerIdentity} {s t : Replay} {row : Row}
    (h : replayRow l s row = some t) (hkind : row.kind = "boot") :
    s.ledger.held = false ∧ s.ledger.ownerActive = false ∧
      t.ledger.epoch = s.ledger.epoch + 1 ∧ t.ledger.ownerActive = true ∧
      row.epoch? = some t.ledger.epoch := by
  obtain ⟨-, -, -, x, u, hx, hmoves, rfl⟩ := replayRow_eq_some h
  have hrow := row_kind hx
  rw [hkind] at hrow
  cases hmoves with
  | boot hheld hinactive _ hepoch =>
      refine ⟨hheld, hinactive, hepoch, rfl, ?_⟩
      rw [epoch?_of_entry hx]
  | _ => simp [Entry.kind, Action.kind, EventKind.text] at hrow

/-- Any other event is the active owner's, in its epoch. -/
lemma replayRow_owned {l : LedgerIdentity} {s t : Replay} {row : Row}
    (h : replayRow l s row = some t) (hseq : 0 < s.ledger.sequence) (hkind : row.kind ≠ "boot") :
    s.ledger.ownerActive = true ∧ t.ledger.epoch = s.ledger.epoch ∧
      t.ledger.ownerActive = decide (row.kind ≠ "close") ∧
      row.epoch? = some t.ledger.epoch := by
  obtain ⟨hrow, -, -, x, u, hx, hmoves, rfl⟩ := replayRow_eq_some h
  have hkind' := row_kind hx
  cases hmoves with
  | provision =>
      have := row_first hx
      omega
  | boot => exact absurd hkind' hkind
  | close howns =>
      exact ⟨howns.active, rfl, by simp [hkind', Entry.kind, Action.kind, EventKind.text],
        by rw [epoch?_of_entry hx, howns.epoch]⟩
  | finish howns _ _ hfinish =>
      obtain ⟨-, -, rfl⟩ := finish_eq_some hfinish
      exact ⟨howns.active, rfl,
        by simp [hkind', Entry.kind, Action.kind, EventKind.text, howns.active],
        by rw [epoch?_of_entry hx, howns.epoch]⟩
  | _ howns =>
      exact ⟨howns.active, rfl,
        by simp [hkind', Entry.kind, Action.kind, EventKind.text, howns.active],
        by rw [epoch?_of_entry hx, howns.epoch]⟩

lemma replayRow_holds {l : LedgerIdentity} {s t : Replay} {row : Row}
    (h : replayRow l s row = some t) : t.ledger.held = (s.ledger.held || row.holds) := by
  obtain ⟨-, -, -, x, u, hx, hmoves, rfl⟩ := replayRow_eq_some h
  rw [holds_of_entry hx]
  cases hmoves with
  | finish _ _ _ hfinish =>
      obtain ⟨-, -, rfl⟩ := finish_eq_some hfinish
      rfl
  | hold => simp [Entry.holds]
  | _ => simp [Entry.holds]

lemma projects_of_accept {l : LedgerIdentity} {rows : List Row} {s : Replay}
    (h : accept (replayRow l) {} rows = some s) : Projects rows s := by
  refine accept_history ?_ ?_ h
  · refine ⟨fun pre row post hnil => ?_, rfl, rfl, rfl, rfl⟩
    simp at hnil
  · intro rows s row t hproj hrow
    obtain ⟨hseq, hprevious, hdigest, x, u, hx, hmoves, ht⟩ := replayRow_eq_some hrow
    refine ⟨isChain_concat hproj.chain ?_ ?_ hdigest, ?_, ?_, ?_, ?_⟩
    · rw [hseq, hproj.sequence]
    · rw [hprevious, hproj.digest]
    · rw [replayRow_sequence hrow, hproj.sequence, List.length_append, List.length_singleton]
    · rw [ht, List.getLast?_concat]
      rfl
    · rw [ownerOpen_concat]
      by_cases hboot : row.kind = "boot"
      · rw [if_pos hboot, (replayRow_boot hrow hboot).2.2.2.1]
      rw [if_neg hboot]
      rcases Nat.eq_zero_or_pos s.ledger.sequence with hzero | hpos
      · have hprovision : x = .provision := by
          obtain ⟨v, -, hread⟩ := entry_eq_some hx
          rw [readEntry, if_pos (by simp [hseq, hzero])] at hread
          simp only [Option.bind_eq_bind, Option.bind_eq_some_iff, Option.pure_def,
            Option.some.injEq] at hread
          exact hread.choose_spec.2.symm
        subst hprovision
        have hclose : row.kind ≠ "close" := by
          rw [row_kind hx]
          decide
        cases hmoves
        rw [if_neg hclose, ht, ← hproj.owner]
      · rw [(replayRow_owned hrow hpos hboot).2.2.1, ← hproj.owner,
          (replayRow_owned hrow hpos hboot).1]
        by_cases hclose : row.kind = "close" <;> simp [hclose]
    · rw [replayRow_holds hrow, hproj.held, List.any_append, List.any_cons, List.any_nil,
        Bool.or_false]

end CivicGate
