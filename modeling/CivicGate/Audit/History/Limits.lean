import CivicGate.Audit.History.Projection

/-!
# The size of an accepted history

What an accepted history leaves for the next event is small: the texts an event repeats are as
short as the validator requires, an epoch is no larger than the number of rows, and the denials
have no more digits than Python reads (`limits_of_accept`).  So an event of the owner fits in a
row whatever the history was.
-/

namespace CivicGate

/-! ## Integers that were read -/

lemma withinDigits_of_lookup {kvs : List (String × Json)} {key : String} {v : Json}
    (h : Json.withinDigitsEntries kvs = true) (hv : kvs.lookup key = some v) :
    v.withinDigits = true := by
  induction kvs with
  | nil => cases hv
  | cons e rest ih =>
      obtain ⟨l, w⟩ := e
      rw [Json.withinDigitsEntries, Bool.and_eq_true] at h
      rw [List.lookup_cons] at hv
      split at hv
      · exact Option.some.inj hv ▸ h.1
      · exact ih h.2 hv

lemma withinDigits_of_get? {v w : Json} {key : String} (h : v.withinDigits = true)
    (hw : v.get? key = some w) : w.withinDigits = true := by
  cases v with
  | dict kvs =>
      rw [Json.withinDigits] at h
      exact withinDigits_of_lookup h hw
  | _ => cases hw

lemma withinDigits_of_loads {text : String} {v : Json} (h : loads text = some v) :
    v.withinDigits = true := by
  unfold loads at h
  split at h
  · split at h
    · rename_i w _ hw
      exact Option.some.inj h ▸ w.withinDigits_normalize hw
    · cases h
  · cases h

lemma lt_of_getNat? {v : Json} {key : String} {least n : ℕ} (h : v.withinDigits = true)
    (hn : v.getNat? key least = some n) : n < 10 ^ maxDigits := by
  unfold Json.getNat? at hn
  split at hn
  · rename_i m hm
    have hdigits := withinDigits_of_get? h hm
    rw [Json.withinDigits, decide_eq_true_eq] at hdigits
    split at hn
    · rw [← Option.some.inj hn]
      omega
    · cases hn
  · cases hn

/-! ## Entries -/

/-- What a header says is short. -/
lemma isText_of_entry {l : LedgerIdentity} {row : Row} {hd : Header} {a : Action}
    (h : row.entry l = some (.event hd a)) :
    isText hd.ownerId 128 = true ∧ isText hd.instanceId 256 = true := by
  obtain ⟨v, -, hread⟩ := entry_eq_some h
  obtain ⟨-, hheader, -⟩ := readEntry_event hread
  simp only [Header.read, Option.bind_eq_bind, Option.bind_eq_some_iff, require_eq_some,
    Option.pure_def, Option.some.injEq, Bool.and_eq_true] at hheader
  obtain ⟨-, -, -, -, -, -, _, -, _, -, _, -, _, -, -, ⟨⟨howner, hinstance⟩, -⟩, rfl⟩ := hheader
  exact ⟨howner, hinstance⟩

lemma denials_lt_of_entry {l : LedgerIdentity} {row : Row} {hd : Header} {r : String}
    {e : FinishEvidence} (h : row.entry l = some (.event hd (.finish r e))) :
    e.denials < 10 ^ maxDigits := by
  obtain ⟨v, hv, hread⟩ := entry_eq_some h
  obtain ⟨-, -, haction⟩ := readEntry_event hread
  simp only [Action.kind, Action.read, Option.bind_eq_bind, Option.bind_eq_some_iff,
    Option.pure_def, Option.some.injEq, Action.finish.injEq] at haction
  obtain ⟨-, -, e', he, -, rfl⟩ := haction
  simp only [FinishEvidence.read, Option.bind_eq_bind, Option.bind_eq_some_iff,
    Option.pure_def, Option.some.injEq] at he
  obtain ⟨_, -, _, -, _, -, _, -, _, -, _, -, _, -, _, -, denials, hdenials, _, -, _, -, _, -, _,
    -, _, -, _, -, rfl⟩ := he
  exact lt_of_getNat? (withinDigits_of_loads hv) hdenials

/-! ## Histories -/

/-- What a state leaves to be repeated in the next event, and the permission an intent needs. -/
structure Limits (s : Replay) : Prop where
  denials : s.ledger.denials < 10 ^ maxDigits
  epoch : s.ledger.epoch ≤ s.ledger.sequence
  booted : s.ledger.ownerActive = true → 1 ≤ s.ledger.epoch
  ownerId : ∀ o, s.ledger.ownerId = some o → isText o 128 = true
  instanceId : ∀ i, s.instanceId = some i → isText i 256 = true
  active : ∀ r, s.ledger.active = some r → isText r 128 = true
  intent : s.ledger.phase = some .intent →
    s.ledger.initialDecision = some .permit ∧ s.ledger.bindingIssued = true

lemma limits_nil : Limits {} := by
  refine ⟨?_, le_rfl, ?_, ?_, ?_, ?_, ?_⟩
  · exact Nat.pow_pos (by decide)
  all_goals intros; simp_all

lemma limits_step {l : LedgerIdentity} {s t : Replay} {row : Row} (hs : Limits s)
    (h : replayRow l s row = some t) : Limits t := by
  obtain ⟨-, -, -, x, u, hx, hmoves, rfl⟩ := replayRow_eq_some h
  have hepoch : s.ledger.epoch ≤ s.ledger.sequence + 1 := hs.epoch.trans (Nat.le_succ _)
  cases hmoves with
  | provision => exact { hs with epoch := hepoch }
  | boot hheld howner hactive hnext =>
      obtain ⟨hownerId, hinstanceId⟩ := isText_of_entry hx
      refine { hs with epoch := ?_, booted := fun _ => ?_, ownerId := ?_, instanceId := ?_ }
      · rw [hnext]
        exact Nat.succ_le_succ hs.epoch
      · rw [hnext]
        exact Nat.succ_pos _
      · rintro o ⟨⟩
        exact hownerId
      · rintro i ⟨⟩
        exact hinstanceId
  | close =>
      exact { hs with
        epoch := hepoch
        booted := fun h => by cases h
        ownerId := fun o h => by cases h }
  | begin howns hheld hactive hseen htext =>
      refine { hs with epoch := hepoch, active := ?_, intent := fun h => by cases h }
      rintro r ⟨⟩
      exact htext
  | policy => exact { hs with epoch := hepoch, intent := fun h => by cases h }
  | intent howns hheld hactive hphase hpermit hissued =>
      exact { hs with epoch := hepoch, intent := fun _ => ⟨hpermit, hissued⟩ }
  | finish howns hheld hactive hfinish =>
      obtain ⟨-, -, rfl⟩ := finish_eq_some hfinish
      exact { hs with
        denials := denials_lt_of_entry hx
        epoch := hepoch
        active := fun r h => by cases h
        intent := fun h => by cases h }
  | hold => exact { hs with epoch := hepoch }

lemma limits_of_accept {l : LedgerIdentity} {rows : List Row} {s : Replay}
    (h : accept (replayRow l) {} rows = some s) : Limits s :=
  accept_invariant limits_nil (fun _ _ _ _ hs ht => limits_step hs ht) h

end CivicGate
