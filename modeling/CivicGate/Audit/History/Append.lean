import CivicGate.Audit.History.Replay
import CivicGate.Framework.Json.Size

/-!
# Appending to a ledger

An owner writes an event as the row `rowAfter` the history so far (`_append` in
`audit/postgres_journal.py`).  Since the canonical text determines the event, `replay` reads
back what was written: a row is accepted exactly when the event it was made from is
(`replayRow_rowAfter`), and no property of the digest is needed beyond its being a function.
-/

namespace CivicGate

/-! ## Rows -/

/-- The row of an event after a history that ends in this sequence number and digest. -/
def rowAfter (sequence : ℕ) (digest : String) (event : Json) : Row :=
  let payload := canonical true event
  { sequence := sequence + 1
    kind := (event.getStr? "kind").getD ""
    requestId := event.getStr? "request_id"
    payload
    previous := digest
    digest := eventDigest digest payload }

/-- The rows of a list of events. -/
def chainRows (sequence : ℕ) (digest : String) : List Json → List Row
  | [] => []
  | event :: events =>
    let row := rowAfter sequence digest event
    row :: chainRows (sequence + 1) row.digest events

/-- A dictionary in normal form that can be read back and whose text fits in a row. -/
def Json.recordable (event : Json) : Bool :=
  event.normalize = event && event.withinDigits &&
    (utf8 (canonical true event)).length ≤ maxPayloadBytes

lemma recordable_normalize {event : Json} (hdigits : event.withinDigits = true)
    (hsize : event.sizeBound ≤ maxPayloadBytes) : event.normalize.recordable = true := by
  have hbound := utf8_canonical_le event
  simp only [Json.recordable, Json.normalize_normalize, event.withinDigits_normalize hdigits,
    canonical_normalize, decide_true, Bool.true_and, decide_eq_true_eq]
  omega

lemma recordable_of_sizeBound {event : Json} (hnormal : event.normalize = event)
    (hdigits : event.withinDigits = true) (hsize : event.sizeBound ≤ maxPayloadBytes) :
    event.recordable = true :=
  hnormal ▸ recordable_normalize hdigits hsize

/-- One iteration of the loop of `_replay` on the event itself. -/
def projectEvent (l : LedgerIdentity) (s : Replay) (event : Json) : Option Replay := do
  let entry ← readEntry l (s.ledger.sequence = 0) event
  let t ← s.advance l.domain entry
  return { t with
    ledger := { t.ledger with
      sequence := s.ledger.sequence + 1
      digest := eventDigest s.ledger.digest (canonical true event) }
    previousKind := some entry.kind }

/-! ## The columns of a row agree with its payload -/

lemma getEnum?_eq_some {α : Type} {v : Json} {key : String} {all : List α} {text : α → String}
    {a : α} (h : v.getEnum? key all text = some a) : v.getStr? key = some (text a) := by
  unfold Json.getEnum? at h
  split at h
  · rename_i s hs
    have := List.find?_some h
    simp only [decide_eq_true_eq] at this
    simp [Json.getStr?, hs, this]
  · cases h

lemma Action.read_kind {kind : EventKind} {v : Json} {a : Action} (h : Action.read kind v = some a) :
    a.kind = kind := by
  cases kind <;> simp only [Action.read, Option.bind_eq_bind, Option.bind_eq_some_iff,
    Option.pure_def, Option.some.injEq, reduceCtorEq] at h
  case boot | close => rw [← h]; rfl
  case begin => obtain ⟨_, -, _, -, _, -, rfl⟩ := h; rfl
  case intent | finish | policy => obtain ⟨_, -, _, -, rfl⟩ := h; rfl
  case hold => obtain ⟨_, -, rfl⟩ := h; rfl

lemma getStr?_of_getOptStr? {v : Json} {key : String} {r : Option String}
    (h : v.getOptStr? key = some r) : v.getStr? key = r := by
  unfold Json.getOptStr? at h
  unfold Json.getStr?
  split at h <;> simp_all

/-- A dictionary with exactly these fields has no other. -/
lemma get?_of_hasFields {v : Json} {names : List String} {key : String}
    (h : v.hasFields names = true) (hnames : names.Nodup) (hkey : key ∉ names) :
    v.get? key = none := by
  cases v with
  | dict kvs =>
      simp only [Json.hasFields, Bool.and_eq_true, decide_eq_true_eq, List.all_eq_true] at h
      obtain ⟨hlength, hall⟩ := h
      have hperm : names.Perm (kvs.map (·.1)) :=
        (hnames.subperm fun n hn => by simpa using hall n hn).perm_of_length_le
          (by rw [List.length_map, hlength])
      rw [Json.get?, List.lookup_eq_none_iff]
      intro e he
      rw [bne_iff_ne]
      rintro rfl
      exact hkey (hperm.mem_iff.mpr (List.mem_map_of_mem he))
  | _ => cases h

lemma Action.read_requestId {kind : EventKind} {v : Json} {a : Action}
    (hfields : v.hasFields (commonFields ++ kind.fields) = true)
    (h : Action.read kind v = some a) : v.getStr? "request_id" = a.requestId? := by
  have hnone (hkind : kind.fields = []) : v.getStr? "request_id" = none := by
    rw [hkind] at hfields
    rw [Json.getStr?, get?_of_hasFields hfields (by decide) (by decide)]
  cases kind <;> simp only [Action.read, Option.bind_eq_bind, Option.bind_eq_some_iff,
    Option.pure_def, Option.some.injEq, reduceCtorEq] at h
  case boot | close => rw [← h]; exact hnone rfl
  case begin => obtain ⟨r, hr, _, -, _, -, rfl⟩ := h; exact hr
  case intent | finish | policy => obtain ⟨r, hr, _, -, rfl⟩ := h; exact hr
  case hold =>
    obtain ⟨r, hr, rfl⟩ := h
    simp only [readHold, Option.bind_eq_bind, Option.bind_eq_some_iff] at hr
    obtain ⟨-, -, -, -, -, -, hr⟩ := hr
    exact getStr?_of_getOptStr? hr

lemma normalize_provisionJson (l : LedgerIdentity) :
    (provisionJson l).normalize = provisionJson l := by
  have hdomain : l.domain.toJson.normalize = l.domain.toJson := by
    refine Json.normalize_dict ?_ (by simp)
    simp only [List.map_cons, List.map_nil]
    decide
  refine Json.normalize_dict ?_ (by simp [hdomain])
  simp only [List.map_cons, List.map_nil]
  decide

/-- The kind and the request of an entry are those of its payload. -/
lemma readEntry_columns {l : LedgerIdentity} {first : Bool} {v : Json} {x : Entry}
    (h : readEntry l first v = some x) :
    v.getStr? "kind" = some x.kind.text ∧ v.getStr? "request_id" = x.requestId? := by
  unfold readEntry at h
  split at h
  · simp only [Option.bind_eq_bind, Option.bind_eq_some_iff, require_eq_some, Option.pure_def,
      Option.some.injEq, decide_eq_true_eq] at h
    obtain ⟨-, rfl, rfl⟩ := h
    rw [normalize_provisionJson]
    exact ⟨rfl, rfl⟩
  · simp only [Option.bind_eq_bind, Option.bind_eq_some_iff, require_eq_some, Option.pure_def,
      Option.some.injEq] at h
    obtain ⟨kind, hkind, -, hfields, header, -, a, ha, rfl⟩ := h
    rw [getEnum?_eq_some hkind, ← Action.read_kind ha]
    exact ⟨rfl, Action.read_requestId hfields ha⟩

/-! ## What is written is read back -/

/-- The row of an event holds the entry the event is. -/
lemma entry_rowAfter {l : LedgerIdentity} {sequence : ℕ} {digest : String} {event : Json}
    (h : event.recordable = true) :
    (rowAfter sequence digest event).entry l = readEntry l (sequence = 0) event := by
  simp only [Json.recordable, Bool.and_eq_true, decide_eq_true_eq] at h
  obtain ⟨⟨hnormal, hdigits⟩, hsize⟩ := h
  have hloads : loads (canonical true event) = some event := by
    rw [loads_canonical (by rw [hnormal, hdigits]), hnormal]
  have hfirst : readEntry l ((rowAfter sequence digest event).sequence = 1) event =
      readEntry l (sequence = 0) event := by
    congr 1
    rw [decide_eq_decide]
    show (sequence : ℤ) + 1 = 1 ↔ _
    omega
  have hpayload : (rowAfter sequence digest event).payload = canonical true event := rfl
  simp only [Row.entry, hfirst, hpayload, hsize, decide_true, require_true, hloads,
    Option.bind_eq_bind, Option.bind_some]
  cases hx : readEntry l (sequence = 0) event with
  | none => rfl
  | some x =>
      obtain ⟨hkind, hrequest⟩ := readEntry_columns hx
      simp [rowAfter, hkind, hrequest]

/-- **Append and replay agree**: the row of an event is accepted exactly when the event is, and
leads to the same state. -/
theorem replayRow_rowAfter {l : LedgerIdentity} {s : Replay} {event : Json}
    (h : event.recordable = true) :
    replayRow l s (rowAfter s.ledger.sequence s.ledger.digest event) = projectEvent l s event := by
  have hdigest : (rowAfter s.ledger.sequence s.ledger.digest event).digest =
      eventDigest s.ledger.digest (canonical true event) := rfl
  have hprevious : (rowAfter s.ledger.sequence s.ledger.digest event).previous =
      s.ledger.digest := rfl
  have hpayload : (rowAfter s.ledger.sequence s.ledger.digest event).payload =
      canonical true event := rfl
  have hsequence : (rowAfter s.ledger.sequence s.ledger.digest event).sequence =
      s.ledger.sequence + 1 := rfl
  simp only [replayRow, projectEvent, entry_rowAfter h, hdigest, hprevious, hpayload, hsequence,
    decide_true, Bool.and_self, require_true, Option.bind_eq_bind, Option.bind_some]

/-- A chain of rows is accepted exactly when its events are. -/
theorem accept_chainRows {l : LedgerIdentity} {s : Replay} {events : List Json}
    (h : events.all Json.recordable = true) :
    accept (replayRow l) s (chainRows s.ledger.sequence s.ledger.digest events) =
      accept (projectEvent l) s events := by
  induction events generalizing s with
  | nil => rfl
  | cons event events ih =>
      rw [List.all_cons, Bool.and_eq_true] at h
      rw [chainRows, accept_cons, accept_cons, replayRow_rowAfter h.1]
      cases ht : projectEvent l s event with
      | none => rfl
      | some t =>
          have hstep : t.ledger.sequence = s.ledger.sequence + 1 ∧
              t.ledger.digest = eventDigest s.ledger.digest (canonical true event) := by
            simp only [projectEvent, Option.bind_eq_bind, Option.bind_eq_some_iff,
              Option.pure_def, Option.some.injEq] at ht
            obtain ⟨x, -, u, -, rfl⟩ := ht
            exact ⟨rfl, rfl⟩
          have hrest := ih (s := t) h.2
          rw [hstep.1, hstep.2] at hrest
          exact hrest

lemma length_chainRows (sequence : ℕ) (digest : String) (events : List Json) :
    (chainRows sequence digest events).length = events.length := by
  induction events generalizing sequence digest with
  | nil => rfl
  | cons event events ih => rw [chainRows, List.length_cons, List.length_cons, ih]

end CivicGate
