import CivicGate.Rq6.EventLedger
import Mathlib.Data.List.AList

/-!
# The event ledger in its directory

`EventLedger` of `rq6/artifacts.py`: each event is a file of its own that names the digest of the
event before it.  What the ledger does with bytes is given by `ByteCodec`, so a file may hold any
bytes; `textCodec` is the codec of the artifacts whose bytes are the UTF-8 of a text.

An accepted directory is a chain of digests that ends in the expected tip (`Linked`).  Two chains
of one length with the same tip are equal, from the end backwards, unless two of their records
are different bytes with the same digest.
-/

namespace CivicGate.Rq6

/-! ## Records and files -/

/-- What is done with the bytes of a record. -/
structure ByteCodec (B : Type) where
  /-- `sha256(raw)` -/
  sha256 : B → String
  /-- `decode_exact(raw)`, which must be an object. -/
  decode : B → Except Raised Object
  /-- `exact_json(payload)` -/
  exact : Object → Except Raised B

/-- The codec of snapshots whose bytes are the UTF-8 of a text. -/
def textCodec : ByteCodec String where
  sha256 := sha256Hex
  decode payload := (ArtifactSnapshot.mk "bundle_event_ledger" payload (sha256Hex payload)).data
  exact payload := return (Value.dict payload).exact

/-- A snapshot of kind `bundle_event_ledger`. -/
structure LedgerRecord (B : Type) where
  payload : B
  sha256 : String
  deriving DecidableEq

/-- The exceptions of a ledger. -/
inductive LedgerError
  | raised (r : Raised)
  /-- An `OSError`. -/
  | os
  deriving DecidableEq

/-- A file of the directory. -/
structure LedgerFile (B : Type) where
  /-- `_safe_path(path)` raises. -/
  redirected : Bool
  symlink : Bool
  /-- `none` if it cannot be read. -/
  content : Option B

/-- What a ledger has: its directory, and what it expects there. -/
structure LedgerState (B : Type) where
  redirected : Bool
  files : AList fun _ : String => LedgerFile B
  expectedCount : ℕ
  expectedTip : Option String
  /-- `INVALID_LEDGER_EXPECTATION` -/
  expectation : expectedCount = 0 ↔ expectedTip = none

/-- A ledger: its binding, the verifier it was given, and the codec. -/
structure EventLedger (B : Type) where
  binding : List (String × String)
  codec : ByteCodec B
  verifier : LedgerRecord B → Except Raised Unit

variable {B : Type}

/-- The record of these bytes. -/
def ByteCodec.record (codec : ByteCodec B) (raw : B) : LedgerRecord B := ⟨raw, codec.sha256 raw⟩

/-- `f"{sequence:06d}.json"` -/
def fileName (sequence : ℕ) : String :=
  let digits := Nat.toDigits 10 sequence
  String.ofList (List.replicate (6 - digits.length) '0' ++ digits ++ ".json".toList)

/-- `sorted(self.root.glob("*.json"))` -/
def LedgerState.listing (s : LedgerState B) : List (Σ _ : String, LedgerFile B) :=
  (s.files.entries.filter fun e => ".json".toList.isSuffixOf e.1.toList).mergeSort
    fun a b => a.1 ≤ b.1

/-! ## Verification -/

/-- A check of the artifacts, as the ledger raises it. -/
def checked {α : Type} (x : Except Raised α) : Except LedgerError α := Except.reraise x .raised

/-- `all(data.get(key) == value for key, value in self.binding.items())` -/
def EventLedger.isBound (l : EventLedger B) (data : Object) : Bool :=
  l.binding.all fun entry => (data.get entry.1).eq (.str entry.2)

/-- One round of `verify`, for the file of this place in the listing. -/
def EventLedger.readRecord (l : EventLedger B) (sequence : ℕ) (previous : Option String)
    (e : Σ _ : String, LedgerFile B) : Except LedgerError (LedgerRecord B) := do
  checked (require (e.1 = fileName sequence) "LEDGER_SEQUENCE_GAP")
  checked (require (!e.2.redirected) "CUSTODY_PATH_REDIRECTION")
  checked (require (!e.2.symlink) "SYMLINK_ARTIFACT")
  let raw ← e.2.content.elim (.error .os) .ok
  let record := l.codec.record raw
  checked (l.verifier record)
  let data ← checked (l.codec.decode record.payload)
  checked (require (l.isBound data) "LEDGER_CROSS_BUNDLE")
  let number ← checked (data.item "event_sequence")
  checked (require (number.eq (.int sequence)) "LEDGER_SEQUENCE_GAP")
  let link ← checked (data.item "previous_event_sha256")
  checked (require (link.eq (.optStr previous)) "LEDGER_CHAIN_BROKEN")
  return record

/-- The loop of `verify`. -/
def EventLedger.readRecords (l : EventLedger B) : ℕ → Option String →
    List (Σ _ : String, LedgerFile B) → Except LedgerError (List (LedgerRecord B))
  | _, _, [] => return []
  | sequence, previous, e :: rest => do
    let record ← l.readRecord sequence previous e
    let records ← l.readRecords (sequence + 1) (some record.sha256) rest
    return record :: records

/-- One round of `_check_order`, on what the event decodes to. -/
def LedgerOrder.roundOf (o : LedgerOrder) (data : Except Raised Object) :
    Except Raised LedgerOrder := do
  require (!o.terminal) "LEDGER_EVENT_AFTER_TERMINAL"
  let payload ← data
  let kind ← payload.item "event_type"
  o.read kind

/-- `_check_order(events)` -/
def EventLedger.checkOrder (l : EventLedger B) (events : List (LedgerRecord B)) :
    Except Raised Unit := do
  let _ ← events.foldlM
    (fun (o : LedgerOrder) record => o.roundOf (l.codec.decode record.payload)) {}

/-- The digest of the last of the records, or the one they follow. -/
def tipOf (previous : Option String) (records : List (LedgerRecord B)) : Option String :=
  (records.getLast?.map LedgerRecord.sha256).or previous

/-- `verify` -/
def EventLedger.verify (l : EventLedger B) (s : LedgerState B) :
    Except LedgerError (List (LedgerRecord B)) := do
  checked (require (!s.redirected) "CUSTODY_PATH_REDIRECTION")
  let events ← l.readRecords 1 none s.listing
  checked (require (events.length = s.expectedCount && tipOf none events = s.expectedTip)
    "LEDGER_TRUNCATION_OR_REWRITE")
  checked (l.checkOrder events)
  return events

/-! ## Appending -/

/-- `append`, up to the creation of the directory: the events there are, and the new record. -/
def EventLedger.prepare (l : EventLedger B) (s : LedgerState B) (payload : Object) :
    Except LedgerError (List (LedgerRecord B) × LedgerRecord B) := do
  let existing ← l.verify s
  checked (require ((payload.get "event_sequence").eq (.int (existing.length + 1)))
    "LEDGER_SEQUENCE_GAP")
  checked (require ((payload.get "previous_event_sha256").eq (.optStr (tipOf none existing)))
    "LEDGER_CHAIN_BROKEN")
  checked (require (l.isBound payload) "LEDGER_CROSS_BUNDLE")
  checked (validateArtifact "bundle_event_ledger" payload)
  let raw ← checked (l.codec.exact payload)
  let record := l.codec.record raw
  checked (l.verifier record)
  checked (l.checkOrder (existing ++ [record]))
  return (existing, record)

/-- What the file system does in an `append`. -/
structure AppendCall (B : Type) where
  /-- The directory is there or was made. -/
  made : Bool
  /-- `path.open("xb")` does not raise, unless the file exists. -/
  opened : Bool
  /-- The file as the write leaves it, whether or not it raises. -/
  left : LedgerFile B
  written : Bool

/-- The state with the file of a new event. -/
def LedgerState.write (s : LedgerState B) (sequence : ℕ) (file : LedgerFile B) : LedgerState B :=
  { s with files := s.files.insert (fileName sequence) file }

/-- The state that expects one more event, with this digest. -/
def LedgerState.expect (s : LedgerState B) (tip : String) : LedgerState B :=
  { s with
    expectedCount := s.expectedCount + 1
    expectedTip := some tip
    expectation := by simp }

/-- `append`, with the state it leaves. -/
def EventLedger.append [DecidableEq B] (l : EventLedger B) (s : LedgerState B) (payload : Object)
    (c : AppendCall B) : Except LedgerError (LedgerRecord B) × LedgerState B :=
  match l.prepare s payload with
  | .error e => (.error e, s)
  | .ok (existing, record) =>
    let sequence := existing.length + 1
    if !c.made || !c.opened || fileName sequence ∈ s.files then (.error .os, s)
    else
      let written := s.write sequence c.left
      if !c.written then (.error .os, written)
      else match c.left.content with
        | none => (.error .os, written)
        | some raw =>
          if raw ≠ record.payload then
            (.error (.raised (.rq6 "LEDGER_WRITE_VERIFICATION_FAILED")), written)
          else
            let expecting := written.expect record.sha256
            match l.verify expecting with
            | .error e => (.error e, expecting)
            | .ok events =>
              if events.getLast? = some record then (.ok record, expecting)
              else
                (.error (.raised (.rq6 "LEDGER_WRITE_VERIFICATION_FAILED")), expecting)

/-- The `append` reaches its write. -/
def EventLedger.Opens (l : EventLedger B) (s : LedgerState B) (payload : Object)
    (c : AppendCall B) : Prop :=
  c.made = true ∧ c.opened = true ∧ ∃ existing record,
    l.prepare s payload = .ok (existing, record) ∧ fileName (existing.length + 1) ∉ s.files

/-! ## The chain -/

variable {codec : ByteCodec B} {l : EventLedger B} {s t : LedgerState B}

@[simp] lemma checked_eq_ok {α : Type} {x : Except Raised α} {a : α} :
    checked x = .ok a ↔ x = .ok a := Except.reraise_eq_ok

/-- The record is that of its bytes, which name the digest before it. -/
def Names (codec : ByteCodec B) (previous : Option String) (record : LedgerRecord B) : Prop :=
  record = codec.record record.payload ∧ ∃ data, codec.decode record.payload = .ok data ∧
    data.item "previous_event_sha256" = .ok (.optStr previous)

/-- Each record names the digest of the one before it. -/
def Linked (codec : ByteCodec B) : Option String → List (LedgerRecord B) → Prop
  | _, [] => True
  | previous, record :: rest =>
    Names codec previous record ∧ Linked codec (some record.sha256) rest

lemma tipOf_cons (previous : Option String) (record : LedgerRecord B)
    (rest : List (LedgerRecord B)) :
    tipOf previous (record :: rest) = tipOf (some record.sha256) rest := by
  unfold tipOf
  cases hlast : rest.getLast? with
  | none => simp [List.getLast?_cons, hlast]
  | some r => simp [List.getLast?_cons, hlast]

lemma tipOf_concat (previous : Option String) (records : List (LedgerRecord B))
    (record : LedgerRecord B) : tipOf previous (records ++ [record]) = some record.sha256 := by
  rw [tipOf, List.getLast?_concat, Option.map_some, Option.some_or]

lemma linked_concat {previous : Option String} {records : List (LedgerRecord B)}
    {record : LedgerRecord B} : Linked codec previous (records ++ [record]) ↔
      Linked codec previous records ∧ Names codec (tipOf previous records) record := by
  induction records generalizing previous with
  | nil => simp [Linked, tipOf]
  | cons r records ih => rw [List.cons_append, Linked, Linked, ih, tipOf_cons, and_assoc]

lemma optStr_injective : Function.Injective Value.optStr := by
  intro a b h
  cases a with
  | none =>
      cases b with
      | none => rfl
      | some b => cases h
  | some a =>
      cases b with
      | none => cases h
      | some b => exact congrArg some (Value.str.inj h)

/-- The link of a record determines what it follows. -/
lemma names_unique {previous previous' : Option String} {record : LedgerRecord B}
    (h : Names codec previous record) (h' : Names codec previous' record) :
    previous = previous' := by
  obtain ⟨-, data, hdata, hlink⟩ := h
  obtain ⟨-, data', hdata', hlink'⟩ := h'
  obtain rfl := Except.ok.inj (hdata.symm.trans hdata')
  exact optStr_injective (Except.ok.inj (hlink.symm.trans hlink'))

/-- Two chains of one length with the same tip are equal, if no two of their records collide. -/
lemma linked_unique {records records' : List (LedgerRecord B)} (h : Linked codec none records)
    (h' : Linked codec none records') (hlength : records.length = records'.length)
    (htip : tipOf none records = tipOf none records')
    (hcollide : ∀ a ∈ records, ∀ b ∈ records', codec.sha256 a.payload = codec.sha256 b.payload →
      a.payload = b.payload) : records = records' := by
  induction records using List.reverseRecOn generalizing records' with
  | nil => exact (List.length_eq_zero_iff.mp hlength.symm).symm
  | append_singleton init record ih =>
      rcases List.eq_nil_or_concat records' with rfl | ⟨init', record', rfl⟩
      · simp at hlength
      · rw [List.concat_eq_append] at h' hlength htip hcollide ⊢
        obtain ⟨hinit, hnames⟩ := linked_concat.mp h
        obtain ⟨hinit', hnames'⟩ := linked_concat.mp h'
        rw [tipOf_concat, tipOf_concat, Option.some.injEq] at htip
        have hpayload : record.payload = record'.payload := by
          refine hcollide record (by simp) record' (by simp) ?_
          have hdigest := congrArg LedgerRecord.sha256 hnames.1
          have hdigest' := congrArg LedgerRecord.sha256 hnames'.1
          exact hdigest.symm.trans (htip.trans hdigest')
        obtain rfl : record = record' := by rw [hnames.1, hnames'.1, hpayload]
        rw [ih hinit hinit' (by simpa using hlength) (names_unique hnames hnames')
          fun a ha b hb => hcollide a (List.mem_append_left _ ha) b (List.mem_append_left _ hb)]

/-! ## What is accepted -/

lemma readRecord_eq_ok {sequence : ℕ} {previous : Option String}
    {e : Σ _ : String, LedgerFile B} {record : LedgerRecord B}
    (h : l.readRecord sequence previous e = .ok record) :
    e.1 = fileName sequence ∧ e.2.content = some record.payload ∧
      Names l.codec previous record := by
  unfold EventLedger.readRecord at h
  simp only [Except.bind_eq_ok, checked_eq_ok, require_eq_ok, decide_eq_true_eq,
    Except.pure_eq_ok, Value.eq_optStr] at h
  obtain ⟨-, hname, -, -, -, -, raw, hraw, -, -, data, hdata, -, -, number, -, -, -, link, hlink,
    -, rfl, rfl⟩ := h
  have hcontent : e.2.content = some raw := by
    cases hc : e.2.content with
    | none => simp [hc] at hraw
    | some b => simpa [hc] using hraw
  exact ⟨hname, hcontent, rfl, data, hdata, hlink⟩

/-- The records read are linked, and each is that of the file of its place. -/
lemma readRecords_eq_ok {sequence : ℕ} {previous : Option String}
    {files : List (Σ _ : String, LedgerFile B)} {records : List (LedgerRecord B)}
    (h : l.readRecords sequence previous files = .ok records) :
    Linked l.codec previous records ∧ ∀ i record, records[i]? = some record →
      ∃ e ∈ files, e.1 = fileName (sequence + i) ∧ e.2.content = some record.payload ∧
        record = l.codec.record record.payload := by
  induction files generalizing sequence previous records with
  | nil =>
      obtain rfl := Except.pure_eq_ok.mp h
      exact ⟨trivial, by simp⟩
  | cons e files ih =>
      rw [EventLedger.readRecords] at h
      simp only [Except.bind_eq_ok, Except.pure_eq_ok] at h
      obtain ⟨record, hrecord, rest, hrest, rfl⟩ := h
      obtain ⟨hname, hcontent, hnames⟩ := readRecord_eq_ok hrecord
      obtain ⟨hlinked, hfiles⟩ := ih hrest
      refine ⟨⟨hnames, hlinked⟩, fun i r hr => ?_⟩
      cases i with
      | zero =>
          obtain rfl := Option.some.inj hr
          exact ⟨e, List.mem_cons_self .., hname, hcontent, hnames.1⟩
      | succ i =>
          obtain ⟨f, hf, hfname, hfcontent, hfrecord⟩ := hfiles i r hr
          refine ⟨f, List.mem_cons_of_mem _ hf, ?_, hfcontent, hfrecord⟩
          rw [hfname, Nat.add_right_comm, Nat.add_assoc]

/-- An accepted directory holds the records it yields, linked up to the expected tip. -/
lemma verify_eq_ok {events : List (LedgerRecord B)} (h : l.verify s = .ok events) :
    Linked l.codec none events ∧ events.length = s.expectedCount ∧
      tipOf none events = s.expectedTip ∧ ∀ i record, events[i]? = some record →
        ∃ file, s.files.lookup (fileName (1 + i)) = some file ∧
          file.content = some record.payload ∧ record = l.codec.record record.payload := by
  unfold EventLedger.verify at h
  simp only [Except.bind_eq_ok, checked_eq_ok, require_eq_ok, Bool.and_eq_true,
    decide_eq_true_eq, Except.pure_eq_ok] at h
  obtain ⟨-, -, records, hrecords, -, ⟨hlength, htip⟩, -, -, rfl⟩ := h
  obtain ⟨hlinked, hfiles⟩ := readRecords_eq_ok hrecords
  refine ⟨hlinked, hlength, htip, fun i record hi => ?_⟩
  obtain ⟨⟨name, file⟩, hmem, rfl, hcontent, hrecord⟩ := hfiles i record hi
  have hentry := (List.mem_filter.mp ((List.mergeSort_perm _ _).mem_iff.mp hmem)).1
  exact ⟨file, AList.mem_lookup_iff.mpr hentry, hcontent, hrecord⟩

/-! ## Appending -/

/-- The name of a file tells its place. -/
lemma fileName_injective : Function.Injective fileName := by
  intro m n h
  have hdigits := List.append_cancel_right (String.ofList_injective h)
  have hvalues := congrArg natOfDigits hdigits
  rwa [natOfDigits_zeros_append, natOfDigits_zeros_append, natOfDigits_toDigits,
    natOfDigits_toDigits] at hvalues

variable {payload : Object}

lemma prepare_returns {existing : List (LedgerRecord B)} {raw : B}
    (hverify : l.verify s = .ok existing)
    (hsequence : (payload.get "event_sequence").eq (.int (existing.length + 1)) = true)
    (hlink : (payload.get "previous_event_sha256").eq (.optStr (tipOf none existing)) = true)
    (hbound : l.isBound payload = true)
    (hvalid : validateArtifact "bundle_event_ledger" payload = .ok ())
    (hexact : l.codec.exact payload = .ok raw)
    (hverifier : l.verifier (l.codec.record raw) = .ok ())
    (horder : l.checkOrder (existing ++ [l.codec.record raw]) = .ok ()) :
    l.prepare s payload = .ok (existing, l.codec.record raw) := by
  unfold EventLedger.prepare
  simp only [Except.bind_eq_ok, checked_eq_ok, require_eq_ok, Except.pure_eq_ok]
  exact ⟨existing, hverify, (), hsequence, (), hlink, (), hbound, (), hvalid, raw, hexact, (),
    hverifier, (), horder, rfl⟩

lemma readRecord_returns {sequence : ℕ} {previous : Option String}
    {e : Σ _ : String, LedgerFile B} {raw : B} {data : Object} {number : Value}
    (hname : e.1 = fileName sequence) (hredirected : e.2.redirected = false)
    (hsymlink : e.2.symlink = false) (hcontent : e.2.content = some raw)
    (hverifier : l.verifier (l.codec.record raw) = .ok ())
    (hdecode : l.codec.decode raw = .ok data) (hbound : l.isBound data = true)
    (hnumber : data.item "event_sequence" = .ok number) (hsequence : number.eq (.int sequence))
    {link : Value} (hitem : data.item "previous_event_sha256" = .ok link)
    (hlink : link.eq (.optStr previous) = true) :
    l.readRecord sequence previous e = .ok (l.codec.record raw) := by
  unfold EventLedger.readRecord
  simp only [Except.bind_eq_ok, checked_eq_ok, require_eq_ok, decide_eq_true_eq,
    Except.pure_eq_ok]
  exact ⟨(), hname, (), by rw [hredirected]; rfl, (), by rw [hsymlink]; rfl, raw,
    by rw [hcontent]; rfl, (), hverifier, data, hdecode, (), hbound, number, hnumber, (),
    hsequence, link, hitem, (), hlink, rfl⟩

lemma verify_returns {events : List (LedgerRecord B)} (hredirected : s.redirected = false)
    (hread : l.readRecords 1 none s.listing = .ok events) (hcount : events.length = s.expectedCount)
    (htip : tipOf none events = s.expectedTip) (horder : l.checkOrder events = .ok ()) :
    l.verify s = .ok events := by
  unfold EventLedger.verify
  simp only [Except.bind_eq_ok, checked_eq_ok, require_eq_ok, Except.pure_eq_ok]
  refine ⟨(), by rw [hredirected]; rfl, events, hread, (), ?_, (), horder, rfl⟩
  simp [hcount, htip]

variable [DecidableEq B] {c : AppendCall B}

/-- An `append` that does not reach its write changes nothing. -/
lemma append_of_not_opens (h : ¬l.Opens s payload c) :
    (∃ e, (l.append s payload c).1 = .error e) ∧ (l.append s payload c).2 = s := by
  unfold EventLedger.append
  split
  · exact ⟨⟨_, rfl⟩, rfl⟩
  · rename_i existing record hprepare
    dsimp only
    split
    · exact ⟨⟨_, rfl⟩, rfl⟩
    · rename_i hready
      refine absurd ?_ h
      simp only [Bool.or_eq_true, Bool.not_eq_true', decide_eq_true_eq, not_or,
        Bool.not_eq_false] at hready
      exact ⟨hready.1.1, hready.1.2, existing, record, hprepare, hready.2⟩

/-- What an `append` that returned found and left. -/
lemma append_eq_ok {record : LedgerRecord B} (h : l.append s payload c = (.ok record, t)) :
    ∃ existing events, l.verify s = .ok existing ∧
      fileName (existing.length + 1) ∉ s.files ∧
      t = (s.write (existing.length + 1) c.left).expect record.sha256 ∧
      l.verify t = .ok events ∧ events.getLast? = some record := by
  unfold EventLedger.append at h
  split at h
  · cases h
  · rename_i existing found hprepare
    have hverify : l.verify s = .ok existing := by
      unfold EventLedger.prepare at hprepare
      simp only [Except.bind_eq_ok, Except.pure_eq_ok, Prod.mk.injEq] at hprepare
      obtain ⟨events, hevents, hrest⟩ := hprepare
      obtain ⟨-, -, -, -, -, -, -, -, raw, -, -, -, -, -, rfl, -⟩ := hrest
      exact hevents
    dsimp only at h
    split at h
    · cases h
    · rename_i hready
      simp only [Bool.or_eq_true, Bool.not_eq_true', decide_eq_true_eq, not_or,
        Bool.not_eq_false] at hready
      split at h
      · cases h
      · split at h
        · cases h
        · split at h
          · cases h
          · split at h
            · cases h
            · rename_i events hevents
              split at h
              · rename_i hlast
                obtain ⟨hrecord, rfl⟩ := Prod.mk.inj h
                obtain rfl := Except.ok.inj hrecord
                exact ⟨existing, events, hverify, hready.2, rfl, hevents, hlast⟩
              · cases h

/-- After an `append` that returned, the ledger yields the old events and the new one. -/
lemma verify_append {events : List (LedgerRecord B)} {record : LedgerRecord B}
    (hevents : l.verify s = .ok events) (h : l.append s payload c = (.ok record, t)) :
    l.verify t = .ok (events ++ [record]) := by
  obtain ⟨existing, later, hexisting, -, rfl, hlater, hlast⟩ := append_eq_ok h
  obtain rfl := Except.ok.inj (hexisting.symm.trans hevents)
  obtain ⟨-, hlength, -, hfiles⟩ := verify_eq_ok hevents
  obtain ⟨-, hlength', -, hfiles'⟩ := verify_eq_ok hlater
  rw [hlater]
  obtain ⟨init, rfl⟩ := List.getLast?_eq_some_iff.mp hlast
  have hinit : init.length = existing.length := by
    rw [List.length_append, List.length_singleton] at hlength'
    rw [hlength]
    exact Nat.succ_injective hlength'
  -- The files before the new one are as they were, and so are their records.
  have hsame : init = existing := by
    refine List.ext_getElem hinit fun i hi hi' => ?_
    obtain ⟨file, hfile, hcontent, hrecord⟩ :=
      hfiles i existing[i] (List.getElem?_eq_getElem hi')
    obtain ⟨file', hfile', hcontent', hrecord'⟩ := hfiles' i init[i]
      (by rw [List.getElem?_append_left hi, List.getElem?_eq_getElem hi])
    have hne : fileName (1 + i) ≠ fileName (existing.length + 1) := fun heq => by
      have := fileName_injective heq
      omega
    have hlookup : (s.files.insert (fileName (existing.length + 1)) c.left).lookup
        (fileName (1 + i)) = some file' := hfile'
    rw [AList.lookup_insert_ne hne, hfile] at hlookup
    obtain rfl := Option.some.inj hlookup
    rw [hrecord, hrecord', Option.some.inj (hcontent.symm.trans hcontent')]
  rw [hsame]

lemma append_returns (c : AppendCall B) {existing events : List (LedgerRecord B)}
    {record : LedgerRecord B}
    (hprepare : l.prepare s payload = .ok (existing, record)) (hmade : c.made = true)
    (hopened : c.opened = true) (hfree : fileName (existing.length + 1) ∉ s.files)
    (hwritten : c.written = true) (hcontent : c.left.content = some record.payload)
    (hverify : l.verify ((s.write (existing.length + 1) c.left).expect record.sha256) = .ok events)
    (hlast : events.getLast? = some record) :
    l.append s payload c =
      (.ok record, (s.write (existing.length + 1) c.left).expect record.sha256) := by
  simp [EventLedger.append, hprepare, hmade, hopened, hfree, hwritten, hcontent, hverify, hlast]

/-! ## Result -/

/-- **The event ledger is tamper evident.**  Two directories accepted for the same count and tip
yield the same events, if no two of them collide; after an `append` that returned, the ledger
yields the old events and the new one; and an `append` that raises before its write changes
nothing. -/
theorem eventLedger_tamperEvident (l : EventLedger B) :
    (∀ s t events events', s.expectedCount = t.expectedCount → s.expectedTip = t.expectedTip →
      l.verify s = .ok events → l.verify t = .ok events' →
      (∀ a ∈ events, ∀ b ∈ events', l.codec.sha256 a.payload = l.codec.sha256 b.payload →
        a.payload = b.payload) → events = events') ∧
    (∀ s t payload c events record, l.verify s = .ok events →
      l.append s payload c = (.ok record, t) → l.verify t = .ok (events ++ [record])) ∧
    ∀ s payload c, ¬l.Opens s payload c →
      (∃ e, (l.append s payload c).1 = .error e) ∧ (l.append s payload c).2 = s := by
  refine ⟨fun s t events events' hcount htip hs ht hcollide => ?_,
    fun s t payload c events record hs h => verify_append hs h,
    fun s payload c h => append_of_not_opens h⟩
  obtain ⟨hlinked, hlength, hend, -⟩ := verify_eq_ok hs
  obtain ⟨hlinked', hlength', hend', -⟩ := verify_eq_ok ht
  exact linked_unique hlinked hlinked' (hlength.trans (hcount.trans hlength'.symm))
    (hend.trans (htip.trans hend'.symm)) hcollide

/-! ### A sample -/

/-- A ledger whose verifier accepts every record. -/
def sampleLedger : EventLedger String where
  binding := [("package_id", "package")]
  codec := textCodec
  verifier _ := return ()

/-- A ledger without events. -/
def sampleEmpty : LedgerState String := ⟨false, ∅, 0, none, by simp⟩

/-- The limitation recorded at this place of a ledger, with this link to the record before. -/
def limitationAt (sequence : ℤ) (link : Value) : Object :=
  let hash := String.ofList (List.replicate 64 '0')
  [("schema_version", .str "judge-repeat-bundle-event-amendment-001-v1"),
    ("protocol_id", .str protocolId), ("amendment_id", .str amendmentId),
    ("package_id", .str "package"), ("bundle_review_id", .str hash),
    ("event_sequence", .int sequence), ("event_type", .str limitationEvent),
    ("artifact_sha256", .str hash), ("previous_event_sha256", link),
    ("audience_policy_sha256", .str hash), ("timestamp", .str "2026-01-01T00:00:00Z")]

/-- The event as it is written. -/
def writtenAt (sequence : ℤ) (link : Value) : Object :=
  let hash := String.ofList (List.replicate 64 '0')
  [("amendment_id", .str amendmentId), ("artifact_sha256", .str hash),
    ("audience_policy_sha256", .str hash), ("bundle_review_id", .str hash),
    ("event_sequence", .int sequence), ("event_type", .str limitationEvent),
    ("package_id", .str "package"), ("previous_event_sha256", link),
    ("protocol_id", .str protocolId),
    ("schema_version", .str "judge-repeat-bundle-event-amendment-001-v1"),
    ("timestamp", .str "2026-01-01T00:00:00Z")]

/-- The event file with these bytes. -/
def sampleFile (raw : String) : LedgerFile String := ⟨false, false, some raw⟩

/-- The ledger of one event. -/
def ledgerOfOne (raw : String) : LedgerState String :=
  (sampleEmpty.write 1 (sampleFile raw)).expect (textCodec.record raw).sha256

/-- The ledger of two events. -/
def ledgerOfTwo (raw raw' : String) : LedgerState String :=
  ((ledgerOfOne raw).write 2 (sampleFile raw')).expect (textCodec.record raw').sha256

section

variable {sequence : ℤ} {link : Value}

lemma sorted_limitationAt (h : link.sorted = link) :
    (Value.dict (limitationAt sequence link)).sorted = .dict (writtenAt sequence link) := by
  have hsorted : (Value.dict (limitationAt sequence link)).sorted =
      .dict (writtenAt sequence link.sorted) := rfl
  rw [hsorted, h]

lemma exact_limitationAt (hlink : link.sorted = link) (hreadable : link.readable = true)
    (hsequence : readableInt sequence = true) :
    ∃ raw, textCodec.exact (limitationAt sequence link) = .ok raw ∧
      textCodec.decode raw = .ok (writtenAt sequence link) := by
  have hwritten : (Value.dict (writtenAt sequence link)).readable = true := by
    simp [Value.readable, writtenAt, Value.readableEntries, hreadable, hsequence]
  have hsorted := @sorted_limitationAt sequence link hlink
  generalize limitationAt sequence link = payload at hsorted ⊢
  exact ⟨_, rfl, data_build hsorted hwritten⟩

lemma roundOf_writtenAt {o : LedgerOrder} (h : o.terminal = false) :
    o.roundOf (.ok (writtenAt sequence link)) = .ok { o with limitation := true } := by
  have hkind : (writtenAt sequence link).item "event_type" = .ok (.str limitationEvent) := rfl
  have hread : o.read (.str limitationEvent) = .ok { o with limitation := true } :=
    if_pos (Value.eq_str.mpr rfl)
  unfold LedgerOrder.roundOf
  simp only [Except.bind_eq_ok, require_eq_ok]
  exact ⟨(), by rw [h]; rfl, _, rfl, _, hkind, hread⟩

/-- The record of an event of this kind is read at its place. -/
lemma readRecord_writtenAt {sequence : ℕ} {raw : String} {previous : Option String}
    (hdecode : textCodec.decode raw = .ok (writtenAt sequence (.optStr previous))) :
    sampleLedger.readRecord sequence previous ⟨fileName sequence, sampleFile raw⟩ =
      .ok (textCodec.record raw) := by
  have hbound : sampleLedger.isBound (writtenAt sequence (.optStr previous)) = true := by
    rfl
  exact readRecord_returns rfl rfl rfl rfl rfl hdecode hbound rfl (Value.int_eq_int.mpr rfl) rfl
    (Value.eq_optStr.mpr rfl)

/-- Limitations may follow each other. -/
lemma checkOrder_limitations {records : List (LedgerRecord String)}
    (h : ∀ r ∈ records, ∃ sequence link,
      textCodec.decode r.payload = .ok (writtenAt sequence link)) :
    sampleLedger.checkOrder records = .ok () := by
  have hround : ∀ o : LedgerOrder, o.terminal = false → ∃ o', records.foldlM
      (fun (o : LedgerOrder) record => o.roundOf (textCodec.decode record.payload)) o = .ok o' := by
    induction records with
    | nil => exact fun o _ => ⟨o, rfl⟩
    | cons r records ih =>
        intro o ho
        obtain ⟨sequence, link, hdecode⟩ := h r List.mem_cons_self
        rw [List.foldlM_cons, hdecode, roundOf_writtenAt ho, Except.ok_bind]
        exact ih (fun r hr => h r (List.mem_cons_of_mem _ hr)) _ ho
  obtain ⟨o', ho'⟩ := hround {} rfl
  simp only [EventLedger.checkOrder, sampleLedger, ho', Except.ok_bind]
  rfl

end

/-- The schema takes the first event, and a second that is linked to a digest. -/
lemma validate_first : validateArtifact "bundle_event_ledger" (limitationAt 1 .null) = .ok () := by
  decide +kernel

/-- The schema takes any digest for the link, if it takes one. -/
lemma validate_link {sha other : String} (h : isHash sha = true)
    (hother : validateArtifact "bundle_event_ledger" (limitationAt 2 (.str other)) = .ok ()) :
    validateArtifact "bundle_event_ledger" (limitationAt 2 (.str sha)) = .ok () := by
  have hname : "previous_event_sha256".endsWith "_sha256" = true := by decide +kernel
  have hlink : Renewed ("previous_event_sha256", .str other)
      ("previous_event_sha256", .str sha) := .inr ⟨rfl, hname, sha, rfl, h⟩
  have hrenewed : List.Forall₂ Renewed (limitationAt 2 (.str other))
      (limitationAt 2 (.str sha)) := by
    simp [limitationAt, hlink]
  have hsame : checkEvent (limitationAt 2 (.str sha)) = checkEvent (limitationAt 2 (.str other)) :=
    rfl
  exact validateArtifact_renewed hrenewed (fun hp => hsame.trans hp) hother

lemma listing_ledgerOfOne (raw : String) :
    (ledgerOfOne raw).listing = [⟨fileName 1, sampleFile raw⟩] := by
  have hname : (".json".toList.isSuffixOf (fileName 1).toList) = true := by decide
  have hentries : (ledgerOfOne raw).files.entries = [⟨fileName 1, sampleFile raw⟩] := rfl
  rw [LedgerState.listing, hentries, List.filter_singleton]
  simp only [hname, cond_true]
  exact List.mergeSort_singleton _

lemma listing_ledgerOfTwo (raw raw' : String) : (ledgerOfTwo raw raw').listing =
    [⟨fileName 1, sampleFile raw⟩, ⟨fileName 2, sampleFile raw'⟩] := by
  have hname : (".json".toList.isSuffixOf (fileName 1).toList) = true ∧
      (".json".toList.isSuffixOf (fileName 2).toList) = true := by decide
  have horder : ¬fileName 2 ≤ fileName 1 := by decide
  have hentries : (ledgerOfTwo raw raw').files.entries =
      [⟨fileName 2, sampleFile raw'⟩, ⟨fileName 1, sampleFile raw⟩] := rfl
  rw [LedgerState.listing, hentries]
  simp only [List.filter_cons, List.filter_nil, hname.1, hname.2, if_true]
  simp [List.mergeSort, horder]

lemma verify_sampleEmpty : sampleLedger.verify sampleEmpty = .ok [] := by
  have hlisting : sampleEmpty.listing = [] := List.mergeSort_nil
  unfold EventLedger.verify
  rw [hlisting]
  rfl

lemma verify_ledgerOfOne {raw : String}
    (hdecode : textCodec.decode raw = .ok (writtenAt 1 .null)) :
    sampleLedger.verify (ledgerOfOne raw) = .ok [textCodec.record raw] := by
  have hread : sampleLedger.readRecords 1 none (ledgerOfOne raw).listing =
      .ok [textCodec.record raw] := by
    rw [listing_ledgerOfOne, EventLedger.readRecords, readRecord_writtenAt hdecode]
    rfl
  refine verify_returns rfl hread rfl rfl (checkOrder_limitations fun r hr => ?_)
  obtain rfl := List.mem_singleton.mp hr
  exact ⟨_, _, hdecode⟩

lemma verify_ledgerOfTwo {raw raw' : String}
    (hdecode : textCodec.decode raw = .ok (writtenAt 1 .null))
    (hdecode' : textCodec.decode raw' = .ok (writtenAt 2 (.str (sha256Hex raw)))) :
    sampleLedger.verify (ledgerOfTwo raw raw') =
      .ok [textCodec.record raw, textCodec.record raw'] := by
  have hread : sampleLedger.readRecords 1 none (ledgerOfTwo raw raw').listing =
      .ok [textCodec.record raw, textCodec.record raw'] := by
    have hsecond : sampleLedger.readRecord (1 + 1) (some (textCodec.record raw).sha256)
        ⟨fileName 2, sampleFile raw'⟩ = .ok (textCodec.record raw') :=
      readRecord_writtenAt hdecode'
    rw [listing_ledgerOfTwo, EventLedger.readRecords, readRecord_writtenAt hdecode,
      Except.ok_bind, EventLedger.readRecords, hsecond]
    rfl
  refine verify_returns rfl hread rfl rfl (checkOrder_limitations fun r hr => ?_)
  rcases List.mem_pair.mp hr with rfl | rfl
  · exact ⟨_, _, hdecode⟩
  · exact ⟨_, _, hdecode'⟩

/-- The file is created and written with these bytes. -/
def written (raw : String) : AppendCall String := ⟨true, true, sampleFile raw, true⟩

lemma append_first {raw : String} (hexact : textCodec.exact (limitationAt 1 .null) = .ok raw)
    (hdecode : textCodec.decode raw = .ok (writtenAt 1 .null)) :
    sampleLedger.append sampleEmpty (limitationAt 1 .null) (written raw) =
      (.ok (textCodec.record raw), ledgerOfOne raw) := by
  have hverify := verify_ledgerOfOne hdecode
  have hprepare : sampleLedger.prepare sampleEmpty (limitationAt 1 .null) =
      .ok ([], textCodec.record raw) := by
    refine prepare_returns verify_sampleEmpty (Value.int_eq_int.mpr rfl) rfl rfl validate_first
      hexact rfl (checkOrder_limitations fun r hr => ?_)
    obtain rfl := List.mem_singleton.mp hr
    exact ⟨_, _, hdecode⟩
  generalize limitationAt 1 .null = payload at hprepare ⊢
  have happend := append_returns (written raw) hprepare rfl rfl (AList.notMem_empty _) rfl rfl
    hverify List.getLast?_singleton
  exact happend

lemma append_second {raw raw' : String}
    (hexact : textCodec.exact (limitationAt 2 (.str (sha256Hex raw))) = .ok raw')
    (hdecode : textCodec.decode raw = .ok (writtenAt 1 .null))
    (hdecode' : textCodec.decode raw' = .ok (writtenAt 2 (.str (sha256Hex raw)))) :
    sampleLedger.append (ledgerOfOne raw) (limitationAt 2 (.str (sha256Hex raw))) (written raw') =
      (.ok (textCodec.record raw'), ledgerOfTwo raw raw') := by
  have hverify := verify_ledgerOfTwo hdecode hdecode'
  have hvalid := @validate_link (sha256Hex raw) (String.ofList (List.replicate 64 '0'))
    (isHash_sha256Hex raw) (by decide +kernel)
  have hprepare : sampleLedger.prepare (ledgerOfOne raw) (limitationAt 2 (.str (sha256Hex raw))) =
      .ok ([textCodec.record raw], textCodec.record raw') := by
    refine prepare_returns (verify_ledgerOfOne hdecode) (Value.int_eq_int.mpr rfl)
      (Value.eq_str.mpr rfl) rfl hvalid hexact rfl (checkOrder_limitations fun r hr => ?_)
    rcases List.mem_pair.mp hr with rfl | rfl
    · exact ⟨_, _, hdecode⟩
    · exact ⟨_, _, hdecode'⟩
  have hfree : fileName 2 ∉ (ledgerOfOne raw).files := by
    rw [AList.mem_keys]
    have hkeys : (ledgerOfOne raw).files.keys = [fileName 1] := rfl
    rw [hkeys, List.mem_singleton]
    decide
  generalize limitationAt 2 _ = payload at hprepare ⊢
  have happend := append_returns (written raw') hprepare rfl rfl hfree rfl rfl hverify rfl
  exact happend

/-- A second event is appended to a ledger that holds the first. -/
theorem eventLedger_tamperEvident_appended : ∃ raw raw' s t,
    sampleLedger.append sampleEmpty (limitationAt 1 .null) (written raw) =
      (.ok (textCodec.record raw), s) ∧
    sampleLedger.append s (limitationAt 2 (.str (textCodec.record raw).sha256)) (written raw') =
      (.ok (textCodec.record raw'), t) ∧
    sampleLedger.verify t = .ok ([textCodec.record raw] ++ [textCodec.record raw']) := by
  obtain ⟨raw, hexact, hdecode⟩ := @exact_limitationAt 1 .null rfl rfl (by decide +kernel)
  obtain ⟨raw', hexact', hdecode'⟩ :=
    @exact_limitationAt 2 (.str (sha256Hex raw)) rfl rfl (by decide +kernel)
  have happend := append_second hexact' hdecode hdecode'
  exact ⟨raw, raw', _, _, append_first hexact hdecode, happend,
    (eventLedger_tamperEvident sampleLedger).2.1 (ledgerOfOne raw) (ledgerOfTwo raw raw')
      (limitationAt 2 (.str (sha256Hex raw))) (written raw') [textCodec.record raw]
      (textCodec.record raw') (verify_ledgerOfOne hdecode) happend⟩

end CivicGate.Rq6
