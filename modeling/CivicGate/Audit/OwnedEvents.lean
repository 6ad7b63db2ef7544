import CivicGate.Audit.History.Limits
import CivicGate.Audit.PostgresJournal

/-!
# Events as an owner writes them

An event `_event` makes is read back with the header of its owner and the action its fields
hold (`readEntry_event`), and fits in a row when its fields do (`recordable_event`).
-/

namespace CivicGate

variable {d : Domain} {j : PostgresJournal} {kind : EventKind} {epoch : ℕ} {time : PyFloat}
  {fields : List (String × Json)}

/-- The entries of an event. -/
def PostgresJournal.entries (j : PostgresJournal) (d : Domain) (kind : EventKind) (epoch : ℕ)
    (time : PyFloat) (fields : List (String × Json)) : List (String × Json) :=
  [("kind", .str kind.text), ("domain_key", .str d.key), ("epoch", .int epoch),
    ("owner_id", .str j.ownerId), ("instance", .str j.instanceId),
    ("source_revision", .str j.revision), ("source_sha256", .str j.sourceSha),
    ("time", .float time)] ++ fields

lemma keys_entries (h : (fields.map Prod.fst).Perm kind.fields) :
    ((j.entries d kind epoch time fields).map Prod.fst).Perm (commonFields ++ kind.fields) := by
  rw [PostgresJournal.entries, List.map_append]
  exact h.append_left commonFields

lemma nodup_fields (kind : EventKind) : (commonFields ++ kind.fields).Nodup := by
  cases kind <;> decide

lemma nodup_entries (h : (fields.map Prod.fst).Perm kind.fields) :
    ((j.entries d kind epoch time fields).map Prod.fst).Nodup :=
  (keys_entries h).nodup_iff.mpr (nodup_fields kind)

lemma get?_event (h : (fields.map Prod.fst).Perm kind.fields) (key : String) :
    (j.event d kind epoch time fields).get? key =
      ((j.entries d kind epoch time fields).lookup key).map Json.normalize :=
  Json.get?_normalize (nodup_entries h) key

/-- A field of an event, where it is none of the common ones. -/
lemma get?_event_field (h : (fields.map Prod.fst).Perm kind.fields) {key : String}
    (hkey : key ∉ commonFields) :
    (j.event d kind epoch time fields).get? key = (fields.lookup key).map Json.normalize := by
  have hnone : [("kind", Json.str kind.text), ("domain_key", .str d.key), ("epoch", .int epoch),
      ("owner_id", .str j.ownerId), ("instance", .str j.instanceId),
      ("source_revision", .str j.revision), ("source_sha256", .str j.sourceSha),
      ("time", .float time)].lookup key = none := by
    refine List.lookup_eq_none_iff.mpr fun e he => ?_
    have hne : key ≠ e.1 := fun heq => hkey (heq ▸ List.mem_map_of_mem (f := Prod.fst) he)
    simpa using hne
  rw [get?_event h, PostgresJournal.entries, List.lookup_append, hnone, Option.none_or]

/-- An owner's header is read back. -/
lemma headerRead_event (h : (fields.map Prod.fst).Perm kind.fields) (hepoch : 1 ≤ epoch)
    (howner : isText j.ownerId 128 = true) (hinstance : isText j.instanceId 256 = true) :
    Header.read (j.identity d) (j.event d kind epoch time fields) =
      some ⟨epoch, j.ownerId, j.instanceId, .float time⟩ := by
  have hlookup (key : String) : (j.event d kind epoch time fields).get? key =
      ((j.entries d kind epoch time fields).lookup key).map Json.normalize := get?_event h key
  have hfloat : (PyNum.float time).toFloat ≠ none := by simp [PyNum.toFloat]
  simp only [Header.read, Json.getStr?, Json.getNat?, Json.getNum?, hlookup,
    PostgresJournal.entries, List.cons_append, List.lookup_cons]
  simp [PostgresJournal.identity, hepoch, howner, hinstance, hfloat]

lemma readEntry_eventJson (h : (fields.map Prod.fst).Perm kind.fields) (hepoch : 1 ≤ epoch)
    (howner : isText j.ownerId 128 = true) (hinstance : isText j.instanceId 256 = true)
    (hkind : kind ≠ .provision) :
    readEntry (j.identity d) false (j.event d kind epoch time fields) =
      (Action.read kind (j.event d kind epoch time fields)).map
        (.event ⟨epoch, j.ownerId, j.instanceId, .float time⟩) := by
  have hread : (j.event d kind epoch time fields).getEnum? "kind" EventKind.events
      EventKind.text = some kind := by
    simp only [Json.getEnum?, get?_event h, PostgresJournal.entries, List.cons_append,
      List.lookup_cons]
    cases kind <;> first | exact absurd rfl hkind | rfl
  have hfields : (j.event d kind epoch time fields).hasFields (commonFields ++ kind.fields) =
      true := Json.hasFields_normalize (nodup_entries h) (keys_entries h)
  simp only [readEntry, Bool.false_eq_true, if_false, hread, hfields, require_true,
    headerRead_event h hepoch howner hinstance, Option.bind_eq_bind, Option.bind_some,
    Option.pure_def]
  cases Action.read kind (j.event d kind epoch time fields) <;> rfl

/-! ## Size -/

lemma strBound_of_plain {s : String} (h : ∀ c ∈ s.toList, isPlain c = true) :
    strBound s = s.length + 2 := by
  rw [strBound, if_pos (List.all_eq_true.mpr h)]

lemma strBound_of_isHex {s : String} {n : ℕ} (h : isHex s n = true) : strBound s = n + 2 := by
  simp only [isHex, Bool.and_eq_true, decide_eq_true_eq, List.all_eq_true] at h
  have hplain : ∀ c ∈ "0123456789abcdef".toList, isPlain c = true :=
    List.all_eq_true.mp (by decide)
  rw [strBound_of_plain fun c hc => hplain c (h.2 c hc), h.1]

lemma strBound_of_isCode {s : String} (h : isCode s = true) : strBound s ≤ 130 := by
  simp only [isCode, isText, Bool.and_eq_true, decide_eq_true_eq, List.all_eq_true] at h
  have hplain : ∀ c ∈ codeChars, isPlain c = true :=
    List.all_eq_true.mp (by decide)
  rw [strBound_of_plain fun c hc => hplain c (h.2 c hc)]
  omega

lemma strBound_of_isText {s : String} {n : ℕ} (h : isText s n = true) : strBound s ≤ 12 * n + 2 := by
  simp only [isText, Bool.and_eq_true, decide_eq_true_eq] at h
  have := strBound_le s
  omega

end CivicGate
