import CivicGate.Rq6.Crypto
import CivicGate.Framework.Json.FloatBounds

/-!
# Reviewer cards

`build_card` and `verify_source_link` of `rq6/crypto.py`: a card carries the hash of its source
link, the source link the hash of the card's payload, and the sidecar the hash of the final card.

The hash is a parameter, `hash text` for `sha256(data)` of the bytes the text encodes to.
-/

namespace CivicGate.Rq6.Crypto

/-! ## Dictionaries -/

/-- The dictionary after `value.pop(key, None)`. -/
def Fields.pop (fields : Fields) (key : String) : Fields := fields.filter fun e => e.1 ≠ key

/-- The dictionary after `value[key] = v`. -/
def Fields.set (fields : Fields) (key : String) (v : Evidence) : Fields :=
  if key ∈ fields.map Prod.fst then
    fields.map fun e => (e.1, if e.1 = key then v else e.2)
  else fields ++ [(key, v)]

/-- What `exact_json` raises for a number it does not print. -/
def raisedBy : Number → Raised
  | .decimal (.nonfinite _) => .rq6 "NONFINITE_NUMBER"
  | _ => .valueError

/-- `exact_json(value)`; where it raises, the first number it does not print decides what. -/
def exactText (v : Evidence) : Except Raised String :=
  match exactJson v with
  | some text => .ok text
  | none =>
    .error ((v.sort.numbers.find? fun n => n.token.isNone).elim .valueError raisedBy)

/-! ## The card -/

/-- `CARD_VERSION` -/
def cardVersion : String := "judge-repeat-reviewer-card-amendment-001-v1"

/-- `CARD_FIELDS` without the source link commitment. -/
def cardFields : List String :=
  ["schema_version", "protocol_id", "amendment_id", "package_id", "bundle_review_id",
    "reviewer_unit_id", "observation_sequence_within_bundle", "blind_alias", "user_request",
    "proposed_tool", "proposed_arguments", "frozen_neutral_reference", "stored_output",
    "mapping_commitment_sha256"]

/-- A `str`. -/
def isStr : Evidence → Bool
  | .str _ => true
  | _ => false

/-- A `dict`. -/
def isDict : Evidence → Bool
  | .dict _ => true
  | _ => false

/-- `re.fullmatch(r"SIDE_[1-9][0-9]*", text)` -/
def isBlindAlias : Evidence → Bool
  | .str s =>
    match s.toList with
    | 'S' :: 'I' :: 'D' :: 'E' :: '_' :: d :: ds => ('1' ≤ d && d ≤ '9') && ds.all Char.isDigit
    | _ => false
  | _ => false

/-- A list of nonempty texts. -/
def isFlags : Evidence → Bool
  | .list flags => flags.all isName
  | _ => false

/-- A finite number that is no boolean, between zero and one. -/
def isConfidence : Evidence → Bool
  | .num n => n.value?.any fun q => 0 ≤ q && q ≤ 1
  | _ => false

/-- What `_card` checks of a coding. -/
def checkCoding (coding : Fields) : Except Raised Unit := do
  require (isName (← coding.item "classification")) "INVALID_CLASSIFICATION"
  require (isFlags (← coding.item "flags")) "INVALID_FLAGS"

/-- `_card(payload)` -/
def checkCard (payload : Evidence) : Except Raised Unit := do
  let card ← asDict "CARD_FIELD_MISMATCH" payload
  require (card.hasKeys cardFields) "CARD_FIELD_MISMATCH"
  require (isText cardVersion (← card.item "schema_version")) "CARD_SCHEMA_VERSION_MISMATCH"
  ["protocol_id", "amendment_id", "package_id", "user_request", "proposed_tool"].forM fun field => do
    require (isStr (← card.item field)) "INVALID_CARD_TEXT"
  require (isDict (← card.item "proposed_arguments")) "INVALID_ARGUMENTS"
  require (isPosition (← card.item "observation_sequence_within_bundle")) "INVALID_POSITION"
  require (isBlindAlias (← card.item "blind_alias")) "INVALID_BLIND_ALIAS"
  ["bundle_review_id", "reviewer_unit_id", "mapping_commitment_sha256"].forM fun field => do
    digestString (← card.item field)
  let reference ← asDict "REFERENCE_FIELD_MISMATCH" (← card.item "frozen_neutral_reference")
  require (reference.hasKeys ["classification", "flags"]) "REFERENCE_FIELD_MISMATCH"
  let output ← asDict "OUTPUT_FIELD_MISMATCH" (← card.item "stored_output")
  require (output.hasKeys ["classification", "confidence", "flags", "rationale"])
    "OUTPUT_FIELD_MISMATCH"
  checkCoding reference
  checkCoding output
  require (isStr (← output.item "rationale")) "INVALID_RATIONALE"
  require (isConfidence (← output.item "confidence")) "INVALID_CONFIDENCE"
  let _ ← exactText payload

/-! ## Source links -/

/-- A digest, where there is one. -/
def checkOptional : Option Evidence → Except Raised Unit
  | none => return
  | some v => digestString v

section

variable (hash : String → String)

/-- `source_link_commitment(preimage)` -/
def sourceLinkCommitment (preimage : Evidence) : Except Raised String := do
  return hash (← frame .sourceLink preimage)

/-- The final hash, where there is one, is that of the card. -/
def checkFinal (card : Evidence) : Option Evidence → Except Raised Unit
  | none => return
  | some final => do
    let text ← exactText card
    require (isText (hash text) final) "FINAL_CARD_HASH_MISMATCH"

/-- What `verify_source_link` checks of a card, given the preimage without its final hash. -/
def checkSourceCard (value : Fields) (finalHash : Option Evidence) (expected : String)
    (card : Evidence) : Except Raised Unit := do
  let fields ← asDict "CARD_FIELD_MISMATCH" card
  let projection := fields.pop "source_link_commitment_sha256"
  require ((fields.lookup "source_link_commitment_sha256").any (isText expected))
    "CARD_SOURCE_LINK_MISMATCH"
  checkCard (.dict projection)
  let text ← exactText (.dict projection)
  require (isText (hash text) (← value.item "payload_sha256")) "CARD_PAYLOAD_MISMATCH"
  checkFinal hash card finalHash

/-- `verify_source_link(preimage, expected, card=card, used_nonces=used)` -/
def verifySourceLink (preimage : Evidence) (expected : String) (card : Option Evidence)
    (used : List String) : Except Raised Unit := do
  digestString (.str expected)
  let fields ← asDict "COMMITMENT_FIELD_MISMATCH" preimage
  let finalHash := fields.lookup "final_card_sha256"
  let value := fields.pop "final_card_sha256"
  require ((← sourceLinkCommitment hash (.dict value)) = expected) "SOURCE_LINK_MISMATCH"
  used.forM fun nonce => digestString (.str nonce)
  let nonce ← value.item "independent_unit_nonce"
  require (used.all fun previous => !isText previous nonce) "REUSED_SECRET_MATERIAL"
  checkOptional finalHash
  match card with
  | none => return
  | some card => checkSourceCard hash value finalHash expected card

/-- `SOURCE_LINK_FIELDS` without the payload hash. -/
def unhashedFields : List String := Operation.sourceLink.fields.filter (· ≠ "payload_sha256")

/-- The fields that a card and its preimage share. -/
def sharedFields : List String :=
  ["protocol_id", "amendment_id", "package_id", "bundle_review_id", "reviewer_unit_id",
    "mapping_commitment_sha256"]

/-- `build_card(card_payload, source_preimage)`: the card and its sidecar. -/
def buildCard (cardPayload sourcePreimage : Evidence) : Except Raised (Evidence × Evidence) := do
  let fields ← asDict "CARD_FIELD_MISMATCH" cardPayload
  let preimage ← asDict "CARD_FIELD_MISMATCH" sourcePreimage
  let existing := fields.lookup "source_link_commitment_sha256"
  let payload := fields.pop "source_link_commitment_sha256"
  checkOptional existing
  checkCard (.dict payload)
  require (preimage.hasKeys Operation.sourceLink.fields || preimage.hasKeys unhashedFields)
    "COMMITMENT_FIELD_MISMATCH"
  let payloadHash := hash (← exactText (.dict payload))
  require ((preimage.lookup "payload_sha256").all (isText payloadHash)) "CARD_PAYLOAD_MISMATCH"
  let preimage := preimage.set "payload_sha256" (.str payloadHash)
  sharedFields.forM fun field => do
    require (Evidence.eq (← preimage.item field) (← payload.item field))
      "CARD_SOURCE_BINDING_MISMATCH"
  let commitment ← sourceLinkCommitment hash (.dict preimage)
  require (existing.all (isText commitment)) "CARD_SOURCE_LINK_MISMATCH"
  let card := payload.set "source_link_commitment_sha256" (.str commitment)
  let finalHash := hash (← exactText (.dict card))
  return (.dict card, .dict (preimage.set "final_card_sha256" (.str finalHash)))

end

/-! ## Dictionaries that change -/

section

variable {fields : Fields} {key k : String} {v : Evidence}

lemma lookup_pop_self : (fields.pop key).lookup key = none := by
  refine lookup_eq_none fun hmem => ?_
  obtain ⟨e, he, heq⟩ := List.mem_map.mp hmem
  exact of_decide_eq_true (List.mem_filter.mp he).2 heq

lemma lookup_pop_of_ne (h : k ≠ key) : (fields.pop key).lookup k = fields.lookup k :=
  lookup_filter_of_ne h

lemma pop_of_notMem (h : key ∉ fields.map Prod.fst) : fields.pop key = fields := by
  refine List.filter_eq_self.mpr fun e he => decide_eq_true ?_
  rintro rfl
  exact h (List.mem_map_of_mem he)

lemma notMem_pop : key ∉ (fields.pop key).map Prod.fst := by
  rw [← lookup_isSome, lookup_pop_self]
  exact Bool.false_ne_true

lemma set_of_notMem (h : key ∉ fields.map Prod.fst) : fields.set key v = fields ++ [(key, v)] :=
  if_neg h

/-- An entry that is added can be taken away again. -/
lemma pop_set_of_notMem (h : key ∉ fields.map Prod.fst) : (fields.set key v).pop key = fields := by
  rw [set_of_notMem h, Fields.pop, List.filter_append, ← Fields.pop, pop_of_notMem h]
  simp

lemma lookup_set_self : (fields.set key v).lookup key = some v := by
  unfold Fields.set
  split_ifs with hmem
  · induction fields with
    | nil => cases hmem
    | cons e fields ih =>
        obtain ⟨l, w⟩ := e
        rw [List.map_cons]
        by_cases hl : key = l
        · subst hl
          rw [if_pos rfl, List.lookup_cons_self]
        · rw [lookup_cons_of_ne hl]
          exact ih ((List.mem_cons.mp hmem).resolve_left hl)
  · rw [List.lookup_append, lookup_eq_none hmem, Option.none_or, List.lookup_cons_self]

lemma lookup_set_of_ne (h : k ≠ key) : (fields.set key v).lookup k = fields.lookup k := by
  unfold Fields.set
  split_ifs with hmem
  · clear hmem
    induction fields with
    | nil => rfl
    | cons e fields ih =>
        obtain ⟨l, w⟩ := e
        rw [List.map_cons]
        by_cases hl : k = l
        · subst hl
          rw [List.lookup_cons_self, List.lookup_cons_self, if_neg h]
        · rw [lookup_cons_of_ne hl, lookup_cons_of_ne hl, ih]
  · rw [List.lookup_append, lookup_cons_of_ne h]
    exact Option.or_none

lemma mem_pop {e : String × Evidence} : e ∈ fields.pop key ↔ e ∈ fields ∧ e.1 ≠ key := by
  rw [Fields.pop, List.mem_filter, decide_eq_true_eq]

lemma keysOk_pop (key : String) (h : (Tree.dict fields).keysOk distinct = true) :
    (Tree.dict (fields.pop key)).keysOk distinct = true := by
  obtain ⟨hnodup, hall⟩ := Bool.and_eq_true_iff.mp h
  refine Bool.and_eq_true_iff.mpr ⟨distinct_iff.mpr ?_, Tree.keysOkEntries_iff.mpr fun e he => ?_⟩
  · exact (distinct_iff.mp hnodup).sublist (List.filter_sublist.map _)
  · exact Tree.keysOkEntries_iff.mp hall e (mem_pop.mp he).1

/-- What a dictionary holds after an entry is set. -/
lemma mem_set {e : String × Evidence} (he : e ∈ fields.set key v) :
    e = (key, v) ∨ e ∈ fields ∧ e.1 ≠ key := by
  unfold Fields.set at he
  split_ifs at he with hmem
  · obtain ⟨e', he', rfl⟩ := List.mem_map.mp he
    by_cases hkey : e'.1 = key
    · rw [if_pos hkey, hkey]
      exact Or.inl rfl
    · rw [if_neg hkey]
      exact Or.inr ⟨he', hkey⟩
  · rcases List.mem_append.mp he with he | he
    · exact Or.inr ⟨he, fun heq => hmem (List.mem_map.mpr ⟨e, he, heq⟩)⟩
    · exact Or.inl (List.mem_singleton.mp he)

lemma keysOk_set (h : (Tree.dict fields).keysOk distinct = true)
    (hv : v.keysOk distinct = true) : (Tree.dict (fields.set key v)).keysOk distinct = true := by
  obtain ⟨hnodup, hall⟩ := Bool.and_eq_true_iff.mp h
  refine Bool.and_eq_true_iff.mpr ⟨distinct_iff.mpr ?_, Tree.keysOkEntries_iff.mpr fun e he => ?_⟩
  · unfold Fields.set
    split_ifs with hmem
    · rw [List.map_map]
      exact distinct_iff.mp hnodup
    · rw [List.map_append, List.map_singleton]
      exact (distinct_iff.mp hnodup).append (List.nodup_singleton _)
        (List.disjoint_singleton.mpr hmem)
  · rcases mem_set he with rfl | ⟨he, -⟩
    · exact hv
    · exact Tree.keysOkEntries_iff.mp hall e he

end

end CivicGate.Rq6.Crypto
