import CivicGate.Framework.Json.Same
import CivicGate.Rq6.Canonical
import Mathlib.Data.List.Lex
import Mathlib.Data.List.Sort

/-!
# Commitments

`rq6/crypto.py`: the checks a commitment payload passes, the framed text that is hashed or keyed,
and the assignment of blind aliases to the source slots of a bundle.

The keyed digest is a parameter, `hmac key message`; bytes are numbers, compared as Python compares
`bytes`.
-/

namespace CivicGate.Rq6.Crypto

/-! ## Bytes -/

/-- `bytes` -/
abbrev Bytes := List ℕ

/-- `bytes.fromhex(text)` -/
def fromHex : List Char → Bytes
  | a :: b :: rest => (16 * (hexValue a).getD 0 + (hexValue b).getD 0) :: fromHex rest
  | _ => []

/-- `value.hex()` -/
def toHex (bytes : Bytes) : String :=
  String.ofList (bytes.flatMap fun n => [hexDigit (n / 16), hexDigit (n % 16)])

/-- A lowercase hexadecimal digit. -/
def isHexChar (c : Char) : Bool := ('0' ≤ c && c ≤ '9') || ('a' ≤ c && c ≤ 'f')

/-- `_HEX.fullmatch(text)` -/
def isDigest (s : String) : Bool := s.toList.length = 64 && s.toList.all isHexChar

/-- `_digest_string(value)` -/
def digestString : Evidence → Except Raised Unit
  | .str s => require (isDigest s) "INVALID_HEX_DIGEST"
  | _ => .error (.rq6 "INVALID_HEX_DIGEST")

/-- A seed as it is given: a text, or bytes. -/
inductive Seed
  | text (value : Evidence)
  | bytes (value : Bytes)

/-- `_seed(value)` -/
def Seed.key : Seed → Except Raised Bytes
  | .text (.str s) => do
    digestString (.str s)
    return fromHex s.toList
  | .text _ => .error (.rq6 "INVALID_SEED")
  | .bytes value => do
    require (value.length = 32) "INVALID_SEED"
    return value

/-! ## Validation -/

/-- The operations commitments are declared for. -/
inductive Operation
  | mapping
  | aliasAssignment
  | opaqueBundleId
  | opaqueUnitId
  | sourceLink
  deriving DecidableEq

/-- `ENCODING_VERSION` -/
def encodingVersion : String := "civicgate-rq6-canonical-json-v1"

/-- `ALGORITHM_VERSION` -/
def algorithmVersion : String := "civicgate-rq6-bundle-alias-v1"

/-- `_COMMON` -/
def commonFields : List String :=
  ["canonical_encoding_version", "protocol_id", "amendment_id", "package_id"]

/-- `BUNDLE_ID_FIELDS` -/
def bundleIdFields : List String :=
  commonFields ++ ["frozen_manifest_sha256", "private_manifest_position"]

/-- `DOMAINS[operation]` -/
def Operation.domain : Operation → String
  | .mapping => "civicgate/rq6/amendment-001/mapping/v1"
  | .aliasAssignment => "civicgate/rq6/amendment-001/alias-assignment/v1"
  | .opaqueBundleId => "civicgate/rq6/amendment-001/bundle-id/v1"
  | .opaqueUnitId => "civicgate/rq6/amendment-001/unit-id/v1"
  | .sourceLink => "civicgate/rq6/amendment-001/source-link/v1"

/-- `_FIELD_SETS[operation]` -/
def Operation.fields : Operation → List String
  | .mapping => commonFields ++ ["algorithm_version", "frozen_manifest_sha256",
      "private_manifest_position", "source_artifact_sha256", "exact_source_slot_selectors",
      "complete_required_repeat_selectors", "bundle_review_id", "bundle_seed", "commitment_nonce",
      "aliases", "source_identity_bindings", "reviewer_access_policy_sha256"]
  | .aliasAssignment => commonFields ++ ["algorithm_version", "frozen_manifest_sha256",
      "private_manifest_position", "source_slot_selector"]
  | .opaqueBundleId => bundleIdFields
  | .opaqueUnitId => commonFields ++ ["bundle_review_id", "exact_source_slot_selector",
      "repeat_number"]
  | .sourceLink => commonFields ++ ["bundle_review_id", "reviewer_unit_id",
      "source_artifact_sha256", "raw_output_slice_sha256", "exact_selector", "context_sha256",
      "neutral_reference_sha256", "payload_sha256", "mapping_commitment_sha256",
      "independent_unit_nonce"]

/-- The selector is a nonempty text or a nonempty dictionary. -/
def isSelector : Evidence → Bool
  | .str s => s ≠ ""
  | .dict fields => fields ≠ []
  | _ => false

/-- `_selector(value)` -/
def selector (v : Evidence) : Except Raised Unit := do
  require (isSelector v) "INVALID_SOURCE_SELECTOR"
  let _ ← canonicalJson v

/-- `_selectors(value)` -/
def selectors (v : Evidence) : Except Raised (List Evidence) := do
  let items ← asList "INVALID_SELECTOR_LIST" v
  require (items ≠ []) "INVALID_SELECTOR_LIST"
  items.forM selector
  let encoded ← items.mapM canonicalJson
  require encoded.Nodup "DUPLICATE_SOURCE_SELECTOR"
  return items

/-- The field holds a digest. -/
def isDigestField (field : String) : Bool :=
  "_sha256".toList.isSuffixOf field.toList ||
    field ∈ ["bundle_review_id", "reviewer_unit_id", "bundle_seed", "commitment_nonce",
      "independent_unit_nonce"]

/-- The checks `_validate` makes of each field by its name. -/
def validateField (field : String) (v : Evidence) : Except Raised Unit := do
  onlyIf (isDigestField field) (digestString v)
  onlyIf (field ∈ ["private_manifest_position", "repeat_number"])
    (require (isPosition v) "INVALID_POSITION")
  onlyIf (field ∈ ["source_slot_selector", "exact_source_slot_selector", "exact_selector"])
    (selector v)

/-- The alias of the slot that comes out at place `i`, counted from zero. -/
def sideName (i : ℕ) : String := "SIDE_" ++ String.ofList (Nat.toDigits 10 (i + 1))

/-- Every value is a nonempty text. -/
def allNames (fields : Fields) : Bool := fields.all fun e => isName e.2

/-- What `_validate` checks of a mapping's aliases. -/
def validateAliases (slots : List Evidence) (aliases bindings : Evidence) :
    Except Raised Unit := do
  let sides ← asDict "INVALID_ALIAS_COVERAGE" aliases
  require (sides.hasKeys ((List.range slots.length).map sideName)) "INVALID_ALIAS_COVERAGE"
  let sources ← sides.mapM fun e => canonicalJson e.2
  let targets ← slots.mapM canonicalJson
  require (sources.all (· ∈ targets) && targets.all (· ∈ sources)) "ALIAS_SOURCE_MISMATCH"
  let identities ← asDict "INVALID_IDENTITY_BINDINGS" bindings
  require (identities.hasKeys (sides.map Prod.fst) && allNames identities)
    "INVALID_IDENTITY_BINDINGS"

/-- The checks `_validate` makes of a mapping alone. -/
def validateMapping (fields : Fields) : Except Raised Unit := do
  let slots ← selectors (← fields.item "exact_source_slot_selectors")
  let _ ← selectors (← fields.item "complete_required_repeat_selectors")
  validateAliases slots (← fields.item "aliases") (← fields.item "source_identity_bindings")

/-- `_validate(operation, payload)`, with the entries of the payload -/
def validate (operation : Operation) (payload : Evidence) : Except Raised Fields := do
  let fields ← asDict "COMMITMENT_FIELD_MISMATCH" payload
  require (fields.hasKeys operation.fields) "COMMITMENT_FIELD_MISMATCH"
  let _ ← canonicalJson payload
  require (isText encodingVersion (← fields.item "canonical_encoding_version"))
    "CANONICAL_ENCODING_VERSION_MISMATCH"
  ["protocol_id", "amendment_id", "package_id"].forM fun field => do
    require (isName (← fields.item field)) "INVALID_IDENTIFIER"
  require ((fields.lookup "algorithm_version").all (isText algorithmVersion))
    "ALGORITHM_VERSION_MISMATCH"
  fields.forM fun e => validateField e.1 e.2
  onlyIf (operation = .mapping) (validateMapping fields)
  return fields

/-- `frame(domain, payload)` -/
def frame (operation : Operation) (payload : Evidence) : Except Raised String := do
  let _ ← validate operation payload
  return operation.domain ++ "\x00" ++ (← canonicalJson payload)

/-! ## Aliases -/

section

variable (hmac : Bytes → String → Bytes)

/-- `_hmac(seed, operation, metadata)`, a digest of 32 bytes -/
def keyed (key : Bytes) (operation : Operation) (payload : Evidence) : Except Raised Bytes := do
  let digest := hmac key (← frame operation payload)
  require (digest.length = 32) "INVALID_HMAC_RESULT"
  return digest

/-- A selector with its encoding and its keyed digest. -/
structure Row where
  encoded : String
  digest : Bytes
  selector : Evidence

/-- The entries of an assignment preimage but its selector. -/
def bundleMetadata (fields : Fields) : Evidence :=
  .dict (fields.filter fun e => e.1 ≠ "source_slot_selector")

/-- The row of an assignment preimage. -/
def row (key : Bytes) (fields : Fields) (preimage : Evidence) : Except Raised Row := do
  let source ← fields.item "source_slot_selector"
  let encoded ← canonicalJson source
  let digest ← keyed hmac key .aliasAssignment preimage
  return ⟨encoded, digest, source⟩

/-- The loop of `ordered_aliases`, with the `bundle_metadata` of the preimages before. -/
def rows (key : Bytes) : Option String → List Evidence → Except Raised (List Row)
  | _, [] => return []
  | before, preimage :: rest => do
    let fields ← validate .aliasAssignment preimage
    let current ← canonicalJson (bundleMetadata fields)
    require (before.all (· = current)) "MIXED_BUNDLE_ASSIGNMENTS"
    let first ← row hmac key fields preimage
    return first :: (← rows key (some current) rest)

/-- `sorted(rows, key=lambda row: row[0])` -/
def sortRows (rows : List Row) : List Row := rows.insertionSort fun r r' => r.digest ≤ r'.digest

/-- The dictionary of the aliases. -/
def nameSides (sources : List Evidence) : Fields :=
  sources.zipIdx.map fun p => (sideName p.2, p.1)

/-- `ordered_aliases(seed, assignment_preimages)` -/
def orderedAliases (seed : Seed) (preimages : List Evidence) : Except Raised Fields := do
  require (preimages.length ≠ 0) "EMPTY_SOURCE_SLOTS"
  let key ← seed.key
  let rows ← rows hmac key none preimages
  require ((rows.map Row.encoded).Nodup) "DUPLICATE_SOURCE_SELECTOR"
  require ((rows.map Row.digest).Nodup) "ALIAS_DIGEST_TIE"
  return nameSides ((sortRows rows).map Row.selector)

/-! ## Mappings -/

/-- `_opaque(seed, metadata, operation, existing_ids)` -/
def opaqueId (seed : Seed) (payload : Evidence) (operation : Operation)
    (existing : List String) : Except Raised String := do
  let _ ← validate operation payload
  let digest ← keyed hmac (← seed.key) operation payload
  existing.forM fun prior => digestString (.str prior)
  require (toHex digest ∉ existing) "OPAQUE_ID_COLLISION"
  return toHex digest

/-- The secrets of a mapping are neither used before nor the same. -/
def checkSecrets (fields : Fields) (used : List String) : Except Raised Unit := do
  used.forM fun previous => digestString (.str previous)
  let seed ← fields.item "bundle_seed"
  let nonce ← fields.item "commitment_nonce"
  require (used.all (fun previous => !isText previous seed && !isText previous nonce) &&
    !Evidence.eq seed nonce) "REUSED_SECRET_MATERIAL"

/-- `{key: mapping[key] for key in keys}` -/
def project (fields : Fields) (keys : List String) : Except Raised Fields :=
  keys.mapM fun key => (fields.item key).map (key, ·)

/-- The bundle id of a mapping is the one its seed derives. -/
def checkBundleId (fields : Fields) (existing : List String) : Except Raised Unit := do
  let base ← project fields bundleIdFields
  let derived ← opaqueId hmac (.text (← fields.item "bundle_seed")) (.dict base) .opaqueBundleId
    existing
  require (isText derived (← fields.item "bundle_review_id")) "BUNDLE_ID_DERIVATION_MISMATCH"

/-- The assignment preimages of a mapping. -/
def assignments (fields : Fields) : Except Raised (List Evidence) := do
  let base ← project fields bundleIdFields
  let version ← fields.item "algorithm_version"
  let slots ← asList "INVALID_SELECTOR_LIST" (← fields.item "exact_source_slot_selectors")
  return slots.map fun source =>
    .dict (base ++ [("algorithm_version", version), ("source_slot_selector", source)])

/-- The aliases the seed of a mapping derives. -/
def derivedAliases (fields : Fields) : Except Raised Fields := do
  orderedAliases hmac (.text (← fields.item "bundle_seed")) (← assignments fields)

/-- `verify_mapping_assignment(mapping, ...)`; `used` are the seeds and the nonces used before. -/
def verifyMappingAssignment (mapping : Evidence) (used existing : List String) :
    Except Raised Unit := do
  let fields ← validate .mapping mapping
  checkSecrets fields used
  checkBundleId hmac fields existing
  let derived ← derivedAliases hmac fields
  require (Evidence.eq (.dict derived) (← fields.item "aliases")) "ALIAS_DERIVATION_MISMATCH"

end

/-! ## What the checks ensure -/

lemma hasKeys_iff {fields : Fields} {keys : List String} :
    fields.hasKeys keys = true ↔ ∀ k, k ∈ fields.map Prod.fst ↔ k ∈ keys := by
  simp only [Fields.hasKeys, Bool.and_eq_true, List.all_eq_true, decide_eq_true_eq]
  exact ⟨fun h k => ⟨h.1 k, h.2 k⟩, fun h => ⟨fun k => (h k).mp, fun k => (h k).mpr⟩⟩

lemma lookup_filter_of_ne {fields : Fields} {k l : String} (h : k ≠ l) :
    List.lookup k (fields.filter fun e => e.1 ≠ l) = fields.lookup k := by
  induction fields with
  | nil => rfl
  | cons e fields ih =>
      obtain ⟨m, v⟩ := e
      by_cases hm : m = l
      · subst hm
        rw [List.filter_cons_of_neg (by simp), lookup_cons_of_ne h, ih]
      · rw [List.filter_cons_of_pos (by simpa using hm)]
        by_cases hk : k = m
        · subst hk
          rw [List.lookup_cons_self, List.lookup_cons_self]
        · rw [lookup_cons_of_ne hk, lookup_cons_of_ne hk, ih]

/-- What an encoded dictionary holds is encoded. -/
lemma exists_canonicalJson_of_lookup {fields : Fields} {k : String} {v : Evidence}
    (hkeys : (Tree.dict fields).keysOk distinct = true)
    (h : ∃ text, canonicalJson (.dict fields) = .ok text) (hk : fields.lookup k = some v) :
    ∃ text, canonicalJson v = .ok text := by
  refine (exists_canonicalJson (keysOk_of_lookup hkeys hk)).mpr fun n hn => ?_
  exact (exists_canonicalJson hkeys).mp h n
    (Tree.mem_numbersEntries.mpr ⟨(k, v), mem_of_lookup hk, hn⟩)

lemma digestString_of_validateField {field : String} {v : Evidence}
    (hfield : isDigestField field = true) (h : validateField field v = .ok ()) :
    digestString v = .ok () := by
  obtain ⟨_, hdigest, -⟩ := Except.bind_eq_ok.mp h
  exact onlyIf_eq_ok.mp hdigest hfield

/-- What `_validate` accepts. -/
structure IsValid (operation : Operation) (fields : Fields) : Prop where
  keys : fields.hasKeys operation.fields = true
  encoded : ∃ text, canonicalJson (.dict fields) = .ok text
  version : ∃ v, fields.lookup "canonical_encoding_version" = some v ∧
    isText encodingVersion v = true
  identifiers : ∀ field ∈ ["protocol_id", "amendment_id", "package_id"],
    ∃ v, fields.lookup field = some v ∧ isName v = true
  algorithm : (fields.lookup "algorithm_version").all (isText algorithmVersion) = true
  each : ∀ e ∈ fields, validateField e.1 e.2 = .ok ()
  mapping : operation = .mapping → validateMapping fields = .ok ()

lemma validate_eq_ok {operation : Operation} {payload : Evidence} {fields : Fields} :
    validate operation payload = .ok fields ↔
      payload = .dict fields ∧ IsValid operation fields := by
  constructor
  · intro h
    unfold validate at h
    obtain ⟨fields', hdict, h⟩ := Except.bind_eq_ok.mp h
    obtain rfl := asDict_eq_ok.mp hdict
    obtain ⟨_, hkeys, h⟩ := Except.bind_eq_ok.mp h
    obtain ⟨text, htext, h⟩ := Except.bind_eq_ok.mp h
    obtain ⟨version, hversion, h⟩ := Except.bind_eq_ok.mp h
    obtain ⟨_, htextVersion, h⟩ := Except.bind_eq_ok.mp h
    obtain ⟨_, hidentifiers, h⟩ := Except.bind_eq_ok.mp h
    obtain ⟨_, halgorithm, h⟩ := Except.bind_eq_ok.mp h
    obtain ⟨_, heach, h⟩ := Except.bind_eq_ok.mp h
    obtain ⟨_, hmap, h⟩ := Except.bind_eq_ok.mp h
    obtain rfl := Except.pure_eq_ok.mp h
    refine ⟨rfl, ensure_eq_ok.mp hkeys, ⟨text, htext⟩,
      ⟨version, Fields.item_eq_ok.mp hversion, ensure_eq_ok.mp htextVersion⟩,
      fun field hfield => ?_, ensure_eq_ok.mp halgorithm, Except.forM_eq_ok.mp heach,
      fun hop => onlyIf_eq_ok.mp hmap (decide_eq_true hop)⟩
    obtain ⟨v, hv, hname⟩ := Except.bind_eq_ok.mp (Except.forM_eq_ok.mp hidentifiers field hfield)
    exact ⟨v, Fields.item_eq_ok.mp hv, ensure_eq_ok.mp hname⟩
  · rintro ⟨rfl, h⟩
    obtain ⟨text, htext⟩ := h.encoded
    obtain ⟨version, hversion, htextVersion⟩ := h.version
    unfold validate
    refine Except.bind_eq_ok.mpr ⟨fields, rfl, Except.bind_eq_ok.mpr ⟨(), ensure_eq_ok.mpr h.keys,
      Except.bind_eq_ok.mpr ⟨text, htext, Except.bind_eq_ok.mpr ⟨version,
        Fields.item_eq_ok.mpr hversion, Except.bind_eq_ok.mpr ⟨(),
          ensure_eq_ok.mpr htextVersion, Except.bind_eq_ok.mpr ⟨(), ?_, Except.bind_eq_ok.mpr ⟨(),
            ensure_eq_ok.mpr h.algorithm, Except.bind_eq_ok.mpr ⟨(),
              Except.forM_eq_ok.mpr h.each, Except.bind_eq_ok.mpr ⟨(), ?_, rfl⟩⟩⟩⟩⟩⟩⟩⟩⟩
    · refine Except.forM_eq_ok.mpr fun field hfield => ?_
      obtain ⟨v, hv, hname⟩ := h.identifiers field hfield
      exact Except.bind_eq_ok.mpr ⟨v, Fields.item_eq_ok.mpr hv, ensure_eq_ok.mpr hname⟩
    · exact onlyIf_eq_ok.mpr fun hop => h.mapping (of_decide_eq_true hop)

lemma frame_eq_ok {operation : Operation} {payload : Evidence} {text : String} :
    frame operation payload = .ok text ↔ ∃ fields encoded,
      validate operation payload = .ok fields ∧ canonicalJson payload = .ok encoded ∧
        operation.domain ++ "\x00" ++ encoded = text := by
  simp only [frame, Except.bind_eq_ok, Except.pure_eq_ok]
  constructor
  · rintro ⟨fields, hfields, encoded, hencoded, htext⟩
    exact ⟨fields, encoded, hfields, hencoded, htext⟩
  · rintro ⟨fields, encoded, hfields, hencoded, htext⟩
    exact ⟨fields, hfields, encoded, hencoded, htext⟩

lemma keyed_eq_ok {hmac : Bytes → String → Bytes} {key : Bytes} {operation : Operation}
    {payload : Evidence} {digest : Bytes} : keyed hmac key operation payload = .ok digest ↔
      ∃ text, frame operation payload = .ok text ∧ hmac key text = digest ∧
        digest.length = 32 := by
  simp only [keyed, Except.bind_eq_ok, Except.pure_eq_ok, ensure_eq_ok, decide_eq_true_eq]
  constructor
  · rintro ⟨text, htext, _, hlength, rfl⟩
    exact ⟨text, htext, rfl, hlength⟩
  · rintro ⟨text, htext, rfl, hlength⟩
    exact ⟨text, htext, (), hlength, rfl⟩

end CivicGate.Rq6.Crypto
