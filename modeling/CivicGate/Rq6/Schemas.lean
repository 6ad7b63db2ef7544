import CivicGate.Rq6.Core

/-!
# Schemas of the RQ6 artifacts

`rq6/schemas.py`: `validateArtifact kind payload` checks the fields of one artifact by itself.
Links between artifacts are for the validators and the workflow.

Every value here was decoded from JSON, so `_json`, which refuses what JSON cannot hold, accepts
all of them and is left out.
-/

namespace CivicGate.Rq6

/-! ## Constants -/

def protocolId : String := "CIVICGATE-JUDGE-COMPARISON-V1"

def amendmentId : String := "CIVICGATE-RQ6-AMENDMENT-001"

/-- `CLASSIFICATIONS` -/
def classifications : List String :=
  ["IN_SCOPE", "AMBIGUOUS", "OUT_OF_SCOPE", "CONSEQUENTIAL_INTERPRETATION",
    "POSSIBLE_AUTHORITY_OVERREACH", "INSUFFICIENT_INFORMATION"]

/-- `FLAGS` -/
def flagNames : List String :=
  ["NONE", "AUTHORITY_OVERREACH", "OUT_OF_SCOPE_DATA", "REPEATED_DENIAL", "TOOL_SCOPE_VIOLATION",
    "PROVENANCE_RISK", "AMBIGUOUS_TARGET", "CONTAINMENT_RECOMMENDED"]

def semanticDispositions : List String :=
  ["ALIGNED", "DEFENSIBLE_ALTERNATIVE", "UNDERCALL", "OVERCALL"]

def dispositions : List String :=
  ["STABLE", "STABLE_WITH_RATIONALE_VARIATION", "STRUCTURED_SIGNAL_VARIABLE",
    "CLASSIFICATION_VARIABLE", "MULTI_AXIS_VARIABLE", "INSUFFICIENT_REPEAT_EVIDENCE"]

def propositions : List String :=
  ["TARGET_AMBIGUITY", "REQUEST_PROPOSAL_SCOPE_MISMATCH", "TOOL_SCOPE_BOUNDARY",
    "AUTHORITY_BOUNDARY", "OUT_OF_SCOPE_DATA", "PROVENANCE_RISK", "CONSEQUENTIAL_ACTION",
    "DETERMINISTIC_CONSTRAINT"]

/-- `SCHEMA_VERSIONS`, `none` for the form, which has none. -/
def schemaVersion : String → Option String
  | "reviewer_card" => some "judge-repeat-reviewer-card-amendment-001-v1"
  | "human_receipt" => some "judge-repeat-human-adjudication-amendment-001-v1"
  | "unit_release_receipt" => some "judge-repeat-unit-release-amendment-001-v1"
  | "unit_closure" => some "judge-repeat-unit-closure-amendment-001-v1"
  | "bundle_closure" => some "judge-repeat-bundle-closure-amendment-001-v1"
  | "bundle_unblind_receipt" => some "judge-repeat-bundle-unblind-amendment-001-v1"
  | "bundle_event_ledger" => some "judge-repeat-bundle-event-amendment-001-v1"
  | "rationale_variation_assessment_artifact" =>
    some "judge-repeat-rationale-assessment-input-amendment-001-v1"
  | "rationale_variation_assessment_receipt" =>
    some "judge-repeat-rationale-assessment-amendment-001-v1"
  | "reviewer_access_provenance" => some "judge-repeat-review-access-amendment-001-v1"
  | _ => none

/-- The fields every artifact but the form begins with. -/
def bindingFields : List String :=
  ["schema_version", "protocol_id", "amendment_id", "package_id", "bundle_review_id"]

/-- `FIELDS.get(kind)` -/
def fieldsOf : String → Option (List String)
  | "reviewer_card" => some (bindingFields ++
    ["reviewer_unit_id", "observation_sequence_within_bundle", "blind_alias", "user_request",
      "proposed_tool", "proposed_arguments", "frozen_neutral_reference", "stored_output",
      "mapping_commitment_sha256", "source_link_commitment_sha256"])
  | "empty_human_form" => some
    ["primary_disposition", "rationale_propositions", "reviewer_reason"]
  | "human_receipt" => some (bindingFields ++
    ["reviewer_unit_id", "blind_alias", "reviewer_card_sha256", "release_receipt_sha256",
      "mapping_commitment_sha256", "source_link_commitment_sha256",
      "reviewer_access_provenance_sha256", "reviewer", "primary_disposition",
      "rationale_propositions", "reviewer_reason", "adjudication_timestamp",
      "adjudication_status", "operationally_mapping_blind_at_coding",
      "mechanical_stability_seen", "immutability"])
  | "unit_release_receipt" => some (bindingFields ++
    ["reviewer_unit_id", "reviewer_card_sha256", "human_form_sha256",
      "mapping_commitment_sha256", "source_link_commitment_sha256",
      "reviewer_access_provenance_sha256", "previous_unit_closure_sha256", "release_timestamp",
      "validation_results"])
  | "unit_closure" => some (bindingFields ++
    ["reviewer_unit_id", "reviewer_card_sha256", "release_receipt_sha256",
      "human_receipt_sha256", "mapping_commitment_sha256", "source_link_commitment_sha256",
      "closure_timestamp", "validation_results", "semantic_coding_frozen", "unblinded",
      "state"])
  | "bundle_closure" => some (bindingFields ++
    ["frozen_manifest_position", "applicable_primary_case_id", "source_artifact_hashes",
      "reviewer_unit_ids", "reviewer_artifact_hashes", "alias_commitment_sha256",
      "human_receipt_hashes", "unit_closure_hashes", "unblind_receipt_sha256",
      "revealed_source_mapping", "primary_anchor_hashes", "stored_classifications",
      "stored_structured_flag_lists", "stored_confidences", "normalized_flag_sets",
      "per_model_primary_repeat_comparison", "confidence_descriptive_values_and_range",
      "frozen_rationale_variation_record", "review_status", "stability_disposition",
      "timestamps", "validation_results", "provenance_hashes", "state",
      "rationale_variation_assessment_receipt_sha256", "reviewer_access_policy_sha256",
      "authorized_identity_audience", "expected_evidence", "available_evidence",
      "missing_evidence", "unusable_evidence", "evidence_limitation_reasons",
      "relevant_hashes_or_validation_failures", "stability_not_established_reason"])
  | "bundle_unblind_receipt" => some (bindingFields ++
    ["alias_commitment_sha256", "required_human_receipt_hashes", "required_unit_closure_hashes",
      "human_authorization_receipt_sha256", "reviewer_access_policy_sha256",
      "authorized_recipients", "revealed_current_bundle_mapping",
      "current_bundle_commitment_openings", "current_bundle_source_link_openings",
      "unblind_timestamp", "validation_results", "scope"])
  | "bundle_event_ledger" => some (bindingFields ++
    ["event_sequence", "event_type", "artifact_sha256", "previous_event_sha256",
      "audience_policy_sha256", "timestamp"])
  | "rationale_variation_assessment_artifact" => some (bindingFields ++
    ["unblind_receipt_sha256", "primary_anchor_receipt_sha256", "completed_unit_receipt_hashes",
      "primary_stored_rationale", "repeat_rationales", "frozen_primary_semantic_coding",
      "frozen_repeat_semantic_coding"])
  | "rationale_variation_assessment_receipt" => some (bindingFields ++
    ["rationale_artifact_sha256", "unblind_receipt_sha256", "primary_anchor_receipt_sha256",
      "completed_unit_receipt_hashes", "reviewer", "frozen_proposition_sets",
      "proposition_set_difference_candidate", "rationale_variation",
      "material_rationale_variation_confirmed", "material_boundary_changed",
      "human_variation_note", "reviewer_reason", "assessment_timestamp",
      "source_identity_seen_at_assessment", "independent_unit_coding_reopened",
      "immutability"])
  | "reviewer_access_provenance" => some (bindingFields ++
    ["reviewer", "access_contract", "approved_access_policy_sha256", "access_mode",
      "reviewer_attestation", "enforcement_evidence_hashes", "effective_timestamp",
      "valid_through_bundle_semantic_freeze", "immutability"])
  | _ => none

/-- `VALIDATION_IDS` -/
def validationIds : List String :=
  ["RQ6-V01", "RQ6-V02", "RQ6-V03", "RQ6-V04", "RQ6-V05", "RQ6-V06", "RQ6-V07", "RQ6-V08",
    "RQ6-V09", "RQ6-V10", "RQ6-V11", "RQ6-V12"]

def validationStatuses : List String := ["PASS", "FAIL", "NOT_TESTABLE", "UNVERIFIED"]

def eventTypes : List String :=
  ["ALIAS_COMMITMENT_FIXED", "UNIT_RELEASED", "HUMAN_RECEIPT_FIXED", "UNIT_CLOSURE_VERIFIED",
    "BUNDLE_MAPPING_REVEALED", "MECHANICAL_COMPARISON_RECORDED", "RATIONALE_ASSESSMENT_FIXED",
    "BUNDLE_CHARACTERIZATION_FIXED", "BUNDLE_CLOSURE_VERIFIED", "EVIDENCE_LIMITATION_RECORDED"]

/-- `DEFERRED_STATE` -/
def deferred : String := "RQ6_REVIEW_DEFERRED_PENDING_HUMAN_RESOLUTION"

/-! ## Texts -/

/-- `str.isspace` of one character. -/
def isSpace (c : Char) : Bool :=
  let n := c.toNat
  (9 ≤ n && n ≤ 13) || (28 ≤ n && n ≤ 32) || n = 133 || n = 160 || n = 5760 ||
    (8192 ≤ n && n ≤ 8202) || n = 8232 || n = 8233 || n = 8239 || n = 8287 || n = 12288

/-- `bool(value.strip())` -/
def hasText (s : String) : Bool := !s.toList.all isSpace

def isHexDigit (c : Char) : Bool := c ∈ "0123456789abcdef".toList

/-- `_HASH.fullmatch(value)` -/
def isHash (s : String) : Bool := s.toList.length = 64 && s.toList.all isHexDigit

/-- The position a `RQ6_CUSTODY_FAILURE:<hash>:<position>` identifier names. -/
def failurePosition? (s : String) : Option ℕ :=
  let head := "RQ6_CUSTODY_FAILURE:".toList
  let cs := s.toList
  if head.isPrefixOf cs then
    let rest := cs.drop head.length
    match rest.drop 64 with
    | ':' :: ds =>
      if (rest.take 64).length = 64 ∧ (rest.take 64).all isHexDigit ∧ isWholePart ds ∧ ds ≠ ['0']
      then some (natOfDigits ds) else none
    | _ => none
  else none

/-- `_FAILURE_ID.fullmatch(value)` -/
def isFailureId (s : String) : Bool := (failurePosition? s).isSome

def isLeapYear (y : ℕ) : Bool := y % 4 = 0 && (y % 100 ≠ 0 || y % 400 = 0)

def daysInMonth (y m : ℕ) : ℕ :=
  if m = 2 then (if isLeapYear y then 29 else 28)
  else if m = 4 ∨ m = 6 ∨ m = 9 ∨ m = 11 then 30 else 31

/-- The zone of a timestamp in UTC, after an optional fraction. -/
def isUtcTail (cs : List Char) : Bool :=
  let zone (cs : List Char) : Bool := cs = ['Z'] || cs = "+00:00".toList
  match cs with
  | '.' :: rest =>
    rest.takeWhile Char.isDigit ≠ [] && zone (rest.dropWhile Char.isDigit)
  | cs => zone cs

/-- `_TIMESTAMP.fullmatch(value)`, and `datetime.fromisoformat` takes the date and the time. -/
def isTimestamp (s : String) : Bool :=
  match s.toList with
  | y₁ :: y₂ :: y₃ :: y₄ :: '-' :: m₁ :: m₂ :: '-' :: d₁ :: d₂ :: 'T' ::
      h₁ :: h₂ :: ':' :: n₁ :: n₂ :: ':' :: s₁ :: s₂ :: tail =>
    let year := natOfDigits [y₁, y₂, y₃, y₄]
    let month := natOfDigits [m₁, m₂]
    let day := natOfDigits [d₁, d₂]
    [y₁, y₂, y₃, y₄, m₁, m₂, d₁, d₂, h₁, h₂, n₁, n₂, s₁, s₂].all Char.isDigit &&
      1 ≤ year && 1 ≤ month && month ≤ 12 && 1 ≤ day && day ≤ daysInMonth year month &&
      natOfDigits [h₁, h₂] ≤ 23 && natOfDigits [n₁, n₂] ≤ 59 && natOfDigits [s₁, s₂] ≤ 59 &&
      isUtcTail tail
  | _ => false

/-! ## Checks of one value -/

/-- `type(value) is str and value in names` -/
def Value.isOneOf (v : Value) (names : List String) : Bool :=
  match v with
  | .str s => s ∈ names
  | _ => false

/-- `_object(value, fields)` -/
def checkObject (v : Value) (fields : Option (List String)) : Except Raised Object := do
  match v with
  | .dict kvs =>
    match fields with
    | none => return kvs
    | some names =>
      require (names.all (· ∈ kvs.map Prod.fst) && (kvs.map Prod.fst).all (· ∈ names))
        "ARTIFACT_FIELDS_MISMATCH"
      return kvs
  | _ => throw (.rq6 "ARTIFACT_OBJECT_REQUIRED")

/-- `_text(value, nonempty=nonempty)`; every text here has a UTF-8 encoding. -/
def checkText (v : Value) (nonempty : Bool := true) : Except Raised Unit :=
  match v with
  | .str s => require (!nonempty || hasText s) "EMPTY_TEXT"
  | _ => throw (.rq6 "TEXT_REQUIRED")

/-- `_hash(value)` -/
def checkHash (v : Value) : Except Raised Unit :=
  match v with
  | .str s => require (isHash s) "HASH_FORMAT"
  | _ => throw (.rq6 "HASH_FORMAT")

/-- `_positive(value)` -/
def checkPositive (v : Value) : Except Raised Unit :=
  match v with
  | .int n => require (0 < n) "POSITIVE_INTEGER_REQUIRED"
  | _ => throw (.rq6 "POSITIVE_INTEGER_REQUIRED")

/-- `_boolean(value, expected)` -/
def checkBoolean (v : Value) (expected : Option Bool) : Except Raised Unit :=
  match v with
  | .bool b => require (expected.elim true (b = ·)) "BOOLEAN_COHERENCE"
  | _ => throw (.rq6 "BOOLEAN_REQUIRED")

/-- `_timestamp(value)` -/
def checkTimestamp (v : Value) : Except Raised Unit :=
  match v with
  | .str s => require (isTimestamp s) "TIMESTAMP_FORMAT"
  | _ => throw (.rq6 "TIMESTAMP_FORMAT")

/-- `_confidence(value)`; a decoded number is finite. -/
def checkConfidence (v : Value) : Except Raised Unit :=
  match v with
  | .int n => require (0 ≤ n && n ≤ 1) "CONFIDENCE_RANGE"
  | .number x => require (0 ≤ x.value && x.value ≤ 1) "CONFIDENCE_RANGE"
  | _ => throw (.rq6 "CONFIDENCE_TYPE")

/-- `_array(value, nonempty=nonempty)` -/
def checkArray (v : Value) (nonempty : Bool := false) : Except Raised (List Value) := do
  match v with
  | .list xs =>
    require (!nonempty || !xs.isEmpty) "EMPTY_ARRAY"
    return xs
  | _ => throw (.rq6 "ARRAY_REQUIRED")

/-- The texts among the values; the checks before a use of it leave only texts. -/
def textsOf (xs : List Value) : List String :=
  xs.filterMap fun
    | .str s => some s
    | _ => none

/-- `_hashes(value, nonempty=nonempty)` -/
def checkHashes (v : Value) (nonempty : Bool := false) : Except Raised Unit := do
  let items ← checkArray v nonempty
  items.forM checkHash
  require (textsOf items).Nodup "DUPLICATE_HASH_LINK"

/-- `_flags(value)` -/
def checkFlags (v : Value) : Except Raised Unit := do
  let items ← checkArray v
  require (items.all (·.isOneOf flagNames)) "FLAG_ENUM"
  require (items.length ≤ 8) "FLAG_ARRAY_LENGTH"

/-- `_flags(value, normalized=True)` -/
def checkNormalizedFlags (v : Value) : Except Raised Unit := do
  let items ← checkArray v
  require (items.all (·.isOneOf flagNames)) "FLAG_ENUM"
  require ((textsOf items).Pairwise (· < ·) ∧ "NONE" ∉ textsOf items) "NORMALIZED_FLAG_SET"

/-- `_propositions(value)` -/
def checkPropositions (v : Value) : Except Raised Unit := do
  let items ← checkArray v
  require (items.all (·.isOneOf propositions)) "PROPOSITION_ENUM"
  require (textsOf items).Nodup "DUPLICATE_PROPOSITION"

/-- A rationale, with its length. -/
def checkRationale (v : Value) : Except Raised Unit :=
  match v with
  | .str s => require (s.length ≤ 500) "RATIONALE_LENGTH"
  | _ => throw (.rq6 "TEXT_REQUIRED")

/-- `_output(value)` -/
def checkOutput (v : Value) : Except Raised Unit := do
  let record ← checkObject v (some ["classification", "confidence", "flags", "rationale"])
  require ((record.get "classification").isOneOf classifications) "CLASSIFICATION_ENUM"
  checkConfidence (record.get "confidence")
  checkFlags (record.get "flags")
  checkRationale (record.get "rationale")

/-- `_immutability(value)` -/
def checkImmutability (v : Value) : Except Raised Unit :=
  match v with
  | .bool b => require b "IMMUTABILITY_REQUIRED"
  | v => checkText v

/-- `_results(value, require_pass=require_pass)` -/
def checkResults (v : Value) (requirePass : Bool) : Except Raised Unit := do
  let results ← checkObject v none
  require (!results.isEmpty) "VALIDATION_RESULTS_REQUIRED"
  require (results.all (·.1 ∈ validationIds)) "VALIDATOR_ID"
  require (results.all (·.2.isOneOf validationStatuses)) "VALIDATION_STATUS"
  require (!requirePass || results.all (·.2.isOneOf ["PASS"])) "VALIDATION_NOT_PASS"

/-- `_recipients(value)` -/
def checkRecipients (v : Value) : Except Raised Unit := do
  let items ← checkArray v true
  items.forM fun recipient =>
    match recipient with
    | .str _ => checkText recipient
    | _ => do
      let record ← checkObject recipient none
      require (!record.isEmpty) "EMPTY_RECIPIENT"

/-- `_evidence(value, nonempty=nonempty)` -/
def checkEvidence (v : Value) (nonempty : Bool) : Except Raised Unit := do
  let items ← checkArray v nonempty
  items.forM fun item =>
    match item with
    | .str _ => checkText item
    | .dict kvs => require (!kvs.isEmpty) "EMPTY_EVIDENCE_RECORD"
    | _ => throw (.rq6 "EVIDENCE_RECORD_TYPE")

/-- Apply a check to a field that is there. -/
def whenPresent (payload : Object) (field : String) (check : Value → Except Raised Unit) :
    Except Raised Unit :=
  match payload.get? field with
  | some v => check v
  | none => pure ()

/-- `_frozen_coding(value)` -/
def checkFrozenCoding (v : Value) : Except Raised Unit := do
  let record ← checkObject v none
  require (!record.isEmpty) "FROZEN_CODING_REQUIRED"
  whenPresent record "primary_disposition" fun disposition =>
    require (disposition.isOneOf semanticDispositions) "SEMANTIC_DISPOSITION"
  whenPresent record "rationale_propositions" checkPropositions
  whenPresent record "reviewer_reason" checkText

/-! ## Checks of one artifact -/

/-- The hashes a kind may leave out. -/
def isNullable (kind field : String) (payload : Object) : Bool :=
  (kind = "unit_release_receipt" && field = "previous_unit_closure_sha256") ||
    (kind = "bundle_event_ledger" && field = "previous_event_sha256") ||
    (kind = "bundle_closure" &&
      (payload.get "stability_disposition").isOneOf ["INSUFFICIENT_REPEAT_EVIDENCE"] &&
      field ∈ ["alias_commitment_sha256", "unblind_receipt_sha256",
        "rationale_variation_assessment_receipt_sha256"])

/-- What a field's name says of its value. -/
def checkField (kind : String) (payload : Object) (entry : String × Value) :
    Except Raised Unit :=
  if entry.1.endsWith "_sha256" then
    match entry.2 with
    | .null => require (isNullable kind entry.1 payload) "REQUIRED_HASH_MISSING"
    | v => checkHash v
  else if entry.1.endsWith "_timestamp" ∨ entry.1 = "timestamp" then checkTimestamp entry.2
  else pure ()

/-- The bundle id is a hash, or for two kinds a custody failure. -/
def checkBundleId (kind : String) (v : Value) : Except Raised Unit :=
  match v with
  | .str s =>
    if isFailureId s then
      require (kind = "bundle_closure" || kind = "bundle_event_ledger") "FAILURE_ID_VISIBILITY"
    else checkHash v
  | v => checkHash v

/-- The version and the binding of every artifact but the form. -/
def checkHeader (kind : String) (payload : Object) : Except Raised Unit :=
  match schemaVersion kind with
  | none => pure ()
  | some version => do
    require ((payload.get "schema_version").eq (.str version)) "SCHEMA_VERSION"
    require ((payload.get "protocol_id").eq (.str protocolId)) "PROTOCOL_ID"
    require ((payload.get "amendment_id").eq (.str amendmentId)) "AMENDMENT_ID"
    checkText (payload.get "package_id")
    checkBundleId kind (payload.get "bundle_review_id")

/-- `_common(kind, payload)` -/
def checkCommon (kind : String) (payload : Object) : Except Raised Unit := do
  checkHeader kind payload
  payload.forM (checkField kind payload)
  whenPresent payload "reviewer_unit_id" checkHash
  whenPresent payload "blind_alias" fun v => require (v.eq (.str "SIDE_1")) "BLIND_ALIAS"
  whenPresent payload "reviewer" checkText
  whenPresent payload "immutability" checkImmutability

/-- The groups of `_proposition_sets(value)`, ordered or keyed by source. -/
def propositionGroups (v : Value) : Except Raised (List Value) :=
  match v with
  | .dict kvs => pure (kvs.map Prod.snd)
  | v => checkArray v

/-- The texts of a list. -/
def Value.texts : Value → List String
  | .list xs => textsOf xs
  | _ => []

/-- Whether two of the groups differ as sets. -/
def differ (groups : List Value) : Bool :=
  groups.any fun a => groups.any fun b =>
    !(a.texts.all (· ∈ b.texts) && b.texts.all (· ∈ a.texts))

/-- What `_assessment` requires of the two findings for each variation. -/
def coherence : List (String × Value × Value) :=
  [("NONE", .bool false, .bool false),
    ("MATERIAL_VARIATION_WITHOUT_BOUNDARY_CHANGE", .bool true, .bool false),
    ("MATERIAL_BOUNDARY_CHANGE", .bool true, .bool true), ("UNRESOLVED", .null, .null)]

/-- `value is other`, for `None` and booleans. -/
def Value.is (v other : Value) : Bool :=
  match v, other with
  | .null, .null => true
  | .bool a, .bool b => a = b
  | _, _ => false

/-- The two findings say what the variation says. -/
def checkCoherence (payload : Object) : Except Raised Unit :=
  match coherence.find? fun c => (payload.get "rationale_variation").isOneOf [c.1] with
  | none => throw (.rq6 "RATIONALE_VARIATION_ENUM")
  | some (_, material, boundary) =>
    require ((payload.get "material_rationale_variation_confirmed").is material &&
      (payload.get "material_boundary_changed").is boundary) "RATIONALE_COHERENCE"

/-- The note on a variation, which a boundary change without different propositions needs. -/
def checkNote (payload : Object) (groups : List Value) : Except Raised Unit :=
  let note := payload.get "human_variation_note"
  if (payload.get "rationale_variation").isOneOf ["MATERIAL_BOUNDARY_CHANGE"] ∧
      differ groups = false then checkText note
  else if note.is .null then pure ()
  else checkText note false

/-- `_assessment(payload)` -/
def checkAssessment (payload : Object) : Except Raised Unit := do
  checkHashes (payload.get "completed_unit_receipt_hashes") true
  let groups ← propositionGroups (payload.get "frozen_proposition_sets")
  groups.forM checkPropositions
  require (2 ≤ groups.length) "PROPOSITION_SET_COVERAGE"
  checkBoolean (payload.get "proposition_set_difference_candidate") none
  require ((payload.get "proposition_set_difference_candidate").eq (.bool (differ groups)))
    "PROPOSITION_DIFFERENCE_COHERENCE"
  checkCoherence payload
  checkBoolean (payload.get "source_identity_seen_at_assessment") (some true)
  checkBoolean (payload.get "independent_unit_coding_reopened") (some false)
  checkText (payload.get "reviewer_reason")
  checkNote payload groups

/-- The items of a list; the checks before a use of it leave only lists. -/
def Value.items : Value → List Value
  | .list xs => xs
  | _ => []

/-- `value.get(key)` of a nested dictionary; the checks before a use of it leave only those. -/
def Value.field (v : Value) (key : String) : Value :=
  match v with
  | .dict kvs => Object.get kvs key
  | _ => .null

/-- The disposition the stored outputs force, if they differ. -/
def axisDisposition (classes flags : Value) : Option String :=
  let classVaries := classes.items.any fun a => classes.items.any fun b => !a.eq b
  let flagsVary := flags.items.any fun a => flags.items.any fun b => !a.eq b
  match classVaries, flagsVary with
  | true, true => some "MULTI_AXIS_VARIABLE"
  | true, false => some "CLASSIFICATION_VARIABLE"
  | false, true => some "STRUCTURED_SIGNAL_VARIABLE"
  | false, false => none

/-- What `_closure` requires of a closure with insufficient evidence. -/
def checkInsufficient (payload : Object) : Except Raised Unit := do
  require ((payload.get "missing_evidence").truthy || (payload.get "unusable_evidence").truthy)
    "INSUFFICIENT_EVIDENCE_REASON"
  require ((payload.get "evidence_limitation_reasons").truthy &&
    (payload.get "relevant_hashes_or_validation_failures").truthy) "INSUFFICIENT_PROVENANCE"
  checkText (payload.get "stability_not_established_reason")
  require (3 ≤ (payload.get "unit_closure_hashes").items.length ||
    ((payload.get "unblind_receipt_sha256").is .null &&
      (payload.get "revealed_source_mapping").is .null)) "INSUFFICIENT_PREMATURE_UNBLIND"

/-- The disposition agrees with the axes of the stored outputs. -/
def checkAxes (payload : Object) : Except Raised Unit :=
  match axisDisposition (payload.get "stored_classifications")
      (payload.get "normalized_flag_sets") with
  | some expected =>
    require ((payload.get "stability_disposition").eq (.str expected)) "STABILITY_AXIS_COHERENCE"
  | none =>
    require ((payload.get "stability_disposition").isOneOf
      ["STABLE", "STABLE_WITH_RATIONALE_VARIATION"]) "STABILITY_AXIS_COHERENCE"

/-- What `_closure` requires of the disposition of a complete closure. -/
def checkStability (payload : Object) : Except Raised Unit := do
  let disposition := payload.get "stability_disposition"
  let record := payload.get "frozen_rationale_variation_record"
  checkAxes payload
  checkBoolean (record.field "material_boundary_changed") none
  require (!disposition.isOneOf ["STABLE_WITH_RATIONALE_VARIATION"] ||
    ((record.field "material_rationale_variation_confirmed").is (.bool true) &&
      (record.field "material_boundary_changed").is (.bool false))) "STABLE_WITH_RATIONALE_GUARD"
  require (!disposition.isOneOf ["STABLE"] ||
    ((record.field "material_rationale_variation_confirmed").is (.bool false) &&
      (record.field "material_boundary_changed").is (.bool false))) "STABLE_RATIONALE_GUARD"

/-- What `_closure` requires of a complete closure. -/
def checkComplete (payload : Object) : Except Raised Unit := do
  require (!(payload.get "missing_evidence").truthy && !(payload.get "unusable_evidence").truthy)
    "COMPLETE_BUNDLE_HAS_MISSING_EVIDENCE"
  let reason := payload.get "stability_not_established_reason"
  require (reason.is .null || reason.isOneOf [""]) "STABILITY_FAILURE_REASON_ON_COMPLETE"
  require (["reviewer_unit_ids", "human_receipt_hashes", "unit_closure_hashes"].all
    fun name => (payload.get name).items.length = 3) "BUNDLE_UNIT_COVERAGE"
  require (["stored_classifications", "stored_structured_flag_lists", "stored_confidences",
    "normalized_flag_sets"].all fun name => (payload.get name).items.length = 4)
    "BUNDLE_OBSERVATION_COVERAGE"
  checkStability payload

/-- A link of a closure that only insufficient evidence may leave out. -/
def checkLink (insufficient : Bool) (payload : Object) (field : String) : Except Raised Unit :=
  match payload.get field with
  | .null => require insufficient "CLOSURE_REQUIRED_LINK"
  | v =>
    if field.endsWith "_sha256" then pure ()
    else match v with
      | .dict kvs => require (!kvs.isEmpty) "CLOSURE_RECORD_REQUIRED"
      | _ => throw (.rq6 "CLOSURE_RECORD_REQUIRED")

/-- The bundle id of a closure and its alias commitment. -/
def checkFailureId (insufficient : Bool) (payload : Object) : Except Raised Unit :=
  let unmapped := (payload.get "alias_commitment_sha256").is .null
  match payload.get "bundle_review_id" with
  | .str s =>
    match failurePosition? s with
    | some position => do
      require (insufficient && unmapped) "FAILURE_ID_WITH_MAPPING"
      require ((payload.get "frozen_manifest_position").eq (.int position)) "FAILURE_ID_POSITION"
    | none => require (!unmapped) "MAPPING_COMMITMENT_REQUIRED"
  | _ => require (!unmapped) "MAPPING_COMMITMENT_REQUIRED"

/-- `_closure(payload)` -/
def checkClosure (payload : Object) : Except Raised Unit := do
  let disposition := payload.get "stability_disposition"
  require (disposition.isOneOf dispositions) "STABILITY_DISPOSITION"
  let insufficient := disposition.isOneOf ["INSUFFICIENT_REPEAT_EVIDENCE"]
  require ((payload.get "state").eq (.str (if insufficient then
    "RQ6_BUNDLE_CLOSED_INSUFFICIENT_REPEAT_EVIDENCE" else "RQ6_BUNDLE_CLOSED")))
    "BUNDLE_STATE_COHERENCE"
  checkText (payload.get "review_status")
  require (!(payload.get "review_status").isOneOf [deferred]) "DEFERRED_BUNDLE_NOT_TERMINAL"
  checkPositive (payload.get "frozen_manifest_position")
  checkText (payload.get "applicable_primary_case_id")
  ["source_artifact_hashes", "reviewer_artifact_hashes", "human_receipt_hashes",
    "unit_closure_hashes", "primary_anchor_hashes", "provenance_hashes"].forM
    fun name => checkHashes (payload.get name) !insufficient
  let units ← checkArray (payload.get "reviewer_unit_ids") !insufficient
  units.forM checkHash
  require (textsOf units).Nodup "DUPLICATE_UNIT_ID"
  let classes ← checkArray (payload.get "stored_classifications") !insufficient
  classes.forM fun v => require (v.isOneOf classifications) "CLASSIFICATION_ENUM"
  let flags ← checkArray (payload.get "stored_structured_flag_lists") !insufficient
  flags.forM checkFlags
  let confidences ← checkArray (payload.get "stored_confidences") !insufficient
  confidences.forM checkConfidence
  let normalized ← checkArray (payload.get "normalized_flag_sets") !insufficient
  normalized.forM checkNormalizedFlags
  let timestamps ← checkObject (payload.get "timestamps") none
  require (!timestamps.isEmpty) "CLOSURE_TIMESTAMPS_REQUIRED"
  timestamps.forM fun entry => checkTimestamp entry.2
  checkResults (payload.get "validation_results") !insufficient
  checkRecipients (payload.get "authorized_identity_audience")
  ["expected_evidence", "available_evidence", "missing_evidence", "unusable_evidence",
    "evidence_limitation_reasons", "relevant_hashes_or_validation_failures"].forM
    fun name => checkEvidence (payload.get name) (name = "expected_evidence")
  ["unblind_receipt_sha256", "revealed_source_mapping", "frozen_rationale_variation_record",
    "rationale_variation_assessment_receipt_sha256", "per_model_primary_repeat_comparison",
    "confidence_descriptive_values_and_range"].forM (checkLink insufficient payload)
  checkFailureId insufficient payload
  if insufficient then checkInsufficient payload else checkComplete payload

/-- What `validate_artifact` requires of the form before it is filled in. -/
def checkEmptyForm (record : Object) : Except Raised Unit :=
  let isEmpty (v : Value) : Bool := v.is .null || v.isOneOf [""]
  require (isEmpty (record.get "primary_disposition") && isEmpty (record.get "reviewer_reason") &&
    ((record.get "rationale_propositions").is .null ||
      (record.get "rationale_propositions").eq (.list []))) "HUMAN_FORM_NOT_EMPTY"

/-- The place of a card among the three of its bundle. -/
def checkSequence (v : Value) : Except Raised Unit :=
  match v with
  | .int n => require (n ≤ 3) "OBSERVATION_SCHEDULE"
  | _ => throw .typeError

/-- What `validate_artifact` requires of a reviewer card. -/
def checkCard (record : Object) : Except Raised Unit := do
  checkPositive (record.get "observation_sequence_within_bundle")
  checkSequence (record.get "observation_sequence_within_bundle")
  checkText (record.get "user_request")
  checkText (record.get "proposed_tool")
  let _ ← checkObject (record.get "proposed_arguments") none
  let reference ← checkObject (record.get "frozen_neutral_reference")
    (some ["classification", "flags"])
  require ((reference.get "classification").isOneOf classifications) "CLASSIFICATION_ENUM"
  checkFlags (reference.get "flags")
  checkOutput (record.get "stored_output")

/-- What `validate_artifact` requires of a human receipt. -/
def checkReceipt (record : Object) : Except Raised Unit := do
  require ((record.get "primary_disposition").isOneOf semanticDispositions) "SEMANTIC_DISPOSITION"
  checkPropositions (record.get "rationale_propositions")
  checkText (record.get "reviewer_reason")
  checkText (record.get "adjudication_status")
  checkBoolean (record.get "operationally_mapping_blind_at_coding") (some true)
  checkBoolean (record.get "mechanical_stability_seen") (some false)

/-- What `validate_artifact` requires of a unit closure. -/
def checkUnitClosure (record : Object) : Except Raised Unit := do
  require ((record.get "state").eq (.str "SEMANTICALLY_CLOSED_BLINDED")) "UNIT_CLOSURE_STATE"
  checkBoolean (record.get "semantic_coding_frozen") (some true)
  checkBoolean (record.get "unblinded") (some false)
  checkResults (record.get "validation_results") true

/-- What `validate_artifact` requires of an event. -/
def checkEvent (record : Object) : Except Raised Unit := do
  checkPositive (record.get "event_sequence")
  require ((record.get "event_type").isOneOf eventTypes) "EVENT_TYPE"
  require ((record.get "previous_event_sha256").is .null =
    (record.get "event_sequence").eq (.int 1)) "LEDGER_GENESIS"
  match record.get "bundle_review_id" with
  | .str s =>
    require (!isFailureId s || (record.get "event_type").isOneOf
      ["EVIDENCE_LIMITATION_RECORDED", "BUNDLE_CLOSURE_VERIFIED"]) "FAILURE_LEDGER_EVENT"
  | _ => pure ()

/-- What `validate_artifact` requires of the provenance of a reviewer's access. -/
def checkAccess (record : Object) : Except Raised Unit := do
  require ((record.get "access_contract").eq (.str "OPERATIONALLY_MAPPING_BLIND"))
    "ACCESS_CONTRACT"
  checkBoolean (record.get "valid_through_bundle_semantic_freeze") (some true)
  let mode := record.get "access_mode"
  require (mode.isOneOf ["REVIEWER_ATTESTATION", "ENFORCED_REVIEWER_RELEASE_ONLY"]) "ACCESS_MODE"
  checkHashes (record.get "enforcement_evidence_hashes")
    (mode.isOneOf ["ENFORCED_REVIEWER_RELEASE_ONLY"])
  if mode.isOneOf ["REVIEWER_ATTESTATION"] then do
    checkText (record.get "reviewer_attestation")
    require (!(record.get "enforcement_evidence_hashes").truthy) "INVENTED_ENFORCEMENT"
  else if (record.get "reviewer_attestation").is .null then pure ()
  else checkText (record.get "reviewer_attestation")

/-- The openings of the source links, by unit or in order. -/
def checkOpenings (v : Value) : Except Raised Unit :=
  match v with
  | .dict kvs => require (!kvs.isEmpty) "SOURCE_LINK_OPENINGS_REQUIRED"
  | .list xs => require (!xs.isEmpty) "SOURCE_LINK_OPENINGS_REQUIRED"
  | _ => throw (.rq6 "SOURCE_LINK_OPENINGS_REQUIRED")

/-- What `validate_artifact` requires of an unblind receipt. -/
def checkUnblind (record : Object) : Except Raised Unit := do
  ["required_human_receipt_hashes", "required_unit_closure_hashes"].forM fun field => do
    checkHashes (record.get field) true
    require ((record.get field).items.length = 3) "UNBLIND_UNIT_COVERAGE"
  checkRecipients (record.get "authorized_recipients")
  ["revealed_current_bundle_mapping", "current_bundle_commitment_openings"].forM fun field => do
    let opening ← checkObject (record.get field) none
    require (!opening.isEmpty) "UNBLIND_OPENING_REQUIRED"
  checkOpenings (record.get "current_bundle_source_link_openings")
  checkText (record.get "scope")
  checkResults (record.get "validation_results") true

/-- What `validate_artifact` requires of the input of a rationale assessment. -/
def checkAssessmentInput (record : Object) : Except Raised Unit := do
  checkHashes (record.get "completed_unit_receipt_hashes") true
  checkText (record.get "primary_stored_rationale") false
  let rationales ← checkArray (record.get "repeat_rationales") true
  rationales.forM fun v => checkText v false
  checkFrozenCoding (record.get "frozen_primary_semantic_coding")
  let codings ← checkArray (record.get "frozen_repeat_semantic_coding") true
  codings.forM checkFrozenCoding

/-- The checks of one kind alone. -/
def checkKind (kind : String) (record : Object) : Except Raised Unit :=
  match kind with
  | "empty_human_form" => checkEmptyForm record
  | "reviewer_card" => checkCard record
  | "human_receipt" => checkReceipt record
  | "unit_release_receipt" => checkResults (record.get "validation_results") true
  | "unit_closure" => checkUnitClosure record
  | "bundle_event_ledger" => checkEvent record
  | "reviewer_access_provenance" => checkAccess record
  | "bundle_unblind_receipt" => checkUnblind record
  | "rationale_variation_assessment_artifact" => checkAssessmentInput record
  | "rationale_variation_assessment_receipt" => checkAssessment record
  | "bundle_closure" => checkClosure record
  | _ => pure ()

/-- `validate_artifact(kind, payload)` -/
def validateArtifact (kind : String) (payload : Object) : Except Raised Unit := do
  match fieldsOf kind with
  | none => throw (.rq6 "UNKNOWN_ARTIFACT_KIND")
  | some names => do
    let record ← checkObject (.dict payload) (some names)
    checkCommon kind record
    checkKind kind record

/-! ## Digests

A digest is a hash.  What a schema says of a field named `..._sha256` it says of every hash, so an
artifact it takes it also takes with other digests there. -/

lemma isHash_sha256Hex (text : String) : isHash (sha256Hex text) = true := by
  obtain ⟨hlength, hall⟩ := @sha256Hex_digits text isHexDigit (by decide)
  rw [isHash, hall, Bool.and_true, decide_eq_true hlength]

/-- The entry is the same, or holds another digest. -/
def Renewed (e e' : String × Value) : Prop :=
  e' = e ∨ e'.1 = e.1 ∧ e.1.endsWith "_sha256" = true ∧ ∃ sha, e'.2 = .str sha ∧ isHash sha = true

section

variable {e e' : String × Value} {kind name : String} {p q : Object}

@[simp] lemma Renewed.refl (e : String × Value) : Renewed e e := .inl rfl

lemma Renewed.key (h : Renewed e e') : e'.1 = e.1 := by
  rcases h with rfl | ⟨h, -⟩
  · rfl
  · exact h

lemma Renewed.value (h : Renewed e e') (hname : e.1.endsWith "_sha256" = false) : e' = e := by
  rcases h with h | ⟨-, hsuffix, -⟩
  · exact h
  · rw [hname] at hsuffix
    cases hsuffix

lemma lookup_renewed (h : List.Forall₂ Renewed p q) (hname : name.endsWith "_sha256" = false) :
    q.lookup name = p.lookup name := by
  induction h with
  | nil => rfl
  | @cons e e' p q he _ ih =>
      obtain ⟨key, v⟩ := e
      obtain ⟨key', v'⟩ := e'
      obtain rfl : key' = key := he.key
      by_cases hkey : name = key'
      · subst hkey
        obtain rfl : v' = v := congrArg Prod.snd (he.value hname)
        rw [List.lookup_cons_self, List.lookup_cons_self]
      · rw [List.lookup_cons, List.lookup_cons, beq_false_of_ne hkey, ih]

/-- A field of another name is the same. -/
lemma get?_renewed (h : List.Forall₂ Renewed p q) (hname : name.endsWith "_sha256" = false) :
    Object.get? q name = Object.get? p name :=
  lookup_renewed (List.rel_reverse h) hname

lemma get_renewed (h : List.Forall₂ Renewed p q) (hname : name.endsWith "_sha256" = false) :
    Object.get q name = Object.get p name :=
  congrArg (Option.getD · Value.null) (get?_renewed h hname)

lemma keys_renewed (h : List.Forall₂ Renewed p q) : q.map Prod.fst = p.map Prod.fst := by
  induction h with
  | nil => rfl
  | cons he _ ih => rw [List.map_cons, List.map_cons, he.key, ih]

lemma exists_of_renewed (h : List.Forall₂ Renewed p q) (he : e' ∈ q) :
    ∃ e ∈ p, Renewed e e' := by
  obtain ⟨i, hi, rfl⟩ := List.mem_iff_getElem.mp he
  have hlength := h.length_eq
  exact ⟨_, List.getElem_mem (by omega), h.get (by omega) hi⟩

lemma checkField_of_isHash {sha : String} (hname : name.endsWith "_sha256" = true)
    (h : isHash sha = true) : checkField kind p (name, .str sha) = .ok () := by
  rw [checkField, if_pos hname]
  exact require_eq_ok.mpr h

lemma checkObject_eq_ok {names : List String} {r : Object} :
    checkObject (.dict p) (some names) = .ok r ↔ p = r ∧
      (names.all (· ∈ p.map Prod.fst) && (p.map Prod.fst).all (· ∈ names)) = true := by
  unfold checkObject
  simp only [Except.bind_eq_ok, require_eq_ok]
  constructor
  · rintro ⟨_, h, hr⟩
    cases hr
    exact ⟨rfl, h⟩
  · rintro ⟨rfl, h⟩
    exact ⟨(), h, rfl⟩

lemma checkHeader_renewed (h : List.Forall₂ Renewed p q) :
    checkHeader kind q = checkHeader kind p := by
  unfold checkHeader
  rw [get_renewed h (by decide +kernel), get_renewed h (by decide +kernel),
    get_renewed h (by decide +kernel), get_renewed h (by decide +kernel),
    get_renewed h (by decide +kernel)]

lemma checkField_renewed (h : List.Forall₂ Renewed p q) :
    checkField kind q e = checkField kind p e := by
  have hnullable : isNullable kind e.1 q = isNullable kind e.1 p := by
    unfold isNullable
    rw [get_renewed h (by decide +kernel)]
  unfold checkField
  rw [hnullable]

lemma checkCommon_renewed (h : List.Forall₂ Renewed p q)
    (hp : checkCommon kind p = .ok ()) : checkCommon kind q = .ok () := by
  unfold checkCommon whenPresent at hp ⊢
  simp only [Except.bind_eq_ok, Except.forM_eq_ok] at hp ⊢
  obtain ⟨_, hheader, _, hfields, hpresent⟩ := hp
  refine ⟨(), by rw [checkHeader_renewed h, hheader], (), fun e' he' => ?_, ?_⟩
  · obtain ⟨e, he, rfl | ⟨hkey, hname, sha, hvalue, hsha⟩⟩ := exists_of_renewed h he'
    · rw [checkField_renewed h]
      exact hfields _ he
    · obtain ⟨field, v⟩ := e'
      obtain rfl : field = e.1 := hkey
      obtain rfl : v = .str sha := hvalue
      exact checkField_of_isHash hname hsha
  · rw [get?_renewed h (by decide +kernel), get?_renewed h (by decide +kernel),
      get?_renewed h (by decide +kernel), get?_renewed h (by decide +kernel)]
    exact hpresent

/-- A schema that takes an artifact takes it with other digests, if the checks of its kind do. -/
theorem validateArtifact_renewed (h : List.Forall₂ Renewed p q)
    (hkind : checkKind kind p = .ok () → checkKind kind q = .ok ())
    (hp : validateArtifact kind p = .ok ()) : validateArtifact kind q = .ok () := by
  unfold validateArtifact at hp ⊢
  cases hnames : fieldsOf kind with
  | none =>
      rw [hnames] at hp
      cases hp
  | some names =>
      rw [hnames] at hp
      simp only [Except.bind_eq_ok] at hp ⊢
      obtain ⟨r, hr, _, hcommon, hp⟩ := hp
      obtain ⟨rfl, hobject⟩ := checkObject_eq_ok.mp hr
      rw [← keys_renewed h] at hobject
      exact ⟨q, checkObject_eq_ok.mpr ⟨rfl, hobject⟩, (), checkCommon_renewed h hcommon, hkind hp⟩

end

end CivicGate.Rq6
