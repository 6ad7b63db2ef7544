import CivicGate.Rq6.ExactRoundTrip
import CivicGate.Rq6.WorkflowSteps

/-!
# Artifacts that name each other

A `Dossier` is what the artifacts of a bundle are about.  From it follow the artifacts from the
alias commitment to the receipt of the reveal, in the order in which the workflow asks for them,
each with the digests of those before it.  Whether the schemas take them is up to the dossier
(`Dossier.Admissible`); the rest of what `_validate` requires of them holds.  `Dossier.sample` is
one they take (`Dossier.admissible_sample`).
-/

namespace CivicGate.Rq6

open Program

/-- What the artifacts of a bundle are about. -/
structure Dossier where
  bundleId : String
  mapping : String
  policy : String
  sourceLink : String
  unitId : ℕ → String

/-- A verifier that accepts whatever it is asked of. -/
def accepting (_ : ArtifactSnapshot) (v : Unit) : Verdict × Unit := (.accepted, v)

namespace Dossier

variable (d : Dossier)

/-! ## Payloads -/

def sampleTime : String := "2026-01-01T00:00:00Z"

/-- What the reviewer attests of the access. -/
def accessPayload : Object :=
  [("access_contract", .str "OPERATIONALLY_MAPPING_BLIND"),
   ("access_mode", .str "REVIEWER_ATTESTATION"),
   ("amendment_id", .str amendmentId),
   ("approved_access_policy_sha256", .str d.policy),
   ("bundle_review_id", .str d.bundleId),
   ("effective_timestamp", .str sampleTime),
   ("enforcement_evidence_hashes", .list []),
   ("immutability", .bool true),
   ("package_id", .str "PACKAGE"),
   ("protocol_id", .str protocolId),
   ("reviewer", .str "reviewer"),
   ("reviewer_attestation", .str "blind"),
   ("schema_version", .str "judge-repeat-review-access-amendment-001-v1"),
   ("valid_through_bundle_semantic_freeze", .bool true)]

/-- The alias commitment. -/
def aliasPayload : Object :=
  [("amendment_id", .str amendmentId),
   ("bundle_review_id", .str d.bundleId),
   ("mapping_commitment_sha256", .str d.mapping),
   ("package_id", .str "PACKAGE"),
   ("protocol_id", .str protocolId),
   ("reviewer_access_policy_sha256", .str d.policy)]

/-- An approval of an operation. -/
def approval (operation : String) (unit : Option String) : Object :=
  [("amendment_id", .str amendmentId),
   ("approved", .bool true),
   ("authorized_recipients", .strs ["reviewer"]),
   ("bundle_review_id", .str d.bundleId),
   ("operation", .str operation),
   ("package_id", .str "PACKAGE"),
   ("protocol_id", .str protocolId),
   ("reviewer", .str "reviewer"),
   ("reviewer_unit_id", .optStr unit)]

/-- The form before it is filled in. -/
def formPayload : Object :=
  [("primary_disposition", .null),
   ("rationale_propositions", .null),
   ("reviewer_reason", .null)]

def reference : Value := .dict [("classification", .str "IN_SCOPE"), ("flags", .list [])]

def output : Value :=
  .dict [("classification", .str "IN_SCOPE"), ("confidence", .int 1), ("flags", .list []),
    ("rationale", .str "stored")]

/-- The card of a unit. -/
def cardPayload (k : ℕ) : Object :=
  [("amendment_id", .str amendmentId),
   ("blind_alias", .str "SIDE_1"),
   ("bundle_review_id", .str d.bundleId),
   ("frozen_neutral_reference", reference),
   ("mapping_commitment_sha256", .str d.mapping),
   ("observation_sequence_within_bundle", .int (k + 1)),
   ("package_id", .str "PACKAGE"),
   ("proposed_arguments", .dict []),
   ("proposed_tool", .str "tool"),
   ("protocol_id", .str protocolId),
   ("reviewer_unit_id", .str (d.unitId k)),
   ("schema_version", .str "judge-repeat-reviewer-card-amendment-001-v1"),
   ("source_link_commitment_sha256", .str d.sourceLink),
   ("stored_output", output),
   ("user_request", .str "request")]

/-- The receipt of its release. -/
def releasePayload (k : ℕ) (card form access : String) (previous : Option String) : Object :=
  [("amendment_id", .str amendmentId),
   ("bundle_review_id", .str d.bundleId),
   ("human_form_sha256", .str form),
   ("mapping_commitment_sha256", .str d.mapping),
   ("package_id", .str "PACKAGE"),
   ("previous_unit_closure_sha256", .optStr previous),
   ("protocol_id", .str protocolId),
   ("release_timestamp", .str sampleTime),
   ("reviewer_access_provenance_sha256", .str access),
   ("reviewer_card_sha256", .str card),
   ("reviewer_unit_id", .str (d.unitId k)),
   ("schema_version", .str "judge-repeat-unit-release-amendment-001-v1"),
   ("source_link_commitment_sha256", .str d.sourceLink),
   ("validation_results", .dict [("RQ6-V01", .str "PASS")])]

/-- The receipt of its coding. -/
def humanPayload (k : ℕ) (card release access : String) : Object :=
  [("adjudication_status", .str "FINAL"),
   ("adjudication_timestamp", .str sampleTime),
   ("amendment_id", .str amendmentId),
   ("blind_alias", .str "SIDE_1"),
   ("bundle_review_id", .str d.bundleId),
   ("immutability", .bool true),
   ("mapping_commitment_sha256", .str d.mapping),
   ("mechanical_stability_seen", .bool false),
   ("operationally_mapping_blind_at_coding", .bool true),
   ("package_id", .str "PACKAGE"),
   ("primary_disposition", .str "ALIGNED"),
   ("protocol_id", .str protocolId),
   ("rationale_propositions", .list []),
   ("release_receipt_sha256", .str release),
   ("reviewer", .str "reviewer"),
   ("reviewer_access_provenance_sha256", .str access),
   ("reviewer_card_sha256", .str card),
   ("reviewer_reason", .str "seen"),
   ("reviewer_unit_id", .str (d.unitId k)),
   ("schema_version", .str "judge-repeat-human-adjudication-amendment-001-v1"),
   ("source_link_commitment_sha256", .str d.sourceLink)]

/-- Its closure. -/
def closurePayload (k : ℕ) (card release human : String) : Object :=
  [("amendment_id", .str amendmentId),
   ("bundle_review_id", .str d.bundleId),
   ("closure_timestamp", .str sampleTime),
   ("human_receipt_sha256", .str human),
   ("mapping_commitment_sha256", .str d.mapping),
   ("package_id", .str "PACKAGE"),
   ("protocol_id", .str protocolId),
   ("release_receipt_sha256", .str release),
   ("reviewer_card_sha256", .str card),
   ("reviewer_unit_id", .str (d.unitId k)),
   ("schema_version", .str "judge-repeat-unit-closure-amendment-001-v1"),
   ("semantic_coding_frozen", .bool true),
   ("source_link_commitment_sha256", .str d.sourceLink),
   ("state", .str "SEMANTICALLY_CLOSED_BLINDED"),
   ("unblinded", .bool false),
   ("validation_results", .dict [("RQ6-V01", .str "PASS")])]

/-- The receipt of the reveal. -/
def unblindPayload (authority : String) (receipts closures : List String) : Object :=
  [("alias_commitment_sha256", .str d.mapping),
   ("amendment_id", .str amendmentId),
   ("authorized_recipients", .strs ["reviewer"]),
   ("bundle_review_id", .str d.bundleId),
   ("current_bundle_commitment_openings", .dict [("SIDE_1", .str "opening")]),
   ("current_bundle_source_link_openings", .list [.str "opening"]),
   ("human_authorization_receipt_sha256", .str authority),
   ("package_id", .str "PACKAGE"),
   ("protocol_id", .str protocolId),
   ("required_human_receipt_hashes", .strs receipts),
   ("required_unit_closure_hashes", .strs closures),
   ("revealed_current_bundle_mapping", .dict [("SIDE_1", .str "model")]),
   ("reviewer_access_policy_sha256", .str d.policy),
   ("schema_version", .str "judge-repeat-bundle-unblind-amendment-001-v1"),
   ("scope", .str "bundle"),
   ("unblind_timestamp", .str sampleTime),
   ("validation_results", .dict [("RQ6-V01", .str "PASS")])]

/-! ## Artifacts -/

def access : ArtifactSnapshot := .build "reviewer_access_provenance" d.accessPayload

def commitment : ArtifactSnapshot := .build "alias_commitment" d.aliasPayload

def approvalFor (operation : String) (unit : Option String) : ArtifactSnapshot :=
  .build "operation_authorization" (d.approval operation unit)

def form : ArtifactSnapshot := .build "empty_human_form" formPayload

def card (k : ℕ) : ArtifactSnapshot := .build "reviewer_card" (d.cardPayload k)

/-- What releases a unit after the closure with this digest. -/
def unitReleased (k : ℕ) (previous : Option String) : Object :=
  d.releasePayload k (d.card k).sha256 form.sha256 d.access.sha256 previous

def releaseAfter (k : ℕ) (previous : Option String) : ArtifactSnapshot :=
  .build "unit_release_receipt" (d.unitReleased k previous)

def unitCoded (k : ℕ) (previous : Option String) : Object :=
  d.humanPayload k (d.card k).sha256 (d.releaseAfter k previous).sha256 d.access.sha256

def humanAfter (k : ℕ) (previous : Option String) : ArtifactSnapshot :=
  .build "human_receipt" (d.unitCoded k previous)

def unitClosed (k : ℕ) (previous : Option String) : Object :=
  d.closurePayload k (d.card k).sha256 (d.releaseAfter k previous).sha256
    (d.humanAfter k previous).sha256

def closureAfter (k : ℕ) (previous : Option String) : ArtifactSnapshot :=
  .build "unit_closure" (d.unitClosed k previous)

/-- The digest of the closure before a unit. -/
def previous : ℕ → Option String
  | 0 => none
  | k + 1 => some (d.closureAfter k (previous k)).sha256

def release (k : ℕ) : ArtifactSnapshot := d.releaseAfter k (d.previous k)

def human (k : ℕ) : ArtifactSnapshot := d.humanAfter k (d.previous k)

def closure (k : ℕ) : ArtifactSnapshot := d.closureAfter k (d.previous k)

/-- The digests of the receipts and of the closures of the three units. -/
def receiptHashes : List String := (List.range 3).map fun k => (d.human k).sha256

def closureHashes : List String := (List.range 3).map fun k => (d.closure k).sha256

def revealAuthority : ArtifactSnapshot := d.approvalFor "bundle_unblind" none

def revealReceipt : ArtifactSnapshot :=
  .build "bundle_unblind_receipt"
    (d.unblindPayload d.revealAuthority.sha256 d.receiptHashes d.closureHashes)

/-- The schemas take the artifacts. -/
structure Admissible : Prop where
  access : checkSchema "reviewer_access_provenance" d.accessPayload = .ok ()
  form : checkSchema "empty_human_form" formPayload = .ok ()
  card : ∀ k < 3, checkSchema "reviewer_card" (d.cardPayload k) = .ok ()
  release : ∀ k < 3,
    checkSchema "unit_release_receipt" (d.unitReleased k (d.previous k)) = .ok ()
  human : ∀ k < 3, checkSchema "human_receipt" (d.unitCoded k (d.previous k)) = .ok ()
  closure : ∀ k < 3, checkSchema "unit_closure" (d.unitClosed k (d.previous k)) = .ok ()
  reveal : checkSchema "bundle_unblind_receipt" (d.unblindPayload d.revealAuthority.sha256
    d.receiptHashes d.closureHashes) = .ok ()

/-! ## What the artifacts hold

The keys of every payload are in order, so a snapshot holds the payload it was built from. -/

lemma sorted_of_isChain {o : Object} (hkeys : (o.map Prod.fst).IsChain (· < ·))
    (hvalues : ∀ e ∈ o, e.2.sorted = e.2) : (Value.dict o).sorted = .dict o := by
  refine congrArg Value.dict ?_
  induction o with
  | nil => rfl
  | cons e o ih =>
      obtain ⟨k, v⟩ := e
      have hv : v.sorted = v := hvalues _ List.mem_cons_self
      cases o with
      | nil =>
          rw [Value.sortedEntries, hv]
          rfl
      | cons e' o =>
          obtain ⟨l, w⟩ := e'
          obtain ⟨hlt, hrest⟩ := List.isChain_cons_cons.mp hkeys
          have hsorted : Value.sortedEntries ((l, w) :: o) = (l, w) :: o :=
            ih hrest fun e he => hvalues e (List.mem_cons_of_mem _ he)
          rw [Value.sortedEntries, hv, hsorted]
          exact if_pos hlt

lemma sortedItems_strs (ss : List String) : Value.sortedItems (ss.map .str) = ss.map .str := by
  induction ss with
  | nil => rfl
  | cons s ss ih => simp [Value.sortedItems, Value.sorted, ih]

lemma readableItems_strs (ss : List String) : Value.readableItems (ss.map .str) = true := by
  induction ss with
  | nil => rfl
  | cons s ss ih => simp [Value.readableItems, Value.readable, ih]

/-- The keys of every payload are in order. -/
lemma ascending (k : ℕ) (c f a : String) (p : Option String) (operation : String)
    (unit : Option String) (ss ts : List String) :
    (d.accessPayload.map Prod.fst).IsChain (· < ·) ∧
      (d.aliasPayload.map Prod.fst).IsChain (· < ·) ∧
      ((d.approval operation unit).map Prod.fst).IsChain (· < ·) ∧
      ((d.cardPayload k).map Prod.fst).IsChain (· < ·) ∧
      ((d.releasePayload k c f a p).map Prod.fst).IsChain (· < ·) ∧
      ((d.humanPayload k c f a).map Prod.fst).IsChain (· < ·) ∧
      ((d.closurePayload k c f a).map Prod.fst).IsChain (· < ·) ∧
      ((d.unblindPayload a ss ts).map Prod.fst).IsChain (· < ·) := by
  simp only [accessPayload, aliasPayload, approval, cardPayload, releasePayload, humanPayload,
    closurePayload, unblindPayload, List.map]
  decide +kernel

lemma sorted_accessPayload :
    (Value.dict (d.accessPayload)).sorted = .dict (d.accessPayload) := by
  refine sorted_of_isChain ?_ ?_
  · exact (d.ascending 0 "" "" "" none "" none [] []).1
  · simp [accessPayload, Value.sorted, Value.sortedItems]

lemma sorted_aliasPayload :
    (Value.dict (d.aliasPayload)).sorted = .dict (d.aliasPayload) := by
  refine sorted_of_isChain ?_ ?_
  · exact (d.ascending 0 "" "" "" none "" none [] []).2.1
  · simp [aliasPayload, Value.sorted]

lemma sorted_approval (operation : String) (unit : Option String) :
    (Value.dict (d.approval operation unit)).sorted = .dict (d.approval operation unit) := by
  refine sorted_of_isChain ?_ ?_
  · exact (d.ascending 0 "" "" "" none operation unit [] []).2.2.1
  · cases unit <;> simp [approval, Value.optStr, Value.sorted, Value.sortedItems, Value.strs]

lemma sorted_formPayload : (Value.dict formPayload).sorted = .dict formPayload := by rfl

lemma sorted_releasePayload (k : ℕ) (c f a : String) (p : Option String) :
    (Value.dict (d.releasePayload k c f a p)).sorted = .dict (d.releasePayload k c f a p) := by
  refine sorted_of_isChain ?_ ?_
  · exact (d.ascending k c f a p "" none [] []).2.2.2.2.1
  · cases p <;> simp [releasePayload, Value.optStr, Value.sorted, Value.sortedEntries, insertEntry]

lemma sorted_humanPayload (k : ℕ) (c r a : String) :
    (Value.dict (d.humanPayload k c r a)).sorted = .dict (d.humanPayload k c r a) := by
  refine sorted_of_isChain ?_ ?_
  · exact (d.ascending k c r a none "" none [] []).2.2.2.2.2.1
  · simp [humanPayload, Value.sorted, Value.sortedItems]

lemma sorted_closurePayload (k : ℕ) (c r h : String) :
    (Value.dict (d.closurePayload k c r h)).sorted = .dict (d.closurePayload k c r h) := by
  refine sorted_of_isChain ?_ ?_
  · exact (d.ascending k c r h none "" none [] []).2.2.2.2.2.2.1
  · simp [closurePayload, Value.sorted, Value.sortedEntries, insertEntry]

lemma sorted_cardPayload (k : ℕ) :
    (Value.dict (d.cardPayload k)).sorted = .dict (d.cardPayload k) := by
  have hreference : reference.sorted = reference := by rfl
  have houtput : output.sorted = output := by rfl
  refine sorted_of_isChain ?_ ?_
  · exact (d.ascending k "" "" "" none "" none [] []).2.2.2.1
  · simp [cardPayload, Value.sorted, Value.sortedEntries, hreference, houtput]

lemma sorted_unblindPayload (a : String) (r c : List String) :
    (Value.dict (d.unblindPayload a r c)).sorted = .dict (d.unblindPayload a r c) := by
  refine sorted_of_isChain ?_ ?_
  · exact (d.ascending 0 "" "" a none "" none r c).2.2.2.2.2.2.2
  · simp [unblindPayload, Value.sorted, Value.sortedItems, Value.sortedEntries, insertEntry,
      Value.strs, sortedItems_strs]

lemma readable_cardPayload {k : ℕ} (hk : k < 3) :
    (Value.dict (d.cardPayload k)).readable = true := by
  have hdigit : (10 : ℕ) ^ 1 ≤ 10 ^ maxDigits := Nat.pow_le_pow_right (by decide) (by decide)
  have hsequence : readableInt (k + 1) = true := by
    rw [readableInt_iff]
    omega
  have hconfidence : readableInt 1 = true := by
    rw [readableInt_iff]
    omega
  simp [cardPayload, reference, output, Value.readable, Value.readableItems,
    Value.readableEntries, hsequence, hconfidence]

lemma readable_unblindPayload (a : String) (r c : List String) :
    (Value.dict (d.unblindPayload a r c)).readable = true := by
  simp [unblindPayload, Value.readable, Value.readableEntries, Value.readableItems, Value.strs,
    readableItems_strs]

lemma data_access : d.access.data = .ok d.accessPayload := data_build d.sorted_accessPayload rfl

lemma data_commitment : d.commitment.data = .ok d.aliasPayload :=
  data_build d.sorted_aliasPayload rfl

lemma data_approvalFor (operation : String) (unit : Option String) :
    (d.approvalFor operation unit).data = .ok (d.approval operation unit) :=
  data_build (d.sorted_approval operation unit) (by cases unit <;> rfl)

lemma data_form : form.data = .ok formPayload := data_build sorted_formPayload rfl

lemma data_card {k : ℕ} (hk : k < 3) : (d.card k).data = .ok (d.cardPayload k) :=
  data_build (d.sorted_cardPayload k) (d.readable_cardPayload hk)

lemma data_release (k : ℕ) : (d.release k).data = .ok (d.unitReleased k (d.previous k)) :=
  data_build (d.sorted_releasePayload ..) (by cases k <;> rfl)

lemma data_human (k : ℕ) : (d.human k).data = .ok (d.unitCoded k (d.previous k)) :=
  data_build (d.sorted_humanPayload ..) rfl

lemma data_closure (k : ℕ) : (d.closure k).data = .ok (d.unitClosed k (d.previous k)) :=
  data_build (d.sorted_closurePayload ..) rfl

lemma data_revealReceipt : d.revealReceipt.data =
    .ok (d.unblindPayload d.revealAuthority.sha256 d.receiptHashes d.closureHashes) :=
  data_build (d.sorted_unblindPayload ..) (d.readable_unblindPayload ..)

/-! ## What `_validate` establishes of them -/

def binding : BundleBinding := ⟨protocolId, amendmentId, "PACKAGE", d.bundleId⟩

variable {d}

lemma check_binding {o : Object} (hprotocol : o.get "protocol_id" = .str protocolId)
    (hamendment : o.get "amendment_id" = .str amendmentId)
    (hpackage : o.get "package_id" = .str "PACKAGE")
    (hbundle : o.get "bundle_review_id" = .str d.bundleId) : d.binding.check o = .ok () := by
  simp only [BundleBinding.check, BundleBinding.fields, binding, Except.forM_eq_ok, require_eq_ok,
    List.forall_mem_cons, Value.eq_str]
  exact ⟨hprotocol, hamendment, hpackage, hbundle, by simp⟩

lemma validated_access (h : d.Admissible) :
    Validated accepting d.binding "reviewer_access_provenance" d.access d.accessPayload :=
  ⟨rfl, d.data_access, h.access, fun _ => check_binding rfl rfl rfl rfl, (), rfl⟩

lemma validated_commitment :
    Validated accepting d.binding "alias_commitment" d.commitment d.aliasPayload :=
  ⟨rfl, d.data_commitment, rfl, fun _ => check_binding rfl rfl rfl rfl, (), rfl⟩

lemma authorized_approvalFor (operation : String) (unit : Option String) :
    Authorized accepting d.binding operation (d.approvalFor operation unit)
      (d.approval operation unit) :=
  ⟨⟨rfl, d.data_approvalFor .., rfl, fun _ => check_binding rfl rfl rfl rfl, (), rfl⟩, rfl, rfl⟩

lemma validated_form (h : d.Admissible) :
    Validated accepting d.binding "empty_human_form" form formPayload :=
  ⟨rfl, data_form, h.form, fun hform => absurd rfl hform, (), rfl⟩

section

variable {k : ℕ} (h : d.Admissible) (hk : k < 3)

include h hk

lemma validated_card :
    Validated accepting d.binding "reviewer_card" (d.card k) (d.cardPayload k) :=
  ⟨rfl, d.data_card hk, h.card k hk, fun _ => check_binding rfl rfl rfl rfl, (), rfl⟩

lemma validated_release : Validated accepting d.binding "unit_release_receipt" (d.release k)
    (d.unitReleased k (d.previous k)) :=
  ⟨rfl, d.data_release k, h.release k hk, fun _ => check_binding rfl rfl rfl rfl, (), rfl⟩

lemma validated_human : Validated accepting d.binding "human_receipt" (d.human k)
    (d.unitCoded k (d.previous k)) :=
  ⟨rfl, d.data_human k, h.human k hk, fun _ => check_binding rfl rfl rfl rfl, (), rfl⟩

lemma validated_closure : Validated accepting d.binding "unit_closure" (d.closure k)
    (d.unitClosed k (d.previous k)) :=
  ⟨rfl, d.data_closure k, h.closure k hk, fun _ => check_binding rfl rfl rfl rfl, (), rfl⟩

end

lemma validated_reveal (h : d.Admissible) :
    Validated accepting d.binding "bundle_unblind_receipt" d.revealReceipt
      (d.unblindPayload d.revealAuthority.sha256 d.receiptHashes d.closureHashes) :=
  ⟨rfl, d.data_revealReceipt, h.reveal, fun _ => check_binding rfl rfl rfl rfl, (), rfl⟩

/-! ## Other digests

A schema that takes a payload with one digest takes it with every other. -/

lemma checkSchema_renewed {kind : String} {p q : Object} (h : List.Forall₂ Renewed p q)
    (hkind : checkKind kind q = checkKind kind p) (hp : checkSchema kind p = .ok ()) :
    checkSchema kind q = .ok () := by
  unfold checkSchema at hp ⊢
  by_cases hknown : (fieldsOf kind).isSome = true
  · rw [if_pos hknown] at hp ⊢
    exact validateArtifact_renewed h (fun hp => hkind.trans hp) hp
  · rw [if_neg hknown]
    rfl

lemma renewed_digest {field sha sha' : String} (hfield : field.endsWith "_sha256" = true)
    (h : isHash sha' = true) : Renewed (field, .str sha) (field, .str sha') :=
  .inr ⟨rfl, hfield, sha', rfl, h⟩

lemma fields_sha256 : ∀ field ∈ ["human_form_sha256", "reviewer_access_provenance_sha256",
    "reviewer_card_sha256", "previous_unit_closure_sha256", "release_receipt_sha256",
    "human_receipt_sha256", "human_authorization_receipt_sha256"],
    field.endsWith "_sha256" = true := by
  decide +kernel

section

variable {k : ℕ} {m c f a r h : String} {previous : Option String} (d : Dossier)

lemma schema_release (hc : isHash c = true) (hf : isHash f = true) (ha : isHash a = true)
    (hprevious : ∀ sha ∈ previous, isHash sha = true)
    (hm : checkSchema "unit_release_receipt"
      (d.releasePayload k m m m (previous.map fun _ => m)) = .ok ()) :
    checkSchema "unit_release_receipt" (d.releasePayload k c f a previous) = .ok () := by
  have hfields := fields_sha256
  simp only [List.forall_mem_cons] at hfields
  have hrenewed : List.Forall₂ Renewed (d.releasePayload k m m m (previous.map fun _ => m))
      (d.releasePayload k c f a previous) := by
    cases previous with
    | none => simp [releasePayload, renewed_digest, hfields, hc, hf, ha]
    | some sha =>
        have hsha : isHash sha = true := hprevious sha rfl
        simp [releasePayload, Value.optStr, renewed_digest, hfields, hc, hf, ha, hsha]
  exact checkSchema_renewed hrenewed rfl hm

lemma schema_human (hc : isHash c = true) (hr : isHash r = true) (ha : isHash a = true)
    (hm : checkSchema "human_receipt" (d.humanPayload k m m m) = .ok ()) :
    checkSchema "human_receipt" (d.humanPayload k c r a) = .ok () := by
  have hfields := fields_sha256
  simp only [List.forall_mem_cons] at hfields
  have hrenewed : List.Forall₂ Renewed (d.humanPayload k m m m) (d.humanPayload k c r a) := by
    simp [humanPayload, renewed_digest, hfields, hc, hr, ha]
  exact checkSchema_renewed hrenewed rfl hm

lemma schema_closure (hc : isHash c = true) (hr : isHash r = true) (hh : isHash h = true)
    (hm : checkSchema "unit_closure" (d.closurePayload k m m m) = .ok ()) :
    checkSchema "unit_closure" (d.closurePayload k c r h) = .ok () := by
  have hfields := fields_sha256
  simp only [List.forall_mem_cons] at hfields
  have hrenewed : List.Forall₂ Renewed (d.closurePayload k m m m)
      (d.closurePayload k c r h) := by
    simp [closurePayload, renewed_digest, hfields, hc, hr, hh]
  exact checkSchema_renewed hrenewed rfl hm

lemma schema_reveal {receipts closures : List String} (ha : isHash a = true)
    (hm : checkSchema "bundle_unblind_receipt" (d.unblindPayload m receipts closures) = .ok ()) :
    checkSchema "bundle_unblind_receipt" (d.unblindPayload a receipts closures) = .ok () := by
  have hfields := fields_sha256
  simp only [List.forall_mem_cons] at hfields
  have hrenewed : List.Forall₂ Renewed (d.unblindPayload m receipts closures)
      (d.unblindPayload a receipts closures) := by
    simp [unblindPayload, renewed_digest, hfields, ha]
  exact checkSchema_renewed hrenewed rfl hm

end

/-! ## A dossier the schemas take

The digests are computed from the bytes of the payloads, up to those of the receipts and closures,
which the reveal requires to differ. -/

/-- The digit of a number, 64 times. -/
def repeated (n : ℕ) : String := String.ofList (List.replicate 64 (hexDigit n))

def sample : Dossier where
  bundleId := repeated 11
  mapping := repeated 12
  policy := repeated 13
  sourceLink := repeated 14
  unitId := fun k => repeated (k + 1)

def accessWords : List ℕ :=
  [0xcf804848, 0xb0955084, 0x54209cef, 0x406a892f,
   0xa2d5980b, 0x28887d69, 0x5424c47b, 0x834d23ca]

def formWords : List ℕ :=
  [0x1e51954f, 0xa44f52d7, 0xf29ca59b, 0x8d638106,
   0x7b369ca9, 0xbd17c515, 0x71a78082, 0x67651ce0]

def cardWords : ℕ → List ℕ
  | 0 => [0x64aba36e, 0xcadc37c8, 0xe0a7d06f, 0x10fd5f09,
          0xcbc31ef8, 0xffe89b9f, 0xc77ccc9b, 0xa118dbe8]
  | 1 => [0xf3fb1577, 0x26ecea5c, 0x41529852, 0x27ec2da4,
          0xa0de6d66, 0x07c6b74a, 0x61e8fedd, 0xe1aa9c57]
  | _ => [0xa4b50ded, 0x8b124055, 0x980c4e13, 0x08963e96,
          0xe0d5c2d5, 0xc75e5fdf, 0x9b16ef0d, 0xec4e0258]

def releaseWords : ℕ → List ℕ
  | 0 => [0x35539090, 0xccddd14e, 0xe5f8c7b6, 0x0eaf4fbc,
          0xcf120ae6, 0xaa8954a6, 0xc0449f2e, 0xe403c6ce]
  | 1 => [0x876ce79a, 0xb007f6c2, 0x17adcf74, 0x094e35f9,
          0x8599dd60, 0xebc9b995, 0x26bc6f38, 0x202beb77]
  | _ => [0xb4ba670f, 0x5c601e93, 0x7a2a8c11, 0xf1e0b810,
          0xd2344273, 0x37ac2174, 0x9b800a53, 0x3d9214f6]

def humanWords : ℕ → List ℕ
  | 0 => [0x6823302b, 0xebf41f60, 0x45b2a2cc, 0x960c2dff,
          0x56d6f1b3, 0x3641aec3, 0xe43a6a27, 0xee6e112f]
  | 1 => [0xf01e40fb, 0x7986bf53, 0xece4ece9, 0xbf229bc1,
          0xe16ab522, 0xbf25b9c4, 0x84779727, 0x995aaa2c]
  | _ => [0xa3cf9c7d, 0x5f94b35f, 0x0b60144b, 0xa98ef663,
          0x94a326cf, 0x30d75a6d, 0x8cd0b862, 0x4bcb8f3a]

def closureWords : ℕ → List ℕ
  | 0 => [0xef2f814c, 0x4b335503, 0xefc9a495, 0x4ce04615,
          0x8828d846, 0x8694a74d, 0x8eb37cfe, 0x9f597a49]
  | 1 => [0x67a5f160, 0x83f0531d, 0x847ab58d, 0x39759c66,
          0x5661a91f, 0x6523ea6f, 0x58dee74a, 0xb2101cf8]
  | _ => [0x032cc04a, 0x6bedcfb4, 0x78302fa3, 0x060d7158,
          0x06bf2362, 0x8c899930, 0x5f1edb90, 0x0ef6ab1e]

def previousText : ℕ → Option String
  | 0 => none
  | k + 1 => some (digestText (closureWords k))

/-- The words of the digest of a payload in order. -/
def wordsOf (o : Object) : List ℕ := digestWords ((Value.dict o).bytes [])

lemma digests : wordsOf sample.accessPayload = accessWords ∧ wordsOf formPayload = formWords ∧
    ∀ k < 3, wordsOf (sample.cardPayload k) = cardWords k ∧
      wordsOf (sample.releasePayload k (digestText (cardWords k)) (digestText formWords)
        (digestText accessWords) (previousText k)) = releaseWords k ∧
      wordsOf (sample.humanPayload k (digestText (cardWords k)) (digestText (releaseWords k))
        (digestText accessWords)) = humanWords k ∧
      wordsOf (sample.closurePayload k (digestText (cardWords k)) (digestText (releaseWords k))
        (digestText (humanWords k))) = closureWords k := by
  decide +kernel

lemma schemas_fixed : checkSchema "reviewer_access_provenance" sample.accessPayload = .ok () ∧
    checkSchema "empty_human_form" formPayload = .ok () ∧
    checkSchema "bundle_unblind_receipt" (sample.unblindPayload sample.mapping
      ((List.range 3).map fun k => digestText (humanWords k))
      ((List.range 3).map fun k => digestText (closureWords k))) = .ok () := by
  decide +kernel

lemma schemas_unit : ∀ k < 3, checkSchema "reviewer_card" (sample.cardPayload k) = .ok () ∧
    checkSchema "unit_release_receipt" (sample.releasePayload k sample.mapping sample.mapping
      sample.mapping none) = .ok () ∧
    checkSchema "unit_release_receipt" (sample.releasePayload k sample.mapping sample.mapping
      sample.mapping (some sample.mapping)) = .ok () ∧
    checkSchema "human_receipt" (sample.humanPayload k sample.mapping sample.mapping
      sample.mapping) = .ok () ∧
    checkSchema "unit_closure" (sample.closurePayload k sample.mapping sample.mapping
      sample.mapping) = .ok () := by
  decide +kernel

lemma sha256_build_eq {kind : String} {o : Object} {ws : List ℕ}
    (hsorted : (Value.dict o).sorted = .dict o) (h : wordsOf o = ws) :
    (ArtifactSnapshot.build kind o).sha256 = digestText ws :=
  h ▸ sha256_build hsorted

lemma sha256_access : sample.access.sha256 = digestText accessWords :=
  sha256_build_eq sample.sorted_accessPayload digests.1

lemma sha256_form : form.sha256 = digestText formWords :=
  sha256_build_eq sorted_formPayload digests.2.1

section

variable {k : ℕ} (hk : k < 3)

include hk

lemma sha256_card : (sample.card k).sha256 = digestText (cardWords k) :=
  sha256_build_eq (sample.sorted_cardPayload k) (digests.2.2 k hk).1

lemma sha256_releaseAfter :
    (sample.releaseAfter k (previousText k)).sha256 = digestText (releaseWords k) := by
  rw [releaseAfter, unitReleased, sha256_card hk, sha256_form, sha256_access]
  exact sha256_build_eq (sample.sorted_releasePayload ..) (digests.2.2 k hk).2.1

lemma sha256_humanAfter :
    (sample.humanAfter k (previousText k)).sha256 = digestText (humanWords k) := by
  rw [humanAfter, unitCoded, sha256_card hk, sha256_releaseAfter hk, sha256_access]
  exact sha256_build_eq (sample.sorted_humanPayload ..) (digests.2.2 k hk).2.2.1

lemma sha256_closureAfter :
    (sample.closureAfter k (previousText k)).sha256 = digestText (closureWords k) := by
  rw [closureAfter, unitClosed, sha256_card hk, sha256_releaseAfter hk, sha256_humanAfter hk]
  exact sha256_build_eq (sample.sorted_closurePayload ..) (digests.2.2 k hk).2.2.2

omit hk in
lemma previous_sample (hk : k ≤ 3) : sample.previous k = previousText k := by
  induction k with
  | zero => rfl
  | succ k ih =>
      rw [previous, ih (by omega), sha256_closureAfter (by omega)]
      rfl

lemma sha256_human : (sample.human k).sha256 = digestText (humanWords k) := by
  rw [human, previous_sample hk.le]
  exact sha256_humanAfter hk

lemma sha256_closure : (sample.closure k).sha256 = digestText (closureWords k) := by
  rw [closure, previous_sample hk.le]
  exact sha256_closureAfter hk

end

/-- The digests of snapshots are hashes. -/
lemma isHash_build (kind : String) (o : Object) :
    isHash (ArtifactSnapshot.build kind o).sha256 = true := isHash_sha256Hex _

theorem admissible_sample : sample.Admissible where
  access := schemas_fixed.1
  form := schemas_fixed.2.1
  card := fun k hk => (schemas_unit k hk).1
  release := fun k hk => by
    have hschema : checkSchema "unit_release_receipt" (sample.releasePayload k sample.mapping
        sample.mapping sample.mapping ((sample.previous k).map fun _ => sample.mapping)) =
        .ok () := by
      cases k with
      | zero => exact (schemas_unit 0 hk).2.1
      | succ k => exact (schemas_unit (k + 1) hk).2.2.1
    refine schema_release _ (isHash_build ..) (isHash_build ..) (isHash_build ..) ?_ hschema
    intro sha hsha
    cases k with
    | zero => cases hsha
    | succ k =>
        cases hsha
        exact isHash_build ..
  human := fun k hk => schema_human _ (isHash_build ..) (isHash_build ..) (isHash_build ..)
    (schemas_unit k hk).2.2.2.1
  closure := fun k hk => schema_closure _ (isHash_build ..) (isHash_build ..) (isHash_build ..)
    (schemas_unit k hk).2.2.2.2
  reveal := by
    have hreceipts : sample.receiptHashes =
        (List.range 3).map fun k => digestText (humanWords k) :=
      List.map_congr_left fun k hk => sha256_human (List.mem_range.mp hk)
    have hclosures : sample.closureHashes =
        (List.range 3).map fun k => digestText (closureWords k) :=
      List.map_congr_left fun k hk => sha256_closure (List.mem_range.mp hk)
    rw [hreceipts, hclosures]
    exact schema_reveal _ (isHash_build ..) schemas_fixed.2.2

end Dossier

end CivicGate.Rq6
