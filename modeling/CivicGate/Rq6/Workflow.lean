import CivicGate.Framework.Machine
import CivicGate.Framework.Program
import CivicGate.Rq6.Schemas

/-!
# The workflow of one bundle

`BundleWorkflow` of `rq6/workflow.py`.  Every operation is a `Program` over the workflow and its
verifier: the verifier is any function that may answer differently each time it is asked, so it
carries a state of its own, and what an operation assigned before it raised stays assigned.

`workflows verify` runs any sequence of operations; between them the verifier's state may change
in any way.
-/

namespace CivicGate.Rq6

/-! ## The workflow -/

structure BundleBinding where
  protocolId : String
  amendmentId : String
  packageId : String
  bundleReviewId : String
  deriving DecidableEq

/-- The fields a payload must agree on. -/
def BundleBinding.fields (b : BundleBinding) : List (String × String) :=
  [("protocol_id", b.protocolId), ("amendment_id", b.amendmentId), ("package_id", b.packageId),
    ("bundle_review_id", b.bundleReviewId)]

/-- `binding.check(payload)` -/
def BundleBinding.check (b : BundleBinding) (payload : Object) : Except Raised Unit :=
  b.fields.forM fun f => require ((payload.get f.1).eq (.str f.2)) "CROSS_BUNDLE_BINDING"

/-- `_state` -/
inductive BundleState
  | frozen
  | aliasCommitmentFixed
  | unitReleased
  | humanReceiptFixed
  | unitClosureVerified
  | bundleMappingRevealed
  | mechanicalComparisonRecorded
  | rationaleAssessmentFixed
  | bundleCharacterizationFixed
  | deferred
  | bundleClosed
  | bundleClosedInsufficient
  deriving DecidableEq, Repr

/-- `state in TERMINAL_STATES` -/
def BundleState.isTerminal : BundleState → Bool
  | .bundleClosed | .bundleClosedInsufficient => true
  | _ => false

/-- The terminal state a closure names, `str(payload["state"])`. -/
def BundleState.ofClosure (v : Value) : Option BundleState :=
  if v.eq (.str "RQ6_BUNDLE_CLOSED") then some .bundleClosed
  else if v.eq (.str "RQ6_BUNDLE_CLOSED_INSUFFICIENT_REPEAT_EVIDENCE") then
    some .bundleClosedInsufficient
  else none

/-- The keys of `_fixed`. -/
inductive FixedKey
  | aliasCommitment
  | access
  | aliasAuthority
  | card (index : ℕ)
  | form (index : ℕ)
  | release (index : ℕ)
  | releaseAuthority (index : ℕ)
  | human (index : ℕ)
  | unitClosure (index : ℕ)
  | unblind
  | unblindAuthority
  | mechanical
  | mechanicalAuthority
  | assessmentInput
  | assessment
  | characterization
  | bundleClosure
  deriving DecidableEq, Repr

/-- The attributes of a `BundleWorkflow`; `fixed` has the entries of `_fixed`, each with the hash
`_fixed_hashes` has for its key. -/
structure BundleWorkflow where
  binding : BundleBinding
  preMappingFailure : Bool
  requiredUnitIds : List String
  primaryAnchorReceiptSha256 : String
  state : BundleState := .frozen
  fixed : List (FixedKey × ArtifactSnapshot × String) := []
  cards : List ArtifactSnapshot := []
  releases : List ArtifactSnapshot := []
  humanReceipts : List ArtifactSnapshot := []
  unitClosures : List ArtifactSnapshot := []
  assessmentHistory : List ArtifactSnapshot := []
  aliasCommitment : Option ArtifactSnapshot := none
  access : Option ArtifactSnapshot := none
  unblind : Option ArtifactSnapshot := none
  mechanical : Option ArtifactSnapshot := none
  assessmentInput : Option ArtifactSnapshot := none
  assessment : Option ArtifactSnapshot := none
  characterization : Option ArtifactSnapshot := none
  closure : Option ArtifactSnapshot := none
  deriving DecidableEq

/-- `BundleWorkflow(binding, required_unit_ids, verifier, primary_anchor_receipt_sha256)` -/
def BundleWorkflow.create (binding : BundleBinding) (requiredUnitIds : List String)
    (primaryAnchorReceiptSha256 : String) : Except Raised BundleWorkflow := do
  if isFailureId binding.bundleReviewId then
    require requiredUnitIds.isEmpty "PRE_MAPPING_FAILURE_HAS_REVIEWER_UNITS"
  else do
    require (requiredUnitIds.length = 3) "UNEXPECTED_SCHEDULED_COVERAGE"
    require requiredUnitIds.Nodup "DUPLICATE_UNIT_ID"
    require (requiredUnitIds.all (· ≠ "")) "INVALID_UNIT_ID"
  return { binding, preMappingFailure := isFailureId binding.bundleReviewId, requiredUnitIds,
           primaryAnchorReceiptSha256 }

/-- `BundleWorkflow.pre_mapping_failure(...)` -/
def BundleWorkflow.preMappingFailed (protocolId amendmentId packageId : String)
    (frozenManifestSha256 : String) (privateManifestPosition : ℤ)
    (primaryAnchorReceiptSha256 : String) : Except Raised BundleWorkflow := do
  require (isHash frozenManifestSha256) "INVALID_FROZEN_MANIFEST_HASH"
  require (0 < privateManifestPosition) "INVALID_PRIVATE_MANIFEST_POSITION"
  BundleWorkflow.create ⟨protocolId, amendmentId, packageId, "RQ6_CUSTODY_FAILURE:" ++
    frozenManifestSha256 ++ ":" ++ String.ofList (printInt privateManifestPosition)⟩ []
    primaryAnchorReceiptSha256

namespace BundleWorkflow

/-- `self.human_receipt_hashes` -/
def humanReceiptHashes (f : BundleWorkflow) : List String := f.humanReceipts.map (·.sha256)

/-- `self.unit_closure_hashes` -/
def unitClosureHashes (f : BundleWorkflow) : List String := f.unitClosures.map (·.sha256)

end BundleWorkflow

/-! ## Operations -/

/-- `str(value)`, for what can stand where a hash does; the text of a container begins with a
bracket and is no hash. -/
def Value.pyStr : Value → String
  | .str s => s
  | .null => "None"
  | .bool b => if b then "True" else "False"
  | .int n => String.ofList (printInt n)
  | v => v.exact

/-- What a verifier does with a snapshot. -/
inductive Verdict
  /-- It returns `None`. -/
  | accepted
  /-- It returns anything else. -/
  | invalid
  | raised
  deriving DecidableEq, Repr

/-- A workflow with the state of its verifier. -/
structure Session (V : Type) where
  flow : BundleWorkflow
  verifier : V

/-- A method of the workflow. -/
abbrev Op (V α : Type) := Program (Session V) Raised α

section

variable {V : Type} (verify : ArtifactSnapshot → V → Verdict × V)

/-- A check that asks no verifier. -/
def Op.ofExcept {V α : Type} (x : Except Raised α) : Op V α := Program.lift x

/-- `require(condition, code)` in a method. -/
def Op.require {V : Type} (condition : Bool) (code : String) : Op V Unit :=
  Op.ofExcept (Rq6.require condition code)

/-- The workflow as it stands. -/
def Op.self {V : Type} : Op V BundleWorkflow := do
  let s ← get
  return s.flow

/-- `require(self._verify(snapshot) is None, "INVALID_VERIFIER_CONTRACT")` -/
def checkVerified (snapshot : ArtifactSnapshot) : Op V Unit := fun s =>
  match verify snapshot s.verifier with
  | (.accepted, v) => (.ok (), { s with verifier := v })
  | (.invalid, v) => (.error (.rq6 "INVALID_VERIFIER_CONTRACT"), { s with verifier := v })
  | (.raised, v) => (.error .verifier, { s with verifier := v })

/-- One round of `verify_frozen`. -/
def verifyEntry (entry : FixedKey × ArtifactSnapshot × String) : Op V Unit := do
  Op.require (entry.2.1.sha256 = entry.2.2) "FROZEN_ARTIFACT_CHANGED"
  let _ ← Op.ofExcept entry.2.1.data
  checkVerified verify entry.2.1

/-- `verify_frozen` from an entry on. -/
def verifyEntries : List (FixedKey × ArtifactSnapshot × String) → Op V Unit
  | [] => pure ()
  | entry :: rest => do
    verifyEntry verify entry
    verifyEntries rest

/-- `self.verify_frozen()` -/
def verifyFrozen : Op V Unit := do
  let f ← Op.self
  verifyEntries verify f.fixed

/-- The schema of a kind that has one. -/
def checkSchema (kind : String) (payload : Object) : Except Raised Unit :=
  if (fieldsOf kind).isSome then validateArtifact kind payload else pure ()

/-- `self._validate(snapshot, kind)` -/
def validate (snapshot : ArtifactSnapshot) (kind : String) : Op V Object := do
  let f ← Op.self
  Op.require (snapshot.kind = kind) "WRONG_ARTIFACT_KIND"
  let payload ← Op.ofExcept snapshot.data
  Op.ofExcept (checkSchema kind payload)
  Op.ofExcept (if kind = "empty_human_form" then pure () else f.binding.check payload)
  checkVerified verify snapshot
  return payload

/-- `self._remember(key, snapshot)` -/
def remember {V : Type} (key : FixedKey) (snapshot : ArtifactSnapshot) : Op V Unit := do
  let f ← Op.self
  Op.require (key ∉ f.fixed.map Prod.fst) "IMMUTABLE_ARTIFACT_ALREADY_FIXED"
  modify fun s => { s with
    flow := { s.flow with fixed := s.flow.fixed ++ [(key, snapshot, snapshot.sha256)] } }

/-- Assign attributes. -/
def assign {V : Type} (change : BundleWorkflow → BundleWorkflow) : Op V Unit :=
  modify fun s => { s with flow := change s.flow }

/-- `self._authorize(authority, operation, unit_id)` -/
def authorize (authority : ArtifactSnapshot) (operation : String)
    (unitId : Option String := none) : Op V Object := do
  let payload ← validate verify authority "operation_authorization"
  Op.require ((payload.get "approved").is (.bool true)) "OPERATION_NOT_AUTHORIZED"
  Op.require ((payload.get "operation").eq (.str operation)) "WRONG_OPERATION_AUTHORITY"
  Op.require ((payload.get "reviewer_unit_id").eq (.optStr unitId)) "WRONG_UNIT_AUTHORITY"
  Op.require (payload.get "reviewer").truthy "AUTHORITY_REVIEWER_MISSING"
  return payload

/-- `self._check_current_unit(payload, index)`, with the id of the unit. -/
def checkCurrentUnit (f : BundleWorkflow) (payload : Object) (index : ℕ) :
    Except Raised Unit := do
  match f.requiredUnitIds[index]? with
  | none => throw (.rq6 "NO_UNRELEASED_UNIT")
  | some unit => require ((payload.get "reviewer_unit_id").eq (.str unit)) "UNIT_ORDER_VIOLATION"

/-- `assert value is not None` -/
def asserted {α : Type} (v : Option α) : Except Raised α := v.elim (.error .assertionError) .ok

/-- `xs[index]` -/
def itemAt (xs : List ArtifactSnapshot) (index : ℕ) : Except Raised ArtifactSnapshot :=
  xs[index]?.elim (.error .indexError) .ok

/-- `self._mapping_commitment()` -/
def mappingCommitment (f : BundleWorkflow) : Except Raised String := do
  match f.aliasCommitment with
  | none => throw (.rq6 "ALIAS_COMMITMENT_NOT_FIXED")
  | some commitment => do
    let payload ← commitment.data
    let commitment ← payload.item "mapping_commitment_sha256"
    return commitment.pyStr

/-- `all(payload.get(key) == value for key, value in links.items())` -/
def hasLinks (payload : Object) (links : List (String × Value)) : Bool :=
  links.all fun link => (payload.get link.1).eq link.2

/-! ### Up to the reveal -/

/-- What `fix_alias_commitment` checks. -/
def aliasChecks (commitment accessProvenance authority : ArtifactSnapshot) : Op V Unit := do
  let f ← Op.self
  Op.require (!f.preMappingFailure) "PRE_MAPPING_FAILURE_IS_CUSTODY_ONLY"
  Op.require (f.state = .frozen) "REMAPPING_PROHIBITED"
  verifyFrozen verify
  let aliasData ← validate verify commitment "alias_commitment"
  let access ← validate verify accessProvenance "reviewer_access_provenance"
  let authorization ← authorize verify authority "alias_mapping_creation"
  let policy ← Op.ofExcept (access.item "approved_access_policy_sha256")
  Op.require ((aliasData.get "reviewer_access_policy_sha256").eq policy)
    "ACCESS_POLICY_LINK_MISMATCH"
  let reviewer ← Op.ofExcept (authorization.item "reviewer")
  let accessReviewer ← Op.ofExcept (access.item "reviewer")
  Op.require (reviewer.eq accessReviewer) "REVIEWER_ACCESS_MISMATCH"

def fixAliasCommitment (commitment accessProvenance authority : ArtifactSnapshot) :
    Op V Unit := do
  aliasChecks verify commitment accessProvenance authority
  remember .aliasCommitment commitment
  remember .access accessProvenance
  remember .aliasAuthority authority
  assign fun f => { f with
    aliasCommitment := some commitment, access := some accessProvenance,
    state := .aliasCommitmentFixed }

/-- `self._unit_closures[-1].sha256 if index else None` -/
def previousClosure (f : BundleWorkflow) : Except Raised (Option String) :=
  if f.cards.length = 0 then .ok none
  else f.unitClosures.getLast?.elim (.error .indexError) fun c => .ok (some c.sha256)

/-- The links of a release receipt. -/
def releaseLinks (card emptyForm access : ArtifactSnapshot) (commitment sourceLink : Value)
    (previous : Option String) : List (String × Value) :=
  [("reviewer_card_sha256", .str card.sha256), ("human_form_sha256", .str emptyForm.sha256),
    ("mapping_commitment_sha256", commitment), ("source_link_commitment_sha256", sourceLink),
    ("reviewer_access_provenance_sha256", .str access.sha256),
    ("previous_unit_closure_sha256", .optStr previous)]

/-- What `release_unit` checks. -/
def releaseChecks (card emptyForm releaseReceipt authority : ArtifactSnapshot) : Op V Unit := do
  let f ← Op.self
  Op.require (!f.preMappingFailure) "PRE_MAPPING_FAILURE_IS_CUSTODY_ONLY"
  Op.require (f.state = .aliasCommitmentFixed || f.state = .unitClosureVerified)
    "PREMATURE_UNIT_RELEASE"
  verifyFrozen verify
  let index := f.cards.length
  let evidence ← validate verify card "reviewer_card"
  Op.ofExcept (checkCurrentUnit f evidence index)
  let form ← validate verify emptyForm "empty_human_form"
  let release ← validate verify releaseReceipt "unit_release_receipt"
  Op.ofExcept (checkCurrentUnit f release index)
  let authorization ← authorize verify authority "unit_release" f.requiredUnitIds[index]?
  let access ← Op.ofExcept (asserted f.access)
  let reviewer ← Op.ofExcept (authorization.item "reviewer")
  let accessData ← Op.ofExcept access.data
  let accessReviewer ← Op.ofExcept (accessData.item "reviewer")
  Op.require (reviewer.eq accessReviewer) "REVIEWER_ACCESS_MISMATCH"
  let sequence ← Op.ofExcept (evidence.item "observation_sequence_within_bundle")
  Op.require (sequence.eq (.int (index + 1))) "OBSERVATION_ORDER_VIOLATION"
  let blindAlias ← Op.ofExcept (evidence.item "blind_alias")
  Op.require (blindAlias.eq (.str "SIDE_1")) "UNEXPECTED_SOURCE_TOPOLOGY"
  Op.require (form.all fun entry =>
    entry.2.eq .null || entry.2.eq (.str "") || entry.2.eq (.list [])) "PREPOPULATED_HUMAN_FORM"
  let commitment ← Op.ofExcept (evidence.item "mapping_commitment_sha256")
  let mapping ← Op.ofExcept (mappingCommitment f)
  Op.require (commitment.eq (.str mapping)) "REMAPPING_PROHIBITED"
  let sourceLink ← Op.ofExcept (evidence.item "source_link_commitment_sha256")
  let previous ← Op.ofExcept (previousClosure f)
  Op.require (hasLinks release (releaseLinks card emptyForm access commitment sourceLink previous))
    "RELEASE_LINK_MISMATCH"
  Op.require (f.unitClosures.length = index) "PREVIOUS_UNIT_NOT_CLOSED"

def releaseUnit (card emptyForm releaseReceipt authority : ArtifactSnapshot) : Op V Unit := do
  let f ← Op.self
  let index := f.cards.length
  releaseChecks verify card emptyForm releaseReceipt authority
  remember (.card index) card
  remember (.form index) emptyForm
  remember (.release index) releaseReceipt
  remember (.releaseAuthority index) authority
  assign fun f => { f with
    cards := f.cards ++ [card], releases := f.releases ++ [releaseReceipt],
    state := .unitReleased }

/-- The links of a human receipt. -/
def humanLinks (card release access : ArtifactSnapshot) (mapping : String)
    (sourceLink blindAlias reviewer : Value) : List (String × Value) :=
  [("reviewer_card_sha256", .str card.sha256), ("release_receipt_sha256", .str release.sha256),
    ("mapping_commitment_sha256", .str mapping), ("source_link_commitment_sha256", sourceLink),
    ("reviewer_access_provenance_sha256", .str access.sha256), ("blind_alias", blindAlias),
    ("reviewer", reviewer)]

/-- What `fix_human_receipt` checks. -/
def humanChecks (receipt : ArtifactSnapshot) : Op V Unit := do
  let f ← Op.self
  Op.require (f.state = .unitReleased) "HUMAN_RECEIPT_OUT_OF_SEQUENCE"
  verifyFrozen verify
  let index := f.humanReceipts.length
  let human ← validate verify receipt "human_receipt"
  Op.ofExcept (checkCurrentUnit f human index)
  let card ← Op.ofExcept (itemAt f.cards index)
  let evidence ← Op.ofExcept card.data
  let access ← Op.ofExcept (asserted f.access)
  let release ← Op.ofExcept (itemAt f.releases index)
  let mapping ← Op.ofExcept (mappingCommitment f)
  let sourceLink ← Op.ofExcept (evidence.item "source_link_commitment_sha256")
  let blindAlias ← Op.ofExcept (evidence.item "blind_alias")
  let accessData ← Op.ofExcept access.data
  let reviewer ← Op.ofExcept (accessData.item "reviewer")
  Op.require (hasLinks human
    (humanLinks card release access mapping sourceLink blindAlias reviewer))
    "HUMAN_RECEIPT_LINK_MISMATCH"
  let blind ← Op.ofExcept (human.item "operationally_mapping_blind_at_coding")
  Op.require (blind.is (.bool true)) "CODING_NOT_MAPPING_BLIND"
  let seen ← Op.ofExcept (human.item "mechanical_stability_seen")
  Op.require (seen.is (.bool false)) "MECHANICAL_HINDSIGHT"

def fixHumanReceipt (receipt : ArtifactSnapshot) : Op V Unit := do
  let f ← Op.self
  let index := f.humanReceipts.length
  humanChecks verify receipt
  remember (.human index) receipt
  assign fun f => { f with
    humanReceipts := f.humanReceipts ++ [receipt], state := .humanReceiptFixed }

/-- The links of a unit closure. -/
def closureLinks (card release human : ArtifactSnapshot) (mapping : String)
    (sourceLink : Value) : List (String × Value) :=
  [("reviewer_card_sha256", .str card.sha256), ("release_receipt_sha256", .str release.sha256),
    ("human_receipt_sha256", .str human.sha256), ("mapping_commitment_sha256", .str mapping),
    ("source_link_commitment_sha256", sourceLink)]

/-- What `verify_unit_closure` checks. -/
def unitClosureChecks (closure : ArtifactSnapshot) : Op V Unit := do
  let f ← Op.self
  Op.require (f.state = .humanReceiptFixed) "UNIT_CLOSURE_OUT_OF_SEQUENCE"
  verifyFrozen verify
  let index := f.unitClosures.length
  let payload ← validate verify closure "unit_closure"
  Op.ofExcept (checkCurrentUnit f payload index)
  let card ← Op.ofExcept (itemAt f.cards index)
  let evidence ← Op.ofExcept card.data
  let release ← Op.ofExcept (itemAt f.releases index)
  let human ← Op.ofExcept (itemAt f.humanReceipts index)
  let mapping ← Op.ofExcept (mappingCommitment f)
  let sourceLink ← Op.ofExcept (evidence.item "source_link_commitment_sha256")
  Op.require (hasLinks payload (closureLinks card release human mapping sourceLink))
    "UNIT_CLOSURE_LINK_MISMATCH"
  let codingFrozen ← Op.ofExcept (payload.item "semantic_coding_frozen")
  let unblinded ← Op.ofExcept (payload.item "unblinded")
  Op.require (codingFrozen.is (.bool true) && unblinded.is (.bool false)) "INVALID_UNIT_FREEZE"
  let state ← Op.ofExcept (payload.item "state")
  Op.require (state.eq (.str "SEMANTICALLY_CLOSED_BLINDED")) "INVALID_UNIT_STATE"

def verifyUnitClosure (closure : ArtifactSnapshot) : Op V Unit := do
  let f ← Op.self
  let index := f.unitClosures.length
  unitClosureChecks verify closure
  remember (.unitClosure index) closure
  assign fun f => { f with
    unitClosures := f.unitClosures ++ [closure], state := .unitClosureVerified }

/-- What `reveal_mapping` checks before it assigns. -/
def revealChecks (receipt authority : ArtifactSnapshot) : Op V Unit := do
  let f ← Op.self
  Op.require (f.state = .unitClosureVerified) "PREMATURE_UNBLIND"
  Op.require (f.unitClosures.length = f.requiredUnitIds.length) "PREMATURE_UNBLIND"
  verifyFrozen verify
  let unblind ← validate verify receipt "bundle_unblind_receipt"
  let authorization ← authorize verify authority "bundle_unblind"
  let fixedAlias ← Op.ofExcept (asserted f.aliasCommitment)
  let commitment ← Op.ofExcept (unblind.item "alias_commitment_sha256")
  let mapping ← Op.ofExcept (mappingCommitment f)
  Op.require (commitment.eq (.str mapping)) "UNBLIND_COMMITMENT_MISMATCH"
  let receipts ← Op.ofExcept (unblind.item "required_human_receipt_hashes")
  Op.require (receipts.eq (.strs f.humanReceiptHashes)) "UNBLIND_RECEIPT_COVERAGE_MISMATCH"
  let closures ← Op.ofExcept (unblind.item "required_unit_closure_hashes")
  Op.require (closures.eq (.strs f.unitClosureHashes)) "UNBLIND_CLOSURE_COVERAGE_MISMATCH"
  let human ← Op.ofExcept (unblind.item "human_authorization_receipt_sha256")
  Op.require (human.eq (.str authority.sha256)) "UNBLIND_AUTHORITY_LINK_MISMATCH"
  let recipients ← Op.ofExcept (unblind.item "authorized_recipients")
  Op.require (recipients.eq (authorization.get "authorized_recipients"))
    "UNBLIND_AUDIENCE_MISMATCH"
  Op.require recipients.truthy "EMPTY_UNBLIND_AUDIENCE"
  let policy ← Op.ofExcept (unblind.item "reviewer_access_policy_sha256")
  let aliasData ← Op.ofExcept fixedAlias.data
  let aliasPolicy ← Op.ofExcept (aliasData.item "reviewer_access_policy_sha256")
  Op.require (policy.eq aliasPolicy) "UNBLIND_ACCESS_POLICY_MISMATCH"

/-- `reveal_mapping` up to its last assignment. -/
def fixReveal (receipt authority : ArtifactSnapshot) : Op V Unit := do
  revealChecks verify receipt authority
  remember .unblind receipt
  remember .unblindAuthority authority
  assign fun f => { f with unblind := some receipt, state := .bundleMappingRevealed }

def revealMapping (receipt authority : ArtifactSnapshot) : Op V Unit := do
  fixReveal verify receipt authority
  verifyFrozen verify

/-! ### After the reveal -/

/-- What `record_mechanical` checks. -/
def mechanicalChecks (comparison authority : ArtifactSnapshot) : Op V Unit := do
  let f ← Op.self
  Op.require (f.state = .bundleMappingRevealed) "PREMATURE_MECHANICAL_COMPARISON"
  verifyFrozen verify
  let payload ← validate verify comparison "mechanical_comparison"
  let _ ← authorize verify authority "mechanical_comparison"
  let unblind ← Op.ofExcept (asserted f.unblind)
  Op.require ((payload.get "unblind_receipt_sha256").eq (.str unblind.sha256))
    "MECHANICAL_UNBLIND_LINK_MISMATCH"
  Op.require ((payload.get "primary_anchor_receipt_sha256").eq (.str f.primaryAnchorReceiptSha256))
    "WRONG_PRIMARY_ANCHOR"
  Op.require ((payload.get "observation_count").eq (.int 4)) "INCOMPLETE_MECHANICAL_COVERAGE"

def recordMechanical (comparison authority : ArtifactSnapshot) : Op V Unit := do
  mechanicalChecks verify comparison authority
  remember .mechanical comparison
  remember .mechanicalAuthority authority
  assign fun f => { f with
    mechanical := some comparison, state := .mechanicalComparisonRecorded }

/-- What `fix_rationale_assessment` requires of the artifact and of its receipt alike. -/
def checkAssessed (f : BundleWorkflow) (unblind : ArtifactSnapshot) (payload : Object) :
    Except Raised Unit := do
  let receipt ← payload.item "unblind_receipt_sha256"
  require (receipt.eq (.str unblind.sha256)) "ASSESSMENT_UNBLIND_LINK_MISMATCH"
  let anchor ← payload.item "primary_anchor_receipt_sha256"
  require (anchor.eq (.str f.primaryAnchorReceiptSha256)) "WRONG_PRIMARY_ANCHOR"
  let receipts ← payload.item "completed_unit_receipt_hashes"
  require (receipts.eq (.strs f.humanReceiptHashes)) "ASSESSMENT_RECEIPT_COVERAGE_MISMATCH"

/-- `item.data()["stored_output"]["rationale"]` -/
def storedRationale (card : ArtifactSnapshot) : Except Raised Value := do
  let payload ← card.data
  match ← payload.item "stored_output" with
  | .dict output => Object.item output "rationale"
  | _ => throw .typeError

/-- The coding a human receipt froze. -/
def frozenCoding (receipt : ArtifactSnapshot) : Except Raised Value := do
  let payload ← receipt.data
  let disposition ← payload.item "primary_disposition"
  let sets ← payload.item "rationale_propositions"
  let reason ← payload.item "reviewer_reason"
  return .dict [("primary_disposition", disposition), ("rationale_propositions", sets),
    ("reviewer_reason", reason)]

/-- What `fix_rationale_assessment` checks. -/
def assessmentChecks (artifact receipt : ArtifactSnapshot) : Op V Unit := do
  let f ← Op.self
  Op.require (f.state = .mechanicalComparisonRecorded) "PREMATURE_RATIONALE_ASSESSMENT"
  verifyFrozen verify
  let source ← validate verify artifact "rationale_variation_assessment_artifact"
  let human ← validate verify receipt "rationale_variation_assessment_receipt"
  let unblind ← Op.ofExcept (asserted f.unblind)
  Op.ofExcept (checkAssessed f unblind source)
  Op.ofExcept (checkAssessed f unblind human)
  let input ← Op.ofExcept (human.item "rationale_artifact_sha256")
  Op.require (input.eq (.str artifact.sha256)) "ASSESSMENT_INPUT_LINK_MISMATCH"
  let rationales ← Op.ofExcept (source.item "repeat_rationales")
  let stored ← Op.ofExcept (f.cards.mapM storedRationale)
  Op.require (rationales.eq (.list stored)) "FROZEN_RATIONALE_CHANGED"
  let projections ← Op.ofExcept (f.humanReceipts.mapM frozenCoding)
  let coding ← Op.ofExcept (source.item "frozen_repeat_semantic_coding")
  Op.require (coding.eq (.list projections)) "FROZEN_SEMANTIC_CODING_CHANGED"

def fixRationaleAssessment (artifact receipt : ArtifactSnapshot) : Op V Unit := do
  assessmentChecks verify artifact receipt
  remember .assessmentInput artifact
  remember .assessment receipt
  assign fun f => { f with
    assessmentHistory := f.assessmentHistory ++ [receipt], assessmentInput := some artifact,
    assessment := some receipt, state := .rationaleAssessmentFixed }

/-- Whether the two findings leave the bundle to a human. -/
def isDeferred (assessment mechanical : Object) : Except Raised Bool := do
  let stableAxes := (mechanical.get "class_changed").is (.bool false) &&
    (mechanical.get "flags_changed").is (.bool false)
  let variation ← assessment.item "rationale_variation"
  if variation.eq (.str "UNRESOLVED") then return true
  else if stableAxes then do
    let boundary ← assessment.item "material_boundary_changed"
    return boundary.is (.bool true)
  else return false

/-- The status and the disposition a characterization must have. -/
def checkCharacterized (toHuman : Bool) (payload : Object) : Except Raised Unit :=
  let isDeferred := (payload.get "review_status").eq (.str deferred)
  let isOpen := (payload.get "stability_disposition").is .null
  if toHuman then require (isDeferred && isOpen) "DEFERRED_NOT_TERMINAL"
  else require (!isDeferred && !isOpen) "MISSING_FINAL_CHARACTERIZATION"

/-- What `fix_characterization` checks; it returns whether the bundle is deferred. -/
def characterizationChecks (characterization : ArtifactSnapshot) : Op V Bool := do
  let f ← Op.self
  Op.require (f.state = .rationaleAssessmentFixed) "CHARACTERIZATION_OUT_OF_SEQUENCE"
  verifyFrozen verify
  let payload ← validate verify characterization "bundle_characterization"
  let fixedMechanical ← Op.ofExcept (asserted f.mechanical)
  let fixedAssessment ← Op.ofExcept (asserted f.assessment)
  Op.require ((payload.get "mechanical_comparison_sha256").eq (.str fixedMechanical.sha256))
    "CHARACTERIZATION_MECHANICAL_LINK_MISMATCH"
  Op.require ((payload.get "rationale_variation_assessment_receipt_sha256").eq
    (.str fixedAssessment.sha256)) "CHARACTERIZATION_ASSESSMENT_LINK_MISMATCH"
  let assessment ← Op.ofExcept fixedAssessment.data
  let mechanical ← Op.ofExcept fixedMechanical.data
  let toHuman ← Op.ofExcept (isDeferred assessment mechanical)
  Op.ofExcept (checkCharacterized toHuman payload)
  return toHuman

def fixCharacterization (characterization : ArtifactSnapshot) : Op V Unit := do
  let toHuman ← characterizationChecks verify characterization
  remember .characterization characterization
  assign fun f => { f with
    characterization := some characterization,
    state := if toHuman then .deferred else .bundleCharacterizationFixed }

/-! ### Closure -/

/-- The alias commitment a closure names, if one is fixed. -/
def fixedCommitment (f : BundleWorkflow) : Except Raised Value :=
  match f.aliasCommitment with
  | some _ => (mappingCommitment f).map .str
  | none => .ok .null

/-- What `_close_common` checks before it assigns. -/
def commonChecks {V : Type} (payload : Object) (complete : Bool) : Op V Unit := do
  let f ← Op.self
  let units ← Op.ofExcept (payload.item "reviewer_unit_ids")
  Op.require (units.eq (.strs (f.requiredUnitIds.take f.cards.length)))
    "CLOSURE_UNIT_COVERAGE_MISMATCH"
  let receipts ← Op.ofExcept (payload.item "human_receipt_hashes")
  Op.require (receipts.eq (.strs f.humanReceiptHashes)) "CLOSURE_RECEIPT_COVERAGE_MISMATCH"
  let closures ← Op.ofExcept (payload.item "unit_closure_hashes")
  Op.require (closures.eq (.strs f.unitClosureHashes)) "CLOSURE_UNIT_CLOSURE_MISMATCH"
  let commitment ← Op.ofExcept (payload.item "alias_commitment_sha256")
  let fixedAlias ← Op.ofExcept (fixedCommitment f)
  Op.require (commitment.eq fixedAlias) "CLOSURE_ALIAS_LINK_MISMATCH"
  Op.require (!complete || f.unitClosures.length = f.requiredUnitIds.length)
    "INCOMPLETE_TERMINAL_COVERAGE"

/-- `_close_common` up to its last assignment. -/
def fixClosure {V : Type} (closure : ArtifactSnapshot) (payload : Object) (complete : Bool) :
    Op V Unit := do
  commonChecks payload complete
  remember .bundleClosure closure
  let state ← Op.ofExcept (payload.item "state")
  let terminal ← Op.ofExcept (asserted (BundleState.ofClosure state))
  assign fun f => { f with closure := some closure, state := terminal }

/-- `self._close_common(closure, payload, complete=complete)` -/
def closeCommon (closure : ArtifactSnapshot) (payload : Object) (complete : Bool) :
    Op V Unit := do
  fixClosure closure payload complete
  verifyFrozen verify

/-- What `close_bundle` checks; it returns the payload of the closure. -/
def completeChecks (closure : ArtifactSnapshot) : Op V Object := do
  let f ← Op.self
  Op.require (f.state = .bundleCharacterizationFixed) "PREMATURE_BUNDLE_CLOSURE"
  verifyFrozen verify
  let payload ← validate verify closure "bundle_closure"
  let characterization ← Op.ofExcept (asserted f.characterization)
  let unblind ← Op.ofExcept (asserted f.unblind)
  let assessment ← Op.ofExcept (asserted f.assessment)
  let state ← Op.ofExcept (payload.item "state")
  Op.require (state.eq (.str "RQ6_BUNDLE_CLOSED")) "WRONG_TERMINAL_BRANCH"
  let characterized ← Op.ofExcept characterization.data
  let disposition ← Op.ofExcept (payload.item "stability_disposition")
  let fixedDisposition ← Op.ofExcept (characterized.item "stability_disposition")
  Op.require (disposition.eq fixedDisposition) "CLOSURE_CHARACTERIZATION_MISMATCH"
  let status ← Op.ofExcept (payload.item "review_status")
  let fixedStatus ← Op.ofExcept (characterized.item "review_status")
  Op.require (status.eq fixedStatus) "CLOSURE_REVIEW_STATUS_MISMATCH"
  let receipt ← Op.ofExcept (payload.item "unblind_receipt_sha256")
  Op.require (receipt.eq (.str unblind.sha256)) "CLOSURE_UNBLIND_LINK_MISMATCH"
  let assessed ← Op.ofExcept (payload.item "rationale_variation_assessment_receipt_sha256")
  Op.require (assessed.eq (.str assessment.sha256)) "CLOSURE_ASSESSMENT_LINK_MISMATCH"
  return payload

def closeBundle (closure : ArtifactSnapshot) : Op V Unit := do
  let payload ← completeChecks verify closure
  closeCommon verify closure payload true

/-- `hash in payload["provenance_hashes"]` -/
def hasProvenance (payload : Object) (hash : String) : Except Raised Bool := do
  let hashes ← payload.item "provenance_hashes"
  return hashes.items.any (·.eq (.str hash))

/-- What an insufficient closure says of the reveal. -/
def checkUnblindHistory (f : BundleWorkflow) (payload : Object) : Except Raised Unit := do
  let receipt ← payload.item "unblind_receipt_sha256"
  let mapping ← payload.item "revealed_source_mapping"
  match f.unblind with
  | none => require (receipt.is .null && mapping.is .null) "INSUFFICIENT_PREMATURE_UNBLIND"
  | some unblind => do
    let revealed ← unblind.data
    let fixedMapping ← revealed.item "revealed_current_bundle_mapping"
    let audience ← payload.item "authorized_identity_audience"
    let recipients ← revealed.item "authorized_recipients"
    require (receipt.eq (.str unblind.sha256) && mapping.eq fixedMapping && audience.eq recipients)
      "INSUFFICIENT_UNBLIND_HISTORY_CHANGED"

/-- What an insufficient closure says of the mechanical comparison. -/
def checkMechanicalHistory (f : BundleWorkflow) (payload : Object) : Except Raised Unit := do
  let comparison ← payload.item "per_model_primary_repeat_comparison"
  match f.mechanical with
  | none => require (comparison.is .null) "INSUFFICIENT_IMPUTED_MECHANICAL"
  | some mechanical => do
    let known ← hasProvenance payload mechanical.sha256
    require (comparison.exact = mechanical.payload && known)
      "INSUFFICIENT_MECHANICAL_HISTORY_CHANGED"

/-- What an insufficient closure says of the rationale assessment. -/
def checkAssessmentHistory (f : BundleWorkflow) (payload : Object) : Except Raised Unit := do
  let receipt ← payload.item "rationale_variation_assessment_receipt_sha256"
  let record ← payload.item "frozen_rationale_variation_record"
  match f.assessment with
  | none => require (receipt.is .null && record.is .null) "INSUFFICIENT_IMPUTED_ASSESSMENT"
  | some assessment => do
    let known ← hasProvenance payload assessment.sha256
    require (receipt.eq (.str assessment.sha256) && record.exact = assessment.payload && known)
      "INSUFFICIENT_ASSESSMENT_HISTORY_CHANGED"

/-- What `close_insufficient` checks; it returns the payload of the closure. -/
def insufficientChecks (closure : ArtifactSnapshot) : Op V Object := do
  let f ← Op.self
  Op.require (!f.state.isTerminal && f.state ≠ .deferred) "INVALID_INSUFFICIENT_TRANSITION"
  verifyFrozen verify
  let payload ← validate verify closure "bundle_closure"
  let state ← Op.ofExcept (payload.item "state")
  Op.require (state.eq (.str "RQ6_BUNDLE_CLOSED_INSUFFICIENT_REPEAT_EVIDENCE"))
    "WRONG_TERMINAL_BRANCH"
  let disposition ← Op.ofExcept (payload.item "stability_disposition")
  Op.require (disposition.eq (.str "INSUFFICIENT_REPEAT_EVIDENCE"))
    "INVALID_INSUFFICIENT_DISPOSITION"
  let missing ← Op.ofExcept (payload.item "missing_evidence")
  let unusable ← Op.ofExcept (payload.item "unusable_evidence")
  Op.require (missing.truthy || unusable.truthy) "UNDOCUMENTED_INSUFFICIENCY"
  let limitations ← Op.ofExcept (payload.item "evidence_limitation_reasons")
  let reason ← Op.ofExcept (payload.item "stability_not_established_reason")
  Op.require (limitations.truthy && reason.truthy) "UNDOCUMENTED_INSUFFICIENCY"
  Op.ofExcept (checkUnblindHistory f payload)
  Op.ofExcept (checkMechanicalHistory f payload)
  Op.ofExcept (checkAssessmentHistory f payload)
  return payload

def closeInsufficient (closure : ArtifactSnapshot) : Op V Unit := do
  let payload ← insufficientChecks verify closure
  closeCommon verify closure payload false

end

/-! ## Runs -/

/-- A call of an operation. -/
inductive FlowCall
  | fixAliasCommitment (commitment accessProvenance authority : ArtifactSnapshot)
  | releaseUnit (card emptyForm releaseReceipt authority : ArtifactSnapshot)
  | fixHumanReceipt (receipt : ArtifactSnapshot)
  | verifyUnitClosure (closure : ArtifactSnapshot)
  | revealMapping (receipt authority : ArtifactSnapshot)
  | recordMechanical (comparison authority : ArtifactSnapshot)
  | fixRationaleAssessment (artifact receipt : ArtifactSnapshot)
  | fixCharacterization (characterization : ArtifactSnapshot)
  | closeBundle (closure : ArtifactSnapshot)
  | closeInsufficient (closure : ArtifactSnapshot)
  | verifyFrozen
  deriving DecidableEq

/-- The method of a call. -/
def FlowCall.op {V : Type} (verify : ArtifactSnapshot → V → Verdict × V) :
    FlowCall → Op V Unit
  | .fixAliasCommitment c p a => Rq6.fixAliasCommitment verify c p a
  | .releaseUnit c e r a => Rq6.releaseUnit verify c e r a
  | .fixHumanReceipt r => Rq6.fixHumanReceipt verify r
  | .verifyUnitClosure c => Rq6.verifyUnitClosure verify c
  | .revealMapping r a => Rq6.revealMapping verify r a
  | .recordMechanical c a => Rq6.recordMechanical verify c a
  | .fixRationaleAssessment a r => Rq6.fixRationaleAssessment verify a r
  | .fixCharacterization c => Rq6.fixCharacterization verify c
  | .closeBundle c => Rq6.closeBundle verify c
  | .closeInsufficient c => Rq6.closeInsufficient verify c
  | .verifyFrozen => Rq6.verifyFrozen verify

/-- What happens to a workflow: a call, or its verifier comes to a state of its own. -/
inductive FlowInput (V : Type)
  | call (c : FlowCall)
  | verifier (change : V → V)

/-- A bundle workflow under any sequence of calls. -/
def workflows {V : Type} (verify : ArtifactSnapshot → V → Verdict × V) :
    Machine (Session V) (FlowInput V) (Except Raised Unit) where
  step s
    | .call c => ((c.op verify).run s).swap
    | .verifier change => ({ s with verifier := change s.verifier }, .ok ())

end CivicGate.Rq6
