import CivicGate.Rq6.Card

/-!
# Framing

`frame` of `rq6/crypto.py`: the domain of the operation, one NUL and the canonical payload.  A
domain has no NUL and the encoder is injective, so a frame determines the operation and the
payload, and under an injective hash so does a commitment.
-/

namespace CivicGate.Rq6.Crypto

/-! ## Declared domains -/

/-- A domain as it is given: a text, or bytes. -/
inductive Domain
  | text (value : String)
  | bytes (value : Bytes)

/-- The keys of `DOMAINS`. -/
def Operation.name : Operation → String
  | .mapping => "mapping"
  | .aliasAssignment => "alias_assignment"
  | .opaqueBundleId => "opaque_bundle_id"
  | .opaqueUnitId => "opaque_unit_id"
  | .sourceLink => "source_link"

/-- The operations of `DOMAINS`, in its order. -/
def operations : List Operation :=
  [.mapping, .aliasAssignment, .opaqueBundleId, .opaqueUnitId, .sourceLink]

/-- `text.encode("ascii")` -/
def encodeAscii (text : String) : Except Raised Bytes :=
  if text.toList.all (·.toNat < 128) then .ok (text.toList.map Char.toNat)
  else .error (.rq6 "UNKNOWN_COMMITMENT_DOMAIN")

/-- The operation of an encoded domain. -/
def ofEncoded (encoded : Bytes) : Except Raised Operation :=
  (operations.find? fun operation => operation.domain.toList.map Char.toNat = encoded).elim
    (.error (.rq6 "UNKNOWN_COMMITMENT_DOMAIN")) .ok

/-- The operation `frame` takes a domain for. -/
def Domain.operation : Domain → Except Raised Operation
  | .text value =>
    (operations.find? fun operation => operation.name = value).elim
      (encodeAscii value >>= ofEncoded) .ok
  | .bytes value => ofEncoded value

/-- `frame(domain, payload)` -/
def frameDomain (domain : Domain) (payload : Evidence) : Except Raised String := do
  frame (← domain.operation) payload

/-- `mapping_commitment(mapping)` -/
def mappingCommitment (hash : String → String) (mapping : Evidence) : Except Raised String := do
  return hash (← frame .mapping mapping)

/-! ## Injectivity -/

lemma nul_notMem_domain (operation : Operation) : '\x00' ∉ operation.domain.toList := by
  cases operation <;> decide

lemma domain_injective : Function.Injective Operation.domain := by
  intro operation operation' h
  cases operation <;> cases operation' <;> first | rfl | exact absurd h (by decide)

/-- What stands before the first `a` and what stands after it are determined. -/
lemma append_cons_injective {α : Type} {a : α} {xs ys us vs : List α} (hx : a ∉ xs) (hy : a ∉ ys)
    (h : xs ++ a :: us = ys ++ a :: vs) : xs = ys ∧ us = vs := by
  induction xs generalizing ys with
  | nil =>
      cases ys with
      | nil => exact ⟨rfl, (List.cons.inj h).2⟩
      | cons y ys => exact absurd ((List.cons.inj h).1 ▸ List.mem_cons_self) hy
  | cons x xs ih =>
      rw [List.mem_cons, not_or] at hx
      cases ys with
      | nil => exact absurd (List.cons.inj h).1.symm hx.1
      | cons y ys =>
          obtain ⟨hhead, htail⟩ := List.cons.inj h
          obtain ⟨hys, hrest⟩ := ih hx.2 (fun hmem => hy (List.mem_cons_of_mem _ hmem)) htail
          exact ⟨hhead ▸ hys ▸ rfl, hrest⟩

/-- A framed text splits at its first NUL in one way. -/
lemma framed_injective {operation operation' : Operation} {encoded encoded' : String}
    (h : operation.domain ++ "\x00" ++ encoded = operation'.domain ++ "\x00" ++ encoded') :
    operation = operation' ∧ encoded = encoded' := by
  have hchars : operation.domain.toList ++ '\x00' :: encoded.toList =
      operation'.domain.toList ++ '\x00' :: encoded'.toList := by
    simpa using congrArg String.toList h
  obtain ⟨hdomain, hencoded⟩ :=
    append_cons_injective (nul_notMem_domain operation) (nul_notMem_domain operation') hchars
  exact ⟨domain_injective (String.toList_injective hdomain), String.toList_injective hencoded⟩

/-- A frame has one operation and one payload. -/
lemma frame_injective {operation operation' : Operation} {payload payload' : Evidence}
    {text : String} (hkeys : payload.keysOk distinct = true)
    (hkeys' : payload'.keysOk distinct = true) (h : frame operation payload = .ok text)
    (h' : frame operation' payload' = .ok text) :
    operation = operation' ∧ payload.Same payload' := by
  obtain ⟨_, encoded, -, hencoded, htext⟩ := frame_eq_ok.mp h
  obtain ⟨_, encoded', -, hencoded', htext'⟩ := frame_eq_ok.mp h'
  obtain ⟨hoperation, rfl⟩ := framed_injective (htext.trans htext'.symm)
  exact ⟨hoperation, sort_eq_of_canonicalJson hkeys hkeys' hencoded hencoded'⟩

lemma mappingCommitment_eq_ok {hash : String → String} {mapping : Evidence} {c : String} :
    mappingCommitment hash mapping = .ok c ↔
      ∃ framed, frame .mapping mapping = .ok framed ∧ hash framed = c := by
  simp only [mappingCommitment, Except.bind_eq_ok, Except.pure_eq_ok]

lemma sourceLinkCommitment_eq_ok {hash : String → String} {preimage : Evidence} {c : String} :
    sourceLinkCommitment hash preimage = .ok c ↔
      ∃ framed, frame .sourceLink preimage = .ok framed ∧ hash framed = c := by
  simp only [sourceLinkCommitment, Except.bind_eq_ok, Except.pure_eq_ok]

/-- Frames are injective and their domains separate, so commitments are too. -/
theorem frame_law (hash : String → String) (hinjective : Function.Injective hash) :
    (∀ (domain domain' : Domain) (payload payload' : Evidence) (text : String),
      payload.keysOk distinct = true → payload'.keysOk distinct = true →
      frameDomain domain payload = .ok text → frameDomain domain' payload' = .ok text →
        domain.operation = domain'.operation ∧ payload.Same payload') ∧
    (∀ (mapping preimage : Evidence) (c : String),
      mappingCommitment hash mapping = .ok c → sourceLinkCommitment hash preimage ≠ .ok c) ∧
    (∀ (mapping mapping' : Evidence) (c : String),
      mapping.keysOk distinct = true → mapping'.keysOk distinct = true →
      mappingCommitment hash mapping = .ok c → mappingCommitment hash mapping' = .ok c →
        mapping.Same mapping') ∧
    (∀ (preimage preimage' : Evidence) (c : String),
      preimage.keysOk distinct = true → preimage'.keysOk distinct = true →
      sourceLinkCommitment hash preimage = .ok c → sourceLinkCommitment hash preimage' = .ok c →
        preimage.Same preimage') := by
  refine ⟨fun domain domain' payload payload' text hkeys hkeys' h h' => ?_,
    fun mapping preimage c h h' => ?_, fun mapping mapping' c hkeys hkeys' h h' => ?_,
    fun preimage preimage' c hkeys hkeys' h h' => ?_⟩
  · obtain ⟨operation, hoperation, hframe⟩ := Except.bind_eq_ok.mp h
    obtain ⟨operation', hoperation', hframe'⟩ := Except.bind_eq_ok.mp h'
    obtain ⟨heq, hsame⟩ := frame_injective hkeys hkeys' hframe hframe'
    rw [hoperation, hoperation', heq]
    exact ⟨rfl, hsame⟩
  · obtain ⟨framed, hframe, hhash⟩ := mappingCommitment_eq_ok.mp h
    obtain ⟨framed', hframe', hhash'⟩ := sourceLinkCommitment_eq_ok.mp h'
    have heq := hinjective (hhash.trans hhash'.symm)
    obtain ⟨_, encoded, -, -, htext⟩ := frame_eq_ok.mp hframe
    obtain ⟨_, encoded', -, -, htext'⟩ := frame_eq_ok.mp hframe'
    have hmapping : Operation.mapping = .sourceLink :=
      (framed_injective (htext.trans (heq.trans htext'.symm))).1
    cases hmapping
  · obtain ⟨framed, hframe, hhash⟩ := mappingCommitment_eq_ok.mp h
    obtain ⟨framed', hframe', hhash'⟩ := mappingCommitment_eq_ok.mp h'
    obtain rfl := hinjective (hhash.trans hhash'.symm)
    exact (frame_injective hkeys hkeys' hframe hframe').2
  · obtain ⟨framed, hframe, hhash⟩ := sourceLinkCommitment_eq_ok.mp h
    obtain ⟨framed', hframe', hhash'⟩ := sourceLinkCommitment_eq_ok.mp h'
    obtain rfl := hinjective (hhash.trans hhash'.symm)
    exact (frame_injective hkeys hkeys' hframe hframe').2

/-- The preimage of an opaque bundle id. -/
def sampleBundleId : Fields :=
  [("canonical_encoding_version", .str encodingVersion), ("protocol_id", .str "p"),
    ("amendment_id", .str "a"), ("package_id", .str "k"),
    ("frozen_manifest_sha256",
      .str "1111111111111111111111111111111111111111111111111111111111111111"),
    ("private_manifest_position", .num (.int 1))]

/-- Named by its domain's bytes and with its keys in another order it is the same preimage. -/
theorem frame_law_bundleId : (Tree.dict sampleBundleId).Same (.dict sampleBundleId.reverse) := by
  have hframe : ∃ text, frameDomain (.text "opaque_bundle_id") (.dict sampleBundleId) = .ok text ∧
      frameDomain (.bytes (Operation.opaqueBundleId.domain.toList.map Char.toNat))
        (.dict sampleBundleId.reverse) = .ok text := by
    refine ⟨(frame .opaqueBundleId (.dict sampleBundleId)).toOption.getD "", ?_, ?_⟩ <;>
      decide +kernel
  obtain ⟨text, h, h'⟩ := hframe
  exact ((frame_law id Function.injective_id).1 _ _ _ _ text (by decide)
    (by decide) h h').2

end CivicGate.Rq6.Crypto
