import CivicGate.Rq6.Workflow

/-!
# What the workflow operations establish

An operation first checks and then assigns.  The checks leave the workflow alone however they
end (`Program.Reads`), and what they establish of the artifacts is written in terms of
`ArtifactSnapshot.Names`: a snapshot names a value in a field of its payload.
-/

namespace CivicGate.Rq6

open Program

variable {V : Type} {verify : ArtifactSnapshot → V → Verdict × V} {f : BundleWorkflow}

/-! ## Values -/

lemma Value.eq_str {v : Value} {s : String} : v.eq (.str s) = true ↔ v = .str s := by
  cases v <;> simp [Value.eq, Value.num?]

lemma Value.eq_null {v : Value} : v.eq .null = true ↔ v = .null := by
  cases v <;> simp [Value.eq, Value.num?]

lemma Value.eq_optStr {v : Value} {s : Option String} :
    v.eq (.optStr s) = true ↔ v = .optStr s := by
  cases s with
  | none => exact Value.eq_null
  | some s => exact Value.eq_str

lemma Value.int_eq_int {n m : ℤ} : (Value.int n).eq (.int m) = true ↔ n = m := by
  simp only [Value.eq, Value.num?, decide_eq_true_eq, Option.some.injEq, Int.cast_inj]
  exact eq_comm

lemma Value.eqItems_strs {xs : List Value} {ss : List String} :
    Value.eqItems xs (ss.map .str) = true ↔ xs = ss.map .str := by
  induction xs generalizing ss with
  | nil => cases ss <;> simp [Value.eqItems]
  | cons x xs ih => cases ss <;> simp [Value.eqItems, ih, Value.eq_str]

lemma Value.eq_strs {v : Value} {ss : List String} :
    v.eq (.strs ss) = true ↔ v = .strs ss := by
  cases v <;> simp [Value.strs, Value.eq, Value.num?, Value.eqItems_strs]

lemma Value.is_null {v : Value} : v.is .null = true ↔ v = .null := by
  cases v <;> simp [Value.is]

lemma Value.is_bool {v : Value} {b : Bool} : v.is (.bool b) = true ↔ v = .bool b := by
  cases v <;> simp [Value.is]

lemma Object.get_of_item {o : Object} {key : String} {v : Value} (h : o.item key = .ok v) :
    o.get key = v := by
  unfold Object.item at h
  rw [Object.get, ← Object.get?]
  cases hkey : o.get? key with
  | none => simp [hkey] at h
  | some w => simpa [hkey] using h

/-- The payload of the snapshot holds this value. -/
def ArtifactSnapshot.Names (a : ArtifactSnapshot) (field : String) (v : Value) : Prop :=
  ∃ payload, a.data = .ok payload ∧ payload.get field = v

lemma get_of_hasLinks {payload : Object} {links : List (String × Value)} {field : String}
    {v : Value} (h : hasLinks payload links = true) (hmem : (field, v) ∈ links) :
    (payload.get field).eq v = true :=
  List.all_eq_true.mp h _ hmem

/-! ## Checks -/

/-- A check of the workflow `f`. -/
abbrev Guard {α : Type} (f : BundleWorkflow) (p : Op V α) (A : α → Prop) : Prop :=
  Program.Reads Session.flow f p A

lemma guard_self : Guard f (Op.self : Op V BundleWorkflow) (· = f) := by
  intro s hs
  exact ⟨hs, hs⟩

lemma guard_ofExcept {α : Type} {x : Except Raised α} :
    Guard f (Op.ofExcept x : Op V α) (x = .ok ·) := Program.Reads.lift

lemma guard_require {c : Bool} {code : String} :
    Guard f (Op.require c code : Op V Unit) fun _ => c = true :=
  Program.Reads.mono Program.Reads.lift fun _ h => require_eq_ok.mp h

/-- Some state of the verifier accepts the snapshot. -/
def Accepted (verify : ArtifactSnapshot → V → Verdict × V) (a : ArtifactSnapshot) : Prop :=
  ∃ v, (verify a v).1 = .accepted

lemma guard_checkVerified {a : ArtifactSnapshot} :
    Guard f (checkVerified verify a) fun _ => Accepted verify a := by
  intro s hs
  unfold Program.run checkVerified
  split
  · rename_i v h
    split at h
    · rename_i hverify
      cases h
      exact ⟨hs, s.verifier, congrArg Prod.fst hverify⟩
    · cases h
    · cases h
  · rename_i e t h
    split at h <;> cases h <;> exact hs

lemma guard_verifyEntry (entry : FixedKey × ArtifactSnapshot × String) :
    Guard f (verifyEntry verify entry) fun _ => Accepted verify entry.2.1 := by
  refine Program.Reads.bind guard_require fun _ _ => ?_
  exact Program.Reads.bind guard_ofExcept fun _ _ => guard_checkVerified

lemma guard_verifyEntries (entries : List (FixedKey × ArtifactSnapshot × String)) :
    Guard f (verifyEntries verify entries) fun _ => True := by
  induction entries with
  | nil => exact Program.Reads.pure trivial
  | cons entry rest ih => exact Program.Reads.bind (guard_verifyEntry entry) fun _ _ => ih

lemma guard_verifyFrozen : Guard f (verifyFrozen verify) fun _ => True :=
  Program.Reads.bind guard_self fun _ _ => (guard_verifyEntries _).mono fun _ _ => trivial

/-- A snapshot of this kind was validated, with this payload. -/
structure Validated (verify : ArtifactSnapshot → V → Verdict × V) (b : BundleBinding)
    (kind : String) (a : ArtifactSnapshot) (payload : Object) : Prop where
  isKind : a.kind = kind
  data : a.data = .ok payload
  schema : checkSchema kind payload = .ok ()
  bound : kind ≠ "empty_human_form" → b.check payload = .ok ()
  accepted : Accepted verify a

lemma guard_validate {a : ArtifactSnapshot} {kind : String} :
    Guard f (validate verify a kind) (Validated verify f.binding kind a) := by
  refine Program.Reads.bind guard_self fun g hg => ?_
  subst hg
  refine Program.Reads.bind guard_require fun _ hkind => ?_
  refine Program.Reads.bind guard_ofExcept fun payload hdata => ?_
  refine Program.Reads.bind guard_ofExcept fun _ hschema => ?_
  refine Program.Reads.bind guard_ofExcept fun _ hbound => ?_
  refine Program.Reads.bind guard_checkVerified fun _ haccepted => Program.Reads.pure ?_
  refine ⟨of_decide_eq_true hkind, hdata, hschema, fun hform => ?_, haccepted⟩
  rwa [if_neg hform] at hbound

lemma Validated.names {b : BundleBinding} {a : ArtifactSnapshot} {kind field : String}
    {payload : Object} {v : Value} (h : Validated verify b kind a payload)
    (hv : payload.get field = v) : a.Names field v :=
  ⟨payload, h.data, hv⟩

/-- What an authority was accepted for. -/
structure Authorized (verify : ArtifactSnapshot → V → Verdict × V) (b : BundleBinding)
    (operation : String) (authority : ArtifactSnapshot) (payload : Object) : Prop where
  validated : Validated verify b "operation_authorization" authority payload
  approved : payload.get "approved" = .bool true
  forOperation : payload.get "operation" = .str operation

lemma guard_authorize {authority : ArtifactSnapshot} {operation : String}
    {unitId : Option String} :
    Guard f (authorize verify authority operation unitId)
      (Authorized verify f.binding operation authority) := by
  refine Program.Reads.bind guard_validate fun payload hvalidated => ?_
  refine Program.Reads.bind guard_require fun _ happroved => ?_
  refine Program.Reads.bind guard_require fun _ hoperation => ?_
  refine Program.Reads.bind guard_require fun _ _ => ?_
  refine Program.Reads.bind guard_require fun _ _ => Program.Reads.pure ?_
  exact ⟨hvalidated, Value.is_bool.mp happroved, Value.eq_str.mp hoperation⟩

lemma checkCurrentUnit_eq_ok {payload : Object} {index : ℕ} {u : Unit}
    (h : checkCurrentUnit f payload index = .ok u) :
    ∃ unit, f.requiredUnitIds[index]? = some unit ∧
      payload.get "reviewer_unit_id" = .str unit := by
  unfold checkCurrentUnit at h
  cases hunit : f.requiredUnitIds[index]? with
  | none => rw [hunit] at h; cases h
  | some unit =>
      rw [hunit] at h
      exact ⟨unit, rfl, Value.eq_str.mp (require_eq_ok.mp h)⟩

@[simp] lemma itemAt_eq_ok {xs : List ArtifactSnapshot} {index : ℕ} {a : ArtifactSnapshot} :
    itemAt xs index = .ok a ↔ xs[index]? = some a := by
  unfold itemAt
  cases xs[index]? <;> simp

@[simp] lemma asserted_eq_ok {α : Type} {o : Option α} {a : α} :
    asserted o = .ok a ↔ o = some a := by
  unfold asserted
  cases o <;> simp

/-! ## Assignments -/

/-- The workflow with one more artifact fixed. -/
def BundleWorkflow.remembered (f : BundleWorkflow) (key : FixedKey) (a : ArtifactSnapshot) :
    BundleWorkflow :=
  { f with fixed := f.fixed ++ [(key, a, a.sha256)] }

/-- The keys of `_fixed`. -/
def BundleWorkflow.keys (f : BundleWorkflow) : List FixedKey := f.fixed.map Prod.fst

lemma keys_remembered (f : BundleWorkflow) (key : FixedKey) (a : ArtifactSnapshot) :
    (f.remembered key a).keys = f.keys ++ [key] := by
  simp [BundleWorkflow.remembered, BundleWorkflow.keys]

lemma moves_remember {key : FixedKey} {a : ArtifactSnapshot} (h : key ∉ f.keys) :
    Moves Session.flow f (remember key a : Op V Unit) (f.remembered key a) := by
  intro s hs
  have hfresh : decide (key ∉ s.flow.fixed.map Prod.fst) = true :=
    decide_eq_true (by rw [hs]; exact h)
  have hrun : (remember key a : Op V Unit).run s =
      (.ok (), { s with flow := s.flow.remembered key a }) := by
    change (Op.require (decide (key ∉ s.flow.fixed.map Prod.fst)) _ >>= _ : Op V Unit).run s = _
    rw [hfresh]
    rfl
  rw [hrun]
  exact congrArg (fun f => BundleWorkflow.remembered f key a) hs

lemma notMem_remembered {key key' : FixedKey} {a : ArtifactSnapshot} (h : key ∉ f.keys)
    (hne : key ≠ key') : key ∉ (f.remembered key' a).keys := by
  rw [keys_remembered, List.mem_append, List.mem_singleton]
  exact not_or.mpr ⟨h, hne⟩

/-! ## What each operation establishes -/

variable {b : BundleBinding} {unit mapping : String}

/-- `fix_alias_commitment` accepted these. -/
structure Aliasable (verify : ArtifactSnapshot → V → Verdict × V) (f : BundleWorkflow)
    (commitment access authority : ArtifactSnapshot) : Prop where
  mapped : f.preMappingFailure = false
  state : f.state = .frozen
  validCommitment : ∃ payload, Validated verify f.binding "alias_commitment" commitment payload
  validAccess : ∃ payload, Validated verify f.binding "reviewer_access_provenance" access payload
  authorized : ∃ payload, Authorized verify f.binding "alias_mapping_creation" authority payload

lemma guard_aliasChecks {commitment access authority : ArtifactSnapshot} :
    Guard f (aliasChecks verify commitment access authority) fun _ =>
      Aliasable verify f commitment access authority := by
  refine Program.Reads.bind guard_self fun g hg => ?_
  subst hg
  refine Program.Reads.bind guard_require fun _ hmapped => ?_
  refine Program.Reads.bind guard_require fun _ hstate => ?_
  refine Program.Reads.bind guard_verifyFrozen fun _ _ => ?_
  refine Program.Reads.bind guard_validate fun _ hcommitment => ?_
  refine Program.Reads.bind guard_validate fun _ haccess => ?_
  refine Program.Reads.bind guard_authorize fun _ hauthority => ?_
  refine Program.Reads.bind guard_ofExcept fun _ _ => ?_
  refine Program.Reads.bind guard_require fun _ _ => ?_
  refine Program.Reads.bind guard_ofExcept fun _ _ => ?_
  refine Program.Reads.bind guard_ofExcept fun _ _ => ?_
  refine guard_require.mono fun _ _ => ?_
  exact ⟨by simpa using hmapped, of_decide_eq_true hstate, ⟨_, hcommitment⟩, ⟨_, haccess⟩,
    ⟨_, hauthority⟩⟩

/-- A card and the receipt of its release. -/
structure Released (verify : ArtifactSnapshot → V → Verdict × V) (b : BundleBinding)
    (unit mapping : String) (card release : ArtifactSnapshot) : Prop where
  validCard : ∃ payload, Validated verify b "reviewer_card" card payload
  validRelease : ∃ payload, Validated verify b "unit_release_receipt" release payload
  cardUnit : card.Names "reviewer_unit_id" (.str unit)
  releaseUnit : release.Names "reviewer_unit_id" (.str unit)
  cardMapping : card.Names "mapping_commitment_sha256" (.str mapping)
  releaseMapping : release.Names "mapping_commitment_sha256" (.str mapping)
  releaseCard : release.Names "reviewer_card_sha256" (.str card.sha256)

/-- `release_unit` accepted these. -/
structure Releasable (verify : ArtifactSnapshot → V → Verdict × V) (f : BundleWorkflow)
    (card form release authority : ArtifactSnapshot) : Prop where
  mapped : f.preMappingFailure = false
  state : f.state = .aliasCommitmentFixed ∨ f.state = .unitClosureVerified
  closed : f.unitClosures.length = f.cards.length
  validForm : ∃ payload, Validated verify f.binding "empty_human_form" form payload
  authorized : ∃ payload, Authorized verify f.binding "unit_release" authority payload
  released : ∃ unit mapping, f.requiredUnitIds[f.cards.length]? = some unit ∧
    mappingCommitment f = .ok mapping ∧ Released verify f.binding unit mapping card release

lemma guard_releaseChecks {card form release authority : ArtifactSnapshot} :
    Guard f (releaseChecks verify card form release authority) fun _ =>
      Releasable verify f card form release authority := by
  refine Program.Reads.bind guard_self fun g hg => ?_
  subst hg
  refine Program.Reads.bind guard_require fun _ hmapped => ?_
  refine Program.Reads.bind guard_require fun _ hstate => ?_
  refine Program.Reads.bind guard_verifyFrozen fun _ _ => ?_
  refine Program.Reads.bind guard_validate fun evidence hevidence => ?_
  refine Program.Reads.bind guard_ofExcept fun _ hcardUnit => ?_
  refine Program.Reads.bind guard_validate fun _ hform => ?_
  refine Program.Reads.bind guard_validate fun payload hrelease => ?_
  refine Program.Reads.bind guard_ofExcept fun _ hreleaseUnit => ?_
  refine Program.Reads.bind guard_authorize fun _ hauthority => ?_
  refine Program.Reads.bind guard_ofExcept fun access _ => ?_
  refine Program.Reads.bind guard_ofExcept fun _ _ => ?_
  refine Program.Reads.bind guard_ofExcept fun _ _ => ?_
  refine Program.Reads.bind guard_ofExcept fun _ _ => ?_
  refine Program.Reads.bind guard_require fun _ _ => ?_
  refine Program.Reads.bind guard_ofExcept fun _ _ => ?_
  refine Program.Reads.bind guard_require fun _ _ => ?_
  refine Program.Reads.bind guard_ofExcept fun _ _ => ?_
  refine Program.Reads.bind guard_require fun _ _ => ?_
  refine Program.Reads.bind guard_require fun _ _ => ?_
  refine Program.Reads.bind guard_ofExcept fun commitment hcommitment => ?_
  refine Program.Reads.bind guard_ofExcept fun mapping hmapping => ?_
  refine Program.Reads.bind guard_require fun _ hmatch => ?_
  refine Program.Reads.bind guard_ofExcept fun _ _ => ?_
  refine Program.Reads.bind guard_ofExcept fun _ _ => ?_
  refine Program.Reads.bind guard_require fun _ hlinks => ?_
  refine guard_require.mono fun _ hclosed => ?_
  obtain ⟨unit, hunit, hcardUnit⟩ := checkCurrentUnit_eq_ok hcardUnit
  obtain ⟨unit', hunit', hreleaseUnit⟩ := checkCurrentUnit_eq_ok hreleaseUnit
  obtain rfl : unit = unit' := Option.some.inj (hunit.symm.trans hunit')
  obtain rfl : commitment = .str mapping := Value.eq_str.mp hmatch
  have hreleaseCard := get_of_hasLinks hlinks (List.mem_cons_self ..)
  have hreleaseMapping := get_of_hasLinks hlinks
    (List.mem_cons_of_mem _ (List.mem_cons_of_mem _ (List.mem_cons_self ..)))
  refine ⟨by simpa using hmapped, by simpa using hstate, of_decide_eq_true hclosed, ⟨_, hform⟩,
    ⟨_, hauthority⟩, unit, mapping, hunit, hmapping, ⟨_, hevidence⟩, ⟨_, hrelease⟩,
    hevidence.names hcardUnit, hrelease.names hreleaseUnit,
    hevidence.names (Object.get_of_item hcommitment), hrelease.names (Value.eq_str.mp hreleaseMapping),
    hrelease.names (Value.eq_str.mp hreleaseCard)⟩

/-- The receipt of a human for a released unit. -/
structure Adjudicated (verify : ArtifactSnapshot → V → Verdict × V) (b : BundleBinding)
    (unit mapping : String) (card release human : ArtifactSnapshot) : Prop where
  validHuman : ∃ payload, Validated verify b "human_receipt" human payload
  humanUnit : human.Names "reviewer_unit_id" (.str unit)
  humanMapping : human.Names "mapping_commitment_sha256" (.str mapping)
  humanCard : human.Names "reviewer_card_sha256" (.str card.sha256)
  humanRelease : human.Names "release_receipt_sha256" (.str release.sha256)
  blind : human.Names "operationally_mapping_blind_at_coding" (.bool true)

/-- `fix_human_receipt` accepted this. -/
structure Adjudicable (verify : ArtifactSnapshot → V → Verdict × V) (f : BundleWorkflow)
    (receipt : ArtifactSnapshot) : Prop where
  state : f.state = .unitReleased
  adjudicated : ∃ unit mapping card release,
    f.requiredUnitIds[f.humanReceipts.length]? = some unit ∧ mappingCommitment f = .ok mapping ∧
    f.cards[f.humanReceipts.length]? = some card ∧
    f.releases[f.humanReceipts.length]? = some release ∧
    Adjudicated verify f.binding unit mapping card release receipt

lemma guard_humanChecks {receipt : ArtifactSnapshot} :
    Guard f (humanChecks verify receipt) fun _ => Adjudicable verify f receipt := by
  refine Program.Reads.bind guard_self fun g hg => ?_
  subst hg
  refine Program.Reads.bind guard_require fun _ hstate => ?_
  refine Program.Reads.bind guard_verifyFrozen fun _ _ => ?_
  refine Program.Reads.bind guard_validate fun payload hvalid => ?_
  refine Program.Reads.bind guard_ofExcept fun _ hcurrent => ?_
  refine Program.Reads.bind guard_ofExcept fun card hcard => ?_
  refine Program.Reads.bind guard_ofExcept fun _ _ => ?_
  refine Program.Reads.bind guard_ofExcept fun _ _ => ?_
  refine Program.Reads.bind guard_ofExcept fun release hrelease => ?_
  refine Program.Reads.bind guard_ofExcept fun mapping hmapping => ?_
  refine Program.Reads.bind guard_ofExcept fun _ _ => ?_
  refine Program.Reads.bind guard_ofExcept fun _ _ => ?_
  refine Program.Reads.bind guard_ofExcept fun _ _ => ?_
  refine Program.Reads.bind guard_ofExcept fun _ _ => ?_
  refine Program.Reads.bind guard_require fun _ hlinks => ?_
  refine Program.Reads.bind guard_ofExcept fun blind hitem => ?_
  refine Program.Reads.bind guard_require fun _ hblind => ?_
  refine Program.Reads.bind guard_ofExcept fun _ _ => ?_
  refine guard_require.mono fun _ _ => ?_
  obtain ⟨unit, hunit, hnames⟩ := checkCurrentUnit_eq_ok hcurrent
  obtain rfl := Value.is_bool.mp hblind
  have hcardLink := get_of_hasLinks hlinks (List.mem_cons_self ..)
  have hreleaseLink := get_of_hasLinks hlinks (List.mem_cons_of_mem _ (List.mem_cons_self ..))
  have hmappingLink := get_of_hasLinks hlinks
    (List.mem_cons_of_mem _ (List.mem_cons_of_mem _ (List.mem_cons_self ..)))
  exact ⟨of_decide_eq_true hstate, unit, mapping, card, release, hunit, hmapping,
    itemAt_eq_ok.mp hcard, itemAt_eq_ok.mp hrelease, ⟨_, hvalid⟩, hvalid.names hnames,
    hvalid.names (Value.eq_str.mp hmappingLink), hvalid.names (Value.eq_str.mp hcardLink),
    hvalid.names (Value.eq_str.mp hreleaseLink), hvalid.names (Object.get_of_item hitem)⟩

/-- The closure of an adjudicated unit. -/
structure ClosedUnit (verify : ArtifactSnapshot → V → Verdict × V) (b : BundleBinding)
    (unit mapping : String) (card release human closure : ArtifactSnapshot) : Prop where
  validClosure : ∃ payload, Validated verify b "unit_closure" closure payload
  closureUnit : closure.Names "reviewer_unit_id" (.str unit)
  closureMapping : closure.Names "mapping_commitment_sha256" (.str mapping)
  closureCard : closure.Names "reviewer_card_sha256" (.str card.sha256)
  closureRelease : closure.Names "release_receipt_sha256" (.str release.sha256)
  closureHuman : closure.Names "human_receipt_sha256" (.str human.sha256)

/-- `verify_unit_closure` accepted this. -/
structure Closable (verify : ArtifactSnapshot → V → Verdict × V) (f : BundleWorkflow)
    (closure : ArtifactSnapshot) : Prop where
  state : f.state = .humanReceiptFixed
  closed : ∃ unit mapping card release human,
    f.requiredUnitIds[f.unitClosures.length]? = some unit ∧ mappingCommitment f = .ok mapping ∧
    f.cards[f.unitClosures.length]? = some card ∧
    f.releases[f.unitClosures.length]? = some release ∧
    f.humanReceipts[f.unitClosures.length]? = some human ∧
    ClosedUnit verify f.binding unit mapping card release human closure

lemma guard_unitClosureChecks {closure : ArtifactSnapshot} :
    Guard f (unitClosureChecks verify closure) fun _ => Closable verify f closure := by
  refine Program.Reads.bind guard_self fun g hg => ?_
  subst hg
  refine Program.Reads.bind guard_require fun _ hstate => ?_
  refine Program.Reads.bind guard_verifyFrozen fun _ _ => ?_
  refine Program.Reads.bind guard_validate fun payload hvalid => ?_
  refine Program.Reads.bind guard_ofExcept fun _ hcurrent => ?_
  refine Program.Reads.bind guard_ofExcept fun card hcard => ?_
  refine Program.Reads.bind guard_ofExcept fun _ _ => ?_
  refine Program.Reads.bind guard_ofExcept fun release hrelease => ?_
  refine Program.Reads.bind guard_ofExcept fun human hhuman => ?_
  refine Program.Reads.bind guard_ofExcept fun mapping hmapping => ?_
  refine Program.Reads.bind guard_ofExcept fun _ _ => ?_
  refine Program.Reads.bind guard_require fun _ hlinks => ?_
  refine Program.Reads.bind guard_ofExcept fun _ _ => ?_
  refine Program.Reads.bind guard_ofExcept fun _ _ => ?_
  refine Program.Reads.bind guard_require fun _ _ => ?_
  refine Program.Reads.bind guard_ofExcept fun _ _ => ?_
  refine guard_require.mono fun _ _ => ?_
  obtain ⟨unit, hunit, hnames⟩ := checkCurrentUnit_eq_ok hcurrent
  have hcardLink := get_of_hasLinks hlinks (List.mem_cons_self ..)
  have hreleaseLink := get_of_hasLinks hlinks (List.mem_cons_of_mem _ (List.mem_cons_self ..))
  have hhumanLink := get_of_hasLinks hlinks
    (List.mem_cons_of_mem _ (List.mem_cons_of_mem _ (List.mem_cons_self ..)))
  have hmappingLink := get_of_hasLinks hlinks (List.mem_cons_of_mem _
    (List.mem_cons_of_mem _ (List.mem_cons_of_mem _ (List.mem_cons_self ..))))
  exact ⟨of_decide_eq_true hstate, unit, mapping, card, release, human, hunit, hmapping,
    itemAt_eq_ok.mp hcard, itemAt_eq_ok.mp hrelease, itemAt_eq_ok.mp hhuman, ⟨_, hvalid⟩,
    hvalid.names hnames, hvalid.names (Value.eq_str.mp hmappingLink),
    hvalid.names (Value.eq_str.mp hcardLink), hvalid.names (Value.eq_str.mp hreleaseLink),
    hvalid.names (Value.eq_str.mp hhumanLink)⟩

/-! ### After the units -/

/-- The receipt of the reveal. -/
structure Revealed (verify : ArtifactSnapshot → V → Verdict × V) (b : BundleBinding)
    (mapping : String) (receipts closures : List String) (unblind : ArtifactSnapshot) : Prop where
  validUnblind : ∃ payload, Validated verify b "bundle_unblind_receipt" unblind payload
  unblindMapping : unblind.Names "alias_commitment_sha256" (.str mapping)
  unblindReceipts : unblind.Names "required_human_receipt_hashes" (.strs receipts)
  unblindClosures : unblind.Names "required_unit_closure_hashes" (.strs closures)

/-- `reveal_mapping` accepted these. -/
structure Revealable (verify : ArtifactSnapshot → V → Verdict × V) (f : BundleWorkflow)
    (receipt authority : ArtifactSnapshot) : Prop where
  state : f.state = .unitClosureVerified
  complete : f.unitClosures.length = f.requiredUnitIds.length
  authorized : ∃ payload, Authorized verify f.binding "bundle_unblind" authority payload
  revealed : ∃ mapping, mappingCommitment f = .ok mapping ∧
    Revealed verify f.binding mapping f.humanReceiptHashes f.unitClosureHashes receipt

lemma guard_revealChecks {receipt authority : ArtifactSnapshot} :
    Guard f (revealChecks verify receipt authority) fun _ =>
      Revealable verify f receipt authority := by
  refine Program.Reads.bind guard_self fun g hg => ?_
  subst hg
  refine Program.Reads.bind guard_require fun _ hstate => ?_
  refine Program.Reads.bind guard_require fun _ hcomplete => ?_
  refine Program.Reads.bind guard_verifyFrozen fun _ _ => ?_
  refine Program.Reads.bind guard_validate fun payload hvalid => ?_
  refine Program.Reads.bind guard_authorize fun _ hauthority => ?_
  refine Program.Reads.bind guard_ofExcept fun _ _ => ?_
  refine Program.Reads.bind guard_ofExcept fun commitment hcommitment => ?_
  refine Program.Reads.bind guard_ofExcept fun mapping hmapping => ?_
  refine Program.Reads.bind guard_require fun _ hmatch => ?_
  refine Program.Reads.bind guard_ofExcept fun receipts hreceipts => ?_
  refine Program.Reads.bind guard_require fun _ hreceiptsEq => ?_
  refine Program.Reads.bind guard_ofExcept fun closures hclosures => ?_
  refine Program.Reads.bind guard_require fun _ hclosuresEq => ?_
  refine Program.Reads.bind guard_ofExcept fun _ _ => ?_
  refine Program.Reads.bind guard_require fun _ _ => ?_
  refine Program.Reads.bind guard_ofExcept fun _ _ => ?_
  refine Program.Reads.bind guard_require fun _ _ => ?_
  refine Program.Reads.bind guard_require fun _ _ => ?_
  refine Program.Reads.bind guard_ofExcept fun _ _ => ?_
  refine Program.Reads.bind guard_ofExcept fun _ _ => ?_
  refine Program.Reads.bind guard_ofExcept fun _ _ => ?_
  refine guard_require.mono fun _ _ => ?_
  obtain rfl := Value.eq_str.mp hmatch
  obtain rfl := Value.eq_strs.mp hreceiptsEq
  obtain rfl := Value.eq_strs.mp hclosuresEq
  exact ⟨of_decide_eq_true hstate, of_decide_eq_true hcomplete, ⟨_, hauthority⟩, mapping,
    hmapping, ⟨_, hvalid⟩, hvalid.names (Object.get_of_item hcommitment),
    hvalid.names (Object.get_of_item hreceipts), hvalid.names (Object.get_of_item hclosures)⟩

/-- The mechanical comparison of a revealed bundle. -/
structure Compared (verify : ArtifactSnapshot → V → Verdict × V) (b : BundleBinding)
    (anchor : String) (unblind comparison : ArtifactSnapshot) : Prop where
  validComparison : ∃ payload, Validated verify b "mechanical_comparison" comparison payload
  comparisonUnblind : comparison.Names "unblind_receipt_sha256" (.str unblind.sha256)
  comparisonAnchor : comparison.Names "primary_anchor_receipt_sha256" (.str anchor)

/-- `record_mechanical` accepted these. -/
structure Comparable (verify : ArtifactSnapshot → V → Verdict × V) (f : BundleWorkflow)
    (comparison authority : ArtifactSnapshot) : Prop where
  state : f.state = .bundleMappingRevealed
  authorized : ∃ payload, Authorized verify f.binding "mechanical_comparison" authority payload
  compared : ∃ unblind, f.unblind = some unblind ∧
    Compared verify f.binding f.primaryAnchorReceiptSha256 unblind comparison

lemma guard_mechanicalChecks {comparison authority : ArtifactSnapshot} :
    Guard f (mechanicalChecks verify comparison authority) fun _ =>
      Comparable verify f comparison authority := by
  refine Program.Reads.bind guard_self fun g hg => ?_
  subst hg
  refine Program.Reads.bind guard_require fun _ hstate => ?_
  refine Program.Reads.bind guard_verifyFrozen fun _ _ => ?_
  refine Program.Reads.bind guard_validate fun payload hvalid => ?_
  refine Program.Reads.bind guard_authorize fun _ hauthority => ?_
  refine Program.Reads.bind guard_ofExcept fun unblind hunblind => ?_
  refine Program.Reads.bind guard_require fun _ hlink => ?_
  refine Program.Reads.bind guard_require fun _ hanchor => ?_
  refine guard_require.mono fun _ _ => ?_
  exact ⟨of_decide_eq_true hstate, ⟨_, hauthority⟩, unblind, asserted_eq_ok.mp hunblind,
    ⟨_, hvalid⟩, hvalid.names (Value.eq_str.mp hlink), hvalid.names (Value.eq_str.mp hanchor)⟩

/-- What the input of a rationale assessment and its receipt both name. -/
structure NamesAssessed (anchor : String) (receipts : List String)
    (unblind a : ArtifactSnapshot) : Prop where
  namesUnblind : a.Names "unblind_receipt_sha256" (.str unblind.sha256)
  namesAnchor : a.Names "primary_anchor_receipt_sha256" (.str anchor)
  namesReceipts : a.Names "completed_unit_receipt_hashes" (.strs receipts)

lemma namesAssessed {kind : String} {unblind a : ArtifactSnapshot} {payload : Object} {u : Unit}
    (hvalid : Validated verify b kind a payload) (h : checkAssessed f unblind payload = .ok u) :
    NamesAssessed f.primaryAnchorReceiptSha256 f.humanReceiptHashes unblind a := by
  unfold checkAssessed at h
  simp only [Except.bind_eq_ok, require_eq_ok] at h
  obtain ⟨receipt, hreceipt, _, hreceiptEq, anchor, hanchor, _, hanchorEq, receipts, hreceipts,
    hreceiptsEq⟩ := h
  obtain rfl := Value.eq_str.mp hreceiptEq
  obtain rfl := Value.eq_str.mp hanchorEq
  obtain rfl := Value.eq_strs.mp hreceiptsEq
  exact ⟨hvalid.names (Object.get_of_item hreceipt), hvalid.names (Object.get_of_item hanchor),
    hvalid.names (Object.get_of_item hreceipts)⟩

/-- The rationale assessment of a compared bundle, and its input. -/
structure Assessed (verify : ArtifactSnapshot → V → Verdict × V) (b : BundleBinding)
    (anchor : String) (receipts : List String) (unblind artifact receipt : ArtifactSnapshot) :
    Prop where
  validArtifact : ∃ payload,
    Validated verify b "rationale_variation_assessment_artifact" artifact payload
  validReceipt : ∃ payload,
    Validated verify b "rationale_variation_assessment_receipt" receipt payload
  artifactNames : NamesAssessed anchor receipts unblind artifact
  receiptNames : NamesAssessed anchor receipts unblind receipt
  receiptArtifact : receipt.Names "rationale_artifact_sha256" (.str artifact.sha256)

/-- `fix_rationale_assessment` accepted these. -/
structure Assessable (verify : ArtifactSnapshot → V → Verdict × V) (f : BundleWorkflow)
    (artifact receipt : ArtifactSnapshot) : Prop where
  state : f.state = .mechanicalComparisonRecorded
  assessed : ∃ unblind, f.unblind = some unblind ∧
    Assessed verify f.binding f.primaryAnchorReceiptSha256 f.humanReceiptHashes unblind artifact
      receipt

lemma guard_assessmentChecks {artifact receipt : ArtifactSnapshot} :
    Guard f (assessmentChecks verify artifact receipt) fun _ =>
      Assessable verify f artifact receipt := by
  refine Program.Reads.bind guard_self fun g hg => ?_
  subst hg
  refine Program.Reads.bind guard_require fun _ hstate => ?_
  refine Program.Reads.bind guard_verifyFrozen fun _ _ => ?_
  refine Program.Reads.bind guard_validate fun source hsource => ?_
  refine Program.Reads.bind guard_validate fun human hhuman => ?_
  refine Program.Reads.bind guard_ofExcept fun unblind hunblind => ?_
  refine Program.Reads.bind guard_ofExcept fun _ hsourceNames => ?_
  refine Program.Reads.bind guard_ofExcept fun _ hhumanNames => ?_
  refine Program.Reads.bind guard_ofExcept fun input hinput => ?_
  refine Program.Reads.bind guard_require fun _ hinputEq => ?_
  refine Program.Reads.bind guard_ofExcept fun _ _ => ?_
  refine Program.Reads.bind guard_ofExcept fun _ _ => ?_
  refine Program.Reads.bind guard_require fun _ _ => ?_
  refine Program.Reads.bind guard_ofExcept fun _ _ => ?_
  refine Program.Reads.bind guard_ofExcept fun _ _ => ?_
  refine guard_require.mono fun _ _ => ?_
  obtain rfl := Value.eq_str.mp hinputEq
  exact ⟨of_decide_eq_true hstate, unblind, asserted_eq_ok.mp hunblind, ⟨_, hsource⟩,
    ⟨_, hhuman⟩, namesAssessed hsource hsourceNames, namesAssessed hhuman hhumanNames,
    hhuman.names (Object.get_of_item hinput)⟩

/-- The characterization of an assessed bundle. -/
structure Characterized (verify : ArtifactSnapshot → V → Verdict × V) (b : BundleBinding)
    (mechanical assessment characterization : ArtifactSnapshot) (toHuman : Bool) : Prop where
  validCharacterization : ∃ payload,
    Validated verify b "bundle_characterization" characterization payload ∧
    checkCharacterized toHuman payload = .ok ()
  ofMechanical : characterization.Names "mechanical_comparison_sha256" (.str mechanical.sha256)
  ofAssessment : characterization.Names "rationale_variation_assessment_receipt_sha256"
    (.str assessment.sha256)
  disposed : ∃ assessed compared, assessment.data = .ok assessed ∧ mechanical.data = .ok compared ∧
    isDeferred assessed compared = .ok toHuman

/-- `fix_characterization` accepted this. -/
structure Characterizable (verify : ArtifactSnapshot → V → Verdict × V) (f : BundleWorkflow)
    (characterization : ArtifactSnapshot) (toHuman : Bool) : Prop where
  state : f.state = .rationaleAssessmentFixed
  characterized : ∃ mechanical assessment, f.mechanical = some mechanical ∧
    f.assessment = some assessment ∧
    Characterized verify f.binding mechanical assessment characterization toHuman

lemma guard_characterizationChecks {characterization : ArtifactSnapshot} :
    Guard f (characterizationChecks verify characterization)
      (Characterizable verify f characterization) := by
  refine Program.Reads.bind guard_self fun g hg => ?_
  subst hg
  refine Program.Reads.bind guard_require fun _ hstate => ?_
  refine Program.Reads.bind guard_verifyFrozen fun _ _ => ?_
  refine Program.Reads.bind guard_validate fun payload hvalid => ?_
  refine Program.Reads.bind guard_ofExcept fun mechanical hmechanical => ?_
  refine Program.Reads.bind guard_ofExcept fun assessment hassessment => ?_
  refine Program.Reads.bind guard_require fun _ hmechanicalEq => ?_
  refine Program.Reads.bind guard_require fun _ hassessmentEq => ?_
  refine Program.Reads.bind guard_ofExcept fun assessed hassessed => ?_
  refine Program.Reads.bind guard_ofExcept fun compared hcompared => ?_
  refine Program.Reads.bind guard_ofExcept fun toHuman htoHuman => ?_
  refine Program.Reads.bind guard_ofExcept fun _ hcheck => Program.Reads.pure ?_
  exact ⟨of_decide_eq_true hstate, mechanical, assessment, asserted_eq_ok.mp hmechanical,
    asserted_eq_ok.mp hassessment, ⟨payload, hvalid, hcheck⟩,
    hvalid.names (Value.eq_str.mp hmechanicalEq), hvalid.names (Value.eq_str.mp hassessmentEq),
    assessed, compared, hassessed, hcompared, htoHuman⟩

/-! ### Closures -/

/-- The closure lists the units of the bundle and what they fixed. -/
structure Lists (f : BundleWorkflow) (payload : Object) : Prop where
  units : payload.get "reviewer_unit_ids" = .strs (f.requiredUnitIds.take f.cards.length)
  receipts : payload.get "human_receipt_hashes" = .strs f.humanReceiptHashes
  closures : payload.get "unit_closure_hashes" = .strs f.unitClosureHashes
  commitment : fixedCommitment f = .ok (payload.get "alias_commitment_sha256")

lemma eq_of_fixedCommitment {v w : Value} (h : fixedCommitment f = .ok w)
    (heq : v.eq w = true) : v = w := by
  unfold fixedCommitment at h
  split at h
  · cases hmapping : mappingCommitment f with
    | error e => rw [hmapping] at h; cases h
    | ok mapping =>
        rw [hmapping] at h
        cases h
        exact Value.eq_str.mp heq
  · cases h
    exact Value.eq_null.mp heq

lemma guard_commonChecks {payload : Object} {complete : Bool} :
    Guard f (commonChecks payload complete : Op V Unit) fun _ => Lists f payload ∧
      (complete = true → f.unitClosures.length = f.requiredUnitIds.length) := by
  refine Program.Reads.bind guard_self fun g hg => ?_
  subst hg
  refine Program.Reads.bind guard_ofExcept fun units hunits => ?_
  refine Program.Reads.bind guard_require fun _ hunitsEq => ?_
  refine Program.Reads.bind guard_ofExcept fun receipts hreceipts => ?_
  refine Program.Reads.bind guard_require fun _ hreceiptsEq => ?_
  refine Program.Reads.bind guard_ofExcept fun closures hclosures => ?_
  refine Program.Reads.bind guard_require fun _ hclosuresEq => ?_
  refine Program.Reads.bind guard_ofExcept fun commitment hcommitment => ?_
  refine Program.Reads.bind guard_ofExcept fun _ hfixed => ?_
  refine Program.Reads.bind guard_require fun _ hcommitmentEq => ?_
  refine guard_require.mono fun _ hcomplete => ?_
  obtain rfl := Value.eq_strs.mp hunitsEq
  obtain rfl := Value.eq_strs.mp hreceiptsEq
  obtain rfl := Value.eq_strs.mp hclosuresEq
  obtain rfl := eq_of_fixedCommitment hfixed hcommitmentEq
  refine ⟨⟨Object.get_of_item hunits, Object.get_of_item hreceipts, Object.get_of_item hclosures,
    ?_⟩, fun h => by simpa [h] using hcomplete⟩
  rw [Object.get_of_item hcommitment]
  exact hfixed

/-- What a complete closure says of the artifacts fixed after the reveal. -/
structure Completes (f : BundleWorkflow) (payload : Object) : Prop where
  unblind : ∃ a, f.unblind = some a ∧ payload.get "unblind_receipt_sha256" = .str a.sha256
  assessment : ∃ a, f.assessment = some a ∧
    payload.get "rationale_variation_assessment_receipt_sha256" = .str a.sha256
  characterization : ∃ a characterized, f.characterization = some a ∧ a.data = .ok characterized ∧
    (payload.get "stability_disposition").eq (characterized.get "stability_disposition") = true ∧
    (payload.get "review_status").eq (characterized.get "review_status") = true

/-- `close_bundle` accepted this, up to what `_close_common` checks. -/
structure Completable (verify : ArtifactSnapshot → V → Verdict × V) (f : BundleWorkflow)
    (closure : ArtifactSnapshot) (payload : Object) : Prop where
  state : f.state = .bundleCharacterizationFixed
  valid : Validated verify f.binding "bundle_closure" closure payload
  terminal : payload.item "state" = .ok (.str "RQ6_BUNDLE_CLOSED")
  completes : Completes f payload

lemma guard_completeChecks {closure : ArtifactSnapshot} :
    Guard f (completeChecks verify closure) (Completable verify f closure) := by
  refine Program.Reads.bind guard_self fun g hg => ?_
  subst hg
  refine Program.Reads.bind guard_require fun _ hstate => ?_
  refine Program.Reads.bind guard_verifyFrozen fun _ _ => ?_
  refine Program.Reads.bind guard_validate fun payload hvalid => ?_
  refine Program.Reads.bind guard_ofExcept fun characterization hcharacterization => ?_
  refine Program.Reads.bind guard_ofExcept fun unblind hunblind => ?_
  refine Program.Reads.bind guard_ofExcept fun assessment hassessment => ?_
  refine Program.Reads.bind guard_ofExcept fun _ hterminal => ?_
  refine Program.Reads.bind guard_require fun _ hterminalEq => ?_
  refine Program.Reads.bind guard_ofExcept fun characterized hcharacterized => ?_
  refine Program.Reads.bind guard_ofExcept fun disposition hdisposition => ?_
  refine Program.Reads.bind guard_ofExcept fun _ hfixedDisposition => ?_
  refine Program.Reads.bind guard_require fun _ hdispositionEq => ?_
  refine Program.Reads.bind guard_ofExcept fun status hstatus => ?_
  refine Program.Reads.bind guard_ofExcept fun _ hfixedStatus => ?_
  refine Program.Reads.bind guard_require fun _ hstatusEq => ?_
  refine Program.Reads.bind guard_ofExcept fun _ hreceipt => ?_
  refine Program.Reads.bind guard_require fun _ hreceiptEq => ?_
  refine Program.Reads.bind guard_ofExcept fun _ hassessed => ?_
  refine Program.Reads.bind guard_require fun _ hassessedEq => Program.Reads.pure ?_
  obtain rfl := Value.eq_str.mp hterminalEq
  obtain rfl := Value.eq_str.mp hreceiptEq
  obtain rfl := Value.eq_str.mp hassessedEq
  obtain rfl := Object.get_of_item hdisposition
  obtain rfl := Object.get_of_item hfixedDisposition
  obtain rfl := Object.get_of_item hstatus
  obtain rfl := Object.get_of_item hfixedStatus
  exact ⟨of_decide_eq_true hstate, hvalid, hterminal,
    ⟨unblind, asserted_eq_ok.mp hunblind, Object.get_of_item hreceipt⟩,
    ⟨assessment, asserted_eq_ok.mp hassessment, Object.get_of_item hassessed⟩,
    characterization, characterized, asserted_eq_ok.mp hcharacterization, hcharacterized,
    hdispositionEq, hstatusEq⟩

/-- An insufficient closure lists what was fixed after the reveal, and nothing that was not. -/
structure Accounts (f : BundleWorkflow) (payload : Object) : Prop where
  unblind : payload.get "unblind_receipt_sha256" = .optStr (f.unblind.map (·.sha256))
  unrevealed : f.unblind = none → payload.get "revealed_source_mapping" = .null
  uncompared : f.mechanical = none → payload.get "per_model_primary_repeat_comparison" = .null
  mechanical : ∀ a, f.mechanical = some a →
    (payload.get "per_model_primary_repeat_comparison").exact = a.payload ∧
    hasProvenance payload a.sha256 = .ok true
  assessment : payload.get "rationale_variation_assessment_receipt_sha256" =
    .optStr (f.assessment.map (·.sha256))
  unassessed : f.assessment = none → payload.get "frozen_rationale_variation_record" = .null
  record : ∀ a, f.assessment = some a →
    (payload.get "frozen_rationale_variation_record").exact = a.payload ∧
    hasProvenance payload a.sha256 = .ok true

lemma unblind_of_check {payload : Object} {u : Unit} (h : checkUnblindHistory f payload = .ok u) :
    payload.get "unblind_receipt_sha256" = .optStr (f.unblind.map (·.sha256)) ∧
      (f.unblind = none → payload.get "revealed_source_mapping" = .null) := by
  unfold checkUnblindHistory at h
  simp only [Except.bind_eq_ok] at h
  obtain ⟨receipt, hreceipt, mapping, hmapping, h⟩ := h
  obtain rfl := Object.get_of_item hreceipt
  obtain rfl := Object.get_of_item hmapping
  cases hunblind : f.unblind with
  | none =>
      rw [hunblind] at h
      simp only [require_eq_ok, Bool.and_eq_true, Value.is_null] at h
      exact ⟨h.1, fun _ => h.2⟩
  | some unblind =>
      rw [hunblind] at h
      simp only [Except.bind_eq_ok, require_eq_ok, Bool.and_eq_true] at h
      obtain ⟨_, _, _, _, _, _, _, _, ⟨hlink, _⟩, _⟩ := h
      exact ⟨Value.eq_str.mp hlink, fun hnone => by cases hnone⟩

lemma mechanical_of_check {payload : Object} {u : Unit}
    (h : checkMechanicalHistory f payload = .ok u) :
    (f.mechanical = none → payload.get "per_model_primary_repeat_comparison" = .null) ∧
      ∀ a, f.mechanical = some a →
        (payload.get "per_model_primary_repeat_comparison").exact = a.payload ∧
        hasProvenance payload a.sha256 = .ok true := by
  unfold checkMechanicalHistory at h
  simp only [Except.bind_eq_ok] at h
  obtain ⟨comparison, hcomparison, h⟩ := h
  obtain rfl := Object.get_of_item hcomparison
  cases hmechanical : f.mechanical with
  | none =>
      rw [hmechanical] at h
      simp only [require_eq_ok, Value.is_null] at h
      exact ⟨fun _ => h, fun a ha => by cases ha⟩
  | some mechanical =>
      rw [hmechanical] at h
      simp only [Except.bind_eq_ok, require_eq_ok, Bool.and_eq_true, decide_eq_true_eq] at h
      obtain ⟨known, hknown, hexact, rfl⟩ := h
      refine ⟨(fun hnone => by cases hnone), fun a ha => ?_⟩
      obtain rfl := Option.some.inj ha
      exact ⟨hexact, hknown⟩

lemma assessment_of_check {payload : Object} {u : Unit}
    (h : checkAssessmentHistory f payload = .ok u) :
    payload.get "rationale_variation_assessment_receipt_sha256" =
        .optStr (f.assessment.map (·.sha256)) ∧
      (f.assessment = none → payload.get "frozen_rationale_variation_record" = .null) ∧
      ∀ a, f.assessment = some a →
        (payload.get "frozen_rationale_variation_record").exact = a.payload ∧
        hasProvenance payload a.sha256 = .ok true := by
  unfold checkAssessmentHistory at h
  simp only [Except.bind_eq_ok] at h
  obtain ⟨receipt, hreceipt, record, hrecord, h⟩ := h
  obtain rfl := Object.get_of_item hreceipt
  obtain rfl := Object.get_of_item hrecord
  cases hassessment : f.assessment with
  | none =>
      rw [hassessment] at h
      simp only [require_eq_ok, Bool.and_eq_true, Value.is_null] at h
      exact ⟨h.1, fun _ => h.2, fun a ha => by cases ha⟩
  | some assessment =>
      rw [hassessment] at h
      simp only [Except.bind_eq_ok, require_eq_ok, Bool.and_eq_true, decide_eq_true_eq] at h
      obtain ⟨known, hknown, ⟨hlink, hexact⟩, rfl⟩ := h
      refine ⟨Value.eq_str.mp hlink, (fun hnone => by cases hnone), fun a ha => ?_⟩
      obtain rfl := Option.some.inj ha
      exact ⟨hexact, hknown⟩

/-- `close_insufficient` accepted this, up to what `_close_common` checks. -/
structure Insufficient (verify : ArtifactSnapshot → V → Verdict × V) (f : BundleWorkflow)
    (closure : ArtifactSnapshot) (payload : Object) : Prop where
  state : f.state.isTerminal = false ∧ f.state ≠ .deferred
  valid : Validated verify f.binding "bundle_closure" closure payload
  terminal :
    payload.item "state" = .ok (.str "RQ6_BUNDLE_CLOSED_INSUFFICIENT_REPEAT_EVIDENCE")
  accounts : Accounts f payload

lemma guard_insufficientChecks {closure : ArtifactSnapshot} :
    Guard f (insufficientChecks verify closure) (Insufficient verify f closure) := by
  refine Program.Reads.bind guard_self fun g hg => ?_
  subst hg
  refine Program.Reads.bind guard_require fun _ hstate => ?_
  refine Program.Reads.bind guard_verifyFrozen fun _ _ => ?_
  refine Program.Reads.bind guard_validate fun payload hvalid => ?_
  refine Program.Reads.bind guard_ofExcept fun _ hterminal => ?_
  refine Program.Reads.bind guard_require fun _ hterminalEq => ?_
  refine Program.Reads.bind guard_ofExcept fun _ _ => ?_
  refine Program.Reads.bind guard_require fun _ _ => ?_
  refine Program.Reads.bind guard_ofExcept fun _ _ => ?_
  refine Program.Reads.bind guard_ofExcept fun _ _ => ?_
  refine Program.Reads.bind guard_require fun _ _ => ?_
  refine Program.Reads.bind guard_ofExcept fun _ _ => ?_
  refine Program.Reads.bind guard_ofExcept fun _ _ => ?_
  refine Program.Reads.bind guard_require fun _ _ => ?_
  refine Program.Reads.bind guard_ofExcept fun _ hunblind => ?_
  refine Program.Reads.bind guard_ofExcept fun _ hmechanical => ?_
  refine Program.Reads.bind guard_ofExcept fun _ hassessment => Program.Reads.pure ?_
  obtain rfl := Value.eq_str.mp hterminalEq
  obtain ⟨hlink, hunrevealed⟩ := unblind_of_check hunblind
  obtain ⟨huncompared, hcompared⟩ := mechanical_of_check hmechanical
  obtain ⟨hassessed, hunassessed, hrecord⟩ := assessment_of_check hassessment
  exact ⟨by simpa using hstate, hvalid, hterminal, hlink, hunrevealed, huncompared, hcompared,
    hassessed, hunassessed, hrecord⟩

end CivicGate.Rq6
