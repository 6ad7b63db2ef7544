import CivicGate.Rq6.Dossier
import CivicGate.Rq6.WorkflowInvariants

/-!
# A bundle carried through its units

What a workflow guarantees would hold of one that refuses everything.  Here the verifier accepts,
and each operation up to the reveal returns for artifacts that name each other.  So a bundle whose
dossier the schemas take fixes its alias commitment, carries its units through card, release,
receipt and closure one after the other, and reveals its mapping (`exists_revealed`).

What an operation does is said of any artifacts with the payloads of the dossier: the digests of
those of the dossier itself would be computed whenever two of them are compared.
-/

namespace CivicGate.Rq6

open Program

/-! ## Steps of an operation -/

section

variable {V α β : Type} {verify : ArtifactSnapshot → V → Verdict × V} {s t : Session V}
  {a : ArtifactSnapshot} {v : V}

lemma run_self_bind (k : BundleWorkflow → Op V α) : (Op.self >>= k).run s = (k s.flow).run s :=
  rfl

lemma require_bind {c : Bool} {code : String} {k : Unit → Op V α} (h : c = true) :
    Op.require c code >>= k = k () := by
  subst h
  rfl

lemma ofExcept_bind {x : Except Raised β} {b : β} {k : β → Op V α} (h : x = .ok b) :
    Op.ofExcept x >>= k = k b := by
  subst h
  rfl

lemma run_checkVerified_bind {k : Unit → Op V α} (h : verify a s.verifier = (.accepted, v)) :
    (checkVerified verify a >>= k).run s = (k ()).run { s with verifier := v } := by
  rw [run_bind, run, checkVerified, h]

lemma run_verifyFrozen_bind {k : Unit → Op V α} (h : s.flow.fixed = []) :
    (verifyFrozen verify >>= k).run s = (k ()).run s := by
  rw [verifyFrozen, bind_assoc, run_self_bind, h]
  rfl

lemma run_remember_bind {key : FixedKey} {k : Unit → Op V α} (h : key ∉ s.flow.keys) :
    (remember key a >>= k).run s = (k ()).run { s with flow := s.flow.remembered key a } := by
  have hfresh : decide (key ∉ s.flow.fixed.map Prod.fst) = true := decide_eq_true h
  rw [remember, bind_assoc, run_self_bind, bind_assoc, require_bind hfresh]
  rfl

end

/-! ## A verifier that accepts -/

section

variable {α : Type} {f : BundleWorkflow} {a : ArtifactSnapshot} {kind operation : String}
  {unit : Option String} {payload : Object}

/-- The entries hold what was fixed, and it can be read. -/
def Held (entries : List (FixedKey × ArtifactSnapshot × String)) : Prop :=
  ∀ entry ∈ entries, entry.2.1.sha256 = entry.2.2 ∧ ∃ payload, entry.2.1.data = .ok payload

lemma run_verifyEntries {entries : List (FixedKey × ArtifactSnapshot × String)} (h : Held entries)
    (s : Session Unit) : (verifyEntries accepting entries).run s = (.ok (), s) := by
  induction entries with
  | nil => rfl
  | cons entry rest ih =>
      obtain ⟨hsame, payload, hdata⟩ := h entry List.mem_cons_self
      rw [verifyEntries, verifyEntry, bind_assoc, require_bind (decide_eq_true hsame), bind_assoc,
        ofExcept_bind hdata]
      exact ih fun e he => h e (List.mem_cons_of_mem _ he)

lemma run_verifyFrozen (h : Held f.fixed) :
    (verifyFrozen accepting).run ⟨f, ()⟩ = (.ok (), ⟨f, ()⟩) :=
  run_verifyEntries h ⟨f, ()⟩

lemma run_validate_bind {k : Object → Op Unit α}
    (h : Validated accepting f.binding kind a payload) :
    (validate accepting a kind >>= k).run ⟨f, ()⟩ = (k payload).run ⟨f, ()⟩ := by
  have hbound : (if kind = "empty_human_form" then pure () else f.binding.check payload) =
      .ok () := by
    split
    · rfl
    · rename_i hform
      exact h.bound hform
  rw [validate, bind_assoc, run_self_bind, bind_assoc, require_bind (decide_eq_true h.isKind),
    bind_assoc, ofExcept_bind h.data, bind_assoc, ofExcept_bind h.schema, bind_assoc,
    ofExcept_bind hbound]
  rfl

lemma run_authorize_bind {k : Object → Op Unit α}
    (h : Authorized accepting f.binding operation a payload)
    (hunit : payload.get "reviewer_unit_id" = .optStr unit)
    (hreviewer : (payload.get "reviewer").truthy = true) :
    (authorize accepting a operation unit >>= k).run ⟨f, ()⟩ = (k payload).run ⟨f, ()⟩ := by
  rw [authorize, bind_assoc, run_validate_bind h.validated, bind_assoc,
    require_bind (Value.is_bool.mpr h.approved), bind_assoc,
    require_bind (Value.eq_str.mpr h.forOperation), bind_assoc,
    require_bind (Value.eq_optStr.mpr hunit), bind_assoc, require_bind hreviewer]
  rfl

end

namespace Dossier

section

variable {d : Dossier} {f : BundleWorkflow} {k : ℕ}
  {access card form release human closure authority : ArtifactSnapshot} {previous : Option String}

/-- What stays of the bundle while its units go through. -/
structure Underway (d : Dossier) (f : BundleWorkflow) (access : ArtifactSnapshot) : Prop where
  mapped : f.preMappingFailure = false
  bound : f.binding = d.binding
  units : f.requiredUnitIds = (List.range 3).map d.unitId
  commitment : mappingCommitment f = .ok d.mapping
  fixedAccess : f.access = some access
  accessData : access.data = .ok d.accessPayload
  held : Held f.fixed
  shaped : f.Shaped

lemma Underway.getElem?_units (h : Underway d f access) (hk : k < 3) :
    f.requiredUnitIds[k]? = some (d.unitId k) := by
  simp [h.units, hk]

lemma Underway.checkCurrentUnit {o : Object} (h : Underway d f access) (hk : k < 3)
    (ho : o.get "reviewer_unit_id" = .str (d.unitId k)) : checkCurrentUnit f o k = .ok () := by
  unfold Rq6.checkCurrentUnit
  rw [h.getElem?_units hk, ho]
  exact require_eq_ok.mpr (Value.eq_str.mpr rfl)

lemma Underway.run_validate_bind {α : Type} {a : ArtifactSnapshot} {kind : String}
    {payload : Object} {k : Object → Op Unit α} (hf : Underway d f access)
    (h : Validated accepting d.binding kind a payload) :
    (validate accepting a kind >>= k).run ⟨f, ()⟩ = (k payload).run ⟨f, ()⟩ :=
  Rq6.run_validate_bind (hf.bound ▸ h)

lemma Underway.run_authorize_bind {α : Type} {operation : String} {unit : Option String}
    {k : Object → Op Unit α} (hf : Underway d f access)
    (h : Authorized accepting d.binding operation authority (d.approval operation unit)) :
    (authorize accepting authority operation unit >>= k).run ⟨f, ()⟩ =
      (k (d.approval operation unit)).run ⟨f, ()⟩ :=
  Rq6.run_authorize_bind (hf.bound ▸ h) rfl rfl

/-- The alias commitment is fixed. -/
lemma run_aliasChecks {commitment : ArtifactSnapshot} (hmapped : f.preMappingFailure = false)
    (hstate : f.state = .frozen) (hbound : f.binding = d.binding) (hheld : Held f.fixed)
    (hcommitment : Validated accepting d.binding "alias_commitment" commitment d.aliasPayload)
    (haccess : Validated accepting d.binding "reviewer_access_provenance" access d.accessPayload)
    (hauthority : Authorized accepting d.binding "alias_mapping_creation" authority
      (d.approval "alias_mapping_creation" none)) :
    (aliasChecks accepting commitment access authority).run ⟨f, ()⟩ = (.ok (), ⟨f, ()⟩) := by
  have hopen : (!f.preMappingFailure) = true := by rw [hmapped]; rfl
  have hpolicy : Object.item d.accessPayload "approved_access_policy_sha256" =
      .ok (.str d.policy) := rfl
  have hlink : Object.get d.aliasPayload "reviewer_access_policy_sha256" = .str d.policy := rfl
  have hreviewer : Object.item (d.approval "alias_mapping_creation" none) "reviewer" =
      .ok (.str "reviewer") := rfl
  have hreviewer' : Object.item d.accessPayload "reviewer" = .ok (.str "reviewer") := rfl
  rw [aliasChecks, run_self_bind]
  dsimp only
  rw [require_bind hopen, require_bind (decide_eq_true hstate),
    run_bind_of_ok (run_verifyFrozen hheld), Rq6.run_validate_bind (hbound ▸ hcommitment),
    Rq6.run_validate_bind (hbound ▸ haccess), Rq6.run_authorize_bind (hbound ▸ hauthority) rfl rfl,
    ofExcept_bind hpolicy, hlink, require_bind (Value.eq_str.mpr rfl), ofExcept_bind hreviewer,
    ofExcept_bind hreviewer']
  exact congrArg (run · _) (congrArg Op.ofExcept (require_eq_ok.mpr (Value.eq_str.mpr rfl)))

/-- A unit is released whose artifacts are linked. -/
lemma run_releaseChecks (hf : Underway d f access) (hk : k < 3)
    (hstate : f.state = .aliasCommitmentFixed ∨ f.state = .unitClosureVerified)
    (hcards : f.cards.length = k) (hclosures : f.unitClosures.length = k)
    (hprevious : previousClosure f = .ok previous)
    (hcard : Validated accepting d.binding "reviewer_card" card (d.cardPayload k))
    (hform : Validated accepting d.binding "empty_human_form" form formPayload)
    (hrelease : Validated accepting d.binding "unit_release_receipt" release
      (d.releasePayload k card.sha256 form.sha256 access.sha256 previous))
    (hauthority : Authorized accepting d.binding "unit_release" authority
      (d.approval "unit_release" (some (d.unitId k)))) :
    (releaseChecks accepting card form release authority).run ⟨f, ()⟩ = (.ok (), ⟨f, ()⟩) := by
  have hstate' : (f.state = .aliasCommitmentFixed || f.state = .unitClosureVerified) = true := by
    simpa using hstate
  have hmapped : (!f.preMappingFailure) = true := by rw [hf.mapped]; rfl
  have hreviewer : Object.item (d.approval "unit_release" (some (d.unitId k))) "reviewer" =
      .ok (.str "reviewer") := rfl
  have hreviewer' : Object.item d.accessPayload "reviewer" = .ok (.str "reviewer") := rfl
  have hsequence : Object.item (d.cardPayload k) "observation_sequence_within_bundle" =
      .ok (.int (k + 1)) := rfl
  have hside : Object.item (d.cardPayload k) "blind_alias" = .ok (.str "SIDE_1") := rfl
  have hcommitment : Object.item (d.cardPayload k) "mapping_commitment_sha256" =
      .ok (.str d.mapping) := rfl
  have hsource : Object.item (d.cardPayload k) "source_link_commitment_sha256" =
      .ok (.str d.sourceLink) := rfl
  have hlinks : hasLinks (d.releasePayload k card.sha256 form.sha256 access.sha256 previous)
      (releaseLinks card form access (.str d.mapping) (.str d.sourceLink) previous) = true := by
    simp only [hasLinks, releaseLinks, List.all_cons, Bool.and_eq_true]
    exact ⟨Value.eq_str.mpr rfl, Value.eq_str.mpr rfl, Value.eq_str.mpr rfl, Value.eq_str.mpr rfl,
      Value.eq_str.mpr rfl, Value.eq_optStr.mpr rfl, rfl⟩
  rw [releaseChecks, run_self_bind]
  dsimp only
  rw [hcards, hf.getElem?_units hk, hclosures, require_bind hmapped, require_bind hstate',
    run_bind_of_ok (run_verifyFrozen hf.held), hf.run_validate_bind hcard,
    ofExcept_bind (hf.checkCurrentUnit hk rfl), hf.run_validate_bind hform,
    hf.run_validate_bind hrelease, ofExcept_bind (hf.checkCurrentUnit hk rfl),
    hf.run_authorize_bind hauthority, ofExcept_bind (asserted_eq_ok.mpr hf.fixedAccess),
    ofExcept_bind hreviewer, ofExcept_bind hf.accessData, ofExcept_bind hreviewer',
    require_bind (Value.eq_str.mpr rfl), ofExcept_bind hsequence,
    require_bind (Value.int_eq_int.mpr rfl), ofExcept_bind hside, require_bind (by decide),
    require_bind (by decide), ofExcept_bind hcommitment, ofExcept_bind hf.commitment,
    require_bind (Value.eq_str.mpr rfl), ofExcept_bind hsource, ofExcept_bind hprevious,
    require_bind hlinks]
  exact congrArg (run · _) (congrArg Op.ofExcept (require_eq_ok.mpr (decide_eq_true rfl)))

/-- A receipt that is linked to the unit is fixed. -/
lemma run_humanChecks (hf : Underway d f access) (hk : k < 3) (hstate : f.state = .unitReleased)
    (hreceipts : f.humanReceipts.length = k) (hcard : f.cards[k]? = some card)
    (hrelease : f.releases[k]? = some release) (hdata : card.data = .ok (d.cardPayload k))
    (hhuman : Validated accepting d.binding "human_receipt" human
      (d.humanPayload k card.sha256 release.sha256 access.sha256)) :
    (humanChecks accepting human).run ⟨f, ()⟩ = (.ok (), ⟨f, ()⟩) := by
  have hsource : Object.item (d.cardPayload k) "source_link_commitment_sha256" =
      .ok (.str d.sourceLink) := rfl
  have hside : Object.item (d.cardPayload k) "blind_alias" = .ok (.str "SIDE_1") := rfl
  have hreviewer : Object.item d.accessPayload "reviewer" = .ok (.str "reviewer") := rfl
  have hlinks : hasLinks (d.humanPayload k card.sha256 release.sha256 access.sha256)
      (humanLinks card release access d.mapping (.str d.sourceLink) (.str "SIDE_1")
        (.str "reviewer")) = true := by
    simp only [hasLinks, humanLinks, List.all_cons, Bool.and_eq_true]
    exact ⟨Value.eq_str.mpr rfl, Value.eq_str.mpr rfl, Value.eq_str.mpr rfl, Value.eq_str.mpr rfl,
      Value.eq_str.mpr rfl, Value.eq_str.mpr rfl, Value.eq_str.mpr rfl, rfl⟩
  have hblind : Object.item (d.humanPayload k card.sha256 release.sha256 access.sha256)
      "operationally_mapping_blind_at_coding" = .ok (.bool true) := rfl
  have hseen : Object.item (d.humanPayload k card.sha256 release.sha256 access.sha256)
      "mechanical_stability_seen" = .ok (.bool false) := rfl
  rw [humanChecks, run_self_bind]
  dsimp only
  rw [hreceipts, require_bind (decide_eq_true hstate), run_bind_of_ok (run_verifyFrozen hf.held),
    hf.run_validate_bind hhuman, ofExcept_bind (hf.checkCurrentUnit hk rfl),
    ofExcept_bind (itemAt_eq_ok.mpr hcard), ofExcept_bind hdata,
    ofExcept_bind (asserted_eq_ok.mpr hf.fixedAccess), ofExcept_bind (itemAt_eq_ok.mpr hrelease),
    ofExcept_bind hf.commitment, ofExcept_bind hsource, ofExcept_bind hside,
    ofExcept_bind hf.accessData, ofExcept_bind hreviewer, require_bind hlinks,
    ofExcept_bind hblind, require_bind (by decide), ofExcept_bind hseen]
  rfl

/-- A closure that is linked to the unit is fixed. -/
lemma run_unitClosureChecks (hf : Underway d f access) (hk : k < 3)
    (hstate : f.state = .humanReceiptFixed) (hclosures : f.unitClosures.length = k)
    (hcard : f.cards[k]? = some card) (hrelease : f.releases[k]? = some release)
    (hhuman : f.humanReceipts[k]? = some human) (hdata : card.data = .ok (d.cardPayload k))
    (hclosure : Validated accepting d.binding "unit_closure" closure
      (d.closurePayload k card.sha256 release.sha256 human.sha256)) :
    (unitClosureChecks accepting closure).run ⟨f, ()⟩ = (.ok (), ⟨f, ()⟩) := by
  have hsource : Object.item (d.cardPayload k) "source_link_commitment_sha256" =
      .ok (.str d.sourceLink) := rfl
  have hlinks : hasLinks (d.closurePayload k card.sha256 release.sha256 human.sha256)
      (closureLinks card release human d.mapping (.str d.sourceLink)) = true := by
    simp only [hasLinks, closureLinks, List.all_cons, Bool.and_eq_true]
    exact ⟨Value.eq_str.mpr rfl, Value.eq_str.mpr rfl, Value.eq_str.mpr rfl, Value.eq_str.mpr rfl,
      Value.eq_str.mpr rfl, rfl⟩
  have hfrozen : Object.item (d.closurePayload k card.sha256 release.sha256 human.sha256)
      "semantic_coding_frozen" = .ok (.bool true) := rfl
  have hblinded : Object.item (d.closurePayload k card.sha256 release.sha256 human.sha256)
      "unblinded" = .ok (.bool false) := rfl
  have hclosed : Object.item (d.closurePayload k card.sha256 release.sha256 human.sha256)
      "state" = .ok (.str "SEMANTICALLY_CLOSED_BLINDED") := rfl
  rw [unitClosureChecks, run_self_bind]
  dsimp only
  rw [hclosures, require_bind (decide_eq_true hstate), run_bind_of_ok (run_verifyFrozen hf.held),
    hf.run_validate_bind hclosure, ofExcept_bind (hf.checkCurrentUnit hk rfl),
    ofExcept_bind (itemAt_eq_ok.mpr hcard), ofExcept_bind hdata,
    ofExcept_bind (itemAt_eq_ok.mpr hrelease), ofExcept_bind (itemAt_eq_ok.mpr hhuman),
    ofExcept_bind hf.commitment, ofExcept_bind hsource, require_bind hlinks,
    ofExcept_bind hfrozen, ofExcept_bind hblinded, require_bind (by decide), ofExcept_bind hclosed]
  exact congrArg (run · _) (congrArg Op.ofExcept (require_eq_ok.mpr (Value.eq_str.mpr rfl)))

/-- The mapping is revealed once the units are closed. -/
lemma run_revealChecks {receipt commitment : ArtifactSnapshot} {aliasData : Object}
    (hf : Underway d f access)
    (hstate : f.state = .unitClosureVerified)
    (hunits : f.unitClosures.length = f.requiredUnitIds.length)
    (hfixed : f.aliasCommitment = some commitment) (hdata : commitment.data = .ok aliasData)
    (hpolicy : aliasData.item "reviewer_access_policy_sha256" = .ok (.str d.policy))
    (hreceipt : Validated accepting d.binding "bundle_unblind_receipt" receipt
      (d.unblindPayload authority.sha256 f.humanReceiptHashes f.unitClosureHashes))
    (hauthority : Authorized accepting d.binding "bundle_unblind" authority
      (d.approval "bundle_unblind" none)) :
    (revealChecks accepting receipt authority).run ⟨f, ()⟩ = (.ok (), ⟨f, ()⟩) := by
  have hcommitment : Object.item (d.unblindPayload authority.sha256 f.humanReceiptHashes
      f.unitClosureHashes) "alias_commitment_sha256" = .ok (.str d.mapping) := rfl
  have hreceipts : Object.item (d.unblindPayload authority.sha256 f.humanReceiptHashes
      f.unitClosureHashes) "required_human_receipt_hashes" =
        .ok (.strs f.humanReceiptHashes) := rfl
  have hclosures : Object.item (d.unblindPayload authority.sha256 f.humanReceiptHashes
      f.unitClosureHashes) "required_unit_closure_hashes" = .ok (.strs f.unitClosureHashes) := rfl
  have hhuman : Object.item (d.unblindPayload authority.sha256 f.humanReceiptHashes
      f.unitClosureHashes) "human_authorization_receipt_sha256" =
        .ok (.str authority.sha256) := rfl
  have hrecipients : Object.item (d.unblindPayload authority.sha256 f.humanReceiptHashes
      f.unitClosureHashes) "authorized_recipients" = .ok (.strs ["reviewer"]) := rfl
  have haudience : Object.get (d.approval "bundle_unblind" none) "authorized_recipients" =
      .strs ["reviewer"] := rfl
  have hpolicy' : Object.item (d.unblindPayload authority.sha256 f.humanReceiptHashes
      f.unitClosureHashes) "reviewer_access_policy_sha256" = .ok (.str d.policy) := rfl
  rw [revealChecks, run_self_bind]
  dsimp only
  rw [require_bind (decide_eq_true hstate), require_bind (decide_eq_true hunits),
    run_bind_of_ok (run_verifyFrozen hf.held), hf.run_validate_bind hreceipt,
    hf.run_authorize_bind hauthority, ofExcept_bind (asserted_eq_ok.mpr hfixed),
    ofExcept_bind hcommitment, ofExcept_bind hf.commitment, require_bind (Value.eq_str.mpr rfl),
    ofExcept_bind hreceipts, require_bind (Value.eq_strs.mpr rfl), ofExcept_bind hclosures,
    require_bind (Value.eq_strs.mpr rfl), ofExcept_bind hhuman,
    require_bind (Value.eq_str.mpr rfl), ofExcept_bind hrecipients, haudience,
    require_bind (Value.eq_strs.mpr rfl), require_bind (by decide), ofExcept_bind hpolicy',
    ofExcept_bind hdata, ofExcept_bind hpolicy]
  exact congrArg (run · _) (congrArg Op.ofExcept (require_eq_ok.mpr (Value.eq_str.mpr rfl)))

/-! ### Operations that return -/

/-- The step of an operation that returned keeps what a bundle keeps. -/
lemma Underway.step {g : BundleWorkflow} {call : FlowCall} (hf : Underway d f access)
    (h : FlowStep accepting f call g) (haccess : g.access = f.access) (hheld : Held g.fixed)
    (hmapping : mappingCommitment g = mappingCommitment f) : Underway d g access := by
  have hext := extends_step hf.shaped h
  exact ⟨hext.preMappingFailure.trans hf.mapped, hext.binding.trans hf.bound,
    hext.requiredUnitIds.trans hf.units, hmapping.trans hf.commitment,
    haccess.trans hf.fixedAccess, hf.accessData, hheld, shaped_step hf.shaped h⟩

/-- An operation that returned took the step of its call. -/
lemma step_of_returns {g : BundleWorkflow} (hf : f.Shaped) (call : FlowCall)
    (h : (call.body accepting).run ⟨f, ()⟩ = (.ok (), ⟨g, ()⟩)) : FlowStep accepting f call g := by
  have htakes : Takes accepting f call (call.body accepting) := takes_body hf call
  have hstep := htakes ⟨f, ()⟩ rfl
  rw [h] at hstep
  exact hstep

lemma held_concat {entries : List (FixedKey × ArtifactSnapshot × String)} {key : FixedKey}
    {a : ArtifactSnapshot} {payload : Object} (h : Held entries) (hdata : a.data = .ok payload) :
    Held (entries ++ [(key, a, a.sha256)]) := by
  intro e he
  rcases List.mem_append.mp he with he | he
  · exact h e he
  · obtain rfl := List.mem_singleton.mp he
    exact ⟨rfl, payload, hdata⟩

lemma held_released {c e r a : Object} (h : Held f.fixed) (hcard : card.data = .ok c)
    (hform : form.data = .ok e) (hrelease : release.data = .ok r)
    (hauthority : authority.data = .ok a) :
    Held (f.released card form release authority).fixed :=
  held_concat (held_concat (held_concat (held_concat h hcard) hform) hrelease) hauthority

lemma run_fixAliasCommitment {commitment : ArtifactSnapshot} (hshaped : f.Shaped)
    (hstate : f.state = .frozen)
    (h : (aliasChecks accepting commitment access authority).run ⟨f, ()⟩ = (.ok (), ⟨f, ()⟩)) :
    (fixAliasCommitment accepting commitment access authority).run ⟨f, ()⟩ =
      (.ok (), ⟨f.aliased commitment access authority, ()⟩) := by
  have hnone : ¬f.aliasCommitment.isSome := by
    rw [(hshaped.at_state hstate (by decide)).commitment]
    decide
  have hcommitment : FixedKey.aliasCommitment ∉ f.keys := hshaped.fresh hnone
  have haccess : FixedKey.access ∉ f.keys := hshaped.fresh hnone
  have hauthority : FixedKey.aliasAuthority ∉ f.keys := hshaped.fresh hnone
  rw [fixAliasCommitment, run_bind_of_ok h, run_remember_bind hcommitment,
    run_remember_bind (notMem_remembered haccess (by simp)),
    run_remember_bind (notMem_remembered (notMem_remembered hauthority (by simp)) (by simp))]
  rfl

lemma mappingCommitment_eq_ok {commitment : ArtifactSnapshot}
    (h : f.aliasCommitment = some commitment) (hdata : commitment.data = .ok d.aliasPayload) :
    mappingCommitment f = .ok d.mapping := by
  unfold mappingCommitment
  rw [h]
  simp only [hdata, Except.ok_bind]
  rfl

lemma run_releaseUnit (hshaped : f.Shaped)
    (h : (releaseChecks accepting card form release authority).run ⟨f, ()⟩ = (.ok (), ⟨f, ()⟩)) :
    (releaseUnit accepting card form release authority).run ⟨f, ()⟩ =
      (.ok (), ⟨f.released card form release authority, ()⟩) := by
  have hcard : FixedKey.card f.cards.length ∉ f.keys := hshaped.fresh (lt_irrefl _)
  have hform : FixedKey.form f.cards.length ∉ f.keys := hshaped.fresh (lt_irrefl _)
  have hrelease : FixedKey.release f.cards.length ∉ f.keys := hshaped.fresh (lt_irrefl _)
  have hauthority : FixedKey.releaseAuthority f.cards.length ∉ f.keys :=
    hshaped.fresh (lt_irrefl _)
  rw [releaseUnit, run_self_bind]
  dsimp only
  rw [run_bind_of_ok h, run_remember_bind hcard,
    run_remember_bind (notMem_remembered hform (by simp)),
    run_remember_bind (notMem_remembered (notMem_remembered hrelease (by simp)) (by simp)),
    run_remember_bind (notMem_remembered (notMem_remembered (notMem_remembered hauthority
      (by simp)) (by simp)) (by simp))]
  rfl

lemma run_fixHumanReceipt (hshaped : f.Shaped)
    (h : (humanChecks accepting human).run ⟨f, ()⟩ = (.ok (), ⟨f, ()⟩)) :
    (fixHumanReceipt accepting human).run ⟨f, ()⟩ = (.ok (), ⟨f.adjudicated human, ()⟩) := by
  have hfresh : FixedKey.human f.humanReceipts.length ∉ f.keys := hshaped.fresh (lt_irrefl _)
  rw [fixHumanReceipt, run_self_bind]
  dsimp only
  rw [run_bind_of_ok h, run_remember_bind hfresh]
  rfl

lemma run_verifyUnitClosure (hshaped : f.Shaped)
    (h : (unitClosureChecks accepting closure).run ⟨f, ()⟩ = (.ok (), ⟨f, ()⟩)) :
    (verifyUnitClosure accepting closure).run ⟨f, ()⟩ = (.ok (), ⟨f.closedUnit closure, ()⟩) := by
  have hfresh : FixedKey.unitClosure f.unitClosures.length ∉ f.keys :=
    hshaped.fresh (lt_irrefl _)
  rw [verifyUnitClosure, run_self_bind]
  dsimp only
  rw [run_bind_of_ok h, run_remember_bind hfresh]
  rfl

lemma run_revealMapping {receipt : ArtifactSnapshot} {payload approved : Object}
    (hf : Underway d f access) (hstate : f.state = .unitClosureVerified)
    (hreceipt : receipt.data = .ok payload) (hauthority : authority.data = .ok approved)
    (h : (revealChecks accepting receipt authority).run ⟨f, ()⟩ = (.ok (), ⟨f, ()⟩)) :
    (revealMapping accepting receipt authority).run ⟨f, ()⟩ =
      (.ok (), ⟨f.revealed receipt authority, ()⟩) := by
  have hnone : ¬f.unblind.isSome := by
    rw [(hf.shaped.at_state hstate (by decide)).unblind]
    decide
  have hunblind : FixedKey.unblind ∉ f.keys := hf.shaped.fresh hnone
  have hfresh : FixedKey.unblindAuthority ∉ f.keys := hf.shaped.fresh hnone
  have hfix : (fixReveal accepting receipt authority).run ⟨f, ()⟩ =
      (.ok (), ⟨f.revealed receipt authority, ()⟩) := by
    rw [fixReveal, run_bind_of_ok h, run_remember_bind hunblind,
      run_remember_bind (notMem_remembered hfresh (by simp))]
    rfl
  rw [revealMapping, run_bind_of_ok hfix]
  exact run_verifyFrozen (held_concat (held_concat hf.held hreceipt) hauthority)

end

/-! ## The run -/

section

variable (d : Dossier)

/-- The workflow of the bundle. -/
def start : BundleWorkflow where
  binding := d.binding
  preMappingFailure := false
  requiredUnitIds := (List.range 3).map d.unitId
  primaryAnchorReceiptSha256 := d.policy

/-- The calls for a unit. -/
def unitCalls (k : ℕ) : List (FlowInput Unit) :=
  [.call (.releaseUnit (d.card k) form (d.release k)
      (d.approvalFor "unit_release" (some (d.unitId k)))),
    .call (.fixHumanReceipt (d.human k)), .call (.verifyUnitClosure (d.closure k))]

/-- The calls up to the closure of the first units. -/
def callsUpTo : ℕ → List (FlowInput Unit)
  | 0 => [.call (.fixAliasCommitment d.commitment d.access
      (d.approvalFor "alias_mapping_creation" none))]
  | k + 1 => callsUpTo k ++ d.unitCalls k

def revealCall : FlowCall := .revealMapping d.revealReceipt d.revealAuthority

/-- The first units of the bundle are closed. -/
structure Done (k : ℕ) (f : BundleWorkflow) : Prop extends Underway d f d.access where
  state : f.state = if k = 0 then .aliasCommitmentFixed else .unitClosureVerified
  commitmentFixed : f.aliasCommitment = some d.commitment
  cards : f.cards.length = k
  humanReceipts : f.humanReceipts = (List.range k).map d.human
  unitClosures : f.unitClosures = (List.range k).map d.closure

/-- The unit is released. -/
structure UnitReleased (k : ℕ) (f g : BundleWorkflow) : Prop extends Underway d g d.access where
  state : g.state = .unitReleased
  aliasCommitment : g.aliasCommitment = f.aliasCommitment
  cards : g.cards = f.cards ++ [d.card k]
  releases : g.releases = f.releases ++ [d.release k]
  humanReceipts : g.humanReceipts = f.humanReceipts
  unitClosures : g.unitClosures = f.unitClosures

/-- The unit is coded. -/
structure UnitCoded (k : ℕ) (f g : BundleWorkflow) : Prop extends Underway d g d.access where
  state : g.state = .humanReceiptFixed
  aliasCommitment : g.aliasCommitment = f.aliasCommitment
  cards : g.cards = f.cards ++ [d.card k]
  releases : g.releases = f.releases ++ [d.release k]
  humanReceipts : g.humanReceipts = f.humanReceipts ++ [d.human k]
  unitClosures : g.unitClosures = f.unitClosures

end

section

variable {d : Dossier} {f g : BundleWorkflow} {k : ℕ}

lemma Done.previousClosure (h : d.Done k f) : previousClosure f = .ok (d.previous k) := by
  unfold Rq6.previousClosure
  rw [h.cards, h.unitClosures]
  cases k with
  | zero => rfl
  | succ k => simp [List.range_succ, previous, closure]

lemma getElem?_append_length {xs : List ArtifactSnapshot} {a : ArtifactSnapshot}
    (h : xs.length = k) : (xs ++ [a])[k]? = some a := by
  subst h
  exact List.getElem?_concat_length

lemma run_of_returns (call : FlowCall) (rest : List (FlowInput Unit))
    (h : (call.op accepting).run ⟨f, ()⟩ = (.ok (), ⟨g, ()⟩)) :
    (workflows accepting).run ⟨f, ()⟩ (.call call :: rest) =
      (workflows accepting).run ⟨g, ()⟩ rest := by
  have hnext : (workflows accepting).next ⟨f, ()⟩ (.call call) = ⟨g, ()⟩ := congrArg Prod.snd h
  rw [Machine.run_cons, hnext]

lemma run_release (hd : d.Admissible) (hf : d.Done k f) (hk : k < 3) :
    ∃ g, (releaseUnit accepting (d.card k) form (d.release k)
      (d.approvalFor "unit_release" (some (d.unitId k)))).run ⟨f, ()⟩ = (.ok (), ⟨g, ()⟩) ∧
      d.UnitReleased k f g := by
  have hclosures : f.unitClosures.length = k := by simp [hf.unitClosures]
  have hstate : f.state = .aliasCommitmentFixed ∨ f.state = .unitClosureVerified := by
    rw [hf.state]
    split
    · exact .inl rfl
    · exact .inr rfl
  have hrun := run_releaseUnit hf.shaped (run_releaseChecks hf.toUnderway hk hstate hf.cards
    hclosures hf.previousClosure (validated_card hd hk) (validated_form hd)
    (validated_release hd hk) (authorized_approvalFor ..))
  have hheld := held_released hf.held (d.data_card hk) data_form (d.data_release k)
    (d.data_approvalFor "unit_release" (some (d.unitId k)))
  exact ⟨_, hrun, hf.toUnderway.step (step_of_returns hf.shaped (.releaseUnit ..) hrun) rfl hheld
    rfl, rfl, rfl, rfl, rfl, rfl, rfl⟩

lemma run_coding (hd : d.Admissible) (hf : d.Done k f) (hk : k < 3) (hg : d.UnitReleased k f g) :
    ∃ g', (fixHumanReceipt accepting (d.human k)).run ⟨g, ()⟩ = (.ok (), ⟨g', ()⟩) ∧
      d.UnitCoded k f g' := by
  have hreleases : f.releases.length = k := hf.shaped.releases.trans hf.cards
  have hcard : g.cards[k]? = some (d.card k) := by
    rw [hg.cards]
    exact getElem?_append_length hf.cards
  have hrelease : g.releases[k]? = some (d.release k) := by
    rw [hg.releases]
    exact getElem?_append_length hreleases
  have hreceipts : g.humanReceipts.length = k := by simp [hg.humanReceipts, hf.humanReceipts]
  have hrun := run_fixHumanReceipt hg.shaped (run_humanChecks hg.toUnderway hk hg.state hreceipts
    hcard hrelease (d.data_card hk) (validated_human hd hk))
  have hheld : Held (g.adjudicated (d.human k)).fixed := held_concat hg.held (d.data_human k)
  refine ⟨_, hrun, hg.toUnderway.step (step_of_returns hg.shaped (.fixHumanReceipt _) hrun) rfl
    hheld rfl, rfl, hg.aliasCommitment, hg.cards, hg.releases, ?_, hg.unitClosures⟩
  rw [← hg.humanReceipts]
  rfl

lemma run_closing (hd : d.Admissible) (hf : d.Done k f) (hk : k < 3) (hg : d.UnitCoded k f g) :
    ∃ g', (verifyUnitClosure accepting (d.closure k)).run ⟨g, ()⟩ = (.ok (), ⟨g', ()⟩) ∧
      d.Done (k + 1) g' := by
  have hreleases : f.releases.length = k := hf.shaped.releases.trans hf.cards
  have hcard : g.cards[k]? = some (d.card k) := by
    rw [hg.cards]
    exact getElem?_append_length hf.cards
  have hrelease : g.releases[k]? = some (d.release k) := by
    rw [hg.releases]
    exact getElem?_append_length hreleases
  have hhuman : g.humanReceipts[k]? = some (d.human k) := by
    rw [hg.humanReceipts]
    exact getElem?_append_length (by simp [hf.humanReceipts])
  have hclosures : g.unitClosures.length = k := by simp [hg.unitClosures, hf.unitClosures]
  have hrun := run_verifyUnitClosure hg.shaped (run_unitClosureChecks hg.toUnderway hk hg.state
    hclosures hcard hrelease hhuman (d.data_card hk) (validated_closure hd hk))
  have hheld : Held (g.closedUnit (d.closure k)).fixed := held_concat hg.held (d.data_closure k)
  refine ⟨_, hrun, hg.toUnderway.step (step_of_returns hg.shaped (.verifyUnitClosure _) hrun) rfl
    hheld rfl, rfl, hg.aliasCommitment.trans hf.commitmentFixed, ?_, ?_, ?_⟩
  · change g.cards.length = k + 1
    simp [hg.cards, hf.cards]
  · change g.humanReceipts = _
    rw [hg.humanReceipts, hf.humanReceipts, List.range_succ, List.map_append]
    rfl
  · change g.unitClosures ++ [d.closure k] = _
    rw [hg.unitClosures, hf.unitClosures, List.range_succ, List.map_append]
    rfl

/-- The calls for the next unit release it, fix its coding and close it. -/
lemma run_unitCalls (hd : d.Admissible) (hf : d.Done k f) (hk : k < 3) :
    ∃ g, (workflows accepting).run ⟨f, ()⟩ (d.unitCalls k) = ⟨g, ()⟩ ∧ d.Done (k + 1) g := by
  obtain ⟨g, hg, hreleased⟩ := run_release hd hf hk
  obtain ⟨g', hg', hcoded⟩ := run_coding hd hf hk hreleased
  obtain ⟨g'', hg'', hdone⟩ := run_closing hd hf hk hcoded
  refine ⟨g'', ?_, hdone⟩
  rw [unitCalls, run_of_returns (.releaseUnit ..) _ hg, run_of_returns (.fixHumanReceipt _) _ hg',
    run_of_returns (.verifyUnitClosure _) _ hg'', Machine.run_nil]

/-- The first call fixes the alias commitment. -/
lemma run_alias (hd : d.Admissible) :
    ∃ g, (fixAliasCommitment accepting d.commitment d.access
      (d.approvalFor "alias_mapping_creation" none)).run ⟨d.start, ()⟩ = (.ok (), ⟨g, ()⟩) ∧
      d.Done 0 g := by
  have hshaped : d.start.Shaped := shaped_created
  have hempty : Held d.start.fixed := fun _ he => absurd he List.not_mem_nil
  have hrun := run_fixAliasCommitment hshaped rfl (run_aliasChecks rfl rfl rfl hempty
    validated_commitment (validated_access hd) (authorized_approvalFor ..))
  have hheld : Held (d.start.aliased d.commitment d.access
      (d.approvalFor "alias_mapping_creation" none)).fixed :=
    held_concat (held_concat (held_concat hempty d.data_commitment) d.data_access)
      (d.data_approvalFor ..)
  have hstep := shaped_step hshaped (step_of_returns hshaped (.fixAliasCommitment ..) hrun)
  exact ⟨_, hrun, ⟨rfl, rfl, rfl, mappingCommitment_eq_ok rfl d.data_commitment, rfl,
    d.data_access, hheld, hstep⟩, rfl, rfl, rfl, rfl, rfl⟩

lemma run_callsUpTo (hd : d.Admissible) (hk : k ≤ 3) :
    ∃ g, (workflows accepting).run ⟨d.start, ()⟩ (d.callsUpTo k) = ⟨g, ()⟩ ∧ d.Done k g := by
  induction k with
  | zero =>
      obtain ⟨g, hg, hdone⟩ := run_alias hd
      refine ⟨g, ?_, hdone⟩
      rw [callsUpTo, run_of_returns (.fixAliasCommitment ..) _ hg, Machine.run_nil]
  | succ k ih =>
      obtain ⟨f, hf, hdone⟩ := ih (by omega)
      obtain ⟨g, hg, hdone⟩ := run_unitCalls hd hdone (by omega)
      exact ⟨g, by rw [callsUpTo, Machine.run_append, hf, hg], hdone⟩

lemma run_revealCall (hd : d.Admissible) (hf : d.Done 3 f) :
    (d.revealCall.op accepting).run ⟨f, ()⟩ =
      (.ok (), ⟨f.revealed d.revealReceipt d.revealAuthority, ()⟩) := by
  have hunits : f.unitClosures.length = f.requiredUnitIds.length := by
    simp [hf.unitClosures, hf.units]
  have hreceipts : f.humanReceiptHashes = d.receiptHashes := by
    simp [BundleWorkflow.humanReceiptHashes, receiptHashes, hf.humanReceipts]
  have hclosures : f.unitClosureHashes = d.closureHashes := by
    simp [BundleWorkflow.unitClosureHashes, closureHashes, hf.unitClosures]
  have hreceipt := validated_reveal hd
  rw [← hreceipts, ← hclosures] at hreceipt
  exact run_revealMapping hf.toUnderway hf.state d.data_revealReceipt (d.data_approvalFor ..)
    (run_revealChecks hf.toUnderway hf.state hunits hf.commitmentFixed d.data_commitment rfl
      hreceipt (authorized_approvalFor ..))

/-- The mapping of the bundle is revealed. -/
theorem exists_revealed (hd : d.Admissible) :
    ∃ e ∈ (workflows accepting).trace ⟨d.start, ()⟩ (d.callsUpTo 3 ++ [.call d.revealCall]),
      e.output = .ok () ∧ e.after.flow.state = .bundleMappingRevealed ∧
        e.after.flow.unblind = some d.revealReceipt := by
  obtain ⟨f, hf, hdone⟩ := run_callsUpTo hd (le_refl 3)
  have hrun := run_revealCall hd hdone
  have hstep : (workflows accepting).step ⟨f, ()⟩ (.call d.revealCall) =
      (⟨f.revealed d.revealReceipt d.revealAuthority, ()⟩, .ok ()) := congrArg Prod.swap hrun
  refine ⟨(workflows accepting).stage ⟨f, ()⟩ (.call d.revealCall), ?_, ?_, ?_, ?_⟩
  · rw [Machine.trace_append, hf]
    exact List.mem_append_right _ List.mem_cons_self
  · exact congrArg Prod.snd hstep
  · exact congrArg (fun p => p.1.flow.state) hstep
  · exact congrArg (fun p => p.1.flow.unblind) hstep

end

end Dossier

end CivicGate.Rq6
