import CivicGate.Rq6.WorkflowProgress

/-!
# What every run of a bundle workflow guarantees

`workflow_blind_and_final`: the reveal and what follows it is fixed after all three units, what
is fixed before stays as it is, and final states are final.  `all_or_nothing`: a call that raises
changes nothing, but for the three operations that verify again what they have just fixed.
-/

namespace CivicGate.Rq6

open Program

variable {V : Type} {verify : ArtifactSnapshot → V → Verdict × V} {f g : BundleWorkflow}
  {call : FlowCall}

/-! ## Runs -/

/-- A workflow as one of the two constructors builds it. -/
inductive Built : BundleWorkflow → Prop
  | created {b : BundleBinding} {units : List String} {anchor : String} {f : BundleWorkflow}
      (h : BundleWorkflow.create b units anchor = .ok f) : Built f
  | preMappingFailed {protocolId amendmentId packageId manifest : String} {position : ℤ}
      {anchor : String} {f : BundleWorkflow}
      (h : BundleWorkflow.preMappingFailed protocolId amendmentId packageId manifest position
        anchor = .ok f) : Built f

/-- The workflow is well shaped, its artifacts are linked, and a mapped bundle has three units. -/
structure BundleWorkflow.Inv (verify : ArtifactSnapshot → V → Verdict × V)
    (f : BundleWorkflow) : Prop where
  shaped : f.Shaped
  linked : f.Linked verify
  units : f.preMappingFailure = false →
    f.requiredUnitIds.length = 3 ∧ f.requiredUnitIds.Nodup

lemma create_eq_ok {b : BundleBinding} {units : List String} {anchor : String}
    (h : BundleWorkflow.create b units anchor = .ok f) :
    f = { binding := b, preMappingFailure := isFailureId b.bundleReviewId,
          requiredUnitIds := units, primaryAnchorReceiptSha256 := anchor } ∧
      (isFailureId b.bundleReviewId = false → units.length = 3 ∧ units.Nodup) := by
  unfold BundleWorkflow.create at h
  by_cases hfailure : isFailureId b.bundleReviewId = true
  · rw [if_pos hfailure] at h
    simp only [Except.bind_eq_ok] at h
    obtain ⟨_, -, h⟩ := h
    cases h
    exact ⟨rfl, fun hnot => absurd hfailure (by rw [hnot]; decide)⟩
  · rw [if_neg hfailure] at h
    simp only [Except.bind_eq_ok, require_eq_ok, decide_eq_true_eq] at h
    obtain ⟨_, hlength, _, hnodup, _, -, h⟩ := h
    cases h
    exact ⟨rfl, fun _ => ⟨hlength, hnodup⟩⟩

lemma inv_of_create {b : BundleBinding} {units : List String} {anchor : String}
    (h : BundleWorkflow.create b units anchor = .ok f) : f.Inv verify := by
  obtain ⟨rfl, hunits⟩ := create_eq_ok h
  exact ⟨shaped_created, linked_of_unreleased rfl rfl rfl rfl, hunits⟩

lemma create_of_preMappingFailed {protocolId amendmentId packageId manifest : String}
    {position : ℤ} {anchor : String} (h : BundleWorkflow.preMappingFailed protocolId amendmentId
      packageId manifest position anchor = .ok f) :
    isHash manifest = true ∧ 0 < position ∧
      BundleWorkflow.create ⟨protocolId, amendmentId, packageId, "RQ6_CUSTODY_FAILURE:" ++
        manifest ++ ":" ++ String.ofList (printInt position)⟩ [] anchor = .ok f := by
  unfold BundleWorkflow.preMappingFailed at h
  simp only [Except.bind_eq_ok, require_eq_ok, decide_eq_true_eq] at h
  obtain ⟨_, hhash, _, hposition, hcreate⟩ := h
  exact ⟨hhash, hposition, hcreate⟩

lemma inv_of_built (h : Built f) : f.Inv verify := by
  cases h with
  | created h => exact inv_of_create h
  | preMappingFailed h => exact inv_of_create (create_of_preMappingFailed h).2.2

/-- The identifier `pre_mapping_failure` gives a bundle is one of a failure. -/
lemma isFailureId_custody {manifest : String} {position : ℤ} (hhash : isHash manifest = true)
    (hposition : 0 < position) :
    isFailureId ("RQ6_CUSTODY_FAILURE:" ++ manifest ++ ":" ++
      String.ofList (printInt position)) = true := by
  obtain ⟨n, rfl⟩ := Int.eq_ofNat_of_zero_le hposition.le
  simp only [isHash, Bool.and_eq_true, decide_eq_true_eq] at hhash
  have htext : ("RQ6_CUSTODY_FAILURE:" ++ manifest ++ ":" ++
      String.ofList (printInt n)).toList =
      "RQ6_CUSTODY_FAILURE:".toList ++ (manifest.toList ++ ':' :: Nat.toDigits 10 n) := by
    simp [String.toList_append, printInt]
  have hzero : Nat.toDigits 10 n ≠ ['0'] := by
    intro h
    have hvalue := natOfDigits_toDigits n
    rw [h] at hvalue
    have hn : 0 = n := hvalue
    omega
  unfold isFailureId failurePosition?
  rw [htext]
  have hstart : ("RQ6_CUSTODY_FAILURE:".toList).isPrefixOf ("RQ6_CUSTODY_FAILURE:".toList ++
      (manifest.toList ++ ':' :: Nat.toDigits 10 n)) = true :=
    List.isPrefixOf_iff_prefix.mpr (List.prefix_append ..)
  have hdrop : (manifest.toList ++ ':' :: Nat.toDigits 10 n).drop 64 =
      ':' :: Nat.toDigits 10 n := List.drop_left' hhash.1
  have htake : (manifest.toList ++ ':' :: Nat.toDigits 10 n).take 64 = manifest.toList :=
    List.take_left' hhash.1
  simp only [hstart, if_true, List.drop_left, hdrop, htake]
  rw [if_pos ⟨hhash.1, hhash.2, isWholePart_toDigits n, hzero⟩]
  rfl

lemma inv_step (hf : f.Inv verify) (h : FlowStep verify f call g) : g.Inv verify := by
  have hext := extends_step hf.shaped h
  refine ⟨shaped_step hf.shaped h, linked_step hf.shaped hf.linked h, fun hmapped => ?_⟩
  rw [hext.requiredUnitIds]
  exact hf.units (hext.preMappingFailure ▸ hmapped)

/-- From `f` a call takes its step, or raises and leaves `f`; only one that verifies again what
it fixed can raise with its step taken. -/
abbrev Settles (verify : ArtifactSnapshot → V → Verdict × V) (f : BundleWorkflow)
    (call : FlowCall) (p : Op V Unit) : Prop :=
  Triple (fun s => s.flow = f) p (fun _ s => FlowStep verify f call s.flow)
    fun _ s => s.flow = f ∨ call.isLate = true ∧ FlowStep verify f call s.flow

lemma settles_op (hf : f.Shaped) (call : FlowCall) : Settles verify f call (call.op verify) := by
  have hbody : Takes verify f call (call.body verify) := takes_body hf call
  by_cases hlate : call.isLate = true
  · rw [op_of_late hlate]
    have hfirst : Settles verify f call (call.body verify) :=
      hbody.conseq (fun _ hs => hs) (fun _ _ hs => hs) fun _ _ hs => .inl hs
    refine Triple.bind hfirst fun _ s hs => ?_
    have hguard : Guard s.flow (verifyFrozen verify) fun _ => True := guard_verifyFrozen
    have hverify := hguard s rfl
    rcases hrun : (verifyFrozen verify).run s with ⟨e | _, t⟩ <;> rw [hrun] at hverify
    · exact .inr ⟨hlate, hverify ▸ hs⟩
    · change FlowStep verify f call t.flow
      rw [hverify.1]
      exact hs
  · rw [Bool.not_eq_true] at hlate
    rw [op_of_not_late hlate]
    exact hbody.conseq (fun _ hs => hs) (fun _ _ hs => hs) fun _ _ hs => .inl hs

section

variable {s : Session V} {a : FlowInput V}

/-- A step of the machine leaves the workflow alone or is a call that takes its step. -/
lemma flow_next (hs : s.flow.Shaped) (a : FlowInput V) :
    ((workflows verify).next s a).flow = s.flow ∨
      ∃ call, a = .call call ∧
        FlowStep verify s.flow call ((workflows verify).next s a).flow := by
  cases a with
  | verifier change => exact .inl rfl
  | call call =>
      have hsettles : Settles verify s.flow call (call.op verify) := settles_op hs call
      have hrun := hsettles s rfl
      change ((call.op verify).run s).2.flow = s.flow ∨ ∃ c, FlowInput.call call = .call c ∧
        FlowStep verify s.flow c ((call.op verify).run s).2.flow
      rcases hcall : (call.op verify).run s with ⟨e | _, t⟩ <;> rw [hcall] at hrun
      · rcases hrun with hsame | ⟨-, hstep⟩
        · exact .inl hsame
        · exact .inr ⟨call, rfl, hstep⟩
      · exact .inr ⟨call, rfl, hrun⟩

/-- A call that returns takes its step. -/
lemma step_of_returned {call : FlowCall} {u : Unit} (hs : s.flow.Shaped)
    (h : (workflows verify).out s (.call call) = .ok u) :
    FlowStep verify s.flow call ((workflows verify).next s (.call call)).flow := by
  have hsettles : Settles verify s.flow call (call.op verify) := settles_op hs call
  have hrun := hsettles s rfl
  change ((call.op verify).run s).1 = .ok u at h
  change FlowStep verify s.flow call ((call.op verify).run s).2.flow
  rcases hcall : (call.op verify).run s with ⟨e | _, t⟩ <;> rw [hcall] at hrun h
  · cases h
  · exact hrun

lemma preserved_inv : (workflows verify).Preserved fun s => s.flow.Inv verify := by
  intro s a hs
  rcases flow_next hs.shaped a with hsame | ⟨call, -, hstep⟩
  · rw [hsame]
    exact hs
  · exact inv_step hs hstep

end

/-! ## Blinding and finality -/

namespace BundleWorkflow

/-- Something is fixed that may only be fixed after the units. -/
def AfterUnits (f : BundleWorkflow) : Prop :=
  f.unblind.isSome ∨ f.mechanical.isSome ∨ f.assessment.isSome ∨ f.characterization.isSome ∨
    f.state = .bundleClosed

/-- Unit `i` went through card, release, receipt and closure; each names the ones before it, and
all of them the fixed mapping commitment. -/
def UnitClosed (verify : ArtifactSnapshot → V → Verdict × V) (f : BundleWorkflow) (i : ℕ) :
    Prop :=
  ∃ unit mapping card release human closure, f.requiredUnitIds[i]? = some unit ∧
    mappingCommitment f = .ok mapping ∧ f.cards[i]? = some card ∧ f.releases[i]? = some release ∧
    f.humanReceipts[i]? = some human ∧ f.unitClosures[i]? = some closure ∧
    Released verify f.binding unit mapping card release ∧
    Adjudicated verify f.binding unit mapping card release human ∧
    ClosedUnit verify f.binding unit mapping card release human closure

/-- All three units went through their operations, and no other. -/
structure UnitsClosed (verify : ArtifactSnapshot → V → Verdict × V) (f : BundleWorkflow) :
    Prop where
  cards : f.cards.length = 3
  humanReceipts : f.humanReceipts.length = 3
  unitClosures : f.unitClosures.length = 3
  closed : ∀ i < 3, f.UnitClosed verify i

/-- The state of a bundle that no operation changes any more. -/
def Final (f : BundleWorkflow) : Prop := f.state.isTerminal = true ∨ f.state = .deferred

end BundleWorkflow

/-- The stage a workflow is at. -/
lemma BundleWorkflow.Shaped.exists_staged (hf : f.Shaped) : ∃ p, f.Staged p := by
  by_cases h : f.state = .bundleClosedInsufficient
  · obtain ⟨p, -, -, hat⟩ := hf.insufficient h
    exact ⟨p, hat⟩
  · exact ⟨f.state, hf.staged h⟩

lemma unblind_of_afterUnits (hf : f.Shaped) (h : f.AfterUnits) : f.unblind.isSome := by
  rcases h with h | h | h | h | h
  · exact h
  · obtain ⟨p, hat⟩ := hf.exists_staged
    rw [hat.mechanical, decide_eq_true_eq] at h
    rw [hat.unblind, decide_eq_true_eq]
    omega
  · obtain ⟨p, hat⟩ := hf.exists_staged
    rw [hat.assessment, decide_eq_true_eq] at h
    rw [hat.unblind, decide_eq_true_eq]
    omega
  · obtain ⟨p, hat⟩ := hf.exists_staged
    rw [hat.characterization, decide_eq_true_eq] at h
    rw [hat.unblind, decide_eq_true_eq]
    omega
  · rw [(hf.at_state h nofun).unblind]
    rfl

lemma unitClosed_of_lt {i : ℕ} (hf : f.Inv verify) (hcards : f.cards.length = 3)
    (hhuman : f.humanReceipts.length = 3) (hclosures : f.unitClosures.length = 3) (hi : i < 3) :
    f.UnitClosed verify i := by
  have hget {xs : List ArtifactSnapshot} (h : xs.length = 3) : ∃ x, xs[i]? = some x :=
    ⟨_, List.getElem?_eq_getElem (h ▸ hi)⟩
  obtain ⟨card, hcard⟩ := hget hcards
  obtain ⟨release, hrelease⟩ := hget (hf.shaped.releases.trans hcards)
  obtain ⟨human, hhuman⟩ := hget hhuman
  obtain ⟨closure, hclosure⟩ := hget hclosures
  obtain ⟨unit, mapping, hunit, hmapping, hreleased⟩ :=
    hf.linked.released i card release hcard hrelease
  obtain ⟨unit', mapping', hunit', hmapping', hadjudicated⟩ :=
    hf.linked.adjudicated i card release human hcard hrelease hhuman
  obtain ⟨unit'', mapping'', hunit'', hmapping'', hclosed⟩ :=
    hf.linked.closedUnits i card release human closure hcard hrelease hhuman hclosure
  obtain rfl := Option.some.inj (hunit.symm.trans hunit')
  obtain rfl := Option.some.inj (hunit.symm.trans hunit'')
  obtain rfl := Except.ok.inj (hmapping.symm.trans hmapping')
  obtain rfl := Except.ok.inj (hmapping.symm.trans hmapping'')
  exact ⟨unit, mapping, card, release, human, closure, hunit, hmapping, hcard, hrelease, hhuman,
    hclosure, hreleased, hadjudicated, hclosed⟩

lemma unitsClosed_of_counts (hf : f.Inv verify) (hmapped : f.preMappingFailure = false)
    (hcards : f.cards.length = f.unitClosures.length)
    (hhuman : f.humanReceipts.length = f.unitClosures.length)
    (hclosures : f.unitClosures.length = f.requiredUnitIds.length) : f.UnitsClosed verify := by
  obtain ⟨hunits, -⟩ := hf.units hmapped
  have hclosures : f.unitClosures.length = 3 := hclosures.trans hunits
  have hcards := hcards.trans hclosures
  have hhuman := hhuman.trans hclosures
  exact ⟨hcards, hhuman, hclosures, fun i hi => unitClosed_of_lt hf hcards hhuman hclosures hi⟩

lemma unitsClosed_of_unblind (hf : f.Inv verify) (h : f.unblind.isSome) :
    f.UnitsClosed verify := by
  obtain ⟨p, hat⟩ := hf.shaped.exists_staged
  have hrank : 5 ≤ p.rank := by
    rw [hat.unblind] at h
    exact of_decide_eq_true h
  have hmapped : f.preMappingFailure = false := by
    by_contra hfailure
    rw [Bool.not_eq_false] at hfailure
    rcases hf.shaped.unmapped hfailure with hstate | ⟨-, hnone⟩
    · rw [(hf.shaped.at_state hstate nofun).unblind] at h
      cases h
    · have hcommitment := hat.commitment
      rw [hnone] at hcommitment
      exact of_decide_eq_false hcommitment.symm (by omega)
  have hcounted : f.cards.length = f.unitClosures.length ∧
      f.humanReceipts.length = f.unitClosures.length ∧
      f.unitClosures.length = f.requiredUnitIds.length := by
    have hcounted := hat.counted
    cases p with
    | frozen | aliasCommitmentFixed | unitReleased | humanReceiptFixed | unitClosureVerified =>
        simp [BundleState.rank] at hrank
    | _ => exact hcounted
  exact unitsClosed_of_counts hf hmapped hcounted.1 hcounted.2.1 hcounted.2.2

/-- What may only be fixed after the units is fixed after the units. -/
lemma unitsClosed_of_step (hf : f.Inv verify) (h : FlowStep verify f call g)
    (hafter : g.AfterUnits) : f.UnitsClosed verify := by
  have hunblind := unblind_of_afterUnits (shaped_step hf.shaped h) hafter
  cases h with
  | revealed h =>
      have hstaged := hf.shaped.at_state h.state nofun
      have hmapped := hf.shaped.mapped (by rw [h.state]; nofun) (by rw [h.state]; nofun)
      exact unitsClosed_of_counts hf hmapped hstaged.counted.1 hstaged.counted.2 h.complete
  | _ => exact unitsClosed_of_unblind hf hunblind

lemma receipts_of_step (hf : f.Shaped) (h : FlowStep verify f call g) (hunblind : f.unblind.isSome) :
    g.humanReceipts = f.humanReceipts ∧ g.unitClosures = f.unitClosures := by
  cases h with
  | adjudicated h =>
      rw [(hf.at_state h.state nofun).unblind] at hunblind
      cases hunblind
  | closedUnit h =>
      rw [(hf.at_state h.state nofun).unblind] at hunblind
      cases hunblind
  | _ => exact ⟨rfl, rfl⟩

/-- In a final state only `verify_frozen` returns. -/
lemma verifyFrozen_of_final (hfinal : f.Final) (h : FlowStep verify f call g) :
    call = .verifyFrozen ∧ g = f := by
  have hno {p : BundleState} (hstate : f.state = p) (hopen : p.isTerminal = false)
      (hdeferred : p ≠ .deferred) : False := by
    subst hstate
    rcases hfinal with hterminal | hstate
    · rw [hopen] at hterminal
      cases hterminal
    · exact hdeferred hstate
  cases h with
  | aliased h => exact (hno h.state rfl nofun).elim
  | released h =>
      rcases h.state with hstate | hstate <;> exact (hno hstate rfl nofun).elim
  | adjudicated h => exact (hno h.state rfl nofun).elim
  | closedUnit h => exact (hno h.state rfl nofun).elim
  | revealed h => exact (hno h.state rfl nofun).elim
  | compared h => exact (hno h.state rfl nofun).elim
  | assessed h => exact (hno h.state rfl nofun).elim
  | characterized h => exact (hno h.state rfl nofun).elim
  | completed h => exact (hno h.state rfl nofun).elim
  | insufficient h => exact (hno rfl h.state.1 h.state.2).elim
  | verified => exact ⟨rfl, rfl⟩

lemma lists_of_step {closure : ArtifactSnapshot}
    (h : FlowStep verify f (.closeInsufficient closure) g) :
    ∃ payload, closure.data = .ok payload ∧ Lists f payload ∧ Accounts f payload := by
  cases h with
  | insufficient h hlists => exact ⟨_, h.valid.data, hlists, h.accounts⟩

/-- What a step of a run from a workflow `start` guarantees. -/
structure Blind (verify : ArtifactSnapshot → V → Verdict × V) (start : BundleWorkflow)
    (e : Stage (Session V) (FlowInput V) (Except Raised Unit)) : Prop where
  /-- The reveal and what follows it is fixed after all the units went through, in order. -/
  units : e.after.flow.AfterUnits → e.before.flow.UnitsClosed verify
  /-- What is fixed stays fixed. -/
  kept : Extends e.before.flow e.after.flow
  /-- After the reveal no receipt or unit closure is added. -/
  revealed : e.before.flow.unblind.isSome →
    e.after.flow.humanReceipts = e.before.flow.humanReceipts ∧
    e.after.flow.unitClosures = e.before.flow.unitClosures
  /-- In a final state every operation raises, and nothing changes. -/
  final : e.before.flow.Final → e.after.flow = e.before.flow ∧
    ∀ call, e.input = .call call → call ≠ .verifyFrozen → ∃ error, e.output = .error error
  /-- A bundle without a mapping is open or closed as insufficient. -/
  unmapped : start.preMappingFailure = true →
    e.after.flow.state = .frozen ∨ e.after.flow.state = .bundleClosedInsufficient
  /-- An insufficient closure lists what was fixed so far. -/
  insufficient : ∀ closure, e.input = .call (.closeInsufficient closure) → e.output = .ok () →
    ∃ payload, closure.data = .ok payload ∧ Lists e.before.flow payload ∧
      Accounts e.before.flow payload
  /-- So does any insufficient closure the workflow has. -/
  closed : e.after.flow.state = .bundleClosedInsufficient →
    ∃ closure payload, e.after.flow.closure = some closure ∧ closure.data = .ok payload ∧
      Lists e.after.flow payload ∧ Accounts e.after.flow payload

lemma blind_stage {start : BundleWorkflow} {s : Session V} (hs : s.flow.Inv verify)
    (hstart : s.flow.preMappingFailure = start.preMappingFailure) (a : FlowInput V) :
    Blind verify start ((workflows verify).stage s a) := by
  have hnext : ((workflows verify).next s a).flow.Inv verify := preserved_inv s a hs
  have hflow : ((workflows verify).next s a).flow = s.flow ∨
      ∃ call, a = .call call ∧ FlowStep verify s.flow call ((workflows verify).next s a).flow :=
    flow_next hs.shaped a
  have hext : Extends s.flow ((workflows verify).next s a).flow := by
    rcases hflow with hsame | ⟨call, -, hstep⟩
    · rw [hsame]
      exact Extends.refl _
    · exact extends_step hs.shaped hstep
  refine ⟨fun h => ?_, hext, fun h => ?_, fun hfinal => ⟨?_, fun call ha hne => ?_⟩, fun h => ?_,
    fun closure ha hout => ?_, fun h => ?_⟩
  · rcases hflow with hsame | ⟨call, -, hstep⟩
    · change ((workflows verify).next s a).flow.AfterUnits at h
      rw [hsame] at h
      exact unitsClosed_of_unblind hs (unblind_of_afterUnits hs.shaped h)
    · exact unitsClosed_of_step hs hstep h
  · rcases hflow with hsame | ⟨call, -, hstep⟩
    · exact ⟨congrArg _ hsame, congrArg _ hsame⟩
    · exact receipts_of_step hs.shaped hstep h
  · rcases hflow with hsame | ⟨call, -, hstep⟩
    · exact hsame
    · exact (verifyFrozen_of_final hfinal hstep).2
  · obtain rfl : a = .call call := ha
    cases hout : (workflows verify).out s (.call call) with
    | error error => exact ⟨error, hout⟩
    | ok u => exact absurd (verifyFrozen_of_final hfinal (step_of_returned hs.shaped hout)).1 hne
  · have hfailure : ((workflows verify).next s a).flow.preMappingFailure = true := by
      rw [hext.preMappingFailure, hstart, h]
    rcases hnext.shaped.unmapped hfailure with hstate | ⟨hstate, -⟩
    · exact .inl hstate
    · exact .inr hstate
  · obtain rfl : a = .call (.closeInsufficient closure) := ha
    exact lists_of_step (step_of_returned hs.shaped hout)
  · have hsome : ((workflows verify).next s a).flow.closure.isSome := by
      have hstate : ((workflows verify).next s a).flow.state = .bundleClosedInsufficient := h
      rw [hnext.shaped.closure, hstate]
      rfl
    obtain ⟨closure, hclosure⟩ := Option.isSome_iff_exists.mp hsome
    obtain ⟨payload, hvalid, hlists, -, haccounts⟩ := hnext.linked.closure closure hclosure
    exact ⟨closure, payload, hclosure, hvalid.data, hlists, haccounts h⟩

/-! ## All or nothing -/

/-- The call fixes its artifacts, and then the verifier does not accept all of them again. -/
def LateRaise (verify : ArtifactSnapshot → V → Verdict × V) (call : FlowCall) (s : Session V) :
    Prop :=
  call.isLate = true ∧ ∃ t, (call.body verify).run s = (.ok (), t) ∧
    ∃ error, ((verifyFrozen verify).run t).1 = .error error

lemma ne_of_late (h : FlowStep verify f call g) (hlate : call.isLate = true) : g ≠ f := by
  intro hsame
  have hstate := congrArg BundleWorkflow.state hsame
  cases h with
  | revealed h =>
      rw [h.state] at hstate
      cases hstate
  | completed h =>
      rw [h.state] at hstate
      cases hstate
  | insufficient h =>
      have hopen := h.state.1
      rw [← hstate] at hopen
      cases hopen
  | _ => cases hlate

/-- A call that raised changed the workflow exactly if it raised late. -/
lemma unchanged_iff {s : Session V} (hs : s.flow.Shaped) (call : FlowCall) :
    (∀ error, ((call.op verify).run s).1 = .error error →
      ((call.op verify).run s).2.flow = s.flow) ↔ ¬LateRaise verify call s := by
  have htakes : Takes verify s.flow call (call.body verify) := takes_body hs call
  have hbody := htakes s rfl
  by_cases hlate : call.isLate = true
  · rw [op_of_late hlate, run_bind]
    rcases hrun : (call.body verify).run s with ⟨e | _, t⟩ <;> rw [hrun] at hbody
    · refine iff_of_true (fun _ _ => hbody) fun hraise => ?_
      obtain ⟨-, u, hu, -⟩ := hraise
      rw [hrun] at hu
      cases hu
    · have hguard : Guard t.flow (verifyFrozen verify) fun _ => True := guard_verifyFrozen
      have hverify := hguard t rfl
      change (∀ error, ((verifyFrozen verify).run t).1 = .error error →
        ((verifyFrozen verify).run t).2.flow = s.flow) ↔ _
      rcases hlast : (verifyFrozen verify).run t with ⟨e | _, u⟩ <;> rw [hlast] at hverify
      · refine iff_of_false (fun h => ?_) fun h => h ⟨hlate, t, hrun, e, by rw [hlast]⟩
        refine ne_of_late hbody hlate ?_
        rw [← hverify]
        exact h e rfl
      · refine iff_of_true (fun _ h => by cases h) fun hraise => ?_
        obtain ⟨-, t', ht', error, herror⟩ := hraise
        rw [hrun] at ht'
        cases ht'
        rw [hlast] at herror
        cases herror
  · refine iff_of_true (fun error herror => ?_) fun hraise => hlate hraise.1
    rw [Bool.not_eq_true] at hlate
    rw [op_of_not_late hlate] at herror ⊢
    rcases hrun : (call.body verify).run s with ⟨e | _, t⟩ <;> rw [hrun] at hbody herror
    · exact hbody
    · cases herror

/-! ## A run

A bundle that failed before its mapping is closed as insufficient, under a verifier that accepts
the closure.  Whether the call returns is then up to what it says of the closure again. -/

def sampleHash : String := String.ofList (List.replicate 64 'a')

/-- The review of a bundle that failed at this position of the manifest. -/
def failureId (position : ℤ) : String :=
  "RQ6_CUSTODY_FAILURE:" ++ sampleHash ++ ":" ++ String.ofList (printInt position)

/-- The closure of a bundle that failed at this position. -/
def limitedClosure (position : ℤ) : Object :=
  [("alias_commitment_sha256", .null),
   ("amendment_id", .str amendmentId),
   ("applicable_primary_case_id", .str "CASE"),
   ("authorized_identity_audience", .strs ["reviewer"]),
   ("available_evidence", .list []),
   ("bundle_review_id", .str (failureId position)),
   ("confidence_descriptive_values_and_range", .null),
   ("evidence_limitation_reasons", .strs ["lost"]),
   ("expected_evidence", .strs ["bundle"]),
   ("frozen_manifest_position", .int position),
   ("frozen_rationale_variation_record", .null),
   ("human_receipt_hashes", .list []),
   ("missing_evidence", .strs ["bundle"]),
   ("normalized_flag_sets", .list []),
   ("package_id", .str "PACKAGE"),
   ("per_model_primary_repeat_comparison", .null),
   ("primary_anchor_hashes", .list []),
   ("protocol_id", .str protocolId),
   ("provenance_hashes", .list []),
   ("rationale_variation_assessment_receipt_sha256", .null),
   ("relevant_hashes_or_validation_failures", .strs ["none"]),
   ("revealed_source_mapping", .null),
   ("review_status", .str "CLOSED"),
   ("reviewer_access_policy_sha256", .str sampleHash),
   ("reviewer_artifact_hashes", .list []),
   ("reviewer_unit_ids", .list []),
   ("schema_version", .str "judge-repeat-bundle-closure-amendment-001-v1"),
   ("source_artifact_hashes", .list []),
   ("stability_disposition", .str "INSUFFICIENT_REPEAT_EVIDENCE"),
   ("stability_not_established_reason", .str "lost"),
   ("state", .str "RQ6_BUNDLE_CLOSED_INSUFFICIENT_REPEAT_EVIDENCE"),
   ("stored_classifications", .list []),
   ("stored_confidences", .list []),
   ("stored_structured_flag_lists", .list []),
   ("timestamps", .dict [("closed", .str "2026-01-01T00:00:00Z")]),
   ("unblind_receipt_sha256", .null),
   ("unit_closure_hashes", .list []),
   ("unusable_evidence", .list []),
   ("validation_results", .dict [("RQ6-V12", .str "PASS")])]


/-- It accepts once. -/
def acceptOnce (_ : ArtifactSnapshot) (n : ℕ) : Verdict × ℕ :=
  (if n = 0 then .accepted else .raised, n + 1)

/-- A bundle that failed at this position. -/
def failedFlow (position : ℤ) : BundleWorkflow where
  binding := ⟨protocolId, amendmentId, "PACKAGE", failureId position⟩
  preMappingFailure := true
  requiredUnitIds := []
  primaryAnchorReceiptSha256 := sampleHash

abbrev sampleFlow : BundleWorkflow := failedFlow 1

def sampleClosure : ArtifactSnapshot := .build "bundle_closure" (limitedClosure 1)

lemma built_failedFlow {position : ℤ} (hpositive : 0 < position)
    (hfailure : isFailureId (failureId position) = true) : Built (failedFlow position) := by
  have hhash : isHash sampleHash = true := by decide +kernel
  have hcreate : BundleWorkflow.create (failedFlow position).binding [] sampleHash =
      .ok (failedFlow position) := by
    unfold BundleWorkflow.create failedFlow
    simp only [hfailure, if_true]
    rfl
  have h : BundleWorkflow.preMappingFailed protocolId amendmentId "PACKAGE" sampleHash position
      sampleHash = .ok (failedFlow position) := by
    rw [← hcreate]
    unfold BundleWorkflow.preMappingFailed
    simp only [hhash, hpositive, decide_true]
    rfl
  exact .preMappingFailed h

lemma built_sampleFlow : Built sampleFlow := built_failedFlow (by decide) (by decide +kernel)

/-- The schema takes the closure at each of the first positions. -/
lemma schema_limited (position : ℕ) (h : position < 6) :
    checkSchema "bundle_closure" (limitedClosure (position + 1)) = .ok () := by
  have hall : ∀ w : Fin 6, checkSchema "bundle_closure" (limitedClosure (w.val + 1)) = .ok () := by
    decide +kernel
  exact hall ⟨position, h⟩

section

variable {a : ArtifactSnapshot} {position : ℤ} {v v' : V} (hkind : a.kind = "bundle_closure")
  (hdata : a.data = .ok (limitedClosure position))
  (hschema : checkSchema "bundle_closure" (limitedClosure position) = .ok ())
  (hverify : verify a v = (.accepted, v'))

omit hkind hdata hschema hverify in
lemma check_limited :
    (failedFlow position).binding.check (limitedClosure position) = .ok () := by
  simp only [BundleBinding.check, BundleBinding.fields, failedFlow, Except.forM_eq_ok,
    require_eq_ok, List.forall_mem_cons]
  exact ⟨Value.eq_str.mpr rfl, Value.eq_str.mpr rfl, Value.eq_str.mpr rfl, Value.eq_str.mpr rfl,
    by simp⟩

include hkind hdata hschema hverify

lemma run_validate_limited :
    (validate verify a "bundle_closure").run ⟨failedFlow position, v⟩ =
      (.ok (limitedClosure position), ⟨failedFlow position, v'⟩) := by
  have hbound : (if "bundle_closure" = "empty_human_form" then pure () else
      (failedFlow position).binding.check (limitedClosure position)) = .ok () := check_limited
  rw [validate, run_self_bind, require_bind (decide_eq_true hkind), ofExcept_bind hdata,
    ofExcept_bind hschema, ofExcept_bind hbound, run_checkVerified_bind hverify]
  rfl

lemma run_insufficientChecks_limited :
    (insufficientChecks verify a).run ⟨failedFlow position, v⟩ =
      (.ok (limitedClosure position), ⟨failedFlow position, v'⟩) := by
  have hopen : (!(failedFlow position).state.isTerminal &&
      (failedFlow position).state ≠ .deferred) = true := rfl
  have hfixed : (⟨failedFlow position, v⟩ : Session V).flow.fixed = [] := rfl
  have hstate : Object.item (limitedClosure position) "state" =
      .ok (.str "RQ6_BUNDLE_CLOSED_INSUFFICIENT_REPEAT_EVIDENCE") := rfl
  have hdisposition : Object.item (limitedClosure position) "stability_disposition" =
      .ok (.str "INSUFFICIENT_REPEAT_EVIDENCE") := rfl
  have hmissing : Object.item (limitedClosure position) "missing_evidence" =
      .ok (.strs ["bundle"]) := rfl
  have hunusable : Object.item (limitedClosure position) "unusable_evidence" =
      .ok (.list []) := rfl
  have hlimitations : Object.item (limitedClosure position) "evidence_limitation_reasons" =
      .ok (.strs ["lost"]) := rfl
  have hreason : Object.item (limitedClosure position) "stability_not_established_reason" =
      .ok (.str "lost") := rfl
  have hunblind : checkUnblindHistory (failedFlow position) (limitedClosure position) =
      .ok () := rfl
  have hmechanical : checkMechanicalHistory (failedFlow position) (limitedClosure position) =
      .ok () := rfl
  have hassessment : checkAssessmentHistory (failedFlow position) (limitedClosure position) =
      .ok () := rfl
  rw [insufficientChecks, run_self_bind, require_bind hopen, run_verifyFrozen_bind hfixed,
    run_bind_of_ok (run_validate_limited hkind hdata hschema hverify), ofExcept_bind hstate,
    require_bind (by decide), ofExcept_bind hdisposition, require_bind (by decide),
    ofExcept_bind hmissing, ofExcept_bind hunusable, require_bind (by decide),
    ofExcept_bind hlimitations, ofExcept_bind hreason, require_bind (by decide),
    ofExcept_bind hunblind, ofExcept_bind hmechanical, ofExcept_bind hassessment]
  rfl

/-- The closure is fixed. -/
lemma run_fixInsufficient_limited :
    (fixInsufficient verify a).run ⟨failedFlow position, v⟩ =
      (.ok (), ⟨(failedFlow position).closed a .bundleClosedInsufficient, v'⟩) := by
  have hcommon : (commonChecks (limitedClosure position) false : Op V Unit).run
      ⟨failedFlow position, v'⟩ = (.ok (), ⟨failedFlow position, v'⟩) := rfl
  have hstate : Object.item (limitedClosure position) "state" =
      .ok (.str "RQ6_BUNDLE_CLOSED_INSUFFICIENT_REPEAT_EVIDENCE") := rfl
  have hremember : (remember .bundleClosure a : Op V Unit).run ⟨failedFlow position, v'⟩ =
      (.ok (), ⟨(failedFlow position).remembered .bundleClosure a, v'⟩) := rfl
  rw [fixInsufficient, run_bind_of_ok (run_insufficientChecks_limited hkind hdata hschema hverify),
    fixClosure, run_bind_of_ok hcommon, run_bind_of_ok hremember, ofExcept_bind hstate]
  rfl

omit hkind hschema in
/-- The verifier accepts the closure again. -/
lemma run_verifyFrozen_accepted :
    (verifyFrozen verify).run ⟨(failedFlow position).closed a .bundleClosedInsufficient, v⟩ =
      (.ok (), ⟨(failedFlow position).closed a .bundleClosedInsufficient, v'⟩) := by
  have hentry : (verifyEntry verify (.bundleClosure, a, a.sha256)).run
      ⟨(failedFlow position).closed a .bundleClosedInsufficient, v⟩ =
      (.ok (), ⟨(failedFlow position).closed a .bundleClosedInsufficient, v'⟩) := by
    rw [verifyEntry, require_bind (decide_eq_true rfl), ofExcept_bind hdata, run, checkVerified,
      hverify]
  rw [verifyFrozen, run_self_bind]
  change (verifyEntries verify [(.bundleClosure, a, a.sha256)]).run _ = _
  rw [verifyEntries, run_bind_of_ok hentry]
  rfl

/-- A verifier that accepts the closure twice lets the bundle close. -/
lemma run_closeInsufficient_accepted {v'' : V} (hagain : verify a v' = (.accepted, v'')) :
    ((FlowCall.closeInsufficient a).op verify).run ⟨failedFlow position, v⟩ =
      (.ok (), ⟨(failedFlow position).closed a .bundleClosedInsufficient, v''⟩) := by
  rw [op_of_late rfl]
  exact (run_bind_of_ok (run_fixInsufficient_limited hkind hdata hschema hverify)).trans
    (run_verifyFrozen_accepted hdata hagain)

end

section

variable {a : ArtifactSnapshot} (hkind : a.kind = "bundle_closure")
  (hdata : a.data = .ok (limitedClosure 1))

include hkind hdata

omit hkind in
/-- The verifier does not accept the closure again. -/
lemma run_verifyFrozen_limited :
    (verifyFrozen acceptOnce).run ⟨sampleFlow.closed a .bundleClosedInsufficient, 1⟩ =
      (.error .verifier, ⟨sampleFlow.closed a .bundleClosedInsufficient, 2⟩) := by
  have hentry : (verifyEntry acceptOnce (.bundleClosure, a, a.sha256)).run
      ⟨sampleFlow.closed a .bundleClosedInsufficient, 1⟩ =
      (.error .verifier, ⟨sampleFlow.closed a .bundleClosedInsufficient, 2⟩) := by
    rw [verifyEntry, require_bind (decide_eq_true rfl), ofExcept_bind hdata]
    rfl
  rw [verifyFrozen, run_self_bind]
  change (verifyEntries acceptOnce [(.bundleClosure, a, a.sha256)]).run _ = _
  rw [verifyEntries, run_bind_of_error hentry]

lemma run_closeInsufficient_limited :
    ((FlowCall.closeInsufficient a).op acceptOnce).run ⟨sampleFlow, 0⟩ =
      (.error .verifier, ⟨sampleFlow.closed a .bundleClosedInsufficient, 2⟩) := by
  rw [op_of_late rfl]
  exact (run_bind_of_ok (run_fixInsufficient_limited hkind hdata (schema_limited 0 (by decide))
    rfl)).trans (run_verifyFrozen_limited hdata)

lemma lateRaise_limited : LateRaise acceptOnce (.closeInsufficient a) ⟨sampleFlow, 0⟩ :=
  ⟨rfl, _, run_fixInsufficient_limited hkind hdata (schema_limited 0 (by decide)) rfl, .verifier,
    congrArg Prod.fst (run_verifyFrozen_limited hdata)⟩

omit hkind hdata in
/-- The step of the call. -/
def lateStage (a : ArtifactSnapshot) : Stage (Session ℕ) (FlowInput ℕ) (Except Raised Unit) where
  before := ⟨sampleFlow, 0⟩
  input := .call (.closeInsufficient a)
  output := .error .verifier
  after := ⟨sampleFlow.closed a .bundleClosedInsufficient, 2⟩

lemma lateStage_mem :
    lateStage a ∈ (workflows acceptOnce).trace ⟨sampleFlow, 0⟩ [.call (.closeInsufficient a)] := by
  have hrun := run_closeInsufficient_limited hkind hdata
  have hstage : (workflows acceptOnce).stage ⟨sampleFlow, 0⟩ (.call (.closeInsufficient a)) =
      lateStage a := by
    change (⟨_, _, (((FlowCall.closeInsufficient a).op acceptOnce).run _).1,
      (((FlowCall.closeInsufficient a).op acceptOnce).run _).2⟩ :
        Stage (Session ℕ) (FlowInput ℕ) (Except Raised Unit)) = _
    rw [hrun]
    rfl
  rw [Machine.trace_cons, hstage]
  exact List.mem_cons_self ..

end

lemma data_sampleClosure : sampleClosure.data = .ok (limitedClosure 1) :=
  data_build (by rfl) (by decide +kernel)

lemma built_sample : Built Dossier.sample.start := by
  have hcreate : BundleWorkflow.create Dossier.sample.binding
      ((List.range 3).map Dossier.sample.unitId) Dossier.sample.policy =
        .ok Dossier.sample.start := by
    decide +kernel
  exact .created hcreate

/-! ## Results -/

/-- Along every run of a workflow, with any verifier and any state of it, the blinding holds and
final states are final; a workflow of `pre_mapping_failure` has no mapping. -/
theorem workflow_blind_and_final (hbuilt : Built f) (v : V) (inputs : List (FlowInput V)) :
    (∀ e ∈ (workflows verify).trace ⟨f, v⟩ inputs, Blind verify f e) ∧
      ∀ protocolId amendmentId packageId manifest position anchor,
        BundleWorkflow.preMappingFailed protocolId amendmentId packageId manifest position anchor =
          .ok f → f.preMappingFailure = true := by
  refine ⟨fun e he => ?_, fun protocolId amendmentId packageId manifest position anchor h => ?_⟩
  · obtain ⟨pre, -, -, hstage⟩ := (workflows verify).exists_of_mem_trace he
    have hkept : (workflows verify).Preserved fun s => s.flow.Inv verify ∧
        s.flow.preMappingFailure = f.preMappingFailure := by
      intro s a hs
      refine ⟨preserved_inv s a hs.1, ?_⟩
      exact (blind_stage hs.1 rfl a).kept.preMappingFailure.trans hs.2
    have hbefore := hkept.run (s := ⟨f, v⟩) ⟨inv_of_built hbuilt, rfl⟩ pre
    rw [hstage]
    exact blind_stage hbefore.1 hbefore.2 _
  · obtain ⟨hhash, hposition, hcreate⟩ := create_of_preMappingFailed h
    obtain ⟨rfl, -⟩ := create_eq_ok hcreate
    exact isFailureId_custody hhash hposition

/-- The closure of a failed bundle lists what was fixed: nothing.  And there is a run that reveals
its mapping: the three units were closed before. -/
theorem workflow_blind_and_final_sample :
    (∃ closure payload, (lateStage sampleClosure).after.flow.closure = some closure ∧
      closure.data = .ok payload ∧ Lists (lateStage sampleClosure).after.flow payload ∧
        Accounts (lateStage sampleClosure).after.flow payload) ∧
    ∃ e ∈ (workflows accepting).trace ⟨Dossier.sample.start, ()⟩
        (Dossier.sample.callsUpTo 3 ++ [.call Dossier.sample.revealCall]),
      e.output = .ok () ∧ e.after.flow.state = .bundleMappingRevealed ∧
        e.before.flow.UnitsClosed accepting := by
  constructor
  · have h := (workflow_blind_and_final built_sampleFlow 0
      [.call (.closeInsufficient sampleClosure)]).1 (lateStage sampleClosure)
      (lateStage_mem rfl data_sampleClosure)
    exact h.closed rfl
  · obtain ⟨e, he, hout, hstate, hunblind⟩ := Dossier.exists_revealed Dossier.admissible_sample
    have h := (workflow_blind_and_final built_sample () _).1 e he
    have hafter : e.after.flow.AfterUnits := .inl (by rw [hunblind]; rfl)
    exact ⟨e, he, hout, hstate, h.units hafter⟩

/-- In every run, a call that raises leaves the workflow as it was, unless the verifier does not
accept again what `reveal_mapping`, `close_bundle` or `close_insufficient` has just fixed. -/
theorem all_or_nothing (hbuilt : Built f) (v : V) (inputs : List (FlowInput V)) :
    ∀ e ∈ (workflows verify).trace ⟨f, v⟩ inputs, ∀ call, e.input = .call call →
      ((∀ error, e.output = .error error → e.after.flow = e.before.flow) ↔
        ¬LateRaise verify call e.before) := by
  intro e he call hcall
  have hbefore := preserved_inv.trace (s := ⟨f, v⟩) (inv_of_built hbuilt) he
  have hstep := (workflows verify).step_of_mem_trace he
  rw [hcall] at hstep
  have hafter : ((call.op verify).run e.before).2 = e.after := congrArg Prod.fst hstep
  have houtput : ((call.op verify).run e.before).1 = e.output := congrArg Prod.snd hstep
  rw [← hafter, ← houtput]
  exact unchanged_iff hbefore.shaped call

/-- `close_insufficient` raises with the bundle closed. -/
theorem closed_and_raised :
    Built sampleFlow ∧ ∃ e ∈ (workflows acceptOnce).trace ⟨sampleFlow, 0⟩
        [.call (.closeInsufficient sampleClosure)],
      e.output = .error .verifier ∧ e.before.flow.state = .frozen ∧
        e.after.flow.state = .bundleClosedInsufficient :=
  ⟨built_sampleFlow, lateStage sampleClosure, lateStage_mem rfl data_sampleClosure, rfl, rfl, rfl⟩

/-- The call that raised late did change the workflow. -/
theorem all_or_nothing_sample :
    ¬∀ error, (lateStage sampleClosure).output = .error error →
      (lateStage sampleClosure).after.flow = (lateStage sampleClosure).before.flow := by
  have h := all_or_nothing built_sampleFlow 0 [.call (.closeInsufficient sampleClosure)]
    (lateStage sampleClosure) (lateStage_mem rfl data_sampleClosure) _ rfl
  exact fun hsame => h.mp hsame (lateRaise_limited rfl data_sampleClosure)

end CivicGate.Rq6
