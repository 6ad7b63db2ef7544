import CivicGate.Rq6.WorkflowSteps

/-!
# What a call does to a workflow

`FlowStep verify f call g` is a call on the workflow `f` that passed its checks and left `g`.
A call that raised left the workflow alone, unless it is one of the three that verify again what
they have fixed after they assigned it (`FlowCall.isLate`): then it left the workflow a call that
returned would have left.  The keys a call fixes are free because `BundleWorkflow.Shaped` ties
the keys of `_fixed` to the other attributes.
-/

namespace CivicGate.Rq6

open Program

variable {V : Type} {verify : ArtifactSnapshot → V → Verdict × V} {f g : BundleWorkflow}
  {call : FlowCall}

/-! ## The workflow an operation leaves -/

namespace BundleWorkflow

/-- `fix_alias_commitment` -/
def aliased (f : BundleWorkflow) (commitment access authority : ArtifactSnapshot) :
    BundleWorkflow :=
  { ((f.remembered .aliasCommitment commitment).remembered .access access).remembered
      .aliasAuthority authority with
    aliasCommitment := some commitment, access := some access, state := .aliasCommitmentFixed }

/-- `release_unit` -/
def released (f : BundleWorkflow) (card form release authority : ArtifactSnapshot) :
    BundleWorkflow :=
  { (((f.remembered (.card f.cards.length) card).remembered (.form f.cards.length)
      form).remembered (.release f.cards.length) release).remembered
      (.releaseAuthority f.cards.length) authority with
    cards := f.cards ++ [card], releases := f.releases ++ [release], state := .unitReleased }

/-- `fix_human_receipt` -/
def adjudicated (f : BundleWorkflow) (receipt : ArtifactSnapshot) : BundleWorkflow :=
  { f.remembered (.human f.humanReceipts.length) receipt with
    humanReceipts := f.humanReceipts ++ [receipt], state := .humanReceiptFixed }

/-- `verify_unit_closure` -/
def closedUnit (f : BundleWorkflow) (closure : ArtifactSnapshot) : BundleWorkflow :=
  { f.remembered (.unitClosure f.unitClosures.length) closure with
    unitClosures := f.unitClosures ++ [closure], state := .unitClosureVerified }

/-- `reveal_mapping` -/
def revealed (f : BundleWorkflow) (receipt authority : ArtifactSnapshot) : BundleWorkflow :=
  { (f.remembered .unblind receipt).remembered .unblindAuthority authority with
    unblind := some receipt, state := .bundleMappingRevealed }

/-- `record_mechanical` -/
def compared (f : BundleWorkflow) (comparison authority : ArtifactSnapshot) : BundleWorkflow :=
  { (f.remembered .mechanical comparison).remembered .mechanicalAuthority authority with
    mechanical := some comparison, state := .mechanicalComparisonRecorded }

/-- `fix_rationale_assessment` -/
def assessed (f : BundleWorkflow) (artifact receipt : ArtifactSnapshot) : BundleWorkflow :=
  { (f.remembered .assessmentInput artifact).remembered .assessment receipt with
    assessmentHistory := f.assessmentHistory ++ [receipt], assessmentInput := some artifact,
    assessment := some receipt, state := .rationaleAssessmentFixed }

/-- `fix_characterization` -/
def characterized (f : BundleWorkflow) (characterization : ArtifactSnapshot) (toHuman : Bool) :
    BundleWorkflow :=
  { f.remembered .characterization characterization with
    characterization := some characterization,
    state := if toHuman then .deferred else .bundleCharacterizationFixed }

/-- `close_bundle` and `close_insufficient` -/
def closed (f : BundleWorkflow) (closure : ArtifactSnapshot) (terminal : BundleState) :
    BundleWorkflow :=
  { f.remembered .bundleClosure closure with closure := some closure, state := terminal }

end BundleWorkflow

/-- A call on `f` that returned, with the workflow it left. -/
inductive FlowStep (verify : ArtifactSnapshot → V → Verdict × V) (f : BundleWorkflow) :
    FlowCall → BundleWorkflow → Prop
  | aliased {commitment access authority : ArtifactSnapshot}
      (h : Aliasable verify f commitment access authority) :
      FlowStep verify f (.fixAliasCommitment commitment access authority)
        (f.aliased commitment access authority)
  | released {card form release authority : ArtifactSnapshot}
      (h : Releasable verify f card form release authority) :
      FlowStep verify f (.releaseUnit card form release authority)
        (f.released card form release authority)
  | adjudicated {receipt : ArtifactSnapshot} (h : Adjudicable verify f receipt) :
      FlowStep verify f (.fixHumanReceipt receipt) (f.adjudicated receipt)
  | closedUnit {closure : ArtifactSnapshot} (h : Closable verify f closure) :
      FlowStep verify f (.verifyUnitClosure closure) (f.closedUnit closure)
  | revealed {receipt authority : ArtifactSnapshot} (h : Revealable verify f receipt authority) :
      FlowStep verify f (.revealMapping receipt authority) (f.revealed receipt authority)
  | compared {comparison authority : ArtifactSnapshot}
      (h : Comparable verify f comparison authority) :
      FlowStep verify f (.recordMechanical comparison authority) (f.compared comparison authority)
  | assessed {artifact receipt : ArtifactSnapshot} (h : Assessable verify f artifact receipt) :
      FlowStep verify f (.fixRationaleAssessment artifact receipt) (f.assessed artifact receipt)
  | characterized {characterization : ArtifactSnapshot} {toHuman : Bool}
      (h : Characterizable verify f characterization toHuman) :
      FlowStep verify f (.fixCharacterization characterization)
        (f.characterized characterization toHuman)
  | completed {closure : ArtifactSnapshot} {payload : Object}
      (h : Completable verify f closure payload) (hlists : Lists f payload)
      (hunits : f.unitClosures.length = f.requiredUnitIds.length) :
      FlowStep verify f (.closeBundle closure) (f.closed closure .bundleClosed)
  | insufficient {closure : ArtifactSnapshot} {payload : Object}
      (h : Insufficient verify f closure payload) (hlists : Lists f payload) :
      FlowStep verify f (.closeInsufficient closure) (f.closed closure .bundleClosedInsufficient)
  | verified : FlowStep verify f .verifyFrozen f

/-! ## The shape of a workflow -/

/-- How far a state is. -/
def BundleState.rank : BundleState → ℕ
  | .frozen => 0
  | .aliasCommitmentFixed => 1
  | .unitReleased => 2
  | .humanReceiptFixed => 3
  | .unitClosureVerified => 4
  | .bundleMappingRevealed => 5
  | .mechanicalComparisonRecorded => 6
  | .rationaleAssessmentFixed => 7
  | .bundleCharacterizationFixed => 8
  | .deferred => 8
  | .bundleClosed => 9
  | .bundleClosedInsufficient => 10

namespace BundleWorkflow

/-- The units that went through each operation at a state of the bundle. -/
def Counted (f : BundleWorkflow) : BundleState → Prop
  | .frozen | .aliasCommitmentFixed =>
    f.cards.length = 0 ∧ f.humanReceipts.length = 0 ∧ f.unitClosures.length = 0
  | .unitReleased =>
    f.cards.length = f.unitClosures.length + 1 ∧ f.humanReceipts.length = f.unitClosures.length
  | .humanReceiptFixed =>
    f.cards.length = f.unitClosures.length + 1 ∧
      f.humanReceipts.length = f.unitClosures.length + 1
  | .unitClosureVerified =>
    f.cards.length = f.unitClosures.length ∧ f.humanReceipts.length = f.unitClosures.length
  | _ =>
    f.cards.length = f.unitClosures.length ∧ f.humanReceipts.length = f.unitClosures.length ∧
      f.unitClosures.length = f.requiredUnitIds.length

/-- What is fixed at a state of the bundle. -/
structure Staged (f : BundleWorkflow) (p : BundleState) : Prop where
  counted : f.Counted p
  commitment : f.aliasCommitment.isSome = decide (1 ≤ p.rank)
  unblind : f.unblind.isSome = decide (5 ≤ p.rank)
  mechanical : f.mechanical.isSome = decide (6 ≤ p.rank)
  assessment : f.assessment.isSome = decide (7 ≤ p.rank)
  characterization : f.characterization.isSome = decide (8 ≤ p.rank)

/-- The artifact of a key is among the other attributes. -/
def Filed (f : BundleWorkflow) : FixedKey → Prop
  | .aliasCommitment | .access | .aliasAuthority => f.aliasCommitment.isSome
  | .card i | .form i | .release i | .releaseAuthority i => i < f.cards.length
  | .human i => i < f.humanReceipts.length
  | .unitClosure i => i < f.unitClosures.length
  | .unblind | .unblindAuthority => f.unblind.isSome
  | .mechanical | .mechanicalAuthority => f.mechanical.isSome
  | .assessmentInput | .assessment => f.assessment.isSome
  | .characterization => f.characterization.isSome
  | .bundleClosure => f.closure.isSome

/-- The attributes agree with the state and with the keys of `_fixed`. -/
structure Shaped (f : BundleWorkflow) : Prop where
  filed : ∀ key ∈ f.keys, f.Filed key
  releases : f.releases.length = f.cards.length
  closure : f.closure.isSome = f.state.isTerminal
  staged : f.state ≠ .bundleClosedInsufficient → f.Staged f.state
  insufficient : f.state = .bundleClosedInsufficient →
    ∃ p : BundleState, p.isTerminal = false ∧ p ≠ .deferred ∧ f.Staged p
  unmapped : f.preMappingFailure = true →
    f.state = .frozen ∨ f.state = .bundleClosedInsufficient ∧ f.aliasCommitment = none

end BundleWorkflow

lemma BundleWorkflow.Shaped.at_state {p : BundleState} (hf : f.Shaped) (h : f.state = p)
    (hp : p ≠ .bundleClosedInsufficient) : f.Staged p := by
  subst h
  exact hf.staged hp

lemma BundleWorkflow.Shaped.fresh {key : FixedKey} (hf : f.Shaped) (h : ¬f.Filed key) :
    key ∉ f.keys :=
  fun hmem => h (hf.filed key hmem)

/-! ## Operations -/

/-- From `f` the operation takes the step of the call, or raises and leaves `f`. -/
abbrev Takes (verify : ArtifactSnapshot → V → Verdict × V) (f : BundleWorkflow) (call : FlowCall)
    (p : Op V Unit) : Prop :=
  Triple (fun s => s.flow = f) p (fun _ s => FlowStep verify f call s.flow) fun _ s => s.flow = f

lemma takes_assign {change : BundleWorkflow → BundleWorkflow}
    (h : FlowStep verify f call (change g)) {E : Raised → Session V → Prop} :
    Triple (fun s : Session V => s.flow = g) (assign change)
      (fun _ s => FlowStep verify f call s.flow) E := by
  rintro s rfl
  exact h

lemma takes_fixAliasCommitment (hf : f.Shaped) (commitment access authority : ArtifactSnapshot) :
    Takes verify f (.fixAliasCommitment commitment access authority)
      (fixAliasCommitment verify commitment access authority) := by
  refine guard_aliasChecks.triple (fun _ h => ?_) fun _ _ hs => hs
  have hnone : ¬f.aliasCommitment.isSome := by
    rw [(hf.at_state h.state nofun).commitment]
    decide
  have hcommitment : FixedKey.aliasCommitment ∉ f.keys := hf.fresh hnone
  have haccess : FixedKey.access ∉ f.keys := hf.fresh hnone
  have hauthority : FixedKey.aliasAuthority ∉ f.keys := hf.fresh hnone
  refine (moves_remember hcommitment).triple ?_
  refine (moves_remember (notMem_remembered haccess (by nofun))).triple ?_
  refine (moves_remember (notMem_remembered (notMem_remembered hauthority (by nofun))
    (by nofun))).triple ?_
  exact takes_assign (.aliased h)

lemma takes_releaseUnit (hf : f.Shaped) (card form release authority : ArtifactSnapshot) :
    Takes verify f (.releaseUnit card form release authority)
      (releaseUnit verify card form release authority) := by
  refine guard_self.triple (fun g hg => ?_) fun _ _ hs => hs
  subst hg
  refine guard_releaseChecks.triple (fun _ h => ?_) fun _ _ hs => hs
  have hcard : FixedKey.card g.cards.length ∉ g.keys := hf.fresh (lt_irrefl _)
  have hform : FixedKey.form g.cards.length ∉ g.keys := hf.fresh (lt_irrefl _)
  have hrelease : FixedKey.release g.cards.length ∉ g.keys := hf.fresh (lt_irrefl _)
  have hauthority : FixedKey.releaseAuthority g.cards.length ∉ g.keys := hf.fresh (lt_irrefl _)
  refine (moves_remember hcard).triple ?_
  refine (moves_remember (notMem_remembered hform (by nofun))).triple ?_
  refine (moves_remember (notMem_remembered (notMem_remembered hrelease (by nofun))
    (by nofun))).triple ?_
  refine (moves_remember (notMem_remembered (notMem_remembered (notMem_remembered hauthority
    (by nofun)) (by nofun)) (by nofun))).triple ?_
  exact takes_assign (.released h)

lemma takes_fixHumanReceipt (hf : f.Shaped) (receipt : ArtifactSnapshot) :
    Takes verify f (.fixHumanReceipt receipt) (fixHumanReceipt verify receipt) := by
  refine guard_self.triple (fun g hg => ?_) fun _ _ hs => hs
  subst hg
  refine guard_humanChecks.triple (fun _ h => ?_) fun _ _ hs => hs
  have hhuman : FixedKey.human g.humanReceipts.length ∉ g.keys := hf.fresh (lt_irrefl _)
  refine (moves_remember hhuman).triple ?_
  exact takes_assign (.adjudicated h)

lemma takes_verifyUnitClosure (hf : f.Shaped) (closure : ArtifactSnapshot) :
    Takes verify f (.verifyUnitClosure closure) (verifyUnitClosure verify closure) := by
  refine guard_self.triple (fun g hg => ?_) fun _ _ hs => hs
  subst hg
  refine guard_unitClosureChecks.triple (fun _ h => ?_) fun _ _ hs => hs
  have hclosure : FixedKey.unitClosure g.unitClosures.length ∉ g.keys := hf.fresh (lt_irrefl _)
  refine (moves_remember hclosure).triple ?_
  exact takes_assign (.closedUnit h)

lemma takes_fixReveal (hf : f.Shaped) (receipt authority : ArtifactSnapshot) :
    Takes verify f (.revealMapping receipt authority) (fixReveal verify receipt authority) := by
  refine guard_revealChecks.triple (fun _ h => ?_) fun _ _ hs => hs
  have hnone : ¬f.unblind.isSome := by
    rw [(hf.at_state h.state nofun).unblind]
    decide
  have hunblind : FixedKey.unblind ∉ f.keys := hf.fresh hnone
  have hauthority : FixedKey.unblindAuthority ∉ f.keys := hf.fresh hnone
  refine (moves_remember hunblind).triple ?_
  refine (moves_remember (notMem_remembered hauthority (by nofun))).triple ?_
  exact takes_assign (.revealed h)

lemma takes_recordMechanical (hf : f.Shaped) (comparison authority : ArtifactSnapshot) :
    Takes verify f (.recordMechanical comparison authority)
      (recordMechanical verify comparison authority) := by
  refine guard_mechanicalChecks.triple (fun _ h => ?_) fun _ _ hs => hs
  have hnone : ¬f.mechanical.isSome := by
    rw [(hf.at_state h.state nofun).mechanical]
    decide
  have hmechanical : FixedKey.mechanical ∉ f.keys := hf.fresh hnone
  have hauthority : FixedKey.mechanicalAuthority ∉ f.keys := hf.fresh hnone
  refine (moves_remember hmechanical).triple ?_
  refine (moves_remember (notMem_remembered hauthority (by nofun))).triple ?_
  exact takes_assign (.compared h)

lemma takes_fixRationaleAssessment (hf : f.Shaped) (artifact receipt : ArtifactSnapshot) :
    Takes verify f (.fixRationaleAssessment artifact receipt)
      (fixRationaleAssessment verify artifact receipt) := by
  refine guard_assessmentChecks.triple (fun _ h => ?_) fun _ _ hs => hs
  have hnone : ¬f.assessment.isSome := by
    rw [(hf.at_state h.state nofun).assessment]
    decide
  have hinput : FixedKey.assessmentInput ∉ f.keys := hf.fresh hnone
  have hassessment : FixedKey.assessment ∉ f.keys := hf.fresh hnone
  refine (moves_remember hinput).triple ?_
  refine (moves_remember (notMem_remembered hassessment (by nofun))).triple ?_
  exact takes_assign (.assessed h)

lemma takes_fixCharacterization (hf : f.Shaped) (characterization : ArtifactSnapshot) :
    Takes verify f (.fixCharacterization characterization)
      (fixCharacterization verify characterization) := by
  refine guard_characterizationChecks.triple (fun toHuman h => ?_) fun _ _ hs => hs
  have hnone : ¬f.characterization.isSome := by
    rw [(hf.at_state h.state nofun).characterization]
    decide
  have hcharacterization : FixedKey.characterization ∉ f.keys := hf.fresh hnone
  refine (moves_remember hcharacterization).triple ?_
  exact takes_assign (.characterized h)

/-- `_close_common` up to its last assignment, for a closure that names its terminal state. -/
lemma takes_fixClosure {closure : ArtifactSnapshot} {payload : Object} {complete : Bool}
    {terminal : BundleState} {state : Value} (hf : f.Shaped) (hopen : f.state.isTerminal = false)
    (hstate : payload.item "state" = .ok state) (hterminal : BundleState.ofClosure state = some terminal)
    (hstep : Lists f payload →
      (complete = true → f.unitClosures.length = f.requiredUnitIds.length) →
      FlowStep verify f call (f.closed closure terminal)) :
    Takes verify f call (fixClosure closure payload complete) := by
  refine guard_commonChecks.triple (fun _ h => ?_) fun _ _ hs => hs
  have hnone : ¬f.closure.isSome := by
    rw [hf.closure, hopen]
    decide
  have hclosure : FixedKey.bundleClosure ∉ f.keys := hf.fresh hnone
  refine (moves_remember hclosure).triple ?_
  rw [hstate, Op.ofExcept, lift_ok_bind, asserted_eq_ok.mpr hterminal, Op.ofExcept, lift_ok_bind]
  exact takes_assign (hstep h.1 h.2)

/-- `close_bundle` up to its last assignment. -/
def fixComplete (verify : ArtifactSnapshot → V → Verdict × V) (closure : ArtifactSnapshot) :
    Op V Unit := do
  let payload ← completeChecks verify closure
  fixClosure closure payload true

/-- `close_insufficient` up to its last assignment. -/
def fixInsufficient (verify : ArtifactSnapshot → V → Verdict × V) (closure : ArtifactSnapshot) :
    Op V Unit := do
  let payload ← insufficientChecks verify closure
  fixClosure closure payload false

lemma takes_fixComplete (hf : f.Shaped) (closure : ArtifactSnapshot) :
    Takes verify f (.closeBundle closure) (fixComplete verify closure) := by
  refine guard_completeChecks.triple (fun payload h => ?_) fun _ _ hs => hs
  have hopen : f.state.isTerminal = false := by
    rw [h.state]
    rfl
  refine takes_fixClosure hf hopen h.terminal rfl fun hlists hunits => ?_
  exact .completed h hlists (hunits rfl)

lemma takes_fixInsufficient (hf : f.Shaped) (closure : ArtifactSnapshot) :
    Takes verify f (.closeInsufficient closure) (fixInsufficient verify closure) := by
  refine guard_insufficientChecks.triple (fun payload h => ?_) fun _ _ hs => hs
  refine takes_fixClosure hf h.state.1 h.terminal rfl fun hlists _ => ?_
  exact .insufficient h hlists

lemma takes_verifyFrozen : Takes verify f .verifyFrozen (verifyFrozen verify) := by
  refine guard_verifyFrozen.conseq (fun _ hs => hs) (fun _ s hs => ?_) fun _ _ hs => hs
  rw [hs.1]
  exact .verified

/-! ## Calls -/

/-- The operation verifies again what is fixed, after it assigned it. -/
def FlowCall.isLate : FlowCall → Bool
  | .revealMapping _ _ | .closeBundle _ | .closeInsufficient _ => true
  | _ => false

/-- The operation up to its last assignment. -/
def FlowCall.body (verify : ArtifactSnapshot → V → Verdict × V) : FlowCall → Op V Unit
  | .revealMapping r a => fixReveal verify r a
  | .closeBundle c => fixComplete verify c
  | .closeInsufficient c => fixInsufficient verify c
  | call => call.op verify

lemma takes_body (hf : f.Shaped) (call : FlowCall) : Takes verify f call (call.body verify) := by
  cases call with
  | fixAliasCommitment c p a => exact takes_fixAliasCommitment hf c p a
  | releaseUnit c e r a => exact takes_releaseUnit hf c e r a
  | fixHumanReceipt r => exact takes_fixHumanReceipt hf r
  | verifyUnitClosure c => exact takes_verifyUnitClosure hf c
  | revealMapping r a => exact takes_fixReveal hf r a
  | recordMechanical c a => exact takes_recordMechanical hf c a
  | fixRationaleAssessment a r => exact takes_fixRationaleAssessment hf a r
  | fixCharacterization c => exact takes_fixCharacterization hf c
  | closeBundle c => exact takes_fixComplete hf c
  | closeInsufficient c => exact takes_fixInsufficient hf c
  | verifyFrozen => exact takes_verifyFrozen

lemma op_of_not_late (h : call.isLate = false) : call.op verify = call.body verify := by
  cases call with
  | revealMapping | closeBundle | closeInsufficient => cases h
  | _ => rfl

lemma op_of_late (h : call.isLate = true) :
    call.op verify = (call.body verify >>= fun _ => verifyFrozen verify) := by
  cases call with
  | revealMapping r a => rfl
  | closeBundle c => exact (Program.bind_assoc _ _ _).symm
  | closeInsufficient c => exact (Program.bind_assoc _ _ _).symm
  | _ => cases h

end CivicGate.Rq6
