import CivicGate.Rq6.WorkflowCalls

/-!
# What every step of a workflow keeps

What is fixed stays fixed (`Extends`), the attributes agree with the state
(`BundleWorkflow.Shaped`), and the artifacts name each other (`BundleWorkflow.Linked`).
-/

namespace CivicGate.Rq6

open Program

variable {V : Type} {verify : ArtifactSnapshot → V → Verdict × V} {f g : BundleWorkflow}
  {call : FlowCall}

/-! ## What is fixed stays fixed -/

/-- What is fixed in the first workflow is fixed in the second. -/
structure Extends (f g : BundleWorkflow) : Prop where
  binding : g.binding = f.binding
  preMappingFailure : g.preMappingFailure = f.preMappingFailure
  requiredUnitIds : g.requiredUnitIds = f.requiredUnitIds
  anchor : g.primaryAnchorReceiptSha256 = f.primaryAnchorReceiptSha256
  fixed : f.fixed <+: g.fixed
  cards : f.cards <+: g.cards
  releases : f.releases <+: g.releases
  humanReceipts : f.humanReceipts <+: g.humanReceipts
  unitClosures : f.unitClosures <+: g.unitClosures
  aliasCommitment : ∀ a, f.aliasCommitment = some a → g.aliasCommitment = some a
  unblind : ∀ a, f.unblind = some a → g.unblind = some a
  mechanical : ∀ a, f.mechanical = some a → g.mechanical = some a
  assessment : ∀ a, f.assessment = some a → g.assessment = some a
  characterization : ∀ a, f.characterization = some a → g.characterization = some a
  closure : ∀ a, f.closure = some a → g.closure = some a

lemma Extends.refl (f : BundleWorkflow) : Extends f f where
  binding := rfl
  preMappingFailure := rfl
  requiredUnitIds := rfl
  anchor := rfl
  fixed := List.prefix_rfl
  cards := List.prefix_rfl
  releases := List.prefix_rfl
  humanReceipts := List.prefix_rfl
  unitClosures := List.prefix_rfl
  aliasCommitment := fun _ h => h
  unblind := fun _ h => h
  mechanical := fun _ h => h
  assessment := fun _ h => h
  characterization := fun _ h => h
  closure := fun _ h => h

lemma fixed_remembered (f : BundleWorkflow) (key : FixedKey) (a : ArtifactSnapshot) :
    f.fixed <+: (f.remembered key a).fixed :=
  List.prefix_append ..

/-- An attribute that is not set yet can be set. -/
lemma of_isSome_eq_false {o o' : Option ArtifactSnapshot} (h : o.isSome = false) :
    ∀ a, o = some a → o' = some a := by
  rintro a rfl
  cases h

lemma extends_step (hf : f.Shaped) (h : FlowStep verify f call g) : Extends f g := by
  cases h with
  | aliased h =>
      have hnone := (hf.at_state h.state nofun).commitment
      exact { Extends.refl f with
        fixed := ((fixed_remembered ..).trans (fixed_remembered ..)).trans (fixed_remembered ..)
        aliasCommitment := of_isSome_eq_false hnone }
  | released h =>
      exact { Extends.refl f with
        fixed := (((fixed_remembered ..).trans (fixed_remembered ..)).trans
          (fixed_remembered ..)).trans (fixed_remembered ..)
        cards := List.prefix_append ..
        releases := List.prefix_append .. }
  | adjudicated h =>
      exact { Extends.refl f with
        fixed := fixed_remembered ..
        humanReceipts := List.prefix_append .. }
  | closedUnit h =>
      exact { Extends.refl f with
        fixed := fixed_remembered ..
        unitClosures := List.prefix_append .. }
  | revealed h =>
      have hnone := (hf.at_state h.state nofun).unblind
      exact { Extends.refl f with
        fixed := (fixed_remembered ..).trans (fixed_remembered ..)
        unblind := of_isSome_eq_false hnone }
  | compared h =>
      have hnone := (hf.at_state h.state nofun).mechanical
      exact { Extends.refl f with
        fixed := (fixed_remembered ..).trans (fixed_remembered ..)
        mechanical := of_isSome_eq_false hnone }
  | assessed h =>
      have hnone := (hf.at_state h.state nofun).assessment
      exact { Extends.refl f with
        fixed := (fixed_remembered ..).trans (fixed_remembered ..)
        assessment := of_isSome_eq_false hnone }
  | characterized h =>
      have hnone := (hf.at_state h.state nofun).characterization
      exact { Extends.refl f with
        fixed := fixed_remembered ..
        characterization := of_isSome_eq_false hnone }
  | completed h =>
      have hnone : f.closure.isSome = false := by
        rw [hf.closure, h.state]
        rfl
      exact { Extends.refl f with
        fixed := fixed_remembered ..
        closure := of_isSome_eq_false hnone }
  | insufficient h =>
      have hnone : f.closure.isSome = false := by rw [hf.closure, h.state.1]
      exact { Extends.refl f with
        fixed := fixed_remembered ..
        closure := of_isSome_eq_false hnone }
  | verified => exact Extends.refl f

/-! ## Shape -/

lemma isSome_of_forall_some {o o' : Option ArtifactSnapshot} (h : ∀ a, o = some a → o' = some a)
    (hsome : o.isSome) : o'.isSome := by
  obtain ⟨a, ha⟩ := Option.isSome_iff_exists.mp hsome
  rw [h a ha]
  rfl

lemma Extends.filed {key : FixedKey} (hext : Extends f g) (h : f.Filed key) : g.Filed key := by
  cases key with
  | aliasCommitment | access | aliasAuthority => exact isSome_of_forall_some hext.aliasCommitment h
  | card | form | release | releaseAuthority => exact lt_of_lt_of_le h hext.cards.length_le
  | human => exact lt_of_lt_of_le h hext.humanReceipts.length_le
  | unitClosure => exact lt_of_lt_of_le h hext.unitClosures.length_le
  | unblind | unblindAuthority => exact isSome_of_forall_some hext.unblind h
  | mechanical | mechanicalAuthority => exact isSome_of_forall_some hext.mechanical h
  | assessmentInput | assessment => exact isSome_of_forall_some hext.assessment h
  | characterization => exact isSome_of_forall_some hext.characterization h
  | bundleClosure => exact isSome_of_forall_some hext.closure h

/-- The new keys of a step are filed, and the old ones still are. -/
lemma filed_of_keys {new : List FixedKey} (hf : f.Shaped) (hext : Extends f g)
    (hkeys : g.keys = f.keys ++ new) (hnew : ∀ key ∈ new, g.Filed key) :
    ∀ key ∈ g.keys, g.Filed key := by
  intro key hkey
  rw [hkeys, List.mem_append] at hkey
  rcases hkey with hold | hnewKey
  · exact hext.filed (hf.filed key hold)
  · exact hnew key hnewKey

lemma BundleWorkflow.Shaped.mapped (hf : f.Shaped) (hfrozen : f.state ≠ .frozen)
    (hopen : f.state ≠ .bundleClosedInsufficient) : f.preMappingFailure = false := by
  by_contra h
  rw [Bool.not_eq_false] at h
  rcases hf.unmapped h with hstate | ⟨hstate, -⟩
  · exact hfrozen hstate
  · exact hopen hstate

/-- A step that leaves the bundle open. -/
lemma shaped_of_open {new : List FixedKey} (hf : f.Shaped) (hext : Extends f g)
    (hkeys : g.keys = f.keys ++ new) (hnew : ∀ key ∈ new, g.Filed key)
    (hreleases : g.releases.length = g.cards.length) (hmapped : f.preMappingFailure = false)
    (hclosure : g.closure = f.closure) (hbefore : f.state.isTerminal = false)
    (hafter : g.state.isTerminal = false) (hstaged : g.Staged g.state) : g.Shaped where
  filed := filed_of_keys hf hext hkeys hnew
  releases := hreleases
  closure := by rw [hclosure, hf.closure, hbefore, hafter]
  staged := fun _ => hstaged
  insufficient := fun h => by rw [h] at hafter; cases hafter
  unmapped := fun h => by rw [hext.preMappingFailure, hmapped] at h; cases h

/-- A new workflow is well shaped. -/
lemma shaped_created {b : BundleBinding} {failed : Bool} {units : List String} {anchor : String} :
    ({ binding := b, preMappingFailure := failed, requiredUnitIds := units,
       primaryAnchorReceiptSha256 := anchor } : BundleWorkflow).Shaped where
  filed := fun _ hkey => absurd hkey List.not_mem_nil
  releases := rfl
  closure := rfl
  staged := fun _ => ⟨⟨rfl, rfl, rfl⟩, rfl, rfl, rfl, rfl, rfl⟩
  insufficient := fun hstate => by cases hstate
  unmapped := fun _ => .inl rfl

lemma shaped_aliased {commitment access authority : ArtifactSnapshot} (hf : f.Shaped)
    (h : Aliasable verify f commitment access authority) :
    (f.aliased commitment access authority).Shaped := by
  have hstaged := hf.at_state h.state (by decide)
  have hkeys : (f.aliased commitment access authority).keys =
      f.keys ++ [FixedKey.aliasCommitment, .access, .aliasAuthority] := by
    simp [BundleWorkflow.keys, BundleWorkflow.aliased, BundleWorkflow.remembered]
  refine shaped_of_open hf (extends_step hf (.aliased h)) hkeys ?_ hf.releases h.mapped rfl
    (by rw [h.state]; rfl) rfl ?_
  · simp [BundleWorkflow.Filed, BundleWorkflow.aliased]
  · exact ⟨hstaged.counted, rfl, hstaged.unblind, hstaged.mechanical, hstaged.assessment,
      hstaged.characterization⟩

lemma open_of_releasable {card form release authority : ArtifactSnapshot}
    (h : Releasable verify f card form release authority) : f.state.isTerminal = false := by
  rcases h.state with hstate | hstate <;> rw [hstate] <;> rfl

/-- Before the first release nothing distinguishes the bundle from one whose units are closed. -/
lemma staged_of_releasable {card form release authority : ArtifactSnapshot} (hf : f.Shaped)
    (h : Releasable verify f card form release authority) : f.Staged .unitClosureVerified := by
  rcases h.state with hstate | hstate
  · have hat := hf.at_state hstate (by decide)
    obtain ⟨hcards, hhuman, hclosures⟩ := hat.counted
    exact ⟨⟨by omega, by omega⟩, hat.commitment, hat.unblind, hat.mechanical, hat.assessment,
      hat.characterization⟩
  · exact hf.at_state hstate (by decide)

lemma shaped_released {card form release authority : ArtifactSnapshot} (hf : f.Shaped)
    (h : Releasable verify f card form release authority) :
    (f.released card form release authority).Shaped := by
  have hkeys : (f.released card form release authority).keys = f.keys ++
      [FixedKey.card f.cards.length, .form f.cards.length, .release f.cards.length,
        .releaseAuthority f.cards.length] := by
    simp [BundleWorkflow.keys, BundleWorkflow.released, BundleWorkflow.remembered]
  have hreleases : (f.released card form release authority).releases.length =
      (f.released card form release authority).cards.length := by
    simp [BundleWorkflow.released, hf.releases]
  have hstaged := staged_of_releasable hf h
  refine shaped_of_open hf (extends_step hf (.released h)) hkeys ?_ hreleases h.mapped rfl
    (open_of_releasable h) rfl ⟨⟨?_, hstaged.counted.2⟩, hstaged.commitment, hstaged.unblind,
      hstaged.mechanical, hstaged.assessment, hstaged.characterization⟩
  · simp [BundleWorkflow.Filed, BundleWorkflow.released]
  · rw [BundleWorkflow.released, List.length_append, List.length_singleton]
    exact congrArg (· + 1) hstaged.counted.1

lemma shaped_adjudicated {receipt : ArtifactSnapshot} (hf : f.Shaped)
    (h : Adjudicable verify f receipt) : (f.adjudicated receipt).Shaped := by
  have hstaged := hf.at_state h.state (by decide)
  have hkeys : (f.adjudicated receipt).keys =
      f.keys ++ [FixedKey.human f.humanReceipts.length] := by
    simp [BundleWorkflow.keys, BundleWorkflow.adjudicated, BundleWorkflow.remembered]
  have hmapped := hf.mapped (by rw [h.state]; decide) (by rw [h.state]; decide)
  refine shaped_of_open hf (extends_step hf (.adjudicated h)) hkeys ?_ hf.releases hmapped rfl
    (by rw [h.state]; rfl) rfl ?_
  · simp [BundleWorkflow.Filed, BundleWorkflow.adjudicated]
  · refine ⟨⟨hstaged.counted.1, ?_⟩, hstaged.commitment, hstaged.unblind, hstaged.mechanical,
      hstaged.assessment, hstaged.characterization⟩
    rw [BundleWorkflow.adjudicated, List.length_append, List.length_singleton]
    exact congrArg (· + 1) hstaged.counted.2

lemma shaped_closedUnit {closure : ArtifactSnapshot} (hf : f.Shaped)
    (h : Closable verify f closure) : (f.closedUnit closure).Shaped := by
  have hstaged := hf.at_state h.state (by decide)
  have hkeys : (f.closedUnit closure).keys =
      f.keys ++ [FixedKey.unitClosure f.unitClosures.length] := by
    simp [BundleWorkflow.keys, BundleWorkflow.closedUnit, BundleWorkflow.remembered]
  have hlength : (f.closedUnit closure).unitClosures.length = f.unitClosures.length + 1 := by
    rw [BundleWorkflow.closedUnit, List.length_append, List.length_singleton]
  have hmapped := hf.mapped (by rw [h.state]; decide) (by rw [h.state]; decide)
  refine shaped_of_open hf (extends_step hf (.closedUnit h)) hkeys ?_ hf.releases hmapped rfl
    (by rw [h.state]; rfl) rfl ?_
  · simp [BundleWorkflow.Filed, BundleWorkflow.closedUnit]
  · refine ⟨⟨?_, ?_⟩, hstaged.commitment, hstaged.unblind, hstaged.mechanical,
      hstaged.assessment, hstaged.characterization⟩
    · rw [hlength]
      exact hstaged.counted.1
    · rw [hlength]
      exact hstaged.counted.2

lemma shaped_revealed {receipt authority : ArtifactSnapshot} (hf : f.Shaped)
    (h : Revealable verify f receipt authority) : (f.revealed receipt authority).Shaped := by
  have hstaged := hf.at_state h.state (by decide)
  have hkeys : (f.revealed receipt authority).keys =
      f.keys ++ [FixedKey.unblind, .unblindAuthority] := by
    simp [BundleWorkflow.keys, BundleWorkflow.revealed, BundleWorkflow.remembered]
  have hmapped := hf.mapped (by rw [h.state]; decide) (by rw [h.state]; decide)
  refine shaped_of_open hf (extends_step hf (.revealed h)) hkeys ?_ hf.releases hmapped rfl
    (by rw [h.state]; rfl) rfl ?_
  · simp [BundleWorkflow.Filed, BundleWorkflow.revealed]
  · exact ⟨⟨hstaged.counted.1, hstaged.counted.2, h.complete⟩, hstaged.commitment, rfl,
      hstaged.mechanical, hstaged.assessment, hstaged.characterization⟩

lemma shaped_compared {comparison authority : ArtifactSnapshot} (hf : f.Shaped)
    (h : Comparable verify f comparison authority) :
    (f.compared comparison authority).Shaped := by
  have hstaged := hf.at_state h.state (by decide)
  have hkeys : (f.compared comparison authority).keys =
      f.keys ++ [FixedKey.mechanical, .mechanicalAuthority] := by
    simp [BundleWorkflow.keys, BundleWorkflow.compared, BundleWorkflow.remembered]
  have hmapped := hf.mapped (by rw [h.state]; decide) (by rw [h.state]; decide)
  refine shaped_of_open hf (extends_step hf (.compared h)) hkeys ?_ hf.releases hmapped rfl
    (by rw [h.state]; rfl) rfl ?_
  · simp [BundleWorkflow.Filed, BundleWorkflow.compared]
  · exact ⟨hstaged.counted, hstaged.commitment, hstaged.unblind, rfl, hstaged.assessment,
      hstaged.characterization⟩

lemma shaped_assessed {artifact receipt : ArtifactSnapshot} (hf : f.Shaped)
    (h : Assessable verify f artifact receipt) : (f.assessed artifact receipt).Shaped := by
  have hstaged := hf.at_state h.state (by decide)
  have hkeys : (f.assessed artifact receipt).keys =
      f.keys ++ [FixedKey.assessmentInput, .assessment] := by
    simp [BundleWorkflow.keys, BundleWorkflow.assessed, BundleWorkflow.remembered]
  have hmapped := hf.mapped (by rw [h.state]; decide) (by rw [h.state]; decide)
  refine shaped_of_open hf (extends_step hf (.assessed h)) hkeys ?_ hf.releases hmapped rfl
    (by rw [h.state]; rfl) rfl ?_
  · simp [BundleWorkflow.Filed, BundleWorkflow.assessed]
  · exact ⟨hstaged.counted, hstaged.commitment, hstaged.unblind, hstaged.mechanical, rfl,
      hstaged.characterization⟩

lemma shaped_characterized {characterization : ArtifactSnapshot} {toHuman : Bool}
    (hf : f.Shaped) (h : Characterizable verify f characterization toHuman) :
    (f.characterized characterization toHuman).Shaped := by
  have hstaged := hf.at_state h.state (by decide)
  have hkeys : (f.characterized characterization toHuman).keys =
      f.keys ++ [FixedKey.characterization] := by
    simp [BundleWorkflow.keys, BundleWorkflow.characterized, BundleWorkflow.remembered]
  have hmapped := hf.mapped (by rw [h.state]; decide) (by rw [h.state]; decide)
  have hopen : (f.characterized characterization toHuman).state.isTerminal = false := by
    cases toHuman <;> rfl
  refine shaped_of_open hf (extends_step hf (.characterized h)) hkeys ?_ hf.releases hmapped rfl
    (by rw [h.state]; rfl) hopen ?_
  · simp [BundleWorkflow.Filed, BundleWorkflow.characterized]
  · cases toHuman <;> exact ⟨hstaged.counted, hstaged.commitment, hstaged.unblind,
      hstaged.mechanical, hstaged.assessment, rfl⟩

lemma shaped_closed {closure : ArtifactSnapshot} {terminal : BundleState} (hf : f.Shaped)
    (hext : Extends f (f.closed closure terminal)) (hterminal : terminal.isTerminal = true)
    (hstaged : terminal ≠ .bundleClosedInsufficient → (f.closed closure terminal).Staged terminal)
    (hinsufficient : terminal = .bundleClosedInsufficient →
      ∃ p : BundleState, p.isTerminal = false ∧ p ≠ .deferred ∧ f.Staged p)
    (hunmapped : f.preMappingFailure = true →
      terminal = .bundleClosedInsufficient ∧ f.aliasCommitment = none) :
    (f.closed closure terminal).Shaped where
  filed := by
    have hkeys : (f.closed closure terminal).keys = f.keys ++ [FixedKey.bundleClosure] := by
      simp [BundleWorkflow.keys, BundleWorkflow.closed, BundleWorkflow.remembered]
    refine filed_of_keys hf hext hkeys ?_
    simp [BundleWorkflow.Filed, BundleWorkflow.closed]
  releases := hf.releases
  closure := hterminal.symm
  staged := hstaged
  insufficient := fun h => by
    obtain ⟨p, hopen, hp, hat⟩ := hinsufficient h
    exact ⟨p, hopen, hp, hat.counted, hat.commitment, hat.unblind, hat.mechanical,
      hat.assessment, hat.characterization⟩
  unmapped := fun h => .inr (hunmapped h)

lemma shaped_step (hf : f.Shaped) (h : FlowStep verify f call g) : g.Shaped := by
  have hext := extends_step hf h
  cases h with
  | aliased h => exact shaped_aliased hf h
  | released h => exact shaped_released hf h
  | adjudicated h => exact shaped_adjudicated hf h
  | closedUnit h => exact shaped_closedUnit hf h
  | revealed h => exact shaped_revealed hf h
  | compared h => exact shaped_compared hf h
  | assessed h => exact shaped_assessed hf h
  | characterized h => exact shaped_characterized hf h
  | completed h =>
      have hstaged := hf.at_state h.state (by decide)
      have hmapped := hf.mapped (by rw [h.state]; decide) (by rw [h.state]; decide)
      refine shaped_closed hf hext rfl (fun _ => ?_) nofun fun h => ?_
      · exact ⟨hstaged.counted, hstaged.commitment, hstaged.unblind, hstaged.mechanical,
          hstaged.assessment, hstaged.characterization⟩
      · rw [hmapped] at h
        cases h
  | insufficient h =>
      have hopen : f.state ≠ .bundleClosedInsufficient := by
        intro hstate
        have hterminal := h.state.1
        rw [hstate] at hterminal
        cases hterminal
      refine shaped_closed hf hext rfl (fun hne => absurd rfl hne) (fun _ => ?_) fun hfailure => ?_
      · exact ⟨f.state, h.state.1, h.state.2, hf.staged hopen⟩
      · rcases hf.unmapped hfailure with hstate | ⟨hstate, -⟩
        · have hnone : f.aliasCommitment.isSome = false := (hf.at_state hstate nofun).commitment
          exact ⟨rfl, by simpa using hnone⟩
        · exact absurd hstate hopen
  | verified => exact hf

/-! ## Links -/

/-- What the artifacts of a workflow name. -/
structure BundleWorkflow.Linked (verify : ArtifactSnapshot → V → Verdict × V)
    (f : BundleWorkflow) : Prop where
  released : ∀ (i : ℕ) card release, f.cards[i]? = some card → f.releases[i]? = some release →
    ∃ unit mapping, f.requiredUnitIds[i]? = some unit ∧ mappingCommitment f = .ok mapping ∧
      Released verify f.binding unit mapping card release
  adjudicated : ∀ (i : ℕ) card release human, f.cards[i]? = some card →
    f.releases[i]? = some release → f.humanReceipts[i]? = some human →
    ∃ unit mapping, f.requiredUnitIds[i]? = some unit ∧ mappingCommitment f = .ok mapping ∧
      Adjudicated verify f.binding unit mapping card release human
  closedUnits : ∀ (i : ℕ) card release human closure, f.cards[i]? = some card →
    f.releases[i]? = some release → f.humanReceipts[i]? = some human →
    f.unitClosures[i]? = some closure →
    ∃ unit mapping, f.requiredUnitIds[i]? = some unit ∧ mappingCommitment f = .ok mapping ∧
      ClosedUnit verify f.binding unit mapping card release human closure
  revealed : ∀ unblind, f.unblind = some unblind →
    ∃ mapping, mappingCommitment f = .ok mapping ∧
      Revealed verify f.binding mapping f.humanReceiptHashes f.unitClosureHashes unblind
  compared : ∀ unblind comparison, f.unblind = some unblind → f.mechanical = some comparison →
    Compared verify f.binding f.primaryAnchorReceiptSha256 unblind comparison
  assessed : ∀ unblind receipt, f.unblind = some unblind → f.assessment = some receipt →
    ∃ artifact, Assessed verify f.binding f.primaryAnchorReceiptSha256 f.humanReceiptHashes
      unblind artifact receipt
  characterized : ∀ mechanical assessment characterization, f.mechanical = some mechanical →
    f.assessment = some assessment → f.characterization = some characterization →
    ∃ toHuman, Characterized verify f.binding mechanical assessment characterization toHuman
  closure : ∀ closure, f.closure = some closure →
    ∃ payload, Validated verify f.binding "bundle_closure" closure payload ∧ Lists f payload ∧
      (f.state = .bundleClosed → Completes f payload) ∧
      (f.state = .bundleClosedInsufficient → Accounts f payload)

lemma getElem?_concat {xs : List ArtifactSnapshot} {x y : ArtifactSnapshot} {i : ℕ}
    (h : (xs ++ [x])[i]? = some y) : xs[i]? = some y ∨ i = xs.length ∧ y = x := by
  rcases lt_trichotomy i xs.length with hlt | heq | hgt
  · rw [List.getElem?_append_left hlt] at h
    exact .inl h
  · subst heq
    rw [List.getElem?_concat_length] at h
    exact .inr ⟨rfl, (Option.some.inj h).symm⟩
  · rw [List.getElem?_eq_none (by simpa [Nat.succ_le_iff] using hgt)] at h
    cases h

/-- A workflow in which no unit was released, and nothing revealed or closed. -/
lemma linked_of_unreleased (hcards : f.cards = []) (hunblind : f.unblind = none)
    (hmechanical : f.mechanical = none) (hclosure : f.closure = none) :
    f.Linked verify where
  released := by simp [hcards]
  adjudicated := by simp [hcards]
  closedUnits := by simp [hcards]
  revealed := by simp [hunblind]
  compared := by simp [hunblind]
  assessed := by simp [hunblind]
  characterized := by simp [hmechanical]
  closure := by simp [hclosure]

lemma lt_of_getElem? {xs : List ArtifactSnapshot} {y : ArtifactSnapshot} {i : ℕ}
    (h : xs[i]? = some y) : i < xs.length := by
  obtain ⟨hlt, -⟩ := List.getElem?_eq_some_iff.mp h
  exact hlt

lemma none_of_isSome {o : Option ArtifactSnapshot} {b : Bool} (h : o.isSome = b)
    (hb : b = false) : o = none := by
  subst hb
  simpa using h

lemma linked_aliased {commitment access authority : ArtifactSnapshot} (hf : f.Shaped)
    (h : Aliasable verify f commitment access authority) :
    (f.aliased commitment access authority).Linked verify := by
  have hstaged := hf.at_state h.state (by decide)
  have hclosure : f.closure.isSome = false := by
    rw [hf.closure, h.state]
    rfl
  exact linked_of_unreleased (List.eq_nil_of_length_eq_zero hstaged.counted.1)
    (none_of_isSome hstaged.unblind rfl) (none_of_isSome hstaged.mechanical rfl)
    (none_of_isSome hclosure rfl)

lemma BundleWorkflow.Shaped.closure_none (hf : f.Shaped) (h : f.state.isTerminal = false) :
    f.closure = none :=
  none_of_isSome hf.closure h

lemma linked_released {card form release authority : ArtifactSnapshot} (hf : f.Shaped)
    (hl : f.Linked verify) (h : Releasable verify f card form release authority) :
    (f.released card form release authority).Linked verify := by
  have hstaged := staged_of_releasable hf h
  have hunblind : f.unblind = none := none_of_isSome hstaged.unblind rfl
  have hclosure : f.closure = none := hf.closure_none (open_of_releasable h)
  obtain ⟨hclosures, hhuman⟩ := hstaged.counted
  -- the receipts and closures are of earlier units
  have hold : ∀ {i : ℕ} {c r : ArtifactSnapshot}, i < f.cards.length →
      (f.cards ++ [card])[i]? = some c → (f.releases ++ [release])[i]? = some r →
      f.cards[i]? = some c ∧ f.releases[i]? = some r := by
    intro i c r hi hc hr
    rw [List.getElem?_append_left hi] at hc
    rw [List.getElem?_append_left (hf.releases ▸ hi)] at hr
    exact ⟨hc, hr⟩
  refine { hl with
    released := fun i c r hc hr => ?_
    adjudicated := fun i c r u hc hr hu => ?_
    closedUnits := fun i c r u k hc hr hu hk => ?_
    revealed := fun a ha => absurd (hunblind.symm.trans ha) nofun
    closure := fun a ha => absurd (hclosure.symm.trans ha) nofun }
  · rcases getElem?_concat hc with hc' | ⟨rfl, rfl⟩
    · exact hl.released i c r hc' (hold (lt_of_getElem? hc') hc hr).2
    · rcases getElem?_concat hr with hr' | ⟨-, rfl⟩
      · exact absurd (hf.releases ▸ lt_of_getElem? hr') (lt_irrefl _)
      · exact h.released
  · have hi : i < f.cards.length := by
      rw [hclosures, ← hhuman]
      exact lt_of_getElem? hu
    obtain ⟨hc, hr⟩ := hold hi hc hr
    exact hl.adjudicated i c r u hc hr hu
  · have hi : i < f.cards.length := by
      rw [hclosures]
      exact lt_of_getElem? hk
    obtain ⟨hc, hr⟩ := hold hi hc hr
    exact hl.closedUnits i c r u k hc hr hu hk

lemma linked_adjudicated {receipt : ArtifactSnapshot} (hf : f.Shaped) (hl : f.Linked verify)
    (h : Adjudicable verify f receipt) : (f.adjudicated receipt).Linked verify := by
  have hstaged := hf.at_state h.state (by decide)
  have hunblind : f.unblind = none := none_of_isSome hstaged.unblind rfl
  have hclosure : f.closure = none := hf.closure_none (by rw [h.state]; rfl)
  obtain ⟨-, hhuman⟩ := hstaged.counted
  refine { hl with
    adjudicated := fun i c r u hc hr hu => ?_
    closedUnits := fun i c r u k hc hr hu hk => ?_
    revealed := fun a ha => absurd (hunblind.symm.trans ha) nofun
    assessed := fun a _ ha => absurd (hunblind.symm.trans ha) nofun
    closure := fun a ha => absurd (hclosure.symm.trans ha) nofun }
  · rcases getElem?_concat hu with hu | ⟨rfl, rfl⟩
    · exact hl.adjudicated i c r u hc hr hu
    · obtain ⟨unit, mapping, card, release, hunit, hmapping, hcard, hrelease, hlinks⟩ :=
        h.adjudicated
      obtain rfl := Option.some.inj (hcard.symm.trans hc)
      obtain rfl := Option.some.inj (hrelease.symm.trans hr)
      exact ⟨unit, mapping, hunit, hmapping, hlinks⟩
  · have hi : i < f.humanReceipts.length := hhuman ▸ lt_of_getElem? hk
    rw [show (f.adjudicated receipt).humanReceipts = f.humanReceipts ++ [receipt] from rfl,
      List.getElem?_append_left hi] at hu
    exact hl.closedUnits i c r u k hc hr hu hk

lemma linked_closedUnit {closure : ArtifactSnapshot} (hf : f.Shaped) (hl : f.Linked verify)
    (h : Closable verify f closure) : (f.closedUnit closure).Linked verify := by
  have hstaged := hf.at_state h.state (by decide)
  have hunblind : f.unblind = none := none_of_isSome hstaged.unblind rfl
  have hclosure : f.closure = none := hf.closure_none (by rw [h.state]; rfl)
  refine { hl with
    closedUnits := fun i c r u k hc hr hu hk => ?_
    revealed := fun a ha => absurd (hunblind.symm.trans ha) nofun
    closure := fun a ha => absurd (hclosure.symm.trans ha) nofun }
  rcases getElem?_concat hk with hk | ⟨rfl, rfl⟩
  · exact hl.closedUnits i c r u k hc hr hu hk
  · obtain ⟨unit, mapping, card, release, human, hunit, hmapping, hcard, hrelease, hhuman, hlinks⟩ :=
      h.closed
    obtain rfl := Option.some.inj (hcard.symm.trans hc)
    obtain rfl := Option.some.inj (hrelease.symm.trans hr)
    obtain rfl := Option.some.inj (hhuman.symm.trans hu)
    exact ⟨unit, mapping, hunit, hmapping, hlinks⟩

lemma linked_revealed {receipt authority : ArtifactSnapshot} (hf : f.Shaped)
    (hl : f.Linked verify) (h : Revealable verify f receipt authority) :
    (f.revealed receipt authority).Linked verify := by
  have hstaged := hf.at_state h.state (by decide)
  have hmechanical : f.mechanical = none := none_of_isSome hstaged.mechanical rfl
  have hassessment : f.assessment = none := none_of_isSome hstaged.assessment rfl
  have hclosure : f.closure = none := hf.closure_none (by rw [h.state]; rfl)
  refine { hl with
    revealed := fun a ha => ?_
    compared := fun _ a _ ha => absurd (hmechanical.symm.trans ha) nofun
    assessed := fun _ a _ ha => absurd (hassessment.symm.trans ha) nofun
    closure := fun a ha => absurd (hclosure.symm.trans ha) nofun }
  obtain rfl := Option.some.inj ha
  exact h.revealed

lemma linked_compared {comparison authority : ArtifactSnapshot} (hf : f.Shaped)
    (hl : f.Linked verify) (h : Comparable verify f comparison authority) :
    (f.compared comparison authority).Linked verify := by
  have hstaged := hf.at_state h.state (by decide)
  have hassessment : f.assessment = none := none_of_isSome hstaged.assessment rfl
  have hclosure : f.closure = none := hf.closure_none (by rw [h.state]; rfl)
  refine { hl with
    compared := fun a m ha hm => ?_
    characterized := fun _ a _ _ ha => absurd (hassessment.symm.trans ha) nofun
    closure := fun a ha => absurd (hclosure.symm.trans ha) nofun }
  obtain rfl := Option.some.inj hm
  obtain ⟨unblind, hunblind, hlinks⟩ := h.compared
  obtain rfl := Option.some.inj (hunblind.symm.trans ha)
  exact hlinks

lemma linked_assessed {artifact receipt : ArtifactSnapshot} (hf : f.Shaped)
    (hl : f.Linked verify) (h : Assessable verify f artifact receipt) :
    (f.assessed artifact receipt).Linked verify := by
  have hstaged := hf.at_state h.state (by decide)
  have hcharacterization : f.characterization = none :=
    none_of_isSome hstaged.characterization rfl
  have hclosure : f.closure = none := hf.closure_none (by rw [h.state]; rfl)
  refine { hl with
    assessed := fun a r ha hr => ?_
    characterized := fun _ _ a _ _ ha => absurd (hcharacterization.symm.trans ha) nofun
    closure := fun a ha => absurd (hclosure.symm.trans ha) nofun }
  obtain rfl := Option.some.inj hr
  obtain ⟨unblind, hunblind, hlinks⟩ := h.assessed
  obtain rfl := Option.some.inj (hunblind.symm.trans ha)
  exact ⟨artifact, hlinks⟩

lemma linked_characterized {characterization : ArtifactSnapshot} {toHuman : Bool}
    (hf : f.Shaped) (hl : f.Linked verify) (h : Characterizable verify f characterization toHuman) :
    (f.characterized characterization toHuman).Linked verify := by
  have hclosure : f.closure = none := hf.closure_none (by rw [h.state]; rfl)
  refine { hl with
    characterized := fun m a c hm ha hc => ?_
    closure := fun a ha => absurd (hclosure.symm.trans ha) nofun }
  obtain rfl := Option.some.inj hc
  obtain ⟨mechanical, assessment, hmechanical, hassessment, hlinks⟩ := h.characterized
  obtain rfl := Option.some.inj (hmechanical.symm.trans hm)
  obtain rfl := Option.some.inj (hassessment.symm.trans ha)
  exact ⟨toHuman, hlinks⟩

lemma linked_closed {closure : ArtifactSnapshot} {terminal : BundleState} {payload : Object}
    (hl : f.Linked verify) (hvalid : Validated verify f.binding "bundle_closure" closure payload)
    (hlists : Lists f payload) (hcompletes : terminal = .bundleClosed → Completes f payload)
    (haccounts : terminal = .bundleClosedInsufficient → Accounts f payload) :
    (f.closed closure terminal).Linked verify := by
  refine { hl with closure := fun a ha => ?_ }
  obtain rfl := Option.some.inj ha
  refine ⟨payload, hvalid, ⟨hlists.units, hlists.receipts, hlists.closures, hlists.commitment⟩,
    fun h => ?_, fun h => ?_⟩
  · obtain ⟨hunblind, hassessment, hcharacterization⟩ := hcompletes h
    exact ⟨hunblind, hassessment, hcharacterization⟩
  · obtain ⟨hunblind, hunrevealed, huncompared, hmechanical, hassessment, hunassessed, hrecord⟩ :=
      haccounts h
    exact ⟨hunblind, hunrevealed, huncompared, hmechanical, hassessment, hunassessed, hrecord⟩

lemma linked_step (hf : f.Shaped) (hl : f.Linked verify) (h : FlowStep verify f call g) :
    g.Linked verify := by
  cases h with
  | aliased h => exact linked_aliased hf h
  | released h => exact linked_released hf hl h
  | adjudicated h => exact linked_adjudicated hf hl h
  | closedUnit h => exact linked_closedUnit hf hl h
  | revealed h => exact linked_revealed hf hl h
  | compared h => exact linked_compared hf hl h
  | assessed h => exact linked_assessed hf hl h
  | characterized h => exact linked_characterized hf hl h
  | completed h hlists => exact linked_closed hl h.valid hlists (fun _ => h.completes) nofun
  | insufficient h hlists => exact linked_closed hl h.valid hlists nofun fun _ => h.accounts
  | verified => exact hl

end CivicGate.Rq6
