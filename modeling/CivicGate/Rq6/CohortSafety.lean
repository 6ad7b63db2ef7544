import CivicGate.Rq6.CohortProgress

/-!
# What every run of a cohort guarantees

The checks of a cohort operation leave the cohort and its workflows alone however they end, and
what they establish is the step the operation then takes (`CohortStep`).  `Review.Inv` ties the
recorded closures to the workflows they came from: a workflow that closed stays closed, so none
is recorded twice, whatever callers do with the workflows they hold.

`cohort_gated` is the result.
-/

namespace CivicGate.Rq6

open Program

variable {ι V : Type} {verify : Option ι → ArtifactSnapshot → V → Verdict × V}
  {c : CohortWorkflow ι} {flows : ι → BundleWorkflow} {w : ι} {s : Review ι V}

/-! ## Values -/

lemma Value.isInt_iff {v : Value} : v.isInt = true ↔ ∃ n, v = .int n := by
  cases v <;> simp [Value.isInt]

lemma eq_of_eqItems {xs ys : List Value} (h : Value.eqItems xs ys = true)
    (hxs : xs.all Value.isInt = true) (hys : ys.all Value.isInt = true) : xs = ys := by
  induction xs generalizing ys with
  | nil => cases ys <;> simp [Value.eqItems] at h ⊢
  | cons x xs ih =>
      cases ys with
      | nil => simp [Value.eqItems] at h
      | cons y ys =>
          rw [Value.eqItems, Bool.and_eq_true] at h
          rw [List.all_cons, Bool.and_eq_true] at hxs hys
          obtain ⟨n, rfl⟩ := Value.isInt_iff.mp hxs.1
          obtain ⟨m, rfl⟩ := Value.isInt_iff.mp hys.1
          rw [Value.int_eq_int.mp h.1, ih h.2 hxs.2 hys.2]

lemma cohort_create_eq_ok {bundleOrder : List Value}
    (h : CohortWorkflow.create bundleOrder = .ok c) : c = { order := frozenOrder } := by
  unfold CohortWorkflow.create at h
  simp only [Except.bind_eq_ok, require_eq_ok, Bool.and_eq_true] at h
  obtain ⟨_, ⟨heq, hints⟩, h⟩ := h
  cases h
  have hitems : Value.eqItems bundleOrder frozenOrder = true := heq
  rw [eq_of_eqItems hitems hints rfl]

lemma frozenOrder_getElem? {k : ℕ} {v : Value} (h : frozenOrder[k]? = some v) :
    k < 6 ∧ v = .int (k + 1) := by
  have hk : k < 6 := by
    by_contra hge
    rw [List.getElem?_eq_none (by simpa [frozenOrder] using hge)] at h
    cases h
  refine ⟨hk, ?_⟩
  interval_cases k <;> exact (Option.some.inj h).symm

/-- The schema of a closure makes its position an integer. -/
lemma position_of_schema {payload : Object} (h : checkSchema "bundle_closure" payload = .ok ()) :
    ∃ n, payload.get "frozen_manifest_position" = .int n := by
  have hclosure : checkClosure payload = .ok () := by
    have hvalid : validateArtifact "bundle_closure" payload = .ok () := h
    unfold validateArtifact at hvalid
    simp only [fieldsOf, Except.bind_eq_ok] at hvalid
    obtain ⟨record, hrecord, _, -, hkind⟩ := hvalid
    simp only [checkObject, Except.bind_eq_ok, Except.pure_eq_ok] at hrecord
    obtain ⟨_, -, rfl⟩ := hrecord
    exact hkind
  unfold checkClosure at hclosure
  obtain ⟨_, -, hclosure⟩ := Except.bind_eq_ok.mp hclosure
  obtain ⟨_, -, hclosure⟩ := Except.bind_eq_ok.mp hclosure
  obtain ⟨_, -, hclosure⟩ := Except.bind_eq_ok.mp hclosure
  obtain ⟨_, -, hclosure⟩ := Except.bind_eq_ok.mp hclosure
  obtain ⟨_, hpositive, -⟩ := Except.bind_eq_ok.mp hclosure
  cases hposition : payload.get "frozen_manifest_position" with
  | int n => exact ⟨n, rfl⟩
  | _ =>
      rw [hposition] at hpositive
      cases hpositive

/-! ## Checks -/

/-- The cohort and its workflows. -/
def Review.parts (s : Review ι V) : CohortWorkflow ι × (ι → BundleWorkflow) :=
  (s.cohort, s.workflows)

/-- A check of the cohort `c`, whose workflows are `flows`. -/
abbrev CohortGuard {α : Type} (c : CohortWorkflow ι) (flows : ι → BundleWorkflow)
    (p : CohortOp ι V α) (A : α → Prop) : Prop :=
  Program.Reads Review.parts (c, flows) p A

lemma guard_cohort : CohortGuard c flows (CohortOp.self : CohortOp ι V _) (· = c) := by
  intro s hs
  exact ⟨hs, congrArg Prod.fst hs⟩

lemma guard_workflow :
    CohortGuard c flows (CohortOp.workflow w : CohortOp ι V _) (· = flows w) := by
  intro s hs
  exact ⟨hs, congrFun (congrArg Prod.snd hs) w⟩

lemma guard_cohortExcept {α : Type} {x : Except Raised α} :
    CohortGuard c flows (CohortOp.ofExcept x : CohortOp ι V α) (x = .ok ·) := Program.Reads.lift

lemma guard_cohortRequire {condition : Bool} {code : String} :
    CohortGuard c flows (CohortOp.require condition code : CohortOp ι V Unit)
      fun _ => condition = true :=
  Program.Reads.mono Program.Reads.lift fun _ h => require_eq_ok.mp h

lemma guard_confirm {a : ArtifactSnapshot} :
    CohortGuard c flows (confirm verify a) fun _ => Accepted (verify none) a := by
  intro s hs
  unfold Program.run confirm
  rcases hverify : verify none a s.verifier with ⟨_ | _ | _, v⟩
  · exact ⟨hs, s.verifier, congrArg Prod.fst hverify⟩
  · exact hs
  · exact hs

lemma guard_confirmClosures (closures : List ArtifactSnapshot) :
    CohortGuard c flows (confirmClosures verify closures) fun _ => True := by
  induction closures with
  | nil => exact Program.Reads.pure trivial
  | cons closure rest ih =>
      refine Program.Reads.bind guard_cohortExcept fun _ _ => ?_
      exact Program.Reads.bind guard_confirm fun _ _ => ih

/-- A method that leaves its workflow alone leaves the cohort alone. -/
lemma guard_workflowCall [DecidableEq ι] {α : Type} {p : Op V α} {A : α → Prop}
    (hp : Guard (flows w) p A) :
    CohortGuard c flows (CohortOp.call w p) A := by
  intro s hs
  obtain ⟨rfl, rfl⟩ := Prod.mk.inj hs
  have hrun := hp ⟨s.workflows w, s.verifier⟩ rfl
  have hkept {t : Session V} (ht : t.flow = s.workflows w) :
      Review.parts { s with
        workflows := Function.update s.workflows w t.flow, verifier := t.verifier } =
        (s.cohort, s.workflows) := by
    rw [ht, Function.update_eq_self]
    rfl
  rw [run_workflowCall]
  rcases hresult : p.run ⟨s.workflows w, s.verifier⟩ with ⟨e | a, t⟩ <;> rw [hresult] at hrun
  · exact hkept hrun
  · exact ⟨hkept hrun.1, hrun.2⟩

/-- What an authority of the cohort was accepted for. -/
structure Empowers (verify : Option ι → ArtifactSnapshot → V → Verdict × V) (operation : String)
    (authority : ArtifactSnapshot) (payload : Object) : Prop where
  data : authority.data = .ok payload
  approved : payload.get "approved" = .bool true
  forOperation : payload.get "operation" = .str operation
  accepted : Accepted (verify none) authority

lemma guard_authorityFor {authority : ArtifactSnapshot} {operation : String} :
    CohortGuard c flows (authorityFor verify authority operation)
      (Empowers verify operation authority) := by
  refine Program.Reads.bind guard_cohortRequire fun _ _ => ?_
  refine Program.Reads.bind guard_cohortExcept fun payload hdata => ?_
  refine Program.Reads.bind guard_confirm fun _ haccepted => ?_
  refine Program.Reads.bind guard_cohortRequire fun _ happroved => Program.Reads.pure ?_
  rw [Bool.and_eq_true] at happroved
  exact ⟨hdata, Value.is_bool.mp happroved.1, Value.eq_str.mp happroved.2, haccepted⟩

lemma nextPosition_eq_ok {v : Value} : c.nextPosition = .ok v ↔
    c.order[c.closed.length]? = some v := by
  unfold CohortWorkflow.nextPosition
  cases c.order[c.closed.length]? <;> simp

/-! ### Opening and recording a bundle -/

/-- What `open_bundle` found. -/
structure Openable (verify : Option ι → ArtifactSnapshot → V → Verdict × V)
    (c : CohortWorkflow ι) (flows : ι → BundleWorkflow) (w : ι) (authority : ArtifactSnapshot) :
    Prop where
  idle : c.current = none
  frozen : (flows w).state = .frozen
  empowered : ∃ payload, Empowers verify "bundle_open" authority payload ∧
    (flows w).binding.check payload = .ok () ∧
    ∃ n position, payload.get "private_manifest_position" = .int n ∧
      c.order[c.closed.length]? = some position ∧ (Value.int n).eq position = true

lemma guard_openChecks {authority : ArtifactSnapshot} :
    CohortGuard c flows (openChecks verify w authority)
      fun _ => Openable verify c flows w authority := by
  refine Program.Reads.bind guard_cohort fun c' hc => ?_
  subst hc
  refine Program.Reads.bind guard_cohortRequire fun _ hidle => ?_
  refine Program.Reads.bind guard_cohortRequire fun _ _ => ?_
  refine Program.Reads.bind guard_workflow fun f hf => ?_
  subst hf
  refine Program.Reads.bind guard_cohortRequire fun _ hfrozen => ?_
  refine Program.Reads.bind guard_authorityFor fun payload hpayload => ?_
  refine Program.Reads.bind guard_cohortExcept fun _ hbound => ?_
  refine Program.Reads.bind guard_cohortExcept fun position hnext => ?_
  refine Program.Reads.bind guard_cohortRequire fun _ hposition => ?_
  refine (guard_confirmClosures _).mono fun _ _ => ?_
  rw [Bool.and_eq_true] at hposition
  obtain ⟨n, hn⟩ := Value.isInt_iff.mp hposition.1
  refine ⟨Option.isNone_iff_eq_none.mp hidle, of_decide_eq_true hfrozen, payload, hpayload, hbound,
    n, position, hn, nextPosition_eq_ok.mp hnext, ?_⟩
  rw [← hn]
  exact hposition.2

/-- What `record_terminal` found. -/
structure Recordable (c : CohortWorkflow ι) (flows : ι → BundleWorkflow) (w : ι)
    (closure : ArtifactSnapshot) : Prop where
  isCurrent : c.current = some w
  isClosed : (flows w).closure = some closure
  position : ∃ payload v position, closure.data = .ok payload ∧
    payload.get "frozen_manifest_position" = v ∧ c.order[c.closed.length]? = some position ∧
      v.eq position = true

lemma guard_terminalChecks [DecidableEq ι] :
    CohortGuard c flows (terminalChecks verify w) (Recordable c flows w) := by
  refine Program.Reads.bind guard_cohort fun c' hc => ?_
  subst hc
  refine Program.Reads.bind guard_cohortRequire fun _ hcurrent => ?_
  refine Program.Reads.bind guard_workflow fun f hf => ?_
  subst hf
  refine Program.Reads.bind guard_cohortRequire fun _ _ => ?_
  refine Program.Reads.bind (guard_workflowCall guard_verifyFrozen) fun _ _ => ?_
  refine Program.Reads.bind guard_cohortExcept fun closure hclosure => ?_
  refine Program.Reads.bind guard_confirm fun _ _ => ?_
  refine Program.Reads.bind guard_cohortExcept fun payload hdata => ?_
  refine Program.Reads.bind guard_cohortExcept fun v hv => ?_
  refine Program.Reads.bind guard_cohortExcept fun position hnext => ?_
  refine Program.Reads.bind guard_cohortRequire fun _ hposition => Program.Reads.pure ?_
  exact ⟨of_decide_eq_true hcurrent, asserted_eq_ok.mp hclosure, payload, v, position, hdata,
    Object.get_of_item hv, nextPosition_eq_ok.mp hnext, hposition⟩

/-! ### The aggregate and its review -/

lemma guard_requireAggregateAuthority {authority : ArtifactSnapshot} :
    CohortGuard c flows (requireAggregateAuthority verify authority)
      fun _ => c.closed.length = 6 ∧ c.current = none := by
  refine Program.Reads.bind guard_cohort fun c' hc => ?_
  subst hc
  refine Program.Reads.bind guard_cohortRequire fun _ hclosed => ?_
  refine Program.Reads.bind guard_authorityFor fun _ _ => ?_
  refine (guard_confirmClosures _).mono fun _ _ => ?_
  rw [Bool.and_eq_true] at hclosed
  exact ⟨of_decide_eq_true hclosed.1, Option.isNone_iff_eq_none.mp hclosed.2⟩

/-- What `record_aggregate_completion` found. -/
structure Aggregable (c : CohortWorkflow ι) (artifact : ArtifactSnapshot) : Prop where
  six : c.closed.length = 6
  idle : c.current = none
  unfixed : c.aggregate = none
  closures : artifact.Names "terminal_bundle_closure_hashes" (.strs c.closureHashes)

lemma guard_aggregateChecks {artifact authority : ArtifactSnapshot} :
    CohortGuard c flows (aggregateChecks verify artifact authority)
      fun _ => Aggregable c artifact := by
  refine Program.Reads.bind guard_requireAggregateAuthority fun _ hclosed => ?_
  refine Program.Reads.bind guard_cohort fun c' hc => ?_
  subst hc
  refine Program.Reads.bind guard_cohortRequire fun _ hunfixed => ?_
  refine Program.Reads.bind guard_cohortRequire fun _ _ => ?_
  refine Program.Reads.bind guard_cohortExcept fun payload hdata => ?_
  refine Program.Reads.bind guard_confirm fun _ _ => ?_
  refine guard_cohortRequire.mono fun _ hclosures => ?_
  exact ⟨hclosed.1, hclosed.2, Option.isNone_iff_eq_none.mp hunfixed, payload, hdata,
    Value.eq_strs.mp hclosures⟩

/-- An approved review that names the aggregate. -/
structure Reviews (receipt aggregate : ArtifactSnapshot) : Prop where
  aggregate : receipt.Names "aggregate_artifact_sha256" (.str aggregate.sha256)
  approved : receipt.Names "approved" (.bool true)
  reviewer : ∃ v : Value, receipt.Names "reviewer" v ∧ v.truthy = true

lemma guard_reviewChecks {receipt : ArtifactSnapshot} :
    CohortGuard c flows (reviewChecks verify receipt) fun _ =>
      c.aggregateReview = none ∧ ∃ a, c.aggregate = some a ∧ Reviews receipt a := by
  refine Program.Reads.bind guard_cohort fun c' hc => ?_
  subst hc
  refine Program.Reads.bind guard_cohortRequire fun _ _ => ?_
  refine Program.Reads.bind guard_cohortRequire fun _ hunfixed => ?_
  refine Program.Reads.bind guard_cohortRequire fun _ _ => ?_
  refine Program.Reads.bind guard_cohortExcept fun payload hdata => ?_
  refine Program.Reads.bind guard_confirm fun _ _ => ?_
  refine Program.Reads.bind guard_cohortExcept fun aggregate haggregate => ?_
  refine Program.Reads.bind guard_cohortRequire fun _ hlink => ?_
  refine guard_cohortRequire.mono fun _ happroved => ?_
  rw [Bool.and_eq_true] at happroved
  refine ⟨Option.isNone_iff_eq_none.mp hunfixed, aggregate, asserted_eq_ok.mp haggregate, ?_⟩
  exact ⟨⟨payload, hdata, Value.eq_str.mp hlink⟩,
    ⟨payload, hdata, Value.is_bool.mp happroved.1⟩, _, ⟨payload, hdata, rfl⟩, happroved.2⟩

lemma guard_requireJudgeAuthority {authority : ArtifactSnapshot} :
    CohortGuard c flows (requireJudgeAuthority verify authority) fun _ =>
      ∃ a r, c.aggregate = some a ∧ c.aggregateReview = some r := by
  refine Program.Reads.bind guard_cohort fun c' hc => ?_
  subst hc
  refine Program.Reads.bind guard_cohortRequire fun _ _ => ?_
  refine Program.Reads.bind guard_cohortExcept fun aggregate haggregate => ?_
  refine Program.Reads.bind guard_cohortExcept fun aggregateReview hreview => ?_
  refine Program.Reads.bind guard_cohortExcept fun _ _ => ?_
  refine Program.Reads.bind guard_cohortExcept fun _ _ => ?_
  refine Program.Reads.bind guard_confirm fun _ _ => ?_
  refine Program.Reads.bind guard_confirm fun _ _ => ?_
  refine Program.Reads.bind guard_authorityFor fun _ _ => Program.Reads.pure ?_
  exact ⟨aggregate, aggregateReview, asserted_eq_ok.mp haggregate, asserted_eq_ok.mp hreview⟩

/-! ## Steps -/

/-- A call on the cohort that returned, with the cohort it left. -/
inductive CohortStep (verify : Option ι → ArtifactSnapshot → V → Verdict × V)
    (c : CohortWorkflow ι) (flows : ι → BundleWorkflow) : CohortCall ι → CohortWorkflow ι → Prop
  | opened {w : ι} {authority : ArtifactSnapshot} (h : Openable verify c flows w authority) :
      CohortStep verify c flows (.openBundle w authority) { c with current := some w }
  | recorded {w : ι} {closure : ArtifactSnapshot} (h : Recordable c flows w closure) :
      CohortStep verify c flows (.recordTerminal w)
        { c with closed := c.closed ++ [closure], current := none }
  | authorized {authority : ArtifactSnapshot} :
      CohortStep verify c flows (.requireAggregateAuthority authority) c
  | aggregated {artifact authority : ArtifactSnapshot} (h : Aggregable c artifact) :
      CohortStep verify c flows (.recordAggregateCompletion artifact authority)
        { c with aggregate := some artifact }
  | reviewed {receipt aggregate : ArtifactSnapshot} (h : c.aggregate = some aggregate)
      (hreviews : Reviews receipt aggregate) :
      CohortStep verify c flows (.recordAggregateReview receipt)
        { c with aggregateReview := some receipt }
  | judged {authority aggregate receipt : ArtifactSnapshot} (h : c.aggregate = some aggregate)
      (hreview : c.aggregateReview = some receipt) :
      CohortStep verify c flows (.requireJudgeAuthority authority) c

/-- From the cohort `c` the call takes its step, or raises and changes nothing. -/
abbrev CohortTakes (verify : Option ι → ArtifactSnapshot → V → Verdict × V)
    (c : CohortWorkflow ι) (flows : ι → BundleWorkflow) (call : CohortCall ι)
    (p : CohortOp ι V Unit) : Prop :=
  Triple (fun s => s.parts = (c, flows)) p
    (fun _ s => CohortStep verify c flows call s.cohort ∧ s.workflows = flows)
    fun _ s => s.parts = (c, flows)

lemma takes_cohortAssign {call : CohortCall ι} {change : CohortWorkflow ι → CohortWorkflow ι}
    (h : CohortStep verify c flows call (change c)) :
    CohortTakes verify c flows call (CohortOp.assign change) := by
  intro s hs
  obtain ⟨rfl, rfl⟩ := Prod.mk.inj hs
  exact ⟨h, rfl⟩

/-- A call that only checks. -/
lemma takes_of_guard {call : CohortCall ι} {p : CohortOp ι V Unit} {A : Prop}
    (hp : CohortGuard c flows p fun _ => A) (h : A → CohortStep verify c flows call c) :
    CohortTakes verify c flows call p := by
  refine hp.conseq (fun _ hs => hs) (fun _ s hs => ?_) fun _ _ hs => hs
  obtain ⟨hparts, hA⟩ := hs
  obtain ⟨rfl, rfl⟩ := Prod.mk.inj hparts
  exact ⟨h hA, rfl⟩

lemma takes_cohortOp [DecidableEq ι] (call : CohortCall ι) :
    CohortTakes verify c flows call (call.op verify) := by
  cases call with
  | openBundle w authority =>
      exact guard_openChecks.triple (fun _ h => takes_cohortAssign (.opened h)) fun _ _ hs => hs
  | recordTerminal w =>
      exact guard_terminalChecks.triple (fun closure h => takes_cohortAssign (.recorded h))
        fun _ _ hs => hs
  | requireAggregateAuthority authority =>
      exact takes_of_guard guard_requireAggregateAuthority fun _ => .authorized
  | recordAggregateCompletion artifact authority =>
      exact guard_aggregateChecks.triple (fun _ h => takes_cohortAssign (.aggregated h))
        fun _ _ hs => hs
  | recordAggregateReview receipt =>
      refine guard_reviewChecks.triple (fun _ h => ?_) fun _ _ hs => hs
      obtain ⟨-, aggregate, haggregate, hreviews⟩ := h
      exact takes_cohortAssign (.reviewed haggregate hreviews)
  | requireJudgeAuthority authority =>
      refine takes_of_guard guard_requireJudgeAuthority fun h => ?_
      obtain ⟨aggregate, receipt, haggregate, hreview⟩ := h
      exact .judged haggregate hreview

/-- A call on the cohort takes its step, or raises and changes nothing. -/
lemma cohort_next [DecidableEq ι] (verify : Option ι → ArtifactSnapshot → V → Verdict × V)
    (s : Review ι V) (call : CohortCall ι) :
    (((cohorts verify).out s (.cohort call) = .ok () ∧
        CohortStep verify s.cohort s.workflows call
          ((cohorts verify).next s (.cohort call)).cohort) ∨
      ((cohorts verify).out s (.cohort call) ≠ .ok () ∧
        ((cohorts verify).next s (.cohort call)).cohort = s.cohort)) ∧
      ((cohorts verify).next s (.cohort call)).workflows = s.workflows := by
  have htakes : CohortTakes verify s.cohort s.workflows call (call.op verify) :=
    takes_cohortOp call
  have hrun := htakes s rfl
  change ((((call.op verify).run s).1 = .ok () ∧
    CohortStep verify s.cohort s.workflows call ((call.op verify).run s).2.cohort) ∨
    (((call.op verify).run s).1 ≠ .ok () ∧ ((call.op verify).run s).2.cohort = s.cohort)) ∧
    ((call.op verify).run s).2.workflows = s.workflows
  rcases hcall : (call.op verify).run s with ⟨e | _, t⟩ <;> rw [hcall] at hrun
  · obtain ⟨hcohort, hworkflows⟩ := Prod.mk.inj hrun
    exact ⟨.inr ⟨nofun, hcohort⟩, hworkflows⟩
  · exact ⟨.inl ⟨rfl, hrun.1⟩, hrun.2⟩

/-- A call on a workflow keeps its invariant and its closure. -/
lemma closure_next {verify : ArtifactSnapshot → V → Verdict × V} {s : Session V}
    (hs : s.flow.Inv verify) (call : FlowCall) :
    ((workflows verify).next s (.call call)).flow.Inv verify ∧ ∀ a, s.flow.closure = some a →
      ((workflows verify).next s (.call call)).flow.closure = some a := by
  refine ⟨preserved_inv s (.call call) hs, fun a ha => ?_⟩
  have hnext : ((workflows verify).next s (.call call)).flow = s.flow ∨
      ∃ c, FlowInput.call call = .call c ∧
        FlowStep verify s.flow c ((workflows verify).next s (.call call)).flow :=
    flow_next hs.shaped (.call call)
  rcases hnext with hsame | ⟨_, -, hstep⟩
  · rw [hsame]
    exact ha
  · exact (extends_step hs.shaped hstep).closure a ha

/-- A call on a workflow steps that workflow and leaves the cohort and the others alone. -/
lemma workflow_next [DecidableEq ι] (hs : (s.workflows w).Inv (verify (some w))) (call : FlowCall) :
    ((cohorts verify).next s (.workflow w call)).cohort = s.cohort ∧
      ∃ g : BundleWorkflow, g.Inv (verify (some w)) ∧
        (∀ a, (s.workflows w).closure = some a → g.closure = some a) ∧
        ((cohorts verify).next s (.workflow w call)).workflows =
          Function.update s.workflows w g := by
  let session : Session V := ⟨s.workflows w, s.verifier⟩
  have hinv : session.flow.Inv (verify (some w)) := hs
  obtain ⟨hnext, hclosure⟩ := closure_next hinv call
  exact ⟨rfl, _, hnext, hclosure, rfl⟩

/-! ## The invariant -/

/-- The recorded closures are those of the workflows `recorded`, in their positions, and what is
fixed after them names them. -/
structure Review.Inv (verify : Option ι → ArtifactSnapshot → V → Verdict × V) (s : Review ι V)
    (recorded : List ι) : Prop where
  order : s.cohort.order = frozenOrder
  workflows : ∀ w, (s.workflows w).Inv (verify (some w))
  closures : List.Forall₂ (fun w closure => (s.workflows w).closure = some closure) recorded
    s.cohort.closed
  once : (recorded ++ s.cohort.current.toList).Nodup
  positions : ∀ (i : ℕ) closure, s.cohort.closed[i]? = some closure →
    closure.Names "frozen_manifest_position" (.int (i + 1))
  six : s.cohort.closed.length ≤ 6
  unopened : s.cohort.current.isSome → s.cohort.closed.length < 6
  aggregate : ∀ a, s.cohort.aggregate = some a → s.cohort.closed.length = 6 ∧
    s.cohort.current = none ∧
      a.Names "terminal_bundle_closure_hashes" (.strs s.cohort.closureHashes)
  review : ∀ r, s.cohort.aggregateReview = some r →
    ∃ a, s.cohort.aggregate = some a ∧ Reviews r a

variable {recorded : List ι} {t : Review ι V}

/-- Nothing changed in the cohort, and every closure is where it was. -/
lemma Review.Inv.of_workflows (hs : s.Inv verify recorded) (hcohort : t.cohort = s.cohort)
    (hworkflows : ∀ w, (t.workflows w).Inv (verify (some w)))
    (hclosure : ∀ w a, (s.workflows w).closure = some a → (t.workflows w).closure = some a) :
    t.Inv verify recorded where
  order := by rw [hcohort, hs.order]
  workflows := hworkflows
  closures := by
    rw [hcohort]
    exact hs.closures.imp fun w a h => hclosure w a h
  once := by rw [hcohort]; exact hs.once
  positions := by rw [hcohort]; exact hs.positions
  six := by rw [hcohort]; exact hs.six
  unopened := by rw [hcohort]; exact hs.unopened
  aggregate := by rw [hcohort]; exact hs.aggregate
  review := by rw [hcohort]; exact hs.review

/-- The position a cohort asks for next. -/
lemma Review.Inv.next_position (hs : s.Inv verify recorded) {position : Value}
    (h : s.cohort.order[s.cohort.closed.length]? = some position) :
    s.cohort.closed.length < 6 ∧ position = .int (s.cohort.closed.length + 1) := by
  rw [hs.order] at h
  exact frozenOrder_getElem? h

/-- A frozen workflow was not recorded. -/
lemma Review.Inv.not_recorded (hs : s.Inv verify recorded)
    (hfrozen : (s.workflows w).state = .frozen) : w ∉ recorded := by
  intro hmem
  obtain ⟨i, hi, hget⟩ := List.getElem_of_mem hmem
  have hclosure := hs.closures.get hi (hs.closures.length_eq ▸ hi)
  simp only [List.get_eq_getElem] at hclosure
  rw [hget] at hclosure
  have hterminal := (hs.workflows w).shaped.closure
  rw [hclosure, hfrozen] at hterminal
  cases hterminal

lemma Review.Inv.no_aggregate (hs : s.Inv verify recorded) (h : s.cohort.closed.length < 6) :
    s.cohort.aggregate = none := by
  by_contra hne
  obtain ⟨a, ha⟩ := Option.ne_none_iff_exists'.mp hne
  have hsix := (hs.aggregate a ha).1
  omega

lemma inv_opened {authority : ArtifactSnapshot} (hs : s.Inv verify recorded)
    (h : Openable verify s.cohort s.workflows w authority)
    (hcohort : t.cohort = { s.cohort with current := some w })
    (hworkflows : t.workflows = s.workflows) : t.Inv verify recorded := by
  obtain ⟨payload, -, -, n, position, -, hnext, -⟩ := h.empowered
  have hopen := (hs.next_position hnext).1
  have hnone := hs.no_aggregate hopen
  refine ⟨by rw [hcohort, hs.order], by rw [hworkflows]; exact hs.workflows, ?_, ?_, ?_, ?_, ?_,
    ?_, ?_⟩
  · rw [hcohort, hworkflows]
    exact hs.closures
  · have hold : recorded.Nodup := hs.once.sublist (List.sublist_append_left ..)
    rw [hcohort]
    refine List.nodup_append.mpr ⟨hold, List.nodup_singleton w, ?_⟩
    rintro v hv u hu rfl
    rw [Option.toList_some, List.mem_singleton] at hu
    exact hs.not_recorded h.frozen (hu ▸ hv)
  · rw [hcohort]
    exact hs.positions
  · rw [hcohort]
    exact hs.six
  · rw [hcohort]
    exact fun _ => hopen
  · intro a ha
    rw [hcohort] at ha
    exact absurd (hnone.symm.trans ha) nofun
  · rw [hcohort]
    exact hs.review

/-- The closure of a workflow carries an integer. -/
lemma Recordable.names {closure : ArtifactSnapshot} (hs : s.Inv verify recorded)
    (h : Recordable s.cohort s.workflows w closure) : s.cohort.closed.length < 6 ∧
      closure.Names "frozen_manifest_position" (.int (s.cohort.closed.length + 1)) := by
  obtain ⟨payload, v, position, hdata, hv, hnext, heq⟩ := h.position
  obtain ⟨hopen, rfl⟩ := hs.next_position hnext
  obtain ⟨payload', hvalid, -⟩ := (hs.workflows w).linked.closure closure h.isClosed
  obtain rfl := Except.ok.inj (hdata.symm.trans hvalid.data)
  obtain ⟨n, hn⟩ := position_of_schema hvalid.schema
  rw [← hv, hn] at heq
  refine ⟨hopen, payload, hdata, ?_⟩
  rw [hn, Value.int_eq_int.mp heq]

lemma inv_recorded {closure : ArtifactSnapshot} (hs : s.Inv verify recorded)
    (h : Recordable s.cohort s.workflows w closure)
    (hcohort : t.cohort =
      { s.cohort with closed := s.cohort.closed ++ [closure], current := none })
    (hworkflows : t.workflows = s.workflows) : t.Inv verify (recorded ++ [w]) := by
  obtain ⟨hopen, hnames⟩ := h.names hs
  have hnone := hs.no_aggregate hopen
  refine ⟨by rw [hcohort, hs.order], by rw [hworkflows]; exact hs.workflows, ?_, ?_, ?_, ?_, ?_,
    ?_, ?_⟩
  · rw [hcohort, hworkflows]
    exact List.rel_append hs.closures (.cons h.isClosed .nil)
  · have honce := hs.once
    rw [h.isCurrent] at honce
    rw [hcohort, Option.toList_none, List.append_nil]
    exact honce
  · intro i a ha
    rw [hcohort] at ha
    rcases getElem?_concat ha with hold | ⟨rfl, rfl⟩
    · exact hs.positions i a hold
    · exact hnames
  · rw [hcohort, List.length_append, List.length_singleton]
    omega
  · rw [hcohort]
    nofun
  · intro a ha
    rw [hcohort] at ha
    exact absurd (hnone.symm.trans ha) nofun
  · rw [hcohort]
    exact hs.review

lemma inv_cohort_step {call : CohortCall ι} (hs : s.Inv verify recorded)
    (h : CohortStep verify s.cohort s.workflows call t.cohort)
    (hworkflows : t.workflows = s.workflows) : ∃ recorded, t.Inv verify recorded := by
  have hsame : t.cohort = s.cohort → t.Inv verify recorded := fun hcohort =>
    hs.of_workflows hcohort (hworkflows ▸ hs.workflows) fun w a ha => by rw [hworkflows, ha]
  generalize hcohort : t.cohort = d at h
  cases h with
  | opened h => exact ⟨recorded, inv_opened hs h hcohort hworkflows⟩
  | recorded h => exact ⟨_, inv_recorded hs h hcohort hworkflows⟩
  | authorized => exact ⟨recorded, hsame hcohort⟩
  | judged => exact ⟨recorded, hsame hcohort⟩
  | aggregated h =>
      have hunreviewed : s.cohort.aggregateReview = none := by
        by_contra hne
        obtain ⟨r, hr⟩ := Option.ne_none_iff_exists'.mp hne
        obtain ⟨a, ha, -⟩ := hs.review r hr
        exact absurd (h.unfixed.symm.trans ha) nofun
      refine ⟨recorded, by rw [hcohort, hs.order], by rw [hworkflows]; exact hs.workflows, ?_, ?_,
        ?_, ?_, ?_, ?_, ?_⟩ <;> rw [hcohort]
      · rw [hworkflows]
        exact hs.closures
      · exact hs.once
      · exact hs.positions
      · exact hs.six
      · exact hs.unopened
      · intro a ha
        obtain rfl := Option.some.inj ha
        exact ⟨h.six, h.idle, h.closures⟩
      · intro r hr
        exact absurd (hunreviewed.symm.trans hr) nofun
  | reviewed haggregate hreviews =>
      refine ⟨recorded, by rw [hcohort, hs.order], by rw [hworkflows]; exact hs.workflows, ?_, ?_,
        ?_, ?_, ?_, ?_, ?_⟩ <;> rw [hcohort]
      · rw [hworkflows]
        exact hs.closures
      · exact hs.once
      · exact hs.positions
      · exact hs.six
      · exact hs.unopened
      · exact hs.aggregate
      · intro r hr
        obtain rfl := Option.some.inj hr
        exact ⟨_, haggregate, hreviews⟩

lemma inv_workflow_step [DecidableEq ι] (hs : s.Inv verify recorded) (w : ι) (call : FlowCall) :
    ((cohorts verify).next s (.workflow w call)).Inv verify recorded := by
  obtain ⟨hcohort, g, hg, hclosure, hworkflows⟩ := workflow_next (hs.workflows w) call
  refine hs.of_workflows hcohort (fun v => ?_) fun v a ha => ?_
  · rw [hworkflows]
    by_cases hv : v = w
    · subst hv
      rw [Function.update_self]
      exact hg
    · rw [Function.update_of_ne hv]
      exact hs.workflows v
  · rw [hworkflows]
    by_cases hv : v = w
    · subst hv
      rw [Function.update_self]
      exact hclosure a ha
    · rw [Function.update_of_ne hv]
      exact ha

/-! ## Runs -/

/-- A step of a run of a cohort. -/
abbrev CohortStage (ι V : Type) := Stage (Review ι V) (CohortInput ι V) (Except Raised Unit)

/-- The call opened the workflow at the position after the closures recorded so far. -/
structure Opens (verify : Option ι → ArtifactSnapshot → V → Verdict × V) (e : CohortStage ι V)
    (w : ι) (authority : ArtifactSnapshot) : Prop where
  isCall : e.input = .cohort (.openBundle w authority)
  returned : e.output = .ok ()
  idle : e.before.cohort.current = none
  frozen : (e.before.workflows w).state = .frozen
  position : authority.Names "private_manifest_position"
    (.int (e.before.cohort.closed.length + 1))
  approved : authority.Names "approved" (.bool true)
  operation : authority.Names "operation" (.str "bundle_open")
  accepted : Accepted (verify none) authority

/-- What holds of a review after these stages. -/
structure Gated (verify : Option ι → ArtifactSnapshot → V → Verdict × V)
    (stages : List (CohortStage ι V)) (s : Review ι V) : Prop where
  inv : ∃ recorded, s.Inv verify recorded
  opened : ∀ w, s.cohort.current = some w → ∃ authority, ∃ e ∈ stages,
    Opens verify e w authority ∧ e.before.cohort.closed = s.cohort.closed
  reviewed : ∀ r, s.cohort.aggregateReview = some r → ∃ e ∈ stages,
    e.input = .cohort (.recordAggregateReview r) ∧ e.output = .ok ()

variable {stages : List (CohortStage ι V)} {e : CohortStage ι V}

/-- A stage that changed neither the open bundle, the closures nor the review. -/
lemma Gated.keep (hs : Gated verify stages s) (hinv : ∃ recorded, t.Inv verify recorded)
    (hcurrent : t.cohort.current = s.cohort.current) (hclosed : t.cohort.closed = s.cohort.closed)
    (hreview : t.cohort.aggregateReview = s.cohort.aggregateReview) :
    Gated verify (stages ++ [e]) t where
  inv := hinv
  opened := fun w hw => by
    obtain ⟨authority, d, hd, hopens, heq⟩ := hs.opened w (hcurrent ▸ hw)
    exact ⟨authority, d, List.mem_append_left _ hd, hopens, heq.trans hclosed.symm⟩
  reviewed := fun r hr => by
    obtain ⟨d, hd, hreviewed⟩ := hs.reviewed r (hreview ▸ hr)
    exact ⟨d, List.mem_append_left _ hd, hreviewed⟩

lemma opens_of_openable {authority : ArtifactSnapshot} (hs : e.before.Inv verify recorded)
    (hcall : e.input = .cohort (.openBundle w authority)) (hreturned : e.output = .ok ())
    (h : Openable verify e.before.cohort e.before.workflows w authority) :
    Opens verify e w authority := by
  obtain ⟨payload, hpayload, -, n, position, hn, hnext, heq⟩ := h.empowered
  obtain ⟨-, rfl⟩ := hs.next_position hnext
  refine ⟨hcall, hreturned, h.idle, h.frozen, ⟨payload, hpayload.data, ?_⟩,
    ⟨payload, hpayload.data, hpayload.approved⟩, ⟨payload, hpayload.data, hpayload.forOperation⟩,
    hpayload.accepted⟩
  rw [hn, Value.int_eq_int.mp heq]

lemma gated_step [DecidableEq ι] (hs : Gated verify stages s) (a : CohortInput ι V) :
    Gated verify (stages ++ [(cohorts verify).stage s a]) ((cohorts verify).next s a) := by
  obtain ⟨recorded, hinv⟩ := hs.inv
  cases a with
  | verifier change =>
      exact hs.keep ⟨recorded, hinv.of_workflows rfl hinv.workflows fun _ _ ha => ha⟩ rfl rfl rfl
  | workflow w call => exact hs.keep ⟨recorded, inv_workflow_step hinv w call⟩ rfl rfl rfl
  | cohort call =>
      obtain ⟨hcohort, hworkflows⟩ := cohort_next verify s call
      have hnew : (cohorts verify).stage s (.cohort call) ∈
          stages ++ [(cohorts verify).stage s (.cohort call)] :=
        List.mem_append_right _ (List.mem_singleton_self _)
      rcases hcohort with ⟨hreturned, hstep⟩ | ⟨-, hsame⟩
      · have hkept := inv_cohort_step hinv hstep hworkflows
        generalize hafter : ((cohorts verify).next s (.cohort call)).cohort = after at hstep
        cases hstep with
        | @opened w authority h =>
            have hopens := opens_of_openable (e := (cohorts verify).stage s
              (.cohort (.openBundle w authority))) hinv rfl hreturned h
            refine ⟨hkept, fun v hv => ?_, fun r hr => ?_⟩
            · rw [hafter] at hv
              obtain rfl := Option.some.inj hv
              exact ⟨authority, _, hnew, hopens, by rw [hafter]; rfl⟩
            · rw [hafter] at hr
              obtain ⟨d, hd, hreviewed⟩ := hs.reviewed r hr
              exact ⟨d, List.mem_append_left _ hd, hreviewed⟩
        | recorded h =>
            refine ⟨hkept, fun v hv => ?_, fun r hr => ?_⟩
            · rw [hafter] at hv
              cases hv
            · rw [hafter] at hr
              obtain ⟨d, hd, hreviewed⟩ := hs.reviewed r hr
              exact ⟨d, List.mem_append_left _ hd, hreviewed⟩
        | authorized => exact hs.keep hkept (by rw [hafter]) (by rw [hafter]) (by rw [hafter])
        | judged => exact hs.keep hkept (by rw [hafter]) (by rw [hafter]) (by rw [hafter])
        | aggregated => exact hs.keep hkept (by rw [hafter]) (by rw [hafter]) (by rw [hafter])
        | reviewed =>
            refine ⟨hkept, fun v hv => ?_, fun r hr => ?_⟩
            · rw [hafter] at hv ⊢
              obtain ⟨authority, d, hd, hopens, heq⟩ := hs.opened v hv
              exact ⟨authority, d, List.mem_append_left _ hd, hopens, heq⟩
            · rw [hafter] at hr
              obtain rfl := Option.some.inj hr
              exact ⟨_, hnew, rfl, hreturned⟩
      · have hkept : ((cohorts verify).next s (.cohort call)).Inv verify recorded :=
          hinv.of_workflows hsame (hworkflows ▸ hinv.workflows) fun w a ha => by
            rw [hworkflows, ha]
        exact hs.keep ⟨recorded, hkept⟩ (by rw [hsame]) (by rw [hsame]) (by rw [hsame])

/-- A new cohort and workflows as they are built. -/
lemma gated_initial (hbuilt : ∀ w, Built (flows w)) (v : V) :
    Gated verify [] ⟨{ order := frozenOrder }, flows, v⟩ where
  inv := ⟨[], {
    order := rfl
    workflows := fun w => inv_of_built (hbuilt w)
    closures := .nil
    once := .nil
    positions := by nofun
    six := Nat.zero_le 6
    unopened := by nofun
    aggregate := by nofun
    review := by nofun }⟩
  opened := by nofun
  reviewed := by nofun

/-- What one step may do. -/
structure Lawful (e : CohortStage ι V) : Prop where
  judged : ∀ authority, e.input = .cohort (.requireJudgeAuthority authority) →
    e.output = .ok () → ∃ a r, e.before.cohort.aggregate = some a ∧
      e.before.cohort.aggregateReview = some r ∧ Reviews r a
  unchanged : ∀ call error, e.input = .cohort call → e.output = .error error →
    e.after.cohort = e.before.cohort ∧ e.after.workflows = e.before.workflows
  driven : ∀ w call, e.input = .workflow w call → e.after.cohort = e.before.cohort

lemma lawful_stage [DecidableEq ι] (hs : s.Inv verify recorded) (a : CohortInput ι V) :
    Lawful ((cohorts verify).stage s a) where
  judged authority hcall hreturned := by
    obtain rfl : a = _ := hcall
    obtain ⟨⟨-, hstep⟩ | ⟨hraised, -⟩, -⟩ := cohort_next verify s
      (.requireJudgeAuthority authority)
    · generalize ((cohorts verify).next s _).cohort = after at hstep
      cases hstep with
      | judged haggregate hreview =>
          obtain ⟨a, ha, hreviews⟩ := hs.review _ hreview
          exact ⟨a, _, ha, hreview, hreviews⟩
    · exact absurd hreturned hraised
  unchanged call error hcall hraised := by
    obtain rfl : a = _ := hcall
    obtain ⟨⟨hreturned, -⟩ | ⟨-, hsame⟩, hworkflows⟩ := cohort_next verify s call
    · exact absurd (hreturned.symm.trans hraised) nofun
    · exact ⟨hsame, hworkflows⟩
  driven w call hcall := by
    obtain rfl : a = _ := hcall
    rfl

/-! ## Results -/

/-- In every run of a cohort, whatever is done with the workflows and whatever the verifiers
answer: before every step and after the last one the closures stand in their positions, the open
bundle was opened at the next one, and what is fixed after them names them; the judge is
authorized only after an approved review; and a call on the cohort that raises changes nothing. -/
theorem cohort_gated [DecidableEq ι] {bundleOrder : List Value}
    (hcreate : CohortWorkflow.create bundleOrder = .ok c) (hbuilt : ∀ w, Built (flows w)) (v : V)
    (inputs : List (CohortInput ι V)) :
    Gated verify ((cohorts verify).trace ⟨c, flows, v⟩ inputs)
        ((cohorts verify).run ⟨c, flows, v⟩ inputs) ∧
      ∀ xs e ys, (cohorts verify).trace ⟨c, flows, v⟩ inputs = xs ++ e :: ys →
        Gated verify xs e.before ∧ Lawful e := by
  obtain rfl := cohort_create_eq_ok hcreate
  have hstart : Gated verify [] ⟨{ order := frozenOrder }, flows, v⟩ := gated_initial hbuilt v
  have hgated := Machine.trace_induction (m := cohorts verify) hstart
    fun xs t a hs => gated_step hs a
  refine ⟨hgated inputs, fun xs e ys hsplit => ?_⟩
  obtain ⟨hbefore, hxs, hstep, -⟩ := (cohorts verify).trace_split hsplit
  have hs := hgated (xs.map Stage.input)
  rw [hxs, ← hbefore] at hs
  obtain ⟨recorded, hinv⟩ := hs.inv
  have he : e = (cohorts verify).stage e.before e.input := by
    have hafter : e.after = (cohorts verify).next e.before e.input := (congrArg Prod.fst hstep).symm
    have hout : e.output = (cohorts verify).out e.before e.input := (congrArg Prod.snd hstep).symm
    rw [Machine.stage, ← hafter, ← hout]
  rw [he] at hs ⊢
  exact ⟨hs, lawful_stage hinv e.input⟩

lemma built_reviewAfter (w : Fin 6) : Built ((reviewAfter 0).workflows w) := by
  have hfailure : ∀ w : Fin 6, isFailureId (failureId (w.val + 1)) = true := by decide +kernel
  have hpositive : (0 : ℤ) < w.val + 1 := by omega
  exact built_failedFlow hpositive (hfailure w)

/-- The sixth bundle was opened once five were closed, and the judge is authorized for an aggregate
that was reviewed. -/
theorem cohort_gated_sample :
    (∃ authority, ∃ e ∈ (cohorts acceptAll).trace (reviewAfter 0)
        (callsFor 5 ++ [.cohort (.openBundle 5 (authorityAt 5))]),
      Opens acceptAll e 5 authority ∧ e.before.cohort.closed = (reviewAfter 5).cohort.closed) ∧
    ∃ a r, reviewed.cohort.aggregate = some a ∧ reviewed.cohort.aggregateReview = some r ∧
      Reviews r a := by
  have hcreate : CohortWorkflow.create frozenOrder = .ok (reviewAfter 0).cohort := rfl
  have hopened : (cohorts acceptAll).run (reviewAfter 0)
      (callsFor 5 ++ [.cohort (.openBundle 5 (authorityAt 5))]) = opened 5 :=
    run_of_return _ (run_callsFor (by decide)) (run_open 5)
  constructor
  · have hgated : Gated acceptAll
        ((cohorts acceptAll).trace (reviewAfter 0)
          (callsFor 5 ++ [.cohort (.openBundle 5 (authorityAt 5))]))
        ((cohorts acceptAll).run (reviewAfter 0)
          (callsFor 5 ++ [.cohort (.openBundle 5 (authorityAt 5))])) :=
      (cohort_gated hcreate built_reviewAfter () _).1
    have hcurrent := (congrArg (·.cohort.current) hopened).trans (opened_current 5)
    have hclosures := (congrArg (·.cohort.closed) hopened).trans (opened_closed 5)
    obtain ⟨authority, e, he, hopens, hclosed⟩ := hgated.opened 5 hcurrent
    exact ⟨authority, e, he, hopens, hclosed.trans hclosures⟩
  · have hlawful := ((cohort_gated hcreate built_reviewAfter () (reviewCalls ++ [judgeCall])).2
      _ _ _ trace_judgeCall).2
    exact hlawful.judged _ rfl rfl

end CivicGate.Rq6
