import CivicGate.Rq6.Cohort
import CivicGate.Rq6.WorkflowSafety

/-!
# A cohort carried through

What a cohort guarantees would hold of one that refuses everything.  Here every verifier accepts,
and each operation whose demands are met returns and takes its step.  Six bundles that failed
before their mapping are opened, closed and recorded one after the other, their aggregate is
reviewed, and the judge is authorized.
-/

namespace CivicGate.Rq6

open Program

/-- Every verifier accepts. -/
def acceptAll {κ : Type} (_ : κ) (_ : ArtifactSnapshot) (v : Unit) : Verdict × Unit :=
  (.accepted, v)

/-! ## Steps of an operation -/

section

variable {ι V α β : Type} {s : Review ι V}

lemma run_cohort_bind (k : CohortWorkflow ι → CohortOp ι V α) :
    (CohortOp.self >>= k).run s = (k s.cohort).run s := rfl

lemma run_workflow_bind (w : ι) (k : BundleWorkflow → CohortOp ι V α) :
    (CohortOp.workflow w >>= k).run s = (k (s.workflows w)).run s := rfl

/-- A method of a workflow leaves the cohort and the other workflows. -/
lemma run_workflowCall [DecidableEq ι] {w : ι} {p : Op V α} :
    (CohortOp.call w p).run s = ((p.run ⟨s.workflows w, s.verifier⟩).1, { s with
      workflows := Function.update s.workflows w (p.run ⟨s.workflows w, s.verifier⟩).2.flow
      verifier := (p.run ⟨s.workflows w, s.verifier⟩).2.verifier }) := rfl

lemma cohortExcept_bind {x : Except Raised β} {b : β} {k : β → CohortOp ι V α} (h : x = .ok b) :
    CohortOp.ofExcept x >>= k = k b := by
  subst h
  rfl

lemma cohortRequire_bind {condition : Bool} {code : String} {k : Unit → CohortOp ι V α}
    (h : condition = true) : CohortOp.require condition code >>= k = k () := by
  subst h
  rfl

end

section

variable {ι α : Type} {s : Review ι Unit} {w : ι} {a : ArtifactSnapshot}
  {payload : Object} {operation : String}

lemma run_confirm_bind (k : Unit → CohortOp ι Unit α) :
    (confirm acceptAll a >>= k).run s = (k ()).run s := rfl

/-- Closures that can be read are confirmed. -/
lemma run_confirmClosures {closures : List ArtifactSnapshot}
    (h : ∀ c ∈ closures, ∃ payload, c.data = .ok payload) :
    (confirmClosures acceptAll closures).run s = (.ok (), s) := by
  induction closures with
  | nil => rfl
  | cons c rest ih =>
      obtain ⟨payload, hdata⟩ := h c List.mem_cons_self
      rw [confirmClosures, cohortExcept_bind hdata, run_confirm_bind]
      exact ih fun b hb => h b (List.mem_cons_of_mem _ hb)

/-- The artifact is an approved authority for the operation. -/
structure Authorizes (a : ArtifactSnapshot) (operation : String) (payload : Object) : Prop where
  kind : a.kind = "operation_authorization"
  data : a.data = .ok payload
  approved : ((payload.get "approved").is (.bool true) &&
    (payload.get "operation").eq (.str operation)) = true

lemma Authorizes.run_bind (h : Authorizes a operation payload)
    (k : Object → CohortOp ι Unit α) :
    (authorityFor acceptAll a operation >>= k).run s = (k payload).run s := by
  rw [authorityFor, bind_assoc, cohortRequire_bind (decide_eq_true h.kind), bind_assoc,
    cohortExcept_bind h.data, bind_assoc, run_confirm_bind, bind_assoc,
    cohortRequire_bind h.approved]
  rfl

/-! ## Operations that return -/

/-- The next bundle is opened. -/
lemma run_openBundle {position : Value} (hidle : s.cohort.current = none)
    (hroom : s.cohort.closed.length < s.cohort.order.length)
    (hfrozen : (s.workflows w).state = .frozen) (h : Authorizes a "bundle_open" payload)
    (hbound : (s.workflows w).binding.check payload = .ok ())
    (hnext : s.cohort.nextPosition = .ok position)
    (hposition : ((payload.get "private_manifest_position").isInt &&
      (payload.get "private_manifest_position").eq position) = true)
    (hclosed : ∀ c ∈ s.cohort.closed, ∃ payload, c.data = .ok payload) :
    (openBundle acceptAll w a).run s =
      (.ok (), { s with cohort := { s.cohort with current := some w } }) := by
  have hchecks : (openChecks acceptAll w a).run s = (.ok (), s) := by
    rw [openChecks, run_cohort_bind, cohortRequire_bind (by rw [hidle]; rfl),
      cohortRequire_bind (decide_eq_true hroom), run_workflow_bind,
      cohortRequire_bind (decide_eq_true hfrozen), h.run_bind, cohortExcept_bind hbound,
      cohortExcept_bind hnext, cohortRequire_bind hposition]
    exact run_confirmClosures hclosed
  rw [openBundle, run_bind_of_ok hchecks]
  rfl

/-- The closure of the open bundle is recorded. -/
lemma run_recordTerminal [DecidableEq ι] {closure : ArtifactSnapshot} {position expected : Value}
    (hcurrent : s.cohort.current = some w) (hterminal : (s.workflows w).state.isTerminal = true)
    (hclosure : (s.workflows w).closure = some closure)
    (hverified : (verifyFrozen (acceptAll (some w))).run ⟨s.workflows w, ()⟩ =
      (.ok (), ⟨s.workflows w, ()⟩))
    (hdata : closure.data = .ok payload)
    (hposition : payload.item "frozen_manifest_position" = .ok position)
    (hnext : s.cohort.nextPosition = .ok expected) (hexpected : position.eq expected = true) :
    (recordTerminal acceptAll w).run s = (.ok (), { s with
      cohort := { s.cohort with closed := s.cohort.closed ++ [closure], current := none } }) := by
  have hcall : (CohortOp.call w (verifyFrozen (acceptAll (some w)))).run s = (.ok (), s) := by
    rw [run_workflowCall, show s.verifier = () from rfl, hverified, Function.update_eq_self]
  have hchecks : (terminalChecks acceptAll w).run s = (.ok closure, s) := by
    rw [terminalChecks, run_cohort_bind, cohortRequire_bind (decide_eq_true hcurrent),
      run_workflow_bind, cohortRequire_bind (by rw [hterminal, hclosure]; rfl),
      run_bind_of_ok hcall, cohortExcept_bind (by rw [hclosure]; rfl), run_confirm_bind,
      cohortExcept_bind hdata, cohortExcept_bind hposition, cohortExcept_bind hnext,
      cohortRequire_bind hexpected]
    rfl
  rw [recordTerminal, run_bind_of_ok hchecks]
  rfl

lemma run_requireAggregateAuthority (hsix : s.cohort.closed.length = 6)
    (hidle : s.cohort.current = none) (h : Authorizes a "aggregate_analysis" payload)
    (hclosed : ∀ c ∈ s.cohort.closed, ∃ payload, c.data = .ok payload) :
    (requireAggregateAuthority acceptAll a).run s = (.ok (), s) := by
  rw [requireAggregateAuthority, run_cohort_bind,
    cohortRequire_bind (by rw [hidle, hsix]; rfl), h.run_bind]
  exact run_confirmClosures hclosed

/-- The completion of the aggregate is recorded. -/
lemma run_recordAggregateCompletion {r : ArtifactSnapshot} {completion : Object}
    (hauthority : (requireAggregateAuthority acceptAll a).run s = (.ok (), s))
    (hunfixed : s.cohort.aggregate = none) (hkind : r.kind = "aggregate_completion")
    (hdata : r.data = .ok completion)
    (hlink : (completion.get "terminal_bundle_closure_hashes").eq
      (.strs s.cohort.closureHashes) = true) :
    (recordAggregateCompletion acceptAll r a).run s =
      (.ok (), { s with cohort := { s.cohort with aggregate := some r } }) := by
  have hchecks : (aggregateChecks acceptAll r a).run s = (.ok (), s) := by
    rw [aggregateChecks, run_bind_of_ok hauthority, run_cohort_bind,
      cohortRequire_bind (by rw [hunfixed]; rfl), cohortRequire_bind (decide_eq_true hkind),
      cohortExcept_bind hdata, run_confirm_bind]
    exact congrArg (run · s) (congrArg CohortOp.ofExcept (require_eq_ok.mpr hlink))
  rw [recordAggregateCompletion, run_bind_of_ok hchecks]
  rfl

/-- The review of the aggregate is recorded. -/
lemma run_recordAggregateReview {r aggregate : ArtifactSnapshot} {review : Object}
    (haggregate : s.cohort.aggregate = some aggregate) (hunfixed : s.cohort.aggregateReview = none)
    (hkind : r.kind = "aggregate_human_review") (hdata : r.data = .ok review)
    (hlink : (review.get "aggregate_artifact_sha256").eq (.str aggregate.sha256) = true)
    (happroved : ((review.get "approved").is (.bool true) &&
      (review.get "reviewer").truthy) = true) :
    (recordAggregateReview acceptAll r).run s =
      (.ok (), { s with cohort := { s.cohort with aggregateReview := some r } }) := by
  have hchecks : (reviewChecks acceptAll r).run s = (.ok (), s) := by
    rw [reviewChecks, run_cohort_bind, cohortRequire_bind (by rw [haggregate]; rfl),
      cohortRequire_bind (by rw [hunfixed]; rfl), cohortRequire_bind (decide_eq_true hkind),
      cohortExcept_bind hdata, run_confirm_bind, cohortExcept_bind (by rw [haggregate]; rfl),
      cohortRequire_bind hlink]
    exact congrArg (run · s) (congrArg CohortOp.ofExcept (require_eq_ok.mpr happroved))
  rw [recordAggregateReview, run_bind_of_ok hchecks]
  rfl

/-- The judge is authorized. -/
lemma run_requireJudgeAuthority {aggregate review : ArtifactSnapshot} {completion judged : Object}
    (haggregate : s.cohort.aggregate = some aggregate)
    (hreview : s.cohort.aggregateReview = some review) (hdata : aggregate.data = .ok completion)
    (hdata' : review.data = .ok judged) (h : Authorizes a "judge_selection" payload) :
    (requireJudgeAuthority acceptAll a).run s = (.ok (), s) := by
  rw [requireJudgeAuthority, run_cohort_bind,
    cohortRequire_bind (by rw [haggregate, hreview]; rfl),
    cohortExcept_bind (by rw [haggregate]; rfl), cohortExcept_bind (by rw [hreview]; rfl),
    cohortExcept_bind hdata, cohortExcept_bind hdata', run_confirm_bind, run_confirm_bind,
    h.run_bind]
  rfl

end

/-! ## Six bundles -/

/-- The closure of the bundle at this place of the order. -/
def closureAt (w : Fin 6) : ArtifactSnapshot := .build "bundle_closure" (limitedClosure (w.val + 1))

/-- The authority that opens it. -/
def openingAuthority (w : Fin 6) : Object :=
  [("amendment_id", .str amendmentId), ("approved", .bool true),
   ("bundle_review_id", .str (failureId (w.val + 1))), ("operation", .str "bundle_open"),
   ("package_id", .str "PACKAGE"), ("private_manifest_position", .int (w.val + 1)),
   ("protocol_id", .str protocolId)]

def authorityAt (w : Fin 6) : ArtifactSnapshot :=
  .build "operation_authorization" (openingAuthority w)

/-- The calls for one bundle. -/
def bundleCalls (w : Fin 6) : List (CohortInput (Fin 6) Unit) :=
  [.cohort (.openBundle w (authorityAt w)), .workflow w (.closeInsufficient (closureAt w)),
    .cohort (.recordTerminal w)]

/-- The review with the first bundles closed and recorded. -/
def reviewAfter (k : ℕ) : Review (Fin 6) Unit where
  cohort := { order := frozenOrder, closed := ((List.finRange 6).take k).map closureAt }
  workflows w := if w.val < k then (failedFlow (w.val + 1)).closed (closureAt w)
    .bundleClosedInsufficient else failedFlow (w.val + 1)
  verifier := ()

lemma data_closureAt (w : Fin 6) : (closureAt w).data = .ok (limitedClosure (w.val + 1)) := by
  have hreadable : (Value.dict (limitedClosure (w.val + 1))).readable = true := by
    revert w
    decide +kernel
  exact data_build (by rfl) hreadable

lemma data_authorityAt (w : Fin 6) : (authorityAt w).data = .ok (openingAuthority w) := by
  have hreadable : (Value.dict (openingAuthority w)).readable = true := by
    revert w
    decide +kernel
  exact data_build (by rfl) hreadable

lemma data_of_closed {k : ℕ} :
    ∀ c ∈ (reviewAfter k).cohort.closed, ∃ payload, c.data = .ok payload := by
  intro c hc
  obtain ⟨w, -, rfl⟩ := List.mem_map.mp hc
  exact ⟨_, data_closureAt w⟩

lemma length_closed {k : ℕ} (hk : k ≤ 6) : (reviewAfter k).cohort.closed.length = k := by
  simp [reviewAfter, hk]

lemma nextPosition_reviewAfter (w : Fin 6) :
    (reviewAfter w).cohort.nextPosition = .ok (.int (w.val + 1)) := by
  have horder : (reviewAfter w).cohort.order =
      (List.range 6).map fun n : ℕ => Value.int (n + 1) := rfl
  rw [CohortWorkflow.nextPosition, length_closed w.2.le, horder, List.getElem?_map,
    List.getElem?_range w.2]
  rfl

lemma authorizes_authorityAt (w : Fin 6) :
    Authorizes (authorityAt w) "bundle_open" (openingAuthority w) :=
  ⟨rfl, data_authorityAt w, rfl⟩

lemma check_openingAuthority (w : Fin 6) :
    (failedFlow (w.val + 1)).binding.check (openingAuthority w) = .ok () := by
  simp only [BundleBinding.check, BundleBinding.fields, failedFlow, Except.forM_eq_ok,
    require_eq_ok, List.forall_mem_cons]
  exact ⟨Value.eq_str.mpr rfl, Value.eq_str.mpr rfl, Value.eq_str.mpr rfl, Value.eq_str.mpr rfl,
    by simp⟩

section

variable {ι : Type} [DecidableEq ι] {s t u : Review ι Unit}

lemma stage_of_returns (call : CohortCall ι) (h : (call.op acceptAll).run s = (.ok (), t)) :
    (cohorts acceptAll).stage s (.cohort call) = ⟨s, .cohort call, .ok (), t⟩ := by
  unfold Machine.stage Machine.next Machine.out cohorts
  simp only [h]
  rfl

lemma run_of_return {as : List (CohortInput ι Unit)} (call : CohortCall ι)
    (hs : (cohorts acceptAll).run s as = t) (h : (call.op acceptAll).run t = (.ok (), u)) :
    (cohorts acceptAll).run s (as ++ [.cohort call]) = u := by
  rw [Machine.run_concat, hs]
  exact congrArg Stage.after (stage_of_returns call h)

lemma trace_of_return {as : List (CohortInput ι Unit)} (call : CohortCall ι)
    (hs : (cohorts acceptAll).run s as = t) (h : (call.op acceptAll).run t = (.ok (), u)) :
    (cohorts acceptAll).trace s (as ++ [.cohort call]) =
      (cohorts acceptAll).trace s as ++ [⟨t, .cohort call, .ok (), u⟩] := by
  rw [Machine.trace_concat, hs, stage_of_returns call h]

end

/-- The bundle is open. -/
def opened (w : Fin 6) : Review (Fin 6) Unit :=
  { reviewAfter w with cohort := { (reviewAfter w).cohort with current := some w } }

lemma opened_current (w : Fin 6) : (opened w).cohort.current = some w := rfl

lemma opened_closed (w : Fin 6) :
    (opened w).cohort.closed = (reviewAfter w.val).cohort.closed := rfl

/-- It is open and closed. -/
def closedAt (w : Fin 6) : Review (Fin 6) Unit :=
  { opened w with workflows := (reviewAfter (w + 1)).workflows }

lemma run_open (w : Fin 6) :
    (openBundle acceptAll w (authorityAt w)).run (reviewAfter w) = (.ok (), opened w) := by
  have hflow : (reviewAfter w).workflows w = failedFlow (w.val + 1) := if_neg (lt_irrefl _)
  refine run_openBundle rfl ?_ (by rw [hflow]; rfl) (authorizes_authorityAt w)
    (by rw [hflow]; exact check_openingAuthority w) (nextPosition_reviewAfter w) ?_ data_of_closed
  · rw [length_closed w.2.le]
    exact w.2
  · exact Value.int_eq_int.mpr rfl

/-- Another bundle is closed. -/
lemma workflows_closed (w : Fin 6) :
    Function.update (reviewAfter w).workflows w
        ((failedFlow (w.val + 1)).closed (closureAt w) .bundleClosedInsufficient) =
      (reviewAfter (w + 1)).workflows := by
  funext v
  by_cases hv : v = w
  · subst hv
    rw [Function.update_self]
    exact (if_pos (Nat.lt_succ_self _)).symm
  · have hval : v.val ≠ w.val := fun h => hv (Fin.ext h)
    have hiff : v.val < w.val ↔ v.val < w.val + 1 := by omega
    rw [Function.update_of_ne hv]
    simp only [reviewAfter, hiff]

lemma run_close (w : Fin 6) :
    (CohortOp.call w ((FlowCall.closeInsufficient (closureAt w)).op (acceptAll (some w)))).run
      (opened w) = (.ok (), closedAt w) := by
  have hflow : (opened w).workflows w = failedFlow (w.val + 1) := if_neg (lt_irrefl _)
  have hclose : ((FlowCall.closeInsufficient (closureAt w)).op (acceptAll (some w))).run
      ⟨failedFlow (w.val + 1), ()⟩ = (.ok (), ⟨(failedFlow (w.val + 1)).closed (closureAt w)
        .bundleClosedInsufficient, ()⟩) :=
    run_closeInsufficient_accepted rfl (data_closureAt w) (schema_limited w w.2) rfl rfl
  rw [run_workflowCall, hflow, show (opened w).verifier = () from rfl, hclose]
  dsimp only
  rw [show (opened w).workflows = (reviewAfter w).workflows from rfl, workflows_closed]
  rfl

lemma getElem?_finRange (w : Fin 6) : (List.finRange 6)[w.val]? = some w := by simp

/-- Its closure is recorded. -/
lemma closed_succ (w : Fin 6) : (reviewAfter (w + 1)).cohort.closed =
    (reviewAfter w).cohort.closed ++ [closureAt w] := by
  change ((List.finRange 6).take (w + 1)).map closureAt =
    ((List.finRange 6).take w).map closureAt ++ [closureAt w]
  rw [List.take_add_one, getElem?_finRange, List.map_append]
  rfl

lemma run_record (w : Fin 6) :
    (recordTerminal acceptAll w).run (closedAt w) = (.ok (), reviewAfter (w + 1)) := by
  have hflow : (closedAt w).workflows w = (failedFlow (w.val + 1)).closed (closureAt w)
      .bundleClosedInsufficient := if_pos (Nat.lt_succ_self _)
  have hverified : (verifyFrozen (acceptAll (some w))).run ⟨(closedAt w).workflows w, ()⟩ =
      (.ok (), ⟨(closedAt w).workflows w, ()⟩) := by
    rw [hflow]
    exact run_verifyFrozen_accepted (data_closureAt w) rfl
  rw [run_recordTerminal rfl (by rw [hflow]; rfl) (by rw [hflow]; rfl) hverified
    (data_closureAt w) rfl (nextPosition_reviewAfter w) (Value.int_eq_int.mpr rfl)]
  change (Except.ok (), Review.mk { order := frozenOrder, closed :=
    (reviewAfter w).cohort.closed ++ [closureAt w] } _ ()) = _
  rw [← closed_succ]
  rfl

/-- The calls for a bundle close and record it. -/
lemma run_bundleCalls (w : Fin 6) :
    (cohorts acceptAll).run (reviewAfter w) (bundleCalls w) = reviewAfter (w + 1) := by
  have hopen : (cohorts acceptAll).next (reviewAfter w)
      (.cohort (.openBundle w (authorityAt w))) = opened w := congrArg Prod.snd (run_open w)
  have hclose : (cohorts acceptAll).next (opened w)
      (.workflow w (.closeInsufficient (closureAt w))) = closedAt w :=
    congrArg Prod.snd (run_close w)
  have hrecord : (cohorts acceptAll).next (closedAt w) (.cohort (.recordTerminal w)) =
      reviewAfter (w + 1) := congrArg Prod.snd (run_record w)
  rw [bundleCalls, Machine.run_cons, hopen, Machine.run_cons, hclose, Machine.run_cons, hrecord,
    Machine.run_nil]

/-- The calls for the first bundles, in their order. -/
def callsFor (k : ℕ) : List (CohortInput (Fin 6) Unit) :=
  ((List.finRange 6).take k).flatMap bundleCalls

lemma run_callsFor {k : ℕ} (hk : k ≤ 6) :
    (cohorts acceptAll).run (reviewAfter 0) (callsFor k) = reviewAfter k := by
  induction k with
  | zero => rfl
  | succ k ih =>
      rw [callsFor, List.take_add_one, getElem?_finRange ⟨k, hk⟩, List.flatMap_append,
        Machine.run_append, ← callsFor, ih (Nat.le_of_succ_le hk)]
      exact (congrArg (Machine.run _ _) (List.flatMap_singleton ..)).trans (run_bundleCalls ⟨k, hk⟩)

/-! ### The aggregate -/

/-- The authority for an operation on the cohort. -/
def approvedFor (operation : String) : ArtifactSnapshot :=
  .build "operation_authorization" [("approved", .bool true), ("operation", .str operation)]

lemma authorizes_approvedFor (operation : String) : Authorizes (approvedFor operation) operation
    [("approved", .bool true), ("operation", .str operation)] :=
  ⟨rfl, data_build (by rfl) (by rfl), Bool.and_eq_true_iff.mpr ⟨rfl, Value.eq_str.mpr rfl⟩⟩

/-- What the completion of the aggregate says: the closures, by their hashes. -/
def completion : Object :=
  [("terminal_bundle_closure_hashes", .strs (reviewAfter 6).cohort.closureHashes)]

def aggregate : ArtifactSnapshot := .build "aggregate_completion" completion

/-- What its review says. -/
def approval : Object :=
  [("aggregate_artifact_sha256", .str aggregate.sha256), ("approved", .bool true),
   ("reviewer", .str "reviewer")]

def review : ArtifactSnapshot := .build "aggregate_human_review" approval

lemma data_aggregate : aggregate.data = .ok completion := data_build (by rfl) (by rfl)

lemma data_review : review.data = .ok approval := data_build (by rfl) (by rfl)

/-- The calls that complete a review: of the bundles, and of their aggregate. -/
def reviewCalls : List (CohortInput (Fin 6) Unit) :=
  callsFor 6 ++
    [.cohort (.recordAggregateCompletion aggregate (approvedFor "aggregate_analysis"))] ++
    [.cohort (.recordAggregateReview review)]

/-- The call that asks for the judge. -/
def judgeCall : CohortInput (Fin 6) Unit :=
  .cohort (.requireJudgeAuthority (approvedFor "judge_selection"))

/-- The cohort once its aggregate was reviewed. -/
def reviewed : Review (Fin 6) Unit :=
  { reviewAfter 6 with cohort := { (reviewAfter 6).cohort with
    aggregate := some aggregate, aggregateReview := some review } }

lemma run_aggregate : (recordAggregateCompletion acceptAll aggregate
    (approvedFor "aggregate_analysis")).run (reviewAfter 6) = (.ok (), { reviewAfter 6 with
      cohort := { (reviewAfter 6).cohort with aggregate := some aggregate } }) := by
  refine run_recordAggregateCompletion ?_ rfl rfl data_aggregate (Value.eq_strs.mpr rfl)
  exact run_requireAggregateAuthority (length_closed le_rfl) rfl (authorizes_approvedFor _)
    data_of_closed

lemma run_review : (recordAggregateReview acceptAll review).run { reviewAfter 6 with
    cohort := { (reviewAfter 6).cohort with aggregate := some aggregate } } =
      (.ok (), reviewed) :=
  run_recordAggregateReview rfl rfl rfl data_review (Value.eq_str.mpr rfl) rfl

lemma run_judge : (requireJudgeAuthority acceptAll (approvedFor "judge_selection")).run reviewed =
    (.ok (), reviewed) :=
  run_requireJudgeAuthority rfl rfl data_aggregate data_review (authorizes_approvedFor _)

lemma run_reviewCalls : (cohorts acceptAll).run (reviewAfter 0) reviewCalls = reviewed :=
  run_of_return _ (run_of_return _ (run_callsFor le_rfl) run_aggregate) run_review

/-- After them the judge is authorized. -/
lemma trace_judgeCall : (cohorts acceptAll).trace (reviewAfter 0) (reviewCalls ++ [judgeCall]) =
    (cohorts acceptAll).trace (reviewAfter 0) reviewCalls ++
      [⟨reviewed, judgeCall, .ok (), reviewed⟩] :=
  trace_of_return _ run_reviewCalls run_judge

end CivicGate.Rq6
