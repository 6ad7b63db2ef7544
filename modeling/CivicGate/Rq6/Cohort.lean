import CivicGate.Rq6.Workflow

/-!
# The cohort of six bundles

`CohortWorkflow` of `rq6/workflow.py`.  The workflows a cohort opens and records are objects that
callers keep driving through their own references: `Review` has them all, by reference, with the
cohort and with one state that every verifier may read and change.

`cohorts verify` runs any sequence of calls on the cohort and on its workflows.
-/

namespace CivicGate.Rq6

/-! ## The cohort -/

/-- `type(value) is int` -/
def Value.isInt : Value → Bool
  | .int _ => true
  | _ => false

/-- `(1, 2, 3, 4, 5, 6)` -/
def frozenOrder : List Value := [.int 1, .int 2, .int 3, .int 4, .int 5, .int 6]

/-- The attributes of a `CohortWorkflow`, which knows a workflow by its reference. -/
structure CohortWorkflow (ι : Type) where
  order : List Value
  current : Option ι := none
  closed : List ArtifactSnapshot := []
  aggregate : Option ArtifactSnapshot := none
  aggregateReview : Option ArtifactSnapshot := none

/-- `CohortWorkflow(bundle_order, verifier)` -/
def CohortWorkflow.create {ι : Type} (bundleOrder : List Value) :
    Except Raised (CohortWorkflow ι) := do
  require ((Value.list bundleOrder).eq (.list frozenOrder) && bundleOrder.all Value.isInt)
    "INVALID_FROZEN_BUNDLE_COHORT"
  return { order := bundleOrder }

/-- `[item.sha256 for item in self._closed]` -/
def CohortWorkflow.closureHashes {ι : Type} (c : CohortWorkflow ι) : List String :=
  c.closed.map (·.sha256)

/-- A cohort, the workflows there are, and the state of the verifiers. -/
structure Review (ι V : Type) where
  cohort : CohortWorkflow ι
  workflows : ι → BundleWorkflow
  verifier : V

/-- A method of the cohort. -/
abbrev CohortOp (ι V α : Type) := Program (Review ι V) Raised α

/-! ## Operations -/

/-- `require(verdict is None, "INVALID_VERIFIER_CONTRACT")` -/
def Verdict.check : Verdict → Except Raised Unit
  | .accepted => .ok ()
  | .invalid => .error (.rq6 "INVALID_VERIFIER_CONTRACT")
  | .raised => .error .verifier

namespace CohortOp

variable {ι V α : Type}

/-- A check that asks no verifier. -/
def ofExcept (x : Except Raised α) : CohortOp ι V α := Program.lift x

/-- `require(condition, code)` -/
def require (condition : Bool) (code : String) : CohortOp ι V Unit :=
  ofExcept (Rq6.require condition code)

/-- The cohort as it stands. -/
def self : CohortOp ι V (CohortWorkflow ι) := do
  let s ← get
  return s.cohort

/-- A workflow as it stands. -/
def workflow (w : ι) : CohortOp ι V BundleWorkflow := do
  let s ← get
  return s.workflows w

/-- Assign attributes of the cohort. -/
def assign (change : CohortWorkflow ι → CohortWorkflow ι) : CohortOp ι V Unit :=
  modify fun s => { s with cohort := change s.cohort }

/-- Call a method of a workflow. -/
def call [DecidableEq ι] (w : ι) (p : Op V α) : CohortOp ι V α := fun s =>
  let result := p.run ⟨s.workflows w, s.verifier⟩
  (result.1, { s with
    workflows := Function.update s.workflows w result.2.flow, verifier := result.2.verifier })

end CohortOp

/-- `self._order[len(self._closed)]` -/
def CohortWorkflow.nextPosition {ι : Type} (c : CohortWorkflow ι) : Except Raised Value :=
  c.order[c.closed.length]?.elim (.error .indexError) .ok

section

variable {ι V : Type} [DecidableEq ι]
  (verify : Option ι → ArtifactSnapshot → V → Verdict × V)

/-- `require(self._verify(snapshot) is None, "INVALID_VERIFIER_CONTRACT")`; the verifier of the
cohort is `verify none`. -/
def confirm (snapshot : ArtifactSnapshot) : CohortOp ι V Unit := fun s =>
  let answer := verify none snapshot s.verifier
  (answer.1.check, { s with verifier := answer.2 })

/-- The closures recorded so far, read and verified again. -/
def confirmClosures : List ArtifactSnapshot → CohortOp ι V Unit
  | [] => pure ()
  | closure :: rest => do
    let _ ← CohortOp.ofExcept closure.data
    confirm verify closure
    confirmClosures rest

/-- `self._authority(authority, operation)` -/
def authorityFor (authority : ArtifactSnapshot) (operation : String) : CohortOp ι V Object := do
  CohortOp.require (authority.kind = "operation_authorization") "WRONG_ARTIFACT_KIND"
  let payload ← CohortOp.ofExcept authority.data
  confirm verify authority
  CohortOp.require ((payload.get "approved").is (.bool true) &&
    (payload.get "operation").eq (.str operation)) "OPERATION_NOT_AUTHORIZED"
  return payload

/-- What `open_bundle` checks. -/
def openChecks (w : ι) (authority : ArtifactSnapshot) : CohortOp ι V Unit := do
  let c ← CohortOp.self
  CohortOp.require c.current.isNone "CURRENT_BUNDLE_NOT_TERMINAL"
  CohortOp.require (c.closed.length < c.order.length) "NO_UNOPENED_BUNDLE"
  let workflow ← CohortOp.workflow w
  CohortOp.require (workflow.state = .frozen) "BUNDLE_ALREADY_INITIALIZED"
  let payload ← authorityFor verify authority "bundle_open"
  CohortOp.ofExcept (workflow.binding.check payload)
  let position ← CohortOp.ofExcept c.nextPosition
  CohortOp.require ((payload.get "private_manifest_position").isInt &&
    (payload.get "private_manifest_position").eq position) "BUNDLE_ORDER_VIOLATION"
  confirmClosures verify c.closed

def openBundle (w : ι) (authority : ArtifactSnapshot) : CohortOp ι V Unit := do
  openChecks verify w authority
  CohortOp.assign fun c => { c with current := some w }

/-- What `record_terminal` checks; it returns the closure. -/
def terminalChecks (w : ι) : CohortOp ι V ArtifactSnapshot := do
  let c ← CohortOp.self
  CohortOp.require (c.current = some w) "CROSS_BUNDLE_CLOSURE"
  let workflow ← CohortOp.workflow w
  CohortOp.require (workflow.state.isTerminal && workflow.closure.isSome)
    "CURRENT_BUNDLE_NOT_TERMINAL"
  CohortOp.call w (verifyFrozen (verify (some w)))
  let closure ← CohortOp.ofExcept (asserted workflow.closure)
  confirm verify closure
  let payload ← CohortOp.ofExcept closure.data
  let position ← CohortOp.ofExcept (payload.item "frozen_manifest_position")
  let expected ← CohortOp.ofExcept c.nextPosition
  CohortOp.require (position.eq expected) "BUNDLE_ORDER_VIOLATION"
  return closure

def recordTerminal (w : ι) : CohortOp ι V Unit := do
  let closure ← terminalChecks verify w
  CohortOp.assign fun c => { c with closed := c.closed ++ [closure], current := none }

def requireAggregateAuthority (authority : ArtifactSnapshot) : CohortOp ι V Unit := do
  let c ← CohortOp.self
  CohortOp.require (c.closed.length = 6 && c.current.isNone)
    "AGGREGATE_BEFORE_SIX_TERMINAL_CLOSURES"
  let _ ← authorityFor verify authority "aggregate_analysis"
  confirmClosures verify c.closed

/-- What `record_aggregate_completion` checks. -/
def aggregateChecks (artifact authority : ArtifactSnapshot) : CohortOp ι V Unit := do
  requireAggregateAuthority verify authority
  let c ← CohortOp.self
  CohortOp.require c.aggregate.isNone "AGGREGATE_ALREADY_FIXED"
  CohortOp.require (artifact.kind = "aggregate_completion") "WRONG_ARTIFACT_KIND"
  let payload ← CohortOp.ofExcept artifact.data
  confirm verify artifact
  CohortOp.require ((payload.get "terminal_bundle_closure_hashes").eq (.strs c.closureHashes))
    "AGGREGATE_CLOSURE_LINK_MISMATCH"

def recordAggregateCompletion (artifact authority : ArtifactSnapshot) : CohortOp ι V Unit := do
  aggregateChecks verify artifact authority
  CohortOp.assign fun c => { c with aggregate := some artifact }

/-- What `record_aggregate_review` checks. -/
def reviewChecks (receipt : ArtifactSnapshot) : CohortOp ι V Unit := do
  let c ← CohortOp.self
  CohortOp.require c.aggregate.isSome "REVIEW_BEFORE_AGGREGATE_COMPLETION"
  CohortOp.require c.aggregateReview.isNone "AGGREGATE_REVIEW_ALREADY_FIXED"
  CohortOp.require (receipt.kind = "aggregate_human_review") "WRONG_ARTIFACT_KIND"
  let payload ← CohortOp.ofExcept receipt.data
  confirm verify receipt
  let aggregate ← CohortOp.ofExcept (asserted c.aggregate)
  CohortOp.require ((payload.get "aggregate_artifact_sha256").eq (.str aggregate.sha256))
    "AGGREGATE_REVIEW_LINK_MISMATCH"
  CohortOp.require ((payload.get "approved").is (.bool true) && (payload.get "reviewer").truthy)
    "AGGREGATE_REVIEW_NOT_APPROVED"

def recordAggregateReview (receipt : ArtifactSnapshot) : CohortOp ι V Unit := do
  reviewChecks verify receipt
  CohortOp.assign fun c => { c with aggregateReview := some receipt }

def requireJudgeAuthority (authority : ArtifactSnapshot) : CohortOp ι V Unit := do
  let c ← CohortOp.self
  CohortOp.require (c.aggregate.isSome && c.aggregateReview.isSome)
    "JUDGE_BEFORE_AGGREGATE_HUMAN_REVIEW"
  let aggregate ← CohortOp.ofExcept (asserted c.aggregate)
  let aggregateReview ← CohortOp.ofExcept (asserted c.aggregateReview)
  let _ ← CohortOp.ofExcept aggregate.data
  let _ ← CohortOp.ofExcept aggregateReview.data
  confirm verify aggregate
  confirm verify aggregateReview
  let _ ← authorityFor verify authority "judge_selection"

end

/-! ## Runs -/

/-- A call of an operation of the cohort. -/
inductive CohortCall (ι : Type)
  | openBundle (w : ι) (authority : ArtifactSnapshot)
  | recordTerminal (w : ι)
  | requireAggregateAuthority (authority : ArtifactSnapshot)
  | recordAggregateCompletion (artifact authority : ArtifactSnapshot)
  | recordAggregateReview (receipt : ArtifactSnapshot)
  | requireJudgeAuthority (authority : ArtifactSnapshot)

/-- What happens to a review: a call on the cohort or on a workflow, or the verifiers come to a
state of their own. -/
inductive CohortInput (ι V : Type)
  | cohort (call : CohortCall ι)
  | workflow (w : ι) (call : FlowCall)
  | verifier (change : V → V)

section

variable {ι V : Type} [DecidableEq ι]
  (verify : Option ι → ArtifactSnapshot → V → Verdict × V)

/-- The method of a call. -/
def CohortCall.op : CohortCall ι → CohortOp ι V Unit
  | .openBundle w a => Rq6.openBundle verify w a
  | .recordTerminal w => Rq6.recordTerminal verify w
  | .requireAggregateAuthority a => Rq6.requireAggregateAuthority verify a
  | .recordAggregateCompletion r a => Rq6.recordAggregateCompletion verify r a
  | .recordAggregateReview r => Rq6.recordAggregateReview verify r
  | .requireJudgeAuthority a => Rq6.requireJudgeAuthority verify a

/-- A cohort and its workflows under any sequence of calls. -/
def cohorts : Machine (Review ι V) (CohortInput ι V) (Except Raised Unit) where
  step s
    | .cohort c => ((c.op verify).run s).swap
    | .workflow w c => ((CohortOp.call w (c.op (verify (some w)))).run s).swap
    | .verifier change => ({ s with verifier := change s.verifier }, .ok ())

end

end CivicGate.Rq6
