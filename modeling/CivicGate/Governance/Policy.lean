import CivicGate.Framework.Exceptions
import CivicGate.Framework.Sha256
import CivicGate.Governance.Signals

/-!
# The policy gate

`evaluate` (`governance/policy.py`) is the sole authority issuer, and `inspect`
(`governance/agent_k.py`) computes the behavioural signal it reads.

What the regular expressions of `governance/authority.py` and `governance/request_risk.py` find
in a text is given by `TextRules`; everything said about the gate holds whatever they find.
What the argument models of the tool registry do is given by `Pydantic`.
-/

namespace CivicGate

/-! ## The argument models -/

/-- What the pydantic classes of a tool registry do. -/
structure Pydantic (Model Args : Type) where
  /-- `model.model_json_schema()` -/
  jsonSchema : Model → Except PyException Json
  /-- `model.model_validate(value)` -/
  validate : Model → Json → Except PyException Args
  /-- `model.model_validate_json(text)` -/
  validateJson : Model → String → Except PyException Args
  /-- `args.model_dump(mode="json")` -/
  dump : Args → Except PyException Json
  /-- `args.model_dump_json()` -/
  dumpJson : Args → Except PyException String

/-- A tool registry: its tools in order, each with its argument model. -/
abbrev Registry (Model : Type) := List (String × Model)

/-- `dict(a) == dict(b)` -/
def Registry.same {Model : Type} [DecidableEq Model] (a b : Registry Model) : Bool :=
  a.length = b.length && a.all fun entry => b.lookup entry.1 = some entry.2

/-- The tools of `TOOLS`. -/
def tools : List String :=
  ["find_federal_awards", "get_federal_award", "resolve_federal_recipient",
    "summarize_federal_spending"]

/-! ## Contracts -/

/-- The composition contract of the host: `channel_b/invocation_contract_v1.py`. -/
structure InvocationContract (Model : Type) where
  version : String
  findLiteralFields : List String
  registry : Registry Model
  schemas : List (String × String)

variable {Model Args : Type}

/-- The digest of a model's schema, as contracts compute it. -/
def contractSchema (p : Pydantic Model Args) (model : Model) : Except PyException String := do
  return sha256Hex (canonical true (← p.jsonSchema model))

/-- `InvocationContract.validate` -/
def InvocationContract.validate (contract : InvocationContract Model) (p : Pydantic Model Args) :
    Except PyException Unit := do
  let current ← contract.registry.mapM fun entry => do
    return (entry.1, ← contractSchema p entry.2)
  ensure (current = contract.schemas) .valueError

/-! ## Texts -/

/-- The tripwires of `denied_reasons`, in its order. -/
inductive Tripwire
  | deniedAuthority
  | privateData
  | bypassRequest
  deriving DecidableEq

/-- The reason a tripwire gives. -/
def Tripwire.text : Tripwire → String
  | .deniedAuthority => "DENIED_AUTHORITY"
  | .privateData => "PRIVATE_DATA"
  | .bypassRequest => "BYPASS_REQUEST"

/-- What the text rules find. -/
structure TextRules (Model : Type) where
  /-- The tripwire's pattern occurs in the normalized text. -/
  trips : Tripwire → String → Bool
  /-- `assess_request_risk(request).reasons` -/
  assessRequestRisk : String → List String
  /-- `literal_proposal_reasons(request, tool, arguments_json, contract=contract)` -/
  literalProposalReasons : String → String → Option String →
    Option (InvocationContract Model) → List String

/-- The tripwires a text sets off. -/
def TextRules.tripped (rules : TextRules Model) (text : String) : List Tripwire :=
  [.deniedAuthority, .privateData, .bypassRequest].filter (rules.trips · text)

/-- `denied_reasons(text)` -/
def TextRules.deniedReasons (rules : TextRules Model) (text : String) : List String :=
  (rules.tripped text).map Tripwire.text

/-! ## Agent K -/

/-- `inspect(text, judge, denials, known_tool)` -/
def inspect (rules : TextRules Model) (text : String) (judge : JudgeSignal) (denials : ℤ)
    (knownTool : Bool) : KSignal :=
  let reasons := rules.tripped text
  let containment := 2 ≤ denials || reasons ≠ [] || !knownTool
  let signals :=
    (if .deniedAuthority ∈ reasons then [Signal.authorityOverreach] else []) ++
    (if .privateData ∈ reasons then [Signal.outOfScopeData] else []) ++
    (if !knownTool || .bypassRequest ∈ reasons then [Signal.toolScopeViolation] else []) ++
    (if 2 ≤ denials then [Signal.repeatedDenial] else []) ++
    (if judge.classification = .ambiguous then [Signal.ambiguousTarget] else []) ++
    (if containment then [Signal.containmentRecommended] else [])
  { signals := if signals = [] then [.none] else signals
    containment
    signals_length := by
      have one (c : Prop) [Decidable c] (s : Signal) :
          (if c then [s] else []).length ≤ 1 := by split <;> simp
      split
      · decide
      · simp only [signals, List.length_append]
        have h₁ := one (Tripwire.deniedAuthority ∈ reasons) .authorityOverreach
        have h₂ := one (Tripwire.privateData ∈ reasons) .outOfScopeData
        have h₃ := one ((!knownTool || decide (Tripwire.bypassRequest ∈ reasons)) = true)
          .toolScopeViolation
        have h₄ := one (2 ≤ denials) .repeatedDenial
        have h₅ := one (judge.classification = .ambiguous) .ambiguousTarget
        have h₆ := one (containment = true) .containmentRecommended
        omega }

/-! ## The gate -/

/-- The facts the gate decides on. -/
structure PolicyFacts where
  tool : String
  text : String
  validInput : Bool := true
  bounded : Bool := true
  publicSource : Bool := true
  provenanceAvailable : Bool := true
  adapterAvailable : Bool := true
  capability : String := "PUBLIC_SPENDING_RESEARCH"
  reviewReason : Option String := none
  semanticRequired : Bool := true
  requestText : Option String := none
  argumentsJson : Option String := none
  deriving DecidableEq

/-- `[reason]` when the condition holds. -/
def reasonIf (condition : Bool) (reason : String) : List String :=
  if condition then [reason] else []

/-- The contract's part of the denials; other exceptions than the ones listed go through. -/
def contractReasons (p : Pydantic Model Args) (facts : PolicyFacts) :
    Option (InvocationContract Model) → Except PyException (List String)
  | none => return []
  | some contract =>
    let scope : Except PyException Unit := do
      contract.validate p
      match facts.argumentsJson with
      | none => throw .valueError
      | some text =>
        match contract.registry.lookup facts.tool with
        | none => throw .keyError
        | some model => discard (p.validateJson model text)
    match scope with
    | .ok () => return []
    | .error e =>
      if e = .valueError ∨ e = .typeError ∨ e = .keyError then return ["INVALID_CONTRACT_SCOPE"]
      else throw e

/-- The reasons to deny, apart from the contract's and before them the tripwires. -/
def denials (facts : PolicyFacts) (agentK : KSignal) : List String :=
  reasonIf (facts.tool ∉ tools) "UNKNOWN_TOOL" ++
  reasonIf (facts.capability ≠ "PUBLIC_SPENDING_RESEARCH") "CAPABILITY_NOT_ALLOWED" ++
  reasonIf (!facts.validInput) "INVALID_INPUT" ++
  reasonIf (!facts.publicSource) "NONPUBLIC_SOURCE" ++
  reasonIf agentK.containment "CONTAINMENT_REQUIRED" ++
  reasonIf (.repeatedDenial ∈ agentK.signals) "SESSION_CONTAINMENT_ACTIVE"

/-- The reason the Judge gives for a review. -/
def semanticReasons (facts : PolicyFacts) (judge : JudgeSignal) (threshold : PyNum) : List String :=
  if facts.semanticRequired then
    if !judge.available then ["SEMANTIC_FAILURE"]
    else reasonIf (judge.classification ≠ .inScope || judge.confidence.value < threshold.value ||
      judge.flags ≠ []) "SEMANTIC_REVIEW_REQUIRED"
  else []

/-- The reasons to review. -/
def reviews (rules : TextRules Model) (facts : PolicyFacts) (judge : JudgeSignal)
    (agentK : KSignal) (threshold : PyNum) (contract : Option (InvocationContract Model)) :
    List String :=
  let request := facts.requestText.getD facts.text
  reasonIf (facts.requestText ≠ none && facts.text ≠ request &&
    !(request.toList ++ ['\n']).isPrefixOf facts.text.toList) "REQUEST_CONTEXT_INCONSISTENT" ++
  rules.assessRequestRisk request ++
  rules.literalProposalReasons request facts.tool facts.argumentsJson contract ++
  reasonIf (!facts.bounded) "QUERY_TOO_BROAD" ++
  reasonIf (!facts.provenanceAvailable) "PROVENANCE_UNAVAILABLE" ++
  reasonIf (!facts.adapterAvailable) "ADAPTER_UNAVAILABLE" ++
  (match facts.reviewReason with
    | some reason => reasonIf (reason ≠ "") reason
    | none => []) ++
  semanticReasons facts judge threshold ++
  reasonIf (agentK.signals.any (· ≠ .none)) "AGENT_K_REVIEW_REQUIRED"

/-- `evaluate(facts, judge, agent_k, threshold, contract=contract)` -/
def evaluate (rules : TextRules Model) (p : Pydantic Model Args) (facts : PolicyFacts)
    (judge : JudgeSignal) (agentK : KSignal) (threshold : PyNum)
    (contract : Option (InvocationContract Model)) : Except PyException PolicyResult := do
  let scope ← contractReasons p facts contract
  let deny := rules.deniedReasons facts.text ++ scope ++ denials facts agentK
  if deny ≠ [] then return ⟨.deny, deny⟩
  let review := reviews rules facts judge agentK threshold contract
  if review ≠ [] then return ⟨.reviewRequired, review⟩
  return ⟨.permit, ["BOUNDED_PUBLIC_RESEARCH"]⟩

/-- Denials come before reviews and reviews before permission, and a permission has one reason. -/
lemma evaluate_permit {rules : TextRules Model} {p : Pydantic Model Args} {facts : PolicyFacts}
    {judge : JudgeSignal} {agentK : KSignal} {threshold : PyNum}
    {contract : Option (InvocationContract Model)} {result : PolicyResult}
    (h : evaluate rules p facts judge agentK threshold contract = .ok result)
    (hp : result.decision = .permit) :
    contractReasons p facts contract = .ok [] ∧ rules.deniedReasons facts.text = [] ∧
      denials facts agentK = [] ∧
      reviews rules facts judge agentK threshold contract = [] ∧
      result.reasons = ["BOUNDED_PUBLIC_RESEARCH"] := by
  obtain ⟨scope, hscope, h⟩ := Except.bind_eq_ok.mp h
  simp only at h
  split at h
  · cases h
    cases hp
  · rename_i hdeny
    split at h
    · cases h
      cases hp
    · rename_i hreview
      cases h
      simp only [ne_eq, not_not, List.append_eq_nil_iff] at hdeny
      obtain ⟨⟨htext, rfl⟩, hfacts⟩ := hdeny
      exact ⟨hscope, htext, hfacts, not_not.mp hreview, rfl⟩

/-- After a permission, an evaluation of the same facts with a reason to review gives that reason
alone, unless the contract does not validate any more. -/
lemma evaluate_review {rules : TextRules Model} {p p' : Pydantic Model Args} {facts : PolicyFacts}
    {judge : JudgeSignal} {agentK : KSignal} {threshold : PyNum}
    {contract : Option (InvocationContract Model)} {result post : PolicyResult} {reason : String}
    (h : evaluate rules p facts judge agentK threshold contract = .ok result)
    (hp : result.decision = .permit) (hreason : reason ≠ "")
    (hpost : evaluate rules p' { facts with reviewReason := some reason } judge agentK threshold
      contract = .ok post) :
    post.reasons = [reason] ∨ post.reasons = ["INVALID_CONTRACT_SCOPE"] := by
  obtain ⟨-, htext, hdenials, hreviews, -⟩ := evaluate_permit h hp
  obtain ⟨scope, hscope, hpost⟩ := Except.bind_eq_ok.mp hpost
  have hcontract : scope = [] ∨ scope = ["INVALID_CONTRACT_SCOPE"] := by
    unfold contractReasons at hscope
    split at hscope
    · exact .inl (Except.pure_eq_ok.mp hscope).symm
    · simp only at hscope
      split at hscope
      · exact .inl (Except.pure_eq_ok.mp hscope).symm
      · split at hscope
        · exact .inr (Except.pure_eq_ok.mp hscope).symm
        · cases hscope
  have hdenials' : denials { facts with reviewReason := some reason } agentK = [] := hdenials
  have hreviews' : reviews rules { facts with reviewReason := some reason } judge agentK threshold
      contract = [reason] := by
    simp only [reviews, List.append_eq_nil_iff] at hreviews ⊢
    obtain ⟨⟨⟨⟨⟨⟨⟨⟨hcontext, hrisk⟩, hliteral⟩, hbounded⟩, hprovenance⟩, hadapter⟩, -⟩, hjudge⟩,
      hagent⟩ := hreviews
    have hjudge' : semanticReasons { facts with reviewReason := some reason } judge threshold = [] :=
      hjudge
    rw [hcontext, hrisk, hliteral, hbounded, hprovenance, hadapter, hjudge', hagent]
    simp [reasonIf, hreason]
  simp only [htext, hdenials', hreviews', List.nil_append, List.append_nil] at hpost
  rcases hcontract with rfl | rfl
  · rw [if_neg (by simp), if_pos (by simp)] at hpost
    exact .inl (Except.pure_eq_ok.mp hpost ▸ rfl)
  · rw [if_pos (by simp)] at hpost
    exact .inr (Except.pure_eq_ok.mp hpost ▸ rfl)

end CivicGate
