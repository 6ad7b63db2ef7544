import CivicGate.Governance.Policy

/-!
# The judge's part in a decision

`Gateway._call` (`mcp/tools.py`) evaluates the policy twice: before it calls the judge, with the
signal of a judge that is unavailable, and again with the judge's own signal.  Where the first
evaluation denies, the judge is not called.  `judge_advisory` compares the two over all signals:
the judge can hold a call for review, and changes nothing else.
-/

namespace CivicGate

variable {Model Args : Type}

/-- Agent K's signal, if it is enabled. -/
def agentKSignal (rules : TextRules Model) (enabled : Bool) (text : String) (judge : JudgeSignal)
    (denials : ℤ) (knownTool : Bool) : KSignal :=
  if enabled then inspect rules text judge denials knownTool else .default

/-- `probe_judge` -/
def probeJudge : JudgeSignal :=
  .unavailable "Semantic assessment unavailable" "unavailable" (by decide) (by decide)

/-- What a decision of `_call` reads. -/
structure JudgedCall (Model Args : Type) where
  rules : TextRules Model
  pydantic : Pydantic Model Args
  contract : Option (InvocationContract Model)
  facts : PolicyFacts
  requireJudge : Bool
  enableAgentK : Bool
  threshold : PyNum
  denials : ℤ
  knownTool : Bool

namespace JudgedCall

variable (c : JudgedCall Model Args)

/-- Agent K run on a judge's signal. -/
def agentK (judge : JudgeSignal) : KSignal :=
  agentKSignal c.rules c.enableAgentK c.facts.text judge c.denials c.knownTool

/-- `_evaluate`, with Agent K run on the same signal. -/
def decision (judge : JudgeSignal) : Except PyException PolicyResult :=
  evaluate c.rules c.pydantic c.facts judge (c.agentK judge) c.threshold c.contract

/-- The signal in place of the one of a judge that is not called. -/
def skippedJudge : JudgeSignal :=
  if !c.facts.validInput then
    .unavailable "Invalid input; semantic call skipped"
      (if c.requireJudge then "unavailable" else "disabled") (by decide) (by split <;> decide)
  else if !c.requireJudge then
    .unavailable "Semantic judge disabled for this evaluation matrix" "disabled" (by decide)
      (by decide)
  else
    .unavailable "Deterministic policy already denies this request; semantic call skipped"
      "unavailable" (by decide) (by decide)

/-- `call_judge`, given the decision of the preflight. -/
def callsJudge (preflight : PolicyResult) : Bool :=
  c.facts.validInput && c.requireJudge && preflight.decision ≠ .deny

/-- The signals of `_call`, from the judge's where it is called. -/
def signals (assess : JudgeSignal) : Except PyException (JudgeSignal × KSignal) := do
  let preflight ← c.decision probeJudge
  if c.callsJudge preflight then return (assess, c.agentK assess)
  return (c.skippedJudge, c.agentK probeJudge)

/-- The policy of `_call`. -/
def policy (assess : JudgeSignal) : Except PyException PolicyResult := do
  let (judge, agentK) ← c.signals assess
  evaluate c.rules c.pydantic c.facts judge agentK c.threshold c.contract

end JudgedCall

/-! ## What does not depend on the judge -/

/-- The reasons that a judge's signal can give. -/
def advisoryReasons : List String :=
  ["SEMANTIC_FAILURE", "SEMANTIC_REVIEW_REQUIRED", "AGENT_K_REVIEW_REQUIRED"]

section Advisory

variable {rules : TextRules Model} {p : Pydantic Model Args} {facts : PolicyFacts}
  {judge judge' : JudgeSignal} {agentK agentK' : KSignal} {threshold : PyNum}
  {contract : Option (InvocationContract Model)}

/-- The part of a signal of Agent K that a denial reads. -/
def KSignal.SameDenial (k k' : KSignal) : Prop :=
  k.containment = k'.containment ∧ (.repeatedDenial ∈ k.signals ↔ .repeatedDenial ∈ k'.signals)

lemma repeatedDenial_inspect (text : String) (judge : JudgeSignal) (denials : ℤ)
    (knownTool : Bool) :
    .repeatedDenial ∈ (inspect rules text judge denials knownTool).signals ↔ 2 ≤ denials := by
  have hmem (c : Prop) [Decidable c] (s : Signal) :
      .repeatedDenial ∈ (if c then [s] else []) ↔ c ∧ .repeatedDenial = s := by
    split <;> simp [*]
  have hnone (signals : List Signal) :
      .repeatedDenial ∈ (if signals = [] then [Signal.none] else signals) ↔
        .repeatedDenial ∈ signals := by
    by_cases h : signals = [] <;> simp [h]
  simp only [inspect]
  rw [hnone]
  simp only [List.mem_append, hmem]
  simp

/-- Agent K's part in a denial is the same for every judge. -/
lemma sameDenial_agentKSignal (enabled : Bool) (text : String) (judge judge' : JudgeSignal)
    (denials : ℤ) (knownTool : Bool) :
    (agentKSignal rules enabled text judge denials knownTool).SameDenial
      (agentKSignal rules enabled text judge' denials knownTool) := by
  unfold agentKSignal
  split
  · exact ⟨rfl, by rw [repeatedDenial_inspect, repeatedDenial_inspect]⟩
  · exact ⟨rfl, .rfl⟩

lemma denials_of_sameDenial (h : agentK.SameDenial agentK') :
    denials facts agentK = denials facts agentK' := by
  obtain ⟨hcontainment, hrepeated⟩ := h
  simp only [denials, hcontainment, hrepeated]

/-- A denial does not depend on the judge, nor on what Agent K makes of its signal. -/
lemma evaluate_deny_iff (h : agentK.SameDenial agentK') {reasons : List String} :
    evaluate rules p facts judge agentK threshold contract = .ok ⟨.deny, reasons⟩ ↔
      evaluate rules p facts judge' agentK' threshold contract = .ok ⟨.deny, reasons⟩ := by
  unfold evaluate
  rw [denials_of_sameDenial h]
  cases contractReasons p facts contract with
  | error e => exact .rfl
  | ok scope =>
      simp only [Except.ok_bind]
      split
      · exact .rfl
      · constructor <;> intro h <;> split at h <;> cases h

/-- What an evaluation raises, the contract raised. -/
lemma evaluate_eq_error {e : PyException} :
    evaluate rules p facts judge agentK threshold contract = .error e ↔
      contractReasons p facts contract = .error e := by
  unfold evaluate
  cases contractReasons p facts contract with
  | error e' => simp only [Except.error_bind, Except.error.injEq]
  | ok scope =>
      simp only [Except.ok_bind, reduceCtorEq, iff_false]
      split
      · nofun
      · split <;> nofun

/-- Invalid input is denied. -/
lemma deny_of_invalid (h : facts.validInput = false) {result : PolicyResult}
    (hresult : evaluate rules p facts judge agentK threshold contract = .ok result) :
    result.decision = .deny := by
  obtain ⟨scope, -, hresult⟩ := Except.bind_eq_ok.mp hresult
  have hdenied : rules.deniedReasons facts.text ++ scope ++ denials facts agentK ≠ [] := by
    simp [denials, h, reasonIf]
  simp only [if_pos hdenied] at hresult
  rw [← Except.pure_eq_ok.mp hresult]

/-- The reasons to review that a judge's signal does not give. -/
lemma reviews_eq_nil (h : reviews rules facts judge agentK threshold contract = []) {reason : String}
    (hreason : reason ∈ reviews rules facts judge' agentK' threshold contract) :
    reason ∈ advisoryReasons := by
  simp only [reviews, List.append_eq_nil_iff] at h
  obtain ⟨⟨⟨⟨⟨⟨⟨⟨hcontext, hrisk⟩, hliteral⟩, hbounded⟩, hprovenance⟩, hadapter⟩, hreview⟩, -⟩, -⟩ := h
  simp only [reviews, hcontext, hrisk, hliteral, hbounded, hprovenance, hadapter, hreview,
    List.nil_append, List.mem_append] at hreason
  rcases hreason with hsemantic | hagent
  · unfold semanticReasons at hsemantic
    split_ifs at hsemantic
    · rw [List.mem_singleton.mp hsemantic]
      decide
    · unfold reasonIf at hsemantic
      split at hsemantic
      · rw [List.mem_singleton.mp hsemantic]
        decide
      · cases hsemantic
    · cases hsemantic
  · unfold reasonIf at hagent
    split at hagent
    · rw [List.mem_singleton.mp hagent]
      decide
    · cases hagent

/-- Facts that some judge lets through are permitted or held by any other. -/
lemma evaluate_of_permit (h : agentK.SameDenial agentK') {result : PolicyResult}
    (hresult : evaluate rules p facts judge agentK threshold contract = .ok result)
    (hpermit : result.decision = .permit) :
    evaluate rules p facts judge' agentK' threshold contract = .ok result ∨
      ∃ reasons, evaluate rules p facts judge' agentK' threshold contract =
          .ok ⟨.reviewRequired, reasons⟩ ∧ ∀ reason ∈ reasons, reason ∈ advisoryReasons := by
  obtain ⟨hcontract, htext, hdenials, hreviews, hreasons⟩ := evaluate_permit hresult hpermit
  rw [denials_of_sameDenial h] at hdenials
  obtain ⟨decision, reasons⟩ := result
  subst hpermit hreasons
  simp only [evaluate, hcontract, htext, hdenials, Except.ok_bind, List.append_nil]
  rw [if_neg (by simp)]
  by_cases hreview : reviews rules facts judge' agentK' threshold contract = []
  · exact .inl (if_neg (not_not.mpr hreview))
  · exact .inr ⟨_, if_pos hreview, fun _ => reviews_eq_nil hreviews⟩

/-- What a permission says of the judge, where one is required. -/
lemma judge_of_permit {result : PolicyResult}
    (hresult : evaluate rules p facts judge agentK threshold contract = .ok result)
    (hpermit : result.decision = .permit) (hrequired : facts.semanticRequired = true) :
    judge.available = true ∧ judge.classification = .inScope ∧
      threshold.value ≤ judge.confidence.value ∧ judge.flags = [] := by
  obtain ⟨-, -, -, hreviews, -⟩ := evaluate_permit hresult hpermit
  simp only [reviews, List.append_eq_nil_iff] at hreviews
  obtain ⟨⟨-, hsemantic⟩, -⟩ := hreviews
  rw [semanticReasons, if_pos hrequired] at hsemantic
  split_ifs at hsemantic with havailable
  unfold reasonIf at hsemantic
  split_ifs at hsemantic with hconcern
  simpa [not_or, and_assoc] using And.intro (by simpa using havailable) hconcern

end Advisory

/-! ## The judge is advisory -/

/-- **The judge is advisory, and the preflight is exact.**
* The preflight denies if and only if the evaluation with any judge's signal denies, for the same
  reasons; so where a judge is required, `_call` decides as if it always asked.
* Where some signal permits, every other one permits or holds for review, and only the judge's
  own reasons and Agent K's are given for the review.
* A permission that requires a judge has one that is available, in scope, at the threshold and
  without flags. -/
theorem judge_advisory (c : JudgedCall Model Args) :
    (∀ judge reasons, c.decision probeJudge = .ok ⟨.deny, reasons⟩ ↔
      c.decision judge = .ok ⟨.deny, reasons⟩) ∧
    (c.requireJudge = true → ∀ judge, c.policy judge = c.decision judge) ∧
    (∀ judge result, c.decision judge = .ok result → result.decision = .permit →
      ∀ judge', c.decision judge' = .ok result ∨
        ∃ reasons, c.decision judge' = .ok ⟨.reviewRequired, reasons⟩ ∧
          ∀ reason ∈ reasons, reason ∈ advisoryReasons) ∧
    ∀ judge result, c.decision judge = .ok result → result.decision = .permit →
      c.facts.semanticRequired = true →
      judge.available = true ∧ judge.classification = .inScope ∧
        c.threshold.value ≤ judge.confidence.value ∧ judge.flags = [] := by
  have hsame (judge judge' : JudgeSignal) : (c.agentK judge).SameDenial (c.agentK judge') :=
    sameDenial_agentKSignal _ _ _ _ _ _
  refine ⟨fun judge reasons => evaluate_deny_iff (hsame _ _), ?_,
    fun judge result h hpermit judge' => evaluate_of_permit (hsame _ _) h hpermit,
    fun judge result h hpermit => judge_of_permit h hpermit⟩
  intro hrequired judge
  cases hprobe : c.decision probeJudge with
  | error e =>
      have hraised : c.decision judge = .error e :=
        evaluate_eq_error.mpr (evaluate_eq_error.mp hprobe)
      rw [hraised, JudgedCall.policy, JudgedCall.signals, hprobe]
      rfl
  | ok preflight =>
      rw [JudgedCall.policy, JudgedCall.signals, hprobe, Except.ok_bind]
      by_cases hcalled : c.callsJudge preflight = true
      · rw [if_pos hcalled]
        rfl
      · rw [if_neg hcalled]
        have hdenied : preflight.decision = .deny := by
          by_contra hother
          cases hvalid : c.facts.validInput with
          | false => exact hother (deny_of_invalid hvalid hprobe)
          | true => simp [JudgedCall.callsJudge, hvalid, hrequired, hother] at hcalled
        obtain ⟨decision, reasons⟩ := preflight
        subst hdenied
        have hjudged : c.decision judge = .ok ⟨.deny, reasons⟩ :=
          (evaluate_deny_iff (hsame _ _)).mp hprobe
        rw [hjudged]
        exact (evaluate_deny_iff (hsame probeJudge probeJudge)).mp hprobe

end CivicGate
