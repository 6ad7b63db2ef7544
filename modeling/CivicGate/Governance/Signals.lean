import CivicGate.Framework.Json.Float

/-!
# Governance signals

The records the policy gate reads and writes (`models/governance.py`): the Judge's semantic
signal, Agent K's behavioural signal and the policy result.  The bounds the models enforce are
fields, so a signal out of bounds cannot be built.
-/

namespace CivicGate

/-- A policy decision. -/
inductive Decision
  | permit
  | deny
  | reviewRequired
  deriving DecidableEq

/-- The text of a decision. -/
def Decision.text : Decision → String
  | .permit => "PERMIT"
  | .deny => "DENY"
  | .reviewRequired => "REVIEW_REQUIRED"

lemma Decision.text_injective : Function.Injective Decision.text := by
  intro a b h
  cases a <;> cases b <;> first | rfl | exact absurd h (by decide)

/-- What the Judge takes a request to be. -/
inductive Classification
  | inScope
  | ambiguous
  | outOfScope
  | consequentialInterpretation
  | possibleAuthorityOverreach
  | insufficientInformation
  deriving DecidableEq

/-- The text of a classification. -/
def Classification.text : Classification → String
  | .inScope => "IN_SCOPE"
  | .ambiguous => "AMBIGUOUS"
  | .outOfScope => "OUT_OF_SCOPE"
  | .consequentialInterpretation => "CONSEQUENTIAL_INTERPRETATION"
  | .possibleAuthorityOverreach => "POSSIBLE_AUTHORITY_OVERREACH"
  | .insufficientInformation => "INSUFFICIENT_INFORMATION"

/-- A behavioural signal. -/
inductive Signal
  | none
  | authorityOverreach
  | outOfScopeData
  | repeatedDenial
  | toolScopeViolation
  | provenanceRisk
  | ambiguousTarget
  | containmentRecommended
  deriving DecidableEq

/-- The text of a signal. -/
def Signal.text : Signal → String
  | .none => "NONE"
  | .authorityOverreach => "AUTHORITY_OVERREACH"
  | .outOfScopeData => "OUT_OF_SCOPE_DATA"
  | .repeatedDenial => "REPEATED_DENIAL"
  | .toolScopeViolation => "TOOL_SCOPE_VIOLATION"
  | .provenanceRisk => "PROVENANCE_RISK"
  | .ambiguousTarget => "AMBIGUOUS_TARGET"
  | .containmentRecommended => "CONTAINMENT_RECOMMENDED"

/-- The Judge's semantic signal. -/
structure JudgeSignal where
  classification : Classification
  confidence : PyFloat
  rationale : String
  flags : List Signal
  available : Bool
  provider : String
  confidence_ge : 0 ≤ confidence.value
  confidence_le : confidence.value ≤ 1
  rationale_length : rationale.length ≤ 500
  flags_length : flags.length ≤ 8
  provider_length : provider.length ≤ 100

/-- `0.0` -/
def PyFloat.zero : PyFloat := ⟨['0', '.', '0'], by decide⟩

lemma PyFloat.value_zero : PyFloat.zero.value = 0 := by decide

/-- A `JudgeSignal` with the model's defaults but for the texts. -/
def JudgeSignal.unavailable (rationale provider : String) (hr : rationale.length ≤ 500)
    (hp : provider.length ≤ 100) : JudgeSignal where
  classification := .insufficientInformation
  confidence := .zero
  rationale := rationale
  flags := []
  available := false
  provider := provider
  confidence_ge := by rw [PyFloat.value_zero]
  confidence_le := by rw [PyFloat.value_zero]; decide
  rationale_length := hr
  flags_length := by decide
  provider_length := hp

/-- Agent K's signal. -/
structure KSignal where
  signals : List Signal
  containment : Bool
  signals_length : signals.length ≤ 8

/-- `KSignal()` -/
def KSignal.default : KSignal := ⟨[.none], false, by decide⟩

/-- The result of the policy gate. -/
structure PolicyResult where
  decision : Decision
  reasons : List String
  deriving DecidableEq

end CivicGate
