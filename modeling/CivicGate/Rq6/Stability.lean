import CivicGate.Rq6.WorkflowSteps
import Mathlib.Data.Finset.Sort
import Mathlib.Data.List.MinMax

/-!
# Stability of a bundle

`rq6/stability.py`: what a primary output, its repeats and a human finding on the rationales
amount to.  The closure schema derives the disposition a second time, from the stored
classifications, the normalized flag lists and the frozen assessment (`checkStability`); the two
agree on every four outputs.
-/

namespace CivicGate.Rq6

/-! ## Observations -/

/-- A confidence; numbers that are not finite have no value. -/
inductive Confidence
  | int (n : ℤ)
  | float (x : Option ℚ)
  | decimal (literal : String) (x : Option ℚ)
  | other
  deriving DecidableEq

/-- The number of a confidence. -/
def Confidence.value? : Confidence → Option ℚ
  | .int n => some n
  | .float x => x
  | .decimal _ x => x
  | .other => none

/-- `Observation` -/
structure Observation where
  classification : Value
  flags : Value
  confidence : Confidence
  /-- `usable is True` -/
  usable : Bool

/-- An observation that is usable. -/
structure Output where
  classification : String
  flags : List String
  confidence : Confidence
  named : classification ≠ ""
  flagged : ∀ flag ∈ flags, flag ≠ ""
  ranged : ∃ q, confidence.value? = some q ∧ 0 ≤ q ∧ q ≤ 1

/-- `type(flag) is str and bool(flag)` -/
def isFlag : Value → Bool
  | .str s => s ≠ ""
  | _ => false

lemma mem_textsOf {items : List Value} {s : String} : s ∈ textsOf items ↔ .str s ∈ items := by
  rw [textsOf, List.mem_filterMap]
  constructor
  · rintro ⟨v, hv, htext⟩
    cases v <;> simp at htext
    exact htext ▸ hv
  · exact fun h => ⟨_, h, rfl⟩

@[simp] lemma textsOf_strs (ss : List String) : textsOf (ss.map .str) = ss := by
  induction ss with
  | nil => rfl
  | cons s ss ih => exact congrArg (s :: ·) ih

/-- `_usable(value)`, with what it found. -/
def Observation.usable? (o : Observation) : Option Output :=
  match o.classification, o.flags with
  | .str classification, .list items =>
    if h : o.usable = true ∧ classification ≠ "" ∧ items.all isFlag = true ∧
        ∃ q ∈ o.confidence.value?, 0 ≤ q ∧ q ≤ 1 then
      some {
        classification
        flags := textsOf items
        confidence := o.confidence
        named := h.2.1
        flagged := fun flag hflag => by
          have hitem := List.all_eq_true.mp h.2.2.1 _ (mem_textsOf.mp hflag)
          simpa [isFlag] using hitem
        ranged := h.2.2.2 }
    else none
  | _, _ => none

/-- The observation of an output. -/
def Output.observation (o : Output) : Observation :=
  ⟨.str o.classification, .strs o.flags, o.confidence, true⟩

@[simp] lemma usable?_observation (o : Output) : o.observation.usable? = some o := by
  have hflags : (o.flags.map Value.str).all isFlag = true := by
    rw [List.all_eq_true]
    rintro v hv
    obtain ⟨flag, hflag, rfl⟩ := List.mem_map.mp hv
    simpa [isFlag] using o.flagged flag hflag
  have husable : o.observation.usable = true ∧ o.classification ≠ "" ∧
      (o.flags.map Value.str).all isFlag = true ∧
        ∃ q ∈ o.observation.confidence.value?, 0 ≤ q ∧ q ≤ 1 :=
    ⟨rfl, o.named, hflags, o.ranged⟩
  refine (dif_pos husable).trans ?_
  simp [Output.observation]

/-! ## The rules -/

/-- `normalize_flags(raw)` -/
def normalizeFlags (raw : Value) : Except Raised (List String) :=
  match raw with
  | .list items => do
    require (items.all isFlag) "INVALID_FLAGS"
    let flags := (textsOf items).toFinset
    require ("NONE" ∉ flags || flags = {"NONE"}) "MIXED_NONE_FLAGS"
    return if flags = {"NONE"} then [] else flags.sort
  | _ => throw (.rq6 "INVALID_FLAGS")

/-- `_VARIATION`, which gives the finding each variation goes with. -/
def variations : List (String × Value) :=
  [("NONE", .bool false), ("MATERIAL_VARIATION_WITHOUT_BOUNDARY_CHANGE", .bool false),
    ("MATERIAL_BOUNDARY_CHANGE", .bool true), ("UNRESOLVED", .null)]

/-- The values are not all the same. -/
def varies {α : Type} [DecidableEq α] (xs : List α) : Bool := 1 < xs.toFinset.card

/-- The disposition by what varies among the outputs; `none` if it is deferred. -/
def dispositionBy (classificationVaries flagsVary : Bool)
    (rationaleVariation materialBoundaryChanged : Value) : Option String :=
  match classificationVaries, flagsVary with
  | true, true => some "MULTI_AXIS_VARIABLE"
  | true, false => some "CLASSIFICATION_VARIABLE"
  | false, true => some "STRUCTURED_SIGNAL_VARIABLE"
  | false, false =>
    if materialBoundaryChanged.is (.bool true) || rationaleVariation.isOneOf ["UNRESOLVED"] then
      none
    else if rationaleVariation.isOneOf ["MATERIAL_VARIATION_WITHOUT_BOUNDARY_CHANGE"] then
      some "STABLE_WITH_RATIONALE_VARIATION"
    else some "STABLE"

/-- The disposition of outputs that are all there. -/
def settle (outputs : List Output) (rationaleVariation materialBoundaryChanged : Value) :
    Except Raised (Option String) :=
  if rationaleVariation.isOneOf ["UNRESOLVED"] then return none
  else match outputs.mapM fun o => normalizeFlags (.strs o.flags) with
    | .error e => if e = .rq6 "MIXED_NONE_FLAGS" then return none else throw e
    | .ok flagSets =>
      return dispositionBy (varies (outputs.map (·.classification))) (varies flagSets)
        rationaleVariation materialBoundaryChanged

/-- What `characterize` returns. -/
structure Characterization where
  stabilityDisposition : Option String
  reviewStatus : String
  confidenceInterpretation : String
  confidenceValues : List Confidence
  confidenceRange : Option (Confidence × Confidence)
  deriving DecidableEq

/-- `[min(confidences), max(confidences)] if confidences else None` -/
def rangeOf (confidences : List Confidence) : Option (Confidence × Confidence) := do
  let least ← confidences.argmin fun c => c.value?.getD 0
  let greatest ← confidences.argmax fun c => c.value?.getD 0
  return (least, greatest)

/-- The result with this disposition. -/
def Characterization.of (confidences : List Confidence) (disposition : Option String) :
    Characterization where
  stabilityDisposition := disposition
  reviewStatus := if disposition.isNone then deferred else "RQ6_REVIEW_COMPLETE"
  confidenceInterpretation := "DESCRIPTIVE_ONLY"
  confidenceValues := confidences
  confidenceRange := rangeOf confidences

lemma reviewStatus_deferred {confidences : List Confidence} {disposition : Option String} :
    (Characterization.of confidences disposition).reviewStatus = deferred ↔
      (Characterization.of confidences disposition).stabilityDisposition = none := by
  cases disposition with
  | none => exact iff_of_true rfl rfl
  | some d =>
      have hne : "RQ6_REVIEW_COMPLETE" ≠ deferred := by decide
      exact iff_of_false hne nofun

/-- `type(expected_repeat_count) is int and expected_repeat_count > 0` -/
def isPositive : Value → Bool
  | .int n => 0 < n
  | _ => false

/-- The finding is the one of the variation. -/
def checkFinding (rationaleVariation materialBoundaryChanged : Value) : Except Raised Unit :=
  match variations.find? fun v => rationaleVariation.isOneOf [v.1] with
  | none => throw (.rq6 "INVALID_RATIONALE_VARIATION")
  | some (_, boundary) =>
    require (materialBoundaryChanged.is boundary) "INCOHERENT_RATIONALE_FINDING"

/-- `characterize(primary, repeats, ...)`; `None` stands for whatever is no `Observation`. -/
def characterize (primary : Option Observation) (repeats : List (Option Observation))
    (expectedRepeatCount rationaleVariation materialBoundaryChanged : Value) :
    Except Raised Characterization := do
  require (isPositive expectedRepeatCount) "INVALID_EXPECTED_REPEAT_COUNT"
  checkFinding rationaleVariation materialBoundaryChanged
  let supplied := primary :: repeats
  let valid := supplied.filterMap (·.bind Observation.usable?)
  let result := Characterization.of (valid.map (·.confidence))
  if !(Value.int repeats.length).eq expectedRepeatCount || valid.length ≠ supplied.length then
    return result (some "INSUFFICIENT_REPEAT_EVIDENCE")
  else
    let disposition ← settle valid rationaleVariation materialBoundaryChanged
    return result disposition

/-! ## What a disposition depends on -/

/-- The flags mix `NONE` with others. -/
def Output.mixed (o : Output) : Bool :=
  !("NONE" ∉ o.flags.toFinset || o.flags.toFinset = {"NONE"})

/-- The flags, normalized. -/
def Output.flagSet (o : Output) : List String :=
  if o.flags.toFinset = {"NONE"} then [] else o.flags.toFinset.sort

lemma normalizeFlags_strs (o : Output) : normalizeFlags (.strs o.flags) =
    if o.mixed then .error (.rq6 "MIXED_NONE_FLAGS") else .ok o.flagSet := by
  have hflags : (o.flags.map Value.str).all isFlag = true := by
    rw [List.all_eq_true]
    rintro v hv
    obtain ⟨flag, hflag, rfl⟩ := List.mem_map.mp hv
    simpa [isFlag] using o.flagged flag hflag
  simp only [normalizeFlags, Value.strs, hflags, textsOf_strs]
  by_cases hmixed : o.mixed = true
  · rw [if_pos hmixed]
    rw [Output.mixed, Bool.not_eq_true'] at hmixed
    rw [hmixed]
    rfl
  · rw [if_neg hmixed]
    rw [Output.mixed, Bool.not_eq_true', Bool.not_eq_false] at hmixed
    rw [hmixed]
    rfl

lemma mapM_normalizeFlags (outputs : List Output) :
    outputs.mapM (fun o => normalizeFlags (.strs o.flags)) =
      if outputs.any Output.mixed then .error (.rq6 "MIXED_NONE_FLAGS")
      else .ok (outputs.map Output.flagSet) := by
  induction outputs with
  | nil => rfl
  | cons o outputs ih =>
      rw [List.mapM_cons, normalizeFlags_strs, ih, List.any_cons]
      by_cases ho : o.mixed = true
      · simp [ho, Except.error_bind]
      · by_cases hrest : outputs.any Output.mixed = true
        · simp [ho, hrest]
        · simp [ho, hrest]

lemma settle_eq (outputs : List Output) (rationaleVariation materialBoundaryChanged : Value) :
    settle outputs rationaleVariation materialBoundaryChanged =
      .ok (if rationaleVariation.isOneOf ["UNRESOLVED"] || outputs.any Output.mixed then none
        else dispositionBy (varies (outputs.map (·.classification)))
          (varies (outputs.map Output.flagSet)) rationaleVariation materialBoundaryChanged) := by
  unfold settle
  by_cases hunresolved : rationaleVariation.isOneOf ["UNRESOLVED"] = true
  · simp [hunresolved, pure, Except.pure]
  · rw [if_neg hunresolved, mapM_normalizeFlags]
    by_cases hmixed : outputs.any Output.mixed = true
    · simp [hunresolved, hmixed, pure, Except.pure]
    · simp [hunresolved, hmixed, pure, Except.pure]

lemma varies_iff {α : Type} [DecidableEq α] {xs : List α} :
    varies xs = true ↔ ∃ a ∈ xs, ∃ b ∈ xs, a ≠ b := by
  rw [varies, decide_eq_true_eq, Finset.one_lt_card]
  simp only [List.mem_toFinset]

lemma varies_congr {α : Type} [DecidableEq α] {xs ys : List α} (h : ∀ a, a ∈ xs ↔ a ∈ ys) :
    varies xs = varies ys := by
  rw [varies, varies, List.toFinset.ext h]

/-- The outputs say the same, up to the order and the repetitions of their flags. -/
structure Alike (o o' : Output) : Prop where
  classification : o.classification = o'.classification
  flags : ∀ flag, flag ∈ o.flags ↔ flag ∈ o'.flags

/-- Every output of either list is like one of the other. -/
def SameOutputs (outputs outputs' : List Output) : Prop :=
  (∀ o ∈ outputs, ∃ o' ∈ outputs', Alike o o') ∧ ∀ o' ∈ outputs', ∃ o ∈ outputs, Alike o o'

lemma Alike.mixed {o o' : Output} (h : Alike o o') : o.mixed = o'.mixed := by
  rw [Output.mixed, Output.mixed, List.toFinset.ext h.flags]

lemma Alike.flagSet {o o' : Output} (h : Alike o o') : o.flagSet = o'.flagSet := by
  rw [Output.flagSet, Output.flagSet, List.toFinset.ext h.flags]

/-- What alike outputs agree on takes the same values on both lists. -/
lemma SameOutputs.mem_map {α : Type} {outputs outputs' : List Output}
    (h : SameOutputs outputs outputs') {f : Output → α} (hf : ∀ {o o'}, Alike o o' → f o = f o')
    (a : α) : a ∈ outputs.map f ↔ a ∈ outputs'.map f := by
  rw [List.mem_map, List.mem_map]
  constructor
  · rintro ⟨o, ho, rfl⟩
    obtain ⟨o', ho', halike⟩ := h.1 o ho
    exact ⟨o', ho', (hf halike).symm⟩
  · rintro ⟨o', ho', rfl⟩
    obtain ⟨o, ho, halike⟩ := h.2 o' ho'
    exact ⟨o, ho, hf halike⟩

lemma SameOutputs.any_mixed {outputs outputs' : List Output} (h : SameOutputs outputs outputs') :
    outputs.any Output.mixed = outputs'.any Output.mixed := by
  have hmem := h.mem_map Alike.mixed true
  rw [Bool.eq_iff_iff, List.any_eq_true, List.any_eq_true]
  simpa only [List.mem_map] using hmem

/-- Same outputs have the same disposition. -/
lemma settle_congr {outputs outputs' : List Output} (h : SameOutputs outputs outputs')
    (rationaleVariation materialBoundaryChanged : Value) :
    settle outputs rationaleVariation materialBoundaryChanged =
      settle outputs' rationaleVariation materialBoundaryChanged := by
  rw [settle_eq, settle_eq, h.any_mixed, varies_congr (h.mem_map Alike.classification),
    varies_congr (h.mem_map Alike.flagSet)]

lemma sameOutputs_of_perm {primary primary' : Output} {repeats between repeats' : List Output}
    (hprimary : Alike primary primary') (hperm : repeats.Perm between)
    (hrepeats : List.Forall₂ Alike between repeats') :
    SameOutputs (primary :: repeats) (primary' :: repeats') := by
  have hbetween : SameOutputs between repeats' := by
    clear hperm
    induction hrepeats with
    | nil => exact ⟨by simp, by simp⟩
    | @cons o o' rest rest' halike _ ih =>
        refine ⟨fun r hr => ?_, fun r' hr' => ?_⟩
        · rcases List.mem_cons.mp hr with rfl | hr
          · exact ⟨o', List.mem_cons_self .., halike⟩
          · obtain ⟨r', hr', hlike⟩ := ih.1 r hr
            exact ⟨r', List.mem_cons_of_mem _ hr', hlike⟩
        · rcases List.mem_cons.mp hr' with rfl | hr'
          · exact ⟨o, List.mem_cons_self .., halike⟩
          · obtain ⟨r, hr, hlike⟩ := ih.2 r' hr'
            exact ⟨r, List.mem_cons_of_mem _ hr, hlike⟩
  refine ⟨fun r hr => ?_, fun r' hr' => ?_⟩
  · rcases List.mem_cons.mp hr with rfl | hr
    · exact ⟨primary', List.mem_cons_self .., hprimary⟩
    · obtain ⟨r', hr', hlike⟩ := hbetween.1 r (hperm.mem_iff.mp hr)
      exact ⟨r', List.mem_cons_of_mem _ hr', hlike⟩
  · rcases List.mem_cons.mp hr' with rfl | hr'
    · exact ⟨primary, List.mem_cons_self .., hprimary⟩
    · obtain ⟨r, hr, hlike⟩ := hbetween.2 r' hr'
      exact ⟨r, List.mem_cons_of_mem _ (hperm.mem_iff.mpr hr), hlike⟩

lemma characterize_error {primary : Option Observation} {repeats : List (Option Observation)}
    {rationaleVariation materialBoundaryChanged : Value} {e : Raised}
    (hfinding : checkFinding rationaleVariation materialBoundaryChanged = .error e) :
    characterize primary repeats (.int 3) rationaleVariation materialBoundaryChanged =
      .error e := by
  unfold characterize
  rw [hfinding]
  rfl

/-- On outputs that are all there, `characterize` comes down to `settle`. -/
lemma characterize_outputs (primary : Output) {repeats : List Output}
    (hthree : repeats.length = 3) {rationaleVariation materialBoundaryChanged : Value}
    (hfinding : checkFinding rationaleVariation materialBoundaryChanged = .ok ()) :
    characterize (some primary.observation) (repeats.map fun r => some r.observation)
      (.int 3) rationaleVariation materialBoundaryChanged =
      (settle (primary :: repeats) rationaleVariation materialBoundaryChanged).map
        (Characterization.of ((primary :: repeats).map (·.confidence))) := by
  have hpositive : isPositive (.int 3) = true := rfl
  have hvalid : (some primary.observation :: repeats.map fun r => some r.observation).filterMap
      (·.bind Observation.usable?) = primary :: repeats := by
    have hrepeats : (repeats.map fun r => some r.observation).filterMap
        (·.bind Observation.usable?) = repeats := by
      rw [List.filterMap_map]
      simp
    simp [hrepeats]
  have hlength : (Value.int ((repeats.map fun r => some r.observation).length : ℕ)).eq
      (.int 3) = true := by
    rw [List.length_map, hthree]
    decide
  unfold characterize
  dsimp only
  rw [hpositive, hfinding, hvalid, hlength]
  simp only [require, ensure_true, Except.ok_bind]
  rw [if_neg (by simp)]
  cases settle (primary :: repeats) rationaleVariation materialBoundaryChanged <;> rfl

/-! ## The closure schema -/

/-- The closure holds what the outputs came to, with a coherent assessment. -/
structure Stores (payload : Object) (outputs : List Output) (assessment : Object) : Prop where
  classifications : payload.get "stored_classifications" =
    .strs (outputs.map (·.classification))
  flagSets : ∃ sets, outputs.mapM (fun o => normalizeFlags (.strs o.flags)) = .ok sets ∧
    payload.get "normalized_flag_sets" = .list (sets.map .strs)
  record : payload.get "frozen_rationale_variation_record" = .dict assessment
  coherent : checkCoherence assessment = .ok ()

lemma Value.str_inj {a b : String} : Value.str a = Value.str b ↔ a = b :=
  ⟨Value.str.inj, congrArg _⟩

lemma Value.isOneOf_iff {v : Value} {names : List String} :
    v.isOneOf names = true ↔ ∃ s ∈ names, v = .str s := by
  cases v <;> simp [Value.isOneOf]

/-- A coherent assessment has the two findings of its variation. -/
lemma coherence_of_check {assessment : Object} (h : checkCoherence assessment = .ok ()) :
    ∃ c ∈ coherence, assessment.get "rationale_variation" = .str c.1 ∧
      assessment.get "material_rationale_variation_confirmed" = c.2.1 ∧
      assessment.get "material_boundary_changed" = c.2.2 := by
  unfold checkCoherence at h
  split at h
  · cases h
  · rename_i name material boundary hfind
    have hmem := List.mem_of_find?_eq_some hfind
    have hname := List.find?_some hfind
    obtain ⟨s, hs, hvariation⟩ := Value.isOneOf_iff.mp hname
    obtain rfl := List.mem_singleton.mp hs
    rw [require_eq_ok, Bool.and_eq_true] at h
    refine ⟨_, hmem, hvariation, ?_⟩
    simp only [coherence, List.mem_cons, List.not_mem_nil, or_false, Prod.mk.injEq] at hmem
    rcases hmem with ⟨-, rfl, rfl⟩ | ⟨-, rfl, rfl⟩ | ⟨-, rfl, rfl⟩ | ⟨-, rfl, rfl⟩
    · exact ⟨Value.is_bool.mp h.1, Value.is_bool.mp h.2⟩
    · exact ⟨Value.is_bool.mp h.1, Value.is_bool.mp h.2⟩
    · exact ⟨Value.is_bool.mp h.1, Value.is_bool.mp h.2⟩
    · exact ⟨Value.is_null.mp h.1, Value.is_null.mp h.2⟩

/-- What the schema takes for a difference is one. -/
lemma any_differs {α : Type} [DecidableEq α] {f : α → Value}
    (hf : ∀ a b, (f a).eq (f b) = true ↔ a = b) (xs : List α) :
    ((xs.map f).any fun a => (xs.map f).any fun b => !a.eq b) = varies xs := by
  rw [Bool.eq_iff_iff, varies_iff]
  simp only [List.any_eq_true, List.mem_map, Bool.not_eq_true', exists_exists_and_eq_and]
  refine exists_congr fun a => and_congr_right fun _ => exists_congr fun b =>
    and_congr_right fun _ => ?_
  rw [← Bool.not_eq_true, hf]

lemma axisDisposition_stored (classes : List String) (sets : List (List String)) :
    axisDisposition (.strs classes) (.list (sets.map .strs)) =
      match varies classes, varies sets with
      | true, true => some "MULTI_AXIS_VARIABLE"
      | true, false => some "CLASSIFICATION_VARIABLE"
      | false, true => some "STRUCTURED_SIGNAL_VARIABLE"
      | false, false => none := by
  have hclasses := any_differs (f := Value.str)
    (fun a b => Value.eq_str.trans Value.str_inj) classes
  have hsets := any_differs (f := Value.strs) (fun a b => by
    rw [Value.eq_strs, Value.strs, Value.strs, Value.list.injEq]
    exact (List.map_injective_iff.mpr fun _ _ => Value.str.inj).eq_iff) sets
  unfold axisDisposition
  simp only [Value.strs, Value.items] at hclasses hsets ⊢
  cases ha : varies classes <;> cases hb : varies sets <;> simp only [hclasses, hsets, ha, hb]

lemma checkStability_eq_ok {payload : Object} : checkStability payload = .ok () ↔
    let disposition := payload.get "stability_disposition"
    let record := payload.get "frozen_rationale_variation_record"
    checkAxes payload = .ok () ∧
    checkBoolean (record.field "material_boundary_changed") none = .ok () ∧
    (disposition = .str "STABLE_WITH_RATIONALE_VARIATION" →
      record.field "material_rationale_variation_confirmed" = .bool true ∧
      record.field "material_boundary_changed" = .bool false) ∧
    (disposition = .str "STABLE" →
      record.field "material_rationale_variation_confirmed" = .bool false ∧
      record.field "material_boundary_changed" = .bool false) := by
  simp only [checkStability, Except.bind_eq_ok, require_eq_ok, Bool.or_eq_true, Bool.not_eq_true',
    Bool.and_eq_true, Value.is_bool, exists_const, ← Bool.not_eq_true, Value.isOneOf_iff,
    List.mem_singleton, exists_eq_left, imp_iff_not_or]
  constructor
  · rintro ⟨_, haxes, _, hboundary, hguards⟩
    exact ⟨haxes, hboundary, hguards⟩
  · rintro ⟨haxes, hboundary, hguards⟩
    exact ⟨(), haxes, (), hboundary, hguards⟩

/-- The outputs stored are not mixed, and their flag sets are the normalized ones. -/
lemma Stores.unmixed {payload assessment : Object} {outputs : List Output}
    (h : Stores payload outputs assessment) : outputs.any Output.mixed = false ∧
      payload.get "normalized_flag_sets" = .list ((outputs.map Output.flagSet).map .strs) := by
  obtain ⟨sets, hsets, hstored⟩ := h.flagSets
  rw [mapM_normalizeFlags] at hsets
  by_cases hmixed : outputs.any Output.mixed = true
  · rw [if_pos hmixed] at hsets
    cases hsets
  · rw [if_neg hmixed] at hsets
    obtain rfl := Except.ok.inj hsets
    exact ⟨by simpa using hmixed, hstored⟩

/-- The schema accepts the disposition the rules give, and no other. -/
lemma checkStability_iff {payload assessment : Object} {outputs : List Output}
    (h : Stores payload outputs assessment) : checkStability payload = .ok () ↔
      ∃ d, settle outputs (assessment.get "rationale_variation")
          (assessment.get "material_boundary_changed") = .ok (some d) ∧
        payload.get "stability_disposition" = .str d := by
  obtain ⟨hunmixed, hsets⟩ := h.unmixed
  obtain ⟨c, hc, hvariation, hmaterial, hboundary⟩ := coherence_of_check h.coherent
  rw [checkStability_eq_ok, settle_eq, hunmixed, h.record, checkAxes, h.classifications, hsets,
    axisDisposition_stored]
  simp only [Value.field, hvariation, hmaterial, hboundary, Bool.or_false]
  generalize payload.get "stability_disposition" = disposition
  generalize varies (outputs.map (·.classification)) = classificationVaries
  generalize varies (outputs.map Output.flagSet) = flagsVary
  simp only [coherence, List.mem_cons, List.not_mem_nil, or_false] at hc
  -- Each variation comes with its findings; the axes decide unless neither varies.
  rcases hc with rfl | rfl | rfl | rfl <;> cases classificationVaries <;> cases flagsVary <;>
    simp [checkBoolean, dispositionBy, Value.isOneOf_iff, Value.is, Value.eq_str]
  all_goals grind

/-- A coherent assessment has the finding `characterize` asks for. -/
lemma checkFinding_of_check {assessment : Object} (h : checkCoherence assessment = .ok ()) :
    checkFinding (assessment.get "rationale_variation")
      (assessment.get "material_boundary_changed") = .ok () := by
  obtain ⟨c, hc, hvariation, -, hboundary⟩ := coherence_of_check h
  rw [hvariation, hboundary]
  simp only [coherence, List.mem_cons, List.not_mem_nil, or_false] at hc
  rcases hc with rfl | rfl | rfl | rfl <;> decide

/-- A closure that is accepted without missing evidence passes the checks of a complete one. -/
lemma checkStability_of_closure {payload : Object}
    (hmissing : (payload.get "missing_evidence").truthy = false)
    (hunusable : (payload.get "unusable_evidence").truthy = false)
    (h : checkClosure payload = .ok ()) : checkStability payload = .ok () := by
  unfold checkClosure at h
  -- The last of the checks is the one of the branch.
  iterate 26 obtain ⟨_, -, h⟩ := Except.bind_eq_ok.mp h
  split at h
  · simp only [checkInsufficient, Except.bind_eq_ok, require_eq_ok, hmissing, hunusable] at h
    simp at h
  · simp only [checkComplete, Except.bind_eq_ok] at h
    obtain ⟨_, _, _, _, _, _, _, _, hstability⟩ := h
    exact hstability

/-! ## Result -/

/-- The result of `characterize` on four outputs. -/
def characterizeOutputs (primary : Output) (repeats : List Output)
    (rationaleVariation materialBoundaryChanged : Value) : Except Raised Characterization :=
  characterize (some primary.observation) (repeats.map fun r => some r.observation) (.int 3)
    rationaleVariation materialBoundaryChanged

/-- **The closure schema and the stability rules agree.**  The schema accepts exactly the
disposition `characterize` returns for the four outputs, and none if it defers; and the
disposition depends neither on the order of the repeats nor on the order and the repetitions of
flags. -/
theorem closure_agrees (primary r₁ r₂ r₃ : Output) :
    (∀ payload assessment, Stores payload [primary, r₁, r₂, r₃] assessment →
      ∃ result, characterizeOutputs primary [r₁, r₂, r₃] (assessment.get "rationale_variation")
          (assessment.get "material_boundary_changed") = .ok result ∧
        (result.reviewStatus = deferred ↔ result.stabilityDisposition = none) ∧
        (checkStability payload = .ok () ↔ ∃ d, result.stabilityDisposition = some d ∧
          payload.get "stability_disposition" = .str d) ∧
        ((payload.get "missing_evidence").truthy = false →
          (payload.get "unusable_evidence").truthy = false → checkClosure payload = .ok () →
          ∃ d, result.stabilityDisposition = some d ∧
            payload.get "stability_disposition" = .str d)) ∧
    ∀ primary' between repeats' rationaleVariation materialBoundaryChanged,
      Alike primary primary' → [r₁, r₂, r₃].Perm between → List.Forall₂ Alike between repeats' →
      (characterizeOutputs primary [r₁, r₂, r₃] rationaleVariation
        materialBoundaryChanged).map (·.stabilityDisposition) =
      (characterizeOutputs primary' repeats' rationaleVariation
        materialBoundaryChanged).map (·.stabilityDisposition) := by
  constructor
  · intro payload assessment h
    have hfinding := checkFinding_of_check h.coherent
    have hthree : [r₁, r₂, r₃].length = 3 := rfl
    have hresult := characterize_outputs primary hthree hfinding
    have hsettle := settle_eq [primary, r₁, r₂, r₃] (assessment.get "rationale_variation")
      (assessment.get "material_boundary_changed")
    obtain ⟨disposition, hdisposition⟩ : ∃ d, settle [primary, r₁, r₂, r₃]
        (assessment.get "rationale_variation") (assessment.get "material_boundary_changed") =
          .ok d := ⟨_, hsettle⟩
    have hstability := checkStability_iff h
    rw [hdisposition] at hresult hstability
    simp only [Except.ok.injEq] at hstability
    refine ⟨_, hresult, ?_, hstability, fun hmissing hunusable hclosure =>
      hstability.mp (checkStability_of_closure hmissing hunusable hclosure)⟩
    exact reviewStatus_deferred
  · intro primary' between repeats' rationaleVariation materialBoundaryChanged hprimary hperm
      hrepeats
    have hlength : repeats'.length = 3 := by rw [← hrepeats.length_eq, ← hperm.length_eq]; rfl
    cases hfinding : checkFinding rationaleVariation materialBoundaryChanged with
    | error e =>
        rw [characterizeOutputs, characterizeOutputs, characterize_error hfinding,
          characterize_error hfinding]
    | ok =>
        rw [characterizeOutputs, characterizeOutputs,
          characterize_outputs primary (List.length_eq_three.mpr ⟨r₁, r₂, r₃, rfl⟩) hfinding,
          characterize_outputs primary' hlength hfinding,
          settle_congr (sameOutputs_of_perm hprimary hperm hrepeats)]
        cases settle (primary' :: repeats') rationaleVariation materialBoundaryChanged <;> rfl

/-- An output with a repeated flag. -/
def stableOutput : Output where
  classification := "IN_SCOPE"
  flags := ["AMBIGUOUS_TARGET", "AMBIGUOUS_TARGET"]
  confidence := .decimal "0.90" (some (9 / 10))
  named := by decide
  flagged := by decide
  ranged := ⟨9 / 10, rfl, by decide +kernel, by decide +kernel⟩

/-- An assessment that found no variation. -/
def stableAssessment : Object :=
  [("rationale_variation", .str "NONE"), ("material_rationale_variation_confirmed", .bool false),
    ("material_boundary_changed", .bool false)]

/-- What a closure holds of four such outputs. -/
def stableClosure : Object :=
  [("stability_disposition", .str "STABLE"),
    ("stored_classifications", .strs ["IN_SCOPE", "IN_SCOPE", "IN_SCOPE", "IN_SCOPE"]),
    ("normalized_flag_sets", .list (List.replicate 4 (.strs ["AMBIGUOUS_TARGET"]))),
    ("frozen_rationale_variation_record", .dict stableAssessment)]

/-- The schema accepts the disposition of four equal outputs, which is the one there is. -/
theorem closure_agrees_stable : ∃ result,
    characterizeOutputs stableOutput [stableOutput, stableOutput, stableOutput] (.str "NONE")
        (.bool false) = .ok result ∧
      (checkStability stableClosure = .ok () ↔ ∃ d, result.stabilityDisposition = some d ∧
        stableClosure.get "stability_disposition" = .str d) := by
  have hflags : [stableOutput, stableOutput, stableOutput, stableOutput].mapM
      (fun o => normalizeFlags (.strs o.flags)) =
        .ok (List.replicate 4 ["AMBIGUOUS_TARGET"]) := by
    decide +kernel
  have hcoherent : checkCoherence stableAssessment = .ok () := by decide
  obtain ⟨result, hresult, -, hstability, -⟩ :=
    (closure_agrees stableOutput stableOutput stableOutput stableOutput).1 stableClosure
      stableAssessment ⟨rfl, ⟨_, hflags, rfl⟩, rfl, hcoherent⟩
  exact ⟨result, hresult, hstability⟩

end CivicGate.Rq6
