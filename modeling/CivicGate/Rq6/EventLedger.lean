import CivicGate.Framework.Acceptor
import CivicGate.Rq6.WorkflowSafety

/-!
# The order of the ledger events

`EventLedger._check_order` of `rq6/artifacts.py` encodes the sequence of a bundle a second time,
beside `BundleWorkflow`: as the order in which the events of its ledger may stand.

`follows_iff` says which sequences it accepts.  `ledgers verify` is a workflow whose operations
are recorded as they take effect, with evidence limitations in between, and `Tally` relates the
workflow to the events recorded so far.  `ledger_order_agrees` is the result.
-/

namespace CivicGate.Rq6

open Program

/-! ## The order check -/

/-- `normal` -/
def normalOrder : List String :=
  ["ALIAS_COMMITMENT_FIXED",
    "UNIT_RELEASED", "HUMAN_RECEIPT_FIXED", "UNIT_CLOSURE_VERIFIED",
    "UNIT_RELEASED", "HUMAN_RECEIPT_FIXED", "UNIT_CLOSURE_VERIFIED",
    "UNIT_RELEASED", "HUMAN_RECEIPT_FIXED", "UNIT_CLOSURE_VERIFIED",
    "BUNDLE_MAPPING_REVEALED", "MECHANICAL_COMPARISON_RECORDED", "RATIONALE_ASSESSMENT_FIXED",
    "BUNDLE_CHARACTERIZATION_FIXED", "BUNDLE_CLOSURE_VERIFIED"]

def limitationEvent : String := "EVIDENCE_LIMITATION_RECORDED"

def closureEvent : String := "BUNDLE_CLOSURE_VERIFIED"

/-- The variables of the loop of `_check_order`. -/
structure LedgerOrder where
  limitation : Bool := false
  terminal : Bool := false
  normalIndex : ℕ := 0
  deriving DecidableEq

/-- `normal_index < len(normal) and kind == normal[normal_index]` -/
def LedgerOrder.expects (o : LedgerOrder) (kind : Value) : Bool :=
  normalOrder[o.normalIndex]?.any fun event => kind.eq (.str event)

/-- The order after an event of this type. -/
def LedgerOrder.read (o : LedgerOrder) (kind : Value) : Except Raised LedgerOrder :=
  if kind.eq (.str limitationEvent) then return { o with limitation := true }
  else if o.limitation then do
    require (kind.eq (.str closureEvent)) "LEDGER_LIMITATION_NOT_TERMINAL"
    return { o with terminal := true }
  else do
    require (o.expects kind) "LEDGER_EVENT_ORDER"
    return { o with
      normalIndex := o.normalIndex + 1, terminal := o.normalIndex + 1 = normalOrder.length }

/-- One round of `_check_order`. -/
def LedgerOrder.round (o : LedgerOrder) (event : ArtifactSnapshot) : Except Raised LedgerOrder := do
  require (!o.terminal) "LEDGER_EVENT_AFTER_TERMINAL"
  let payload ← event.data
  let kind ← payload.item "event_type"
  o.read kind

/-- `_check_order(events)` -/
def checkOrder (events : List ArtifactSnapshot) : Except Raised Unit := do
  let _ ← events.foldlM LedgerOrder.round {}

/-! ## What it accepts -/

/-- The snapshot is an event of this type. -/
def ArtifactSnapshot.HasType (event : ArtifactSnapshot) (kind : String) : Prop :=
  ∃ payload, event.data = .ok payload ∧ payload.item "event_type" = .ok (.str kind)

/-- A round, on the type of the event alone. -/
def LedgerOrder.advance (o : LedgerOrder) (kind : String) : Option LedgerOrder :=
  if o.terminal then none
  else if kind = limitationEvent then some { o with limitation := true }
  else if o.limitation then
    if kind = closureEvent then some { o with terminal := true } else none
  else if normalOrder[o.normalIndex]? = some kind then
    some { o with
      normalIndex := o.normalIndex + 1, terminal := o.normalIndex + 1 = normalOrder.length }
  else none

/-- What is read of a text is what the text does. -/
lemma read_str {o o' : LedgerOrder} {kind : String} (hopen : o.terminal = false) :
    o.read (.str kind) = .ok o' ↔ o.advance kind = some o' := by
  have hexpects : o.expects (.str kind) = true ↔ normalOrder[o.normalIndex]? = some kind := by
    simp only [LedgerOrder.expects, Option.any_eq_true, Value.eq_str, Value.str.injEq]
    exact ⟨fun ⟨_, h, he⟩ => he ▸ h, fun h => ⟨kind, h, rfl⟩⟩
  unfold LedgerOrder.read LedgerOrder.advance
  rw [hopen, if_neg Bool.false_ne_true]
  by_cases hlimitation : kind = limitationEvent
  · rw [if_pos (Value.eq_str.mpr (congrArg Value.str hlimitation)), if_pos hlimitation]
    simp
  · rw [if_neg (fun h => hlimitation (Value.str.inj (Value.eq_str.mp h))), if_neg hlimitation]
    by_cases hlimited : o.limitation = true
    · rw [if_pos hlimited, if_pos hlimited]
      simp only [Except.bind_eq_ok, require_eq_ok, Value.eq_str, Value.str.injEq,
        Except.pure_eq_ok]
      by_cases hclosure : kind = closureEvent
      · simp [hclosure]
      · simp [hclosure]
    · rw [if_neg hlimited, if_neg hlimited]
      simp only [Except.bind_eq_ok, require_eq_ok, hexpects, Except.pure_eq_ok]
      by_cases hnext : normalOrder[o.normalIndex]? = some kind
      · simp [hnext]
      · simp [hnext]

/-- Nothing but a text is read. -/
lemma str_of_read {o o' : LedgerOrder} {v : Value} (h : o.read v = .ok o') :
    ∃ kind, v = .str kind := by
  unfold LedgerOrder.read at h
  by_cases hlimitation : v.eq (.str limitationEvent) = true
  · exact ⟨_, Value.eq_str.mp hlimitation⟩
  · rw [if_neg hlimitation] at h
    by_cases hlimited : o.limitation = true
    · rw [if_pos hlimited, Except.bind_eq_ok] at h
      obtain ⟨_, hclosure, -⟩ := h
      exact ⟨_, Value.eq_str.mp (require_eq_ok.mp hclosure)⟩
    · rw [if_neg hlimited, Except.bind_eq_ok] at h
      obtain ⟨_, hexpects, -⟩ := h
      have hany := require_eq_ok.mp hexpects
      rw [LedgerOrder.expects, Option.any_eq_true] at hany
      obtain ⟨event, -, hevent⟩ := hany
      exact ⟨event, Value.eq_str.mp hevent⟩

lemma round_eq_ok {o o' : LedgerOrder} {event : ArtifactSnapshot} :
    o.round event = .ok o' ↔ ∃ kind, event.HasType kind ∧ o.advance kind = some o' := by
  unfold LedgerOrder.round ArtifactSnapshot.HasType
  simp only [Except.bind_eq_ok, require_eq_ok, Bool.not_eq_true']
  constructor
  · rintro ⟨_, hopen, payload, hdata, v, hv, hread⟩
    obtain ⟨kind, rfl⟩ := str_of_read hread
    exact ⟨kind, ⟨payload, hdata, hv⟩, (read_str hopen).mp hread⟩
  · rintro ⟨kind, ⟨payload, hdata, hv⟩, hadvance⟩
    have hopen : o.terminal = false := by
      by_contra h
      rw [Bool.not_eq_false] at h
      rw [LedgerOrder.advance, if_pos h] at hadvance
      cases hadvance
    exact ⟨(), hopen, payload, hdata, _, hv, (read_str hopen).mpr hadvance⟩

lemma rounds_eq_ok {events : List ArtifactSnapshot} {o o' : LedgerOrder} :
    events.foldlM LedgerOrder.round o = .ok o' ↔
      ∃ kinds, List.Forall₂ ArtifactSnapshot.HasType events kinds ∧
        accept LedgerOrder.advance o kinds = some o' := by
  induction events generalizing o with
  | nil => simp
  | cons event events ih =>
      rw [List.foldlM_cons, Except.bind_eq_ok]
      constructor
      · rintro ⟨u, hround, hrest⟩
        obtain ⟨kind, hkind, hadvance⟩ := round_eq_ok.mp hround
        obtain ⟨kinds, hkinds, haccept⟩ := ih.mp hrest
        refine ⟨kind :: kinds, .cons hkind hkinds, ?_⟩
        rw [accept_cons, hadvance]
        exact haccept
      · rintro ⟨_, hkinds, haccept⟩
        cases hkinds with
        | cons hkind hkinds =>
            rw [accept_cons, Option.bind_eq_some_iff] at haccept
            obtain ⟨u, hadvance, haccept⟩ := haccept
            exact ⟨u, round_eq_ok.mpr ⟨_, hkind, hadvance⟩, ih.mpr ⟨_, hkinds, haccept⟩⟩

lemma checkOrder_eq_ok {events : List ArtifactSnapshot} :
    checkOrder events = .ok () ↔ ∃ kinds, List.Forall₂ ArtifactSnapshot.HasType events kinds ∧
      ∃ o, accept LedgerOrder.advance {} kinds = some o := by
  unfold checkOrder
  simp only [Except.bind_eq_ok, rounds_eq_ok]
  constructor
  · rintro ⟨o, ⟨kinds, hkinds, haccept⟩, -⟩
    exact ⟨kinds, hkinds, o, haccept⟩
  · rintro ⟨kinds, hkinds, o, haccept⟩
    exact ⟨o, ⟨kinds, hkinds, haccept⟩, rfl⟩

/-- The accepted sequences: the normal order as far as it goes, or broken off by limitations and
perhaps closed. -/
inductive Follows : List String → LedgerOrder → Prop
  | normal {i : ℕ} (h : i ≤ normalOrder.length) :
      Follows (normalOrder.take i) ⟨false, i = normalOrder.length, i⟩
  | limited {i : ℕ} (m : ℕ) (h : i < normalOrder.length) :
      Follows (normalOrder.take i ++ List.replicate (m + 1) limitationEvent) ⟨true, false, i⟩
  | closed {i : ℕ} (m : ℕ) (h : i < normalOrder.length) :
      Follows (normalOrder.take i ++ List.replicate (m + 1) limitationEvent ++ [closureEvent])
        ⟨true, true, i⟩

lemma limitation_notMem : limitationEvent ∉ normalOrder := by decide

lemma take_concat {i : ℕ} {kind : String} (h : normalOrder[i]? = some kind) :
    normalOrder.take i ++ [kind] = normalOrder.take (i + 1) := by
  rw [List.take_add_one, h, Option.toList_some]

lemma follows_advance {kinds : List String} {o o' : LedgerOrder} {kind : String}
    (h : Follows kinds o) (hadvance : o.advance kind = some o') : Follows (kinds ++ [kind]) o' := by
  cases h with
  | closed m h => cases hadvance
  | limited m h =>
      simp only [LedgerOrder.advance, Bool.false_eq_true, if_false, if_true] at hadvance
      split at hadvance
      · rename_i hlimitation
        obtain rfl := Option.some.inj hadvance
        rw [hlimitation, List.append_assoc, ← List.replicate_succ']
        exact .limited (m + 1) h
      · split at hadvance
        · rename_i hclosure
          obtain rfl := Option.some.inj hadvance
          rw [hclosure]
          exact .closed m h
        · cases hadvance
  | @normal i h =>
      by_cases hend : i = normalOrder.length
      · rw [LedgerOrder.advance, if_pos (decide_eq_true hend)] at hadvance
        cases hadvance
      · have hlt : i < normalOrder.length := lt_of_le_of_ne h hend
        rw [LedgerOrder.advance, if_neg (by simpa using hend)] at hadvance
        split at hadvance
        · rename_i hlimitation
          obtain rfl := Option.some.inj hadvance
          rw [hlimitation, decide_eq_false hend]
          exact .limited 0 hlt
        · simp only [Bool.false_eq_true, if_false] at hadvance
          split at hadvance
          · rename_i hnext
            obtain rfl := Option.some.inj hadvance
            rw [take_concat hnext]
            exact .normal hlt
          · cases hadvance

lemma accept_normal {i : ℕ} (h : i ≤ normalOrder.length) :
    accept LedgerOrder.advance {} (normalOrder.take i) =
      some ⟨false, i = normalOrder.length, i⟩ := by
  induction i with
  | zero => rfl
  | succ i ih =>
      have hnext : normalOrder[i]? = some normalOrder[i] := List.getElem?_eq_getElem h
      have hne : normalOrder[i] ≠ limitationEvent := fun heq =>
        limitation_notMem (heq ▸ List.getElem_mem h)
      rw [← take_concat hnext, accept_concat_eq_some]
      refine ⟨_, ih (Nat.le_of_succ_le h), ?_⟩
      rw [decide_eq_false (Nat.ne_of_lt h), LedgerOrder.advance]
      simp [hne, hnext]

lemma accept_limited {i : ℕ} (m : ℕ) (h : i < normalOrder.length) :
    accept LedgerOrder.advance {}
      (normalOrder.take i ++ List.replicate (m + 1) limitationEvent) = some ⟨true, false, i⟩ := by
  induction m with
  | zero =>
      refine accept_concat_eq_some.mpr ⟨_, accept_normal h.le, ?_⟩
      rw [decide_eq_false h.ne]
      rfl
  | succ m ih =>
      rw [List.replicate_succ', ← List.append_assoc]
      exact accept_concat_eq_some.mpr ⟨_, ih, rfl⟩

/-- The order check accepts these sequences and no others. -/
lemma follows_iff {kinds : List String} {o : LedgerOrder} :
    accept LedgerOrder.advance {} kinds = some o ↔ Follows kinds o := by
  constructor
  · have hstart : Follows [] {} := .normal (Nat.zero_le _)
    exact accept_history hstart fun _ _ _ _ h hadvance => follows_advance h hadvance
  · intro h
    cases h with
    | normal h => exact accept_normal h
    | limited m h => exact accept_limited m h
    | closed m h => exact accept_concat_eq_some.mpr ⟨_, accept_limited m h, rfl⟩

/-- Before the reveal three units were closed, each after its release and its receipt, and a
limitation is followed by limitations and one closure at most. -/
structure Blinded (kinds : List String) : Prop where
  three : ∀ j, kinds[j]? = some "BUNDLE_MAPPING_REVEALED" →
    (kinds.take j).count "UNIT_CLOSURE_VERIFIED" = 3
  own : ∀ i j, kinds[j]? = some "BUNDLE_MAPPING_REVEALED" → i < j →
    kinds[i]? = some "UNIT_CLOSURE_VERIFIED" → 2 ≤ i ∧
      kinds[i - 2]? = some "UNIT_RELEASED" ∧ kinds[i - 1]? = some "HUMAN_RECEIPT_FIXED"
  limited : ∀ before after, kinds = before ++ limitationEvent :: after →
    ∃ m, after = List.replicate m limitationEvent ∨
      after = List.replicate m limitationEvent ++ [closureEvent]

lemma reveal_index {j : ℕ} (h : normalOrder[j]? = some "BUNDLE_MAPPING_REVEALED") : j = 10 := by
  have hj : j < normalOrder.length := (List.getElem?_eq_some_iff.mp h).1
  have hall : ∀ j < normalOrder.length,
      normalOrder[j]? = some "BUNDLE_MAPPING_REVEALED" → j = 10 := by decide
  exact hall j hj h

lemma closure_index {i : ℕ} (h : normalOrder[i]? = some "UNIT_CLOSURE_VERIFIED") :
    2 ≤ i ∧ normalOrder[i - 2]? = some "UNIT_RELEASED" ∧
      normalOrder[i - 1]? = some "HUMAN_RECEIPT_FIXED" := by
  have hi : i < normalOrder.length := (List.getElem?_eq_some_iff.mp h).1
  have hall : ∀ i < normalOrder.length, normalOrder[i]? = some "UNIT_CLOSURE_VERIFIED" →
      2 ≤ i ∧ normalOrder[i - 2]? = some "UNIT_RELEASED" ∧
        normalOrder[i - 1]? = some "HUMAN_RECEIPT_FIXED" := by decide
  exact hall i hi h

/-- What follows the normal order up to `i` holds no event that only the normal order has. -/
structure Tail (kinds : List String) (i : ℕ) (rest : List String) : Prop where
  kinds : kinds = normalOrder.take i ++ rest
  only : ∀ kind ∈ rest, kind = limitationEvent ∨ kind = closureEvent

lemma Tail.index {kinds rest : List String} {i j : ℕ} {kind : String} (h : Tail kinds i rest)
    (hj : kinds[j]? = some kind) (hlimitation : kind ≠ limitationEvent)
    (hclosure : kind ≠ closureEvent) :
    j < i ∧ j < normalOrder.length ∧ normalOrder[j]? = some kind := by
  rw [h.kinds] at hj
  rcases lt_or_ge j (normalOrder.take i).length with hlt | hge
  · rw [List.getElem?_append_left hlt] at hj
    rw [List.length_take, lt_min_iff] at hlt
    rw [List.getElem?_take_of_lt hlt.1] at hj
    exact ⟨hlt.1, hlt.2, hj⟩
  · rw [List.getElem?_append_right hge] at hj
    rcases h.only kind (List.mem_of_getElem? hj) with heq | heq
    · exact absurd heq hlimitation
    · exact absurd heq hclosure

lemma Tail.getElem? {kinds rest : List String} {i j : ℕ} (h : Tail kinds i rest) (hj : j < i)
    (hlength : j < normalOrder.length) : kinds[j]? = normalOrder[j]? := by
  have hlt : j < (normalOrder.take i).length := by
    rw [List.length_take]
    exact lt_min hj hlength
  rw [h.kinds, List.getElem?_append_left hlt, List.getElem?_take_of_lt hj]

lemma Follows.tail {kinds : List String} {o : LedgerOrder} (h : Follows kinds o) :
    ∃ i rest, Tail kinds i rest := by
  cases h with
  | @normal i h => exact ⟨i, [], (List.append_nil _).symm, nofun⟩
  | @limited i m h =>
      exact ⟨i, _, rfl, fun kind hkind => .inl (List.eq_of_mem_replicate hkind)⟩
  | @closed i m h =>
      refine ⟨i, _, List.append_assoc .., fun kind hkind => ?_⟩
      rcases List.mem_append.mp hkind with hmem | hmem
      · exact .inl (List.eq_of_mem_replicate hmem)
      · exact .inr (List.mem_singleton.mp hmem)

/-- After the first of the limitations come the others. -/
lemma split_replicate {xs before after : List String} {m : ℕ} {kind : String}
    (hxs : kind ∉ xs) (h : xs ++ List.replicate m kind = before ++ kind :: after) :
    ∃ n, after = List.replicate n kind := by
  rcases List.append_eq_append_iff.mp h with ⟨ys, rfl, hys⟩ | ⟨ys, rfl, hys⟩
  · refine ⟨after.length, List.eq_replicate_of_mem fun k hk => ?_⟩
    have hmem : k ∈ List.replicate m kind := by
      rw [hys]
      exact List.mem_append_right _ (List.mem_cons_of_mem _ hk)
    exact List.eq_of_mem_replicate hmem
  · cases ys with
    | nil =>
        refine ⟨after.length, List.eq_replicate_of_mem fun k hk => ?_⟩
        have hmem : k ∈ List.replicate m kind := by
          rw [List.nil_append] at hys
          rw [← hys]
          exact List.mem_cons_of_mem _ hk
        exact List.eq_of_mem_replicate hmem
    | cons y ys =>
        obtain ⟨rfl, -⟩ := List.cons_eq_cons.mp hys
        exact absurd (List.mem_append_right _ (List.mem_cons_self ..)) hxs

lemma limitation_notMem_take (i : ℕ) : limitationEvent ∉ normalOrder.take i :=
  fun h => limitation_notMem (List.mem_of_mem_take h)

lemma Follows.blinded {kinds : List String} {o : LedgerOrder} (h : Follows kinds o) :
    Blinded kinds := by
  obtain ⟨i, rest, htail⟩ := h.tail
  refine ⟨fun j hj => ?_, fun k j hj hkj hk => ?_, fun before after hsplit => ?_⟩
  · obtain ⟨hji, -, hreveal⟩ := htail.index hj (by decide) (by decide)
    obtain rfl := reveal_index hreveal
    have htake : kinds.take 10 = normalOrder.take 10 := by
      rw [htail.kinds, List.take_append_of_le_length (by
        rw [List.length_take]; exact le_min hji.le (by decide)), List.take_take,
        min_eq_left hji.le]
    rw [htake]
    decide
  · obtain ⟨hji, hlength, -⟩ := htail.index hj (by decide) (by decide)
    obtain ⟨-, -, hclosed⟩ := htail.index hk (by decide) (by decide)
    obtain ⟨htwo, hreleased, hreceipt⟩ := closure_index hclosed
    refine ⟨htwo, ?_, ?_⟩
    · rw [htail.getElem? (by omega) (by omega)]
      exact hreleased
    · rw [htail.getElem? (by omega) (by omega)]
      exact hreceipt
  · cases h with
    | @normal i h =>
        have hmem : limitationEvent ∈ normalOrder.take i := by
          rw [hsplit]
          exact List.mem_append_right _ (List.mem_cons_self ..)
        exact absurd hmem (limitation_notMem_take i)
    | @limited i m h =>
        obtain ⟨n, hn⟩ := split_replicate (limitation_notMem_take i) hsplit
        exact ⟨n, .inl hn⟩
    | @closed i m h =>
        rcases List.eq_nil_or_concat after with rfl | ⟨after, last, rfl⟩
        · exact ⟨0, .inl rfl⟩
        · simp only [List.concat_eq_append] at hsplit ⊢
          rw [← List.cons_append, ← List.append_assoc] at hsplit
          obtain ⟨hinit, hlast⟩ := List.append_inj' hsplit rfl
          obtain ⟨n, rfl⟩ := split_replicate (limitation_notMem_take i) hinit
          obtain rfl := (List.cons_eq_cons.mp hlast).1
          exact ⟨n, .inr rfl⟩

/-! ## A workflow and its events -/

/-- The event of an operation. -/
def FlowCall.event? : FlowCall → Option String
  | .fixAliasCommitment _ _ _ => some "ALIAS_COMMITMENT_FIXED"
  | .releaseUnit _ _ _ _ => some "UNIT_RELEASED"
  | .fixHumanReceipt _ => some "HUMAN_RECEIPT_FIXED"
  | .verifyUnitClosure _ => some "UNIT_CLOSURE_VERIFIED"
  | .revealMapping _ _ => some "BUNDLE_MAPPING_REVEALED"
  | .recordMechanical _ _ => some "MECHANICAL_COMPARISON_RECORDED"
  | .fixRationaleAssessment _ _ => some "RATIONALE_ASSESSMENT_FIXED"
  | .fixCharacterization _ => some "BUNDLE_CHARACTERIZATION_FIXED"
  | .closeBundle _ => some closureEvent
  | .closeInsufficient _ => some closureEvent
  | .verifyFrozen => none

def FlowCall.isInsufficient : FlowCall → Bool
  | .closeInsufficient _ => true
  | _ => false

/-- A workflow and the events recorded of it. -/
structure LedgerRun (V : Type) where
  session : Session V
  events : List String

/-- What happens: to the workflow, or an evidence limitation is recorded. -/
inductive LedgerInput (V : Type)
  | flow (a : FlowInput V)
  | limitation

section

variable {V : Type}

/-- The call returned, or raised after it changed the workflow. -/
def tookEffect (s t : Session V) (output : Except Raised Unit) : Bool :=
  output.isOk || t.flow ≠ s.flow

/-- The events of a step of the workflow. -/
def recordedEvents (s t : Session V) (output : Except Raised Unit) : FlowInput V → List String
  | .call call => if tookEffect s t output then call.event?.toList else []
  | .verifier _ => []

/-- A workflow whose operations are recorded as they take effect. -/
def ledgers (verify : ArtifactSnapshot → V → Verdict × V) :
    Machine (LedgerRun V) (LedgerInput V) (Except Raised Unit) where
  step s
    | .flow a =>
      let next := (workflows verify).step s.session a
      (⟨next.1, s.events ++ recordedEvents s.session next.1 next.2 a⟩, next.2)
    | .limitation => (⟨s.session, s.events ++ [limitationEvent]⟩, .ok ())

end

/-- A step of a run of a workflow and its ledger. -/
abbrev LedgerStage (V : Type) := Stage (LedgerRun V) (LedgerInput V) (Except Raised Unit)

variable {V : Type} {verify : ArtifactSnapshot → V → Verdict × V} {f g : BundleWorkflow}
  {call : FlowCall}

/-- A limitation is recorded while the bundle is open, and after one the bundle is only closed, as
insufficient. -/
structure Documented (e : LedgerStage V) : Prop where
  isOpen : e.input = .limitation → e.before.session.flow.state.isTerminal = false
  limited : ∀ call, e.input = .flow (.call call) → call.event?.isSome →
    tookEffect e.before.session e.after.session e.output = true →
      (limitationEvent ∈ e.before.events ↔ call.isInsufficient = true)

namespace BundleWorkflow

/-- The operations a workflow that is not closed as insufficient has behind it. -/
def progress (f : BundleWorkflow) : ℕ :=
  match f.state with
  | .frozen => 0
  | .aliasCommitmentFixed => 1
  | .unitReleased => 3 * f.unitClosures.length + 2
  | .humanReceiptFixed => 3 * f.unitClosures.length + 3
  | .unitClosureVerified => 3 * f.unitClosures.length + 1
  | .bundleMappingRevealed => 11
  | .mechanicalComparisonRecorded => 12
  | .rationaleAssessmentFixed => 13
  | .bundleCharacterizationFixed | .deferred => 14
  | .bundleClosed | .bundleClosedInsufficient => 15

/-- The operation with this event takes `f` to `g`. -/
structure Advances (f g : BundleWorkflow) (event : String) : Prop where
  event : normalOrder[f.progress]? = some event
  progress : g.progress = f.progress + 1
  stands : g.state.isTerminal = false ∧ g.progress < normalOrder.length ∨ g.state = .bundleClosed

end BundleWorkflow

lemma progress_of_state {p : BundleState} (h : f.state = p) :
    f.progress = BundleWorkflow.progress { f with state := p } := by
  rw [← h]

lemma length_normalOrder : normalOrder.length = 15 := rfl

/-- The events of the units. -/
lemma unit_events {k : ℕ} (hk : k < 3) :
    normalOrder[3 * k + 1]? = some "UNIT_RELEASED" ∧
      normalOrder[3 * k + 2]? = some "HUMAN_RECEIPT_FIXED" ∧
      normalOrder[3 * k + 3]? = some "UNIT_CLOSURE_VERIFIED" := by
  interval_cases k <;> exact ⟨rfl, rfl, rfl⟩

lemma advances_released {card form release authority : ArtifactSnapshot} (hf : f.Inv verify)
    (h : Releasable verify f card form release authority) :
    f.Advances (f.released card form release authority) "UNIT_RELEASED" := by
  obtain ⟨hcards, -⟩ := (staged_of_releasable hf.shaped h).counted
  obtain ⟨unit, -, hunit, -⟩ := h.released
  have hk : f.unitClosures.length < 3 := by
    rw [← hcards, ← (hf.units h.mapped).1]
    exact (List.getElem?_eq_some_iff.mp hunit).1
  have hprogress : f.progress = 3 * f.unitClosures.length + 1 := by
    rcases h.state with hstate | hstate
    · have hclosures := (hf.shaped.at_state hstate nofun).counted.2.2
      rw [progress_of_state hstate, hclosures]
      rfl
    · rw [progress_of_state hstate]
      rfl
  have hnext : (f.released card form release authority).progress =
      3 * f.unitClosures.length + 2 := rfl
  refine ⟨by rw [hprogress]; exact (unit_events hk).1, by omega, .inl ⟨rfl, ?_⟩⟩
  rw [length_normalOrder]
  omega

lemma advances_adjudicated {receipt : ArtifactSnapshot} (hf : f.Inv verify)
    (h : Adjudicable verify f receipt) :
    f.Advances (f.adjudicated receipt) "HUMAN_RECEIPT_FIXED" := by
  have hmapped := hf.shaped.mapped (by rw [h.state]; nofun) (by rw [h.state]; nofun)
  obtain ⟨-, hreceipts⟩ := (hf.shaped.at_state h.state nofun).counted
  obtain ⟨unit, -, -, -, hunit, -⟩ := h.adjudicated
  have hk : f.unitClosures.length < 3 := by
    rw [← hreceipts, ← (hf.units hmapped).1]
    exact (List.getElem?_eq_some_iff.mp hunit).1
  have hprogress : f.progress = 3 * f.unitClosures.length + 2 := progress_of_state h.state
  have hnext : (f.adjudicated receipt).progress = 3 * f.unitClosures.length + 3 := rfl
  refine ⟨by rw [hprogress]; exact (unit_events hk).2.1, by omega, .inl ⟨rfl, ?_⟩⟩
  rw [length_normalOrder]
  omega

lemma advances_closedUnit {closure : ArtifactSnapshot} (hf : f.Inv verify)
    (h : Closable verify f closure) :
    f.Advances (f.closedUnit closure) "UNIT_CLOSURE_VERIFIED" := by
  have hmapped := hf.shaped.mapped (by rw [h.state]; nofun) (by rw [h.state]; nofun)
  obtain ⟨unit, -, -, -, -, hunit, -⟩ := h.closed
  have hk : f.unitClosures.length < 3 := by
    rw [← (hf.units hmapped).1]
    exact (List.getElem?_eq_some_iff.mp hunit).1
  have hprogress : f.progress = 3 * f.unitClosures.length + 3 := progress_of_state h.state
  have hlength : (f.closedUnit closure).unitClosures.length = f.unitClosures.length + 1 := by
    rw [BundleWorkflow.closedUnit, List.length_append, List.length_singleton]
  have hnext : (f.closedUnit closure).progress =
      3 * (f.closedUnit closure).unitClosures.length + 1 := rfl
  rw [hlength] at hnext
  refine ⟨by rw [hprogress]; exact (unit_events hk).2.2, by omega, .inl ⟨rfl, ?_⟩⟩
  rw [length_normalOrder]
  omega

/-- An operation that leaves the bundle open, at a known place of the order. -/
lemma advances_of_progress {event : String} {n : ℕ} (hf : f.progress = n)
    (hg : g.progress = n + 1) (hevent : normalOrder[n]? = some event) (hn : n + 1 < 15)
    (hopen : g.state.isTerminal = false) : f.Advances g event := by
  refine ⟨by rw [hf]; exact hevent, by rw [hf, hg], .inl ⟨hopen, ?_⟩⟩
  rw [hg, length_normalOrder]
  exact hn

lemma advances_step {event : String} (hf : f.Inv verify) (h : FlowStep verify f call g)
    (hevent : call.event? = some event) (hcall : call.isInsufficient = false) :
    f.Advances g event := by
  cases h with
  | aliased h =>
      obtain rfl := Option.some.inj hevent
      have hprogress : f.progress = 0 := progress_of_state h.state
      exact advances_of_progress hprogress rfl rfl (by decide) rfl
  | released h =>
      obtain rfl := Option.some.inj hevent
      exact advances_released hf h
  | adjudicated h =>
      obtain rfl := Option.some.inj hevent
      exact advances_adjudicated hf h
  | closedUnit h =>
      obtain rfl := Option.some.inj hevent
      exact advances_closedUnit hf h
  | revealed h =>
      obtain rfl := Option.some.inj hevent
      have hmapped := hf.shaped.mapped (by rw [h.state]; nofun) (by rw [h.state]; nofun)
      have hprogress : f.progress = 3 * f.unitClosures.length + 1 := progress_of_state h.state
      rw [h.complete, (hf.units hmapped).1] at hprogress
      exact advances_of_progress hprogress rfl rfl (by decide) rfl
  | compared h =>
      obtain rfl := Option.some.inj hevent
      have hprogress : f.progress = 11 := progress_of_state h.state
      exact advances_of_progress hprogress rfl rfl (by decide) rfl
  | assessed h =>
      obtain rfl := Option.some.inj hevent
      have hprogress : f.progress = 12 := progress_of_state h.state
      exact advances_of_progress hprogress rfl rfl (by decide) rfl
  | @characterized characterization toHuman h =>
      obtain rfl := Option.some.inj hevent
      have hprogress : f.progress = 13 := progress_of_state h.state
      cases toHuman <;>
        exact advances_of_progress hprogress rfl rfl (by decide) rfl
  | completed h =>
      obtain rfl := Option.some.inj hevent
      have hprogress : f.progress = 14 := progress_of_state h.state
      exact ⟨by rw [hprogress]; rfl, by rw [hprogress]; rfl, .inr rfl⟩
  | insufficient h => cases hcall
  | verified => cases hevent

/-! ## The tally -/

/-- The events recorded of a workflow. -/
inductive Tally (f : BundleWorkflow) : List String → Prop
  | normal (h : f.state.isTerminal = false ∧ f.progress < normalOrder.length ∨
      f.state = .bundleClosed) : Tally f (normalOrder.take f.progress)
  | limited {i : ℕ} (m : ℕ) (h : i < normalOrder.length) (hopen : f.state.isTerminal = false) :
      Tally f (normalOrder.take i ++ List.replicate (m + 1) limitationEvent)
  | closed {i : ℕ} (m : ℕ) (h : i < normalOrder.length)
      (hclosed : f.state = .bundleClosedInsufficient) :
      Tally f (normalOrder.take i ++ List.replicate (m + 1) limitationEvent ++ [closureEvent])

variable {events : List String}

lemma Tally.follows (h : Tally f events) : ∃ o, Follows events o := by
  cases h with
  | normal h =>
      have hle : f.progress ≤ normalOrder.length := by
        rcases h with ⟨-, hlt⟩ | hclosed
        · exact hlt.le
        · rw [progress_of_state hclosed]
          exact le_refl _
      exact ⟨_, .normal hle⟩
  | limited m h => exact ⟨_, .limited m h⟩
  | closed m h => exact ⟨_, .closed m h⟩

lemma tally_limitation (h : Tally f events) (hopen : f.state.isTerminal = false) :
    Tally f (events ++ [limitationEvent]) := by
  cases h with
  | normal h =>
      rcases h with ⟨-, hlt⟩ | hclosed
      · exact .limited 0 hlt hopen
      · rw [hclosed] at hopen
        cases hopen
  | limited m h =>
      rw [List.append_assoc, ← List.replicate_succ']
      exact .limited (m + 1) h hopen
  | closed m h hclosed =>
      rw [hclosed] at hopen
      cases hopen

/-- An operation of the normal order, when no limitation was recorded. -/
lemma tally_advance {event : String} (h : Tally f events) (hunlimited : limitationEvent ∉ events)
    (hadvance : f.Advances g event) : Tally g (events ++ [event]) := by
  cases h with
  | normal h =>
      rw [take_concat hadvance.event, ← hadvance.progress]
      exact .normal hadvance.stands
  | limited m h =>
      refine absurd (List.mem_append_right _ ?_) hunlimited
      exact List.mem_replicate.mpr ⟨Nat.succ_ne_zero m, rfl⟩
  | closed m h =>
      refine absurd (List.mem_append_left _ (List.mem_append_right _ ?_)) hunlimited
      exact List.mem_replicate.mpr ⟨Nat.succ_ne_zero m, rfl⟩

/-- The closure of an insufficient bundle, once a limitation was recorded. -/
lemma tally_insufficient (h : Tally f events) (hlimited : limitationEvent ∈ events)
    (hopen : f.state.isTerminal = false) (hg : g.state = .bundleClosedInsufficient) :
    Tally g (events ++ [closureEvent]) := by
  cases h with
  | normal h => exact absurd hlimited (limitation_notMem_take _)
  | limited m h => exact .closed m h hg
  | closed m h hclosed =>
      rw [hclosed] at hopen
      cases hopen

/-- The invariant of a workflow and its ledger. -/
structure LedgerRun.Inv (verify : ArtifactSnapshot → V → Verdict × V) (s : LedgerRun V) :
    Prop where
  flow : s.session.flow.Inv verify
  tally : Tally s.session.flow s.events

/-- A call that took effect takes its step. -/
lemma step_of_effect {s : Session V} (hs : s.flow.Shaped)
    (h : tookEffect s ((workflows verify).next s (.call call))
      ((workflows verify).out s (.call call)) = true) :
    FlowStep verify s.flow call ((workflows verify).next s (.call call)).flow := by
  rw [tookEffect, Bool.or_eq_true, decide_eq_true_eq] at h
  rcases h with hok | hchanged
  · cases hout : (workflows verify).out s (.call call) with
    | ok u => exact step_of_returned hs hout
    | error e =>
        rw [hout] at hok
        cases hok
  · rcases flow_next hs (.call call) with hsame | ⟨c, hc, hstep⟩
    · exact absurd hsame hchanged
    · cases hc
      exact hstep

lemma flow_of_no_effect {s t : Session V} {output : Except Raised Unit}
    (h : ¬tookEffect s t output = true) : t.flow = s.flow := by
  by_contra hne
  refine h ?_
  rw [tookEffect, Bool.or_eq_true, decide_eq_true_eq]
  exact .inr hne

lemma ledger_call_step {s : LedgerRun V} (hs : s.Inv verify)
    (hdocumented : Documented ((ledgers verify).stage s (.flow (.call call)))) :
    ((ledgers verify).next s (.flow (.call call))).Inv verify := by
  have hflow : ((ledgers verify).next s (.flow (.call call))).session.flow.Inv verify :=
    preserved_inv s.session (.call call) hs.flow
  refine ⟨hflow, ?_⟩
  change Tally ((workflows verify).next s.session (.call call)).flow
    (s.events ++ if tookEffect s.session ((workflows verify).next s.session (.call call))
      ((workflows verify).out s.session (.call call)) then call.event?.toList else [])
  by_cases heffect : tookEffect s.session ((workflows verify).next s.session (.call call))
      ((workflows verify).out s.session (.call call)) = true
  · have hstep := step_of_effect hs.flow.shaped heffect
    rw [if_pos heffect]
    cases hevent : call.event? with
    | none =>
        have hsame : ((workflows verify).next s.session (.call call)).flow = s.session.flow := by
          generalize ((workflows verify).next s.session (.call call)).flow = g at hstep
          cases hstep with
          | verified => rfl
          | _ => cases hevent
        rw [hsame, Option.toList_none, List.append_nil]
        exact hs.tally
    | some event =>
        have hlimited := hdocumented.limited call rfl (by rw [hevent]; rfl) heffect
        rw [Option.toList_some]
        by_cases hinsufficient : call.isInsufficient = true
        · generalize ((workflows verify).next s.session (.call call)).flow = g at hstep
          cases hstep with
          | insufficient h =>
              obtain rfl := Option.some.inj hevent
              exact tally_insufficient hs.tally (hlimited.mpr rfl) h.state.1 rfl
          | _ => cases hinsufficient
        · have hunlimited : limitationEvent ∉ s.events := fun hmem =>
            hinsufficient (hlimited.mp hmem)
          rw [Bool.not_eq_true] at hinsufficient
          exact tally_advance hs.tally hunlimited
            (advances_step hs.flow hstep hevent hinsufficient)
  · rw [if_neg heffect, List.append_nil, flow_of_no_effect heffect]
    exact hs.tally

lemma ledger_step {s : LedgerRun V} (hs : s.Inv verify) (a : LedgerInput V)
    (hdocumented : Documented ((ledgers verify).stage s a)) :
    ((ledgers verify).next s a).Inv verify := by
  cases a with
  | limitation => exact ⟨hs.flow, tally_limitation hs.tally (hdocumented.isOpen rfl)⟩
  | flow a =>
      cases a with
      | call call => exact ledger_call_step hs hdocumented
      | verifier change =>
          refine ⟨preserved_inv s.session (.verifier change) hs.flow, ?_⟩
          change Tally s.session.flow (s.events ++ [])
          rw [List.append_nil]
          exact hs.tally

lemma tally_initial (hbuilt : Built f) : Tally f [] := by
  have hfrozen : f.state = .frozen := by
    cases hbuilt with
    | created h =>
        obtain ⟨rfl, -⟩ := create_eq_ok h
        rfl
    | preMappingFailed h =>
        obtain ⟨rfl, -⟩ := create_eq_ok (create_of_preMappingFailed h).2.2
        rfl
  have hprogress : f.progress = 0 := progress_of_state hfrozen
  have h : Tally f (normalOrder.take f.progress) := by
    refine .normal (.inl ⟨by rw [hfrozen]; rfl, ?_⟩)
    rw [hprogress]
    decide
  rw [hprogress] at h
  exact h

/-- Every part of an accepted sequence of events is accepted. -/
lemma checkOrder_take {records : List ArtifactSnapshot} {o : LedgerOrder}
    (hrecords : List.Forall₂ ArtifactSnapshot.HasType records events)
    (h : Follows events o) (n : ℕ) : checkOrder (records.take n) = .ok () := by
  have haccept := follows_iff.mpr h
  rw [← List.take_append_drop n events, accept_append_eq_some] at haccept
  obtain ⟨t, ht, -⟩ := haccept
  exact checkOrder_eq_ok.mpr ⟨events.take n, List.forall₂_take n hrecords, t, ht⟩

/-! ## A run

A limitation is recorded, and the bundle is closed by a call that raises after it closed it. -/

def sampleInputs (a : ArtifactSnapshot) : List (LedgerInput ℕ) :=
  [.limitation, .flow (.call (.closeInsufficient a))]

def sampleRecords : List ArtifactSnapshot :=
  [.build "bundle_event_ledger" [("event_type", .str limitationEvent)],
    .build "bundle_event_ledger" [("event_type", .str closureEvent)]]

lemma hasType_sampleRecords :
    List.Forall₂ ArtifactSnapshot.HasType sampleRecords [limitationEvent, closureEvent] := by
  refine .cons ⟨_, data_build rfl ?_, rfl⟩ (.cons ⟨_, data_build rfl ?_, rfl⟩ .nil)
  · decide
  · decide

section

variable {a : ArtifactSnapshot} (hkind : a.kind = "bundle_closure")
  (hdata : a.data = .ok (limitedClosure 1))

lemma documented_sample :
    ∀ e ∈ (ledgers acceptOnce).trace ⟨⟨sampleFlow, 0⟩, []⟩ (sampleInputs a), Documented e := by
  rw [sampleInputs, Machine.trace_cons, Machine.trace_cons, Machine.trace_nil]
  intro e he
  rcases List.mem_cons.mp he with rfl | he
  · exact ⟨fun _ => rfl, by nofun⟩
  · obtain rfl := List.mem_singleton.mp he
    refine ⟨by nofun, fun call hcall _ _ => ?_⟩
    obtain rfl : FlowCall.closeInsufficient a = call := by
      cases hcall
      rfl
    exact iff_of_true (List.mem_singleton_self _) rfl

include hkind hdata in
lemma events_sample :
    ((ledgers acceptOnce).run ⟨⟨sampleFlow, 0⟩, []⟩ (sampleInputs a)).events =
      [limitationEvent, closureEvent] := by
  have hstep : (workflows acceptOnce).step ⟨sampleFlow, 0⟩ (.call (.closeInsufficient a)) =
      (⟨sampleFlow.closed a .bundleClosedInsufficient, 2⟩, .error .verifier) := by
    change Prod.swap _ = _
    rw [run_closeInsufficient_limited hkind hdata]
    rfl
  have heffect : tookEffect ⟨sampleFlow, 0⟩
      (⟨sampleFlow.closed a .bundleClosedInsufficient, 2⟩ : Session ℕ) (.error .verifier) =
      true := by
    rw [tookEffect, Bool.or_eq_true, decide_eq_true_eq]
    refine .inr fun h => ?_
    have hstate := congrArg BundleWorkflow.state h
    cases hstate
  change [limitationEvent] ++ recordedEvents ⟨sampleFlow, 0⟩
    ((workflows acceptOnce).step ⟨sampleFlow, 0⟩ (.call (.closeInsufficient a))).1
    ((workflows acceptOnce).step ⟨sampleFlow, 0⟩ (.call (.closeInsufficient a))).2
    (.call (.closeInsufficient a)) = _
  rw [hstep, recordedEvents]
  dsimp only
  rw [if_pos heffect]
  rfl

end

/-! ## Results -/

/-- The events of a workflow, recorded as its operations take effect, pass the order check at
every step; and in every sequence that passes it the reveal comes after three closed units, and
after a limitation only further ones and one closure. -/
theorem ledger_order_agrees (hbuilt : Built f) (v : V) (inputs : List (LedgerInput V))
    (hdocumented : ∀ e ∈ (ledgers verify).trace ⟨⟨f, v⟩, []⟩ inputs, Documented e)
    (records : List ArtifactSnapshot)
    (hrecords : List.Forall₂ ArtifactSnapshot.HasType records
      ((ledgers verify).run ⟨⟨f, v⟩, []⟩ inputs).events) :
    (∀ n, checkOrder (records.take n) = .ok ()) ∧
      ∀ accepted, checkOrder accepted = .ok () →
        ∃ kinds, List.Forall₂ ArtifactSnapshot.HasType accepted kinds ∧ Blinded kinds := by
  constructor
  · have hinv : ((ledgers verify).run ⟨⟨f, v⟩, []⟩ inputs).Inv verify := by
      have hstart : LedgerRun.Inv verify ⟨⟨f, v⟩, []⟩ :=
        ⟨inv_of_built hbuilt, tally_initial hbuilt⟩
      have hkeeps : ∀ s a, s.Inv verify → Documented ((ledgers verify).stage s a) →
          ((ledgers verify).next s a).Inv verify := fun s a hs hstage => ledger_step hs a hstage
      exact Machine.run_of_forall_stage hkeeps hstart hdocumented
    obtain ⟨o, hfollows⟩ := hinv.tally.follows
    exact checkOrder_take hrecords hfollows
  · intro accepted haccepted
    obtain ⟨kinds, hkinds, o, haccept⟩ := checkOrder_eq_ok.mp haccepted
    exact ⟨kinds, hkinds, (follows_iff.mp haccept).blinded⟩

/-- The limitation and the closure pass the order check one after the other. -/
theorem ledger_order_agrees_sample :
    checkOrder (sampleRecords.take 1) = .ok () ∧ checkOrder (sampleRecords.take 2) = .ok () := by
  have hevents := events_sample rfl data_sampleClosure
  have h := ledger_order_agrees built_sampleFlow 0 (sampleInputs sampleClosure)
    documented_sample sampleRecords (by rw [hevents]; exact hasType_sampleRecords)
  exact ⟨h.1 1, h.1 2⟩

end CivicGate.Rq6
