import CivicGate.Framework.Numbered
import CivicGate.Governance.Execution

/-!
# Single use and exactness of the execution boundary

The texts the boundary compares determine the records they were printed from.  An envelope that
is used is retained, so each is used at most once, and a call that was admitted is the one its
envelope was issued for.
-/

namespace CivicGate

variable {Model Args : Type} [DecidableEq Model] {b : ExecutionBoundary Model}
  {rules : TextRules Model} {w : World Model Args} {s : Issuer}

/-! ## Texts determine records -/

lemma ExecutionBinding.normalize_toJson (x : ExecutionBinding) : x.toJson.normalize = x.toJson := by
  refine Json.normalize_dict ?_ (by simp)
  simp only [List.map_cons, List.map_nil]
  decide

lemma AuthorityEnvelope.normalize_toJson (x : AuthorityEnvelope) :
    x.toJson.normalize = x.toJson := by
  refine Json.normalize_dict ?_ (by simp [x.binding.normalize_toJson])
  simp only [List.map_cons, List.map_nil]
  decide

lemma PolicyContext.normalize_toJson (x : PolicyContext) : x.toJson.normalize = x.toJson :=
  Json.normalize_list (by simp)

lemma ExecutionBinding.toJson_injective : Function.Injective ExecutionBinding.toJson := by
  intro x y h
  simp only [ExecutionBinding.toJson, Json.dict.injEq, List.cons.injEq, Prod.mk.injEq,
    Json.str.injEq, true_and, and_true, Decision.text_injective.eq_iff] at h
  obtain ⟨_, _, _, _, _, _, _, _, _, _⟩ := h
  cases x
  cases y
  simp_all

/-- Two envelopes print alike exactly when they are the same. -/
lemma AuthorityEnvelope.canonical_inj {x y : AuthorityEnvelope} :
    canonical false x.toJson = canonical false y.toJson ↔ x = y := by
  rw [CivicGate.canonical_inj, normalize_toJson, normalize_toJson]
  constructor
  · intro h
    simp only [AuthorityEnvelope.toJson, Json.dict.injEq, List.cons.injEq, Prod.mk.injEq,
      Json.str.injEq, Json.list.injEq, true_and, and_true, Decision.text_injective.eq_iff,
      ExecutionBinding.toJson_injective.eq_iff, PyNum.toJson_injective.eq_iff] at h
    obtain ⟨_, _, _, _, _, hreasons⟩ := h
    have hinj : Function.Injective (List.map Json.str) :=
      List.map_injective_iff.mpr fun _ _ h => Json.str.inj h
    have := hinj hreasons
    cases x
    cases y
    simp_all
  · rintro rfl
    rfl

lemma PolicyContext.canonical_inj {x y : PolicyContext} :
    canonical false x.toJson = canonical false y.toJson ↔ x = y := by
  rw [CivicGate.canonical_inj, normalize_toJson, normalize_toJson]
  constructor
  · intro h
    simp only [PolicyContext.toJson, Json.list.injEq, List.cons.injEq, Json.bool.injEq,
      Json.int.injEq, and_true, PyNum.toJson_injective.eq_iff] at h
    obtain ⟨_, _, _, _⟩ := h
    cases x
    cases y
    simp_all
  · rintro rfl
    rfl

lemma contextJson_eq_ok {context : Option PolicyContext} {text : String}
    (h : contextJson context = .ok text) :
    ∃ c, context = some c ∧ text = canonical false c.toJson := by
  cases context with
  | none => exact absurd h (by simp [contextJson])
  | some c =>
      simp only [contextJson, Except.bind_eq_ok, Except.pure_eq_ok] at h
      obtain ⟨-, -, -, -, rfl⟩ := h
      exact ⟨c, rfl, rfl⟩

/-! ## What a call can do -/

/-- What issuing `r` in a call settles. -/
structure IssuedFor (b : ExecutionBoundary Model) (rules : TextRules Model)
    (w : World Model Args) (c : EvaluateCall) (r : IssuedEnvelope) : Prop where
  prepared : ∃ policy,
    b.prepare rules w c = .ok (policy, some (r.envelope.binding, r.contextJson)) ∧
      r.envelope = newEnvelope policy r.envelope.binding r.issuedAt r.expiresAt
  serialized : r.serialized = canonical false r.envelope.toJson
  clock : c.clock.now = .ok r.issuedAt

/-- `evaluate` either issues nothing and keeps some of what it retained, or adds one envelope
of a new identity and a new request to what it keeps. -/
lemma evaluate_cases (b : ExecutionBoundary Model) (rules : TextRules Model)
    (w : World Model Args) (s : Issuer) (c : EvaluateCall) :
    (∃ kept, kept.Sublist s.issued ∧ (b.evaluate rules w s c).1 = ⟨kept, s.created⟩ ∧
      ∀ p, (b.evaluate rules w s c).2 = .ok p → p.envelope = none) ∨
    ∃ kept r policy, kept.Sublist s.issued ∧
      (b.evaluate rules w s c).1 = ⟨kept ++ [r], s.created + 1⟩ ∧
      (b.evaluate rules w s c).2 = .ok ⟨policy, some (s.created, r.envelope)⟩ ∧
      r.identity = s.created ∧ kept.length < maxOutstandingEnvelopes ∧
      (∀ q ∈ kept, q.envelope.binding.requestId ≠ r.envelope.binding.requestId) ∧
      IssuedFor b rules w c r := by
  have hsame : ∃ kept, kept.Sublist s.issued ∧ s = ⟨kept, s.created⟩ := ⟨_, .refl _, rfl⟩
  unfold ExecutionBoundary.evaluate
  split
  · obtain ⟨kept, hkept, hs⟩ := hsame
    exact .inl ⟨kept, hkept, hs, by simp⟩
  · obtain ⟨kept, hkept, hs⟩ := hsame
    exact .inl ⟨kept, hkept, hs, fun p hp => by cases hp; rfl⟩
  · rename_i policy binding context hprepare
    split
    · obtain ⟨kept, hkept, hs⟩ := hsame
      exact .inl ⟨kept, hkept, hs, by simp⟩
    · rename_i now hnow
      unfold ExecutionBoundary.issue
      have hkept := List.filter_sublist (p := fun q : IssuedEnvelope => now.value < q.expiresAt.value)
        (l := s.issued)
      simp only
      split
      · exact .inl ⟨_, hkept, rfl, by simp⟩
      · rename_i hreuse
        split
        · exact .inl ⟨_, hkept, rfl, by simp⟩
        · rename_i hcapacity
          split
          · exact .inl ⟨_, hkept, rfl, by simp⟩
          · rename_i expiresAt hexpiry
            refine .inr ⟨_, _, policy, hkept, rfl, rfl, rfl, not_le.mp hcapacity, ?_, ?_⟩
            · intro q hq heq
              exact hreuse (List.any_eq_true.mpr ⟨q, hq, by simpa [newEnvelope] using heq⟩)
            · exact ⟨⟨policy, hprepare, rfl⟩, rfl, hnow⟩

/-- `evaluate` keeps an envelope that its clock reading does not expire. -/
lemma evaluate_keeps {c : EvaluateCall} {r : IssuedEnvelope} (hr : r ∈ s.issued)
    (hclock : ∀ x, c.clock = .number x → x.value < r.expiresAt.value) :
    r ∈ (b.evaluate rules w s c).1.issued := by
  unfold ExecutionBoundary.evaluate
  split
  · exact hr
  · exact hr
  · split
    · exact hr
    · rename_i now hnow
      have hlt : now.value < r.expiresAt.value := by
        cases hc : c.clock with
        | number x =>
            rw [hc] at hnow
            simp only [ClockReading.now, Except.bind_eq_ok, Except.pure_eq_ok] at hnow
            obtain ⟨-, -, rfl⟩ := hnow
            exact hclock x hc
        | notFinite =>
            rw [hc] at hnow
            cases hnow
        | raises e =>
            rw [hc, ClockReading.now] at hnow
            split at hnow <;> cases hnow
      have hkept : r ∈ s.issued.filter (now.value < ·.expiresAt.value) :=
        List.mem_filter.mpr ⟨hr, by simpa using hlt⟩
      unfold ExecutionBoundary.issue
      simp only
      split
      · exact hkept
      · split
        · exact hkept
        · split
          · exact hkept
          · exact List.mem_append_left _ hkept

/-- `consume` drops the envelope presented and no other. -/
lemma consume_issued (b : ExecutionBoundary Model) (w : World Model Args) (s : Issuer)
    (c : ConsumeCall) :
    (b.consume w s c).1 =
      ⟨s.issued.filter (fun r => c.envelope.identity? ≠ some r.identity), s.created⟩ := by
  unfold ExecutionBoundary.consume
  split
  · rename_i hnone
    rw [hnone, List.filter_eq_self.mpr (by simp)]
  · rename_i identity hsome
    rw [hsome]
    split
    · rename_i hfind
      rw [List.filter_eq_self.mpr]
      intro r hr
      have hne : r.identity ≠ identity := by simpa using List.find?_eq_none.mp hfind r hr
      simpa using hne.symm
    · simp only [ne_eq, Option.some.injEq, eq_comm (a := identity)]

/-- A successful `consume` found the envelope presented and verified it. -/
lemma consume_eq_ok {c : ConsumeCall} {binding : ExecutionBinding}
    (h : (b.consume w s c).2 = .ok binding) :
    ∃ r ∈ s.issued, ∃ contents, c.envelope = .envelope r.identity contents ∧
      b.verify w r contents c = .ok binding := by
  unfold ExecutionBoundary.consume at h
  split at h
  · cases h
  · rename_i identity hidentity
    split at h
    · cases h
    · rename_i r hfind
      have hr := List.mem_of_find?_eq_some hfind
      have hid : r.identity = identity := by simpa using List.find?_some hfind
      subst hid
      simp only at h
      split at h
      · rename_i contents hc
        rw [hc, Presented.identity?] at hidentity
        exact ⟨r, hr, contents, by rw [hc, Option.some.inj hidentity], h⟩
      · split at h <;> cases h
      · cases h

/-- What a verification checks. -/
lemma verify_eq_ok {r : IssuedEnvelope} {envelope : AuthorityEnvelope} {c : ConsumeCall}
    {binding : ExecutionBinding} :
    b.verify w r envelope c = .ok binding ↔
      canonical false envelope.toJson = r.serialized ∧
      (∃ now, c.clock.now = .ok now ∧ r.issuedAt.value ≤ now.value ∧
        now.value < r.expiresAt.value) ∧
      contextJson c.policyContext = .ok r.contextJson ∧
      (c.requestId = envelope.binding.requestId ∧ c.tool = envelope.binding.tool ∧
        envelope.decision = .permit ∧ envelope.binding.policyDecision = .permit ∧
        envelope.policyVersion = policyVersion ∧
        envelope.binding.operationScope = operationScope ∧
        sha256Hex r.contextJson = envelope.binding.policyContextSha256) ∧
      b.arguments w c.tool c.arguments =
        .ok (envelope.binding.argumentsJson, envelope.binding.schemaSha256) ∧
      sha256Hex envelope.binding.argumentsJson = envelope.binding.argumentsSha256 ∧
      binding = envelope.binding := by
  simp only [ExecutionBoundary.verify, Except.bind_eq_ok, ensure_eq_ok, Except.pure_eq_ok,
    Bool.and_eq_true, decide_eq_true_eq]
  constructor
  · rintro ⟨-, hserial, now, hnow, -, hge, -, hlt, context, hcontext, -, rfl, -,
      ⟨⟨⟨⟨⟨⟨h₁, h₂⟩, h₃⟩, h₄⟩, h₅⟩, h₆⟩, h₇⟩, ⟨argumentsJson, schema⟩, hargs, -,
      ⟨⟨rfl, hsha⟩, rfl⟩, rfl⟩
    exact ⟨hserial, ⟨now, hnow, hge, hlt⟩, hcontext, ⟨h₁, h₂, h₃, h₄, h₅, h₆, h₇⟩, hargs, hsha, rfl⟩
  · rintro ⟨hserial, ⟨now, hnow, hge, hlt⟩, hcontext, ⟨h₁, h₂, h₃, h₄, h₅, h₆, h₇⟩, hargs, hsha,
      rfl⟩
    exact ⟨(), hserial, now, hnow, (), hge, (), hlt, _, hcontext, (), rfl, (),
      ⟨⟨⟨⟨⟨⟨h₁, h₂⟩, h₃⟩, h₄⟩, h₅⟩, h₆⟩, h₇⟩, _, hargs, (), ⟨⟨rfl, hsha⟩, rfl⟩, rfl⟩

/-- What a permission binds. -/
lemma prepare_eq_ok {c : EvaluateCall} {policy : PolicyResult} {binding : ExecutionBinding}
    {context : String} (h : b.prepare rules w c = .ok (policy, some (binding, context))) :
    policy.decision = .permit ∧ contextJson c.policyContext = .ok context ∧
      ∃ facts, c.facts = some facts ∧ binding.requestId = c.requestId ∧
        binding.tool = facts.tool ∧
        b.arguments w facts.tool c.arguments = .ok (binding.argumentsJson, binding.schemaSha256) ∧
        binding.argumentsSha256 = sha256Hex binding.argumentsJson ∧
        binding.operationScope = operationScope ∧ binding.policyDecision = .permit ∧
        binding.policyContextSha256 = sha256Hex context := by
  simp only [ExecutionBoundary.prepare, Except.bind_eq_ok] at h
  obtain ⟨text, htext, h⟩ := h
  split at h
  · rename_i ctx facts threshold _ hfacts _
    simp only [Except.bind_eq_ok, ensure_eq_ok, Except.reraise_eq_ok] at h
    obtain ⟨-, -, -, -, -, -, result, -, h⟩ := h
    split at h
    · cases h
    · rename_i hpermit
      simp only [Except.bind_eq_ok, ensure_eq_ok, Except.pure_eq_ok, Prod.mk.injEq,
        Option.some.injEq] at h
      obtain ⟨-, -, args, hargs, -, -, rfl, rfl, rfl⟩ := h
      have hpermit : result.decision = .permit := not_not.mp hpermit
      exact ⟨hpermit, htext, facts, hfacts, rfl, rfl, hargs, rfl, rfl, hpermit, rfl⟩
  · cases h

/-! ## The retained table -/

/-- Identities are new, requests are distinct, and the table is bounded. -/
structure Issuer.Inv (s : Issuer) : Prop where
  numbered : Table.Numbered (·.identity) s.issued s.created
  requests : (s.issued.map (·.envelope.binding.requestId)).Nodup
  bounded : s.issued.length ≤ maxOutstandingEnvelopes

lemma Issuer.inv_initial : Issuer.initial.Inv :=
  ⟨.nil _, List.nodup_nil, Nat.zero_le _⟩

lemma Issuer.Inv.sublist (h : s.Inv) {kept : List IssuedEnvelope} (hk : kept.Sublist s.issued) :
    Issuer.Inv ⟨kept, s.created⟩ where
  numbered := h.numbered.sublist hk
  requests := h.requests.sublist (hk.map _)
  bounded := hk.length_le.trans h.bounded

lemma Issuer.Inv.concat (h : s.Inv) {r : IssuedEnvelope} (hid : r.identity = s.created)
    (hlen : s.issued.length < maxOutstandingEnvelopes)
    (hreq : ∀ q ∈ s.issued, q.envelope.binding.requestId ≠ r.envelope.binding.requestId) :
    Issuer.Inv ⟨s.issued ++ [r], s.created + 1⟩ where
  numbered := h.numbered.concat hid
  requests := by
    refine Table.nodup_concat h.requests fun hmem => ?_
    obtain ⟨q, hq, hqr⟩ := List.mem_map.mp hmem
    exact hreq q hq hqr
  bounded := by
    rw [List.length_append, List.length_singleton]
    exact hlen

/-! ## Runs -/

/-- A call of a run, with the states around it. -/
abbrev BoundaryStage (Model Args : Type) := Stage Issuer (BoundaryCall Model Args) BoundaryResult

/-- The call passes the envelope of this identity to `consume`. -/
def BoundaryCall.Presents (call : BoundaryCall Model Args) (identity : ℕ) : Prop :=
  ∃ w c, call = .consume w c ∧ c.envelope.identity? = some identity

lemma inv_preserved (b : ExecutionBoundary Model) (rules : TextRules Model) :
    (b.machine rules : Machine _ (BoundaryCall Model Args) _).Preserved Issuer.Inv := by
  intro s call h
  cases call with
  | evaluate w c =>
      show Issuer.Inv (b.evaluate rules w s c).1
      rcases evaluate_cases b rules w s c with ⟨kept, hk, hs, -⟩ |
        ⟨kept, r, policy, hk, hs, -, hid, hlen, hreq, -⟩
      · rw [hs]
        exact h.sublist hk
      · rw [hs]
        exact (h.sublist hk).concat hid hlen hreq
  | consume w c =>
      show Issuer.Inv (b.consume w s c).1
      rw [consume_issued]
      exact h.sublist List.filter_sublist

/-- The envelope was created, and is retained no more. -/
def Issuer.Spent (s : Issuer) (identity : ℕ) : Prop :=
  Table.Left (·.identity) s.issued s.created identity

lemma spent_preserved (b : ExecutionBoundary Model) (rules : TextRules Model) (identity : ℕ) :
    (b.machine rules : Machine _ (BoundaryCall Model Args) _).Preserved
      (Issuer.Spent · identity) := by
  intro s call h
  cases call with
  | evaluate w c =>
      show Issuer.Spent (b.evaluate rules w s c).1 identity
      rcases evaluate_cases b rules w s c with ⟨kept, hk, hs, -⟩ |
        ⟨kept, r, policy, hk, hs, -, hid, -⟩
      · rw [hs]
        exact Table.Left.sublist h hk
      · rw [hs]
        exact (Table.Left.sublist h hk).concat hid
  | consume w c =>
      show Issuer.Spent (b.consume w s c).1 identity
      rw [consume_issued]
      exact Table.Left.sublist h List.filter_sublist

lemma spent_of_consume {c : ConsumeCall} {identity : ℕ} (hlt : identity < s.created)
    (hc : c.envelope.identity? = some identity) : (b.consume w s c).1.Spent identity := by
  rw [consume_issued]
  exact Table.left_of_filter hlt hc

lemma consume_of_spent {c : ConsumeCall} {identity : ℕ} (h : s.Spent identity)
    (hc : c.envelope.identity? = some identity) : ∃ e, (b.consume w s c).2 = .error e := by
  cases hout : (b.consume w s c).2 with
  | error e => exact ⟨e, rfl⟩
  | ok binding =>
      obtain ⟨r, hr, contents, henv, -⟩ := consume_eq_ok hout
      rw [henv, Presented.identity?] at hc
      exact absurd (Option.some.inj hc) (h.2 r hr)

lemma created_monotone (b : ExecutionBoundary Model) (rules : TextRules Model) :
    Machine.Monotone (b.machine rules : Machine _ (BoundaryCall Model Args) _)
      fun s t => s.created ≤ t.created := by
  intro s call
  cases call with
  | evaluate w c =>
      show s.created ≤ (b.evaluate rules w s c).1.created
      rcases evaluate_cases b rules w s c with ⟨kept, -, hs, -⟩ | ⟨kept, r, policy, -, hs, -⟩
      · rw [hs]
      · rw [hs]
        exact Nat.le_succ _
  | consume w c =>
      show s.created ≤ (b.consume w s c).1.created
      rw [consume_issued]

/-- Every retained envelope was issued by an earlier call of the run. -/
lemma issued_origin {calls : List (BoundaryCall Model Args)} {r : IssuedEnvelope}
    (hr : r ∈ ((b.machine rules).run Issuer.initial calls).issued) :
    ∃ d ∈ (b.machine rules).trace Issuer.initial calls, ∃ w c policy, d.input = .evaluate w c ∧
      d.output = .evaluated (.ok ⟨policy, some (r.identity, r.envelope)⟩) ∧
      IssuedFor b rules w c r := by
  have horigin := (b.machine rules).exists_origin (fun s => {r | r ∈ s.issued})
    (fun s call r => ∃ w c policy, call = .evaluate w c ∧
      (b.evaluate rules w s c).2 = .ok ⟨policy, some (r.identity, r.envelope)⟩ ∧
      IssuedFor b rules w c r) ?_ hr
  · rcases horigin with hinit | ⟨d, hd, w, c, policy, hinput, hout, hfor⟩
    · exact absurd hinit (by simp [Issuer.initial])
    · refine ⟨d, hd, w, c, policy, hinput, ?_, hfor⟩
      have hstep := (b.machine rules).step_of_mem_trace hd
      rw [hinput] at hstep
      rw [← hout]
      exact (congrArg Prod.snd hstep).symm
  · intro s call r hr
    cases call with
    | evaluate w c =>
        change r ∈ (b.evaluate rules w s c).1.issued at hr
        rcases evaluate_cases b rules w s c with ⟨kept, hk, hs, -⟩ |
          ⟨kept, q, policy, hk, hs, hout, hid, -, -, hfor⟩
        · rw [hs] at hr
          exact .inl (hk.subset hr)
        · rw [hs] at hr
          rcases List.mem_append.mp hr with hr | hr
          · exact .inl (hk.subset hr)
          · obtain rfl := List.mem_singleton.mp hr
            exact .inr ⟨w, c, policy, rfl, by rw [hout, hid], hfor⟩
    | consume w c =>
        change r ∈ (b.consume w s c).1.issued at hr
        rw [consume_issued] at hr
        exact .inl (List.mem_of_mem_filter hr)

/-! ## The boundary's guarantees -/

/-- The clock reading offered to a call. -/
def BoundaryCall.clock : BoundaryCall Model Args → ClockReading
  | .evaluate _ c => c.clock
  | .consume _ c => c.clock

/-- The stage is a call of `evaluate` that issued the envelope. -/
def IssuedAt (d : BoundaryStage Model Args) (w : World Model Args) (c : EvaluateCall)
    (identity : ℕ) (envelope : AuthorityEnvelope) : Prop :=
  d.input = .evaluate w c ∧
    ∃ policy, d.output = .evaluated (.ok ⟨policy, some (identity, envelope)⟩)

/-- The invocation presented to `consume` is the one `evaluate` bound: same request, tool,
normalized arguments and policy context; the registry holds the models the boundary was built
with, the tool's schema has the digest it had, and the envelope is in its lifetime. -/
structure SameInvocation (b : ExecutionBoundary Model) (w₀ : World Model Args) (c₀ : EvaluateCall)
    (envelope : AuthorityEnvelope) (w : World Model Args) (c : ConsumeCall) : Prop where
  requestId : c.requestId = c₀.requestId
  tool : ∃ facts, c₀.facts = some facts ∧ c.tool = facts.tool
  arguments : ∃ argumentsJson schema, b.arguments w₀ c.tool c₀.arguments = .ok (argumentsJson, schema) ∧
    b.arguments w c.tool c.arguments = .ok (argumentsJson, schema)
  context : c.policyContext = c₀.policyContext
  registry : Registry.same w₀.registry b.models = true ∧ Registry.same w.registry b.models = true
  schema : ∃ model digest, b.models.lookup c.tool = some model ∧
    schemaDigest w₀.pydantic model = .ok digest ∧ schemaDigest w.pydantic model = .ok digest
  issuedAt : c₀.clock.now = .ok envelope.issuedAt
  inLifetime : ∃ now, c.clock.now = .ok now ∧ envelope.issuedAt.value ≤ now.value ∧
    now.value < envelope.expiresAt.value

lemma arguments_eq_ok {tool : String} {arguments : Arguments} {text schema : String}
    (h : b.arguments w tool arguments = .ok (text, schema)) :
    Registry.same w.registry b.models = true ∧ ∃ model, b.models.lookup tool = some model ∧
      schemaDigest w.pydantic model = .ok schema ∧ b.schemas.lookup tool = some schema := by
  simp only [ExecutionBoundary.arguments, Except.bind_eq_ok, Except.pure_eq_ok,
    Prod.mk.injEq] at h
  obtain ⟨⟨model, digest⟩, hschema, -, -, -, rfl⟩ := h
  unfold ExecutionBoundary.schema at hschema
  split at hschema
  · cases hschema
  · rename_i found hfound
    simp only [Except.bind_eq_ok, ensure_eq_ok, Except.reraise_eq_ok, Except.pure_eq_ok,
      Prod.mk.injEq, decide_eq_true_eq] at hschema
    obtain ⟨-, hsame, current, hcurrent, -, hlookup, rfl, rfl⟩ := hschema
    exact ⟨hsame, found, hfound, hcurrent, hlookup⟩

lemma sameInvocation_of_verify {w₀ : World Model Args} {c₀ : EvaluateCall} {r : IssuedEnvelope}
    (hfor : IssuedFor b rules w₀ c₀ r) {c : ConsumeCall} {contents : AuthorityEnvelope}
    {binding : ExecutionBinding} (h : b.verify w r contents c = .ok binding) :
    contents = r.envelope ∧ binding = r.envelope.binding ∧
      SameInvocation b w₀ c₀ r.envelope w c := by
  obtain ⟨hserial, ⟨now, hnow, hge, hlt⟩, hcontext, ⟨hreq, htool, -⟩, hargs, -, rfl⟩ :=
    verify_eq_ok.mp h
  obtain rfl : contents = r.envelope :=
    AuthorityEnvelope.canonical_inj.mp (hserial.trans hfor.serialized)
  obtain ⟨policy, hprepare, henv⟩ := hfor.prepared
  obtain ⟨-, hcontext₀, facts, hfacts, hreq₀, htool₀, hargs₀, -⟩ := prepare_eq_ok hprepare
  obtain ⟨context, hc, htext⟩ := contextJson_eq_ok hcontext
  obtain ⟨context₀, hc₀, htext₀⟩ := contextJson_eq_ok hcontext₀
  obtain rfl : context = context₀ := PolicyContext.canonical_inj.mp (htext.symm.trans htext₀)
  obtain ⟨hsame₀, model₀, hmodel₀, hdigest₀, -⟩ := arguments_eq_ok hargs₀
  obtain ⟨hsame, model, hmodel, hdigest, -⟩ := arguments_eq_ok hargs
  rw [← htool₀, ← htool] at hmodel₀ hargs₀
  obtain rfl : model = model₀ := Option.some.inj (hmodel.symm.trans hmodel₀)
  have hissued : r.envelope.issuedAt = r.issuedAt := by rw [henv]; rfl
  have hexpires : r.envelope.expiresAt = r.expiresAt := by rw [henv]; rfl
  exact ⟨rfl, rfl,
    { requestId := hreq.trans hreq₀
      tool := ⟨facts, hfacts, htool.trans htool₀⟩
      arguments := ⟨_, _, hargs₀, hargs⟩
      context := hc.trans hc₀.symm
      registry := ⟨hsame₀, hsame⟩
      schema := ⟨model, _, hmodel, hdigest₀, hdigest⟩
      issuedAt := hissued ▸ hfor.clock
      inLifetime := ⟨now, hnow, hissued ▸ hge, hexpires ▸ hlt⟩ }⟩

/-- What is retained after a call that issued an envelope. -/
lemma retained_of_issuedAt {calls : List (BoundaryCall Model Args)}
    {d : BoundaryStage Model Args} (hd : d ∈ (b.machine rules).trace Issuer.initial calls)
    {w₀ : World Model Args} {c₀ : EvaluateCall} {identity : ℕ} {envelope : AuthorityEnvelope}
    (h : IssuedAt d w₀ c₀ identity envelope) :
    identity < d.after.created ∧ ∃ r ∈ d.after.issued, r.identity = identity ∧
      r.envelope = envelope ∧ IssuedFor b rules w₀ c₀ r := by
  obtain ⟨hinput, policy, hout⟩ := h
  have hstep := (b.machine rules).step_of_mem_trace hd
  rw [hinput, hout] at hstep
  have hafter : (b.evaluate rules w₀ d.before c₀).1 = d.after := congrArg Prod.fst hstep
  have hresult : (b.evaluate rules w₀ d.before c₀).2 = .ok ⟨policy, some (identity, envelope)⟩ :=
    BoundaryResult.evaluated.inj (congrArg Prod.snd hstep)
  rcases evaluate_cases b rules w₀ d.before c₀ with ⟨-, -, -, hnone⟩ |
    ⟨kept, r, policy', -, hs, hresult', hid, -, -, hfor⟩
  · exact absurd (hnone _ hresult) (by simp)
  · rw [hresult'] at hresult
    simp only [Except.ok.injEq, PolicyEvaluation.mk.injEq, Option.some.injEq,
      Prod.mk.injEq] at hresult
    obtain ⟨-, rfl, rfl⟩ := hresult
    rw [← hafter, hs]
    exact ⟨Nat.lt_succ_self _, r, List.mem_append_right _ (List.mem_singleton.mpr rfl), hid, rfl,
      hfor⟩

/-- An envelope retained stays so until it is presented or a reading expires it. -/
lemma retained_run {r : IssuedEnvelope} {calls : List (BoundaryCall Model Args)}
    (hr : r ∈ s.issued) (hnot : ∀ call ∈ calls, ¬ call.Presents r.identity)
    (hclock : ∀ call ∈ calls, ∀ x, call.clock = .number x → x.value < r.expiresAt.value) :
    r ∈ ((b.machine rules).run s calls).issued := by
  induction calls generalizing s with
  | nil => exact hr
  | cons call calls ih =>
      refine ih ?_ (fun c hc => hnot c (List.mem_cons_of_mem _ hc))
        fun c hc => hclock c (List.mem_cons_of_mem _ hc)
      cases call with
      | evaluate w c => exact evaluate_keeps hr (hclock _ (List.mem_cons_self ..))
      | consume w c =>
          show r ∈ (b.consume w s c).1.issued
          rw [consume_issued]
          refine List.mem_filter.mpr ⟨hr, decide_eq_true fun heq => ?_⟩
          exact hnot _ (List.mem_cons_self ..) ⟨w, c, rfl, heq⟩

/-- **The boundary's guarantees**, for every sequence of calls with whatever arguments, clock
readings and registries:
* an envelope presented once is refused ever after;
* a successful `consume` presents an envelope issued earlier in the run, unchanged, for the
  same invocation, in its lifetime, with the registry and the schema unchanged;
* at most 256 envelopes are retained, and their requests are distinct;
* an envelope never presented, while no reading left its lifetime, is consumed by the same
  data, and `consume` returns its binding. -/
theorem executionBoundary_singleUse_exact (b : ExecutionBoundary Model) (rules : TextRules Model)
    (calls : List (BoundaryCall Model Args)) :
    let trace := (b.machine rules).trace Issuer.initial calls
    let final := (b.machine rules).run Issuer.initial calls
    (∀ xs d ys e zs identity, trace = xs ++ d :: ys ++ e :: zs →
      (∃ i ∈ xs, ∃ w c envelope, IssuedAt i w c identity envelope) →
      d.input.Presents identity → e.input.Presents identity →
      ∃ error, e.output = .consumed (.error error)) ∧
    (∀ xs e zs w c binding, trace = xs ++ e :: zs → e.input = .consume w c →
      e.output = .consumed (.ok binding) →
      ∃ d ∈ xs, ∃ w₀ c₀ identity envelope, IssuedAt d w₀ c₀ identity envelope ∧
        c.envelope = .envelope identity envelope ∧ binding = envelope.binding ∧
        SameInvocation b w₀ c₀ envelope w c) ∧
    (final.issued.length ≤ 256 ∧ (final.issued.map (·.envelope.binding.requestId)).Nodup) ∧
    (∀ xs d ys w₀ c₀ identity envelope now c, trace = xs ++ d :: ys →
      IssuedAt d w₀ c₀ identity envelope →
      (∀ e ∈ ys, ¬ e.input.Presents identity) →
      (∀ e ∈ ys, ∀ x, e.input.clock = .number x →
        envelope.issuedAt.value ≤ x.value ∧ x.value < envelope.expiresAt.value) →
      c.clock.now = .ok now → envelope.issuedAt.value ≤ now.value →
      now.value < envelope.expiresAt.value →
      c.envelope = .envelope identity envelope → c.requestId = c₀.requestId →
      (∃ facts, c₀.facts = some facts ∧ c.tool = facts.tool) → c.arguments = c₀.arguments →
      c.policyContext = c₀.policyContext →
      (b.machine rules).out final (.consume w₀ c) = .consumed (.ok envelope.binding)) := by
  refine ⟨?_, ?_, ?_, ?_⟩
  · intro xs d ys e zs identity htrace ⟨i, hi, w₀, c₀, envelope, hissue⟩ hd he
    obtain ⟨-, hxs, -, -⟩ := (b.machine rules).trace_split htrace
    obtain ⟨hdbefore, hdtrace, hdstep, -⟩ := (b.machine rules).trace_split hxs
    obtain ⟨-, -, hestep, -⟩ := (b.machine rules).trace_split htrace
    have hlt : identity < d.before.created := by
      obtain ⟨us, vs, rfl⟩ := List.append_of_mem hi
      obtain ⟨-, -, -, hrun⟩ := (b.machine rules).trace_split hdtrace
      rw [hdbefore, hrun]
      exact (retained_of_issuedAt (hdtrace ▸ hi) hissue).1.trans_le
        ((created_monotone b rules).run (fun _ => le_rfl) (fun _ _ _ => le_trans) _ _)
    obtain ⟨w, c, hinput, hidentity⟩ := hd
    obtain ⟨w', c', hinput', hidentity'⟩ := he
    rw [hinput] at hdstep
    rw [hinput'] at hestep
    have hspent : d.after.Spent identity := by
      rw [← show (b.consume w d.before c).1 = d.after from congrArg Prod.fst hdstep]
      exact spent_of_consume hlt hidentity
    have hspent' : e.before.Spent identity := by
      rw [Machine.before_later htrace]
      exact (spent_preserved b rules identity).run hspent _
    obtain ⟨error, herror⟩ := consume_of_spent (b := b) (w := w') hspent' hidentity'
    exact ⟨error, by rw [← herror]; exact (congrArg Prod.snd hestep).symm⟩
  · intro xs e zs w c binding htrace hinput hout
    obtain ⟨hbefore, hxs, hstep, -⟩ := (b.machine rules).trace_split htrace
    rw [hinput, hout] at hstep
    have hconsume : (b.consume w e.before c).2 = .ok binding :=
      BoundaryResult.consumed.inj (congrArg Prod.snd hstep)
    obtain ⟨r, hr, contents, hpresented, hverify⟩ := consume_eq_ok hconsume
    rw [hbefore] at hr
    obtain ⟨d, hd, w₀, c₀, policy, hdinput, hdout, hfor⟩ := issued_origin hr
    rw [hxs] at hd
    obtain ⟨rfl, hbinding, hsame⟩ := sameInvocation_of_verify hfor hverify
    exact ⟨d, hd, w₀, c₀, _, _, ⟨hdinput, policy, hdout⟩, hpresented, hbinding, hsame⟩
  · have hinv := (inv_preserved b rules).run Issuer.inv_initial calls
    exact ⟨hinv.bounded, hinv.requests⟩
  · intro xs d ys w₀ c₀ identity envelope now c htrace hissue hnot hclock hnow hge hlt henvelope
      hrequest htool hargs hcontext
    obtain ⟨-, -, -, hrun⟩ := (b.machine rules).trace_split htrace
    obtain ⟨-, r, hr, rfl, rfl, hfor⟩ := retained_of_issuedAt
      (htrace ▸ List.mem_append_right _ (List.mem_cons_self ..)) hissue
    obtain ⟨policy, hprepare, henv⟩ := hfor.prepared
    obtain ⟨hpermit, hcontext₀, facts, hfacts, hreq₀, htool₀, hargs₀, hsha, hscope, hdecision,
      hcontextSha⟩ := prepare_eq_ok hprepare
    have hissued : r.envelope.issuedAt = r.issuedAt := by rw [henv]; rfl
    have hexpires : r.envelope.expiresAt = r.expiresAt := by rw [henv]; rfl
    rw [hissued] at hge hclock
    rw [hexpires] at hlt hclock
    have hfinal : r ∈ ((b.machine rules).run Issuer.initial calls).issued := by
      rw [hrun]
      refine retained_run hr (fun call hcall => ?_) fun call hcall x hx => ?_
      · obtain ⟨e, he, rfl⟩ := List.mem_map.mp hcall
        exact hnot e he
      · obtain ⟨e, he, rfl⟩ := List.mem_map.mp hcall
        exact (hclock e he x hx).2
    have hfind := ((inv_preserved b rules).run Issuer.inv_initial calls).numbered.get?_eq hfinal
    obtain ⟨facts', hfacts', htool'⟩ := htool
    obtain rfl : facts' = facts := Option.some.inj (hfacts'.symm.trans hfacts)
    have hverify : b.verify w₀ r r.envelope c = .ok r.envelope.binding :=
      verify_eq_ok.mpr ⟨hfor.serialized.symm, ⟨now, hnow, hge, hlt⟩, hcontext ▸ hcontext₀,
        ⟨hrequest.trans hreq₀.symm, htool'.trans htool₀.symm, by rw [henv]; exact hpermit,
          hdecision, by rw [henv]; rfl, hscope, hcontextSha.symm⟩,
        by rw [htool', hargs]; exact hargs₀, hsha.symm, rfl⟩
    show BoundaryResult.consumed (b.consume w₀ _ c).2 = _
    simp only [ExecutionBoundary.consume, henvelope, Presented.identity?, hfind, hverify]

end CivicGate
