import CivicGate.Governance.ExecutionSafety
import CivicGate.Write01.Authority

/-!
# Write approvals are spent at most once

An evaluation either changes nothing or spends one approval to issue one envelope
(`evaluate_cases`), and everything that could raise comes before the first change.  A
consumption drops the envelope presented and changes nothing else (`consume_fst`).  The spent
places, the used request ids and the number of envelopes created therefore only grow, and an
envelope dropped never returns.
-/

namespace CivicGate.Write01

variable {Model : Type} {a : WriteAuthority} {rules : TextRules Model} {w : WriteWorld}
  {s : Issuance}

/-! ## The text of an approval determines it -/

lemma HostApproval.normalize_toJson (x : HostApproval) : x.toJson.normalize = x.toJson := by
  refine Json.normalize_dict ?_ (by simp)
  simp only [List.map_cons, List.map_nil]
  decide

lemma HostApproval.canonical_inj {x y : HostApproval} :
    canonical false x.toJson = canonical false y.toJson ↔ x = y := by
  rw [CivicGate.canonical_inj, normalize_toJson, normalize_toJson]
  constructor
  · intro h
    simp only [HostApproval.toJson, Json.dict.injEq, List.cons.injEq, Prod.mk.injEq,
      Json.str.injEq, Json.bool.injEq, true_and, and_true] at h
    obtain ⟨_, _, _, _, _, _, _, _⟩ := h
    cases x
    cases y
    simp_all
  · rintro rfl
    rfl

/-- The loop finds an approval that is as noted, approved, unspent and for exactly this. -/
lemma matching_eq_some {spent : List ℕ} {request tool arguments : String}
    {noted : List HostApproval} {i place : ℕ} {found : HostApproval}
    (h : matching w spent request tool arguments i noted = .ok (some (place, found))) :
    i ≤ place ∧ noted[place - i]? = some found ∧ found.approved = true ∧ place ∉ spent ∧
      found.originalRequest = request ∧ found.tool = tool ∧ found.argumentsJson = arguments := by
  induction noted generalizing i with
  | nil => cases h
  | cons x rest ih =>
      simp only [matching, Except.bind_eq_ok, Except.reraise_eq_ok, ensure_eq_ok,
        decide_eq_true_eq] at h
      obtain ⟨y, -, -, hsame, h⟩ := h
      obtain rfl := HostApproval.canonical_inj.mp hsame
      split at h
      · rename_i hmatch
        obtain ⟨rfl, rfl⟩ := Prod.mk.inj (Option.some.inj (Except.pure_eq_ok.mp h))
        exact ⟨le_rfl, by rw [Nat.sub_self]; rfl, hmatch⟩
      · obtain ⟨hle, hget, hmatch⟩ := ih h
        refine ⟨Nat.le_of_succ_le hle, ?_, hmatch⟩
        rw [show place - i = place - (i + 1) + 1 by omega, List.getElem?_cons_succ]
        exact hget

/-! ## What a call can do -/

/-- What granting `g` in a call settles. -/
structure Granted (a : WriteAuthority) (w : WriteWorld) (s : Issuance) (c : EvaluateCall)
    (g : Grant) : Prop where
  requestId : c.requestId = some g.retained.envelope.binding.requestId
  unused : g.retained.envelope.binding.requestId ∉ s.requestIds
  originalRequest : c.originalRequest = some g.retained.originalRequest
  query : ∃ q schema facts, a.query w c.tool c.query = .ok (q, schema) ∧
    g.retained.envelope = newEnvelope
      (a.binding g.retained.envelope.binding.requestId q schema facts)
      g.retained.issuedAt g.retained.expiresAt
  approval : ∃ x, a.approvals[g.place]? = some x ∧ x.approved = true ∧
    x.originalRequest = g.retained.originalRequest ∧
    x.tool = g.retained.envelope.binding.tool ∧
    x.argumentsJson = g.retained.envelope.binding.argumentsJson ∧
    x.reference = g.retained.approvalReference
  unspent : g.place ∉ s.spent
  identity : g.retained.identity = s.created
  serialized : g.retained.serialized = canonical false g.retained.envelope.toJson
  context : g.retained.contextJson = a.contextJson
  clock : now c.clock = .ok g.retained.issuedAt
  expiry : a.expiry g.retained.issuedAt = .ok g.retained.expiresAt
  capacity : s.requestIds.length < maxApprovals

lemma requireText_eq_ok {value : Option String} {maximum : ℕ} {text : String}
    (h : requireText value maximum = .ok text) : value = some text := by
  cases value with
  | none => cases h
  | some x =>
      simp only [requireText, Except.bind_eq_ok, Except.pure_eq_ok] at h
      obtain ⟨-, -, rfl⟩ := h
      rfl

/-- Arguments examined without denial passed `_query`. -/
lemma examine_eq_some {tool : Option String} {query : Arguments} {refusal : List String}
    {found : Query × String} (h : a.examine w tool query = .ok (refusal, some found)) :
    a.query w tool query = .ok found := by
  unfold WriteAuthority.examine at h
  split at h
  · cases h
  · split at h
    · rename_i hquery
      obtain ⟨-, hfound⟩ := Prod.mk.inj (Except.pure_eq_ok.mp h)
      rw [hquery, Option.some.inj hfound]
    · split at h <;> cases h

/-- A decision either grants nothing and is no permission, or is the permission that goes with
what it grants. -/
lemma decide_eq_ok {c : EvaluateCall} {policy : PolicyResult} {grant : Option Grant}
    (h : a.decide rules w s c = .ok (policy, grant)) :
    (grant = none ∧ policy.decision ≠ .permit) ∨
      ∃ g, grant = some g ∧ policy = permit ∧ Granted a w s c g := by
  simp only [WriteAuthority.decide, Except.bind_eq_ok, ensure_eq_ok, decide_eq_true_eq] at h
  obtain ⟨requestId, hrequestId, originalRequest, hrequest, -, hunused, state, -, ⟨refusal, found⟩,
    hexamine, h⟩ := h
  cases found with
  | none =>
      obtain ⟨rfl, rfl⟩ := Prod.mk.inj (Except.pure_eq_ok.mp h)
      exact .inl ⟨rfl, by simp⟩
  | some found =>
      obtain ⟨query, schema⟩ := found
      have hquery := examine_eq_some hexamine
      dsimp only at h
      split at h
      · obtain ⟨rfl, rfl⟩ := Prod.mk.inj (Except.pure_eq_ok.mp h)
        exact .inl ⟨rfl, by simp⟩
      · simp only [Except.bind_eq_ok] at h
        obtain ⟨approval, happroval, advisory, -, h⟩ := h
        cases approval with
        | none =>
            obtain ⟨rfl, rfl⟩ := Prod.mk.inj (Except.pure_eq_ok.mp h)
            exact .inl ⟨rfl, by simp⟩
        | some approval =>
            obtain ⟨place, approval⟩ := approval
            dsimp only at h
            split at h
            · obtain ⟨rfl, rfl⟩ := Prod.mk.inj (Except.pure_eq_ok.mp h)
              exact .inl ⟨rfl, by simp⟩
            · simp only [Except.bind_eq_ok, ensure_eq_ok, decide_eq_true_eq, Except.pure_eq_ok,
                Prod.mk.injEq] at h
              obtain ⟨-, hcapacity, issuedAt, hnow, expiresAt, hexpiry, rfl, rfl⟩ := h
              obtain ⟨-, hplace, happroved, hunspent, hsame, htool, harguments⟩ :=
                matching_eq_some happroval
              rw [Nat.sub_zero] at hplace
              refine .inr ⟨_, rfl, rfl, ?_⟩
              exact
                { requestId := requireText_eq_ok hrequestId
                  unused := hunused
                  originalRequest := requireText_eq_ok hrequest
                  query := ⟨query, schema, _, hquery, rfl⟩
                  approval := ⟨approval, hplace, happroved, hsame, htool, harguments, rfl⟩
                  unspent := hunspent
                  identity := rfl
                  serialized := rfl
                  context := rfl
                  clock := hnow
                  expiry := hexpiry
                  capacity := hcapacity }

/-- `evaluate` either changes nothing and permits nothing, or grants. -/
lemma evaluate_cases (a : WriteAuthority) (rules : TextRules Model) (w : WriteWorld)
    (s : Issuance) (c : EvaluateCall) :
    ((a.evaluate rules w s c).1 = s ∧ ∀ p, (a.evaluate rules w s c).2 = .ok p →
      p.envelope = none ∧ p.policy.decision ≠ .permit) ∨
    ∃ g, Granted a w s c g ∧ a.evaluate rules w s c =
      (s.grant g, .ok ⟨permit, some (g.retained.identity, g.retained.envelope)⟩) := by
  unfold WriteAuthority.evaluate
  split
  · exact .inl ⟨rfl, by simp⟩
  · rename_i hdecide
    rcases decide_eq_ok hdecide with ⟨-, hpolicy⟩ | ⟨g, hg, -⟩
    · refine .inl ⟨rfl, fun p hp => ?_⟩
      cases hp
      exact ⟨rfl, hpolicy⟩
    · cases hg
  · rename_i hdecide
    rcases decide_eq_ok hdecide with ⟨hg, -⟩ | ⟨g, hg, rfl, hgranted⟩
    · cases hg
    · obtain rfl := Option.some.inj hg
      exact .inr ⟨_, hgranted, rfl⟩

/-- `consume` drops the envelope presented and changes nothing else. -/
lemma consume_fst (a : WriteAuthority) (w : WriteWorld) (s : Issuance) (c : ConsumeCall) :
    (a.consume w s c).1 =
      { s with issued := s.issued.filter fun r => c.envelope.identity? ≠ some r.identity } := by
  unfold WriteAuthority.consume
  split
  · rename_i hnone
    rw [hnone, List.filter_eq_self.mpr (by simp)]
  · rename_i identity hsome
    rw [hsome]
    split
    · rename_i hfind
      rw [List.filter_eq_self.mpr]
      intro r hr
      have hne : r.identity ≠ identity := by simpa using List.find?_eq_none.mp hfind r hr
      simpa using hne.symm
    · simp only [ne_eq, Option.some.injEq, eq_comm (a := identity)]

/-- A successful `consume` found the envelope presented and verified it. -/
lemma consume_eq_ok {c : ConsumeCall} {binding : ExecutionBinding}
    (h : (a.consume w s c).2 = .ok binding) :
    ∃ r ∈ s.issued, c.envelope.identity? = some r.identity ∧ a.verify w r c = .ok binding := by
  unfold WriteAuthority.consume at h
  split at h
  · cases h
  · rename_i identity hidentity
    split at h
    · cases h
    · rename_i r hfind
      have hid : r.identity = identity := by simpa using List.find?_some hfind
      exact ⟨r, List.mem_of_find?_eq_some hfind, by rw [hidentity, hid], h⟩

/-- What a verification checks. -/
lemma verify_eq_ok {r : Issued} {c : ConsumeCall} {binding : ExecutionBinding}
    (h : a.verify w r c = .ok binding) :
    ∃ q schema envelope now, a.query w c.tool c.query = .ok (q, schema) ∧
      contents c.envelope = .ok envelope ∧ Write01.now c.clock = .ok now ∧
      r.issuedAt.value ≤ now.value ∧ now.value < r.expiresAt.value ∧
      canonical false envelope.toJson = r.serialized ∧ binding = envelope.binding ∧
      c.originalRequest = some r.originalRequest ∧ a.contextJson = r.contextJson ∧
      c.requestId = some binding.requestId ∧ c.tool = some binding.tool ∧
      binding.argumentsJson = q.text := by
  simp only [WriteAuthority.verify, Except.bind_eq_ok, Except.reraise_eq_ok, ensure_eq_ok,
    Except.pure_eq_ok, Bool.and_eq_true, decide_eq_true_eq] at h
  obtain ⟨⟨q, schema⟩, hquery, envelope, hcontents, now, hnow, -, ⟨hge, hlt⟩, -, hchecks, rfl⟩ := h
  obtain ⟨⟨⟨⟨⟨⟨⟨⟨⟨⟨⟨⟨hserial, hrequest⟩, hcontext⟩, hid⟩, htool⟩, harguments⟩, -⟩, -⟩, -⟩, -⟩, -⟩,
    -⟩, -⟩ := hchecks
  exact ⟨q, schema, envelope, now, hquery, hcontents, hnow, hge, hlt, hserial, rfl, hrequest.symm,
    hcontext, hid.symm, htool.symm, harguments⟩

lemma query_eq_ok {tool : Option String} {query : Arguments} {q : Query} {schema : String}
    (h : a.query w tool query = .ok (q, schema)) : normalizeQuery tool query = .ok q := by
  simp only [WriteAuthority.query, Except.bind_eq_ok, Except.reraise_eq_ok, ensure_eq_ok,
    Except.pure_eq_ok, Prod.mk.injEq] at h
  obtain ⟨q', hq, -, -, -, -, rfl, -⟩ := h
  exact hq

lemma schema_eq {tool : Option String} {query : Arguments} {q : Query} {schema : String}
    (h : a.query w tool query = .ok (q, schema)) : schema = a.schemas q.tool := by
  simp only [WriteAuthority.query, Except.bind_eq_ok, Except.reraise_eq_ok, ensure_eq_ok,
    Except.pure_eq_ok, Prod.mk.injEq, decide_eq_true_eq] at h
  obtain ⟨q', -, schema', -, -, hschema, rfl, rfl⟩ := h
  exact hschema

lemma contents_eq_ok {x : Presented} {envelope : AuthorityEnvelope} {identity : ℕ}
    (h : contents x = .ok envelope) (hid : x.identity? = some identity) :
    x = .envelope identity envelope := by
  cases x with
  | notEnvelope => cases h
  | envelope n contents =>
      rw [Option.some.inj hid, Except.pure_eq_ok.mp h]
  | unprintable n e => cases h

/-! ## The state over a run -/

/-- What the authority may have done between two states. -/
structure Issuance.Le (s t : Issuance) : Prop where
  spent : s.spent <+: t.spent
  requestIds : s.requestIds <+: t.requestIds
  created : s.created ≤ t.created

lemma Issuance.Le.refl (s : Issuance) : s.Le s := ⟨List.prefix_rfl, List.prefix_rfl, le_rfl⟩

lemma Issuance.Le.trans {s t u : Issuance} (h : s.Le t) (h' : t.Le u) : s.Le u :=
  ⟨h.spent.trans h'.spent, h.requestIds.trans h'.requestIds, h.created.trans h'.created⟩

lemma Issuance.le_grant (s : Issuance) (g : Grant) : s.Le (s.grant g) :=
  ⟨List.prefix_append .., List.prefix_append .., Nat.le_succ _⟩

/-- No approval is spent, no request id used and no envelope named twice. -/
structure Issuance.Inv (s : Issuance) : Prop where
  spent : s.spent.Nodup
  requestIds : s.requestIds.Nodup
  spent_length : s.spent.length = s.created
  requestIds_length : s.requestIds.length = s.created
  bounded : s.created ≤ maxApprovals
  numbered : Table.Numbered (·.identity) s.issued s.created

lemma Issuance.inv_initial : Issuance.initial.Inv where
  spent := List.nodup_nil
  requestIds := List.nodup_nil
  spent_length := rfl
  requestIds_length := rfl
  bounded := Nat.zero_le _
  numbered := .nil _

lemma Issuance.Inv.grant (h : s.Inv) {c : EvaluateCall} {g : Grant} (hg : Granted a w s c g) :
    (s.grant g).Inv where
  spent := by
    show (s.spent ++ [g.place]).Nodup
    rw [← List.concat_eq_append]
    exact h.spent.concat hg.unspent
  requestIds := by
    show (s.requestIds ++ [_]).Nodup
    rw [← List.concat_eq_append]
    exact h.requestIds.concat hg.unused
  spent_length := by
    show (s.spent ++ [g.place]).length = s.created + 1
    rw [List.length_append, h.spent_length, List.length_singleton]
  requestIds_length := by
    show (s.requestIds ++ [_]).length = s.created + 1
    rw [List.length_append, h.requestIds_length, List.length_singleton]
  bounded := by
    have hlt := hg.capacity
    rw [h.requestIds_length] at hlt
    exact hlt
  numbered := h.numbered.concat hg.identity

/-- The envelope a grant issued is found by its number. -/
lemma find?_grant (h : s.Inv) {c : EvaluateCall} {g : Grant} (hg : Granted a w s c g) :
    (s.grant g).issued.find? (·.identity = g.retained.identity) = some g.retained :=
  (h.grant hg).numbered.get?_eq (List.mem_append_right _ (List.mem_singleton_self _))

lemma inv_preserved (a : WriteAuthority) (rules : TextRules Model) :
    (a.machine rules).Preserved Issuance.Inv := by
  intro s call h
  cases call with
  | evaluate w c =>
      show Issuance.Inv (a.evaluate rules w s c).1
      rcases evaluate_cases a rules w s c with ⟨hs, -⟩ | ⟨g, hg, hs⟩
      · rw [hs]
        exact h
      · rw [hs]
        exact h.grant hg
  | consume w c =>
      show Issuance.Inv (a.consume w s c).1
      rw [consume_fst]
      exact { h with numbered := h.numbered.sublist List.filter_sublist }
  | approvalReference identity => exact h

lemma le_step (a : WriteAuthority) (rules : TextRules Model) :
    Machine.Monotone (a.machine rules) Issuance.Le := by
  intro s call
  cases call with
  | evaluate w c =>
      show s.Le (a.evaluate rules w s c).1
      rcases evaluate_cases a rules w s c with ⟨hs, -⟩ | ⟨g, -, hs⟩
      · rw [hs]
        exact .refl s
      · rw [hs]
        exact s.le_grant g
  | consume w c =>
      show s.Le (a.consume w s c).1
      rw [consume_fst]
      exact ⟨List.prefix_rfl, List.prefix_rfl, le_rfl⟩
  | approvalReference identity => exact .refl s

/-- The envelope was created, and is retained no more. -/
def Issuance.Dropped (s : Issuance) (identity : ℕ) : Prop :=
  Table.Left (·.identity) s.issued s.created identity

lemma dropped_preserved (a : WriteAuthority) (rules : TextRules Model) (identity : ℕ) :
    (a.machine rules).Preserved (Issuance.Dropped · identity) := by
  intro s call h
  cases call with
  | evaluate w c =>
      show Issuance.Dropped (a.evaluate rules w s c).1 identity
      rcases evaluate_cases a rules w s c with ⟨hs, -⟩ | ⟨g, hg, hs⟩
      · rw [hs]
        exact h
      · rw [hs]
        exact Table.Left.concat h hg.identity
  | consume w c =>
      show Issuance.Dropped (a.consume w s c).1 identity
      rw [consume_fst]
      exact Table.Left.sublist h List.filter_sublist
  | approvalReference n => exact h

lemma dropped_of_consume {c : ConsumeCall} {identity : ℕ} (hlt : identity < s.created)
    (hc : c.envelope.identity? = some identity) : (a.consume w s c).1.Dropped identity := by
  rw [consume_fst]
  exact Table.left_of_filter hlt hc

lemma consume_of_dropped {c : ConsumeCall} {identity : ℕ} (h : s.Dropped identity)
    (hc : c.envelope.identity? = some identity) : ∃ e, (a.consume w s c).2 = .error e := by
  cases hout : (a.consume w s c).2 with
  | error e => exact ⟨e, rfl⟩
  | ok binding =>
      obtain ⟨r, hr, hid, -⟩ := consume_eq_ok hout
      rw [hc] at hid
      exact absurd (Option.some.inj hid).symm (h.2 r hr)

/-! ## Stages -/

/-- A call of a run, with the states around it. -/
abbrev AuthorityStage := Stage Issuance WriteCall WriteResult

/-- The stage is an evaluation that grants `g`. -/
def Grants (e : AuthorityStage) (w : WriteWorld) (c : EvaluateCall) (g : Grant) : Prop :=
  e.input = .evaluate w c ∧
    e.output = .evaluated (.ok ⟨permit, some (g.retained.identity, g.retained.envelope)⟩) ∧
    e.after = e.before.grant g

/-- The call passes the envelope of this identity to `consume`. -/
def WriteCall.Presents (call : WriteCall) (identity : ℕ) : Prop :=
  ∃ w c, call = .consume w c ∧ c.envelope.identity? = some identity

lemma grant_injective (s : Issuance) : Function.Injective s.grant := by
  intro g h heq
  have hplace := List.append_cancel_left (congrArg Issuance.spent heq)
  have hretained := List.append_cancel_left (congrArg Issuance.issued heq)
  cases g
  cases h
  simp_all

variable {calls : List WriteCall} {e : AuthorityStage}

lemma granted_of_grants (he : e ∈ (a.machine rules).trace s calls) {c : EvaluateCall} {g : Grant}
    (h : Grants e w c g) : Granted a w e.before c g := by
  obtain ⟨hinput, hout, hafter⟩ := h
  have hstep := (a.machine rules).step_of_mem_trace he
  rw [hinput] at hstep
  have hfst : (a.evaluate rules w e.before c).1 = e.after := congrArg Prod.fst hstep
  have hsnd : WriteResult.evaluated (a.evaluate rules w e.before c).2 = e.output :=
    congrArg Prod.snd hstep
  rcases evaluate_cases a rules w e.before c with ⟨-, hnone⟩ | ⟨g', hg', heval⟩
  · rw [hout] at hsnd
    obtain ⟨henvelope, -⟩ := hnone _ (WriteResult.evaluated.inj hsnd)
    cases henvelope
  · rw [heval, hafter] at hfst
    rwa [grant_injective _ hfst] at hg'

/-- An envelope retained was granted by a stage of the run. -/
lemma issued_origin {r : Issued} (hr : r ∈ ((a.machine rules).run .initial calls).issued) :
    ∃ d ∈ (a.machine rules).trace .initial calls, ∃ w c g, Grants d w c g ∧ g.retained = r := by
  have horigin := (a.machine rules).exists_origin (fun s => {r | r ∈ s.issued})
    (fun s call r => ∃ w c g, call = .evaluate w c ∧ g.retained = r ∧ a.evaluate rules w s c =
      (s.grant g, .ok ⟨permit, some (g.retained.identity, g.retained.envelope)⟩))
    (fun s call r hr => ?_) hr
  · rcases horigin with hinitial | ⟨d, hd, w, c, g, hinput, hg, heval⟩
    · cases hinitial
    · have hstep := (a.machine rules).step_of_mem_trace hd
      rw [hinput] at hstep
      have hfst : (a.evaluate rules w d.before c).1 = d.after := congrArg Prod.fst hstep
      have hsnd : WriteResult.evaluated (a.evaluate rules w d.before c).2 = d.output :=
        congrArg Prod.snd hstep
      rw [heval] at hfst hsnd
      exact ⟨d, hd, w, c, g, ⟨hinput, hsnd.symm, hfst.symm⟩, hg⟩
  · cases call with
    | evaluate w c =>
        change r ∈ (a.evaluate rules w s c).1.issued at hr
        rcases evaluate_cases a rules w s c with ⟨hs, -⟩ | ⟨g, -, hs⟩
        · rw [hs] at hr
          exact .inl hr
        · rw [hs] at hr
          rcases List.mem_append.mp hr with hr | hr
          · exact .inl hr
          · exact .inr ⟨w, c, g, rfl, (List.mem_singleton.mp hr).symm, hs⟩
    | consume w c =>
        change r ∈ (a.consume w s c).1.issued at hr
        rw [consume_fst] at hr
        exact .inl (List.mem_of_mem_filter hr)
    | approvalReference identity => exact .inl hr

/-- From the end of a stage to the start of a later one, things only grow. -/
lemma pairwise_le (a : WriteAuthority) (rules : TextRules Model) (calls : List WriteCall) :
    ((a.machine rules).trace .initial calls).Pairwise fun d e => d.after.Le e.before :=
  Machine.pairwise_trace (I := fun _ => True) (K := fun d s => d.after.Le s)
    (fun _ _ _ => trivial) (fun _ _ _ => .refl _)
    (fun _ _ _ _ h => h.trans (le_step a rules _ _)) (fun _ _ _ _ h => h) trivial calls

/-- Two places of approvals with one reference are the same. -/
lemma place_unique {i j : ℕ} {x y : HostApproval} (hi : a.approvals[i]? = some x)
    (hj : a.approvals[j]? = some y) (h : x.reference = y.reference) : i = j := by
  have hi' : (a.approvals.map (·.reference))[i]? = some x.reference := by simp [hi]
  have hj' : (a.approvals.map (·.reference))[j]? = some x.reference := by simp [hj, h]
  obtain ⟨hlt, -⟩ := List.getElem?_eq_some_iff.mp hi'
  exact (List.getElem?_inj hlt a.references_nodup).mp (hi'.trans hj'.symm)

/-- Grants of different stages have nothing in common. -/
structure Grant.Distinct (g h : Grant) : Prop where
  place : g.place ≠ h.place
  reference : g.retained.approvalReference ≠ h.retained.approvalReference
  identity : g.retained.identity ≠ h.retained.identity
  requestId : g.retained.envelope.binding.requestId ≠ h.retained.envelope.binding.requestId

lemma distinct_of_later {d : AuthorityStage} {w' : WriteWorld} {c c' : EvaluateCall} {g h : Grant}
    (hd : Granted a w d.before c g) (he : Granted a w' e.before c' h)
    (hafter : d.after = d.before.grant g) (hle : d.after.Le e.before) : g.Distinct h := by
  rw [hafter] at hle
  have hspent : g.place ∈ e.before.spent :=
    hle.spent.subset (List.mem_append_right _ (List.mem_singleton.mpr rfl))
  have hused : g.retained.envelope.binding.requestId ∈ e.before.requestIds :=
    hle.requestIds.subset (List.mem_append_right _ (List.mem_singleton.mpr rfl))
  have hplace : g.place ≠ h.place := fun heq => he.unspent (heq ▸ hspent)
  obtain ⟨x, hx, -, -, -, -, hxref⟩ := hd.approval
  obtain ⟨y, hy, -, -, -, -, hyref⟩ := he.approval
  refine ⟨hplace, fun heq => hplace (place_unique hx hy ?_), ?_, fun heq => he.unused (heq ▸ hused)⟩
  · rw [hxref, hyref, heq]
  · rw [hd.identity, he.identity]
    exact (Nat.lt_of_succ_le hle.created).ne

/-! ## Result -/

/-- What a successful `consume` of the envelope of `g` has in common with the evaluation that
granted it. -/
structure SameOperation (a : WriteAuthority) (c₀ : EvaluateCall) (g : Grant) (c : ConsumeCall) :
    Prop where
  requestId : c.requestId = c₀.requestId
  originalRequest : c.originalRequest = c₀.originalRequest
  tool : c.tool = c₀.tool
  context : g.retained.contextJson = a.contextJson
  /-- The approval spent was approved, and exactly for this. -/
  approved : ∃ q x, normalizeQuery c₀.tool c₀.query = .ok q ∧
    normalizeQuery c.tool c.query = .ok q ∧ a.approvals[g.place]? = some x ∧
    x.approved = true ∧ c.originalRequest = some x.originalRequest ∧ c.tool = some x.tool ∧
    x.argumentsJson = q.text ∧ x.ownerId = a.owner ∧ x.storeId = a.store ∧
    x.datasetSha256 = datasetSha256
  lifetime : ∃ issuedAt now, Write01.now c₀.clock = .ok issuedAt ∧ Write01.now c.clock = .ok now ∧
    g.retained.envelope.issuedAt = issuedAt ∧ issuedAt.value ≤ now.value ∧
    now.value < g.retained.envelope.expiresAt.value

lemma dataset_of_check {x : HostApproval} (h : x.check = .ok ()) :
    x.datasetSha256 = datasetSha256 := by
  simp only [HostApproval.check, Except.bind_eq_ok, ensure_eq_ok, Bool.and_eq_true,
    decide_eq_true_eq] at h
  obtain ⟨-, ⟨⟨-, hdataset⟩, -⟩, -⟩ := h
  exact hdataset

lemma sameOperation_of_verify {w₀ : WriteWorld} {c₀ : EvaluateCall} {g : Grant} {c : ConsumeCall}
    {binding : ExecutionBinding} (hg : Granted a w₀ s c₀ g)
    (hid : c.envelope.identity? = some g.retained.identity)
    (h : a.verify w g.retained c = .ok binding) :
    c.envelope = .envelope g.retained.identity g.retained.envelope ∧
      binding = g.retained.envelope.binding ∧ SameOperation a c₀ g c := by
  obtain ⟨q, schema, envelope, now, hquery, hcontents, hnow, hge, hlt, hserial, rfl, hrequest, -,
    hrequestId, htool, harguments⟩ := verify_eq_ok h
  rw [hg.serialized] at hserial
  obtain rfl := AuthorityEnvelope.canonical_inj.mp hserial
  obtain ⟨q₀, schema₀, facts, hquery₀, henvelope⟩ := hg.query
  obtain ⟨x, hx, happroved, hxrequest, hxtool, hxarguments, -⟩ := hg.approval
  have hmem := List.mem_of_getElem? hx
  have htool₀ : g.retained.envelope.binding.tool = q₀.tool.text := by rw [henvelope]; rfl
  have htext₀ : g.retained.envelope.binding.argumentsJson = q₀.text := by rw [henvelope]; rfl
  obtain rfl : q₀ = q := Query.text_injective (htext₀.symm.trans harguments)
  have hissued : g.retained.envelope.issuedAt = g.retained.issuedAt := by rw [henvelope]; rfl
  have hexpires : g.retained.envelope.expiresAt = g.retained.expiresAt := by rw [henvelope]; rfl
  refine ⟨contents_eq_ok hcontents hid, rfl, ?_⟩
  exact
    { requestId := hrequestId.trans hg.requestId.symm
      originalRequest := hrequest.trans hg.originalRequest.symm
      tool := by
        rw [htool, htool₀]
        exact (normalizeQuery_eq_ok (query_eq_ok hquery₀)).symm
      context := hg.context
      approved := ⟨q₀, x, query_eq_ok hquery₀, query_eq_ok hquery, hx, happroved,
        by rw [hrequest, hxrequest], by rw [htool, hxtool], by rw [hxarguments, htext₀],
        (a.approvals_owned x hmem).1, (a.approvals_owned x hmem).2,
        dataset_of_check (a.approvals_valid x hmem)⟩
      lifetime := ⟨_, now, hg.clock, hnow, hissued, hge, by rw [hexpires]; exact hlt⟩ }

/-- **Write approvals are spent at most once.**  For every sequence of calls, whatever the
queries, state facts, judge signals, clock readings, schemas and approvals found:
* an evaluation that grants nothing gives no permission and changes nothing;
* two grants are of different approvals, envelopes and requests;
* what is spent stays spent, and no more than 128 envelopes are ever issued;
* an envelope presented once is refused ever after;
* a successful `consume` presents an envelope granted earlier, unchanged and in its lifetime,
  for the same operation, which an approval of the host was for. -/
theorem writeAuthority_spentOnce (a : WriteAuthority) (rules : TextRules Model)
    (calls : List WriteCall) :
    let trace := (a.machine rules).trace Issuance.initial calls
    let final := (a.machine rules).run Issuance.initial calls
    (∀ e ∈ trace, ∀ w c, e.input = .evaluate w c → (∃ g, Grants e w c g) ∨
      e.after = e.before ∧ ∀ p, e.output = .evaluated (.ok p) →
        p.envelope = none ∧ p.policy.decision ≠ .permit) ∧
    (trace.Pairwise fun d e => ∀ w c g w' c' h, Grants d w c g → Grants e w' c' h → g.Distinct h) ∧
    ((∀ e ∈ trace, e.before.Le e.after) ∧ (trace.Pairwise fun d e => d.after.Le e.before) ∧
      final.spent.Nodup ∧ final.spent.length = final.created ∧ final.created ≤ 128) ∧
    (∀ xs d ys e zs identity, trace = xs ++ d :: ys ++ e :: zs →
      (∃ i ∈ xs, ∃ w c g, Grants i w c g ∧ g.retained.identity = identity) →
      d.input.Presents identity → e.input.Presents identity →
      ∃ error, e.output = .consumed (.error error)) ∧
    (∀ xs e zs w c binding, trace = xs ++ e :: zs → e.input = .consume w c →
      e.output = .consumed (.ok binding) →
      ∃ d ∈ xs, ∃ w₀ c₀ g, Grants d w₀ c₀ g ∧
        c.envelope = .envelope g.retained.identity g.retained.envelope ∧
        binding = g.retained.envelope.binding ∧ SameOperation a c₀ g c) := by
  refine ⟨?_, ?_, ⟨?_, pairwise_le a rules calls, ?_⟩, ?_, ?_⟩
  · intro e he w c hinput
    have hstep := (a.machine rules).step_of_mem_trace he
    rw [hinput] at hstep
    have hfst : (a.evaluate rules w e.before c).1 = e.after := congrArg Prod.fst hstep
    have hsnd : WriteResult.evaluated (a.evaluate rules w e.before c).2 = e.output :=
      congrArg Prod.snd hstep
    rcases evaluate_cases a rules w e.before c with ⟨hs, hnone⟩ | ⟨g, -, heval⟩
    · refine .inr ⟨hfst.symm.trans hs, fun p hp => hnone p ?_⟩
      rw [hp] at hsnd
      exact WriteResult.evaluated.inj hsnd
    · rw [heval] at hfst hsnd
      exact .inl ⟨g, hinput, hsnd.symm, hfst.symm⟩
  · refine (pairwise_le a rules calls).imp_of_mem ?_
    intro d e hd he hle w c g w' c' h hg hh
    exact distinct_of_later (granted_of_grants hd hg) (granted_of_grants he hh) hg.2.2 hle
  · intro e he
    have hstep := (a.machine rules).step_of_mem_trace he
    have hafter : (a.machine rules).next e.before e.input = e.after := congrArg Prod.fst hstep
    rw [← hafter]
    exact le_step a rules _ _
  · have hinv := (inv_preserved a rules).run Issuance.inv_initial calls
    exact ⟨hinv.spent, hinv.spent_length, hinv.bounded⟩
  · intro xs d ys e zs identity htrace ⟨i, hi, w₀, c₀, g, hg, hid⟩ hd he
    obtain ⟨-, hxs, -, -⟩ := (a.machine rules).trace_split htrace
    obtain ⟨-, -, hdstep, -⟩ := (a.machine rules).trace_split hxs
    obtain ⟨-, -, hestep, -⟩ := (a.machine rules).trace_split htrace
    have hpairs := pairwise_le a rules calls
    rw [htrace, List.append_assoc] at hpairs
    have hle := (List.pairwise_append.mp hpairs).2.2 i hi d (List.mem_cons_self ..)
    have hmem : i ∈ (a.machine rules).trace .initial calls := by
      rw [htrace, List.append_assoc]
      exact List.mem_append_left _ hi
    have hlt : identity < d.before.created := by
      rw [hg.2.2] at hle
      rw [← hid, (granted_of_grants hmem hg).identity]
      exact Nat.lt_of_succ_le hle.created
    obtain ⟨w, c, hinput, hidentity⟩ := hd
    obtain ⟨w', c', hinput', hidentity'⟩ := he
    rw [hinput] at hdstep
    rw [hinput'] at hestep
    have hdropped : d.after.Dropped identity := by
      rw [← show (a.consume w d.before c).1 = d.after from congrArg Prod.fst hdstep]
      exact dropped_of_consume hlt hidentity
    have hdropped' : e.before.Dropped identity := by
      rw [Machine.before_later htrace]
      exact (dropped_preserved a rules identity).run hdropped _
    obtain ⟨error, herror⟩ := consume_of_dropped (a := a) (w := w') hdropped' hidentity'
    exact ⟨error, by rw [← herror]; exact (congrArg Prod.snd hestep).symm⟩
  · intro xs e zs w c binding htrace hinput hout
    obtain ⟨hbefore, hxs, hstep, -⟩ := (a.machine rules).trace_split htrace
    rw [hinput, hout] at hstep
    have hconsume : (a.consume w e.before c).2 = .ok binding :=
      WriteResult.consumed.inj (congrArg Prod.snd hstep)
    obtain ⟨r, hr, hid, hverify⟩ := consume_eq_ok hconsume
    rw [hbefore] at hr
    obtain ⟨d, hd, w₀, c₀, g, hg, rfl⟩ := issued_origin hr
    obtain ⟨henvelope, hbinding, hsame⟩ :=
      sameOperation_of_verify (granted_of_grants hd hg) hid hverify
    rw [hxs] at hd
    exact ⟨d, hd, w₀, c₀, g, hg, henvelope, hbinding, hsame⟩

end CivicGate.Write01
