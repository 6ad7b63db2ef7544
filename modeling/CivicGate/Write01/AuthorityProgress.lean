import CivicGate.Write01.AuthoritySafety

/-!
# A call the host approved

The safety theorems of `AuthoritySafety` would hold of an authority that permits nothing.  Here a
call with an unspent approval of exactly its request, tool and query, in a state its transition
allows, is permitted (`evaluate_approved`), and until the envelope expires its binding is given
back (`consume_granted`).
-/

namespace CivicGate.Write01

variable {Model : Type} {a : WriteAuthority} {rules : TextRules Model} {w : WriteWorld}
  {s : Issuance}

/-- The schemas and the approvals are as the authority noted them. -/
structure WriteWorld.Faithful (w : WriteWorld) (a : WriteAuthority) : Prop where
  schema : ∀ t, w.schema t = .ok (a.schemas t)
  approval : ∀ i x, a.approvals[i]? = some x → w.approval i = .ok x

/-- An approval of exactly this, which is not spent. -/
structure Approves (a : WriteAuthority) (s : Issuance) (request : String) (q : Query)
    (place : ℕ) (x : HostApproval) : Prop where
  noted : a.approvals[place]? = some x
  approved : x.approved = true
  unspent : place ∉ s.spent
  originalRequest : x.originalRequest = request
  tool : x.tool = q.tool.text
  arguments : x.argumentsJson = q.text

/-- An approval of the text of a query passes the check of its class. -/
lemma check_eq_ok {x : HostApproval} {q : Query} (hrequest : isText x.originalRequest 4000 = true)
    (howner : isText x.ownerId 200 = true) (hstore : isText x.storeId 4000 = true)
    (hreference : isText x.reference 200 = true) (hdataset : x.datasetSha256 = datasetSha256)
    (htool : x.tool = q.tool.text) (harguments : x.argumentsJson = q.text)
    (hsize : q.text.utf8ByteSize ≤ 16000) : x.check = .ok () := by
  obtain ⟨entries, hentries⟩ : ∃ entries, q.toJson = .dict entries := by
    cases q with
    | write q => exact ⟨_, rfl⟩
    | read q => exact ⟨_, rfl⟩
  have hnormalized : normalizeQuery (some q.tool.text) (Arguments.ofText q.text) = .ok q := by
    rw [Arguments.ofText, q.loads_text, hentries]
    exact Query.normalizeQuery_toJson hentries
  simp only [HostApproval.check, Except.bind_eq_ok, ensure_eq_ok, hrequest, howner, hstore,
    hreference, hdataset, htool, harguments, hsize, decide_true, Bool.and_self]
  exact ⟨(), trivial, q, hnormalized, decide_eq_true rfl⟩

/-- The loop finds an approval where there is one. -/
lemma matching_of_approves {spent : List ℕ} {request tool arguments : String}
    {noted : List HostApproval} {i place : ℕ} {x : HostApproval}
    (hworld : ∀ j y, noted[j]? = some y → w.approval (i + j) = .ok y)
    (hx : noted[place]? = some x) (hmatch : x.approved = true ∧ i + place ∉ spent ∧
      x.originalRequest = request ∧ x.tool = tool ∧ x.argumentsJson = arguments) :
    ∃ found, matching w spent request tool arguments i noted = .ok (some found) := by
  induction noted generalizing i place with
  | nil => cases hx
  | cons y rest ih =>
      have hfound : w.approval i = .ok y := hworld 0 y rfl
      simp only [matching, hfound, Except.reraise, decide_true, ensure_true, Except.ok_bind]
      split
      · exact ⟨_, rfl⟩
      · rename_i hnone
        cases place with
        | zero =>
            obtain rfl := Option.some.inj hx
            exact absurd hmatch hnone
        | succ place =>
            have hplace : i + 1 + place = i + (place + 1) := by omega
            refine ih (fun j z hz => ?_) hx (hplace ▸ hmatch)
            have hj : i + 1 + j = i + (j + 1) := by omega
            rw [hj]
            exact hworld (j + 1) z hz

lemma query_of_faithful (h : w.Faithful a) {tool : Option String} {query : Arguments} {q : Query}
    (hq : normalizeQuery tool query = .ok q) :
    a.query w tool query = .ok (q, a.schemas q.tool) := by
  simp only [WriteAuthority.query, Except.bind_eq_ok, Except.reraise_eq_ok, ensure_eq_ok,
    Except.pure_eq_ok]
  exact ⟨q, hq, _, h.schema q.tool, (), decide_eq_true rfl, rfl⟩

/-! ## Evaluation -/

/-- A call that nothing stands against. -/
structure Permissible (a : WriteAuthority) (rules : TextRules Model) (w : WriteWorld)
    (s : Issuance) (c : EvaluateCall) (id request : String) (q : Query) (facts : StateFacts) :
    Prop where
  world : w.Faithful a
  requestId : c.requestId = some id
  requestId_text : isText id 200 = true
  unused : id ∉ s.requestIds
  originalRequest : c.originalRequest = some request
  request_text : isText request 4000 = true
  request_clean : rules.deniedReasons request = []
  query : normalizeQuery c.tool c.query = .ok q
  state : c.state = .facts facts
  transition : stateDenials facts (some (q, a.schemas q.tool)) = []
  approval : ∃ place x, Approves a s request q place x
  judge : c.judge.reviews = .ok []
  capacity : s.requestIds.length < maxApprovals
  clock : ∃ t e, now c.clock = .ok t ∧ a.expiry t = .ok e

/-- Such a call is permitted. -/
lemma decide_permissible {c : EvaluateCall} {id request : String} {q : Query} {facts : StateFacts}
    (h : Permissible a rules w s c id request q facts) :
    ∃ grant, a.decide rules w s c = .ok (permit, some grant) := by
  obtain ⟨place, x, hx⟩ := h.approval
  obtain ⟨t, e, ht, he⟩ := h.clock
  have htool : c.tool = some q.tool.text := normalizeQuery_eq_ok h.query
  obtain ⟨⟨place', x'⟩, hfound⟩ : ∃ found,
      a.approval w s.spent request q.tool.text q.text = .ok (some found) := by
    refine matching_of_approves (i := 0) (fun j y hy => ?_) hx.noted
      ⟨hx.approved, ?_, hx.originalRequest, hx.tool, hx.arguments⟩
    · rw [Nat.zero_add]
      exact h.world.approval j y hy
    · rw [Nat.zero_add]
      exact hx.unspent
  have hexamine : a.examine w c.tool c.query = .ok ([], some (q, a.schemas q.tool)) := by
    simp only [WriteAuthority.examine, htool, registered_text]
    rw [← htool, query_of_faithful h.world h.query]
    rfl
  simp only [WriteAuthority.decide, h.requestId, h.originalRequest, requireText, h.requestId_text,
    h.request_text, ensure_true, Except.ok_bind, pure_bind, h.unused, not_false_eq_true,
    decide_true, h.state, StateArgument.require, hexamine, h.request_clean, h.transition,
    List.nil_append, ne_eq, not_true_eq_false, if_false, hfound, h.judge, h.capacity, ht, he]
  exact ⟨_, rfl⟩

lemma evaluate_approved {c : EvaluateCall} {id request : String} {q : Query} {facts : StateFacts}
    (h : Permissible a rules w s c id request q facts) :
    ∃ g, Granted a w s c g ∧ a.evaluate rules w s c =
      (s.grant g, .ok ⟨permit, some (g.retained.identity, g.retained.envelope)⟩) := by
  obtain ⟨grant, hdecide⟩ := decide_permissible h
  rcases decide_eq_ok hdecide with ⟨hnone, -⟩ | ⟨g, hg, -, hgranted⟩
  · cases hnone
  · obtain rfl := Option.some.inj hg
    exact ⟨grant, hgranted, by simp only [WriteAuthority.evaluate, hdecide]⟩

/-! ## Consumption -/

/-- The binding of an envelope is given back for the call it was issued for. -/
lemma consume_granted {w' : WriteWorld} {c : EvaluateCall} {g : Grant} {query : Arguments}
    {q : Query} {clock : ClockReading} {t : PyNum} (hs : s.Inv) (hg : Granted a w' s c g)
    (h : w.Faithful a) (hissued : normalizeQuery c.tool c.query = .ok q)
    (hquery : normalizeQuery c.tool query = .ok q) (ht : now clock = .ok t)
    (hge : g.retained.issuedAt.value ≤ t.value) (hlt : t.value < g.retained.expiresAt.value) :
    (a.consume w (s.grant g) ⟨.envelope g.retained.identity g.retained.envelope, c.requestId,
      c.originalRequest, c.tool, query, clock⟩).2 = .ok g.retained.envelope.binding := by
  have hverify : a.verify w g.retained ⟨.envelope g.retained.identity g.retained.envelope,
      c.requestId, c.originalRequest, c.tool, query, clock⟩ =
        .ok g.retained.envelope.binding := by
    obtain ⟨q', schema, facts, hq', henvelope⟩ := hg.query
    obtain rfl : q' = q := Except.ok.inj ((query_eq_ok hq').symm.trans hissued)
    obtain rfl : schema = a.schemas q'.tool := schema_eq hq'
    have htool : c.tool = some q'.tool.text := normalizeQuery_eq_ok hissued
    simp only [WriteAuthority.verify, Except.bind_eq_ok, Except.reraise_eq_ok, ensure_eq_ok,
      Except.pure_eq_ok, Bool.and_eq_true, decide_eq_true_eq]
    refine ⟨_, query_of_faithful h hquery, _, rfl, t, ht, (), ⟨hge, hlt⟩, (), ?_, rfl⟩
    rw [hg.serialized, hg.context, hg.requestId, hg.originalRequest, htool]
    generalize g.retained.envelope = envelope, g.retained.envelope.binding.requestId = id
      at henvelope
    subst henvelope
    simp [newEnvelope, WriteAuthority.binding]
  simp only [WriteAuthority.consume, Presented.identity?, find?_grant hs hg]
  exact hverify

end CivicGate.Write01
