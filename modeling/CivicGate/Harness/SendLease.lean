import CivicGate.Harness.BudgetInvariants
import Mathlib.Data.List.Perm.Subperm

/-!
# One send for a lease

A send lease is added with its attempt, consumed once, and never made available again.  So a
receipt is given at most once for an attempt, whoever asks and whatever acknowledgement is lost,
and at most twice for an observation and role.  The response facts of an attempt are recorded
once, after its lease was consumed, and stay as they were recorded (`sendLease_once`).
-/

namespace CivicGate.Harness

variable {s t : BudgetStore} {id : String}

/-! ## Leases and facts of a store -/

/-- The lease of the attempt is consumed. -/
def BudgetStore.LeaseConsumed (s : BudgetStore) (id : String) : Prop :=
  ∃ u, s.live = some u ∧ ∃ l ∈ u.leases, l.attemptId = id ∧ l.state = .consumed

/-- The facts of an attempt are in the store, as they were recorded. -/
def BudgetStore.Recorded (s : BudgetStore) (x : ResponseFacts) : Prop :=
  ∃ u, s.live = some u ∧ x ∈ u.facts

/-- The leases of a live store belong to its attempts, and its facts to consumed leases. -/
structure LiveTables.Leased (s : BudgetStore) (u : LiveTables) : Prop where
  leaseIds : (u.leases.map SendLease.attemptId).Nodup
  leases : ∀ l ∈ u.leases, ∃ a ∈ s.attempts, a.attemptId = l.attemptId ∧
    a.lane = l.binding.lane
  factIds : (u.facts.map ResponseFacts.attemptId).Nodup
  facts : ∀ f ∈ u.facts, ∃ l ∈ u.leases, l.attemptId = f.attemptId ∧ l.state = .consumed

def BudgetStore.Leased (s : BudgetStore) : Prop := ∀ u, s.live = some u → u.Leased s

lemma LiveTables.Leased.mono {u v : LiveTables} (h : u.Leased s) (hst : s.Extends t)
    (hleases : v.leases = u.leases) (hfacts : v.facts = u.facts) : v.Leased t where
  leaseIds := hleases ▸ h.leaseIds
  leases l hl := by
    rw [hleases] at hl
    obtain ⟨a, ha, hid, hlane⟩ := h.leases l hl
    obtain ⟨b, hb, hsame⟩ := hst a ha
    refine ⟨b, hb, ?_, ?_⟩
    · rw [Attempt.attemptId, hsame]
      exact hid
    · rw [Attempt.lane, hsame]
      exact hlane
  factIds := hfacts ▸ h.factIds
  facts := by
    rw [hfacts, hleases]
    exact h.facts

lemma consume_attemptId (l : SendLease) : l.consume.attemptId = l.attemptId := by
  unfold SendLease.consume
  split <;> rfl

lemma consume_binding (l : SendLease) : l.consume.binding = l.binding := by
  unfold SendLease.consume
  split <;> rfl

lemma consume_state (l : SendLease) : l.consume.state = .consumed := by
  unfold SendLease.consume
  split
  · rfl
  · rename_i hstate
    cases hs : l.state with
    | available => exact absurd hs hstate
    | consumed => rfl

/-- A consumed lease is still there, and consumed, after another is consumed. -/
lemma exists_consumed_update {rows : List SendLease} {key : String}
    (h : ∃ l ∈ rows, l.attemptId = id ∧ l.state = .consumed) :
    ∃ l ∈ Table.update SendLease.attemptId key SendLease.consume rows,
      l.attemptId = id ∧ l.state = .consumed := by
  obtain ⟨l, hl, hid, hstate⟩ := h
  by_cases hkey : l.attemptId = key
  · exact ⟨l.consume, Table.mem_update.mpr ⟨l, hl, .inl ⟨hkey, rfl⟩⟩,
      (consume_attemptId l).trans hid, consume_state l⟩
  · exact ⟨l, Table.mem_update.mpr ⟨l, hl, .inr ⟨hkey, rfl⟩⟩, hid, hstate⟩

lemma leased_change {p : BudgetProcess} {x : Fresh} {call : BudgetCall} {answer : BudgetAnswer}
    (h : Change p x s call answer t) (hleased : s.Leased) : t.Leased := by
  have hext := extends_change h
  have hsame {u v : LiveTables} (hu : s.live = some u) (hleases : v.leases = u.leases)
      (hfacts : v.facts = u.facts) : v.Leased t :=
    (hleased u hu).mono hext hleases hfacts
  cases h with
  | @reservedLive a context u total perAttempt _ hopen hlane _ _ _ _ hr _ hnew =>
      intro v hv
      obtain rfl := Option.some.inj hv
      have hu := hleased u hopen.live
      refine ⟨Table.nodup_concat hu.leaseIds hnew, fun l hl => ?_, hu.factIds, fun f hf => ?_⟩
      · rw [List.mem_append, List.mem_singleton] at hl
        rcases hl with hl | rfl
        · obtain ⟨b, hb, hid, hsame⟩ := hu.leases l hl
          exact ⟨b, List.mem_append_left _ hb, hid, hsame⟩
        · exact ⟨_, List.mem_append_right _ (List.mem_singleton_self _), rfl, hlane.symm⟩
      · obtain ⟨l, hl, hconsumed⟩ := hu.facts f hf
        exact ⟨l, List.mem_append_left _ hl, hconsumed⟩
  | bound _ _ hlive =>
      intro v hv
      obtain rfl := Option.some.inj hv
      exact hsame hlive rfl rfl
  | consumed _ hopen _ _ _ _ _ _ =>
      intro v hv
      obtain rfl := Option.some.inj hv
      have hu := hleased _ hopen.live
      refine ⟨?_, fun l hl => ?_, hu.factIds, fun f hf => exists_consumed_update (hu.facts f hf)⟩
      · rw [Table.map_update consume_attemptId]
        exact hu.leaseIds
      · obtain ⟨l', hl', ⟨-, rfl⟩ | ⟨-, rfl⟩⟩ := Table.mem_update.mp hl
        · rw [consume_attemptId, consume_binding]
          exact hu.leases l' hl'
        · exact hu.leases l hl'
  | recorded _ hopen _ _ _ hl hid hstate hnew =>
      intro v hv
      obtain rfl := Option.some.inj hv
      have hu := hleased _ hopen.live
      refine ⟨hu.leaseIds, hu.leases, Table.nodup_concat hu.factIds hnew, fun f hf => ?_⟩
      rw [List.mem_append, List.mem_singleton] at hf
      rcases hf with hf | rfl
      · exact hu.facts f hf
      · exact ⟨_, hl, hid, hstate⟩
  | _ => exact fun v hv => hsame hv rfl rfl

lemma consumed_change {p : BudgetProcess} {x : Fresh} {call : BudgetCall} {answer : BudgetAnswer}
    (h : Change p x s call answer t) (hconsumed : s.LeaseConsumed id) : t.LeaseConsumed id := by
  obtain ⟨u, hu, l, hl, hid, hstate⟩ := hconsumed
  cases h with
  | reservedLive _ hopen =>
      obtain rfl := Option.some.inj (hu.symm.trans hopen.live)
      exact ⟨_, rfl, l, List.mem_append_left _ hl, hid, hstate⟩
  | bound _ _ hlive =>
      obtain rfl := Option.some.inj (hu.symm.trans hlive)
      exact ⟨_, rfl, l, hl, hid, hstate⟩
  | consumed _ hopen =>
      obtain rfl := Option.some.inj (hu.symm.trans hopen.live)
      exact ⟨_, rfl, exists_consumed_update ⟨l, hl, hid, hstate⟩⟩
  | recorded _ hopen =>
      obtain rfl := Option.some.inj (hu.symm.trans hopen.live)
      exact ⟨_, rfl, l, hl, hid, hstate⟩
  | _ => exact ⟨u, hu, l, hl, hid, hstate⟩

lemma recorded_change {p : BudgetProcess} {x : Fresh} {call : BudgetCall} {answer : BudgetAnswer}
    {row : ResponseFacts} (h : Change p x s call answer t) (hrow : s.Recorded row) :
    t.Recorded row := by
  obtain ⟨u, hu, hmem⟩ := hrow
  cases h with
  | reservedLive _ hopen | consumed _ hopen =>
      obtain rfl := Option.some.inj (hu.symm.trans hopen.live)
      exact ⟨_, rfl, hmem⟩
  | bound _ _ hlive =>
      obtain rfl := Option.some.inj (hu.symm.trans hlive)
      exact ⟨_, rfl, hmem⟩
  | recorded _ hopen =>
      obtain rfl := Option.some.inj (hu.symm.trans hopen.live)
      exact ⟨_, rfl, List.mem_append_left _ hmem⟩
  | _ => exact ⟨u, hu, hmem⟩

lemma preserved_leased : budgetMachine.Preserved fun d => d.store.Leased :=
  preserved_of_change
    (fun _ _ h u hu => (h u hu).mono (extends_of_sublist fun _ => fun h => h) rfl rfl)
    fun _ _ _ _ _ _ => leased_change

lemma preserved_consumed (id : String) :
    budgetMachine.Preserved fun d => d.store.LeaseConsumed id :=
  preserved_of_change (fun _ _ h => h) fun _ _ _ _ _ _ => consumed_change

lemma preserved_recorded (row : ResponseFacts) :
    budgetMachine.Preserved fun d => d.store.Recorded row :=
  preserved_of_change (fun _ _ h => h) fun _ _ _ _ _ _ => recorded_change

lemma leased_of_created (h : s.Created) : s.Leased := by
  obtain ⟨-, -, -, -, hlive⟩ := empty_of_created h
  intro u hu
  obtain ⟨-, -, hleases, hfacts, -⟩ := hlive u hu
  constructor <;> simp [hleases, hfacts]

/-! ## Consumptions -/

/-- What a step that consumes the lease of an attempt finds. -/
inductive Consumption (d : BudgetSystem) (a : BudgetInput) (id : String)
    (context : RequestContext) : Prop
  | intro {args p u row lease} (hcall : a.call = .consumeSendLease args)
      (hprocess : d.processes a.process = some p) (hcontext : context = args.context p.runId)
      (hopen : ContextOpen p d.store u context) (honly : OnlyInFlight d.store row)
      (hid : row.attemptId = id) (hlane : row.lane = context.lane) (hlease : lease ∈ u.leases)
      (hleaseId : lease.attemptId = id) (hbinding : lease.binding = context)
      (havailable : lease.state = .available)

/-- The lease of the attempt becomes consumed in this step. -/
def Consumes (d : BudgetSystem) (a : BudgetInput) (id : String) : Prop :=
  ¬ d.store.LeaseConsumed id ∧ (budgetMachine.next d a).store.LeaseConsumed id

/-- The receipt a stage gives. -/
def receipt? (e : Stage BudgetSystem BudgetInput (Except BudgetError BudgetAnswer)) :
    Option SendLeaseReceipt :=
  match e.output with
  | .ok (.receipt r) => some r
  | _ => none

lemma consumption_of_change {d : BudgetSystem} {a : BudgetInput} {p : BudgetProcess}
    {answer : BudgetAnswer} (hp : d.processes a.process = some p)
    (h : Change p a.fresh d.store a.call answer t) (hbefore : ¬ d.store.LeaseConsumed id)
    (hafter : t.LeaseConsumed id) : ∃ context, Consumption d a id context := by
  obtain ⟨v, hv, l, hl, hid, hstate⟩ := hafter
  generalize hcall : a.call = call at h
  cases h with
  | reservedLive _ hopen =>
      obtain rfl := Option.some.inj hv
      rw [List.mem_append, List.mem_singleton] at hl
      rcases hl with hl | rfl
      · exact absurd ⟨_, hopen.live, l, hl, hid, hstate⟩ hbefore
      · cases hstate
  | bound _ _ hlive =>
      obtain rfl := Option.some.inj hv
      exact absurd ⟨_, hlive, l, hl, hid, hstate⟩ hbefore
  | recorded _ hopen =>
      obtain rfl := Option.some.inj hv
      exact absurd ⟨_, hopen.live, l, hl, hid, hstate⟩ hbefore
  | @consumed args u row lease _ hopen honly hlane hlease hleaseId hbinding havailable =>
      obtain rfl := Option.some.inj hv
      obtain ⟨l', hl', ⟨hkey, rfl⟩ | ⟨-, rfl⟩⟩ := Table.mem_update.mp hl
      · have hlease' : lease.attemptId = id := by
          rw [← hkey, ← consume_attemptId]
          exact hid
        exact ⟨_, .intro hcall hp rfl hopen honly (hleaseId.symm.trans hlease') hlane hlease
          hlease' hbinding havailable⟩
      · exact absurd ⟨_, hopen.live, l, hl', hid, hstate⟩ hbefore
  | _ => exact absurd ⟨v, hv, l, hl, hid, hstate⟩ hbefore

/-- A lease is consumed by no step but a send that found everything in place. -/
lemma consumption_of_consumes {d : BudgetSystem} {a : BudgetInput} (h : Consumes d a id) :
    ∃ context, Consumption d a id context := by
  obtain ⟨hbefore, hafter⟩ := h
  have heffect := effect_of_step d a
  generalize budgetMachine.next d a = d', budgetMachine.out d a = out at heffect hafter
  cases heffect with
  | attached => exact absurd hafter hbefore
  | refused => exact absurd hafter hbefore
  | halted => exact absurd hafter hbefore
  | lost hp hchange => exact consumption_of_change hp hchange hbefore hafter
  | returned hp hchange => exact consumption_of_change hp hchange hbefore hafter

/-- A receipt is given by a step that consumes the lease. -/
lemma consumption_of_receipt {d : BudgetSystem} {a : BudgetInput} {r : SendLeaseReceipt}
    (hleased : d.store.Leased) (h : receipt? (budgetMachine.stage d a) = some r) :
    Consumes d a r.attemptId ∧ Consumption d a r.attemptId r.context := by
  have hout : budgetMachine.out d a = .ok (.receipt r) := by
    unfold receipt? at h
    split at h
    · rename_i r' hr'
      cases h
      exact hr'
    · cases h
  have heffect := effect_of_step d a
  unfold Consumes
  rw [hout] at heffect
  generalize budgetMachine.next d a = d' at heffect ⊢
  generalize hanswer : BudgetAnswer.receipt r = answer at heffect
  cases heffect with
  | attached => cases hanswer
  | returned hp hchange =>
      generalize hcall : a.call = call at hchange
      cases hchange <;> first | (cases hanswer; done) | skip
      case consumed args u row lease _ hopen honly hlane hlease hleaseId hbinding havailable =>
        cases hanswer
        refine ⟨⟨?_, ?_⟩, .intro hcall hp rfl hopen honly hleaseId.symm hlane hlease rfl hbinding
          havailable⟩
        · rintro ⟨v, hv, l, hl, hid, hstate⟩
          obtain rfl := Option.some.inj (hopen.live.symm.trans hv)
          obtain rfl := Table.eq_of_key (hleased _ hopen.live).leaseIds hl hlease hid
          rw [havailable] at hstate
          cases hstate
        · exact ⟨_, rfl, lease.consume, Table.mem_update.mpr ⟨lease, hlease, .inl ⟨rfl, rfl⟩⟩,
            consume_attemptId lease, consume_state lease⟩

/-! ## Recordings -/

/-- The step adds these facts: the lease of their attempt is consumed, and there were none of
that attempt before. -/
structure Recording (d : BudgetSystem) (a : BudgetInput) (row : ResponseFacts) : Prop where
  recorded : (budgetMachine.next d a).store.Recorded row
  consumed : d.store.LeaseConsumed row.attemptId
  first : ∀ row', d.store.Recorded row' → row'.attemptId ≠ row.attemptId

/-- The receipt for response facts a stage gives. -/
def factsReceipt? (e : Stage BudgetSystem BudgetInput (Except BudgetError BudgetAnswer)) :
    Option ResponseFactsReceipt :=
  match e.output with
  | .ok (.facts r) => some r
  | _ => none

lemma recording_of_change {p : BudgetProcess} {x : Fresh} {call : BudgetCall}
    {answer : BudgetAnswer} {row : ResponseFacts} (h : Change p x s call answer t)
    (hbefore : ¬ s.Recorded row) (hafter : t.Recorded row) :
    s.LeaseConsumed row.attemptId ∧ ∀ row', s.Recorded row' → row'.attemptId ≠ row.attemptId := by
  obtain ⟨v, hv, hmem⟩ := hafter
  cases h with
  | reservedLive _ hopen | consumed _ hopen =>
      obtain rfl := Option.some.inj hv
      exact absurd ⟨_, hopen.live, hmem⟩ hbefore
  | bound _ _ hlive =>
      obtain rfl := Option.some.inj hv
      exact absurd ⟨_, hlive, hmem⟩ hbefore
  | recorded _ hopen _ _ _ hl hid hstate hnew =>
      obtain rfl := Option.some.inj hv
      rw [List.mem_append, List.mem_singleton] at hmem
      rcases hmem with hmem | rfl
      · exact absurd ⟨_, hopen.live, hmem⟩ hbefore
      · refine ⟨⟨_, hopen.live, _, hl, hid, hstate⟩, ?_⟩
        rintro row' ⟨u', hu', hmem'⟩ hsame
        obtain rfl := Option.some.inj (hopen.live.symm.trans hu')
        exact hnew (List.mem_map.mpr ⟨row', hmem', hsame⟩)
  | _ => exact absurd ⟨v, hv, hmem⟩ hbefore

/-- Facts come into the store by no step but a recording. -/
lemma recording_of_recorded {d : BudgetSystem} {a : BudgetInput} {row : ResponseFacts}
    (hbefore : ¬ d.store.Recorded row) (hafter : (budgetMachine.next d a).store.Recorded row) :
    Recording d a row := by
  have heffect := effect_of_step d a
  suffices h : d.store.LeaseConsumed row.attemptId ∧
      ∀ row', d.store.Recorded row' → row'.attemptId ≠ row.attemptId from ⟨hafter, h.1, h.2⟩
  generalize budgetMachine.next d a = d', budgetMachine.out d a = out at heffect hafter
  cases heffect with
  | attached => exact absurd hafter hbefore
  | refused => exact absurd hafter hbefore
  | halted => exact absurd hafter hbefore
  | lost hp hchange => exact recording_of_change hchange hbefore hafter
  | returned hp hchange => exact recording_of_change hchange hbefore hafter

/-- A receipt for response facts is given by the step that records them. -/
lemma recording_of_receipt {d : BudgetSystem} {a : BudgetInput} {r : ResponseFactsReceipt}
    (h : factsReceipt? (budgetMachine.stage d a) = some r) :
    ∃ row, Recording d a row ∧ row.attemptId = r.attemptId := by
  have hout : budgetMachine.out d a = .ok (.facts r) := by
    unfold factsReceipt? at h
    split at h
    · rename_i r' hr'
      cases h
      exact hr'
    · cases h
  suffices hadded : ∃ row : ResponseFacts, (budgetMachine.next d a).store.Recorded row ∧
      ¬ d.store.Recorded row ∧ row.attemptId = r.attemptId by
    obtain ⟨row, hafter, hbefore, hid⟩ := hadded
    exact ⟨row, recording_of_recorded hbefore hafter, hid⟩
  have heffect := effect_of_step d a
  rw [hout] at heffect
  generalize budgetMachine.next d a = d' at heffect ⊢
  generalize hanswer : BudgetAnswer.facts r = answer at heffect
  cases heffect with
  | attached => cases hanswer
  | returned hp hchange =>
      generalize a.call = call at hchange
      cases hchange <;> first | (cases hanswer; done) | skip
      case recorded o role sha facts context u row lease receipt document digest _ hopen _ _ _ _ _
          _ hnew hreceipt =>
        cases hanswer
        refine ⟨_, ⟨_, rfl, List.mem_append_right _ (List.mem_singleton_self _)⟩, ?_, hreceipt.symm⟩
        rintro ⟨u', hu', hmem⟩
        obtain rfl := Option.some.inj (hopen.live.symm.trans hu')
        exact hnew (List.mem_map.mpr ⟨_, hmem, rfl⟩)

/-! ## Attempts of a lane -/

/-- The attempt exists, in this lane. -/
def BudgetStore.HasAttempt (s : BudgetStore) (id : String) (lane : String × Role) : Prop :=
  ∃ a ∈ s.attempts, a.attemptId = id ∧ a.lane = lane

/-- The attempt has ended with a known outcome. -/
def BudgetStore.Ended (s : BudgetStore) (id : String) : Prop :=
  ∃ a ∈ s.attempts, a.attemptId = id ∧ a.state = .terminal ∧
    ∃ outcome, a.outcome = some outcome ∧ outcome.known = true

lemma preserved_hasAttempt (id : String) (lane : String × Role) :
    budgetMachine.Preserved fun d => d.store.HasAttempt id lane := by
  refine preserved_of_change (I := fun s => s.HasAttempt id lane) (fun _ _ h => h)
    fun _ _ _ _ _ _ h => ?_
  rintro ⟨a, ha, rfl, rfl⟩
  obtain ⟨b, hb, hsame⟩ := extends_change h a ha
  exact ⟨b, hb, congrArg AttemptReservation.attemptId hsame,
    congrArg (fun r => (r.observationId, r.role)) hsame⟩

/-- Of two attempts of a lane the one that is not under way has ended. -/
lemma ended_of_consumption {d : BudgetSystem} {a : BudgetInput} {id id' : String}
    {context : RequestContext} (hinv : d.store.Inv) (h : Consumption d a id' context)
    (hattempt : d.store.HasAttempt id context.lane) (hne : id' ≠ id) : d.store.Ended id := by
  obtain ⟨hcall, -, -, -, honly, hid, hlane, -, -, -, -⟩ := h
  rename_i row _
  obtain ⟨b, hb, rfl, hblane⟩ := hattempt
  have hrow : row ∈ d.store.laneOf context.lane :=
    List.mem_filter.mpr ⟨honly.mem, decide_eq_true hlane⟩
  have hother : b ∈ d.store.laneOf context.lane :=
    List.mem_filter.mpr ⟨hb, decide_eq_true hblane⟩
  have hlanes := hinv.lanes context.lane
  generalize d.store.laneOf context.lane = rows at hrow hother hlanes
  cases hlanes with
  | none => cases hrow
  | first =>
      rw [List.mem_singleton] at hrow hother
      exact absurd (hid.symm.trans (by rw [hrow, hother])) hne
  | @retried first second outcome _ _ hterminal houtcome hknown =>
      simp only [List.mem_cons, List.not_mem_nil, or_false] at hrow hother
      have hsecond : row = second := hrow.resolve_left fun hfirst => by
        have hstate := honly.state
        rw [hfirst, hterminal] at hstate
        cases hstate
      have hfirst : b = first := hother.resolve_right fun hb => hne (by rw [← hid, hsecond, hb])
      exact ⟨b, hb, rfl, by rw [hfirst, hterminal], outcome, by rw [hfirst, houtcome], hknown⟩

/-! ## The context of a lease -/

/-- The attempt was reserved by this step, in the context its lane was bound to. -/
def ReservedIn (d : BudgetSystem) (a : BudgetInput) (x : String × RequestContext) : Prop :=
  ∃ u args, d.store.live = some u ∧ x.2 ∈ u.contexts ∧ a.call = .reserve args ∧
    a.fresh.uuids 0 = x.1 ∧ x.2.lane = args.lane

/-- The leases of a store, with their bindings. -/
def BudgetSystem.bindings (d : BudgetSystem) : Set (String × RequestContext) :=
  { x | ∃ u, d.store.live = some u ∧ ∃ l ∈ u.leases, l.attemptId = x.1 ∧ l.binding = x.2 }

lemma binding_change {d : BudgetSystem} {a : BudgetInput} {p : BudgetProcess}
    {answer : BudgetAnswer} {x : String × RequestContext}
    (h : Change p a.fresh d.store a.call answer t)
    (hx : ∃ u, t.live = some u ∧ ∃ l ∈ u.leases, l.attemptId = x.1 ∧ l.binding = x.2) :
    x ∈ d.bindings ∨ ReservedIn d a x := by
  obtain ⟨v, hv, l, hl, hid, hbinding⟩ := hx
  generalize hcall : a.call = call at h
  cases h with
  | @reservedLive args context u _ _ _ hopen hlane =>
      obtain rfl := Option.some.inj hv
      rw [List.mem_append, List.mem_singleton] at hl
      rcases hl with hl | rfl
      · exact .inl ⟨u, hopen.live, l, hl, hid, hbinding⟩
      · subst hbinding
        exact .inr ⟨u, args, hopen.live, hopen.bound, hcall, hid, hlane⟩
  | bound _ _ hlive =>
      obtain rfl := Option.some.inj hv
      exact .inl ⟨_, hlive, l, hl, hid, hbinding⟩
  | recorded _ hopen =>
      obtain rfl := Option.some.inj hv
      exact .inl ⟨_, hopen.live, l, hl, hid, hbinding⟩
  | consumed _ hopen =>
      obtain rfl := Option.some.inj hv
      obtain ⟨l', hl', ⟨-, rfl⟩ | ⟨-, rfl⟩⟩ := Table.mem_update.mp hl
      · rw [consume_attemptId] at hid
        rw [consume_binding] at hbinding
        exact .inl ⟨_, hopen.live, l', hl', hid, hbinding⟩
      · exact .inl ⟨_, hopen.live, l, hl', hid, hbinding⟩
  | _ => exact .inl ⟨v, hv, l, hl, hid, hbinding⟩

lemma binding_next (d : BudgetSystem) (a : BudgetInput) (x : String × RequestContext)
    (hx : x ∈ (budgetMachine.next d a).bindings) : x ∈ d.bindings ∨ ReservedIn d a x := by
  have heffect := effect_of_step d a
  generalize budgetMachine.next d a = d', budgetMachine.out d a = out at heffect hx
  cases heffect with
  | attached => exact .inl hx
  | refused => exact .inl hx
  | halted => exact .inl hx
  | lost hp hchange => exact binding_change hchange hx
  | returned hp hchange => exact binding_change hchange hx

/-! ## The law -/

/-- What a stage leaves for every later one: its consumed leases are spent, the lane of its
receipt has that attempt, and its facts stay. -/
structure Spent (e : Stage BudgetSystem BudgetInput (Except BudgetError BudgetAnswer))
    (d : BudgetSystem) : Prop where
  consumed : ∀ id, e.after.store.LeaseConsumed id → d.store.LeaseConsumed id
  consumes : ∀ id, Consumes e.before e.input id → d.store.LeaseConsumed id
  receipt : ∀ r, receipt? e = some r →
    d.store.LeaseConsumed r.attemptId ∧ d.store.HasAttempt r.attemptId r.context.lane
  recorded : ∀ row, e.after.store.Recorded row → d.store.Recorded row
  facts : ∀ r, factsReceipt? e = some r →
    ∃ row, d.store.Recorded row ∧ row.attemptId = r.attemptId

/-- Of two stages in order: they do not consume the same lease; the later one gives no receipt for
a lease that was consumed, and where it gives one for the lane of an earlier receipt, that attempt
had ended; the facts of the earlier one are still there after the later one, which records no
others of their attempt; and they give receipts for the facts of different attempts. -/
structure SentOnce (e f : Stage BudgetSystem BudgetInput (Except BudgetError BudgetAnswer)) :
    Prop where
  consumed : ∀ id, Consumes e.before e.input id → ¬ Consumes f.before f.input id
  spent : ∀ id, e.after.store.LeaseConsumed id → ∀ r, receipt? f = some r → r.attemptId ≠ id
  ended : ∀ r r', receipt? e = some r → receipt? f = some r' → r'.attemptId ≠ r.attemptId ∧
    (r'.context.lane = r.context.lane → f.before.store.Ended r.attemptId)
  kept : ∀ row, e.after.store.Recorded row → f.after.store.Recorded row
  recorded : ∀ row row', e.after.store.Recorded row → Recording f.before f.input row' →
    row'.attemptId ≠ row.attemptId
  facts : ∀ r r', factsReceipt? e = some r → factsReceipt? f = some r' →
    r'.attemptId ≠ r.attemptId

lemma hasAttempt_of_consumption {d : BudgetSystem} {a : BudgetInput} {context : RequestContext}
    (h : Consumption d a id context) : d.store.HasAttempt id context.lane := by
  obtain ⟨-, -, -, -, honly, hid, hlane, -, -, -, -⟩ := h
  exact ⟨_, honly.mem, hid, hlane⟩

lemma spent_stage {d : BudgetSystem} (a : BudgetInput) (h : d.store.Inv ∧ d.store.Leased) :
    Spent (budgetMachine.stage d a) (budgetMachine.next d a) where
  consumed _ h := h
  consumes _ h := h.2
  receipt r hr := by
    obtain ⟨hconsumes, hconsumption⟩ := consumption_of_receipt h.2 hr
    exact ⟨hconsumes.2, preserved_hasAttempt _ _ d a (hasAttempt_of_consumption hconsumption)⟩
  recorded _ h := h
  facts r hr := by
    obtain ⟨row, hrow, hid⟩ := recording_of_receipt hr
    exact ⟨row, hrow.recorded, hid⟩

lemma Spent.next {e : Stage BudgetSystem BudgetInput (Except BudgetError BudgetAnswer)}
    {d : BudgetSystem} (h : Spent e d) (a : BudgetInput) : Spent e (budgetMachine.next d a) where
  consumed id hid := preserved_consumed id d a (h.consumed id hid)
  consumes id hid := preserved_consumed id d a (h.consumes id hid)
  receipt r hr := ⟨preserved_consumed _ d a (h.receipt r hr).1,
    preserved_hasAttempt _ _ d a (h.receipt r hr).2⟩
  recorded row hrow := preserved_recorded row d a (h.recorded row hrow)
  facts r hr := by
    obtain ⟨row, hrow, hid⟩ := h.facts r hr
    exact ⟨row, preserved_recorded row d a hrow, hid⟩

lemma sentOnce_of_spent {e : Stage BudgetSystem BudgetInput (Except BudgetError BudgetAnswer)}
    {d : BudgetSystem} {a : BudgetInput} (h : d.store.Inv ∧ d.store.Leased) (hspent : Spent e d) :
    SentOnce e (budgetMachine.stage d a) where
  consumed id hid hagain := hagain.1 (hspent.consumes id hid)
  spent id hid r hr heq := by
    obtain ⟨hconsumes, -⟩ := consumption_of_receipt h.2 hr
    exact hconsumes.1 (heq ▸ hspent.consumed id hid)
  ended r r' hr hr' := by
    obtain ⟨hconsumes, hconsumption⟩ := consumption_of_receipt h.2 hr'
    have hne : r'.attemptId ≠ r.attemptId := fun heq =>
      hconsumes.1 (heq ▸ (hspent.receipt r hr).1)
    refine ⟨hne, fun hlane => ?_⟩
    have hattempt := (hspent.receipt r hr).2
    rw [← hlane] at hattempt
    exact ended_of_consumption h.1 hconsumption hattempt hne
  kept row hrow := preserved_recorded row d a (hspent.recorded row hrow)
  recorded row row' hrow hrow' := (hrow'.first row (hspent.recorded row hrow)).symm
  facts r r' hr hr' := by
    obtain ⟨row, hrow, hid⟩ := hspent.facts r hr
    obtain ⟨row', hrow', hid'⟩ := recording_of_receipt hr'
    rw [← hid, ← hid']
    exact (hrow'.first row hrow).symm

lemma preserved_both : budgetMachine.Preserved fun d => d.store.Inv ∧ d.store.Leased :=
  preserved_inv.and preserved_leased

lemma pairwise_sentOnce (hs : s.Created) (as : List BudgetInput) :
    (budgetMachine.trace (.start s) as).Pairwise SentOnce :=
  Machine.pairwise_trace (K := Spent) preserved_both (fun _ a h => spent_stage a h)
    (fun _ _ a _ hspent => hspent.next a)
    (fun _ _ _ h hspent => sentOnce_of_spent h hspent) ⟨inv_of_created hs, leased_of_created hs⟩ as

/-- The receipts of a run, in order. -/
def receipts (s : BudgetStore) (as : List BudgetInput) : List SendLeaseReceipt :=
  (budgetMachine.trace (.start s) as).filterMap receipt?

/-- A lane has at most two attempts, so at most two receipts. -/
lemma receipts_le_two (hs : s.Created) (as : List BudgetInput) (lane : String × Role) :
    ((receipts s as).filter (·.context.lane = lane)).length ≤ 2 := by
  have hpair : (receipts s as).Pairwise fun r r' => r.attemptId ≠ r'.attemptId := by
    refine List.pairwise_filterMap.mpr ((pairwise_sentOnce hs as).imp fun h r hr r' hr' => ?_)
    exact ((h.ended r r' hr hr').1).symm
  have hnodup : (((receipts s as).filter (·.context.lane = lane)).map
      SendLeaseReceipt.attemptId).Nodup :=
    List.pairwise_map.mpr (hpair.sublist List.filter_sublist)
  have hsubset : ((receipts s as).filter (·.context.lane = lane)).map
      SendLeaseReceipt.attemptId ⊆
        ((budgetMachine.run (.start s) as).store.laneOf lane).map Attempt.attemptId := by
    intro id hid
    obtain ⟨r, hr, rfl⟩ := List.mem_map.mp hid
    obtain ⟨hmem, hlane⟩ := List.mem_filter.mp hr
    obtain ⟨e, he, hre⟩ := List.mem_filterMap.mp hmem
    obtain ⟨pre, post, rfl, hstage⟩ := budgetMachine.exists_of_mem_trace he
    have hboth := preserved_both.run (s := .start s) ⟨inv_of_created hs, leased_of_created hs⟩ pre
    rw [hstage] at hre
    obtain ⟨a, ha, hid, halane⟩ := (preserved_hasAttempt r.attemptId r.context.lane).run
      ((spent_stage e.input hboth).receipt r hre).2 post
    rw [budgetMachine.run_append, budgetMachine.run_cons]
    exact List.mem_map.mpr ⟨a, List.mem_filter.mpr
      ⟨ha, decide_eq_true (halane.trans (of_decide_eq_true hlane))⟩, hid⟩
  have hlength := (hnodup.subperm hsubset).length_le
  rw [List.length_map, List.length_map] at hlength
  refine hlength.trans ?_
  have hlanes := (preserved_inv.run (s := .start s) (inv_of_created hs) as).lanes lane
  generalize (budgetMachine.run (.start s) as).store.laneOf lane = rows at hlanes ⊢
  cases hlanes <;> simp

/-- **One send for a lease.**  In every run of processes of either class on a store: no two stages
consume the same lease, the later of two gives no receipt for a lease consumed by then,
acknowledged or not, and where both give a receipt for one observation and role, the attempts
differ and the earlier one had ended with a known outcome; so there are at most two.  A step
consumes a lease only in a `Consumption`: a send on the unique attempt under way of its lane, by
the holder of the open fence, in a running store, with all eight fields of the context its lane
was bound to when the attempt was reserved, and for a judge with the MCP call of that context
admitted.  Response facts come into the store only by a `Recording`, once their lease was consumed
and while there are none of that attempt; they stay as they are, and no second receipt is given
for them. -/
theorem sendLease_once (hs : s.Created) (as : List BudgetInput) :
    (budgetMachine.trace (.start s) as).Pairwise SentOnce ∧
      (∀ lane, ((receipts s as).filter (·.context.lane = lane)).length ≤ 2) ∧
      (∀ pre a post, as = pre ++ a :: post → ∀ id,
        Consumes (budgetMachine.run (.start s) pre) a id →
        ∃ context, Consumption (budgetMachine.run (.start s) pre) a id context ∧
          ∃ e ∈ budgetMachine.trace (.start s) pre, ReservedIn e.before e.input (id, context)) ∧
      (∀ pre a post, as = pre ++ a :: post → ∀ r,
        receipt? (budgetMachine.stage (budgetMachine.run (.start s) pre) a) = some r →
        Consumes (budgetMachine.run (.start s) pre) a r.attemptId ∧
          Consumption (budgetMachine.run (.start s) pre) a r.attemptId r.context) ∧
      (∀ pre a post, as = pre ++ a :: post → ∀ row,
        ¬ (budgetMachine.run (.start s) pre).store.Recorded row →
        (budgetMachine.next (budgetMachine.run (.start s) pre) a).store.Recorded row →
        Recording (budgetMachine.run (.start s) pre) a row) ∧
      (∀ pre a post, as = pre ++ a :: post → ∀ r,
        factsReceipt? (budgetMachine.stage (budgetMachine.run (.start s) pre) a) = some r →
        ∃ row, Recording (budgetMachine.run (.start s) pre) a row ∧
          row.attemptId = r.attemptId) ∧
      (budgetMachine.run (.start s) as).store.Leased := by
  have hboth := preserved_both.run (s := .start s) ⟨inv_of_created hs, leased_of_created hs⟩
  refine ⟨pairwise_sentOnce hs as, receipts_le_two hs as, fun pre a post _ id h => ?_,
    fun pre a post _ r h => consumption_of_receipt (hboth pre).2 h,
    fun pre a post _ row hbefore => recording_of_recorded hbefore,
    fun pre a post _ r h => recording_of_receipt h, (hboth as).2⟩
  obtain ⟨context, hconsumption⟩ := consumption_of_consumes h
  refine ⟨context, hconsumption, ?_⟩
  obtain ⟨-, -, -, hopen, -, -, -, hlease, hleaseId, hbinding, -⟩ := hconsumption
  have hmem : (id, context) ∈ (budgetMachine.run (.start s) pre).bindings :=
    ⟨_, hopen.live, _, hlease, hleaseId, hbinding⟩
  rcases Machine.exists_origin budgetMachine BudgetSystem.bindings ReservedIn binding_next hmem
    with hstart | horigin
  · obtain ⟨u, hu, l, hl, -⟩ := hstart
    obtain ⟨-, -, -, -, hlive⟩ := empty_of_created hs
    obtain ⟨-, -, hleases, -⟩ := hlive u hu
    rw [hleases] at hl
    cases hl
  · exact horigin

/-! ### A run -/

/-- What the response of the sample run was. -/
def sampleFacts : Json :=
  .dict [("model_identity", .str "MATCH"), ("completion", .str "COMPLETE"),
    ("refusal", .str "ABSENT_OR_NULL"), ("usage", .str "KNOWN"), ("typed_schema", .str "PASS"),
    ("contract", .str "PASS"), ("http_status", .int 200), ("body_sha256", .str sampleHash),
    ("body_bytes", .int 2), ("returned_model", .null), ("errors", .list [])]

/-- The started attempt is sent twice, and its facts are recorded twice. -/
def sentInputs : List BudgetInput :=
  startedInputs ++ [.consumeSendLease sampleSend, .consumeSendLease sampleSend,
    .recordResponseFacts "OBS" .planner sampleHash sampleFacts,
    .recordResponseFacts "OBS" .planner sampleHash sampleFacts].map sampleInput

/-- The first send gets its receipt and the second none, and so for the facts. -/
theorem sendLease_once_sample : (receipts liveStore sentInputs).length = 1 ∧
    ((budgetMachine.trace (.start liveStore) sentInputs).filterMap factsReceipt?).length = 1 ∧
    (budgetMachine.trace (.start liveStore) sentInputs).Pairwise SentOnce :=
  ⟨by decide, by decide, (sendLease_once created_live sentInputs).1⟩

end CivicGate.Harness
