import CivicGate.Harness.BudgetInvariants

/-!
# Observations that were closed

`close_safe_observation` closes a fence once every attempt and every MCP call is over.  The
fence check of the later methods looks at open fences only, so a closed observation is protected
where a method asks for its own open fence (`LiveAttemptBudget.reserve`, and `begin_observation`
refuses a second fence), but not where it does not: `AttemptBudget.reserve` and `reserve_mcp`
take a closed observation as if it had never been opened (`closed_observation_reopened`).

Apart from these two the rows of a closed observation never change (`closedObservation_settled`).
-/

namespace CivicGate.Harness

variable {s t : BudgetStore} {o : String}

/-- The attempts of an observation. -/
def BudgetStore.attemptsOf (s : BudgetStore) (o : String) : List Attempt :=
  s.attempts.filter (·.reservation.observationId = o)

/-- The MCP calls of an observation. -/
def BudgetStore.mcpCallsOf (s : BudgetStore) (o : String) : List McpCall :=
  s.mcpCalls.filter (·.observationId = o)

/-- The observation is closed, and these are its rows, all of them over. -/
structure Settled (o : String) (attempts : List Attempt) (calls : List McpCall)
    (s : BudgetStore) : Prop where
  closed : ∃ f ∈ s.fences, f.observationId = o ∧ f.state = .closed
  attemptsOf : s.attemptsOf o = attempts
  attemptsOver : ∀ a ∈ attempts, a.state = .terminal
  mcpCallsOf : s.mcpCallsOf o = calls
  mcpCallsOver : ∀ c ∈ calls, c.state = .terminal

/-- The step comes to a reservation that nothing holds off from a closed observation: the run is
not stopped, no fence is open but one the process holds on it, and the method asks for no open
fence of its own.  It is an `AttemptBudget.reserve` with valid arguments for which the lane and
the role have room, or a `reserve_mcp` with valid arguments where there is no MCP call yet. -/
structure Reopens (o : String) (d : BudgetSystem) (a : BudgetInput) : Prop where
  closed : ∃ f ∈ d.store.fences, f.observationId = o ∧ f.state = .closed
  reserves : ∃ p, d.processes a.process = some p ∧ Running p d.store o ∧
    ((p.isLive = false ∧ ∃ r, a.call = .reserve r ∧ r.observationId = o ∧ r.validate = .ok () ∧
        Admissible d.store (r.reservation p.runId a.fresh)) ∨
      ∃ sha, a.call = .reserveMcp o sha ∧ isIdentity o = true ∧ isHash sha = true ∧
        o ∉ d.store.mcpCalls.map McpCall.observationId)

/-! ## One step -/

lemma not_holding_closed {p : BudgetProcess} (hinv : s.Inv)
    (hclosed : ∃ f ∈ s.fences, f.observationId = o ∧ f.state = .closed) : ¬ Holding p s o := by
  rintro ⟨-, g, hg, hopen, hgo, -⟩
  obtain ⟨f, hf, hfo, hstate⟩ := hclosed
  obtain rfl := Table.eq_of_key hinv.fences hf hg (hfo.trans hgo.symm)
  rw [hopen] at hstate
  cases hstate

section Step

variable {attempts : List Attempt} {calls : List McpCall}

/-- A change of an attempt that is not over is no attempt of the observation. -/
lemma settled_updateAttempt {c : Attempt} {f : Attempt → Attempt} (hinv : s.Inv)
    (h : Settled o attempts calls s) (hc : c ∈ s.attempts) (hstate : c.state ≠ .terminal)
    (hf : ∀ a, (f a).reservation = a.reservation) :
    Settled o attempts calls (s.updateAttempt c.attemptId f) := by
  refine { h with attemptsOf := Eq.trans ?_ h.attemptsOf }
  refine Table.filter_update_of_ne (fun a => by rw [hf]) fun a ha hid => ?_
  obtain rfl := Table.eq_of_key hinv.attemptIds ha hc hid
  refine decide_eq_false fun ho => hstate (h.attemptsOver a ?_)
  rw [← h.attemptsOf]
  exact List.mem_filter.mpr ⟨ha, decide_eq_true ho⟩

lemma settled_updateMcp {c : McpCall} {f : McpCall → McpCall} (hinv : s.Inv)
    (h : Settled o attempts calls s) (hc : c ∈ s.mcpCalls) (hstate : c.state ≠ .terminal)
    (hf : ∀ d, (f d).observationId = d.observationId) :
    Settled o attempts calls (s.updateMcp c.observationId f) := by
  refine { h with mcpCallsOf := Eq.trans ?_ h.mcpCallsOf }
  refine Table.filter_update_of_ne (fun a => by rw [hf]) fun a ha hid => ?_
  obtain rfl := Table.eq_of_key hinv.mcpCalls ha hc hid
  refine decide_eq_false fun ho => hstate (h.mcpCallsOver a ?_)
  rw [← h.mcpCallsOf]
  exact List.mem_filter.mpr ⟨ha, decide_eq_true ho⟩

lemma settled_halt {reason : String} (h : Settled o attempts calls s) :
    Settled o attempts calls (s.halt reason) := { h with }

/-- An attempt of another observation. -/
lemma settled_append {r : AttemptReservation} (h : Settled o attempts calls s)
    (hne : r.observationId ≠ o) (hfences : t.fences = s.fences)
    (hattempts : t.attempts = s.attempts ++ [{ reservation := r }])
    (hcalls : t.mcpCalls = s.mcpCalls) : Settled o attempts calls t where
  closed := hfences ▸ h.closed
  attemptsOf := by
    rw [← h.attemptsOf, BudgetStore.attemptsOf, hattempts, List.filter_append,
      List.filter_cons_of_neg (by simpa using hne), List.filter_nil, List.append_nil]
    rfl
  attemptsOver := h.attemptsOver
  mcpCallsOf := by rw [← h.mcpCallsOf, BudgetStore.mcpCallsOf, hcalls, BudgetStore.mcpCallsOf]
  mcpCallsOver := h.mcpCallsOver

lemma settled_change {d : BudgetSystem} {a : BudgetInput} {p : BudgetProcess}
    {answer : BudgetAnswer} (hp : d.processes a.process = some p)
    (h : Change p a.fresh d.store a.call answer t) (hinv : d.store.Inv)
    (hsettled : Settled o attempts calls d.store) (hgap : ¬ Reopens o d a) :
    Settled o attempts calls t := by
  generalize hcall : a.call = call at h
  cases h with
  | asserted | recoverable | admissible | kept | joined | rebound => exact hsettled
  | bound | consumed | recorded => exact { hsettled with }
  | stopped => exact settled_halt hsettled
  | opened =>
      obtain ⟨f, hf, hclosed⟩ := hsettled.closed
      exact { hsettled with closed := ⟨f, List.mem_append_left _ hf, hclosed⟩ }
  | closed =>
      obtain ⟨f, hf, ho, hclosed⟩ := hsettled.closed
      refine { hsettled with closed := ⟨f, List.mem_map.mpr ⟨f, hf, if_neg fun h => ?_⟩, ho,
        hclosed⟩ }
      rw [h.2] at hclosed
      cases hclosed
  | @reserved r _ hlive hvalid hrunning hr =>
      have hne : r.observationId ≠ o := by
        rintro rfl
        exact hgap ⟨hsettled.closed, p, hp, hrunning, .inl ⟨hlive, r, hcall, rfl, hvalid, hr⟩⟩
      exact settled_append (r := r.reservation p.runId a.fresh) hsettled hne rfl rfl rfl
  | @reservedLive r context u total perAttempt _ hopen hlane =>
      have hne : r.observationId ≠ o := by
        rintro rfl
        have hholding := hopen.toHolding
        rw [(Prod.mk.inj hlane).1] at hholding
        exact not_holding_closed hinv hsettled.closed hholding
      exact settled_append (r := r.reservation p.runId a.fresh) hsettled hne rfl rfl rfl
  | started _ hc hstate =>
      exact settled_updateAttempt hinv hsettled hc (by rw [hstate]; decide) fun _ => rfl
  | finished hc hstate => exact settled_updateAttempt hinv hsettled hc hstate fun _ => rfl
  | rejected hc hstate =>
      exact settled_halt (settled_updateAttempt hinv hsettled hc hstate fun _ => rfl)
  | @mcpReserved o' sha _ hidentity hsha hrunning hnew =>
      have hne : o' ≠ o := by
        rintro rfl
        exact hgap ⟨hsettled.closed, p, hp, hrunning, .inr ⟨sha, hcall, hidentity, hsha, hnew⟩⟩
      refine { hsettled with mcpCallsOf := ?_ }
      rw [← hsettled.mcpCallsOf, BudgetStore.mcpCallsOf, List.filter_append,
        List.filter_cons_of_neg (by simpa using hne), List.filter_nil, List.append_nil]
      rfl
  | mcpAdmitted _ hc hstate =>
      exact settled_updateMcp hinv hsettled hc (by rw [hstate]; decide) fun _ => rfl
  | mcpFinished hc hstate => exact settled_updateMcp hinv hsettled hc hstate fun _ => rfl
  | mcpUnknown hc hstate =>
      exact settled_halt (settled_updateMcp hinv hsettled hc hstate fun _ => rfl)

lemma settled_next {d : BudgetSystem} {a : BudgetInput} (hinv : d.store.Inv)
    (hsettled : Settled o attempts calls d.store) (hgap : ¬ Reopens o d a) :
    Settled o attempts calls (budgetMachine.next d a).store := by
  have heffect := effect_of_step d a
  generalize budgetMachine.next d a = d', budgetMachine.out d a = out at heffect
  cases heffect with
  | attached => exact hsettled
  | refused => exact hsettled
  | halted => exact settled_halt hsettled
  | lost hp hchange => exact settled_change hp hchange hinv hsettled hgap
  | returned hp hchange => exact settled_change hp hchange hinv hsettled hgap

end Step

/-! ## The law -/

/-- A close that returned leaves the observation settled. -/
lemma settled_of_close {d : BudgetSystem} {a : BudgetInput} {sha : String} {answer : BudgetAnswer}
    (hcall : a.call = .closeSafeObservation o sha) (hout : budgetMachine.out d a = .ok answer) :
    Settled o (d.store.attemptsOf o) (d.store.mcpCallsOf o) (budgetMachine.next d a).store := by
  have heffect := effect_of_step d a
  rw [hout] at heffect
  generalize budgetMachine.next d a = d' at heffect
  cases heffect with
  | attached hattach =>
      rw [hcall] at hattach
      cases hattach
  | returned hp hchange =>
      rw [hcall] at hchange
      cases hchange with
      | closed hholding hattempts hcalls =>
          obtain ⟨f, hf, hopen, ho, -⟩ := hholding.holds
          refine ⟨⟨{ f with state := .closed, summarySha256 := some sha }, ?_, ho, rfl⟩, rfl,
            fun a ha => (hattempts a (List.mem_of_mem_filter ha)).1, rfl,
            fun c hc => hcalls c (List.mem_of_mem_filter hc)⟩
          exact List.mem_map.mpr ⟨f, hf, if_pos ⟨ho, hopen⟩⟩

/-- **A closed observation.**  After a close that returned, in every run none of whose steps
reopens the observation, its attempts and MCP calls are those it was closed with, and all of them
are over. -/
theorem closedObservation_settled (hs : s.Created) {d : BudgetSystem}
    (hd : budgetMachine.Reachable (.start s) d) {a : BudgetInput} {sha : String}
    {answer : BudgetAnswer} (hcall : a.call = .closeSafeObservation o sha)
    (hout : budgetMachine.out d a = .ok answer) {as : List BudgetInput}
    (hgap : ∀ e ∈ budgetMachine.trace (budgetMachine.next d a) as, ¬ Reopens o e.before e.input) :
    Settled o (d.store.attemptsOf o) (d.store.mcpCallsOf o)
      (budgetMachine.run (budgetMachine.next d a) as).store := by
  have hinv : d.store.Inv := preserved_inv.reachable (inv_of_created hs) hd
  refine (Machine.run_of_forall_stage (I := fun e => e.store.Inv ∧
    Settled o (d.store.attemptsOf o) (d.store.mcpCallsOf o) e.store)
    (C := fun e => ¬ Reopens o e.before e.input) (fun e b h hb => ?_)
    ⟨preserved_inv d a hinv, settled_of_close hcall hout⟩ hgap).2
  exact ⟨preserved_inv e b h.1, settled_next h.1 h.2 hb⟩

/-! ### A run -/

/-- One process opens an observation, and closes it without having done anything. -/
def closingInputs : List BudgetInput :=
  [.attach false "RUN", .beginObservation "OBS", .closeSafeObservation "OBS" sampleHash].map
    sampleInput

/-- An attempt for the observation of the sample run. -/
def sampleReserve : BudgetInput := sampleInput (.reserve sampleArgs)

/-- The call that closes the observation. -/
def sampleClose : BudgetInput := sampleInput (.closeSafeObservation "OBS" sampleHash)

/-- The sample run before the close. -/
def openSystem : BudgetSystem := budgetMachine.run (.start sampleStore) (closingInputs.take 2)

/-- The same process reserves an attempt for the closed observation, and gets it. -/
theorem closed_observation_reopened :
    budgetMachine.out openSystem sampleClose = .ok .none ∧
      (budgetMachine.run (budgetMachine.next openSystem sampleClose)
        [sampleReserve]).store.attempts.map
          (fun a => (a.reservation.observationId, a.state)) = [("OBS", .reserved)] :=
  ⟨rfl, by decide⟩

/-- A base-class store for two observations, with two attempts of the planner. -/
def widerStore : BudgetStore := { runId := "RUN", roleCaps := ⟨2, 1⟩, maxObservations := 2 }

lemma created_wider : widerStore.Created :=
  .base (show BudgetStore.create "RUN" ⟨2, 1⟩ 2 = .ok widerStore from rfl)

/-- An observation with an attempt and an MCP call, both of them over. -/
def servedInputs : List BudgetInput :=
  [.attach false "RUN", .beginObservation "OBS", .reserve sampleArgs,
    .start (sampleArgs.reservation "RUN" (sampleInput .ensureRecoverable).fresh),
    .finish (sampleArgs.reservation "RUN" (sampleInput .ensureRecoverable).fresh)
      .responseObserved none,
    .reserveMcp "OBS" sampleHash, .admitMcp "OBS" sampleHash,
    .finishMcp "OBS" .clientResponseObserved none].map sampleInput

def servedSystem : BudgetSystem := budgetMachine.run (.start widerStore) servedInputs

/-- A call with other identifiers. -/
def laterInput (call : BudgetCall) : BudgetInput := { sampleInput call with
  fresh := ⟨fun n => String.ofList (List.replicate (n + 1) 'b'), "2026-01-01T00:00:01Z"⟩ }

/-- The process asks for another MCP call and for an attempt without a model, both of the closed
observation, and then opens the next one and reserves there. -/
def laterInputs : List BudgetInput :=
  [.reserveMcp "OBS" sampleHash, .reserve { sampleArgs with requestedModel := "" },
    .beginObservation "NEXT", .reserve { sampleArgs with observationId := "NEXT" }].map laterInput

/-- The system after the close and those calls. -/
def laterSystem : BudgetSystem :=
  budgetMachine.run (budgetMachine.next servedSystem sampleClose) laterInputs

lemma later_not_reopens : ∀ e ∈ budgetMachine.trace (budgetMachine.next servedSystem sampleClose)
    laterInputs, ¬ Reopens "OBS" e.before e.input := by
  rintro e he ⟨-, p, -, -, hreserves⟩
  simp only [laterInputs, List.map_cons, List.map_nil, Machine.trace_cons, Machine.trace_nil,
    List.mem_cons, List.not_mem_nil, or_false] at he
  rcases he with rfl | rfl | rfl | rfl <;>
    rcases hreserves with ⟨-, r, hcall, ho, hvalid, -⟩ | ⟨sha, hcall, -, -, hnew⟩ <;> cases hcall
  · exact hnew (by decide)
  · cases hvalid
  · exact absurd ho (by decide)

/-- The attempt and the MCP call of the closed observation stay as they were, while the next
observation gets its attempt. -/
theorem closedObservation_settled_sample :
    ((servedSystem.store.attemptsOf "OBS").length = 1 ∧
        (servedSystem.store.mcpCallsOf "OBS").length = 1) ∧
      (laterSystem.store.attemptsOf "NEXT").length = 1 ∧
      Settled "OBS" (servedSystem.store.attemptsOf "OBS") (servedSystem.store.mcpCallsOf "OBS")
        laterSystem.store :=
  ⟨by decide, by decide, closedObservation_settled created_wider ⟨servedInputs, rfl⟩
    (rfl : sampleClose.call = .closeSafeObservation "OBS" sampleHash)
    (rfl : budgetMachine.out servedSystem sampleClose = .ok .none) later_not_reopens⟩

end CivicGate.Harness
