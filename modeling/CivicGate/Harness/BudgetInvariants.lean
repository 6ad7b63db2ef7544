import CivicGate.Harness.BudgetChanges

/-!
# Invariants of the attempt budget

What holds of every store that processes of either class can reach, in any interleaving and with
any commit lost: the caps, one open fence, at most two attempts for an observation and a role and
the second only as a known retry of the first, and a stop that is final.

Every step is one `Effect`; each invariant is kept by each `Change`.
-/

namespace CivicGate.Harness

/-! ## Effects of a step -/

/-- The refusal of a method by the database. -/
def storeFailed : BudgetError := .unavailable "BUDGET_STORE_OPERATION_FAILED"

/-- What one method call of one process does. -/
inductive Effect (d : BudgetSystem) (a : BudgetInput) :
    BudgetSystem → Except BudgetError BudgetAnswer → Prop
  | attached {isLive runId p} : a.call = .attach isLive runId →
      d.store.attach isLive runId = .ok p → Effect d a (d.setProcess a.process p) (.ok .none)
  | refused {e} : e.isExceeded = false → Effect d a d (.error e)
  | halted {reason e} : e = storeFailed ∨ e = .exceeded reason ∨ e = .recoveryBlocked reason →
      Effect d a { d with store := d.store.halt reason } (.error e)
  | lost {p answer t} : d.processes a.process = some p →
      Change p a.fresh d.store a.call answer t →
      Effect d a { d with store := t } (.error storeFailed)
  | returned {p answer t} : d.processes a.process = some p →
      Change p a.fresh d.store a.call answer t →
      Effect d a ({ d with store := t }.setProcess a.process (p.returned a.call answer))
        (.ok answer)

lemma effect_of_call {d : BudgetSystem} {a : BudgetInput} {p : BudgetProcess}
    (hp : d.processes a.process = some p) : Effect d a (d.call a p).1 (d.call a p).2 := by
  have hbody := halts_body (p := p) (x := a.fresh) (s := d.store) a.call
  have hend := transacted storeFailed (p.body a.fresh d.store a.call) a.commit d.store
  unfold BudgetSystem.call
  rw [show BudgetError.unavailable "BUDGET_STORE_OPERATION_FAILED" = storeFailed from rfl]
  generalize transact storeFailed (p.body a.fresh d.store a.call) a.commit d.store = r at hend
  cases hend with
  | returned h => exact .returned hp (change_of_body h)
  | lost h => exact .lost hp (change_of_body h)
  | raised h =>
      cases hbody _ _ h with
      | rolledBack he => exact .refused he
  | stopped h =>
      cases hbody _ _ h with
      | exceeded reason => exact .halted (.inr (.inl rfl))
      | blocked reason => exact .halted (.inr (.inr rfl))
  | stoppedLost h =>
      cases hbody _ _ h with
      | exceeded reason => exact .halted (.inl rfl)
      | blocked reason => exact .halted (.inl rfl)
  | rolledBack => exact .refused rfl

lemma effect_of_step (d : BudgetSystem) (a : BudgetInput) :
    Effect d a (budgetMachine.next d a) (budgetMachine.out d a) := by
  unfold Machine.next Machine.out budgetMachine
  simp only
  split
  · rename_i isLive runId hcall
    split
    · rename_i p hp
      exact .attached hcall hp
    · rename_i e he
      refine .refused ?_
      unfold BudgetStore.attach ensure at he
      split_ifs at he <;> cases he <;> rfl
  · split
    · rename_i p hp
      exact effect_of_call hp
    · exact .refused rfl

/-- What every change of the store keeps, every step keeps. -/
lemma preserved_of_change {I : BudgetStore → Prop}
    (hhalt : ∀ s reason, I s → I (s.halt reason))
    (hchange : ∀ p x s call answer t, Change p x s call answer t → I s → I t) :
    budgetMachine.Preserved fun d => I d.store := by
  intro d a hI
  have heffect := effect_of_step d a
  generalize budgetMachine.next d a = d', budgetMachine.out d a = out at heffect
  cases heffect with
  | attached => exact hI
  | refused => exact hI
  | halted => exact hhalt _ _ hI
  | lost _ h => exact hchange _ _ _ _ _ _ h hI
  | returned _ h => exact hchange _ _ _ _ _ _ h hI

/-! ## The invariant -/

/-- The attempts of one observation and role: none, a first one, or a first one that ended with a
known outcome and its retry. -/
inductive Lane : List Attempt → Prop
  | none : Lane []
  | first {a} : a.reservation.retryCount = 0 → Lane [a]
  | retried {a b outcome} : a.reservation.retryCount = 0 → b.reservation.retryCount = 1 →
      a.state = .terminal → a.outcome = some outcome → outcome.known = true →
      a.reservation.identity = b.reservation.identity → Lane [a, b]

/-- What every reachable store satisfies. -/
structure BudgetStore.Inv (s : BudgetStore) : Prop where
  caps : ∀ role, s.attempts.countP (·.reservation.role = role) ≤ s.roleCaps.of role
  observations : s.observations.length ≤ s.maxObservations
  attemptIds : (s.attempts.map Attempt.attemptId).Nodup
  outcomes : ∀ a ∈ s.attempts, a.outcome ≠ none → a.state = .terminal
  lanes : ∀ lane, Lane (s.laneOf lane)
  fences : (s.fences.map Fence.observationId).Nodup
  fenceOpen : ∀ f ∈ s.fences, ∀ g ∈ s.fences, f.state = .opened → g.state = .opened → f = g
  mcpCalls : (s.mcpCalls.map McpCall.observationId).Nodup

variable {s t : BudgetStore}

lemma lane_update {c : Attempt} {f : Attempt → Attempt} (hinv : s.Inv) (hc : c ∈ s.attempts)
    (hstate : c.state ≠ .terminal) (hf : ∀ a, (f a).reservation = a.reservation)
    (lane : String × Role) : Lane ((s.updateAttempt c.attemptId f).laneOf lane) := by
  have hlane : (s.updateAttempt c.attemptId f).laneOf lane =
      Table.update Attempt.attemptId c.attemptId f (s.laneOf lane) :=
    Table.filter_update fun a => by rw [Attempt.lane, hf]
  have hsub : ∀ a ∈ s.laneOf lane, a ∈ s.attempts := fun a ha => List.mem_of_mem_filter ha
  rw [hlane]
  have hkeep (a : Attempt) :
      (if a.attemptId = c.attemptId then f a else a).reservation = a.reservation := by
    split
    · exact hf a
    · rfl
  have hlanes := hinv.lanes lane
  generalize s.laneOf lane = rows at hlanes hsub
  cases hlanes with
  | none => exact .none
  | first h => exact .first (by rw [hkeep, h])
  | @retried a b outcome ha hb hterminal houtcome hknown hidentity =>
      have hne : a.attemptId ≠ c.attemptId := fun hid => hstate
        (Table.eq_of_key hinv.attemptIds (hsub a (List.mem_cons_self ..)) hc hid ▸ hterminal)
      simp only [Table.update, List.map_cons, List.map_nil, if_neg hne]
      exact .retried ha (by rw [hkeep, hb]) hterminal houtcome hknown (by rw [hkeep, hidentity])

lemma lane_append {r : AttemptReservation} {t : BudgetStore} (hinv : s.Inv)
    (hr : Admissible s r) (ht : t.attempts = s.attempts ++ [{ reservation := r }])
    (lane : String × Role) : Lane (t.laneOf lane) := by
  have hlane : t.laneOf lane = s.laneOf lane ++
      [({ reservation := r } : Attempt)].filter (·.lane = lane) := by
    rw [BudgetStore.laneOf, ht, List.filter_append]
    rfl
  rw [hlane]
  by_cases hsame : (r.observationId, r.role) = lane
  swap
  · rw [List.filter_cons_of_neg (by simpa using hsame), List.filter_nil, List.append_nil]
    exact hinv.lanes lane
  rw [List.filter_cons_of_pos (by simpa using hsame), List.filter_nil]
  subst hsame
  rcases hr.index with h0 | h1
  · have hempty : s.laneOf (r.observationId, r.role) = [] := by
      have hfresh := hr.fresh
      have hlanes := hinv.lanes (r.observationId, r.role)
      generalize s.laneOf (r.observationId, r.role) = rows at hfresh hlanes
      cases hlanes with
      | none => rfl
      | first h => exact absurd (h.trans h0.symm) (hfresh _ (List.mem_cons_self ..))
      | retried h => exact absurd (h.trans h0.symm) (hfresh _ (List.mem_cons_self ..))
    rw [hempty]
    exact .first h0
  · obtain ⟨original, hrows, ⟨outcome, houtcome, hknown⟩, hidentity⟩ := hr.retry (by omega)
    have hmem : original ∈ s.attempts := by
      have hrow : original ∈ s.laneOf (r.observationId, r.role) := by
        rw [hrows]
        exact List.mem_singleton_self _
      exact List.mem_of_mem_filter hrow
    have hterminal := hinv.outcomes original hmem (by rw [houtcome]; exact Option.some_ne_none _)
    have hlanes := hinv.lanes (r.observationId, r.role)
    rw [hrows] at hlanes ⊢
    cases hlanes with
    | first h => exact .retried h h1 hterminal houtcome hknown hidentity

/-- A change of one attempt that is under way, keeping its reservation. -/
lemma inv_updateAttempt {c : Attempt} {f : Attempt → Attempt} (hinv : s.Inv)
    (hc : c ∈ s.attempts) (hstate : c.state ≠ .terminal)
    (hf : ∀ a, (f a).reservation = a.reservation)
    (houtcome : (f c).outcome ≠ none → (f c).state = .terminal) :
    (s.updateAttempt c.attemptId f).Inv := by
  refine { hinv with
    caps := fun role => ?_, attemptIds := ?_, outcomes := fun a ha hne => ?_,
    lanes := lane_update hinv hc hstate hf }
  · rw [List.countP_eq_length_filter]
    refine le_trans (le_of_eq ?_) (hinv.caps role)
    rw [List.countP_eq_length_filter]
    exact (congrArg List.length (Table.filter_update fun a => by rw [hf])).trans
      Table.length_update
  · have hids : (s.updateAttempt c.attemptId f).attempts.map Attempt.attemptId =
        s.attempts.map Attempt.attemptId :=
      Table.map_update fun a => congrArg AttemptReservation.attemptId (hf a)
    rw [hids]
    exact hinv.attemptIds
  · obtain ⟨b, hb, ⟨hid, rfl⟩ | ⟨-, rfl⟩⟩ := Table.mem_update.mp ha
    · obtain rfl : b = c := Table.eq_of_key hinv.attemptIds hb hc hid
      exact houtcome hne
    · exact hinv.outcomes a hb hne

/-- A new attempt. -/
lemma inv_append {r : AttemptReservation} (hinv : s.Inv) (hr : Admissible s r)
    (ht : t.attempts = s.attempts ++ [{ reservation := r }])
    (hobservations : t.observations.length ≤ t.maxObservations) (hcaps : t.roleCaps = s.roleCaps)
    (hfences : t.fences = s.fences) (hmcp : t.mcpCalls = s.mcpCalls) : t.Inv where
  caps role := by
    rw [ht, List.countP_append, hcaps]
    by_cases hrole : r.role = role
    · have hcap := hr.cap
      rw [hrole] at hcap
      simpa [hrole] using Nat.succ_le_of_lt hcap
    · simpa [hrole] using hinv.caps role
  observations := hobservations
  attemptIds := by
    rw [ht]
    exact Table.nodup_concat hinv.attemptIds hr.attemptId
  outcomes a ha hne := by
    rw [ht, List.mem_append, List.mem_singleton] at ha
    rcases ha with ha | rfl
    · exact hinv.outcomes a ha hne
    · exact absurd rfl hne
  lanes := lane_append hinv hr ht
  fences := hfences ▸ hinv.fences
  fenceOpen := hfences ▸ hinv.fenceOpen
  mcpCalls := hmcp ▸ hinv.mcpCalls

lemma length_observed {o : String} {observations : List String} (hinv : s.Inv)
    (h : Observed s o observations) : observations.length ≤ s.maxObservations := by
  rcases h with ⟨-, rfl⟩ | ⟨-, hroom, rfl⟩
  · exact hinv.observations
  · rw [List.length_append]
    exact hroom

lemma inv_updateMcp {o : String} {f : McpCall → McpCall} (hinv : s.Inv)
    (hf : ∀ c, (f c).observationId = c.observationId) : (s.updateMcp o f).Inv := by
  have hids : (s.updateMcp o f).mcpCalls.map McpCall.observationId =
      s.mcpCalls.map McpCall.observationId := Table.map_update hf
  exact { hinv with mcpCalls := hids ▸ hinv.mcpCalls }

lemma inv_halt {reason : String} (hinv : s.Inv) : (s.halt reason).Inv := { hinv with }

lemma inv_change {p : BudgetProcess} {x : Fresh} {call : BudgetCall} {answer : BudgetAnswer}
    (h : Change p x s call answer t) (hinv : s.Inv) : t.Inv := by
  cases h with
  | asserted | recoverable | admissible | kept | joined | rebound => exact hinv
  | bound | consumed | recorded => exact { hinv with }
  | stopped => exact inv_halt hinv
  | @opened o observations hactive hrunning _ hnew _ hobserved =>
      have hclosed : ∀ f ∈ s.fences, f.state ≠ .opened := fun f hf hstate => by
        have haccess := (hrunning.access f hf hstate).1
        rw [hactive] at haccess
        cases haccess
      refine { hinv with
        observations := length_observed (s := s) hinv hobserved
        fences := Table.nodup_concat hinv.fences hnew
        fenceOpen := fun f hf g hg hfo hgo => ?_ }
      rw [List.mem_append, List.mem_singleton] at hf hg
      rw [hf.resolve_left fun h => hclosed f h hfo, hg.resolve_left fun h => hclosed g h hgo]
  | @closed o sha =>
      have hkeep (f : Fence) : (if f.observationId = o ∧ f.state = .opened then
          { f with state := .closed, summarySha256 := some sha } else f).observationId =
            f.observationId := by
        split <;> rfl
      have hstate {f : Fence} (h : (if f.observationId = o ∧ f.state = .opened then
          { f with state := .closed, summarySha256 := some sha } else f).state = .opened) :
          f.state = .opened ∧ (if f.observationId = o ∧ f.state = .opened then
            { f with state := .closed, summarySha256 := some sha } else f) = f := by
        split at h
        · cases h
        · rename_i hne
          exact ⟨h, if_neg hne⟩
      refine { hinv with fences := ?_, fenceOpen := fun f hf g hg hfo hgo => ?_ }
      · rw [List.map_map]
        exact (List.map_congr_left fun f _ => hkeep f).symm ▸ hinv.fences
      · obtain ⟨f', hf', rfl⟩ := List.mem_map.mp hf
        obtain ⟨g', hg', rfl⟩ := List.mem_map.mp hg
        rw [(hstate hfo).2, (hstate hgo).2]
        exact hinv.fenceOpen f' hf' g' hg' (hstate hfo).1 (hstate hgo).1
  | reserved _ _ _ hr hobserved =>
      exact inv_append hinv hr rfl (length_observed (s := s) hinv hobserved) rfl rfl rfl
  | reservedLive _ _ _ _ _ _ _ hr => exact inv_append hinv hr rfl hinv.observations rfl rfl rfl
  | started _ ha hstate =>
      refine inv_updateAttempt hinv ha (by rw [hstate]; decide) (fun _ => rfl) fun hne => ?_
      have hterminal := hinv.outcomes _ ha hne
      rw [hstate] at hterminal
      cases hterminal
  | finished ha hstate => exact inv_updateAttempt hinv ha hstate (fun _ => rfl) fun _ => rfl
  | rejected ha hstate =>
      exact inv_halt (inv_updateAttempt hinv ha hstate (fun _ => rfl) fun _ => rfl)
  | mcpReserved _ _ _ hnew hobserved =>
      exact { hinv with
        observations := length_observed (s := s) hinv hobserved
        mcpCalls := Table.nodup_concat hinv.mcpCalls hnew }
  | mcpAdmitted => exact inv_updateMcp hinv fun _ => rfl
  | mcpFinished => exact inv_updateMcp hinv fun _ => rfl
  | mcpUnknown => exact inv_halt (inv_updateMcp hinv fun _ => rfl)

/-! ## Liabilities -/

/-- The liabilities of a live store: one for an attempt, with the units of its role, and together
within the limit. -/
structure LiveTables.Funded (s : BudgetStore) (u : LiveTables) : Prop where
  limit : ∀ total perAttempt, u.policy = .synthetic total perAttempt → u.used ≤ total
  ids : (u.liabilities.map Liability.attemptId).Nodup
  units : ∀ l ∈ u.liabilities, ∃ a ∈ s.attempts, a.attemptId = l.attemptId ∧
    ∃ total perAttempt, u.policy = .synthetic total perAttempt ∧
      l.units = perAttempt.of a.reservation.role

/-- `LiveTables.Funded`, where the store is a live one. -/
def BudgetStore.Funded (s : BudgetStore) : Prop := ∀ u, s.live = some u → u.Funded s

/-- Attempts are never taken away, and their reservations never change. -/
def BudgetStore.Extends (s t : BudgetStore) : Prop :=
  ∀ a ∈ s.attempts, ∃ b ∈ t.attempts, b.reservation = a.reservation

lemma extends_updateAttempt {id : String} {f : Attempt → Attempt}
    (hf : ∀ a, (f a).reservation = a.reservation) : s.Extends (s.updateAttempt id f) := by
  intro a ha
  by_cases hid : a.attemptId = id
  · exact ⟨f a, Table.mem_update.mpr ⟨a, ha, .inl ⟨hid, rfl⟩⟩, hf a⟩
  · exact ⟨a, Table.mem_update.mpr ⟨a, ha, .inr ⟨hid, rfl⟩⟩, rfl⟩

lemma extends_of_sublist (h : s.attempts ⊆ t.attempts) : s.Extends t := fun a ha => ⟨a, h ha, rfl⟩

lemma extends_change {p : BudgetProcess} {x : Fresh} {call : BudgetCall} {answer : BudgetAnswer}
    (h : Change p x s call answer t) : s.Extends t := by
  cases h with
  | reserved | reservedLive => exact extends_of_sublist (List.subset_append_left ..)
  | started | finished | rejected => exact extends_updateAttempt fun _ => rfl
  | _ => exact extends_of_sublist (List.Subset.refl _)

lemma LiveTables.Funded.mono {u v : LiveTables} (h : u.Funded s) (hst : s.Extends t)
    (hpolicy : v.policy = u.policy) (hrows : v.liabilities = u.liabilities) : v.Funded t where
  limit := by
    rw [hpolicy, LiveTables.used, hrows]
    exact h.limit
  ids := hrows ▸ h.ids
  units l hl := by
    rw [hrows] at hl
    obtain ⟨a, ha, hid, hunits⟩ := h.units l hl
    obtain ⟨b, hb, hsame⟩ := hst a ha
    rw [hpolicy]
    refine ⟨b, hb, ?_, by rwa [hsame]⟩
    rw [Attempt.attemptId, hsame]
    exact hid

lemma funded_change {p : BudgetProcess} {x : Fresh} {call : BudgetCall} {answer : BudgetAnswer}
    (h : Change p x s call answer t) (hfunded : s.Funded) : t.Funded := by
  have hext := extends_change h
  have hsame {u v : LiveTables} (hu : s.live = some u) (hpolicy : v.policy = u.policy)
      (hrows : v.liabilities = u.liabilities) : v.Funded t :=
    (hfunded u hu).mono hext hpolicy hrows
  cases h with
  | @reservedLive a context u total perAttempt _ hopen _ _ _ hpolicy hroom hr hnew _ =>
      intro v hv
      obtain rfl := Option.some.inj hv
      have hu := hfunded u hopen.live
      refine ⟨fun total' per' h => ?_, Table.nodup_concat hu.ids hnew, fun l hl => ?_⟩
      · obtain ⟨rfl, rfl⟩ := LiabilityDocument.synthetic.inj (hpolicy.symm.trans h)
        simpa [LiveTables.used] using hroom
      · rw [List.mem_append, List.mem_singleton] at hl
        rcases hl with hl | rfl
        · obtain ⟨b, hb, hid, hunits⟩ := hu.units l hl
          exact ⟨b, List.mem_append_left _ hb, hid, hunits⟩
        · exact ⟨_, List.mem_append_right _ (List.mem_singleton_self _), rfl, total, perAttempt,
            hpolicy, rfl⟩
  | bound _ _ hlive =>
      intro v hv
      obtain rfl := Option.some.inj hv
      exact hsame hlive rfl rfl
  | consumed _ hopen | recorded _ hopen =>
      intro v hv
      obtain rfl := Option.some.inj hv
      exact hsame hopen.live rfl rfl
  | _ => exact fun v hv => hsame hv rfl rfl

/-! ## Runs -/

/-- The store of a run, with no process attached yet. -/
def BudgetSystem.start (s : BudgetStore) : BudgetSystem := { store := s }

/-- The limits a run was created with. -/
def BudgetStore.limits (s : BudgetStore) : RoleCaps × ℕ := (s.roleCaps, s.maxObservations)

lemma limits_change {p : BudgetProcess} {x : Fresh} {call : BudgetCall} {answer : BudgetAnswer}
    (h : Change p x s call answer t) : t.limits = s.limits := by
  cases h <;> rfl

lemma stopped_change {p : BudgetProcess} {x : Fresh} {call : BudgetCall} {answer : BudgetAnswer}
    (h : Change p x s call answer t) (hs : s.isStopped = true) : t.isStopped = true := by
  cases h with
  | rejected | stopped | mcpUnknown => rfl
  | _ => exact hs

lemma preserved_stopped : budgetMachine.Preserved fun d => d.store.isStopped = true :=
  preserved_of_change (fun _ _ _ => rfl) fun _ _ _ _ _ _ h hs => stopped_change h hs

lemma empty_of_created (h : s.Created) :
    s.attempts = [] ∧ s.observations = [] ∧ s.fences = [] ∧ s.mcpCalls = [] ∧
      ∀ u, s.live = some u → u.liabilities = [] ∧ u.contexts = [] ∧ u.leases = [] ∧
        u.facts = [] ∧ ∀ total perAttempt, u.policy = .synthetic total perAttempt → 0 < total := by
  cases h with
  | base h =>
      simp only [BudgetStore.create, Except.bind_eq_ok, Except.pure_eq_ok] at h
      obtain ⟨_, _, _, _, rfl⟩ := h
      exact ⟨rfl, rfl, rfl, rfl, fun u hu => by cases hu⟩
  | @live runId caps maxObservations policy _ h =>
      simp only [BudgetStore.createLive, BudgetStore.create] at h
      cases policy with
      | none =>
          simp only [Except.bind_eq_ok, Except.ok.injEq, Except.pure_eq_ok] at h
          obtain ⟨_, rfl, _, ⟨_, _, _, _, rfl⟩, rfl⟩ := h
          refine ⟨rfl, rfl, rfl, rfl, fun u hu => ?_⟩
          obtain rfl := Option.some.inj hu
          exact ⟨rfl, rfl, rfl, rfl, fun _ _ hpolicy => by cases hpolicy⟩
      | some policy =>
          simp only [liabilityDocument, Except.bind_eq_ok, ensure_eq_ok, Except.pure_eq_ok] at h
          obtain ⟨_, ⟨_, htotal, _, _, rfl⟩, _, ⟨_, _, _, _, rfl⟩, rfl⟩ := h
          refine ⟨rfl, rfl, rfl, rfl, fun u hu => ?_⟩
          obtain rfl := Option.some.inj hu
          refine ⟨rfl, rfl, rfl, rfl, fun total perAttempt hpolicy => ?_⟩
          cases hpolicy
          exact of_decide_eq_true htotal

lemma inv_of_created (h : s.Created) : s.Inv := by
  obtain ⟨ha, ho, hf, hm, -⟩ := empty_of_created h
  constructor <;> simp [ha, ho, hf, hm, BudgetStore.laneOf, Lane.none]

lemma funded_of_created (h : s.Created) : s.Funded := by
  obtain ⟨-, -, -, -, hlive⟩ := empty_of_created h
  intro u hu
  obtain ⟨hrows, -, -, -, htotal⟩ := hlive u hu
  refine ⟨fun total perAttempt hpolicy => ?_, ?_, ?_⟩
  · simpa [LiveTables.used, hrows] using (htotal total perAttempt hpolicy).le
  · simp [hrows]
  · simp [hrows]

lemma preserved_inv : budgetMachine.Preserved fun d => d.store.Inv :=
  preserved_of_change (fun _ _ => inv_halt) fun _ _ _ _ _ _ => inv_change

lemma preserved_funded : budgetMachine.Preserved fun d => d.store.Funded :=
  preserved_of_change (fun _ _ h u hu => (h u hu).mono (extends_of_sublist fun _ => id) rfl rfl)
    fun _ _ _ _ _ _ => funded_change

lemma preserved_limits (limits : RoleCaps × ℕ) :
    budgetMachine.Preserved fun d => d.store.limits = limits :=
  preserved_of_change (fun _ _ h => h) fun _ _ _ _ _ _ h hs => (limits_change h).trans hs

/-! ## Admissions -/

/-- A call that reserves, starts or admits something, and the observation it names. -/
def BudgetCall.admits? : BudgetCall → Option String
  | .reserve a => some a.observationId
  | .start r => some r.observationId
  | .reserveMcp o _ => some o
  | .admitMcp o _ => some o
  | _ => none

/-- Whatever is admitted is admitted in a running store, to whoever holds the open fence. -/
lemma running_of_admits {p : BudgetProcess} {x : Fresh} {call : BudgetCall}
    {answer : BudgetAnswer} {o : String} (h : Change p x s call answer t)
    (hcall : call.admits? = some o) : Running p s o := by
  cases h <;> simp only [BudgetCall.admits?, Option.some.injEq, reduceCtorEq] at hcall
  case reserved hrunning _ _ => exact hcall ▸ hrunning
  case reservedLive hopen hlane _ _ _ _ _ _ _ =>
    obtain ⟨ho, -⟩ := Prod.mk.inj hlane
    have hrunning := hopen.toRunning
    rw [ho, hcall] at hrunning
    exact hrunning
  case started hrunning _ _ => exact hcall ▸ hrunning
  case mcpReserved hrunning _ _ => exact hcall ▸ hrunning
  case mcpAdmitted hrunning _ _ => exact hcall ▸ hrunning

/-- Nothing is reserved, started or admitted, and the caller gets an exception. -/
structure Denied (d : BudgetSystem) (a : BudgetInput) : Prop where
  attempts : (budgetMachine.next d a).store.attempts = d.store.attempts
  mcpCalls : (budgetMachine.next d a).store.mcpCalls = d.store.mcpCalls
  raises : ∃ e, budgetMachine.out d a = .error e

/-- An admission is denied unless the store runs and the process may act on the observation. -/
lemma denied_of_not_running {d : BudgetSystem} {a : BudgetInput} {o : String}
    (hcall : a.call.admits? = some o)
    (h : ∀ p, d.processes a.process = some p → ¬ Running p d.store o) : Denied d a := by
  have heffect := effect_of_step d a
  suffices hsame : (budgetMachine.next d a).store.attempts = d.store.attempts ∧
      (budgetMachine.next d a).store.mcpCalls = d.store.mcpCalls ∧
      ∃ e, budgetMachine.out d a = .error e from ⟨hsame.1, hsame.2.1, hsame.2.2⟩
  generalize budgetMachine.next d a = d', budgetMachine.out d a = out at heffect ⊢
  cases heffect with
  | attached hattach =>
      rw [hattach] at hcall
      cases hcall
  | refused => exact ⟨rfl, rfl, _, rfl⟩
  | halted => exact ⟨rfl, rfl, _, rfl⟩
  | lost hp hchange => exact absurd (running_of_admits hchange hcall) (h _ hp)
  | returned hp hchange => exact absurd (running_of_admits hchange hcall) (h _ hp)

/-- The run is stopped, for the reason of its first stop, and every row is as it was. -/
structure StopsOnly (s : BudgetStore) (reason : String) (t : BudgetStore) : Prop where
  stopped : t.isStopped = true
  stopReason : t.stopReason = s.stopReason.or (some reason)
  runId : t.runId = s.runId
  limits : t.limits = s.limits
  observations : t.observations = s.observations
  attempts : t.attempts = s.attempts
  mcpCalls : t.mcpCalls = s.mcpCalls
  fences : t.fences = s.fences
  live : t.live = s.live

lemma stopsOnly_halt (s : BudgetStore) (reason : String) : StopsOnly s reason (s.halt reason) := by
  constructor <;> rfl

/-- A refusal for an exceeded budget has stopped the run, and changed nothing else. -/
lemma stopsOnly_of_exceeded {d : BudgetSystem} {a : BudgetInput} {reason : String}
    (h : budgetMachine.out d a = .error (.exceeded reason)) :
    StopsOnly d.store reason (budgetMachine.next d a).store := by
  have heffect := effect_of_step d a
  rw [h] at heffect
  generalize budgetMachine.next d a = d' at heffect
  cases heffect with
  | refused he => cases he
  | halted he =>
      rcases he with he | he | he
      · cases he
      · cases he
        exact stopsOnly_halt d.store reason
      · cases he

lemma pending_le_one {rows : List Attempt} (h : Lane rows) :
    rows.countP (·.state ≠ .terminal) ≤ 1 := by
  cases h with
  | none => simp
  | first => exact List.countP_le_length
  | retried _ _ hterminal =>
      rw [List.countP_cons_of_neg (by simp [hterminal])]
      exact List.countP_le_length

/-- **The attempt budget.**  In every store that any number of processes of either class reach,
whatever commits are lost: the attempts of a role and the observations are within their limits;
an observation has at most one fence, and at most one fence is open; the attempts of an
observation and role form a `Lane`, of which at most one is not over; the liabilities of a live
store are within its limit.  A stop stays, and nothing is admitted after it; a refusal for an
exceeded budget stops the run and leaves every row as it was; and while a fence is open nothing is
admitted for a process without its capability. -/
theorem attemptBudget_invariants {s : BudgetStore} (hs : s.Created) {d : BudgetSystem}
    (hd : budgetMachine.Reachable (.start s) d) :
    (∀ role, d.store.attempts.countP (·.reservation.role = role) ≤ s.roleCaps.of role) ∧
      d.store.observations.length ≤ s.maxObservations ∧
      (d.store.fences.map Fence.observationId).Nodup ∧
      (∀ f ∈ d.store.fences, ∀ g ∈ d.store.fences, f.state = .opened → g.state = .opened →
        f = g) ∧
      (∀ lane, Lane (d.store.laneOf lane) ∧
        (d.store.laneOf lane).countP (·.state ≠ .terminal) ≤ 1) ∧
      d.store.Funded ∧
      (d.store.isStopped = true → ∀ e, budgetMachine.Reachable d e → e.store.isStopped = true ∧
        ∀ a o, a.call.admits? = some o → Denied e a) ∧
      (∀ a reason, budgetMachine.out d a = .error (.exceeded reason) →
        StopsOnly d.store reason (budgetMachine.next d a).store) ∧
      ∀ f ∈ d.store.fences, f.state = .opened → ∀ a o, a.call.admits? = some o →
        (∀ p, d.processes a.process = some p → p.active ≠ some f.capability) → Denied d a := by
  have hinv : d.store.Inv := preserved_inv.reachable (inv_of_created hs) hd
  have hlimits : d.store.limits = s.limits :=
    (preserved_limits s.limits).reachable (s := .start s) rfl hd
  obtain ⟨hcaps, hmaximum⟩ := Prod.mk.inj hlimits
  refine ⟨fun role => hcaps ▸ hinv.caps role, hmaximum ▸ hinv.observations, hinv.fences,
    hinv.fenceOpen, fun lane => ⟨hinv.lanes lane, pending_le_one (hinv.lanes lane)⟩,
    preserved_funded.reachable (funded_of_created hs) hd, fun hstopped e he => ?_,
    fun a reason => stopsOnly_of_exceeded, fun f hf hopen a o hcall hnone => ?_⟩
  · have hstill : e.store.isStopped = true := preserved_stopped.reachable hstopped he
    refine ⟨hstill, fun a o hcall => denied_of_not_running hcall fun p _ hrunning => ?_⟩
    rw [hrunning.running] at hstill
    cases hstill
  · exact denied_of_not_running hcall fun p hp hrunning =>
      hnone p hp (hrunning.access f hf hopen).1

/-! ### A run -/

/-- A base-class store for one observation, with one attempt of each role. -/
def sampleStore : BudgetStore := { runId := "RUN", roleCaps := ⟨1, 1⟩, maxObservations := 1 }

/-- A live store with the same limits, and one unit for one attempt. -/
def liveStore : BudgetStore :=
  { sampleStore with live := some { policy := .synthetic 1 ⟨1, 1⟩ } }

lemma created_live : liveStore.Created :=
  .live (show BudgetStore.createLive "RUN" ⟨1, 1⟩ 1 (some (1, ⟨1, 1⟩)) = .ok liveStore from rfl)

def sampleInput (call : BudgetCall) : BudgetInput where
  process := 0
  call := call
  commit := .acknowledged
  fresh := ⟨fun n => String.ofList (List.replicate (n + 1) 'a'), "2026-01-01T00:00:00Z"⟩

def sampleHash : String := String.ofList (List.replicate 64 'a')

/-- The context of the sample run. -/
def sampleSend : SendArgs :=
  ⟨"OBS", .planner, sampleHash, sampleHash, "https://example", "http://127.0.0.1:80", none⟩

/-- The reservation of the sample run. -/
def sampleArgs : ReserveArgs :=
  ⟨"OBS", .planner, "MODEL", sampleHash, sampleHash, sampleHash, 0, none⟩

/-- One live process opens an observation, binds a context, reserves and starts. -/
def startedInputs : List BudgetInput :=
  [.attach true "RUN", .beginObservation "OBS",
    .bindRequestContext ⟨fun _ => true, fun _ => true⟩ sampleSend, .reserve sampleArgs,
    .start (sampleArgs.reservation "RUN" (sampleInput .ensureRecoverable).fresh)].map sampleInput

/-- The attempt is over. -/
def finishedInputs : List BudgetInput :=
  startedInputs ++ [sampleInput (.finish
    (sampleArgs.reservation "RUN" (sampleInput .ensureRecoverable).fresh) .responseObserved none)]

/-- The retry, for which the role has no attempt left. -/
def sampleRetry : BudgetInput :=
  sampleInput (.reserve { sampleArgs with retryCount := 1, retryReason := some "TIMEOUT" })

/-- The sample run before the retry. -/
def finishedSystem : BudgetSystem := budgetMachine.run (.start liveStore) finishedInputs

/-- The retry is refused at the cap: the run is stopped, the first attempt and its unit stay, and
nothing is admitted any more. -/
theorem attemptBudget_invariants_sample :
    (finishedSystem.store.attempts.map Attempt.state = [.terminal] ∧
        finishedSystem.store.live.map LiveTables.used = some 1) ∧
      StopsOnly finishedSystem.store "ROLE_BUDGET_EXHAUSTED"
        (budgetMachine.next finishedSystem sampleRetry).store ∧
      Denied (budgetMachine.next finishedSystem sampleRetry) sampleRetry := by
  obtain ⟨-, -, -, -, -, -, -, hexceeded, -⟩ :=
    attemptBudget_invariants created_live ⟨finishedInputs, (rfl : _ = finishedSystem)⟩
  have hstops : StopsOnly finishedSystem.store "ROLE_BUDGET_EXHAUSTED"
      (budgetMachine.next finishedSystem sampleRetry).store :=
    hexceeded sampleRetry "ROLE_BUDGET_EXHAUSTED" rfl
  obtain ⟨-, -, -, -, -, -, hfinal, -⟩ := attemptBudget_invariants created_live
    ⟨finishedInputs ++ [sampleRetry], budgetMachine.run_append ..⟩
  exact ⟨by decide, hstops, (hfinal hstops.stopped _ ⟨[], rfl⟩).2 sampleRetry "OBS" rfl⟩

end CivicGate.Harness
