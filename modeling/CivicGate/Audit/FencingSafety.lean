import CivicGate.Audit.FencingChanges

/-!
# What the fencing receiver guarantees

A commit happens under the authority its call checked, receipts keep the request ids of a mode
and scope apart, and the epochs committed in mode `F1` rise with `highest_epoch`.  What a call
answers tells which effects it added (`CallHistory`).  `receiver_fences` puts these together
for every run.
-/

namespace CivicGate.Fencing

variable {d d' : Receivers} {a : ReceiverInput} {n : ℕ} {mode : Mode} {request : Request}
  {s : ReceiverStore}

/-! ## Receipts and effects -/

/-- Effects outside mode `U` and receipts answer to each other, and no two have one key. -/
structure ReceiverStore.Receipted (s : ReceiverStore) : Prop where
  receiptKeys : (s.receipts.map Receipt.key).Nodup
  effectKeys : ((s.effects.filter (·.mode ≠ .U)).map Effect.key).Nodup
  backed : ∀ e ∈ s.effects, e.mode ≠ .U → e.key ∈ s.receipts.map Receipt.key
  paid : ∀ r ∈ s.receipts, ∃ e ∈ s.effects, e.key = r.key

lemma prior_eq_none {key : Mode × String × String} :
    s.prior key = none ↔ key ∉ s.receipts.map Receipt.key := by
  rw [ReceiverStore.prior, Option.map_eq_none_iff, Table.get?_eq_none]

lemma receipt_mem_of_prior (h : s.prior (request.key mode) = some request.fingerprint) :
    request.receipt mode ∈ s.receipts := by
  obtain ⟨r, hr, hfingerprint⟩ := Option.map_eq_some_iff.mp h
  have hkey := Table.key_of_get? hr
  have hsame : request.receipt mode = r := by
    obtain ⟨hmode, hscope, hid⟩ : r.mode = mode ∧ r.scope = request.scope ∧
        r.requestId = request.requestId := by
      simpa [Request.key, Receipt.key] using hkey
    cases r
    simp_all [Request.receipt]
  exact hsame ▸ Table.mem_of_get? hr

lemma receipted_apply {effectId : String} (h : s.Receipted)
    (hprior : mode ≠ .U → s.prior (request.key mode) = none) :
    (s.apply mode request effectId).Receipted := by
  have hkey : (request.effect mode effectId).key = request.key mode := rfl
  by_cases hmode : mode = .U
  · have hfilter : (s.effects ++ [request.effect mode effectId]).filter (·.mode ≠ .U) =
        s.effects.filter (·.mode ≠ .U) := by
      simp [List.filter_append, Request.effect, hmode]
    refine ⟨?_, ?_, fun e he hne => ?_, fun r hr => ?_⟩
    · rw [receipts_apply, if_pos hmode]
      exact h.receiptKeys
    · rw [effects_apply, hfilter]
      exact h.effectKeys
    · rw [receipts_apply, if_pos hmode]
      rw [effects_apply, List.mem_append, List.mem_singleton] at he
      rcases he with he | rfl
      · exact h.backed e he hne
      · exact absurd hmode hne
    · rw [receipts_apply, if_pos hmode] at hr
      obtain ⟨e, he, hpaid⟩ := h.paid r hr
      exact ⟨e, List.mem_append_left _ he, hpaid⟩
  · have hnew := prior_eq_none.mp (hprior hmode)
    have hfilter : (s.effects ++ [request.effect mode effectId]).filter (·.mode ≠ .U) =
        s.effects.filter (·.mode ≠ .U) ++ [request.effect mode effectId] := by
      simp [List.filter_append, Request.effect, hmode]
    refine ⟨?_, ?_, fun e he hne => ?_, fun r hr => ?_⟩
    · rw [receipts_apply, if_neg hmode]
      exact Table.nodup_concat h.receiptKeys hnew
    · rw [effects_apply, hfilter]
      refine Table.nodup_concat h.effectKeys fun hmem => hnew ?_
      obtain ⟨e, he, hekey⟩ := List.mem_map.mp hmem
      obtain ⟨he, hne⟩ := List.mem_filter.mp he
      rw [← hkey, ← hekey]
      exact h.backed e he (of_decide_eq_true hne)
    · rw [receipts_apply, if_neg hmode, List.map_append, List.mem_append]
      rw [effects_apply, List.mem_append, List.mem_singleton] at he
      rcases he with he | rfl
      · exact .inl (h.backed e he hne)
      · exact .inr (List.mem_singleton_self _)
    · rw [receipts_apply, if_neg hmode, List.mem_append, List.mem_singleton] at hr
      rcases hr with hr | rfl
      · obtain ⟨e, he, hpaid⟩ := h.paid r hr
        exact ⟨e, List.mem_append_left _ he, hpaid⟩
      · exact ⟨_, List.mem_append_right _ (List.mem_singleton_self _), rfl⟩

/-- Outside mode `U` at most one effect has a key. -/
lemma effects_le_one (h : s.Receipted) {key : Mode × String × String} (hmode : key.1 ≠ .U) :
    (s.effects.filter (·.key = key)).length ≤ 1 := by
  have hsame : (s.effects.filter (·.mode ≠ .U)).filter (·.key = key) =
      s.effects.filter (·.key = key) := by
    rw [List.filter_filter]
    refine List.filter_congr fun e _ => ?_
    by_cases he : e.key = key
    · have hne : e.mode ≠ .U := fun hU => hmode (by rw [← he]; exact hU)
      simp [he, hne]
    · simp [he]
  rw [← hsame]
  exact Table.length_filter_le_one h.effectKeys key

/-- Exactly one effect has the key of a receipt. -/
lemma effects_eq_one (h : s.Receipted) (hreceipt : request.receipt mode ∈ s.receipts)
    (hmode : mode ≠ .U) :
    (s.effects.filter (·.key = request.key mode)).length = 1 := by
  refine le_antisymm (effects_le_one h hmode) ?_
  obtain ⟨e, he, hkey⟩ := h.paid _ hreceipt
  exact List.length_pos_of_mem (List.mem_filter.mpr ⟨he, decide_eq_true hkey⟩)

/-! ## Epochs -/

/-- The epochs of the effects of a mode in a scope, in the order of their commits. -/
def ReceiverStore.epochs (s : ReceiverStore) (mode : Mode) (scope : String) : List ℤ :=
  (s.effects.filter fun e => e.mode = mode ∧ e.scope = scope).map Effect.epoch

/-- The epochs rise, and the row is their maximum with the one it began with; a row that holds
no epoch stays and admits none. -/
structure Raised (start : Option Json) (epochs : List ℤ) (row : Option Json) : Prop where
  rising : epochs.Pairwise (· ≤ ·)
  highest : ∀ h, start = some (.int h) → row = some (.int (epochs.foldl max h))
  other : (∀ h, start ≠ some (.int h)) → row = start ∧ epochs = []

lemma raised_start (row : Option Json) : Raised row [] row :=
  ⟨.nil, fun _ h => h, fun _ => ⟨rfl, rfl⟩⟩

lemma le_foldl_max {h e : ℤ} {epochs : List ℤ} (he : e ∈ epochs) : e ≤ epochs.foldl max h := by
  induction epochs generalizing h with
  | nil => cases he
  | cons x xs ih =>
      rcases List.mem_cons.mp he with rfl | he
      · have hmono : ∀ (xs : List ℤ) (h : ℤ), h ≤ xs.foldl max h := by
          intro xs
          induction xs with
          | nil => exact fun h => le_refl h
          | cons y ys ih => exact fun h => (le_max_left h y).trans (ih _)
        exact (le_max_right h e).trans (hmono xs _)
      · exact ih he

lemma raised_concat {start : Option Json} {epochs : List ℤ} {highest epoch : ℤ}
    (h : Raised start epochs (some (.int highest))) (hle : highest ≤ epoch) :
    Raised start (epochs ++ [epoch]) (some (.int epoch)) := by
  by_cases hint : ∃ k, start = some (.int k)
  · obtain ⟨k, rfl⟩ := hint
    have hhighest := h.highest k rfl
    rw [Option.some.injEq, Json.int.injEq] at hhighest
    refine ⟨?_, fun k' hk' => ?_, fun hno => absurd rfl (hno k)⟩
    · refine List.pairwise_append.mpr ⟨h.rising, List.pairwise_singleton .., fun x hx y hy => ?_⟩
      rw [List.mem_singleton] at hy
      rw [hy]
      exact (le_foldl_max hx).trans (hhighest ▸ hle)
    · rw [Option.some.injEq, Json.int.injEq] at hk'
      rw [List.foldl_append, ← hk', ← hhighest, List.foldl_cons, List.foldl_nil, max_eq_right hle]
  · have hrow := (h.other fun k hk => hint ⟨k, hk⟩).1
    exact absurd ⟨highest, hrow.symm⟩ hint

/-! ## The store after a step -/

/-- The input applies the commit of a call. -/
structure Commits (d : Receivers) (a : ReceiverInput) (n : ℕ) (mode : Mode) (request : Request)
    (effectId : String) : Prop where
  input : ∃ fate, a = .commit n fate ∧ fate ≠ .rolledBack
  running : d.calls n = some (.running mode request (.inserted effectId))

/-- What a step does to the database: nothing, a commit, or a publication. -/
inductive StoreChange (d : Receivers) (a : ReceiverInput) : ReceiverStore → Prop
  | unchanged : StoreChange d a d.store
  | committed {n : ℕ} {mode : Mode} {request : Request} {effectId : String}
      (h : Commits d a n mode request effectId) :
      StoreChange d a (d.store.apply mode request effectId)
  | published {scope : String} {row : Option (List Json)} (h : a = .publish scope row) :
      StoreChange d a { d.store with
        authority := Function.update d.store.authority scope row }

lemma store_change (h : Change d a d') : StoreChange d a d'.store := by
  cases h with
  | committed n fate mode request effectId outcome hat hfate =>
      refine .committed ⟨⟨fate, rfl, ?_⟩, hat⟩
      rcases hfate with ⟨rfl, -⟩ | ⟨rfl, -⟩ <;> nofun
  | published scope row => exact .published rfl
  | _ => exact .unchanged

lemma store_of_commits {effectId : String} (h : Commits d a n mode request effectId) :
    (d.step a).store = d.store.apply mode request effectId := by
  obtain ⟨⟨fate, rfl, hfate⟩, hrunning⟩ := h
  change (d.commit n fate).store = _
  unfold Receivers.commit
  rw [hrunning]
  cases fate with
  | acknowledged => rfl
  | lost => rfl
  | rolledBack => exact absurd rfl hfate

lemma receipts_mono {r : Receipt} (h : Change d a d') (hr : r ∈ d.store.receipts) :
    r ∈ d'.store.receipts := by
  have hstore := store_change h
  generalize d'.store = t at hstore ⊢
  cases hstore with
  | unchanged => exact hr
  | committed =>
      rw [receipts_apply]
      split
      · exact hr
      · exact List.mem_append_left _ hr
  | published => exact hr

lemma receipt_mem_apply {effectId : String} (hmode : mode ≠ .U) :
    request.receipt mode ∈ (s.apply mode request effectId).receipts := by
  rw [receipts_apply, if_neg hmode]
  exact List.mem_append_right _ (List.mem_singleton_self _)

/-! ## The invariant -/

/-- The answer says the request has its effect. -/
def Outcome.Settles (outcome : Outcome) : Prop :=
  outcome.effect = .applied ∨ outcome.effect = .alreadyCommitted

/-- The state of a run that began with the store `start`. -/
structure Inv (start : ReceiverStore) (d : Receivers) : Prop where
  standing : d.Standing
  receipted : d.store.Receipted
  raised : ∀ scope, Raised (start.scopes (.F1, scope)) (d.store.epochs .F1 scope)
    (d.store.scopes (.F1, scope))
  settled : ∀ n mode request outcome, d.calls n = some (.answered mode request outcome) →
    outcome.Settles → mode ≠ .U → request.receipt mode ∈ d.store.receipts

lemma epochs_apply {effectId scope : String} :
    (s.apply mode request effectId).epochs .F1 scope =
      if mode = .F1 ∧ request.scope = scope then s.epochs .F1 scope ++ [request.epoch]
      else s.epochs .F1 scope := by
  unfold ReceiverStore.epochs
  rw [effects_apply, List.filter_append, List.map_append]
  by_cases h : mode = .F1 ∧ request.scope = scope
  · rw [if_pos h]
    simp [Request.effect, h]
  · rw [if_neg h]
    simp [Request.effect, h]

lemma raised_apply {effectId scope : String} {row : Option Json}
    (h : Raised row (s.epochs .F1 scope) (s.scopes (.F1, scope)))
    (hfenced : mode = .F1 → request.scope = scope →
      ∃ highest, s.scopes (.F1, scope) = some (.int highest) ∧ highest ≤ request.epoch) :
    Raised row ((s.apply mode request effectId).epochs .F1 scope)
      ((s.apply mode request effectId).scopes (.F1, scope)) := by
  rw [epochs_apply]
  by_cases hsame : mode = .F1 ∧ request.scope = scope
  · obtain ⟨rfl, rfl⟩ := hsame
    obtain ⟨highest, hrow, hle⟩ := hfenced rfl rfl
    rw [hrow] at h
    rw [if_pos ⟨rfl, rfl⟩, scopes_apply, if_pos rfl, Function.update_self]
    exact raised_concat h hle
  · rw [if_neg hsame, scopes_apply_of_ne]
    · exact h
    · intro hkey
      obtain ⟨rfl, rfl⟩ := Prod.mk.inj hkey
      exact hsame ⟨rfl, rfl⟩

lemma update_eq_some {f : ℕ → Option Call} {k : ℕ} {c c' : Call}
    (h : Function.update f n (some c) k = some c') : c = c' ∨ f k = some c' := by
  by_cases hk : k = n
  · rw [hk, Function.update_self] at h
    exact .inl (Option.some.inj h)
  · rw [Function.update_of_ne hk] at h
    exact .inr h

/-- An answer that settles a request leaves its receipt behind. -/
lemma settled_change {k : ℕ} {outcome : Outcome} (h : Change d a d')
    (hat : d'.calls k = some (.answered mode request outcome)) (hsettles : outcome.Settles)
    (hmode : mode ≠ .U)
    (hsettled : d.calls k = some (.answered mode request outcome) →
      request.receipt mode ∈ d.store.receipts) :
    request.receipt mode ∈ d'.store.receipts := by
  cases h with
  | stuck => exact hsettled hat
  | published => exact hsettled hat
  | refusedWire n mode' raw call hnew hcall =>
      rcases update_eq_some hat with rfl | hold
      · rcases hcall with hcall | hcall <;> cases hcall
      · exact hsettled hold
  | repeated n uuid mode' request' hmode' _ hprior =>
      rcases update_eq_some hat with hnow | hold
      · obtain ⟨rfl, rfl, -⟩ := Call.answered.inj hnow
        exact receipt_mem_of_prior hprior
      · exact hsettled hold
  | answered a n mode' request' cutpoint outcome' _ _ heffect =>
      rcases update_eq_some hat with hnow | hold
      · obtain ⟨-, -, rfl⟩ := Call.answered.inj hnow
        rcases hsettles with hs | hs <;> rw [hs] at heffect <;> simp at heffect
      · exact hsettled hold
  | committed n fate mode' request' effectId outcome' hrunning hfate =>
      rcases update_eq_some hat with hnow | hold
      · obtain ⟨rfl, rfl, -⟩ := Call.answered.inj hnow
        exact receipt_mem_apply hmode
      · exact receipts_mono (.committed n fate mode' request' effectId outcome' hrunning hfate)
          (hsettled hold)
  | _ =>
      rcases update_eq_some hat with hnow | hold
      · cases hnow
      · exact hsettled hold

lemma inv_change {start : ReceiverStore} (h : Change d a d') (hinv : Inv start d) :
    Inv start d' where
  standing := standing_change h hinv.standing
  receipted := by
    have hstore := store_change h
    generalize d'.store = t at hstore ⊢
    cases hstore with
    | unchanged => exact hinv.receipted
    | committed hc =>
        exact receipted_apply hinv.receipted (hinv.standing _ _ _ _ hc.running).2.2
    | published => exact ⟨hinv.receipted.1, hinv.receipted.2, hinv.receipted.3, hinv.receipted.4⟩
  raised scope := by
    have hstore := store_change h
    generalize d'.store = t at hstore ⊢
    cases hstore with
    | unchanged => exact hinv.raised scope
    | committed hc =>
        refine raised_apply (hinv.raised scope) ?_
        rintro rfl rfl
        exact (hinv.standing _ _ _ _ hc.running).2.1
    | published => exact hinv.raised scope
  settled n mode request outcome hat hsettles hmode :=
    settled_change h hat hsettles hmode fun hold =>
      hinv.settled n mode request outcome hold hsettles hmode

lemma preserved_inv (start : ReceiverStore) : receivers.Preserved (Inv start) :=
  preserved_of_change inv_change

lemma inv_start (hreceipts : s.receipts = []) (heffects : s.effects = []) :
    Inv s (.start s) where
  standing _ _ _ _ h := by cases h
  receipted := by
    refine ⟨?_, ?_, fun e he => ?_, fun r hr => ?_⟩
    · exact hreceipts ▸ List.nodup_nil
    · exact heffects ▸ List.nodup_nil
    · exact absurd (heffects ▸ he) List.not_mem_nil
    · exact absurd (hreceipts ▸ hr) List.not_mem_nil
  raised scope := by
    have hepochs : (Receivers.start s).store.epochs .F1 scope = [] := by
      rw [ReceiverStore.epochs, Receivers.start, heffects]
      rfl
    rw [hepochs]
    exact raised_start _
  settled _ _ _ _ h := by cases h

lemma authority_of_check {row : Option (List Json)} (h : checkAuthority request row = none) :
    row = some [.int request.epoch, .str request.owner, .bool false] := by
  unfold checkAuthority at h
  split at h
  · rename_i epoch owner revoked
    split at h
    · cases h
    · split at h
      · cases h
      · rename_i hrevoked
        split at h
        · cases h
        · rename_i hsame
          obtain ⟨rfl, rfl⟩ := not_or.mp hsame |>.imp not_not.mp not_not.mp
          rw [Bool.not_eq_true] at hrevoked
          rw [hrevoked]
  · cases h

/-- A commit in mode `F2` happens under the owner and epoch of its request. -/
lemma authority_of_commits {effectId : String} (hstanding : d.Standing)
    (h : Commits d a n .F2 request effectId) :
    d.store.authority request.scope =
      some [.int request.epoch, .str request.owner, .bool false] :=
  authority_of_check (hstanding _ _ _ _ h.running).2.1.2

/-! ## What a call did -/

/-- The stages of a run of receivers. -/
abbrev History := List (Stage Receivers ReceiverInput (Option Outcome))

/-- No step of the call changed the database. -/
def Quiet (n : ℕ) (xs : History) : Prop :=
  ∀ e ∈ xs, e.input.call? = some n → e.after.store = e.before.store

/-- The effects the steps of the call added, in order. -/
def effectsBy (n : ℕ) (xs : History) : List Effect :=
  (xs.filter (·.input.call? = some n)).flatMap fun e =>
    e.after.store.effects.drop e.before.store.effects.length

/-- The call has no answer yet. -/
def Unanswered (call : Option Call) : Prop :=
  ∀ mode request outcome, call ≠ some (.answered mode request outcome)

/-- The call has no answer that says `APPLIED`. -/
def Unapplied (call : Option Call) : Prop :=
  ∀ outcome, call.bind Call.outcome? = some outcome → outcome.effect ≠ .applied

lemma unanswered_none : Unanswered none := fun _ _ _ h => by cases h

lemma unanswered_running {cutpoint : Cutpoint} :
    Unanswered (some (.running mode request cutpoint)) := fun _ _ _ h => by cases h

lemma unapplied_of_outcome {call : Call} (h : call.outcome? = none) : Unapplied (some call) := by
  intro outcome hat
  rw [Option.bind_some, h] at hat
  cases hat

lemma unapplied_answered {call : Call} {outcome : Outcome} (h : call.outcome? = some outcome)
    (heffect : outcome.effect ≠ .applied) : Unapplied (some call) := by
  intro other hat
  rw [Option.bind_some, h] at hat
  obtain rfl := Option.some.inj hat
  exact heffect

/-- The steps of a call and what they came to. -/
inductive CallHistory (n : ℕ) (xs : History) : Option Call → Prop
  | quiet {call : Option Call} (hquiet : Quiet n xs) (hcall : Unapplied call) :
      CallHistory n xs call
  | committed {mode : Mode} {request : Request} {effectId : String} {outcome : Outcome}
      (hadded : effectsBy n xs = [request.effect mode effectId])
      (houtcome : outcome = .accept ∨ outcome = .uncertain) :
      CallHistory n xs (some (.answered mode request outcome))

lemma effectsBy_concat (n : ℕ) (xs : History)
    (e : Stage Receivers ReceiverInput (Option Outcome)) :
    effectsBy n (xs ++ [e]) = effectsBy n xs ++
      if e.input.call? = some n then e.after.store.effects.drop e.before.store.effects.length
      else [] := by
  unfold effectsBy
  rw [List.filter_append, List.flatMap_append]
  by_cases he : e.input.call? = some n <;> simp [he]

lemma effectsBy_of_quiet {xs : History} (h : Quiet n xs) : effectsBy n xs = [] := by
  refine List.flatMap_eq_nil_iff.mpr fun e he => ?_
  obtain ⟨he, hcall⟩ := List.mem_filter.mp he
  rw [h e he (of_decide_eq_true hcall), List.drop_length]

lemma quiet_concat {xs : History} (h : Quiet n xs)
    (hstep : a.call? = some n → (receivers.next d a).store = d.store) :
    Quiet n (xs ++ [receivers.stage d a]) := by
  intro e he hcall
  rw [List.mem_append, List.mem_singleton] at he
  rcases he with he | rfl
  · exact h e he hcall
  · exact hstep hcall

/-- Only a call's own steps move it. -/
lemma calls_of_other (h : Change d a d') (hne : a.call? ≠ some n) : d'.calls n = d.calls n := by
  have hupdate {m : ℕ} {call : Call} (hcall : a.call? = some m) :
      Function.update d.calls m (some call) n = d.calls n :=
    Function.update_of_ne (fun h => hne (hcall.trans (congrArg some h.symm))) ..
  cases h with
  | stuck => rfl
  | published => rfl
  | answered a m mode request cutpoint outcome hcall => exact hupdate hcall
  | _ => exact hupdate rfl

/-- What a call's own step does: nothing, something on the way that leaves the database, or the
commit. -/
inductive OwnStep (d : Receivers) (a : ReceiverInput) (n : ℕ) (d' : Receivers) : Prop
  | stuck (h : d' = d)
  | passed (hstore : d'.store = d.store) (hbefore : Unanswered (d.calls n))
      (hafter : Unapplied (d'.calls n))
  | committed {mode : Mode} {request : Request} {effectId : String} {outcome : Outcome}
      (h : Commits d a n mode request effectId)
      (hstore : d'.store = d.store.apply mode request effectId)
      (hat : d'.calls n = some (.answered mode request outcome))
      (houtcome : outcome = .accept ∨ outcome = .uncertain)

lemma OwnStep.passed_update {c : Option Call} {call : Call} (hstore : d'.store = d.store)
    (hbefore : d.calls n = c) (hc : Unanswered c)
    (hcalls : d'.calls = Function.update d.calls n (some call)) (hafter : Unapplied (some call)) :
    OwnStep d a n d' := by
  refine .passed hstore (hbefore ▸ hc) ?_
  rw [hcalls, Function.update_self]
  exact hafter

lemma ownStep_of_change (h : Change d a d') (hcall : a.call? = some n) : OwnStep d a n d' := by
  cases h with
  | stuck => exact .stuck rfl
  | published => cases hcall
  | refusedWire m mode raw call hnew hkind =>
      obtain rfl := Option.some.inj hcall
      refine .passed_update rfl hnew unanswered_none rfl ?_
      rcases hkind with rfl | rfl
      · exact unapplied_answered rfl (by decide)
      · exact unapplied_of_outcome rfl
  | received m mode raw request hnew =>
      obtain rfl := Option.some.inj hcall
      exact .passed_update rfl hnew unanswered_none rfl (unapplied_of_outcome rfl)
  | answered a m mode request cutpoint outcome hown hat heffect =>
      obtain rfl := Option.some.inj (hown.symm.trans hcall)
      refine .passed_update rfl hat unanswered_running rfl (unapplied_answered rfl ?_)
      rcases heffect with h | h <;> rw [h] <;> decide
  | repeated m uuid mode request hmode hat =>
      obtain rfl := Option.some.inj hcall
      exact .passed_update rfl hat unanswered_running rfl (unapplied_answered rfl (by decide))
  | committed m fate mode request effectId outcome hat hfate =>
      obtain rfl := Option.some.inj hcall
      refine .committed ⟨⟨fate, rfl, ?_⟩, hat⟩ rfl (Function.update_self ..)
        (hfate.imp And.right And.right)
      rcases hfate with ⟨rfl, -⟩ | ⟨rfl, -⟩ <;> decide
  | locked m uuid mode request highest hat =>
      obtain rfl := Option.some.inj hcall
      exact .passed_update rfl hat unanswered_running rfl (unapplied_of_outcome rfl)
  | unfenced m uuid request highest hat =>
      obtain rfl := Option.some.inj hcall
      exact .passed_update rfl hat unanswered_running rfl (unapplied_of_outcome rfl)
  | raised m uuid request highest hat =>
      obtain rfl := Option.some.inj hcall
      exact .passed_update rfl hat unanswered_running rfl (unapplied_of_outcome rfl)
  | authorized m uuid request highest hat =>
      obtain rfl := Option.some.inj hcall
      exact .passed_update rfl hat unanswered_running rfl (unapplied_of_outcome rfl)
  | inserted m uuid mode request hat =>
      obtain rfl := Option.some.inj hcall
      exact .passed_update rfl hat unanswered_running rfl (unapplied_of_outcome rfl)
  | crashed m mode request cutpoint hat =>
      obtain rfl := Option.some.inj hcall
      exact .passed_update rfl hat unanswered_running rfl (unapplied_of_outcome rfl)

lemma callHistory_step {xs : History} (h : CallHistory n xs (d.calls n)) :
    CallHistory n (xs ++ [receivers.stage d a]) ((receivers.next d a).calls n) := by
  have hchange : Change d a (receivers.next d a) := change_step d a
  by_cases hcall : a.call? = some n
  · have hinput : (receivers.stage d a).input.call? = some n := hcall
    cases ownStep_of_change hchange hcall with
    | stuck hsame =>
        have hafter : (receivers.stage d a).after.store.effects.drop
            (receivers.stage d a).before.store.effects.length = [] := by
          change (receivers.next d a).store.effects.drop d.store.effects.length = []
          rw [hsame, List.drop_length]
        rw [hsame]
        generalize d.calls n = c at h ⊢
        cases h with
        | quiet hquiet hno => exact .quiet (quiet_concat hquiet fun _ => by rw [hsame]) hno
        | committed hadded houtcome =>
            refine .committed (Eq.trans ?_ hadded) houtcome
            rw [effectsBy_concat, if_pos hinput, hafter, List.append_nil]
    | passed hstore hbefore hafter =>
        generalize d.calls n = c at h hbefore
        cases h with
        | quiet hquiet _ => exact .quiet (quiet_concat hquiet fun _ => hstore) hafter
        | committed => exact absurd rfl (hbefore _ _ _)
    | @committed mode request effectId outcome hcommits hstore hat houtcome =>
        rw [hcommits.running] at h
        rw [hat]
        cases h with
        | quiet hquiet _ =>
            have hadded : (receivers.stage d a).after.store.effects.drop
                (receivers.stage d a).before.store.effects.length =
                  [request.effect mode effectId] := by
              change (receivers.next d a).store.effects.drop d.store.effects.length = _
              rw [hstore, effects_apply]
              exact List.drop_left
            refine .committed (Eq.trans ?_ hadded) houtcome
            rw [effectsBy_concat, effectsBy_of_quiet hquiet, if_pos hinput, List.nil_append]
  · rw [calls_of_other hchange hcall]
    generalize d.calls n = c at h ⊢
    cases h with
    | quiet hquiet hno => exact .quiet (quiet_concat hquiet fun h => absurd h hcall) hno
    | committed hadded houtcome =>
        have hinput : (receivers.stage d a).input.call? ≠ some n := hcall
        refine .committed (Eq.trans ?_ hadded) houtcome
        rw [effectsBy_concat, if_neg hinput, List.append_nil]

lemma callHistory_trace (s : ReceiverStore) (n : ℕ) (as : List ReceiverInput) :
    CallHistory n (receivers.trace (.start s) as) ((receivers.run (.start s) as).calls n) :=
  Machine.trace_induction (Q := fun xs d => CallHistory n xs (d.calls n))
    (.quiet (fun _ h => absurd h List.not_mem_nil) fun _ h => by cases h)
    (fun _ _ _ => callHistory_step) as

/-! ## Every run -/

/-- In the run the request got its effect committed, or an answer that it has one. -/
inductive Granted (s : ReceiverStore) (as : List ReceiverInput) (mode : Mode)
    (request : Request) : Prop
  | committed {e : Stage Receivers ReceiverInput (Option Outcome)} {n : ℕ} {effectId : String}
      (he : e ∈ receivers.trace (.start s) as)
      (h : Commits e.before e.input n mode request effectId)
  | answered {n : ℕ} {outcome : Outcome}
      (hat : (receivers.run (.start s) as).calls n = some (.answered mode request outcome))
      (h : outcome.Settles)

lemma preserved_receipt (r : Receipt) : receivers.Preserved fun d => r ∈ d.store.receipts :=
  preserved_of_change fun h hr => receipts_mono h hr

lemma receipt_of_granted {as : List ReceiverInput} (hinv : Inv s (.start s)) (hmode : mode ≠ .U)
    (h : Granted s as mode request) :
    request.receipt mode ∈ (receivers.run (.start s) as).store.receipts := by
  cases h with
  | @committed e n effectId he hcommits =>
      obtain ⟨pre, post, rfl, hstage⟩ := receivers.exists_of_mem_trace he
      rw [receivers.run_append, receivers.run_cons]
      refine (preserved_receipt _).run ?_ post
      rw [hstage] at hcommits
      have hstore : (receivers.next (receivers.run (.start s) pre) e.input).store =
          (receivers.run (.start s) pre).store.apply mode request effectId :=
        store_of_commits hcommits
      rw [hstore]
      exact receipt_mem_apply hmode
  | answered hat hsettles =>
      exact ((preserved_inv s).run hinv as).settled _ _ _ _ hat hsettles hmode

/-- A key has one receipt, so one fingerprint. -/
lemma fingerprint_eq {request' : Request} (h : s.Receipted)
    (hr : request.receipt mode ∈ s.receipts) (hr' : request'.receipt mode ∈ s.receipts)
    (hkey : request.key mode = request'.key mode) : request.fingerprint = request'.fingerprint :=
  congrArg Receipt.fingerprint (Table.eq_of_key h.receiptKeys hr hr' hkey)

/-- **The fencing receiver.**  In every run of calls and publications on a store with no receipts
and no effects:

* a step changes the database only by a publication or by the commit of one call, and a commit
  in mode `F2` happens while the authority row of the scope holds the epoch and the owner of the
  request, not revoked;
* in mode `F1` the epochs committed in a scope rise, and its row is their maximum with the row
  it began with;
* outside mode `U` a mode, scope and request id have at most one effect, and one when a request
  was committed or answered `APPLIED` or `ALREADY_COMMITTED` for them; all of these requests have
  one fingerprint;
* the steps of a call answered `APPLIED` added exactly the effect of its request, and those of a
  call answered `REFUSED` or `ALREADY_COMMITTED` left the database alone. -/
theorem receiver_fences (hreceipts : s.receipts = []) (heffects : s.effects = [])
    (as : List ReceiverInput) :
    (∀ e ∈ receivers.trace (.start s) as, StoreChange e.before e.input e.after.store ∧
      ∀ n request effectId, Commits e.before e.input n .F2 request effectId →
        e.before.store.authority request.scope =
          some [.int request.epoch, .str request.owner, .bool false]) ∧
      (∀ scope, Raised (s.scopes (.F1, scope))
        ((receivers.run (.start s) as).store.epochs .F1 scope)
        ((receivers.run (.start s) as).store.scopes (.F1, scope))) ∧
      (∀ key : Mode × String × String, key.1 ≠ .U →
        ((receivers.run (.start s) as).store.effects.filter (·.key = key)).length ≤ 1) ∧
      (∀ mode request, mode ≠ .U → Granted s as mode request →
        ((receivers.run (.start s) as).store.effects.filter
          (·.key = request.key mode)).length = 1 ∧
        ∀ request', Granted s as mode request' → request.key mode = request'.key mode →
          request.fingerprint = request'.fingerprint) ∧
      ∀ n outcome, (receivers.run (.start s) as).outcome? n = some outcome →
        (outcome.effect = .applied → ∃ mode request effectId,
          (receivers.run (.start s) as).calls n = some (.answered mode request outcome) ∧
          effectsBy n (receivers.trace (.start s) as) = [request.effect mode effectId]) ∧
        (outcome.effect = .refused ∨ outcome.effect = .alreadyCommitted →
          Quiet n (receivers.trace (.start s) as)) := by
  have hinv : Inv s (.start s) := inv_start hreceipts heffects
  have hend := (preserved_inv s).run hinv as
  refine ⟨fun e he => ⟨?_, fun n request effectId h => ?_⟩, hend.raised,
    fun key hkey => effects_le_one hend.receipted hkey, fun mode request hmode h => ⟨?_, ?_⟩,
    fun n outcome hat => ?_⟩
  · obtain ⟨pre, post, -, hstage⟩ := receivers.exists_of_mem_trace he
    rw [hstage]
    exact store_change (change_step _ _)
  · exact authority_of_commits ((preserved_inv s).trace hinv he).standing h
  · exact effects_eq_one hend.receipted (receipt_of_granted hinv hmode h) hmode
  · exact fun request' h' hkey => fingerprint_eq hend.receipted
      (receipt_of_granted hinv hmode h) (receipt_of_granted hinv hmode h') hkey
  · have hhistory := callHistory_trace s n as
    rw [Receivers.outcome?] at hat
    generalize (receivers.run (.start s) as).calls n = c at hat hhistory ⊢
    cases hhistory with
    | quiet hquiet hunapplied =>
        exact ⟨fun happlied => absurd happlied (hunapplied outcome hat), fun _ => hquiet⟩
    | @committed mode request effectId _ hadded houtcome =>
        obtain rfl := Option.some.inj hat
        refine ⟨fun _ => ⟨mode, request, effectId, rfl, hadded⟩, fun heffect => ?_⟩
        rcases houtcome with rfl | rfl <;> rcases heffect with h | h <;> cases h

/-! ### A run -/

/-- One scope in each mode, owned by `A` in epoch 1. -/
def sampleStore : ReceiverStore where
  scopes := fun _ => some (.int 0)
  authority := fun _ => some [.int 1, .str "A", .bool false]

/-- A request of this owner and epoch. -/
def sampleWire (owner : String) (epoch : ℤ) : Wire :=
  ⟨200, some (canonical true (.dict [("scope", .str "S"), ("owner", .str owner),
    ("epoch", .int epoch), ("request_id", .str owner),
    ("payload_sha256", .str (String.ofList (List.replicate 64 'a')))])), false⟩

/-- The old owner is about to commit when the authority is to change hands; the publication waits
until the commit, and the next request of the old owner is refused. -/
def sampleInputs : List ReceiverInput :=
  [.receive 0 .F2 (sampleWire "A" 1), .execute 0 "X", .execute 0 "X", .execute 0 "X",
    .publish "S" (some [.int 2, .str "B", .bool false]), .commit 0 .acknowledged,
    .publish "S" (some [.int 2, .str "B", .bool false]),
    .receive 1 .F2 (sampleWire "A" 1), .execute 1 "Y", .execute 1 "Y"]

/-- The second request is stale, and its steps left the database alone. -/
theorem receiver_fences_sample :
    (receivers.run (.start sampleStore) sampleInputs).outcome? 1 =
        some (.refuse .staleOrUnknownOwner) ∧
      Quiet 1 (receivers.trace (.start sampleStore) sampleInputs) := by
  have hsecond : (receivers.run (.start sampleStore) sampleInputs).outcome? 1 =
      some (.refuse .staleOrUnknownOwner) := by
    decide +kernel
  obtain ⟨-, -, -, -, hcalls⟩ := receiver_fences (s := sampleStore) rfl rfl sampleInputs
  exact ⟨hsecond, (hcalls 1 _ hsecond).2 (.inl rfl)⟩

end CivicGate.Fencing
