import CivicGate.Audit.FencingReceiver

/-!
# The steps of the fencing receiver

`Change` lists what a step can do.  `Receivers.Standing` is what a running call relies on: past
its scope lock nobody else moves the scope row or the receipts of its mode and scope, and in
mode `F2` nobody publishes authority once it is checked.  Every step keeps it
(`preserved_standing`).
-/

namespace CivicGate.Fencing

variable {d d' : Receivers} {a : ReceiverInput} {n m : ℕ} {mode : Mode} {request : Request}

/-! ## What a step does -/

/-- The steps of calls on `d`. -/
inductive Change (d : Receivers) : ReceiverInput → Receivers → Prop
  /-- A row is taken, or there is nothing for this input to do. -/
  | stuck (a : ReceiverInput) : Change d a d
  | received (n : ℕ) (mode : Mode) (raw : Wire) (request : Request) (hnew : d.calls n = none)
      (hparse : Request.parse raw = .ok request) :
      Change d (.receive n mode raw) (d.reach n mode request .started)
  | refusedWire (n : ℕ) (mode : Mode) (raw : Wire) (call : Call) (hnew : d.calls n = none)
      (hcall : call = .invalid ∨ call = .ended) :
      Change d (.receive n mode raw) (d.setCall n call)
  | locked (n : ℕ) (uuid : String) (mode : Mode) (request : Request) (highest : ℤ)
      (hat : d.calls n = some (.running mode request .started))
      (havailable : d.scopeLocks.Available n (mode, request.scope))
      (hrow : d.store.scopes (mode, request.scope) = some (.int highest))
      (hnonneg : 0 ≤ highest) :
      Change d (.execute n uuid) { d.reach n mode request (.scopeLocked highest) with
        scopeLocks := d.scopeLocks.acquire n (mode, request.scope) }
  | unfenced (n : ℕ) (uuid : String) (request : Request) (highest : ℤ)
      (hat : d.calls n = some (.running .U request (.scopeLocked highest))) :
      Change d (.execute n uuid) (d.reach n .U request .fenced)
  | raised (n : ℕ) (uuid : String) (request : Request) (highest : ℤ)
      (hat : d.calls n = some (.running .F1 request (.scopeLocked highest)))
      (hepoch : highest ≤ request.epoch) :
      Change d (.execute n uuid) (d.reach n .F1 request .fenced)
  | authorized (n : ℕ) (uuid : String) (request : Request) (highest : ℤ)
      (hat : d.calls n = some (.running .F2 request (.scopeLocked highest)))
      (hcheck : checkAuthority request (d.store.authority request.scope) = none) :
      Change d (.execute n uuid) { d.reach n .F2 request .fenced with
        authorityLocks := d.authorityLocks.acquire n request.scope }
  | inserted (n : ℕ) (uuid : String) (mode : Mode) (request : Request)
      (hat : d.calls n = some (.running mode request .fenced))
      (hprior : mode ≠ .U → d.store.prior (request.key mode) = none) :
      Change d (.execute n uuid) (d.reach n mode request (.inserted uuid))
  | repeated (n : ℕ) (uuid : String) (mode : Mode) (request : Request) (hmode : mode ≠ .U)
      (hat : d.calls n = some (.running mode request .fenced))
      (hprior : d.store.prior (request.key mode) = some request.fingerprint) :
      Change d (.execute n uuid) (d.answer n mode request .repeated)
  | answered (a : ReceiverInput) (n : ℕ) (mode : Mode) (request : Request)
      (cutpoint : Cutpoint) (outcome : Outcome)
      (hcall : a.call? = some n) (hat : d.calls n = some (.running mode request cutpoint))
      (heffect : outcome.effect = .refused ∨ outcome.effect = .unknown) :
      Change d a (d.answer n mode request outcome)
  | committed (n : ℕ) (fate : Commit) (mode : Mode) (request : Request) (effectId : String)
      (outcome : Outcome)
      (hat : d.calls n = some (.running mode request (.inserted effectId)))
      (hfate : fate = .acknowledged ∧ outcome = .accept ∨
        fate = .lost ∧ outcome = .uncertain) :
      Change d (.commit n fate) { d.answer n mode request outcome with
        store := d.store.apply mode request effectId }
  | crashed (n : ℕ) (mode : Mode) (request : Request) (cutpoint : Cutpoint)
      (hat : d.calls n = some (.running mode request cutpoint)) :
      Change d (.crash n) (d.finish n .ended)
  | published (scope : String) (row : Option (List Json))
      (hfree : d.authorityLocks.holders scope = []) :
      Change d (.publish scope row) { d with
        store := { d.store with authority := Function.update d.store.authority scope row } }

lemma change_receive (d : Receivers) (n : ℕ) (mode : Mode) (raw : Wire) :
    Change d (.receive n mode raw) (d.receive n mode raw) := by
  unfold Receivers.receive
  split
  · exact .stuck _
  · rename_i hnew
    split
    · rename_i request hparse
      exact .received n mode raw request hnew hparse
    · split
      · exact .refusedWire n mode raw _ hnew (.inl rfl)
      · exact .refusedWire n mode raw _ hnew (.inr rfl)

lemma change_lockScope (uuid : String)
    (hat : d.calls n = some (.running mode request .started)) :
    Change d (.execute n uuid) (d.lockScope n mode request) := by
  have hrefuse : Change d (.execute n uuid) (d.answer n mode request (.refuse .scopeUnknown)) :=
    .answered _ n mode request .started _ rfl hat (.inl rfl)
  unfold Receivers.lockScope
  split
  · rename_i havailable
    split
    · rename_i highest hrow
      split
      · exact hrefuse
      · rename_i hnonneg
        exact .locked n uuid mode request highest hat havailable hrow (not_lt.mp hnonneg)
    · exact hrefuse
  · exact .stuck _

lemma change_fence (uuid : String) {highest : ℤ}
    (hat : d.calls n = some (.running mode request (.scopeLocked highest))) :
    Change d (.execute n uuid) (d.fence n mode request highest) := by
  have hrefuse (reason : OutcomeReason) :
      Change d (.execute n uuid) (d.answer n mode request (.refuse reason)) :=
    .answered _ n mode request _ _ rfl hat (.inl rfl)
  unfold Receivers.fence
  cases mode with
  | U => exact .unfenced n uuid request highest hat
  | F1 =>
      dsimp only
      split
      · exact hrefuse _
      · rename_i hepoch
        exact .raised n uuid request highest hat (not_lt.mp hepoch)
  | F2 =>
      dsimp only
      split
      · exact hrefuse _
      · rename_i hcheck
        exact .authorized n uuid request highest hat hcheck

lemma change_insert (uuid : String)
    (hat : d.calls n = some (.running mode request .fenced)) :
    Change d (.execute n uuid) (d.insert n mode request uuid) := by
  unfold Receivers.insert
  split
  · rename_i hmode
    exact .inserted n uuid mode request hat fun h => absurd hmode h
  · rename_i hmode
    split
    · rename_i fingerprint hprior
      split
      · exact .answered _ n mode request .fenced _ rfl hat (.inl rfl)
      · rename_i hsame
        rw [not_not.mp hsame] at hprior
        exact .repeated n uuid mode request hmode hat hprior
    · rename_i hprior
      exact .inserted n uuid mode request hat fun _ => hprior

lemma change_commit (d : Receivers) (n : ℕ) (fate : Commit) :
    Change d (.commit n fate) (d.commit n fate) := by
  unfold Receivers.commit
  split
  · rename_i mode request effectId hat
    cases fate with
    | acknowledged => exact .committed n _ mode request effectId _ hat (.inl ⟨rfl, rfl⟩)
    | lost => exact .committed n _ mode request effectId _ hat (.inr ⟨rfl, rfl⟩)
    | rolledBack => exact .answered _ n mode request _ _ rfl hat (.inr rfl)
  · exact .stuck _

/-- What a step can do. -/
lemma change_step (d : Receivers) (a : ReceiverInput) : Change d a (d.step a) := by
  cases a with
  | receive n mode raw => exact change_receive d n mode raw
  | execute n uuid =>
      change Change d _ (d.execute n uuid)
      unfold Receivers.execute
      split
      · exact change_lockScope uuid ‹_›
      · exact change_fence uuid ‹_›
      · exact change_insert uuid ‹_›
      · exact .stuck _
  | commit n fate => exact change_commit d n fate
  | fail n =>
      dsimp only [Receivers.step]
      split
      · exact .answered _ n _ _ _ _ rfl ‹_› (.inr rfl)
      · exact .stuck _
  | crash n =>
      dsimp only [Receivers.step]
      split
      · exact .crashed n _ _ _ ‹_›
      · exact .stuck _
  | publish scope row =>
      dsimp only [Receivers.step]
      split
      · exact .published scope row ‹_›
      · exact .stuck _

/-- A property every change keeps is preserved. -/
lemma preserved_of_change {I : Receivers → Prop}
    (h : ∀ {d a d'}, Change d a d' → I d → I d') : receivers.Preserved I :=
  fun d a hd => h (change_step d a) hd

/-! ## What a running call has established -/

/-- What the mode checked of the epoch still holds. -/
def Receivers.Fenced (d : Receivers) (n : ℕ) (request : Request) : Mode → Prop
  | .U => True
  | .F1 => ∃ highest, d.store.scopes (.F1, request.scope) = some (.int highest) ∧
      highest ≤ request.epoch
  | .F2 => n ∈ d.authorityLocks.holders request.scope ∧
      checkAuthority request (d.store.authority request.scope) = none

/-- What a call at this cutpoint relies on. -/
def Receivers.Stands (d : Receivers) (n : ℕ) (mode : Mode) (request : Request) :
    Cutpoint → Prop
  | .started => True
  | .scopeLocked highest => d.scopeLocks.holder (mode, request.scope) = some n ∧
      d.store.scopes (mode, request.scope) = some (.int highest)
  | .fenced => d.scopeLocks.holder (mode, request.scope) = some n ∧ d.Fenced n request mode
  | .inserted _ => d.scopeLocks.holder (mode, request.scope) = some n ∧
      d.Fenced n request mode ∧ (mode ≠ .U → d.store.prior (request.key mode) = none)

def Receivers.Standing (d : Receivers) : Prop :=
  ∀ n mode request cutpoint, d.calls n = some (.running mode request cutpoint) →
    d.Stands n mode request cutpoint

/-- What a step leaves alone of what a call relies on. -/
structure Untouched (d d' : Receivers) (n : ℕ) (mode : Mode) (request : Request) : Prop where
  lock : d.scopeLocks.holder (mode, request.scope) = some n →
    d'.scopeLocks.holder (mode, request.scope) = some n
  share : n ∈ d.authorityLocks.holders request.scope →
    n ∈ d'.authorityLocks.holders request.scope
  row : d.scopeLocks.holder (mode, request.scope) = some n →
    d'.store.scopes (mode, request.scope) = d.store.scopes (mode, request.scope)
  authority : n ∈ d.authorityLocks.holders request.scope →
    d'.store.authority request.scope = d.store.authority request.scope
  prior : d.scopeLocks.holder (mode, request.scope) = some n →
    d'.store.prior (request.key mode) = d.store.prior (request.key mode)

lemma Untouched.fenced (h : Untouched d d' n mode request)
    (hlock : d.scopeLocks.holder (mode, request.scope) = some n)
    (hfenced : d.Fenced n request mode) : d'.Fenced n request mode := by
  cases mode with
  | U => trivial
  | F1 =>
      obtain ⟨highest, hrow, hepoch⟩ := hfenced
      exact ⟨highest, (h.row hlock).trans hrow, hepoch⟩
  | F2 =>
      obtain ⟨hshare, hcheck⟩ := hfenced
      refine ⟨h.share hshare, ?_⟩
      rw [h.authority hshare]
      exact hcheck

lemma Untouched.stands (h : Untouched d d' n mode request) {cutpoint : Cutpoint}
    (hstands : d.Stands n mode request cutpoint) : d'.Stands n mode request cutpoint := by
  cases cutpoint with
  | started => trivial
  | scopeLocked highest => exact ⟨h.lock hstands.1, (h.row hstands.1).trans hstands.2⟩
  | fenced => exact ⟨h.lock hstands.1, h.fenced hstands.1 hstands.2⟩
  | inserted effectId =>
      refine ⟨h.lock hstands.1, h.fenced hstands.1 hstands.2.1, fun hmode => ?_⟩
      rw [h.prior hstands.1]
      exact hstands.2.2 hmode

/-! ### Frames -/

lemma untouched_reach (d : Receivers) (m n : ℕ) (mode : Mode) (request : Request) (call : Call) :
    Untouched d (d.setCall m call) n mode request :=
  ⟨fun h => h, fun h => h, fun _ => rfl, fun _ => rfl, fun _ => rfl⟩

lemma untouched_finish (hne : n ≠ m) (call : Call) :
    Untouched d (d.finish m call) n mode request :=
  ⟨UpdateLocks.release_of_held hne, ShareLocks.mem_release hne, fun _ => rfl, fun _ => rfl,
    fun _ => rfl⟩

section
variable {s : ReceiverStore} {effectId : String}

lemma scopes_apply : (s.apply mode request effectId).scopes =
    if mode = .F1 then
      Function.update s.scopes (mode, request.scope) (some (.int request.epoch))
    else s.scopes := rfl

lemma receipts_apply : (s.apply mode request effectId).receipts =
    if mode = .U then s.receipts else s.receipts ++ [request.receipt mode] := rfl

@[simp] lemma effects_apply : (s.apply mode request effectId).effects =
    s.effects ++ [request.effect mode effectId] := rfl

lemma scopes_apply_of_ne {k : Mode × String} (hne : k ≠ (mode, request.scope)) :
    (s.apply mode request effectId).scopes k = s.scopes k := by
  rw [scopes_apply]
  split
  · exact Function.update_of_ne hne ..
  · rfl

lemma prior_apply_of_ne {key : Mode × String × String} (hne : key ≠ request.key mode) :
    (s.apply mode request effectId).prior key = s.prior key := by
  rw [ReceiverStore.prior, ReceiverStore.prior, receipts_apply]
  split
  · rfl
  · have hother : (request.receipt mode).key ≠ key := fun h => hne h.symm
    rw [Table.get?_concat_of_ne hother]

end

/-- A commit under one scope lock leaves what another call holds. -/
lemma untouched_commit {mode' : Mode} {request' : Request} {effectId : String} (hne : n ≠ m)
    (hlock : d.scopeLocks.holder (mode', request'.scope) = some m) (call : Call) :
    Untouched d { d.finish m call with store := d.store.apply mode' request' effectId }
      n mode request := by
  have hapart : d.scopeLocks.holder (mode, request.scope) = some n →
      (mode, request.scope) ≠ (mode', request'.scope) := by
    intro hheld hsame
    rw [hsame, hlock] at hheld
    exact hne (Option.some.inj hheld).symm
  refine ⟨UpdateLocks.release_of_held hne, ShareLocks.mem_release hne,
    fun h => scopes_apply_of_ne (hapart h), fun _ => rfl, fun h => prior_apply_of_ne ?_⟩
  intro hkey
  obtain ⟨hmode, hscope, -⟩ : mode = mode' ∧ request.scope = request'.scope ∧
      request.requestId = request'.requestId := by
    simpa [Request.key] using hkey
  exact hapart h (by rw [hmode, hscope])

/-! ### Every step keeps it -/

/-- A step of one call keeps `Standing` if it leaves the others alone. -/
lemma standing_of_call {call : Call} (hstanding : d.Standing)
    (hcalls : d'.calls = Function.update d.calls m (some call))
    (hself : ∀ mode request cutpoint, call = .running mode request cutpoint →
      d'.Stands m mode request cutpoint)
    (hothers : ∀ n mode request, n ≠ m → Untouched d d' n mode request) : d'.Standing := by
  intro n mode request cutpoint hat
  rw [hcalls] at hat
  by_cases hn : n = m
  · subst hn
    rw [Function.update_self] at hat
    exact hself mode request cutpoint (Option.some.inj hat)
  · rw [Function.update_of_ne hn] at hat
    exact (hothers n mode request hn).stands (hstanding n mode request cutpoint hat)

lemma standing_reach {cutpoint : Cutpoint} (hstanding : d.Standing)
    (h : d.Stands m mode request cutpoint) : (d.reach m mode request cutpoint).Standing := by
  refine standing_of_call hstanding rfl ?_ fun n mode request _ => untouched_reach ..
  rintro _ _ _ hcall
  obtain ⟨rfl, rfl, rfl⟩ := Call.running.inj hcall
  exact (untouched_reach d m m mode request _).stands h

lemma standing_finish {call : Call} (hstanding : d.Standing)
    (hcall : ∀ mode request cutpoint, call ≠ .running mode request cutpoint) :
    (d.finish m call).Standing :=
  standing_of_call hstanding rfl (fun _ _ _ h => absurd h (hcall _ _ _))
    fun _ _ _ hne => untouched_finish hne call

lemma standing_change (h : Change d a d') (hstanding : d.Standing) : d'.Standing := by
  cases h with
  | stuck => exact hstanding
  | received n mode raw request => exact standing_reach hstanding trivial
  | refusedWire n mode raw call _ hcall =>
      refine standing_of_call hstanding rfl ?_ fun _ _ _ _ => untouched_reach ..
      rcases hcall with rfl | rfl <;> nofun
  | locked n uuid mode request highest _ havailable hrow =>
      refine standing_of_call hstanding rfl ?_ fun k mode' request' _ =>
        ⟨UpdateLocks.acquire_of_held havailable, fun h => h, fun _ => rfl, fun _ => rfl,
          fun _ => rfl⟩
      rintro _ _ _ hcall
      obtain ⟨rfl, rfl, rfl⟩ := Call.running.inj hcall
      exact ⟨UpdateLocks.acquire_self, hrow⟩
  | unfenced n uuid request highest hat =>
      exact standing_reach hstanding ⟨(hstanding _ _ _ _ hat).1, trivial⟩
  | raised n uuid request highest hat hepoch =>
      obtain ⟨hlock, hrow⟩ := hstanding _ _ _ _ hat
      exact standing_reach hstanding ⟨hlock, highest, hrow, hepoch⟩
  | authorized n uuid request highest hat hcheck =>
      refine standing_of_call hstanding rfl ?_ fun k mode' request' _ =>
        ⟨fun h => h, ShareLocks.mem_acquire, fun _ => rfl, fun _ => rfl, fun _ => rfl⟩
      rintro _ _ _ hcall
      obtain ⟨rfl, rfl, rfl⟩ := Call.running.inj hcall
      exact ⟨(hstanding _ _ _ _ hat).1, ShareLocks.mem_acquire_self, hcheck⟩
  | inserted n uuid mode request hat hprior =>
      obtain ⟨hlock, hfenced⟩ := hstanding _ _ _ _ hat
      exact standing_reach hstanding ⟨hlock, hfenced, hprior⟩
  | committed n fate mode request effectId outcome hat =>
      exact standing_of_call hstanding rfl nofun fun k mode' request' hne =>
        untouched_commit hne (hstanding _ _ _ _ hat).1 _
  | published scope row hfree =>
      intro n mode request cutpoint hat
      refine Untouched.stands ?_ (hstanding n mode request cutpoint hat)
      refine ⟨fun h => h, fun h => h, fun _ => rfl, fun hshare => ?_, fun _ => rfl⟩
      refine Function.update_of_ne ?_ ..
      rintro rfl
      rw [hfree] at hshare
      cases hshare
  | _ => exact standing_finish hstanding nofun

lemma preserved_standing : receivers.Preserved Receivers.Standing :=
  preserved_of_change standing_change

end CivicGate.Fencing
