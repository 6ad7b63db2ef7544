import CivicGate.Framework.Exceptions

/-!
# Programs that may raise

A method that changes an object and may raise leaves what it changed before it raised.
`Program σ ε α` is such a method over a state `σ`: it gives a value or raises, and in either
case leaves a state.  `throw`, `try … catch`, `get` and `modify` are Python's `raise`,
`try … except`, reading and assigning attributes; `Program.thenAlways` is `try … finally`.

`Program.Triple` is the Hoare triple of such a program, with one postcondition for a return and
one for an exception, and the rules below are those of its combinators.
-/

namespace CivicGate

/-- A method over a state that survives an exception. -/
def Program (σ ε α : Type) : Type := σ → Except ε α × σ

namespace Program

variable {σ ε δ α β : Type}

/-- The result and the state a run leaves. -/
def run (p : Program σ ε α) (s : σ) : Except ε α × σ := p s

instance : Monad (Program σ ε) where
  pure a := fun s => (.ok a, s)
  bind p f := fun s =>
    match p s with
    | (.ok a, t) => f a t
    | (.error e, t) => (.error e, t)

instance : MonadStateOf σ (Program σ ε) where
  get := fun s => (.ok s, s)
  set t := fun _ => (.ok (), t)
  modifyGet f := fun s => (.ok (f s).1, (f s).2)

instance : MonadExceptOf ε (Program σ ε) where
  throw e := fun s => (.error e, s)
  tryCatch p handler := fun s =>
    match p s with
    | (.ok a, t) => (.ok a, t)
    | (.error e, t) => handler e t

/-- A computation that reads no state. -/
def lift (x : Except ε α) : Program σ ε α := fun s => (x, s)

/-- `try: p` with a cleanup that raises nothing, run in any case. -/
def thenAlways (p : Program σ ε α) (cleanup : σ → σ) : Program σ ε α := fun s =>
  ((p s).1, cleanup (p s).2)

/-! ## Runs -/

@[simp] lemma run_pure (a : α) (s : σ) : (pure a : Program σ ε α).run s = (.ok a, s) := rfl

lemma run_bind (p : Program σ ε α) (f : α → Program σ ε β) (s : σ) :
    (p >>= f).run s =
      match p.run s with
      | (.ok a, t) => (f a).run t
      | (.error e, t) => (.error e, t) := rfl

lemma run_bind_of_ok {p : Program σ ε α} {f : α → Program σ ε β} {a : α} {s t : σ}
    (h : p.run s = (.ok a, t)) : (p >>= f).run s = (f a).run t := by
  rw [run_bind, h]

lemma run_bind_of_error {p : Program σ ε α} {f : α → Program σ ε β} {e : ε} {s t : σ}
    (h : p.run s = (.error e, t)) : (p >>= f).run s = (.error e, t) := by
  rw [run_bind, h]

lemma bind_assoc {γ : Type} (p : Program σ ε α) (f : α → Program σ ε β)
    (g : β → Program σ ε γ) : (p >>= f) >>= g = p >>= fun a => f a >>= g := by
  funext s
  change (match (match p s with | (.ok a, t) => f a t | (.error e, t) => (.error e, t)) with
    | (.ok b, u) => g b u
    | (.error e, u) => (.error e, u)) = _
  change _ = match p s with
    | (.ok a, t) => (match f a t with
      | (.ok b, u) => g b u
      | (.error e, u) => (.error e, u))
    | (.error e, t) => (.error e, t)
  rcases p s with ⟨_ | a, t⟩ <;> rfl

lemma lift_ok_bind (a : α) (f : α → Program σ ε β) : (lift (.ok a) >>= f) = f a := rfl

@[simp] lemma run_throw (e : ε) (s : σ) : (throw e : Program σ ε α).run s = (.error e, s) := rfl

@[simp] lemma run_get (s : σ) : (get : Program σ ε σ).run s = (.ok s, s) := rfl

/-- Reading the state first. -/
lemma run_get_bind (f : σ → Program σ ε α) (s : σ) : (get >>= f).run s = (f s).run s := rfl

@[simp] lemma run_set (s t : σ) : (set t : Program σ ε Unit).run s = (.ok (), t) := rfl

@[simp] lemma run_modify (f : σ → σ) (s : σ) :
    (modify f : Program σ ε Unit).run s = (.ok (), f s) := rfl

@[simp] lemma run_lift (x : Except ε α) (s : σ) : (lift x : Program σ ε α).run s = (x, s) := rfl

lemma run_tryCatch (p : Program σ ε α) (handler : ε → Program σ ε α) (s : σ) :
    (tryCatch p handler).run s =
      match p.run s with
      | (.ok a, t) => (.ok a, t)
      | (.error e, t) => (handler e).run t := rfl

@[simp] lemma run_thenAlways (p : Program σ ε α) (cleanup : σ → σ) (s : σ) :
    (p.thenAlways cleanup).run s = ((p.run s).1, cleanup (p.run s).2) := rfl

/-! ## Relations -/

/-- However a run ends, the state it leaves is related to the one it starts from. -/
def Relates (p : Program σ ε α) (R : σ → σ → Prop) : Prop := ∀ s, R s (p.run s).2

variable {R S T : σ → σ → Prop}

lemma Relates.bind {p : Program σ ε α} {f : α → Program σ ε β} (hp : Relates p R)
    (hf : ∀ a, Relates (f a) S) (hcomp : ∀ s t u, R s t → S t u → T s u)
    (hraised : ∀ s t, R s t → T s t) : Relates (p >>= f) T := by
  intro s
  have hrun := hp s
  rw [run_bind]
  rcases hps : p.run s with ⟨e | a, t⟩ <;> rw [hps] at hrun
  · exact hraised _ _ hrun
  · exact hcomp _ _ _ hrun (hf a t)

lemma Relates.tryCatch {p : Program σ ε α} {handler : ε → Program σ ε α} (hp : Relates p R)
    (hhandler : ∀ e, Relates (handler e) S) (hcomp : ∀ s t u, R s t → S t u → T s u)
    (hreturned : ∀ s t, R s t → T s t) : Relates (MonadExcept.tryCatch p handler) T := by
  intro s
  have hrun := hp s
  have htry : (MonadExcept.tryCatch p handler).run s =
      match p.run s with
      | (.ok a, t) => (.ok a, t)
      | (.error e, t) => (handler e).run t := rfl
  rw [htry]
  rcases hps : p.run s with ⟨e | a, t⟩ <;> rw [hps] at hrun
  · exact hcomp _ _ _ hrun (hhandler e t)
  · exact hreturned _ _ hrun

lemma Relates.thenAlways {p : Program σ ε α} {cleanup : σ → σ} (hp : Relates p R)
    (hcomp : ∀ s t, R s t → T s (cleanup t)) : Relates (p.thenAlways cleanup) T :=
  fun s => hcomp _ _ (hp s)

/-! ## Triples -/

/-- From a state with `P`, a return leaves `Q` and an exception leaves `E`. -/
def Triple (P : σ → Prop) (p : Program σ ε α) (Q : α → σ → Prop) (E : ε → σ → Prop) : Prop :=
  ∀ s, P s → match p.run s with
    | (.ok a, t) => Q a t
    | (.error e, t) => E e t

variable {P P' : σ → Prop} {Q Q' : α → σ → Prop} {E E' : ε → σ → Prop}

lemma Triple.conseq {p : Program σ ε α} (h : Triple P p Q E) (hP : ∀ s, P' s → P s)
    (hQ : ∀ a s, Q a s → Q' a s) (hE : ∀ e s, E e s → E' e s) : Triple P' p Q' E' := by
  intro s hs
  have hrun := h s (hP s hs)
  rcases hp : p.run s with ⟨_ | _, t⟩ <;> rw [hp] at hrun
  · exact hE _ _ hrun
  · exact hQ _ _ hrun

/-- What a run that returned leaves. -/
lemma Triple.returns {p : Program σ ε α} (h : Triple P p Q E) {s t : σ} {a : α} (hs : P s)
    (hrun : p.run s = (.ok a, t)) : Q a t := by
  have hpost := h s hs
  rw [hrun] at hpost
  exact hpost

lemma Triple.pure {a : α} (h : ∀ s, P s → Q a s) : Triple P (Pure.pure a : Program σ ε α) Q E :=
  fun s hs => h s hs

lemma Triple.throw {e : ε} (h : ∀ s, P s → E e s) :
    Triple P (MonadExcept.throw e : Program σ ε α) Q E :=
  fun s hs => h s hs

lemma Triple.bind {p : Program σ ε α} {f : α → Program σ ε β} {R : β → σ → Prop}
    (hp : Triple P p Q E) (hf : ∀ a, Triple (Q a) (f a) R E) : Triple P (p >>= f) R E := by
  intro s hs
  have hrun := hp s hs
  rw [run_bind]
  rcases hps : p.run s with ⟨e | a, t⟩ <;> rw [hps] at hrun
  · exact hrun
  · exact hf a t hrun

lemma Triple.tryCatch {p : Program σ ε α} {handler : ε → Program σ ε α}
    (hp : Triple P p Q E) (hhandler : ∀ e, Triple (E e) (handler e) Q E') :
    Triple P (MonadExcept.tryCatch p handler) Q E' := by
  intro s hs
  have hrun := hp s hs
  have htry : (MonadExcept.tryCatch p handler).run s =
      match p.run s with
      | (.ok a, t) => (.ok a, t)
      | (.error e, t) => (handler e).run t := rfl
  rw [htry]
  rcases hps : p.run s with ⟨e | a, t⟩ <;> rw [hps] at hrun
  · exact hhandler e t hrun
  · exact hrun

lemma Triple.thenAlways {p : Program σ ε α} {cleanup : σ → σ}
    (hp : Triple P p (fun a s => Q a (cleanup s)) (fun e s => E e (cleanup s))) :
    Triple P (p.thenAlways cleanup) Q E := by
  intro s hs
  have hrun := hp s hs
  rw [run_thenAlways]
  rcases hps : p.run s with ⟨_ | _, t⟩ <;> rw [hps] at hrun <;> exact hrun

lemma Triple.ite {c : Prop} [Decidable c] {p q : Program σ ε α} (hp : c → Triple P p Q E)
    (hq : ¬c → Triple P q Q E) : Triple P (if c then p else q) Q E := by
  by_cases h : c
  · rw [if_pos h]
    exact hp h
  · rw [if_neg h]
    exact hq h

/-! ## Reading and moving a view -/

variable {τ : Type} {view : σ → τ} {x y : τ}

/-- Started with the view `x`, the program leaves it however it ends, and what it returns
satisfies `A`. -/
def Reads (view : σ → τ) (x : τ) (p : Program σ ε α) (A : α → Prop) : Prop :=
  Triple (fun s => view s = x) p (fun a s => view s = x ∧ A a) fun _ s => view s = x

/-- The program takes the view from `x` to `y` and raises nothing. -/
def Moves (view : σ → τ) (x : τ) (p : Program σ ε Unit) (y : τ) : Prop :=
  Triple (fun s => view s = x) p (fun _ s => view s = y) fun _ _ => False

variable {A : α → Prop} {B : β → Prop}

lemma Reads.mono {p : Program σ ε α} {A' : α → Prop} (h : Reads view x p A)
    (hA : ∀ a, A a → A' a) : Reads view x p A' :=
  h.conseq (fun _ hs => hs) (fun a _ hs => ⟨hs.1, hA a hs.2⟩) fun _ _ hs => hs

lemma Reads.pure {a : α} (h : A a) : Reads view x (Pure.pure a : Program σ ε α) A :=
  fun _ hs => ⟨hs, h⟩

lemma Reads.lift {v : Except ε α} : Reads view x (Program.lift v : Program σ ε α) (v = .ok ·) := by
  intro s hs
  cases v with
  | error e => exact hs
  | ok a => exact ⟨hs, rfl⟩

/-- What follows a reading program starts with what it returned. -/
lemma Reads.triple {p : Program σ ε α} {f : α → Program σ ε β} {R : β → σ → Prop}
    (hp : Reads view x p A) (hf : ∀ a, A a → Triple (fun s => view s = x) (f a) R E)
    (hE : ∀ e s, view s = x → E e s) : Triple (fun s => view s = x) (p >>= f) R E := by
  intro s hs
  have hrun := hp s hs
  rw [run_bind]
  rcases hps : p.run s with ⟨e | a, t⟩ <;> rw [hps] at hrun
  · exact hE e t hrun
  · exact hf a hrun.2 t hrun.1

lemma Reads.bind {p : Program σ ε α} {f : α → Program σ ε β} (hp : Reads view x p A)
    (hf : ∀ a, A a → Reads view x (f a) B) : Reads view x (p >>= f) B :=
  hp.triple hf fun _ _ h => h

/-- What follows a moving program starts from where it moved. -/
lemma Moves.triple {p : Program σ ε Unit} {f : Unit → Program σ ε β} {R : β → σ → Prop}
    (hp : Moves view x p y) (hf : Triple (fun s => view s = y) (f ()) R E) :
    Triple (fun s => view s = x) (p >>= f) R E := by
  intro s hs
  have hrun := hp s hs
  rw [run_bind]
  rcases hps : p.run s with ⟨e | a, t⟩ <;> rw [hps] at hrun
  · exact hrun.elim
  · exact hf t hrun

/-! ## Runs that return -/

/-- Started with the view `x`, the program returns `a` and leaves the view `y`. -/
def Returns (view : σ → τ) (x : τ) (p : Program σ ε α) (a : α) (y : τ) : Prop :=
  ∀ s, view s = x → ∃ t, p.run s = (.ok a, t) ∧ view t = y

variable {z : τ} {a : α} {b : β}

lemma Returns.bind {p : Program σ ε α} {f : α → Program σ ε β} (hp : Returns view x p a y)
    (hf : Returns view y (f a) b z) : Returns view x (p >>= f) b z := by
  intro s hs
  obtain ⟨t, hrun, ht⟩ := hp s hs
  rw [run_bind_of_ok hrun]
  exact hf t ht

lemma Returns.pure : Returns view x (Pure.pure a : Program σ ε α) a x := fun s hs => ⟨s, rfl, hs⟩

lemma Returns.lift {v : Except ε α} (h : v = .ok a) :
    Returns view x (Program.lift v : Program σ ε α) a x :=
  fun s hs => ⟨s, by rw [run_lift, h], hs⟩

lemma Returns.modify {f : σ → σ} (h : ∀ s, view s = x → view (f s) = y) :
    Returns view x (MonadStateOf.modifyGet fun s => ((), f s) : Program σ ε Unit) () y :=
  fun s hs => ⟨f s, rfl, h s hs⟩

/-- What returns is not caught. -/
lemma Returns.tryCatch {p : Program σ ε α} {handler : ε → Program σ ε α}
    (hp : Returns view x p a y) : Returns view x (MonadExcept.tryCatch p handler) a y := by
  intro s hs
  obtain ⟨t, hrun, ht⟩ := hp s hs
  refine ⟨t, ?_, ht⟩
  have htry : (MonadExcept.tryCatch p handler).run s =
      match p.run s with
      | (.ok a, t) => (.ok a, t)
      | (.error e, t) => (handler e).run t := rfl
  rw [htry, hrun]

end Program

end CivicGate
