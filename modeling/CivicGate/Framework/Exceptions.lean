import Mathlib.Data.List.Forall2

/-!
# Python exceptions

A Python function that may raise returns an `Except`.  `PyException` tells exceptions apart as
far as the `except` clauses of the source do: a handler names classes, `Exception` covers all
but `exit`, and a subclass counts as the listed class it derives from (`ValidationError`,
`JSONDecodeError` and `UnicodeError` are `ValueError`s).
-/

namespace CivicGate

/-- An exception, by the class a handler would list for it. -/
inductive PyException
  | valueError
  | typeError
  | keyError
  | attributeError
  | overflowError
  | recursionError
  | runtimeError
  /-- `KeyboardInterrupt`, `SystemExit`, `CancelledError`: no `Exception`. -/
  | exit
  deriving DecidableEq

/-- `except Exception` -/
def PyException.isException (e : PyException) : Bool := e ≠ .exit

/-- Raise `e` unless the condition holds. -/
def ensure {ε : Type*} (condition : Bool) (e : ε) : Except ε Unit :=
  if condition then .ok () else .error e

/-- `try: x` with a handler that raises another exception for some of them. -/
def Except.reraise {ε δ α : Type*} (x : Except ε α) (handler : ε → δ) : Except δ α :=
  match x with
  | .ok a => .ok a
  | .error e => .error (handler e)

universe u

variable {ε δ : Type*} {α β : Type u}

@[simp] lemma ensure_eq_ok {condition : Bool} {e : ε} {u : Unit} :
    ensure condition e = .ok u ↔ condition = true := by
  cases condition <;> simp [ensure]

@[simp] lemma ensure_true {e : ε} : ensure true e = .ok () := rfl

@[simp] lemma Except.bind_eq_ok {x : Except ε α} {f : α → Except ε β} {b : β} :
    x >>= f = .ok b ↔ ∃ a, x = .ok a ∧ f a = .ok b := by
  cases x <;> simp [bind, Except.bind]

@[simp] lemma Except.ok_bind {a : α} {f : α → Except ε β} :
    (Except.ok a >>= f) = f a := rfl

@[simp] lemma Except.error_bind {e : ε} {f : α → Except ε β} :
    (Except.error e >>= f) = .error e := rfl

@[simp] lemma Except.pure_eq_ok {a b : α} : (pure a : Except ε α) = .ok b ↔ a = b := by
  simp [pure, Except.pure]

@[simp] lemma Except.throw_ne_ok {e : ε} {a : α} : (throw e : Except ε α) ≠ .ok a := by
  nofun

@[simp] lemma Except.reraise_eq_ok {x : Except ε α} {handler : ε → δ} {a : α} :
    Except.reraise x handler = .ok a ↔ x = .ok a := by
  cases x <;> simp [Except.reraise]

lemma ensure_eq_error {condition : Bool} {e e' : ε} :
    (ensure condition e : Except ε Unit) = .error e' ↔ condition = false ∧ e = e' := by
  cases condition <;> simp [ensure]

lemma Except.bind_eq_error {x : Except ε α} {f : α → Except ε β} {e : ε} :
    x >>= f = .error e ↔ x = .error e ∨ ∃ a, x = .ok a ∧ f a = .error e := by
  cases x <;> simp [bind, Except.bind]

lemma Except.reraise_eq_error {x : Except ε α} {handler : ε → δ} {d : δ} :
    Except.reraise x handler = .error d ↔ ∃ e, x = .error e ∧ handler e = d := by
  cases x <;> simp [Except.reraise]

lemma Except.forM_eq_ok {l : List β} {f : β → Except ε PUnit} {u : PUnit} :
    l.forM f = .ok u ↔ ∀ b ∈ l, f b = .ok PUnit.unit := by
  induction l with
  | nil => simp [List.forM, pure, Except.pure]
  | cons b l ih =>
      have hcons : (b :: l).forM f = (f b >>= fun _ => l.forM f) := rfl
      rw [hcons, Except.bind_eq_ok]
      simp only [ih, List.forall_mem_cons]
      exact ⟨fun ⟨_, hb, hl⟩ => ⟨hb, hl⟩, fun ⟨hb, hl⟩ => ⟨_, hb, hl⟩⟩

lemma Except.mapM_eq_ok {f : α → Except ε β} {as : List α} {bs : List β} :
    as.mapM f = .ok bs ↔ List.Forall₂ (fun a b => f a = .ok b) as bs := by
  induction as generalizing bs with
  | nil =>
      rw [List.mapM_nil, Except.pure_eq_ok, List.forall₂_nil_left_iff, eq_comm]
  | cons a as ih =>
      simp only [List.mapM_cons, Except.bind_eq_ok, Except.pure_eq_ok, ih,
        List.forall₂_cons_left_iff]
      constructor
      · rintro ⟨b, hb, bs', hbs', rfl⟩
        exact ⟨b, bs', hb, hbs', rfl⟩
      · rintro ⟨b, bs', hb, hbs', rfl⟩
        exact ⟨b, hb, bs', hbs', rfl⟩

end CivicGate
