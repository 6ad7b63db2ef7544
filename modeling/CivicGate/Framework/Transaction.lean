import CivicGate.Framework.Exceptions

/-!
# Transactions whose commit may fail

A transaction body reads a database and either returns with the database it leaves or raises.
What it wrote is rolled back when it raises, except where it committed before raising.  A commit
may go through with its acknowledgement lost, and then the caller sees an exception although
everything is durable.

`transact` is the body and its commit together.  `Transacted` lists how it can end: a caller that
got a result knows that it is durable, and one that got an exception does not know what is.
-/

namespace CivicGate

/-- How the commit of a transaction ends.  A crash of the caller is a commit that is lost or
rolled back. -/
inductive Commit
  | acknowledged
  /-- Everything is durable, and the caller sees an exception. -/
  | lost
  /-- Nothing is durable, and the caller sees an exception. -/
  | rolledBack
  deriving DecidableEq

/-- The exception a body leaves with, and what it committed before. -/
structure Abort (δ ε : Type*) where
  error : ε
  committed : Option δ := none

section

variable {δ ε α β : Type*}

/-- The result for the caller and the database afterwards. -/
def transact (unavailable : ε) (body : Except (Abort δ ε) (α × δ)) (commit : Commit) (db : δ) :
    Except ε α × δ :=
  match body, commit with
  | .ok (a, t), .acknowledged => (.ok a, t)
  | .ok (_, t), .lost => (.error unavailable, t)
  | .ok _, .rolledBack => (.error unavailable, db)
  | .error ⟨e, none⟩, _ => (.error e, db)
  | .error ⟨e, some t⟩, .acknowledged => (.error e, t)
  | .error ⟨_, some t⟩, .lost => (.error unavailable, t)
  | .error ⟨_, some _⟩, .rolledBack => (.error unavailable, db)

/-- How a transaction can end, for its caller and the database. -/
inductive Transacted (unavailable : ε) (body : Except (Abort δ ε) (α × δ)) (db : δ) :
    Except ε α × δ → Prop
  | returned {a t} : body = .ok (a, t) → Transacted unavailable body db (.ok a, t)
  | lost {a t} : body = .ok (a, t) → Transacted unavailable body db (.error unavailable, t)
  | raised {e} : body = .error ⟨e, none⟩ → Transacted unavailable body db (.error e, db)
  | stopped {e t} : body = .error ⟨e, some t⟩ → Transacted unavailable body db (.error e, t)
  | stoppedLost {e t} : body = .error ⟨e, some t⟩ →
      Transacted unavailable body db (.error unavailable, t)
  | rolledBack : Transacted unavailable body db (.error unavailable, db)

lemma transacted (unavailable : ε) (body : Except (Abort δ ε) (α × δ)) (commit : Commit) (db : δ) :
    Transacted unavailable body db (transact unavailable body commit db) := by
  rcases body with ⟨e, _ | t⟩ | ⟨a, t⟩
  · exact .raised rfl
  · cases commit with
    | acknowledged => exact .stopped rfl
    | lost => exact .stoppedLost rfl
    | rolledBack => exact .rolledBack
  · cases commit with
    | acknowledged => exact .returned rfl
    | lost => exact .lost rfl
    | rolledBack => exact .rolledBack

/-! ## Guards -/

/-- Raise unless the condition holds. -/
def check (condition : Bool) (e : ε) : Except (Abort δ ε) Unit := ensure condition ⟨e, none⟩

@[simp] lemma check_eq_ok {condition : Bool} {e : ε} {u : Unit} :
    (check condition e : Except (Abort δ ε) Unit) = .ok u ↔ condition = true :=
  ensure_eq_ok

/-- What a body raises, and what it committed before, satisfy `P`. -/
def Aborts (P : ε → Option δ → Prop) (x : Except (Abort δ ε) α) : Prop :=
  ∀ e c, x = .error ⟨e, c⟩ → P e c

variable {P : ε → Option δ → Prop}

lemma Aborts.check {condition : Bool} {e : ε} (h : P e none) :
    Aborts P (check condition e : Except (Abort δ ε) Unit) := by
  intro e' c hx
  cases condition <;> simp only [CivicGate.check, ensure, Bool.false_eq_true, if_false, if_true,
    reduceCtorEq, Except.error.injEq, Abort.mk.injEq] at hx
  obtain ⟨rfl, rfl⟩ := hx
  exact h

lemma Aborts.ok {a : α} : Aborts P (Except.ok a : Except (Abort δ ε) α) := by
  intro e c h
  cases h

lemma Aborts.error {e : ε} {c : Option δ} (h : P e c) :
    Aborts P (Except.error ⟨e, c⟩ : Except (Abort δ ε) α) := by
  intro e' c' hx
  cases hx
  exact h

lemma Aborts.ite {condition : Prop} [Decidable condition] {x y : Except (Abort δ ε) α}
    (hx : Aborts P x) (hy : Aborts P y) : Aborts P (if condition then x else y) := by
  split
  · exact hx
  · exact hy

lemma Aborts.mono {Q : ε → Option δ → Prop} {x : Except (Abort δ ε) α} (h : Aborts P x)
    (hPQ : ∀ e c, P e c → Q e c) : Aborts Q x :=
  fun e c hx => hPQ e c (h e c hx)

end

section

universe u

variable {δ ε : Type*} {α β : Type u} {P : ε → Option δ → Prop}

lemma Aborts.bind {x : Except (Abort δ ε) α} {f : α → Except (Abort δ ε) β} (hx : Aborts P x)
    (hf : ∀ a, Aborts P (f a)) : Aborts P (x >>= f) := by
  intro e c h
  cases x with
  | error a =>
      rw [Except.error_bind, Except.error.injEq] at h
      exact hx e c (congrArg Except.error h)
  | ok a => exact hf a e c h

lemma Aborts.forM {l : List β} {f : β → Except (Abort δ ε) PUnit} (hf : ∀ b, Aborts P (f b)) :
    Aborts P (l.forM f) := by
  induction l with
  | nil => exact .ok
  | cons b l ih => exact (hf b).bind fun _ => ih

end

end CivicGate
