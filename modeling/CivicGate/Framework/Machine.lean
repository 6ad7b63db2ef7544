import Mathlib.Data.List.Induction
import Mathlib.Data.Set.Basic

/-!
# Runs of a deterministic system

Every component below is a `Machine`: a step function from a state and an input to the next
state and an output.  Whatever the source leaves open is part of the input (a clock reading,
another process acting, a commit whose acknowledgement is lost, a crash), so "for every
interleaving" is "for every list of inputs".

`Machine.run` is the state after a list of inputs and `Machine.trace` the stages on the way.
The rules are the ones the developments use: a property every step preserves holds along a run
(`Preserved.run`, `Preserved.trace`), a relation that is transitive and holds over every step
holds from any stage to any later one (`Monotone.later`), and a simulation of one machine by
another carries runs over (`Simulates.run`).
-/

namespace CivicGate

/-- A deterministic system with inputs and outputs. -/
structure Machine (σ α ω : Type*) where
  step : σ → α → σ × ω

/-- One step of a run, with the states around it. -/
structure Stage (σ α ω : Type*) where
  before : σ
  input : α
  output : ω
  after : σ

namespace Machine

variable {σ α ω : Type*} (m : Machine σ α ω)

/-! ## Runs and traces -/

/-- The state after one input. -/
def next (s : σ) (a : α) : σ := (m.step s a).1

/-- The output to one input. -/
def out (s : σ) (a : α) : ω := (m.step s a).2

/-- The step from a state on an input, as a stage. -/
def stage (s : σ) (a : α) : Stage σ α ω := ⟨s, a, m.out s a, m.next s a⟩

/-- The state after a list of inputs. -/
def run (s : σ) : List α → σ
  | [] => s
  | a :: as => run (m.next s a) as

/-- The stages of a run, in order. -/
def trace (s : σ) : List α → List (Stage σ α ω)
  | [] => []
  | a :: as => m.stage s a :: trace (m.next s a) as

/-- The states a run from `s` can end in. -/
def Reachable (s t : σ) : Prop := ∃ as, m.run s as = t

@[simp] lemma run_nil (s : σ) : m.run s [] = s := rfl

@[simp] lemma run_cons (s : σ) (a : α) (as : List α) :
    m.run s (a :: as) = m.run (m.next s a) as := rfl

@[simp] lemma trace_nil (s : σ) : m.trace s [] = [] := rfl

@[simp] lemma trace_cons (s : σ) (a : α) (as : List α) :
    m.trace s (a :: as) = m.stage s a :: m.trace (m.next s a) as := rfl

lemma run_append (s : σ) (as bs : List α) : m.run s (as ++ bs) = m.run (m.run s as) bs := by
  induction as generalizing s with
  | nil => rfl
  | cons a as ih => exact ih (m.next s a)

lemma run_concat (s : σ) (as : List α) (a : α) :
    m.run s (as ++ [a]) = m.next (m.run s as) a := by
  rw [run_append, run_cons, run_nil]

lemma trace_append (s : σ) (as bs : List α) :
    m.trace s (as ++ bs) = m.trace s as ++ m.trace (m.run s as) bs := by
  induction as generalizing s with
  | nil => rfl
  | cons a as ih => simp only [List.cons_append, trace_cons, run_cons, ih]

/-- The stages of a run are the steps at its prefixes. -/
lemma trace_eq_append {s : σ} {as : List α} {xs ys : List (Stage σ α ω)} {e : Stage σ α ω}
    (h : m.trace s as = xs ++ e :: ys) :
    ∃ pre post, as = pre ++ e.input :: post ∧ m.trace s pre = xs ∧
      e = m.stage (m.run s pre) e.input ∧ m.trace e.after post = ys := by
  induction xs generalizing s as with
  | nil =>
      cases as with
      | nil => simp at h
      | cons a as =>
          obtain ⟨rfl, rfl⟩ := List.cons_eq_cons.mp h
          exact ⟨[], as, rfl, rfl, rfl, rfl⟩
  | cons x xs ih =>
      cases as with
      | nil => simp at h
      | cons a as =>
          obtain ⟨rfl, htail⟩ := List.cons_eq_cons.mp h
          obtain ⟨pre, post, rfl, hpre, he, hpost⟩ := ih htail
          exact ⟨a :: pre, post, rfl, by rw [trace_cons, hpre], he, hpost⟩

lemma trace_concat (s : σ) (as : List α) (a : α) :
    m.trace s (as ++ [a]) = m.trace s as ++ [m.stage (m.run s as) a] := by
  rw [trace_append, trace_cons, trace_nil]

lemma map_input_trace (s : σ) (as : List α) : (m.trace s as).map Stage.input = as := by
  induction as generalizing s with
  | nil => rfl
  | cons a as ih => rw [trace_cons, List.map_cons, ih]; rfl

/-- A stage and what came before and after it. -/
lemma trace_split {s : σ} {as : List α} {xs ys : List (Stage σ α ω)} {e : Stage σ α ω}
    (h : m.trace s as = xs ++ e :: ys) :
    e.before = m.run s (xs.map Stage.input) ∧ m.trace s (xs.map Stage.input) = xs ∧
      m.step e.before e.input = (e.after, e.output) ∧
      m.run s as = m.run e.after (ys.map Stage.input) := by
  obtain ⟨pre, post, rfl, rfl, he, hpost⟩ := m.trace_eq_append h
  rw [map_input_trace]
  refine ⟨by rw [he]; rfl, rfl, by rw [he]; rfl, ?_⟩
  rw [← hpost, map_input_trace, run_append, run_cons]
  have hafter : e.after = m.next (m.run s pre) e.input := by rw [he]; rfl
  rw [hafter]

/-- A run up to a stage, and its rest from there. -/
lemma trace_rest {s : σ} {as : List α} {xs ys : List (Stage σ α ω)} {e : Stage σ α ω}
    (h : m.trace s as = xs ++ e :: ys) :
    (m.run s (xs.map Stage.input) = e.before ∧ m.trace s (xs.map Stage.input) = xs) ∧
      m.trace e.before (e.input :: ys.map Stage.input) = e :: ys ∧
      m.run s as = m.run e.before (e.input :: ys.map Stage.input) := by
  obtain ⟨pre, post, rfl, rfl, he, hpost⟩ := m.trace_eq_append h
  have hpre : m.run s pre = e.before := by rw [he]; rfl
  have hpost' : ys.map Stage.input = post := by rw [← hpost, map_input_trace]
  rw [map_input_trace, hpost', ← hpre]
  refine ⟨⟨rfl, rfl⟩, ?_, run_append ..⟩
  rw [trace_append] at h
  exact List.append_cancel_left h

lemma exists_of_mem_trace {s : σ} {as : List α} {e : Stage σ α ω} (h : e ∈ m.trace s as) :
    ∃ pre post, as = pre ++ e.input :: post ∧ e = m.stage (m.run s pre) e.input := by
  obtain ⟨xs, ys, hsplit⟩ := List.append_of_mem h
  obtain ⟨pre, post, has, -, he, -⟩ := m.trace_eq_append hsplit
  exact ⟨pre, post, has, he⟩

lemma step_of_mem_trace {s : σ} {as : List α} {e : Stage σ α ω} (h : e ∈ m.trace s as) :
    m.step e.before e.input = (e.after, e.output) := by
  obtain ⟨pre, post, -, he⟩ := m.exists_of_mem_trace h
  rw [he]
  rfl

/-! ## Invariants -/

/-- Every step keeps the property. -/
def Preserved (I : σ → Prop) : Prop := ∀ s a, I s → I (m.next s a)

variable {m}

lemma Preserved.run {I : σ → Prop} (h : m.Preserved I) {s : σ} (hs : I s) (as : List α) :
    I (m.run s as) := by
  induction as generalizing s with
  | nil => exact hs
  | cons a as ih => exact ih (h s a hs)

lemma Preserved.reachable {I : σ → Prop} (h : m.Preserved I) {s t : σ} (hs : I s)
    (ht : m.Reachable s t) : I t := by
  obtain ⟨as, rfl⟩ := ht
  exact h.run hs as

lemma Preserved.trace {I : σ → Prop} (h : m.Preserved I) {s : σ} (hs : I s) {as : List α}
    {e : Stage σ α ω} (he : e ∈ m.trace s as) : I e.before := by
  obtain ⟨pre, post, -, he⟩ := m.exists_of_mem_trace he
  rw [he]
  exact h.run hs pre

/-- A property that only the stages with `C` keep holds along a run of such stages. -/
lemma run_of_forall_stage {I : σ → Prop} {C : Stage σ α ω → Prop}
    (hstep : ∀ s a, I s → C (m.stage s a) → I (m.next s a)) {s : σ} (hs : I s) {as : List α}
    (h : ∀ e ∈ m.trace s as, C e) : I (m.run s as) := by
  induction as generalizing s with
  | nil => exact hs
  | cons a as ih =>
      refine ih (hstep s a hs (h _ (List.mem_cons_self ..))) fun e he => ?_
      exact h e (List.mem_cons_of_mem _ he)

/-- A relation between the stages so far and the state, kept by every step. -/
lemma trace_induction {Q : List (Stage σ α ω) → σ → Prop} {s : σ} (hstart : Q [] s)
    (hstep : ∀ xs t a, Q xs t → Q (xs ++ [m.stage t a]) (m.next t a)) (as : List α) :
    Q (m.trace s as) (m.run s as) := by
  induction as using List.reverseRecOn with
  | nil => exact hstart
  | append_singleton as a ih =>
      rw [trace_concat, run_concat]
      exact hstep _ _ a ih

/-- A relation between the stages so far and the state, kept by every step whose stage `P` allows
after the stages before it. -/
lemma trace_induction_of {P : List (Stage σ α ω) → Stage σ α ω → Prop}
    {Q : List (Stage σ α ω) → σ → Prop} {s : σ} (hstart : Q [] s)
    (hstep : ∀ xs t a, P xs (m.stage t a) → Q xs t → Q (xs ++ [m.stage t a]) (m.next t a))
    (as : List α) (h : ∀ xs e ys, m.trace s as = xs ++ e :: ys → P xs e) :
    Q (m.trace s as) (m.run s as) := by
  induction as using List.reverseRecOn with
  | nil => exact hstart
  | append_singleton as a ih =>
      rw [trace_concat, run_concat]
      rw [trace_concat] at h
      refine hstep _ _ a (h _ _ [] rfl) (ih fun xs e ys hxs => h xs e (ys ++ [m.stage (m.run s as) a]) ?_)
      rw [hxs, List.append_assoc, List.cons_append]

lemma Preserved.and {I J : σ → Prop} (hI : m.Preserved I) (hJ : m.Preserved J) :
    m.Preserved fun s => I s ∧ J s :=
  fun s a h => ⟨hI s a h.1, hJ s a h.2⟩

/-! ## Where things come from -/

/-- If a step adds only items that `New` explains, every item of a later state was there at the
start or was added by some stage on the way. -/
lemma exists_origin (m : Machine σ α ω) {ι : Type*} (items : σ → Set ι) (New : σ → α → ι → Prop)
    (hstep : ∀ s a x, x ∈ items (m.next s a) → x ∈ items s ∨ New s a x) {s : σ} {as : List α}
    {x : ι} (hx : x ∈ items (m.run s as)) :
    x ∈ items s ∨ ∃ e ∈ m.trace s as, New e.before e.input x := by
  induction as generalizing s with
  | nil => exact .inl hx
  | cons a as ih =>
      rcases ih hx with hnext | ⟨e, he, hnew⟩
      · rcases hstep s a x hnext with hs | hnew
        · exact .inl hs
        · exact .inr ⟨m.stage s a, List.mem_cons_self .., hnew⟩
      · exact .inr ⟨e, List.mem_cons_of_mem _ he, hnew⟩

/-! ## Relations between a state and a later one -/

/-- Every step relates its state to the next one. -/
def Monotone (m : Machine σ α ω) (R : σ → σ → Prop) : Prop := ∀ s a, R s (m.next s a)

lemma Monotone.run {R : σ → σ → Prop} (h : Monotone m R) (hrefl : ∀ s, R s s)
    (htrans : ∀ s t u, R s t → R t u → R s u) (s : σ) (as : List α) : R s (m.run s as) := by
  induction as generalizing s with
  | nil => exact hrefl s
  | cons a as ih => exact htrans _ _ _ (h s a) (ih (m.next s a))

/-- From the end of one stage to the start of a later one there is a run. -/
lemma before_later {s : σ} {as : List α} {xs ys zs : List (Stage σ α ω)} {d e : Stage σ α ω}
    (h : m.trace s as = xs ++ d :: ys ++ e :: zs) :
    e.before = m.run d.after (ys.map Stage.input) := by
  obtain ⟨hbefore, hprefix, -, -⟩ := m.trace_split h
  obtain ⟨-, -, -, hrun⟩ := m.trace_split hprefix
  rw [hbefore, hrun]

/-- What a stage establishes and later steps keep relates it to every later stage. -/
lemma pairwise_trace {I : σ → Prop} {K : Stage σ α ω → σ → Prop}
    {R : Stage σ α ω → Stage σ α ω → Prop} (hI : m.Preserved I)
    (hafter : ∀ s a, I s → K (m.stage s a) (m.next s a))
    (hkeep : ∀ d s a, I s → K d s → K d (m.next s a))
    (hrelated : ∀ d s a, I s → K d s → R d (m.stage s a)) {s : σ} (hs : I s) (as : List α) :
    (m.trace s as).Pairwise R := by
  induction as generalizing s with
  | nil => exact .nil
  | cons a as ih =>
      refine List.pairwise_cons.mpr ⟨fun e he => ?_, ih (hI s a hs)⟩
      obtain ⟨pre, -, -, he⟩ := m.exists_of_mem_trace he
      have hkept : m.Preserved fun t => I t ∧ K (m.stage s a) t :=
        fun t b h => ⟨hI t b h.1, hkeep _ t b h.1 h.2⟩
      have hlater := hkept.run ⟨hI s a hs, hafter s a hs⟩ pre
      rw [he]
      exact hrelated _ _ _ hlater.1 hlater.2

/-! ## Simulation -/

variable {τ β π : Type*}

/-- Each step of `m` is matched by a run of `n`, keeping `R`. -/
def Simulates (m : Machine σ α ω) (n : Machine τ β π) (R : σ → τ → Prop) : Prop :=
  ∀ s t a, R s t → ∃ bs, R (m.next s a) (n.run t bs)

lemma Simulates.run {n : Machine τ β π} {R : σ → τ → Prop} (h : Simulates m n R)
    {s : σ} {t : τ} (hR : R s t) (as : List α) : ∃ bs, R (m.run s as) (n.run t bs) := by
  induction as generalizing s t with
  | nil => exact ⟨[], hR⟩
  | cons a as ih =>
      obtain ⟨bs, hbs⟩ := h s t a hR
      obtain ⟨cs, hcs⟩ := ih hbs
      exact ⟨bs ++ cs, by rwa [run_append]⟩

end Machine

end CivicGate
