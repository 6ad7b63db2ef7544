import CivicGate.Framework.Machine
import Mathlib.Data.List.Basic

/-!
# Requests under a key

A service keeps a table of jobs and, for each key a job was requested under, the place of that
job.  A request under a key already used gets the job again if it asks for the same, and is in
conflict otherwise; only a key not yet used leads to a new job.

`JobTable` is what the services fix: how a state holds the table and the keys, and what is raised.
As long as neither is taken from (`Grows`), a key once answered names its job for good.
-/

namespace CivicGate

/-- How a state of a service holds its jobs and keys, and what the service raises. -/
structure JobTable (σ Q J E : Type) where
  jobs : σ → List J
  requests : σ → List (String × ℕ)
  isKey : String → Bool
  /-- The job is the one the request asks for. -/
  asks : Q → J → Prop
  decideAsks : ∀ q job, Decidable (asks q job)
  malformed : E
  unkeyed : E
  conflict : E
  missing : E

namespace JobTable

attribute [instance] JobTable.decideAsks

variable {σ Q J E : Type}

/-- The answer to a request: refused, the job its key names, or what `new` makes of it. -/
def submit (d : JobTable σ Q J E) (s : σ) (request : Option Q) (key : Option String)
    (new : Q → String → σ × Except E (ℕ × J)) : σ × Except E (ℕ × J) :=
  match request, key with
  | none, _ => (s, .error d.malformed)
  | some _, none => (s, .error d.unkeyed)
  | some q, some k =>
    if !d.isKey k then (s, .error d.unkeyed)
    else match (d.requests s).lookup k with
      | some place =>
        match (d.jobs s)[place]? with
        | some job => if d.asks q job then (s, .ok (place, job)) else (s, .error d.conflict)
        | none => (s, .error d.missing)
      | none => new q k

/-- A key names the job at a place. -/
def Names (d : JobTable σ Q J E) (s : σ) (k : String) (place : ℕ) : Prop :=
  (d.requests s).lookup k = some place ∧ place < (d.jobs s).length

/-- Keys are only added, and jobs never taken away. -/
def Grows (d : JobTable σ Q J E) (s t : σ) : Prop :=
  d.requests s <+: d.requests t ∧ (d.jobs s).length ≤ (d.jobs t).length

/-- What a request under a key already used may return: the job, or that the key is in conflict.
A request refused in itself is so before the key is looked at. -/
inductive Repeated (d : JobTable σ Q J E) (place : ℕ) (request : Option Q) :
    Except E (ℕ × J) → Prop
  | job {job} : Repeated d place request (.ok (place, job))
  | conflict : Repeated d place request (.error d.conflict)
  | malformed (h : request = none) : Repeated d place request (.error d.malformed)

variable {d : JobTable σ Q J E} {s t : σ} {request : Option Q} {key : Option String} {k : String}
  {place : ℕ} {job : J} {new : Q → String → σ × Except E (ℕ × J)}

/-- A request is refused, returns the job its key names, or leads to a new one. -/
lemma submit_cases (d : JobTable σ Q J E) (s : σ) (request : Option Q) (key : Option String)
    (new : Q → String → σ × Except E (ℕ × J)) :
    (∃ e, d.submit s request key new = (s, .error e)) ∨
    ∃ q k, key = some k ∧ d.isKey k = true ∧
      ((∃ place job, (d.requests s).lookup k = some place ∧ (d.jobs s)[place]? = some job ∧
          d.submit s request key new = (s, .ok (place, job))) ∨
        ((d.requests s).lookup k = none ∧ d.submit s request key new = new q k)) := by
  unfold submit
  split
  · exact .inl ⟨_, rfl⟩
  · exact .inl ⟨_, rfl⟩
  · rename_i q k
    split
    · exact .inl ⟨_, rfl⟩
    · rename_i hkey
      rw [Bool.not_eq_true', Bool.not_eq_false] at hkey
      split
      · rename_i place hplace
        split
        · rename_i job hjob
          split
          · exact .inr ⟨q, k, rfl, hkey, .inl ⟨place, job, hplace, hjob, rfl⟩⟩
          · exact .inl ⟨_, rfl⟩
        · exact .inl ⟨_, rfl⟩
      · rename_i hfree
        exact .inr ⟨q, k, rfl, hkey, .inr ⟨hfree, rfl⟩⟩

lemma Grows.refl (d : JobTable σ Q J E) (s : σ) : d.Grows s s := ⟨List.prefix_rfl, le_rfl⟩

lemma Grows.names (h : d.Grows s t) (hnames : d.Names s k place) : d.Names t k place := by
  obtain ⟨more, hmore⟩ := h.1
  refine ⟨?_, lt_of_lt_of_le hnames.2 h.2⟩
  rw [← hmore, List.lookup_append, hnames.1, Option.some_or]

/-- A key not used before names the job added under it. -/
lemma names_added (hfree : (d.requests s).lookup k = none)
    (hrequests : d.requests t = d.requests s ++ [(k, place)])
    (hplace : place < (d.jobs t).length) : d.Names t k place := by
  refine ⟨?_, hplace⟩
  rw [hrequests, List.lookup_append, hfree, Option.none_or, List.lookup_cons_self]

/-- After a request that returned a job, its key names the job, if that is so of new jobs. -/
lemma names_of_submit
    (hnew : ∀ q k place job, (d.requests s).lookup k = none → (new q k).2 = .ok (place, job) →
      d.Names (new q k).1 k place)
    (h : (d.submit s request key new).2 = .ok (place, job)) :
    ∃ k, key = some k ∧ d.isKey k = true ∧ d.Names (d.submit s request key new).1 k place := by
  rcases d.submit_cases s request key new with ⟨e, hs⟩ | ⟨q, k, hk, hkey,
    ⟨found, old, hfound, hold, hs⟩ | ⟨hfree, hs⟩⟩
  · rw [hs] at h
    cases h
  · rw [hs] at h ⊢
    obtain ⟨rfl, rfl⟩ := Prod.mk.inj (Except.ok.inj h)
    exact ⟨k, hk, hkey, hfound, (List.getElem?_eq_some_iff.mp hold).1⟩
  · rw [hs] at h ⊢
    exact ⟨k, hk, hkey, hnew q k place job hfree h⟩

lemma repeated_of_names (h : d.Names s k place) (hkey : d.isKey k = true) :
    d.Repeated place request (d.submit s request (some k) new).2 := by
  unfold submit
  split
  · exact .malformed rfl
  · rename_i hnone
    cases hnone
  · rename_i q k' hk
    obtain rfl := Option.some.inj hk
    rw [hkey, h.1]
    dsimp only
    rw [if_neg (by simp), List.getElem?_eq_getElem h.2]
    dsimp only
    split
    · exact .job
    · exact .conflict

/-- A key named at a stage of a run names the same job at every later one. -/
lemma names_later {I O : Type} {m : Machine σ I O} (hgrows : ∀ s i, d.Grows s (m.next s i))
    {inputs : List I} {xs ys zs : List (Stage σ I O)} {a b : Stage σ I O}
    (htrace : m.trace s inputs = xs ++ a :: ys ++ b :: zs) (h : d.Names a.after k place) :
    d.Names b.before k place := by
  have hkept : m.Preserved fun t => d.Names t k place := fun t i ht => (hgrows t i).names ht
  rw [Machine.before_later htrace]
  exact hkept.run h _

end JobTable

end CivicGate
