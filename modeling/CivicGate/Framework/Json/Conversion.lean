import CivicGate.Framework.Json.Tree

/-!
# Conversion of JSON documents

`Tree.convert` replaces every string and every number of a document, or fails; `Tree.keysOk`
checks the keys of every object.  A reader that converts what another reads
(`Reader.through`) reads the converted documents that pass the check of their keys
(`Reader.read_through`).
-/

namespace CivicGate

variable {S N S' N' S'' N'' : Type}

/-! ## Conversion -/

mutual
/-- The document with its strings and numbers replaced. -/
def Tree.convert (f : S → Option S') (g : N → Option N') : Tree S N → Option (Tree S' N')
  | .null => some .null
  | .bool b => some (.bool b)
  | .num n => (g n).map .num
  | .str s => (f s).map .str
  | .list ts => (Tree.convertItems f g ts).map .list
  | .dict kvs => (Tree.convertEntries f g kvs).map .dict
/-- `Tree.convert` on the items of a list. -/
def Tree.convertItems (f : S → Option S') (g : N → Option N') :
    List (Tree S N) → Option (List (Tree S' N'))
  | [] => some []
  | t :: ts => (t.convert f g).bind fun t' => (Tree.convertItems f g ts).map (t' :: ·)
/-- `Tree.convert` on the entries of an object. -/
def Tree.convertEntries (f : S → Option S') (g : N → Option N') :
    List (S × Tree S N) → Option (List (S' × Tree S' N'))
  | [] => some []
  | (k, t) :: kvs => (f k).bind fun k' => (t.convert f g).bind fun t' =>
    (Tree.convertEntries f g kvs).map ((k', t') :: ·)
end

mutual
/-- The keys of every object pass the check. -/
def Tree.keysOk (keys : List S → Bool) : Tree S N → Bool
  | .list ts => Tree.keysOkItems keys ts
  | .dict kvs => keys (kvs.map Prod.fst) && Tree.keysOkEntries keys kvs
  | _ => true
/-- `Tree.keysOk` on the items of a list. -/
def Tree.keysOkItems (keys : List S → Bool) : List (Tree S N) → Bool
  | [] => true
  | t :: ts => t.keysOk keys && Tree.keysOkItems keys ts
/-- `Tree.keysOk` on the entries of an object. -/
def Tree.keysOkEntries (keys : List S → Bool) : List (S × Tree S N) → Bool
  | [] => true
  | (_, t) :: kvs => t.keysOk keys && Tree.keysOkEntries keys kvs
end

mutual
/-- The numbers of a document. -/
def Tree.numbers : Tree S N → List N
  | .num n => [n]
  | .list ts => Tree.numbersItems ts
  | .dict kvs => Tree.numbersEntries kvs
  | _ => []
/-- `Tree.numbers` on the items of a list. -/
def Tree.numbersItems : List (Tree S N) → List N
  | [] => []
  | t :: ts => t.numbers ++ Tree.numbersItems ts
/-- `Tree.numbers` on the entries of an object. -/
def Tree.numbersEntries : List (S × Tree S N) → List N
  | [] => []
  | (_, t) :: kvs => t.numbers ++ Tree.numbersEntries kvs
end

mutual
lemma Tree.keysOk_true : ∀ t : Tree S N, t.keysOk (fun _ => true) = true
  | .null | .bool _ | .num _ | .str _ => rfl
  | .list ts => Tree.keysOkItems_true ts
  | .dict kvs => Bool.and_eq_true_iff.mpr ⟨rfl, Tree.keysOkEntries_true kvs⟩
lemma Tree.keysOkItems_true : ∀ ts : List (Tree S N),
    Tree.keysOkItems (fun _ => true) ts = true
  | [] => rfl
  | t :: ts => Bool.and_eq_true_iff.mpr ⟨t.keysOk_true, Tree.keysOkItems_true ts⟩
lemma Tree.keysOkEntries_true : ∀ kvs : List (S × Tree S N),
    Tree.keysOkEntries (fun _ => true) kvs = true
  | [] => rfl
  | (_, t) :: kvs => Bool.and_eq_true_iff.mpr ⟨t.keysOk_true, Tree.keysOkEntries_true kvs⟩
end

lemma Tree.keysOkItems_iff {keys : List S → Bool} {ts : List (Tree S N)} :
    Tree.keysOkItems keys ts = true ↔ ∀ t ∈ ts, t.keysOk keys = true := by
  induction ts with
  | nil => simp [Tree.keysOkItems]
  | cons t ts ih => simp [Tree.keysOkItems, ih]

lemma Tree.keysOkEntries_iff {keys : List S → Bool} {kvs : List (S × Tree S N)} :
    Tree.keysOkEntries keys kvs = true ↔ ∀ e ∈ kvs, e.2.keysOk keys = true := by
  induction kvs with
  | nil => simp [Tree.keysOkEntries]
  | cons e kvs ih => simp [Tree.keysOkEntries, ih]

lemma Tree.mem_numbersItems {n : N} {ts : List (Tree S N)} :
    n ∈ Tree.numbersItems ts ↔ ∃ t ∈ ts, n ∈ t.numbers := by
  induction ts with
  | nil => simp [Tree.numbersItems]
  | cons t ts ih => simp [Tree.numbersItems, ih]

lemma Tree.mem_numbersEntries {n : N} {kvs : List (S × Tree S N)} :
    n ∈ Tree.numbersEntries kvs ↔ ∃ e ∈ kvs, n ∈ e.2.numbers := by
  induction kvs with
  | nil => simp [Tree.numbersEntries]
  | cons e kvs ih => simp [Tree.numbersEntries, ih]

mutual
/-- Two conversions in a row are one. -/
lemma Tree.convert_bind (f : S → Option S') (g : N → Option N') (f' : S' → Option S'')
    (g' : N' → Option N'') : ∀ t : Tree S N, (t.convert f g).bind (·.convert f' g') =
      t.convert (fun s => (f s).bind f') (fun n => (g n).bind g')
  | .null => rfl
  | .bool _ => rfl
  | .num n => by cases h : g n <;> simp [Tree.convert, h]
  | .str s => by cases h : f s <;> simp [Tree.convert, h]
  | .list ts => by
      have ih := Tree.convertItems_bind f g f' g' ts
      rw [Tree.convert, Tree.convert, ← ih]
      cases Tree.convertItems f g ts <;> simp [Tree.convert]
  | .dict kvs => by
      have ih := Tree.convertEntries_bind f g f' g' kvs
      rw [Tree.convert, Tree.convert, ← ih]
      cases Tree.convertEntries f g kvs <;> simp [Tree.convert]
lemma Tree.convertItems_bind (f : S → Option S') (g : N → Option N') (f' : S' → Option S'')
    (g' : N' → Option N'') : ∀ ts : List (Tree S N),
    (Tree.convertItems f g ts).bind (Tree.convertItems f' g') =
      Tree.convertItems (fun s => (f s).bind f') (fun n => (g n).bind g') ts
  | [] => rfl
  | t :: ts => by
      have ih := Tree.convert_bind f g f' g' t
      have ih' := Tree.convertItems_bind f g f' g' ts
      rw [Tree.convertItems, Tree.convertItems, ← ih, ← ih']
      cases t.convert f g with
      | none => rfl
      | some t' =>
          cases Tree.convertItems f g ts with
          | none => cases h : t'.convert f' g' <;> simp [h]
          | some ts' => simp [Tree.convertItems]
lemma Tree.convertEntries_bind (f : S → Option S') (g : N → Option N') (f' : S' → Option S'')
    (g' : N' → Option N'') : ∀ kvs : List (S × Tree S N),
    (Tree.convertEntries f g kvs).bind (Tree.convertEntries f' g') =
      Tree.convertEntries (fun s => (f s).bind f') (fun n => (g n).bind g') kvs
  | [] => rfl
  | (k, t) :: kvs => by
      have ih := Tree.convert_bind f g f' g' t
      have ih' := Tree.convertEntries_bind f g f' g' kvs
      rw [Tree.convertEntries, Tree.convertEntries, ← ih, ← ih']
      cases f k with
      | none => rfl
      | some k' =>
          cases t.convert f g with
          | none => cases h : f' k' <;> simp [h]
          | some t' =>
              cases Tree.convertEntries f g kvs with
              | none => cases h : f' k' <;> cases h' : t'.convert f' g' <;> simp [h, h']
              | some kvs' => simp [Tree.convertEntries]
end

mutual
/-- A conversion of numbers succeeds if it does for each of them. -/
lemma Tree.isSome_convert {g : N → Option N'} : ∀ t : Tree S N,
    (t.convert some g).isSome = t.numbers.all fun n => (g n).isSome
  | .null | .bool _ | .str _ => rfl
  | .num n => by simp [Tree.convert, Tree.numbers]
  | .list ts => by
      have ih := Tree.isSome_convertItems (g := g) ts
      simp [Tree.convert, Tree.numbers, ih]
  | .dict kvs => by
      have ih := Tree.isSome_convertEntries (g := g) kvs
      simp [Tree.convert, Tree.numbers, ih]
lemma Tree.isSome_convertItems {g : N → Option N'} : ∀ ts : List (Tree S N),
    (Tree.convertItems some g ts).isSome =
      (Tree.numbersItems ts).all fun n => (g n).isSome
  | [] => rfl
  | t :: ts => by
      have ih := Tree.isSome_convert (g := g) t
      have ih' := Tree.isSome_convertItems (g := g) ts
      rw [Tree.numbersItems, List.all_append, ← ih, ← ih', Tree.convertItems]
      cases t.convert some g <;> simp
lemma Tree.isSome_convertEntries {g : N → Option N'} : ∀ kvs : List (S × Tree S N),
    (Tree.convertEntries some g kvs).isSome =
      (Tree.numbersEntries kvs).all fun n => (g n).isSome
  | [] => rfl
  | (k, t) :: kvs => by
      have ih := Tree.isSome_convert (g := g) t
      have ih' := Tree.isSome_convertEntries (g := g) kvs
      rw [Tree.numbersEntries, List.all_append, ← ih, ← ih', Tree.convertEntries]
      cases t.convert some g <;> simp
end

mutual
/-- A conversion of numbers leaves a document alone if it leaves each of them alone. -/
lemma Tree.convert_eq_self {g : N → Option N} : ∀ t : Tree S N,
    t.convert some g = some t ↔ ∀ n ∈ t.numbers, g n = some n
  | .null | .bool _ | .str _ => by simp [Tree.convert, Tree.numbers]
  | .num n => by simp [Tree.convert, Tree.numbers]
  | .list ts => by
      have ih := Tree.convertItems_eq_self (g := g) ts
      simp [Tree.convert, Tree.numbers, ih]
  | .dict kvs => by
      have ih := Tree.convertEntries_eq_self (g := g) kvs
      simp [Tree.convert, Tree.numbers, ih]
lemma Tree.convertItems_eq_self {g : N → Option N} : ∀ ts : List (Tree S N),
    Tree.convertItems some g ts = some ts ↔ ∀ n ∈ Tree.numbersItems ts, g n = some n
  | [] => by simp [Tree.convertItems, Tree.numbersItems]
  | t :: ts => by
      have ih := Tree.convert_eq_self (g := g) t
      have ih' := Tree.convertItems_eq_self (g := g) ts
      simp only [Tree.numbersItems, List.forall_mem_append, ← ih, ← ih', Tree.convertItems]
      simp [Option.bind_eq_some_iff]
lemma Tree.convertEntries_eq_self {g : N → Option N} : ∀ kvs : List (S × Tree S N),
    Tree.convertEntries some g kvs = some kvs ↔ ∀ n ∈ Tree.numbersEntries kvs, g n = some n
  | [] => by simp [Tree.convertEntries, Tree.numbersEntries]
  | (k, t) :: kvs => by
      have ih := Tree.convert_eq_self (g := g) t
      have ih' := Tree.convertEntries_eq_self (g := g) kvs
      simp only [Tree.numbersEntries, List.forall_mem_append, ← ih, ← ih', Tree.convertEntries]
      simp [Option.bind_eq_some_iff]
end

mutual
/-- The numbers of a converted document. -/
lemma Tree.numbers_convert {f : S → Option S'} {g : N → Option N'} :
    ∀ (t : Tree S N) (t' : Tree S' N'), t.convert f g = some t' →
      t.numbers.map g = t'.numbers.map some
  | .null, t', h | .bool _, t', h => by
      obtain rfl := Option.some.inj h
      rfl
  | .num n, t', h => by
      obtain ⟨n', hn, rfl⟩ := Option.map_eq_some_iff.mp h
      simp [Tree.numbers, hn]
  | .str s, t', h => by
      obtain ⟨s', -, rfl⟩ := Option.map_eq_some_iff.mp h
      rfl
  | .list ts, t', h => by
      obtain ⟨ts', hts, rfl⟩ := Option.map_eq_some_iff.mp h
      exact Tree.numbersItems_convert ts ts' hts
  | .dict kvs, t', h => by
      obtain ⟨kvs', hkvs, rfl⟩ := Option.map_eq_some_iff.mp h
      exact Tree.numbersEntries_convert kvs kvs' hkvs
lemma Tree.numbersItems_convert {f : S → Option S'} {g : N → Option N'} :
    ∀ (ts : List (Tree S N)) (ts' : List (Tree S' N')), Tree.convertItems f g ts = some ts' →
      (Tree.numbersItems ts).map g = (Tree.numbersItems ts').map some
  | [], ts', h => by
      obtain rfl := Option.some.inj h
      rfl
  | t :: ts, ts', h => by
      simp only [Tree.convertItems, Option.bind_eq_some_iff, Option.map_eq_some_iff] at h
      obtain ⟨t', ht, rest, hrest, rfl⟩ := h
      rw [Tree.numbersItems, Tree.numbersItems, List.map_append, List.map_append,
        Tree.numbers_convert t t' ht, Tree.numbersItems_convert ts rest hrest]
lemma Tree.numbersEntries_convert {f : S → Option S'} {g : N → Option N'} :
    ∀ (kvs : List (S × Tree S N)) (kvs' : List (S' × Tree S' N')),
      Tree.convertEntries f g kvs = some kvs' →
      (Tree.numbersEntries kvs).map g = (Tree.numbersEntries kvs').map some
  | [], kvs', h => by
      obtain rfl := Option.some.inj h
      rfl
  | (k, t) :: kvs, kvs', h => by
      simp only [Tree.convertEntries, Option.bind_eq_some_iff, Option.map_eq_some_iff] at h
      obtain ⟨_, -, t', ht, rest, hrest, rfl⟩ := h
      rw [Tree.numbersEntries, Tree.numbersEntries, List.map_append, List.map_append,
        Tree.numbers_convert t t' ht, Tree.numbersEntries_convert kvs rest hrest]
end

/-- A number is converted to one of the converted document. -/
lemma Tree.exists_of_mem_numbers {f : S → Option S'} {g : N → Option N'} {t : Tree S N}
    {t' : Tree S' N'} (h : t.convert f g = some t') {n : N} (hn : n ∈ t.numbers) :
    ∃ n' ∈ t'.numbers, g n = some n' := by
  have hmem : g n ∈ t'.numbers.map some := by
    rw [← Tree.numbers_convert t t' h]
    exact List.mem_map_of_mem hn
  obtain ⟨n', hn', heq⟩ := List.mem_map.mp hmem
  exact ⟨n', hn', heq.symm⟩

/-- A number of a converted document was converted from one. -/
lemma Tree.exists_of_mem_numbers_convert {f : S → Option S'} {g : N → Option N'} {t : Tree S N}
    {t' : Tree S' N'} (h : t.convert f g = some t') {n' : N'} (hn' : n' ∈ t'.numbers) :
    ∃ n ∈ t.numbers, g n = some n' := by
  have hmem : some n' ∈ t.numbers.map g := by
    rw [Tree.numbers_convert t t' h]
    exact List.mem_map_of_mem hn'
  exact List.mem_map.mp hmem

lemma Tree.keys_convertEntries {f : S → Option S'} {g : N → Option N'}
    {kvs : List (S × Tree S N)} {kvs' : List (S' × Tree S' N')}
    (h : Tree.convertEntries f g kvs = some kvs') :
    (kvs.map Prod.fst).mapM f = some (kvs'.map Prod.fst) := by
  induction kvs generalizing kvs' with
  | nil =>
      obtain rfl := Option.some.inj h
      rfl
  | cons e kvs ih =>
      obtain ⟨k, t⟩ := e
      simp only [Tree.convertEntries, Option.bind_eq_some_iff, Option.map_eq_some_iff] at h
      obtain ⟨k', hk, t', -, rest, hrest, rfl⟩ := h
      simp [hk, ih hrest]

/-- Keys pass the one check if what they become passes the other. -/
def KeepsKeys (f : S → Option S') (keys : List S → Bool) (keys' : List S' → Bool) : Prop :=
  ∀ ks ks', ks.mapM f = some ks' → keys' ks' = keys ks

mutual
/-- A conversion that keeps a check of keys keeps it for whole documents. -/
lemma Tree.keysOk_convert {f : S → Option S'} {g : N → Option N'} {keys : List S → Bool}
    {keys' : List S' → Bool} (hkeys : KeepsKeys f keys keys') :
    ∀ (t : Tree S N) (t' : Tree S' N'), t.convert f g = some t' → t'.keysOk keys' = t.keysOk keys
  | .null, t', h | .bool _, t', h => by
      obtain rfl := Option.some.inj h
      rfl
  | .str _, t', h | .num _, t', h => by
      obtain ⟨_, -, rfl⟩ := Option.map_eq_some_iff.mp h
      rfl
  | .list ts, t', h => by
      obtain ⟨ts', hts, rfl⟩ := Option.map_eq_some_iff.mp h
      exact Tree.keysOkItems_convert hkeys ts ts' hts
  | .dict kvs, t', h => by
      obtain ⟨kvs', hkvs, rfl⟩ := Option.map_eq_some_iff.mp h
      rw [Tree.keysOk, Tree.keysOk, hkeys _ _ (Tree.keys_convertEntries hkvs),
        Tree.keysOkEntries_convert hkeys kvs kvs' hkvs]
lemma Tree.keysOkItems_convert {f : S → Option S'} {g : N → Option N'} {keys : List S → Bool}
    {keys' : List S' → Bool} (hkeys : KeepsKeys f keys keys') :
    ∀ (ts : List (Tree S N)) (ts' : List (Tree S' N')),
    Tree.convertItems f g ts = some ts' → Tree.keysOkItems keys' ts' = Tree.keysOkItems keys ts
  | [], ts', h => by
      obtain rfl := Option.some.inj h
      rfl
  | t :: ts, ts', h => by
      simp only [Tree.convertItems, Option.bind_eq_some_iff, Option.map_eq_some_iff] at h
      obtain ⟨t', ht, rest, hrest, rfl⟩ := h
      rw [Tree.keysOkItems, Tree.keysOkItems, Tree.keysOk_convert hkeys t t' ht,
        Tree.keysOkItems_convert hkeys ts rest hrest]
lemma Tree.keysOkEntries_convert {f : S → Option S'} {g : N → Option N'}
    {keys : List S → Bool} {keys' : List S' → Bool} (hkeys : KeepsKeys f keys keys') :
    ∀ (kvs : List (S × Tree S N)) (kvs' : List (S' × Tree S' N')), Tree.convertEntries f g kvs = some kvs' →
    Tree.keysOkEntries keys' kvs' = Tree.keysOkEntries keys kvs
  | [], kvs', h => by
      obtain rfl := Option.some.inj h
      rfl
  | (k, t) :: kvs, kvs', h => by
      simp only [Tree.convertEntries, Option.bind_eq_some_iff, Option.map_eq_some_iff] at h
      obtain ⟨_, -, t', ht, rest, hrest, rfl⟩ := h
      rw [Tree.keysOkEntries, Tree.keysOkEntries, Tree.keysOk_convert hkeys t t' ht,
        Tree.keysOkEntries_convert hkeys kvs rest hrest]
end

/-- A conversion of numbers leaves the keys alone. -/
lemma Tree.keysOk_of_convert {g : N → Option N'} {keys : List S → Bool} {t : Tree S N}
    {t' : Tree S N'} (h : t.convert some g = some t') : t'.keysOk keys = t.keysOk keys := by
  refine Tree.keysOk_convert (fun ks ks' hks => ?_) t t' h
  have hself : ks.mapM some = some ks := by
    clear hks
    induction ks with
    | nil => rfl
    | cons k ks ih => simp [ih]
  rw [Option.some.inj (hself.symm.trans hks)]

/-! ## Readers -/

/-- The reader that converts what this one reads, and checks the keys. -/
def Reader.through (r : Reader S N) (f : S → Option S') (g : N → Option N')
    (keys : List S' → Bool) : Reader S' N' where
  string cs := (r.string cs).bind fun p => (f p.1).map (·, p.2)
  number token := (r.number token).bind g
  keys := keys
  number_nil := by rw [r.number_nil, Option.bind_none]
  string_local := by
    intro cs s' rest h
    obtain ⟨⟨s, rest'⟩, hs, hpair⟩ := Option.bind_eq_some_iff.mp h
    obtain ⟨t, ht, hpair⟩ := Option.map_eq_some_iff.mp hpair
    obtain ⟨rfl, rfl⟩ := Prod.mk.inj hpair
    obtain ⟨used, hne, hcs, hlocal⟩ := r.string_local hs
    refine ⟨used, hne, hcs, fun more => ?_⟩
    rw [hlocal more, Option.bind_some, ht, Option.map_some]

/-- The part with its strings and numbers replaced. -/
def Part.convert (f : S → Option S') (g : N → Option N') : Part S N → Option (Part S' N')
  | .value t => (t.convert f g).map .value
  | .items ts => (Tree.convertItems f g ts).map .items
  | .entry e => (f e.1).bind fun k => (e.2.convert f g).map fun t => .entry (k, t)
  | .entries kvs => (Tree.convertEntries f g kvs).map .entries

/-- The keys of every object of the part pass the check. -/
def Part.keysOk (keys : List S → Bool) : Part S N → Bool
  | .value t => t.keysOk keys
  | .items ts => Tree.keysOkItems keys ts
  | .entry e => e.2.keysOk keys
  | .entries kvs => Tree.keysOkEntries keys kvs

variable {r : Reader S N} {f : S → Option S'} {g : N → Option N'} {keys : List S' → Bool}

lemma Part.convert_eq_value {p : Part S N} {t' : Tree S' N'} :
    p.convert f g = some (.value t') ↔ ∃ t, p = .value t ∧ t.convert f g = some t' := by
  cases p <;> simp [Part.convert, Option.bind_eq_some_iff]

lemma Part.convert_eq_items {p : Part S N} {ts' : List (Tree S' N')} :
    p.convert f g = some (.items ts') ↔
      ∃ ts, p = .items ts ∧ Tree.convertItems f g ts = some ts' := by
  cases p <;> simp [Part.convert, Option.bind_eq_some_iff]

lemma Part.convert_eq_entry {p : Part S N} {k' : S'} {t' : Tree S' N'} :
    p.convert f g = some (.entry (k', t')) ↔
      ∃ k t, p = .entry (k, t) ∧ f k = some k' ∧ t.convert f g = some t' := by
  cases p with
  | entry e =>
      obtain ⟨k, t⟩ := e
      simp only [Part.convert, Option.bind_eq_some_iff, Option.map_eq_some_iff, Part.entry.injEq,
        Prod.mk.injEq]
      constructor
      · rintro ⟨l, hl, u, hu, rfl, rfl⟩
        exact ⟨k, t, ⟨rfl, rfl⟩, hl, hu⟩
      · rintro ⟨l, u, ⟨rfl, rfl⟩, hl, hu⟩
        exact ⟨k', hl, t', hu, rfl, rfl⟩
  | _ => simp [Part.convert]

lemma Part.convert_eq_entries {p : Part S N} {kvs' : List (S' × Tree S' N')} :
    p.convert f g = some (.entries kvs') ↔
      ∃ kvs, p = .entries kvs ∧ Tree.convertEntries f g kvs = some kvs' := by
  cases p <;> simp [Part.convert, Option.bind_eq_some_iff]

/-- What is read through a conversion was read before it. -/
lemma Reads.before {cs rest : List Char} {p' : Part S' N'}
    (h : Reads (r.through f g keys) cs p' rest) (hall : ∀ ks, r.keys ks = true) :
    ∃ p, Reads r cs p rest ∧ p.convert f g = some p' ∧ p'.keysOk keys = true := by
  induction h with
  | null h => exact ⟨_, .null h, rfl, rfl⟩
  | boolTrue h => exact ⟨_, .boolTrue h, rfl, rfl⟩
  | boolFalse h => exact ⟨_, .boolFalse h, rfl, rfl⟩
  | string h hs =>
      obtain ⟨⟨s, rest'⟩, hread, hpair⟩ := Option.bind_eq_some_iff.mp hs
      obtain ⟨t, ht, hpair⟩ := Option.map_eq_some_iff.mp hpair
      obtain ⟨rfl, rfl⟩ := Prod.mk.inj hpair
      refine ⟨_, .string h hread, ?_, rfl⟩
      simp only [Part.convert, Tree.convert, ht, Option.map_some]
  | number h hne ht hrest hn =>
      obtain ⟨n, hread, hg⟩ := Option.bind_eq_some_iff.mp hn
      refine ⟨_, .number h hne ht hrest hread, ?_, rfl⟩
      simp only [Part.convert, Tree.convert, hg, Option.map_some]
  | emptyList h hend => exact ⟨_, .emptyList h hend, rfl, rfl⟩
  | list h _ _ ih ih' =>
      obtain ⟨p, hp, hconvert, hkeys⟩ := ih
      obtain ⟨q, hq, hconvert', hkeys'⟩ := ih'
      obtain ⟨t, rfl, ht⟩ := Part.convert_eq_value.mp hconvert
      obtain ⟨ts, rfl, hts⟩ := Part.convert_eq_items.mp hconvert'
      refine ⟨_, .list h hp hq, ?_, Bool.and_eq_true_iff.mpr ⟨hkeys, hkeys'⟩⟩
      simp [Part.convert, Tree.convert, Tree.convertItems, ht, hts]
  | emptyDict h hend hkeys =>
      exact ⟨_, .emptyDict h hend (hall _), rfl, Bool.and_eq_true_iff.mpr ⟨hkeys, rfl⟩⟩
  | dict h _ _ hobject ih ih' =>
      rename_i e' kvs' _ _
      obtain ⟨p, hp, hconvert, hkeys⟩ := ih
      obtain ⟨q, hq, hconvert', hkeys'⟩ := ih'
      obtain ⟨k', t'⟩ := e'
      obtain ⟨k, t, rfl, hk, ht⟩ := Part.convert_eq_entry.mp hconvert
      obtain ⟨kvs, rfl, hkvs⟩ := Part.convert_eq_entries.mp hconvert'
      refine ⟨_, .dict h hp hq (hall _), ?_, Bool.and_eq_true_iff.mpr
        ⟨hobject, Bool.and_eq_true_iff.mpr ⟨hkeys, hkeys'⟩⟩⟩
      simp [Part.convert, Tree.convert, Tree.convertEntries, hk, ht, hkvs]
  | lastItem h => exact ⟨_, .lastItem h, rfl, rfl⟩
  | item h _ _ ih ih' =>
      obtain ⟨p, hp, hconvert, hkeys⟩ := ih
      obtain ⟨q, hq, hconvert', hkeys'⟩ := ih'
      obtain ⟨t, rfl, ht⟩ := Part.convert_eq_value.mp hconvert
      obtain ⟨ts, rfl, hts⟩ := Part.convert_eq_items.mp hconvert'
      refine ⟨_, .item h hp hq, ?_, Bool.and_eq_true_iff.mpr ⟨hkeys, hkeys'⟩⟩
      simp [Part.convert, Tree.convertItems, ht, hts]
  | entry h hk hcolon _ ih =>
      obtain ⟨⟨k, next⟩, hread, hpair⟩ := Option.bind_eq_some_iff.mp hk
      obtain ⟨k', hk', hpair⟩ := Option.map_eq_some_iff.mp hpair
      obtain ⟨rfl, rfl⟩ := Prod.mk.inj hpair
      obtain ⟨p, hp, hconvert, hkeys⟩ := ih
      obtain ⟨t, rfl, ht⟩ := Part.convert_eq_value.mp hconvert
      refine ⟨_, .entry h hread hcolon hp, ?_, hkeys⟩
      simp [Part.convert, hk', ht]
  | lastEntry h => exact ⟨_, .lastEntry h, rfl, rfl⟩
  | moreEntries h _ _ ih ih' =>
      rename_i e' kvs' _ _
      obtain ⟨p, hp, hconvert, hkeys⟩ := ih
      obtain ⟨q, hq, hconvert', hkeys'⟩ := ih'
      obtain ⟨k', t'⟩ := e'
      obtain ⟨k, t, rfl, hk, ht⟩ := Part.convert_eq_entry.mp hconvert
      obtain ⟨kvs, rfl, hkvs⟩ := Part.convert_eq_entries.mp hconvert'
      refine ⟨_, .moreEntries h hp hq, ?_, Bool.and_eq_true_iff.mpr ⟨hkeys, hkeys'⟩⟩
      simp [Part.convert, Tree.convertEntries, hk, ht, hkvs]

/-- What is read is read through a conversion that takes it. -/
lemma Reads.after {cs rest : List Char} {p : Part S N} (h : Reads r cs p rest)
    {p' : Part S' N'} (hconvert : p.convert f g = some p') (hkeys : p'.keysOk keys = true) :
    Reads (r.through f g keys) cs p' rest := by
  induction h generalizing p' with
  | null h =>
      obtain rfl := Option.some.inj hconvert
      exact .null h
  | boolTrue h =>
      obtain rfl := Option.some.inj hconvert
      exact .boolTrue h
  | boolFalse h =>
      obtain rfl := Option.some.inj hconvert
      exact .boolFalse h
  | string h hs =>
      simp only [Part.convert, Tree.convert, Option.map_eq_some_iff] at hconvert
      obtain ⟨_, ⟨s', hs', rfl⟩, rfl⟩ := hconvert
      refine .string h ?_
      simp only [Reader.through, hs, Option.bind_some, hs', Option.map_some]
  | number h hne ht hrest hn =>
      simp only [Part.convert, Tree.convert, Option.map_eq_some_iff] at hconvert
      obtain ⟨_, ⟨n', hn', rfl⟩, rfl⟩ := hconvert
      refine .number h hne ht hrest ?_
      simp only [Reader.through, hn, Option.bind_some, hn']
  | emptyList h hend =>
      obtain rfl := Option.some.inj hconvert
      exact .emptyList h hend
  | list h _ _ ih ih' =>
      simp only [Part.convert, Tree.convert, Tree.convertItems, Option.map_eq_some_iff,
        Option.bind_eq_some_iff] at hconvert
      obtain ⟨_, ⟨_, ⟨t', ht, ts', hts, rfl⟩, rfl⟩, rfl⟩ := hconvert
      obtain ⟨hkeys, hkeys'⟩ := Bool.and_eq_true_iff.mp hkeys
      exact .list h (ih (congrArg (Option.map Part.value) ht) hkeys)
        (ih' (congrArg (Option.map Part.items) hts) hkeys')
  | emptyDict h hend =>
      obtain rfl := Option.some.inj hconvert
      exact .emptyDict h hend (Bool.and_eq_true_iff.mp hkeys).1
  | dict h _ _ _ ih ih' =>
      rename_i e kvs _ _ _
      obtain ⟨k, t⟩ := e
      simp only [Part.convert, Tree.convert, Tree.convertEntries, Option.map_eq_some_iff,
        Option.bind_eq_some_iff] at hconvert
      obtain ⟨_, ⟨_, ⟨k', hk, t', ht, kvs', hkvs, rfl⟩, rfl⟩, rfl⟩ := hconvert
      obtain ⟨hobject, hall⟩ := Bool.and_eq_true_iff.mp hkeys
      obtain ⟨hkeys, hkeys'⟩ := Bool.and_eq_true_iff.mp hall
      refine .dict h (ih ?_ hkeys) (ih' (congrArg (Option.map Part.entries) hkvs) hkeys') hobject
      simp only [Part.convert, hk, ht, Option.bind_some, Option.map_some]
  | lastItem h =>
      obtain rfl := Option.some.inj hconvert
      exact .lastItem h
  | item h _ _ ih ih' =>
      simp only [Part.convert, Tree.convertItems, Option.map_eq_some_iff,
        Option.bind_eq_some_iff] at hconvert
      obtain ⟨_, ⟨t', ht, ts', hts, rfl⟩, rfl⟩ := hconvert
      obtain ⟨hkeys, hkeys'⟩ := Bool.and_eq_true_iff.mp hkeys
      exact .item h (ih (congrArg (Option.map Part.value) ht) hkeys)
        (ih' (congrArg (Option.map Part.items) hts) hkeys')
  | entry h hk hcolon _ ih =>
      simp only [Part.convert, Option.map_eq_some_iff, Option.bind_eq_some_iff] at hconvert
      obtain ⟨k', hk', t', ht, rfl⟩ := hconvert
      refine .entry h ?_ hcolon (ih (congrArg (Option.map Part.value) ht) hkeys)
      simp only [Reader.through, hk, Option.bind_some, hk', Option.map_some]
  | lastEntry h =>
      obtain rfl := Option.some.inj hconvert
      exact .lastEntry h
  | moreEntries h _ _ ih ih' =>
      rename_i e kvs _ _
      obtain ⟨k, t⟩ := e
      simp only [Part.convert, Tree.convertEntries, Option.map_eq_some_iff,
        Option.bind_eq_some_iff] at hconvert
      obtain ⟨_, ⟨k', hk, t', ht, kvs', hkvs, rfl⟩, rfl⟩ := hconvert
      obtain ⟨hkeys, hkeys'⟩ := Bool.and_eq_true_iff.mp hkeys
      refine .moreEntries h (ih ?_ hkeys) (ih' (congrArg (Option.map Part.entries) hkvs) hkeys')
      simp only [Part.convert, hk, ht, Option.bind_some, Option.map_some]

/-- Reading through a conversion is reading, then converting, then checking the keys. -/
theorem Reader.read_through (hall : ∀ ks, r.keys ks = true) (cs : List Char) :
    (r.through f g keys).read cs =
      ((r.read cs).bind (·.convert f g)).filter (·.keysOk keys) := by
  ext t'
  rw [Reader.read_eq_some, Option.filter_eq_some_iff, Option.bind_eq_some_iff]
  constructor
  · rintro ⟨rest, hreads, hend⟩
    obtain ⟨p, hp, hconvert, hkeys⟩ := hreads.before hall
    obtain ⟨t, rfl, ht⟩ := Part.convert_eq_value.mp hconvert
    exact ⟨⟨t, Reader.read_eq_some.mpr ⟨rest, hp, hend⟩, ht⟩, hkeys⟩
  · rintro ⟨⟨t, hread, ht⟩, hkeys⟩
    obtain ⟨rest, hp, hend⟩ := Reader.read_eq_some.mp hread
    exact ⟨rest, hp.after (congrArg (Option.map Part.value) ht) hkeys, hend⟩

end CivicGate
