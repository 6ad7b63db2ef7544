import CivicGate.Framework.Json.Conversion

/-!
# Printing JSON documents

A writer prints strings and numbers so that its reader reads them back, and so does `Tree.print`
for whole documents (`Writer.read_print`): documents whose keys the reader takes are determined
by their text (`Writer.print_injective`).

`Tree.sort` puts the keys of every object in order, a later entry for a key overriding an earlier
one.
-/

namespace CivicGate

variable {S N N' : Type} {r : Reader S N}

/-! ## Printing -/

/-- How strings and numbers are printed for a reader to read them back. -/
structure Writer (r : Reader S N) where
  /-- A string after its opening quote, the closing quote included. -/
  string : S → List Char
  number : N → List Char
  string_read : ∀ s rest, r.string (string s ++ rest) = some (s, rest)
  number_ne_nil : ∀ n, number n ≠ []
  number_chars : ∀ n, ∀ c ∈ number n, isNumberChar c = true
  number_read : ∀ n, r.number (number n) = some n

mutual
/-- The text of a document, its objects as they stand. -/
def Tree.print (w : Writer r) : Tree S N → List Char
  | .null => ['n', 'u', 'l', 'l']
  | .bool true => ['t', 'r', 'u', 'e']
  | .bool false => ['f', 'a', 'l', 's', 'e']
  | .num n => w.number n
  | .str s => '"' :: w.string s
  | .list [] => ['[', ']']
  | .list (t :: ts) => '[' :: (t.print w ++ Tree.printItems w ts)
  | .dict [] => ['\x7b', '\x7d']
  | .dict ((k, t) :: kvs) =>
    '\x7b' :: '"' :: (w.string k ++ ':' :: (t.print w ++ Tree.printEntries w kvs))
/-- The rest of a list after an item. -/
def Tree.printItems (w : Writer r) : List (Tree S N) → List Char
  | [] => [']']
  | t :: ts => ',' :: (t.print w ++ Tree.printItems w ts)
/-- The rest of an object after an entry. -/
def Tree.printEntries (w : Writer r) : List (S × Tree S N) → List Char
  | [] => ['\x7d']
  | (k, t) :: kvs => ',' :: '"' :: (w.string k ++ ':' :: (t.print w ++ Tree.printEntries w kvs))
end

variable {w : Writer r}

lemma Tree.printItems_head (ts : List (Tree S N)) (rest : List Char) :
    NoNumberHead (Tree.printItems w ts ++ rest) := by
  cases ts <;> exact noNumberHead_cons (by decide)

lemma Tree.printEntries_head (kvs : List (S × Tree S N)) (rest : List Char) :
    NoNumberHead (Tree.printEntries w kvs ++ rest) := by
  rcases kvs with _ | ⟨⟨k, t⟩, kvs⟩ <;> exact noNumberHead_cons (by decide)

/-- A number starts with no blank. -/
lemma Writer.skipBlanks_number (w : Writer r) (n : N) (rest : List Char) :
    skipBlanks (w.number n ++ rest) = w.number n ++ rest := by
  obtain ⟨c, cs, hcs⟩ := List.exists_cons_of_ne_nil (w.number_ne_nil n)
  have hc := w.number_chars n c (hcs ▸ List.mem_cons_self ..)
  rw [hcs, List.cons_append, skipBlanks, if_neg]
  rintro (rfl | rfl | rfl | rfl) <;> exact absurd hc (by decide)

lemma skipBlanks_cons {c : Char} (hc : ¬(c = ' ' ∨ c = '\n' ∨ c = '\r' ∨ c = '\t'))
    (cs : List Char) : skipBlanks (c :: cs) = c :: cs := by
  rw [skipBlanks, if_neg hc]

mutual
/-- A printed document is read back, whatever ends it. -/
lemma Writer.reads_print (w : Writer r) : ∀ (t : Tree S N) (rest : List Char),
    t.keysOk r.keys = true → NoNumberHead rest → Reads r (t.print w ++ rest) (.value t) rest
  | .null, rest, _, _ => .null (by rw [Tree.print]; exact skipBlanks_cons (by decide) _)
  | .bool true, rest, _, _ => .boolTrue (by rw [Tree.print]; exact skipBlanks_cons (by decide) _)
  | .bool false, rest, _, _ =>
      .boolFalse (by rw [Tree.print]; exact skipBlanks_cons (by decide) _)
  | .num n, rest, _, hrest => by
      rw [Tree.print]
      exact .number (w.skipBlanks_number n rest) (w.number_ne_nil n) (w.number_chars n) hrest
        (w.number_read n)
  | .str s, rest, _, _ => by
      rw [Tree.print]
      exact .string (skipBlanks_cons (by decide) _) (w.string_read s rest)
  | .list [], rest, _, _ => by
      rw [Tree.print]
      exact .emptyList (skipBlanks_cons (by decide) _) (skipBlanks_cons (by decide) _)
  | .list (t :: ts), rest, hkeys, _ => by
      obtain ⟨ht, hts⟩ := Bool.and_eq_true_iff.mp hkeys
      rw [Tree.print, List.cons_append, List.append_assoc]
      exact .list (skipBlanks_cons (by decide) _)
        (w.reads_print t _ ht (Tree.printItems_head ts rest)) (w.readsItems_print ts rest hts)
  | .dict [], rest, hkeys, _ => by
      rw [Tree.print]
      exact .emptyDict (skipBlanks_cons (by decide) _) (skipBlanks_cons (by decide) _)
        (Bool.and_eq_true_iff.mp hkeys).1
  | .dict ((k, t) :: kvs), rest, hkeys, _ => by
      obtain ⟨hobject, hall⟩ := Bool.and_eq_true_iff.mp hkeys
      obtain ⟨ht, hkvs⟩ := Bool.and_eq_true_iff.mp hall
      rw [Tree.print]
      simp only [List.cons_append, List.append_assoc]
      refine .dict (skipBlanks_cons (by decide) _) (.entry (skipBlanks_cons (by decide) _)
        (w.string_read k _) (skipBlanks_cons (by decide) _) (w.reads_print t _ ht
          (Tree.printEntries_head kvs rest))) (w.readsEntries_print kvs rest hkvs) hobject
/-- The rest of a printed list is read back. -/
lemma Writer.readsItems_print (w : Writer r) : ∀ (ts : List (Tree S N)) (rest : List Char),
    Tree.keysOkItems r.keys ts = true →
    Reads r (Tree.printItems w ts ++ rest) (.items ts) rest
  | [], rest, _ => .lastItem (by rw [Tree.printItems]; exact skipBlanks_cons (by decide) _)
  | t :: ts, rest, hkeys => by
      obtain ⟨ht, hts⟩ := Bool.and_eq_true_iff.mp hkeys
      rw [Tree.printItems, List.cons_append, List.append_assoc]
      exact .item (skipBlanks_cons (by decide) _)
        (w.reads_print t _ ht (Tree.printItems_head ts rest)) (w.readsItems_print ts rest hts)
/-- The rest of a printed object is read back. -/
lemma Writer.readsEntries_print (w : Writer r) : ∀ (kvs : List (S × Tree S N))
    (rest : List Char), Tree.keysOkEntries r.keys kvs = true →
    Reads r (Tree.printEntries w kvs ++ rest) (.entries kvs) rest
  | [], rest, _ => .lastEntry (by rw [Tree.printEntries]; exact skipBlanks_cons (by decide) _)
  | (k, t) :: kvs, rest, hkeys => by
      obtain ⟨ht, hkvs⟩ := Bool.and_eq_true_iff.mp hkeys
      rw [Tree.printEntries]
      simp only [List.cons_append, List.append_assoc]
      exact .moreEntries (skipBlanks_cons (by decide) _) (.entry (skipBlanks_cons (by decide) _)
        (w.string_read k _) (skipBlanks_cons (by decide) _) (w.reads_print t _ ht
          (Tree.printEntries_head kvs rest))) (w.readsEntries_print kvs rest hkvs)
end

/-- A printed document is read back. -/
theorem Writer.read_print (w : Writer r) {t : Tree S N} (h : t.keysOk r.keys = true) :
    r.read (t.print w) = some t := by
  have hreads := w.reads_print t [] h noNumberHead_nil
  rw [List.append_nil] at hreads
  exact Reader.read_eq_some.mpr ⟨[], hreads, rfl⟩

/-- Documents are determined by their text. -/
lemma Writer.print_injective (w : Writer r) {t t' : Tree S N} (h : t.keysOk r.keys = true)
    (h' : t'.keysOk r.keys = true) (heq : t.print w = t'.print w) : t = t' := by
  have hread := w.read_print h
  rw [heq, w.read_print h'] at hread
  exact (Option.some.inj hread).symm

/-! ## Order -/

/-- Insert an entry into an object in order that may already hold a later entry for the key. -/
def insertByKey {α : Type} (k : String) (a : α) : List (String × α) → List (String × α)
  | [] => [(k, a)]
  | (l, b) :: rest =>
    if k < l then (k, a) :: (l, b) :: rest
    else if k = l then (l, b) :: rest
    else (l, b) :: insertByKey k a rest

mutual
/-- The document with the keys of every object in order. -/
def Tree.sort : Tree String N → Tree String N
  | .list ts => .list (Tree.sortItems ts)
  | .dict kvs => .dict (Tree.sortEntries kvs)
  | t => t
/-- `Tree.sort` on the items of a list. -/
def Tree.sortItems : List (Tree String N) → List (Tree String N)
  | [] => []
  | t :: ts => t.sort :: Tree.sortItems ts
/-- `Tree.sort` on the entries of an object. -/
def Tree.sortEntries : List (String × Tree String N) → List (String × Tree String N)
  | [] => []
  | (k, t) :: kvs => insertByKey k t.sort (Tree.sortEntries kvs)
end

/-- The keys are in order. -/
def inOrder (ks : List String) : Bool := ks.Pairwise (· < ·)

/-- No key is there twice. -/
def distinct {α : Type} [DecidableEq α] (ks : List α) : Bool := ks.Nodup

lemma inOrder_iff {ks : List String} : inOrder ks = true ↔ ks.Pairwise (· < ·) :=
  decide_eq_true_iff

lemma distinct_iff {α : Type} [DecidableEq α] {ks : List α} : distinct ks = true ↔ ks.Nodup :=
  decide_eq_true_iff

lemma distinct_of_inOrder {ks : List String} (h : inOrder ks = true) : distinct ks = true :=
  distinct_iff.mpr ((inOrder_iff.mp h).imp fun hlt => ne_of_lt hlt)

section

variable {α : Type} {k : String} {a : α} {kvs : List (String × α)}

lemma mem_keys_insertByKey {l : String} :
    l ∈ (insertByKey k a kvs).map Prod.fst ↔ l = k ∨ l ∈ kvs.map Prod.fst := by
  induction kvs with
  | nil => simp [insertByKey]
  | cons e kvs ih =>
      obtain ⟨m, b⟩ := e
      rw [insertByKey]
      split
      · simp
      · split
        · rename_i heq
          subst heq
          simp
        · simp only [List.map_cons, List.mem_cons, ih]
          tauto

lemma inOrder_insertByKey (h : inOrder (kvs.map Prod.fst) = true) :
    inOrder ((insertByKey k a kvs).map Prod.fst) = true := by
  rw [inOrder_iff] at h ⊢
  induction kvs with
  | nil => simp [insertByKey]
  | cons e kvs ih =>
      obtain ⟨m, b⟩ := e
      rw [List.map_cons, List.pairwise_cons] at h
      rw [insertByKey]
      split
      · rename_i hlt
        refine List.pairwise_cons.mpr ⟨fun l hl => ?_, List.pairwise_cons.mpr h⟩
        rcases List.mem_cons.mp hl with rfl | hl
        · exact hlt
        · exact hlt.trans (h.1 l hl)
      · split
        · exact List.pairwise_cons.mpr h
        · rename_i hle hne
          refine List.pairwise_cons.mpr ⟨fun l hl => ?_, ih h.2⟩
          rcases mem_keys_insertByKey.mp hl with rfl | hl
          · exact lt_of_le_of_ne (not_lt.mp hle) (Ne.symm hne)
          · exact h.1 l hl

lemma mem_insertByKey {e : String × α} (h : e ∈ insertByKey k a kvs) : e = (k, a) ∨ e ∈ kvs := by
  induction kvs with
  | nil => exact Or.inl (List.mem_singleton.mp h)
  | cons f kvs ih =>
      obtain ⟨m, b⟩ := f
      rw [insertByKey] at h
      split at h
      · exact List.mem_cons.mp h
      · split at h
        · exact Or.inr h
        · rcases List.mem_cons.mp h with rfl | h
          · exact Or.inr (List.mem_cons_self ..)
          · exact (ih h).imp_right (List.mem_cons_of_mem _)

/-- A new key at the front of objects in order stays there. -/
lemma insertByKey_of_lt (h : ∀ l ∈ kvs.map Prod.fst, k < l) :
    insertByKey k a kvs = (k, a) :: kvs := by
  cases kvs with
  | nil => rfl
  | cons e kvs =>
      obtain ⟨m, b⟩ := e
      rw [insertByKey, if_pos (h m (List.mem_cons_self ..))]

/-- A new key only adds its entry. -/
lemma insertByKey_perm (h : k ∉ kvs.map Prod.fst) :
    (insertByKey k a kvs).Perm ((k, a) :: kvs) := by
  induction kvs with
  | nil => exact .refl _
  | cons e kvs ih =>
      obtain ⟨m, b⟩ := e
      rw [List.map_cons, List.mem_cons, not_or] at h
      rw [insertByKey]
      split
      · exact .refl _
      · rw [if_neg h.1]
        exact ((ih h.2).cons _).trans (.swap ..)

end

mutual
/-- A sorted document is in order. -/
lemma Tree.inOrder_sort : ∀ t : Tree String N, t.sort.keysOk inOrder = true
  | .null | .bool _ | .num _ | .str _ => rfl
  | .list ts => Tree.inOrder_sortItems ts
  | .dict kvs => Bool.and_eq_true_iff.mpr (Tree.inOrder_sortEntries kvs)
lemma Tree.inOrder_sortItems : ∀ ts : List (Tree String N),
    Tree.keysOkItems inOrder (Tree.sortItems ts) = true
  | [] => rfl
  | t :: ts => Bool.and_eq_true_iff.mpr ⟨t.inOrder_sort, Tree.inOrder_sortItems ts⟩
lemma Tree.inOrder_sortEntries : ∀ kvs : List (String × Tree String N),
    inOrder ((Tree.sortEntries kvs).map Prod.fst) = true ∧
      Tree.keysOkEntries inOrder (Tree.sortEntries kvs) = true
  | [] => ⟨rfl, rfl⟩
  | (k, t) :: kvs => by
      obtain ⟨horder, hrest⟩ := Tree.inOrder_sortEntries kvs
      have ht := t.inOrder_sort
      refine ⟨inOrder_insertByKey horder, Tree.keysOkEntries_iff.mpr fun e he => ?_⟩
      rcases mem_insertByKey he with rfl | he
      · exact ht
      · exact Tree.keysOkEntries_iff.mp hrest e he
end

mutual
/-- A document in order names no key twice. -/
lemma Tree.distinct_of_inOrder : ∀ t : Tree String N, t.keysOk inOrder = true →
    t.keysOk distinct = true
  | .null, _ | .bool _, _ | .num _, _ | .str _, _ => rfl
  | .list ts, h => Tree.distinctItems_of_inOrder ts h
  | .dict kvs, h => by
      obtain ⟨hobject, hall⟩ := Bool.and_eq_true_iff.mp h
      exact Bool.and_eq_true_iff.mpr
        ⟨CivicGate.distinct_of_inOrder hobject, Tree.distinctEntries_of_inOrder kvs hall⟩
lemma Tree.distinctItems_of_inOrder : ∀ ts : List (Tree String N),
    Tree.keysOkItems inOrder ts = true → Tree.keysOkItems distinct ts = true
  | [], _ => rfl
  | t :: ts, h => by
      obtain ⟨ht, hts⟩ := Bool.and_eq_true_iff.mp h
      exact Bool.and_eq_true_iff.mpr
        ⟨t.distinct_of_inOrder ht, Tree.distinctItems_of_inOrder ts hts⟩
lemma Tree.distinctEntries_of_inOrder : ∀ kvs : List (String × Tree String N),
    Tree.keysOkEntries inOrder kvs = true → Tree.keysOkEntries distinct kvs = true
  | [], _ => rfl
  | (_, t) :: kvs, h => by
      obtain ⟨ht, hkvs⟩ := Bool.and_eq_true_iff.mp h
      exact Bool.and_eq_true_iff.mpr
        ⟨t.distinct_of_inOrder ht, Tree.distinctEntries_of_inOrder kvs hkvs⟩
end

mutual
/-- Sorting leaves a document in order alone. -/
lemma Tree.sort_of_inOrder : ∀ t : Tree String N, t.keysOk inOrder = true → t.sort = t
  | .null, _ | .bool _, _ | .num _, _ | .str _, _ => rfl
  | .list ts, h => by rw [Tree.sort, Tree.sortItems_of_inOrder ts h]
  | .dict kvs, h => by
      obtain ⟨hobject, hall⟩ := Bool.and_eq_true_iff.mp h
      rw [Tree.sort, Tree.sortEntries_of_inOrder kvs hobject hall]
lemma Tree.sortItems_of_inOrder : ∀ ts : List (Tree String N),
    Tree.keysOkItems inOrder ts = true → Tree.sortItems ts = ts
  | [], _ => rfl
  | t :: ts, h => by
      obtain ⟨ht, hts⟩ := Bool.and_eq_true_iff.mp h
      rw [Tree.sortItems, t.sort_of_inOrder ht, Tree.sortItems_of_inOrder ts hts]
lemma Tree.sortEntries_of_inOrder : ∀ kvs : List (String × Tree String N),
    inOrder (kvs.map Prod.fst) = true → Tree.keysOkEntries inOrder kvs = true →
    Tree.sortEntries kvs = kvs
  | [], _, _ => rfl
  | (k, t) :: kvs, horder, h => by
      obtain ⟨ht, hkvs⟩ := Bool.and_eq_true_iff.mp h
      obtain ⟨hlt, horder⟩ := List.pairwise_cons.mp (inOrder_iff.mp horder)
      rw [Tree.sortEntries, t.sort_of_inOrder ht,
        Tree.sortEntries_of_inOrder kvs (inOrder_iff.mpr horder) hkvs, insertByKey_of_lt hlt]
end

mutual
/-- Sorting a document that names no key twice keeps its numbers. -/
lemma Tree.mem_numbers_sort {n : N} : ∀ t : Tree String N, t.keysOk distinct = true →
    (n ∈ t.sort.numbers ↔ n ∈ t.numbers)
  | .null, _ | .bool _, _ | .num _, _ | .str _, _ => Iff.rfl
  | .list ts, h => Tree.mem_numbers_sortItems ts h
  | .dict kvs, h => by
      obtain ⟨hobject, hall⟩ := Bool.and_eq_true_iff.mp h
      exact (Tree.mem_numbers_sortEntries kvs (distinct_iff.mp hobject) hall).2
lemma Tree.mem_numbers_sortItems {n : N} : ∀ ts : List (Tree String N),
    Tree.keysOkItems distinct ts = true →
    (n ∈ Tree.numbersItems (Tree.sortItems ts) ↔ n ∈ Tree.numbersItems ts)
  | [], _ => Iff.rfl
  | t :: ts, h => by
      obtain ⟨ht, hts⟩ := Bool.and_eq_true_iff.mp h
      rw [Tree.sortItems, Tree.numbersItems, Tree.numbersItems, List.mem_append,
        List.mem_append, t.mem_numbers_sort ht, Tree.mem_numbers_sortItems ts hts]
lemma Tree.mem_numbers_sortEntries {n : N} : ∀ kvs : List (String × Tree String N),
    (kvs.map Prod.fst).Nodup → Tree.keysOkEntries distinct kvs = true →
    (∀ k, k ∈ (Tree.sortEntries kvs).map Prod.fst ↔ k ∈ kvs.map Prod.fst) ∧
      (n ∈ Tree.numbersEntries (Tree.sortEntries kvs) ↔ n ∈ Tree.numbersEntries kvs)
  | [], _, _ => ⟨fun _ => Iff.rfl, Iff.rfl⟩
  | (k, t) :: kvs, hnodup, h => by
      obtain ⟨ht, hkvs⟩ := Bool.and_eq_true_iff.mp h
      obtain ⟨hk, hnodup⟩ := List.nodup_cons.mp hnodup
      obtain ⟨hkeys, hnumbers⟩ := Tree.mem_numbers_sortEntries (n := n) kvs hnodup hkvs
      have hperm := insertByKey_perm (a := t.sort) (mt (hkeys k).mp hk)
      refine ⟨fun l => ?_, ?_⟩
      · rw [Tree.sortEntries, mem_keys_insertByKey, hkeys, List.map_cons, List.mem_cons]
      · rw [Tree.sortEntries, Tree.mem_numbersEntries]
        simp only [hperm.mem_iff]
        rw [← Tree.mem_numbersEntries, Tree.numbersEntries, Tree.numbersEntries,
          List.mem_append, List.mem_append, t.mem_numbers_sort ht, hnumbers]
end

/-! ## Lookup -/

section

variable {α β : Type}

lemma lookup_cons_of_ne {k l : String} (h : k ≠ l) (a : α) (kvs : List (String × α)) :
    ((l, a) :: kvs).lookup k = kvs.lookup k := by
  rw [List.lookup_cons, beq_false_of_ne h]

lemma lookup_eq_none {k : String} {kvs : List (String × α)} (h : k ∉ kvs.map Prod.fst) :
    kvs.lookup k = none := by
  rw [List.lookup_eq_none_iff]
  intro e he
  rw [bne_iff_ne]
  rintro rfl
  exact h (List.mem_map_of_mem he)

lemma lookup_isSome {k : String} {kvs : List (String × α)} :
    (kvs.lookup k).isSome = true ↔ k ∈ kvs.map Prod.fst := by
  constructor
  · intro h
    by_contra hk
    rw [lookup_eq_none hk] at h
    cases h
  · intro hk
    rw [Option.isSome_iff_ne_none, Ne, List.lookup_eq_none_iff]
    intro hnone
    obtain ⟨e, he, rfl⟩ := List.mem_map.mp hk
    exact absurd (hnone e he) (by simp)

/-- What a key of an object names is one of its entries. -/
lemma mem_of_lookup {k : String} {a : α} {kvs : List (String × α)}
    (h : kvs.lookup k = some a) : (k, a) ∈ kvs := by
  induction kvs with
  | nil => cases h
  | cons e kvs ih =>
      obtain ⟨l, b⟩ := e
      by_cases hk : k = l
      · subst hk
        rw [List.lookup_cons_self] at h
        obtain rfl := Option.some.inj h
        exact List.mem_cons_self
      · rw [lookup_cons_of_ne hk] at h
        exact List.mem_cons_of_mem _ (ih h)

/-- Without repeated keys an entry is what its key names. -/
lemma lookup_of_mem {k : String} {a : α} {kvs : List (String × α)}
    (hnodup : (kvs.map Prod.fst).Nodup) (h : (k, a) ∈ kvs) : kvs.lookup k = some a := by
  induction kvs with
  | nil => cases h
  | cons e kvs ih =>
      obtain ⟨l, b⟩ := e
      obtain ⟨hl, hnodup⟩ := List.nodup_cons.mp hnodup
      rcases List.mem_cons.mp h with heq | hmem
      · obtain ⟨rfl, rfl⟩ := Prod.mk.inj heq
        exact List.lookup_cons_self
      · have hne : k ≠ l := fun heq => hl (List.mem_map.mpr ⟨_, hmem, heq⟩)
        rw [lookup_cons_of_ne hne]
        exact ih hnodup hmem

lemma lookup_insertByKey {k l : String} {a : α} {kvs : List (String × α)}
    (h : k ∉ kvs.map Prod.fst) :
    (insertByKey k a kvs).lookup l = if l = k then some a else kvs.lookup l := by
  induction kvs with
  | nil =>
      by_cases hl : l = k
      · subst hl
        rw [if_pos rfl, insertByKey, List.lookup_cons_self]
      · rw [if_neg hl, insertByKey, lookup_cons_of_ne hl]
  | cons e kvs ih =>
      obtain ⟨m, b⟩ := e
      rw [List.map_cons, List.mem_cons, not_or] at h
      rw [insertByKey]
      split
      · by_cases hl : l = k
        · subst hl
          rw [if_pos rfl, List.lookup_cons_self]
        · rw [if_neg hl, lookup_cons_of_ne hl]
      · rw [if_neg h.1]
        by_cases hm : l = m
        · subst hm
          rw [List.lookup_cons_self, if_neg (Ne.symm h.1), List.lookup_cons_self]
        · rw [lookup_cons_of_ne hm, lookup_cons_of_ne hm, ih h.2]

/-- Objects in order are related entry by entry if they are key by key. -/
lemma forall₂_iff_lookup {R : α → β → Prop} {kvs : List (String × α)} {kws : List (String × β)}
    (h : inOrder (kvs.map Prod.fst) = true) (h' : inOrder (kws.map Prod.fst) = true) :
    List.Forall₂ (fun e f => e.1 = f.1 ∧ R e.2 f.2) kvs kws ↔
      ∀ k, Option.Rel R (kvs.lookup k) (kws.lookup k) := by
  rw [inOrder_iff] at h h'
  induction kvs generalizing kws with
  | nil =>
      cases kws with
      | nil => simp
      | cons f kws =>
          refine iff_of_false (fun hrel => nomatch hrel) fun hall => ?_
          have hhead := hall f.1
          rw [List.lookup_cons_self] at hhead
          cases hhead
  | cons e kvs ih =>
      obtain ⟨k, a⟩ := e
      obtain ⟨hlt, horder⟩ := List.pairwise_cons.mp h
      cases kws with
      | nil =>
          refine iff_of_false (fun hrel => nomatch hrel) fun hall => ?_
          have hhead := hall k
          rw [List.lookup_cons_self] at hhead
          cases hhead
      | cons f kws =>
          obtain ⟨l, b⟩ := f
          obtain ⟨hlt', horder'⟩ := List.pairwise_cons.mp h'
          have hk : k ∉ kvs.map Prod.fst := fun hmem => lt_irrefl _ (hlt k hmem)
          have hl : l ∉ kws.map Prod.fst := fun hmem => lt_irrefl _ (hlt' l hmem)
          rw [List.forall₂_cons, ih horder horder']
          constructor
          · rintro ⟨⟨rfl, hab⟩, hall⟩ m
            by_cases hm : m = k
            · subst hm
              rw [List.lookup_cons_self, List.lookup_cons_self]
              exact .some hab
            · rw [lookup_cons_of_ne hm, lookup_cons_of_ne hm]
              exact hall m
          · intro hall
            -- The first keys name something in both, so neither is below the other.
            have hkl : k = l := by
              by_contra hne
              have hfirst := hall k
              have hsecond := hall l
              rw [List.lookup_cons_self, lookup_cons_of_ne hne] at hfirst
              rw [lookup_cons_of_ne (Ne.symm hne), List.lookup_cons_self] at hsecond
              have hkmem : k ∈ kws.map Prod.fst := by
                by_contra hnone
                rw [lookup_eq_none hnone] at hfirst
                cases hfirst
              have hlmem : l ∈ kvs.map Prod.fst := by
                by_contra hnone
                rw [lookup_eq_none hnone] at hsecond
                cases hsecond
              exact lt_asymm (hlt l hlmem) (hlt' k hkmem)
            subst hkl
            refine ⟨⟨rfl, ?_⟩, fun m => ?_⟩
            · have hhead := hall k
              rw [List.lookup_cons_self, List.lookup_cons_self] at hhead
              cases hhead with
              | some hab => exact hab
            · by_cases hm : m = k
              · subst hm
                rw [lookup_eq_none hk, lookup_eq_none hl]
                exact .none
              · have htail := hall m
                rw [lookup_cons_of_ne hm, lookup_cons_of_ne hm] at htail
                exact htail

end

lemma rel_some_left {α β : Type} {R : α → β → Prop} {a : α} {y : Option β}
    (h : Option.Rel R (some a) y) : ∃ b, y = some b ∧ R a b := by
  cases h with
  | some hab => exact ⟨_, rfl, hab⟩

lemma rel_some_right {α β : Type} {R : α → β → Prop} {b : β} {x : Option α}
    (h : Option.Rel R x (some b)) : ∃ a, x = some a ∧ R a b := by
  cases h with
  | some hab => exact ⟨_, rfl, hab⟩

lemma Tree.mem_keys_sortEntries {k : String} {kvs : List (String × Tree String N)} :
    k ∈ (Tree.sortEntries kvs).map Prod.fst ↔ k ∈ kvs.map Prod.fst := by
  induction kvs with
  | nil => rfl
  | cons e kvs ih =>
      obtain ⟨l, t⟩ := e
      rw [Tree.sortEntries, mem_keys_insertByKey, ih, List.map_cons, List.mem_cons]

/-- Sorting an object sorts what its keys name. -/
lemma Tree.lookup_sortEntries {kvs : List (String × Tree String N)}
    (h : (kvs.map Prod.fst).Nodup) (k : String) :
    (Tree.sortEntries kvs).lookup k = (kvs.lookup k).map Tree.sort := by
  induction kvs with
  | nil => rfl
  | cons e kvs ih =>
      obtain ⟨l, t⟩ := e
      obtain ⟨hl, hnodup⟩ := List.nodup_cons.mp h
      rw [Tree.sortEntries, lookup_insertByKey (mt Tree.mem_keys_sortEntries.mp hl), ih hnodup]
      by_cases hk : k = l
      · subst hk
        rw [if_pos rfl, List.lookup_cons_self]
        rfl
      · rw [if_neg hk, lookup_cons_of_ne hk]

/-- Sorted objects are equal if what their keys name is equal when sorted. -/
lemma Tree.sort_dict_eq_iff {kvs kws : List (String × Tree String N)}
    (h : (kvs.map Prod.fst).Nodup) (h' : (kws.map Prod.fst).Nodup) :
    (Tree.dict kvs).sort = (Tree.dict kws).sort ↔
      ∀ k, (kvs.lookup k).map Tree.sort = (kws.lookup k).map Tree.sort := by
  have horder := (Tree.inOrder_sortEntries kvs).1
  have horder' := (Tree.inOrder_sortEntries kws).1
  rw [Tree.sort, Tree.sort, Tree.dict.injEq]
  constructor
  · intro heq k
    rw [← Tree.lookup_sortEntries h, ← Tree.lookup_sortEntries h', heq]
  · intro hall
    have hrel := (@forall₂_iff_lookup _ _ Eq _ _ horder horder').mpr fun k => by
      rw [Tree.lookup_sortEntries h, Tree.lookup_sortEntries h', hall k]
      cases (kws.lookup k).map Tree.sort with
      | none => exact .none
      | some t => exact .some rfl
    rw [← List.forall₂_eq_eq_eq]
    exact hrel.imp fun e f hef => Prod.ext hef.1 hef.2

lemma Tree.convertEntries_iff {g : N → Option N'} {kvs : List (String × Tree String N)}
    {kws : List (String × Tree String N')} : Tree.convertEntries some g kvs = some kws ↔
      List.Forall₂ (fun e f => e.1 = f.1 ∧ e.2.convert some g = some f.2) kvs kws := by
  induction kvs generalizing kws with
  | nil =>
      rw [Tree.convertEntries, Option.some.injEq, List.forall₂_nil_left_iff, eq_comm]
  | cons e kvs ih =>
      obtain ⟨k, t⟩ := e
      simp only [Tree.convertEntries, Option.bind_some, Option.bind_eq_some_iff,
        Option.map_eq_some_iff, ih, List.forall₂_cons_left_iff]
      constructor
      · rintro ⟨u, hu, rest, hrest, rfl⟩
        exact ⟨(k, u), rest, ⟨rfl, hu⟩, hrest, rfl⟩
      · rintro ⟨f, rest, ⟨hk, hu⟩, hrest, rfl⟩
        exact ⟨f.2, hu, rest, hrest, by rw [hk]⟩

/-- A sorted object is converted key by key. -/
lemma Tree.convert_sort_dict_iff {g : N → Option N'} {kvs : List (String × Tree String N)}
    (h : (kvs.map Prod.fst).Nodup) {t : Tree String N'} :
    (Tree.dict kvs).sort.convert some g = some t ↔
      ∃ kws, t = .dict kws ∧ inOrder (kws.map Prod.fst) = true ∧
        ∀ k, Option.Rel (fun u w => u.sort.convert some g = some w) (kvs.lookup k)
          (kws.lookup k) := by
  have horder := (Tree.inOrder_sortEntries kvs).1
  have hlookup : ∀ {kws : List (String × Tree String N')}, inOrder (kws.map Prod.fst) = true →
      (Tree.convertEntries some g (Tree.sortEntries kvs) = some kws ↔
        ∀ k, Option.Rel (fun u w => u.sort.convert some g = some w) (kvs.lookup k)
          (kws.lookup k)) := by
    intro kws horder'
    rw [Tree.convertEntries_iff,
      @forall₂_iff_lookup _ _ (fun u w => u.convert some g = some w) _ _ horder horder']
    refine forall_congr' fun k => ?_
    rw [Tree.lookup_sortEntries h]
    cases kvs.lookup k <;> cases kws.lookup k <;> simp
  rw [Tree.sort, Tree.convert, Option.map_eq_some_iff]
  constructor
  · rintro ⟨kws, hkws, rfl⟩
    have hkeys : List.Forall₂ Eq ((Tree.sortEntries kvs).map Prod.fst) (kws.map Prod.fst) :=
      List.forall₂_map_left_iff.mpr (List.forall₂_map_right_iff.mpr
        ((Tree.convertEntries_iff.mp hkws).imp fun _ _ hkey => hkey.1))
    rw [List.forall₂_eq_eq_eq] at hkeys
    have horder' : inOrder (kws.map Prod.fst) = true := hkeys ▸ horder
    exact ⟨kws, rfl, horder', (hlookup horder').mp hkws⟩
  · rintro ⟨kws, rfl, horder', hall⟩
    exact ⟨kws, (hlookup horder').mpr hall, rfl⟩

end CivicGate
