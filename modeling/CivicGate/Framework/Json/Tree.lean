import CivicGate.Framework.Json.RoundTrip

/-!
# JSON documents over any strings and numbers

A reader of JSON fixes how strings and numbers are read and which keys an object may have; the
grammar around them is the same for all readers.  `Reader.read` is the reader as a function, by
fuel, and `Reads` is the grammar as a relation between a text, what is read and what is left of
the text.  The two agree (`Reader.read_eq_some`), so facts about reading are inductions on
`Reads`.
-/

namespace CivicGate

/-! ## Documents and readers -/

/-- A JSON document over strings `S` and numbers `N`; `dict` lists the entries as they stand. -/
inductive Tree (S N : Type)
  | null
  | bool (b : Bool)
  | num (n : N)
  | str (s : S)
  | list (ts : List (Tree S N))
  | dict (kvs : List (S × Tree S N))

/-- How strings and numbers are read, and which keys an object may have. -/
structure Reader (S N : Type) where
  /-- A string after its opening quote, and the text after it. -/
  string : List Char → Option (S × List Char)
  /-- The number of a token. -/
  number : List Char → Option N
  /-- An object may have these keys. -/
  keys : List S → Bool
  number_nil : number [] = none
  /-- A string ends where it ends, whatever follows. -/
  string_local : ∀ {cs s rest}, string cs = some (s, rest) → ∃ used, used ≠ [] ∧
    cs = used ++ rest ∧ ∀ rest', string (used ++ rest') = some (s, rest')

variable {S N S' N' : Type} {r : Reader S N}

/-- A number and the text after it. -/
def Reader.token (r : Reader S N) (cs : List Char) : Option (Tree S N × List Char) :=
  (r.number (cs.takeWhile isNumberChar)).map fun n => (.num n, cs.dropWhile isNumberChar)

/-- The object with these entries. -/
def Reader.object (r : Reader S N) (kvs : List (S × Tree S N)) : Option (Tree S N) :=
  if r.keys (kvs.map Prod.fst) then some (.dict kvs) else none

mutual
/-- A value and the text after it; the fuel bounds the nesting and the items together. -/
def Reader.value (r : Reader S N) : ℕ → List Char → Option (Tree S N × List Char)
  | 0, _ => none
  | fuel + 1, cs =>
    match skipBlanks cs with
    | 'n' :: 'u' :: 'l' :: 'l' :: rest => some (.null, rest)
    | 't' :: 'r' :: 'u' :: 'e' :: rest => some (.bool true, rest)
    | 'f' :: 'a' :: 'l' :: 's' :: 'e' :: rest => some (.bool false, rest)
    | '"' :: rest => (r.string rest).map fun p => (.str p.1, p.2)
    | '[' :: rest =>
      match skipBlanks rest with
      | ']' :: rest => some (.list [], rest)
      | rest =>
        match r.value fuel rest with
        | none => none
        | some (t, rest) => (r.items fuel rest).map fun p => (.list (t :: p.1), p.2)
    | '\x7b' :: rest =>
      match skipBlanks rest with
      | '\x7d' :: rest => (r.object []).map (·, rest)
      | rest =>
        match r.entry fuel rest with
        | none => none
        | some (e, rest) =>
          (r.entries fuel rest).bind fun p => (r.object (e :: p.1)).map (·, p.2)
    | cs => r.token cs
/-- The rest of a list after an item. -/
def Reader.items (r : Reader S N) : ℕ → List Char → Option (List (Tree S N) × List Char)
  | 0, _ => none
  | fuel + 1, cs =>
    match skipBlanks cs with
    | ']' :: rest => some ([], rest)
    | ',' :: rest =>
      match r.value fuel rest with
      | none => none
      | some (t, rest) => (r.items fuel rest).map fun p => (t :: p.1, p.2)
    | _ => none
/-- One `"key": value` entry. -/
def Reader.entry (r : Reader S N) : ℕ → List Char → Option ((S × Tree S N) × List Char)
  | 0, _ => none
  | fuel + 1, cs =>
    match skipBlanks cs with
    | '"' :: rest =>
      match r.string rest with
      | none => none
      | some (k, rest) =>
        match skipBlanks rest with
        | ':' :: rest => (r.value fuel rest).map fun p => ((k, p.1), p.2)
        | _ => none
    | _ => none
/-- The rest of an object after an entry. -/
def Reader.entries (r : Reader S N) : ℕ → List Char → Option (List (S × Tree S N) × List Char)
  | 0, _ => none
  | fuel + 1, cs =>
    match skipBlanks cs with
    | '\x7d' :: rest => some ([], rest)
    | ',' :: rest =>
      match r.entry fuel rest with
      | none => none
      | some (e, rest) => (r.entries fuel rest).map fun p => (e :: p.1, p.2)
    | _ => none
end

/-- The document of a text. -/
def Reader.read (r : Reader S N) (cs : List Char) : Option (Tree S N) :=
  match r.value (cs.length + 1) cs with
  | some (t, rest) => if skipBlanks rest = [] then some t else none
  | none => none

/-! ## The grammar -/

/-- What a reading yields. -/
inductive Part (S N : Type)
  | value (t : Tree S N)
  | items (ts : List (Tree S N))
  | entry (e : S × Tree S N)
  | entries (kvs : List (S × Tree S N))

/-- The text is read as the part, up to the rest. -/
inductive Reads (r : Reader S N) : List Char → Part S N → List Char → Prop
  | null {cs rest} (h : skipBlanks cs = 'n' :: 'u' :: 'l' :: 'l' :: rest) :
      Reads r cs (.value .null) rest
  | boolTrue {cs rest} (h : skipBlanks cs = 't' :: 'r' :: 'u' :: 'e' :: rest) :
      Reads r cs (.value (.bool true)) rest
  | boolFalse {cs rest} (h : skipBlanks cs = 'f' :: 'a' :: 'l' :: 's' :: 'e' :: rest) :
      Reads r cs (.value (.bool false)) rest
  | string {cs mid rest s} (h : skipBlanks cs = '"' :: mid)
      (hs : r.string mid = some (s, rest)) : Reads r cs (.value (.str s)) rest
  | number {cs token rest n} (h : skipBlanks cs = token ++ rest) (hne : token ≠ [])
      (ht : ∀ c ∈ token, isNumberChar c = true) (hrest : NoNumberHead rest)
      (hn : r.number token = some n) : Reads r cs (.value (.num n)) rest
  | emptyList {cs mid rest} (h : skipBlanks cs = '[' :: mid)
      (hend : skipBlanks mid = ']' :: rest) : Reads r cs (.value (.list [])) rest
  | list {cs mid next rest t ts} (h : skipBlanks cs = '[' :: mid)
      (ht : Reads r mid (.value t) next) (hts : Reads r next (.items ts) rest) :
      Reads r cs (.value (.list (t :: ts))) rest
  | emptyDict {cs mid rest} (h : skipBlanks cs = '\x7b' :: mid)
      (hend : skipBlanks mid = '\x7d' :: rest) (hkeys : r.keys [] = true) :
      Reads r cs (.value (.dict [])) rest
  | dict {cs mid next rest e kvs} (h : skipBlanks cs = '\x7b' :: mid)
      (he : Reads r mid (.entry e) next) (hkvs : Reads r next (.entries kvs) rest)
      (hkeys : r.keys ((e :: kvs).map Prod.fst) = true) :
      Reads r cs (.value (.dict (e :: kvs))) rest
  | lastItem {cs rest} (h : skipBlanks cs = ']' :: rest) : Reads r cs (.items []) rest
  | item {cs mid next rest t ts} (h : skipBlanks cs = ',' :: mid)
      (ht : Reads r mid (.value t) next) (hts : Reads r next (.items ts) rest) :
      Reads r cs (.items (t :: ts)) rest
  | entry {cs mid next colon rest k t} (h : skipBlanks cs = '"' :: mid)
      (hk : r.string mid = some (k, next)) (hcolon : skipBlanks next = ':' :: colon)
      (ht : Reads r colon (.value t) rest) : Reads r cs (.entry (k, t)) rest
  | lastEntry {cs rest} (h : skipBlanks cs = '\x7d' :: rest) : Reads r cs (.entries []) rest
  | moreEntries {cs mid next rest e kvs} (h : skipBlanks cs = ',' :: mid)
      (he : Reads r mid (.entry e) next) (hkvs : Reads r next (.entries kvs) rest) :
      Reads r cs (.entries (e :: kvs)) rest

/-- The function of the part reads it. -/
def Part.runs (r : Reader S N) (fuel : ℕ) (cs : List Char) (p : Part S N) (rest : List Char) :
    Prop :=
  match p with
  | .value t => r.value fuel cs = some (t, rest)
  | .items ts => r.items fuel cs = some (ts, rest)
  | .entry e => r.entry fuel cs = some (e, rest)
  | .entries kvs => r.entries fuel cs = some (kvs, rest)

lemma Reader.object_eq_some {kvs : List (S × Tree S N)} {t : Tree S N} :
    r.object kvs = some t ↔ r.keys (kvs.map Prod.fst) = true ∧ .dict kvs = t := by
  unfold Reader.object
  split
  · rename_i hkeys
    simp [hkeys]
  · rename_i hkeys
    simp [hkeys]

/-- A token is read up to the first character that is not of a number. -/
lemma Reader.token_eq_some {cs rest : List Char} {t : Tree S N} (hcs : skipBlanks cs = cs) :
    r.token cs = some (t, rest) → Reads r cs (.value t) rest := by
  intro h
  obtain ⟨n, hn, hpair⟩ := Option.map_eq_some_iff.mp h
  obtain ⟨rfl, rfl⟩ := Prod.mk.inj hpair
  refine .number (hcs.trans (List.takeWhile_append_dropWhile ..).symm) ?_ ?_ ?_ hn
  · intro hnil
    rw [hnil, r.number_nil] at hn
    cases hn
  · exact List.all_eq_true.mp List.all_takeWhile
  · intro c hc
    have := List.head?_dropWhile_not isNumberChar cs
    rw [hc] at this
    simpa using this

lemma skipBlanks_skipBlanks (cs : List Char) : skipBlanks (skipBlanks cs) = skipBlanks cs := by
  induction cs with
  | nil => rfl
  | cons c cs ih =>
      by_cases hblank : c = ' ' ∨ c = '\n' ∨ c = '\r' ∨ c = '\t'
      · rw [skipBlanks, if_pos hblank, ih]
      · rw [skipBlanks, if_neg hblank, skipBlanks, if_neg hblank]

/-- Blanks before a part are nothing. -/
lemma Reads.skip {cs ds rest : List Char} {p : Part S N} (h : Reads r cs p rest)
    (hskip : skipBlanks ds = skipBlanks cs) : Reads r ds p rest := by
  cases h with
  | null h => exact .null (hskip.trans h)
  | boolTrue h => exact .boolTrue (hskip.trans h)
  | boolFalse h => exact .boolFalse (hskip.trans h)
  | string h hs => exact .string (hskip.trans h) hs
  | number h hne ht hrest hn => exact .number (hskip.trans h) hne ht hrest hn
  | emptyList h hend => exact .emptyList (hskip.trans h) hend
  | list h ht hts => exact .list (hskip.trans h) ht hts
  | emptyDict h hend hkeys => exact .emptyDict (hskip.trans h) hend hkeys
  | dict h he hkvs hkeys => exact .dict (hskip.trans h) he hkvs hkeys
  | lastItem h => exact .lastItem (hskip.trans h)
  | item h ht hts => exact .item (hskip.trans h) ht hts
  | entry h hk hcolon ht => exact .entry (hskip.trans h) hk hcolon ht
  | lastEntry h => exact .lastEntry (hskip.trans h)
  | moreEntries h he hkvs => exact .moreEntries (hskip.trans h) he hkvs

/-- What the functions read, the grammar reads. -/
lemma Part.runs.reads {fuel : ℕ} {cs rest : List Char} {p : Part S N}
    (h : p.runs r fuel cs rest) : Reads r cs p rest := by
  induction fuel generalizing cs rest p with
  | zero => cases p <;> simp [Part.runs, Reader.value, Reader.items, Reader.entry,
      Reader.entries] at h
  | succ fuel ih =>
      cases p with
      | value t =>
          simp only [Part.runs, Reader.value] at h
          split at h
          · rename_i hcs
            obtain ⟨rfl, rfl⟩ := Prod.mk.inj (Option.some.inj h)
            exact .null hcs
          · rename_i hcs
            obtain ⟨rfl, rfl⟩ := Prod.mk.inj (Option.some.inj h)
            exact .boolTrue hcs
          · rename_i hcs
            obtain ⟨rfl, rfl⟩ := Prod.mk.inj (Option.some.inj h)
            exact .boolFalse hcs
          · rename_i hcs
            obtain ⟨⟨s, rest'⟩, hs, hpair⟩ := Option.map_eq_some_iff.mp h
            obtain ⟨rfl, rfl⟩ := Prod.mk.inj hpair
            exact .string hcs hs
          · rename_i mid hcs
            split at h
            · rename_i hmid
              obtain ⟨rfl, rfl⟩ := Prod.mk.inj (Option.some.inj h)
              exact .emptyList hcs hmid
            · rename_i hmid
              split at h
              · cases h
              · rename_i t next ht
                obtain ⟨⟨ts, rest'⟩, hts, hpair⟩ := Option.map_eq_some_iff.mp h
                obtain ⟨rfl, rfl⟩ := Prod.mk.inj hpair
                have hvalue : Reads r (skipBlanks mid) (.value t) next := ih ht
                exact .list hcs (hvalue.skip (skipBlanks_skipBlanks mid).symm) (ih hts)
          · rename_i mid hcs
            split at h
            · rename_i hmid
              obtain ⟨t', ht', hpair⟩ := Option.map_eq_some_iff.mp h
              obtain ⟨rfl, rfl⟩ := Prod.mk.inj hpair
              obtain ⟨hkeys, rfl⟩ := Reader.object_eq_some.mp ht'
              exact .emptyDict hcs hmid hkeys
            · rename_i hmid
              split at h
              · cases h
              · rename_i e next he
                obtain ⟨⟨kvs, rest'⟩, hkvs, hobject⟩ := Option.bind_eq_some_iff.mp h
                obtain ⟨t', ht', hpair⟩ := Option.map_eq_some_iff.mp hobject
                obtain ⟨rfl, rfl⟩ := Prod.mk.inj hpair
                obtain ⟨hkeys, rfl⟩ := Reader.object_eq_some.mp ht'
                have hentry : Reads r (skipBlanks mid) (.entry e) next := ih he
                exact .dict hcs (hentry.skip (skipBlanks_skipBlanks mid).symm) (ih hkvs) hkeys
          · exact (Reader.token_eq_some (skipBlanks_skipBlanks cs) h).skip
              (skipBlanks_skipBlanks cs).symm
      | items ts =>
          simp only [Part.runs, Reader.items] at h
          split at h
          · rename_i hcs
            obtain ⟨rfl, rfl⟩ := Prod.mk.inj (Option.some.inj h)
            exact .lastItem hcs
          · rename_i hcs
            split at h
            · cases h
            · rename_i t next ht
              obtain ⟨⟨ts', rest'⟩, hts, hpair⟩ := Option.map_eq_some_iff.mp h
              obtain ⟨rfl, rfl⟩ := Prod.mk.inj hpair
              exact .item hcs (ih ht) (ih hts)
          · cases h
      | entry e =>
          simp only [Part.runs, Reader.entry] at h
          split at h
          · rename_i hcs
            split at h
            · cases h
            · rename_i k next hk
              split at h
              · rename_i hcolon
                obtain ⟨⟨t, rest'⟩, ht, hpair⟩ := Option.map_eq_some_iff.mp h
                obtain ⟨rfl, rfl⟩ := Prod.mk.inj hpair
                exact .entry hcs hk hcolon (ih ht)
              · cases h
          · cases h
      | entries kvs =>
          simp only [Part.runs, Reader.entries] at h
          split at h
          · rename_i hcs
            obtain ⟨rfl, rfl⟩ := Prod.mk.inj (Option.some.inj h)
            exact .lastEntry hcs
          · rename_i hcs
            split at h
            · cases h
            · rename_i e next he
              obtain ⟨⟨kvs', rest'⟩, hkvs, hpair⟩ := Option.map_eq_some_iff.mp h
              obtain ⟨rfl, rfl⟩ := Prod.mk.inj hpair
              exact .moreEntries hcs (ih he) (ih hkvs)
          · cases h

lemma Reader.reads_of_value {fuel : ℕ} {cs rest : List Char} {t : Tree S N}
    (h : r.value fuel cs = some (t, rest)) : Reads r cs (.value t) rest :=
  have hruns : (Part.value t).runs r fuel cs rest := h
  hruns.reads

/-! ## Fuel -/

mutual
/-- The fuel a document needs. -/
def Tree.weight : Tree S N → ℕ
  | .list (t :: ts) => 1 + t.weight + Tree.weightItems ts
  | .dict ((_, t) :: kvs) => 2 + t.weight + Tree.weightEntries kvs
  | _ => 1
/-- The fuel the rest of a list needs. -/
def Tree.weightItems : List (Tree S N) → ℕ
  | [] => 1
  | t :: ts => 1 + t.weight + Tree.weightItems ts
/-- The fuel the rest of an object needs. -/
def Tree.weightEntries : List (S × Tree S N) → ℕ
  | [] => 1
  | (_, t) :: kvs => 2 + t.weight + Tree.weightEntries kvs
end

/-- The fuel a part needs. -/
def Part.weight : Part S N → ℕ
  | .value t => t.weight
  | .items ts => Tree.weightItems ts
  | .entry e => 1 + e.2.weight
  | .entries kvs => Tree.weightEntries kvs

lemma Tree.weight_pos (t : Tree S N) : 0 < t.weight := by
  unfold Tree.weight
  split <;> omega

lemma Tree.weightItems_pos (ts : List (Tree S N)) : 0 < Tree.weightItems ts := by
  cases ts <;> simp only [Tree.weightItems] <;> omega

lemma length_skipBlanks_le (cs : List Char) : (skipBlanks cs).length ≤ cs.length := by
  induction cs with
  | nil => simp [skipBlanks]
  | cons c cs ih =>
      rw [skipBlanks]
      split
      · exact ih.trans (Nat.le_succ _)
      · exact le_rfl

lemma length_of_skipBlanks {cs ds : List Char} (h : skipBlanks cs = ds) :
    ds.length ≤ cs.length := h ▸ length_skipBlanks_le cs

lemma length_of_string {cs rest : List Char} {s : S} (h : r.string cs = some (s, rest)) :
    rest.length < cs.length := by
  obtain ⟨used, hne, rfl, -⟩ := r.string_local h
  rw [List.length_append]
  have := List.length_pos_iff.mpr hne
  omega

/-- A text is at least as long as the fuel for what it is read as. -/
lemma Reads.weight_le {cs rest : List Char} {p : Part S N} (h : Reads r cs p rest) :
    p.weight + rest.length ≤ cs.length := by
  induction h with
  | null h | boolTrue h | boolFalse h =>
      have := length_of_skipBlanks h
      simp only [Part.weight, Tree.weight, List.length_cons] at *
      omega
  | string h hs =>
      have := length_of_skipBlanks h
      have := length_of_string hs
      simp only [Part.weight, Tree.weight, List.length_cons] at *
      omega
  | number h hne =>
      have := length_of_skipBlanks h
      have := List.length_pos_iff.mpr hne
      simp only [Part.weight, Tree.weight, List.length_append] at *
      omega
  | emptyList h hend | emptyDict h hend =>
      have := length_of_skipBlanks h
      have := length_of_skipBlanks hend
      simp only [Part.weight, Tree.weight, List.length_cons] at *
      omega
  | list h _ _ ih ih' | item h _ _ ih ih' =>
      have := length_of_skipBlanks h
      simp only [Part.weight, Tree.weight, Tree.weightItems, List.length_cons] at *
      omega
  | @dict _ _ _ _ e _ h _ _ _ ih ih' | @moreEntries _ _ _ _ e _ h _ _ ih ih' =>
      obtain ⟨k, t⟩ := e
      have := length_of_skipBlanks h
      simp only [Part.weight, Tree.weight, Tree.weightEntries, List.length_cons] at *
      omega
  | lastItem h | lastEntry h =>
      have := length_of_skipBlanks h
      simp only [Part.weight, Tree.weightItems, Tree.weightEntries, List.length_cons] at *
      omega
  | entry h hk hcolon _ ih =>
      have := length_of_skipBlanks h
      have := length_of_string hk
      have := length_of_skipBlanks hcolon
      simp only [Part.weight, List.length_cons] at *
      omega

/-- A part starts with no bracket that would end a list or an object. -/
lemma Reads.head {cs rest : List Char} {p : Part S N} (h : Reads r cs p rest) :
    match p with
    | .value _ => ∀ ds, skipBlanks cs ≠ ']' :: ds
    | .entry _ => ∀ ds, skipBlanks cs ≠ '\x7d' :: ds
    | _ => True := by
  cases h with
  | null h | boolTrue h | boolFalse h | string h hs | emptyList h | list h | emptyDict h | dict h
  | entry h =>
      intro ds hds
      rw [h] at hds
      exact absurd (List.cons.inj hds).1 (by decide)
  | number h hne ht =>
      intro ds hds
      obtain ⟨c, cs, rfl⟩ := List.exists_cons_of_ne_nil hne
      rw [h, List.cons_append] at hds
      obtain rfl := (List.cons.inj hds).1
      exact absurd (ht _ (List.mem_cons_self ..)) (by decide)
  | lastItem h | item h | lastEntry h | moreEntries h => trivial

lemma Part.weight_pos (p : Part S N) : 0 < p.weight := by
  cases p with
  | value t => exact t.weight_pos
  | items ts => exact Tree.weightItems_pos ts
  | entry e => exact Nat.add_pos_left one_pos _
  | entries kvs => rcases kvs with _ | ⟨⟨k, t⟩, kvs⟩ <;> simp [Part.weight, Tree.weightEntries]

lemma Part.runs_skipBlanks {fuel : ℕ} {cs rest : List Char} {p : Part S N} :
    p.runs r fuel (skipBlanks cs) rest ↔ p.runs r fuel cs rest := by
  cases fuel <;> cases p <;>
    simp only [Part.runs, Reader.value, Reader.items, Reader.entry, Reader.entries,
      skipBlanks_skipBlanks]

/-- A token is read whole, whatever ends it. -/
lemma Reader.token_append {token rest : List Char} {n : N}
    (ht : ∀ c ∈ token, isNumberChar c = true) (hrest : NoNumberHead rest)
    (hn : r.number token = some n) : r.token (token ++ rest) = some (.num n, rest) := by
  rw [Reader.token, takeWhile_number ht hrest, dropWhile_number ht hrest, hn]
  rfl

/-- What the grammar reads, the functions read, given the fuel it needs. -/
lemma Reads.runs {cs rest : List Char} {p : Part S N} (h : Reads r cs p rest) (fuel : ℕ)
    (hw : p.weight ≤ fuel) : p.runs r fuel cs rest := by
  induction h generalizing fuel with
  | null h | boolTrue h | boolFalse h =>
      obtain ⟨fuel, rfl⟩ := Nat.exists_eq_add_of_le' ((Part.weight_pos _).trans_le hw)
      simp [Part.runs, Reader.value, h]
  | string h hs =>
      obtain ⟨fuel, rfl⟩ := Nat.exists_eq_add_of_le' ((Part.weight_pos _).trans_le hw)
      simp [Part.runs, Reader.value, h, hs]
  | number h hne ht hrest hn =>
      obtain ⟨fuel, rfl⟩ := Nat.exists_eq_add_of_le' ((Part.weight_pos _).trans_le hw)
      have htoken := Reader.token_append ht hrest hn
      obtain ⟨c, cs, rfl⟩ := List.exists_cons_of_ne_nil hne
      have hc := ht c (List.mem_cons_self ..)
      simp only [Part.runs, Reader.value]
      -- No other branch starts with a character of a number.
      split
      all_goals first
        | (rw [h]
           exact htoken)
        | (rename_i heq
           rw [h, List.cons_append] at heq
           obtain rfl := (List.cons.inj heq).1
           exact absurd hc (by decide))
  | emptyList h hend =>
      obtain ⟨fuel, rfl⟩ := Nat.exists_eq_add_of_le' ((Part.weight_pos _).trans_le hw)
      simp [Part.runs, Reader.value, h, hend]
  | emptyDict h hend hkeys =>
      obtain ⟨fuel, rfl⟩ := Nat.exists_eq_add_of_le' ((Part.weight_pos _).trans_le hw)
      simp [Part.runs, Reader.value, Reader.object, h, hend, hkeys]
  | list h ht hts ih ih' =>
      obtain ⟨fuel, rfl⟩ := Nat.exists_eq_add_of_le' ((Part.weight_pos _).trans_le hw)
      simp only [Part.weight, Tree.weight] at hw ih ih'
      have hvalue := Part.runs_skipBlanks.mpr (ih fuel (by omega))
      have hitems := ih' fuel (by omega)
      simp only [Part.runs] at hvalue hitems
      simp only [Part.runs, Reader.value, h]
      split
      · rename_i heq
        exact absurd heq (ht.head _)
      · rw [hvalue]
        simp only [hitems, Option.map_some]
  | dict h he hkvs hkeys ih ih' =>
      rename_i cs mid next rest e kvs
      obtain ⟨fuel, rfl⟩ := Nat.exists_eq_add_of_le' ((Part.weight_pos _).trans_le hw)
      obtain ⟨k, t⟩ := e
      simp only [Part.weight, Tree.weight] at hw ih ih'
      have hentry := Part.runs_skipBlanks.mpr (ih fuel (by omega))
      have hentries := ih' fuel (by omega)
      simp only [Part.runs] at hentry hentries
      simp only [Part.runs, Reader.value, h]
      split
      · rename_i heq
        exact absurd heq (he.head _)
      · rw [hentry]
        simp only [hentries, Option.bind_some, Reader.object, hkeys, if_true, Option.map_some]
  | lastItem h | lastEntry h =>
      obtain ⟨fuel, rfl⟩ := Nat.exists_eq_add_of_le' ((Part.weight_pos _).trans_le hw)
      simp [Part.runs, Reader.items, Reader.entries, h]
  | item h ht hts ih ih' =>
      obtain ⟨fuel, rfl⟩ := Nat.exists_eq_add_of_le' ((Part.weight_pos _).trans_le hw)
      simp only [Part.weight, Tree.weightItems] at hw ih ih'
      have hvalue := ih fuel (by omega)
      have hitems := ih' fuel (by omega)
      simp only [Part.runs] at hvalue hitems
      simp [Part.runs, Reader.items, h, hvalue, hitems]
  | entry h hk hcolon ht ih =>
      obtain ⟨fuel, rfl⟩ := Nat.exists_eq_add_of_le' ((Part.weight_pos _).trans_le hw)
      simp only [Part.weight] at hw ih
      have hvalue := ih fuel (by omega)
      simp only [Part.runs] at hvalue
      simp [Part.runs, Reader.entry, h, hk, hcolon, hvalue]
  | moreEntries h he hkvs ih ih' =>
      rename_i cs mid next rest e kvs
      obtain ⟨fuel, rfl⟩ := Nat.exists_eq_add_of_le' ((Part.weight_pos _).trans_le hw)
      obtain ⟨k, t⟩ := e
      simp only [Part.weight, Tree.weightEntries] at hw ih ih'
      have hentry := ih fuel (by omega)
      have hentries := ih' fuel (by omega)
      simp only [Part.runs] at hentry hentries
      simp [Part.runs, Reader.entries, h, hentry, hentries]

/-- The document read is the one the grammar reads. -/
lemma Reader.read_eq_some {cs : List Char} {t : Tree S N} : r.read cs = some t ↔
    ∃ rest, Reads r cs (.value t) rest ∧ skipBlanks rest = [] := by
  unfold Reader.read
  constructor
  · intro h
    split at h
    · rename_i found rest hvalue
      split at h
      · rename_i hend
        obtain rfl := Option.some.inj h
        exact ⟨rest, reads_of_value hvalue, hend⟩
      · cases h
    · cases h
  · rintro ⟨rest, hreads, hend⟩
    have hweight := hreads.weight_le
    have hvalue := hreads.runs (cs.length + 1) (by omega)
    simp only [Part.runs] at hvalue
    rw [hvalue]
    exact if_pos hend

end CivicGate
