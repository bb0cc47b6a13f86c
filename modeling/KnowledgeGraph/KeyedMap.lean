/-!
# Maps keyed by text

A keyed map is a list of entries whose keys strictly ascend.  The order of the keys is the
order of their code points, which is also the order of their UTF-8 bytes.  Because the order
is part of the type, two maps are equal as soon as they answer every lookup alike
(`KeyedMap.ext`).

There is one way to change a map, `upsert`, and one law about it, `find?_upsert`: it changes
the answer at one key and no other.  `insert` replaces the value of a key.  `insertNew` keeps
it: the first value given for a key is the one that stays.
-/

namespace KnowledgeGraph

/-- Entries in strictly ascending order of their keys. -/
structure KeyedMap (α : Type) where
  /-- The entries. -/
  entries : List (String × α)
  /-- The keys strictly ascend. -/
  ascending : entries.Pairwise fun x y => x.1 < y.1

namespace KeyedMap

variable {α β : Type}

/-! ## Looking up -/

/-- The map without entries. -/
def empty : KeyedMap α := ⟨[], .nil⟩

instance : Inhabited (KeyedMap α) := ⟨empty⟩

/-- The value of a key. -/
def find? (m : KeyedMap α) (key : String) : Option α := m.entries.lookup key

/-- Whether a key has a value. -/
def contains (m : KeyedMap α) (key : String) : Bool := (m.find? key).isSome

/-- The number of entries. -/
def size (m : KeyedMap α) : Nat := m.entries.length

/-- The keys, in ascending order. -/
def keys (m : KeyedMap α) : List String := m.entries.map (·.1)

/-- The values, in ascending order of their keys. -/
def values (m : KeyedMap α) : List α := m.entries.map (·.2)

/-! ## Changing one key -/

/-- Ascending entries with the value of a key replaced by `f` of the value it had. -/
def upsertEntries (key : String) (f : Option α → α) : List (String × α) → List (String × α)
  | [] => [(key, f none)]
  | (k, v) :: rest =>
      if key < k then (key, f none) :: (k, v) :: rest
      else if key = k then (k, f (some v)) :: rest
      else (k, v) :: upsertEntries key f rest

/-- A key of the changed entries is the given key or a key from before. -/
theorem key_of_mem_upsertEntries {key : String} {f : Option α → α} {es : List (String × α)}
    {e : String × α} (h : e ∈ upsertEntries key f es) :
    e.1 = key ∨ ∃ e' ∈ es, e'.1 = e.1 := by
  induction es with
  | nil => simp_all [upsertEntries]
  | cons d rest ih =>
    obtain ⟨k, v⟩ := d
    unfold upsertEntries at h
    split at h
    · rcases List.mem_cons.1 h with rfl | h
      · exact .inl rfl
      · exact .inr ⟨e, h, rfl⟩
    · split at h
      · rcases List.mem_cons.1 h with rfl | h
        · exact .inr ⟨(k, v), by simp, rfl⟩
        · exact .inr ⟨e, List.mem_cons_of_mem _ h, rfl⟩
      · rcases List.mem_cons.1 h with rfl | h
        · exact .inr ⟨(k, v), by simp, rfl⟩
        · rcases ih h with h | ⟨e', he', hk⟩
          · exact .inl h
          · exact .inr ⟨e', List.mem_cons_of_mem _ he', hk⟩

/-- The changed entries still ascend. -/
theorem upsertEntries_ascending {key : String} {f : Option α → α} {es : List (String × α)}
    (h : es.Pairwise fun x y => x.1 < y.1) :
    (upsertEntries key f es).Pairwise fun x y => x.1 < y.1 := by
  induction es with
  | nil => simp [upsertEntries]
  | cons d rest ih =>
    obtain ⟨k, v⟩ := d
    have ⟨above, tail⟩ := List.pairwise_cons.1 h
    unfold upsertEntries
    split
    · rename_i lt
      refine List.pairwise_cons.2 ⟨fun e he => ?_, h⟩
      rcases List.mem_cons.1 he with rfl | he
      · exact lt
      · exact String.lt_trans lt (above e he)
    · split
      · exact List.pairwise_cons.2 ⟨above, tail⟩
      · rename_i nlt ne
        refine List.pairwise_cons.2 ⟨fun e he => ?_, ih tail⟩
        rcases key_of_mem_upsertEntries he with hk | ⟨e', he', hk⟩
        · have le : k ≤ e.1 := hk ▸ String.not_lt.1 nlt
          by_cases lt : k < e.1
          · exact lt
          · exact absurd (hk ▸ String.le_antisymm (String.not_lt.1 lt) le) ne
        · exact hk ▸ above e' he'

/-- The map with the value of a key replaced by `f` of the value it had. -/
def upsert (m : KeyedMap α) (key : String) (f : Option α → α) : KeyedMap α :=
  ⟨upsertEntries key f m.entries, upsertEntries_ascending m.ascending⟩

/-- The map with a value under a key, in place of the one it had. -/
def insert (m : KeyedMap α) (key : String) (value : α) : KeyedMap α :=
  m.upsert key fun _ => value

/-- The map with a value under a key that had none. -/
def insertNew (m : KeyedMap α) (key : String) (value : α) : KeyedMap α :=
  m.upsert key fun old => old.getD value

/-- The entries of a list, the last value of a key winning. -/
def ofList (es : List (String × α)) : KeyedMap α :=
  es.foldl (fun m e => m.insert e.1 e.2) empty

/-- Both maps together, the first one winning where both have a key. -/
def union (m n : KeyedMap α) : KeyedMap α :=
  n.entries.foldl (fun m e => m.insertNew e.1 e.2) m

/-- How often each text occurs in a list. -/
def tally (keys : List String) : KeyedMap Nat :=
  keys.foldl (fun m k => m.upsert k fun n => n.getD 0 + 1) empty

/-! ## Laws of looking up -/

/-- A lookup passes over an entry with another key. -/
theorem lookup_cons_of_ne {key k : String} {v : α} {es : List (String × α)} (h : key ≠ k) :
    List.lookup key ((k, v) :: es) = es.lookup key := by
  have : (key == k) = false := by simpa using h
  simp [List.lookup_cons, this]

/-- Among ascending entries, a key below all of them is not found. -/
theorem lookup_eq_none_of_lt {key : String} {es : List (String × α)}
    (h : ∀ e ∈ es, key < e.1) : es.lookup key = none := by
  induction es with
  | nil => rfl
  | cons d rest ih =>
    obtain ⟨k, v⟩ := d
    have ne : key ≠ k := fun eq => String.lt_irrefl k (eq ▸ h (k, v) (by simp))
    rw [lookup_cons_of_ne ne]
    exact ih fun e he => h e (List.mem_cons_of_mem _ he)

/-- Among ascending entries, a key below the first one is not found. -/
theorem lookup_eq_none_of_lt_head {key k : String} {v : α} {es : List (String × α)}
    (h : ((k, v) :: es).Pairwise fun x y => x.1 < y.1) (lt : key < k) :
    ((k, v) :: es).lookup key = none := by
  refine lookup_eq_none_of_lt fun e he => ?_
  rcases List.mem_cons.1 he with rfl | he
  · exact lt
  · exact String.lt_trans lt ((List.pairwise_cons.1 h).1 e he)

/-- A change of one key changes the answer at that key only. -/
theorem lookup_upsertEntries {key : String} {f : Option α → α} {es : List (String × α)}
    (h : es.Pairwise fun x y => x.1 < y.1) (k : String) :
    (upsertEntries key f es).lookup k =
      if k = key then some (f (es.lookup key)) else es.lookup k := by
  induction es with
  | nil =>
    by_cases eq : k = key
    · subst eq
      simp [upsertEntries]
    · simp [upsertEntries, eq, lookup_cons_of_ne eq]
  | cons d rest ih =>
    obtain ⟨k', v⟩ := d
    have tail := (List.pairwise_cons.1 h).2
    unfold upsertEntries
    split
    · rename_i lt
      by_cases eq : k = key
      · subst eq
        simp [lookup_eq_none_of_lt_head h lt]
      · simp [eq, lookup_cons_of_ne eq]
    · split
      · rename_i same
        subst same
        by_cases eq : k = key
        · subst eq
          simp
        · simp [eq, lookup_cons_of_ne eq]
      · rename_i nlt ne
        by_cases eq : k = k'
        · subst eq
          simp [Ne.symm ne]
        · rw [lookup_cons_of_ne eq, ih tail, lookup_cons_of_ne ne, lookup_cons_of_ne eq]

/-- A change of one key changes the answer at that key only. -/
theorem find?_upsert (m : KeyedMap α) (key : String) (f : Option α → α) (k : String) :
    (m.upsert key f).find? k = if k = key then some (f (m.find? key)) else m.find? k :=
  lookup_upsertEntries m.ascending k

@[simp] theorem find?_empty (k : String) : (empty : KeyedMap α).find? k = none := rfl

/-- The given value is found under its key. -/
theorem find?_insert (m : KeyedMap α) (key : String) (value : α) (k : String) :
    (m.insert key value).find? k = if k = key then some value else m.find? k :=
  find?_upsert m key _ k

/-- The value a key had before stays. -/
theorem find?_insertNew (m : KeyedMap α) (key : String) (value : α) (k : String) :
    (m.insertNew key value).find? k =
      if k = key then some ((m.find? key).getD value) else m.find? k :=
  find?_upsert m key _ k

/-! ## Maps are their answers -/

/-- Ascending entries that answer every lookup alike are the same entries. -/
theorem entries_ext : ∀ {es ds : List (String × α)},
    es.Pairwise (fun x y => x.1 < y.1) → ds.Pairwise (fun x y => x.1 < y.1) →
    (∀ k, es.lookup k = ds.lookup k) → es = ds
  | [], [], _, _, _ => rfl
  | [], (k, v) :: ds, _, _, h => by simpa using h k
  | (k, v) :: es, [], _, _, h => by simpa using h k
  | (k, v) :: es, (k', v') :: ds, hes, hds, h => by
    have ⟨aboveE, tailE⟩ := List.pairwise_cons.1 hes
    have ⟨aboveD, tailD⟩ := List.pairwise_cons.1 hds
    have key : k = k' := by
      refine String.le_antisymm (String.not_lt.1 fun gt => ?_) (String.not_lt.1 fun lt => ?_)
      · have found := h k'
        rw [lookup_eq_none_of_lt_head hes gt] at found
        simp at found
      · have found := h k
        rw [lookup_eq_none_of_lt_head hds lt] at found
        simp at found
    subst key
    have value : v = v' := by simpa using h k
    subst value
    congr 1
    refine entries_ext tailE tailD fun q => ?_
    by_cases eq : q = k
    · subst eq
      rw [lookup_eq_none_of_lt aboveE, lookup_eq_none_of_lt aboveD]
    · simpa [lookup_cons_of_ne eq] using h q

/-- Two maps that answer every lookup alike are equal. -/
theorem ext {m n : KeyedMap α} (h : ∀ k, m.find? k = n.find? k) : m = n := by
  obtain ⟨es, hes⟩ := m
  obtain ⟨ds, hds⟩ := n
  have : es = ds := entries_ext hes hds h
  subst this
  rfl

example : (ofList [("b", 1), ("a", 2), ("b", 3)]).entries = [("a", 2), ("b", 3)] := by
  decide +kernel

end KeyedMap

end KnowledgeGraph
