import Mathlib.Algebra.GroupWithZero.Nat
import Mathlib.Data.List.Forall2
import Mathlib.Data.List.Nodup
import KnowledgeGraph.KeyedMap

/-!
# Entries, folds and unions of keyed maps

The entries of a keyed map are exactly its answers (`mem_entries_iff`), so a statement about all
entries is one about all lookups.  The maps that are filled from a list answer by the list:
filled with `insertNew`, by the first element with the key (`find?_foldl_insertNew`), filled with
`insert`, by the last one (`find?_ofList`), and filled by counting, by the number of occurrences
(`find?_tally`).  A tally of kinds counts every kind that occurs and nothing else, and its numbers
add up (`CountsBy`).

Two maps whose answers are related have the same keys and related values, entry by entry
(`forall₂_entries`).
-/

namespace KnowledgeGraph.KeyedMap

variable {α β : Type}

/-! ## Entries -/

/-- Among ascending entries, the lookup finds every entry. -/
theorem lookup_eq_some_of_mem {es : List (String × α)} {key : String} {v : α}
    (h : es.Pairwise fun x y => x.1 < y.1) (mem : (key, v) ∈ es) : es.lookup key = some v := by
  induction es with
  | nil => simp at mem
  | cons d rest ih =>
    obtain ⟨k, w⟩ := d
    have ⟨above, tail⟩ := List.pairwise_cons.1 h
    rcases List.mem_cons.1 mem with eq | mem
    · cases eq
      simp
    · have ne : key ≠ k := fun eq => String.lt_irrefl k (eq ▸ above (key, v) mem)
      rw [lookup_cons_of_ne ne]
      exact ih tail mem

/-- The entries are the answers. -/
theorem mem_entries_iff {m : KeyedMap α} {key : String} {v : α} :
    (key, v) ∈ m.entries ↔ m.find? key = some v := by
  constructor
  · exact lookup_eq_some_of_mem m.ascending
  · intro found
    obtain ⟨before, after, eq, -⟩ := List.lookup_eq_some_iff.1 found
    rw [eq]
    simp

/-- The values are the answers. -/
theorem mem_values_iff {m : KeyedMap α} {v : α} :
    v ∈ m.values ↔ ∃ key, m.find? key = some v := by
  simp only [values, List.mem_map]
  constructor
  · rintro ⟨⟨key, w⟩, mem, rfl⟩
    exact ⟨key, mem_entries_iff.1 mem⟩
  · rintro ⟨key, found⟩
    exact ⟨(key, v), mem_entries_iff.2 found, rfl⟩

/-- The entries whose values pass a test. -/
def filter (test : α → Bool) (m : KeyedMap α) : KeyedMap α :=
  ⟨m.entries.filter fun e => test e.2, m.ascending.filter _⟩

theorem find?_filter (test : α → Bool) (m : KeyedMap α) (key : String) :
    (m.filter test).find? key = (m.find? key).filter test := by
  refine Option.ext fun v => ?_
  rw [Option.filter_eq_some_iff, ← mem_entries_iff, ← mem_entries_iff]
  exact List.mem_filter

theorem filter_filter (test test' : α → Bool) (m : KeyedMap α) :
    (m.filter test').filter test = m.filter fun v => test' v && test v := by
  refine ext fun key => ?_
  rw [find?_filter, find?_filter, find?_filter, Option.filter_filter]

/-- The keys of a map do not repeat. -/
theorem nodup_keys (m : KeyedMap α) : m.keys.Nodup := by
  refine List.pairwise_map.2 (m.ascending.imp fun {x y} lt eq => ?_)
  rw [eq] at lt
  exact String.lt_irrefl _ lt

theorem mem_keys_iff {m : KeyedMap α} {key : String} : key ∈ m.keys ↔ m.contains key = true := by
  rw [keys, contains, Option.isSome_iff_exists, List.mem_map]
  constructor
  · rintro ⟨⟨k, v⟩, mem, rfl⟩
    exact ⟨v, mem_entries_iff.1 mem⟩
  · rintro ⟨v, found⟩
    exact ⟨(key, v), mem_entries_iff.2 found, rfl⟩

/-- Two maps with the same keys have them in the same order, whatever the values are. -/
theorem keys_ext {m : KeyedMap α} {n : KeyedMap β}
    (same : ∀ key, m.contains key = true ↔ n.contains key = true) : m.keys = n.keys := by
  have perm : m.keys.Perm n.keys := by
    rw [List.perm_ext_iff_of_nodup m.nodup_keys n.nodup_keys]
    intro key
    rw [mem_keys_iff, mem_keys_iff]
    exact same key
  have ascM : m.keys.Pairwise (· < ·) := List.pairwise_map.2 m.ascending
  have ascN : n.keys.Pairwise (· < ·) := List.pairwise_map.2 n.ascending
  refine List.Perm.eq_of_pairwise ?_ ascM ascN perm
  intro a b _ _ lt gt
  exact absurd gt (String.lt_asymm lt)

/-! ## Maps with related values -/

/-- Entries with one key and related values. -/
def SameEntry (R : α → β → Prop) (e : String × α) (d : String × β) : Prop :=
  e.1 = d.1 ∧ R e.2 d.2

/-- Entries that are related one by one answer every lookup with related values. -/
theorem rel_lookup {R : α → β → Prop} {es : List (String × α)} {ds : List (String × β)}
    (h : List.Forall₂ (SameEntry R) es ds) (key : String) :
    Option.Rel R (es.lookup key) (ds.lookup key) := by
  induction h with
  | nil => exact .none
  | @cons e d es ds related _ ih =>
    obtain ⟨k, v⟩ := e
    obtain ⟨k', w⟩ := d
    obtain ⟨same, value⟩ := related
    simp only at same value
    subst same
    by_cases eq : key = k
    · subst eq
      simpa using Option.Rel.some value
    · rw [lookup_cons_of_ne eq, lookup_cons_of_ne eq]
      exact ih

/-- Maps that answer every lookup with related values have entries that are related one by one. -/
theorem forall₂_entries {R : α → β → Prop} {m : KeyedMap α} {n : KeyedMap β}
    (h : ∀ key, Option.Rel R (m.find? key) (n.find? key)) :
    List.Forall₂ (SameEntry R) m.entries n.entries := by
  have keys : m.entries.map (·.1) = n.entries.map (·.1) := by
    refine keys_ext fun key => ?_
    rw [contains, contains]
    generalize m.find? key = v, n.find? key = w, h key = related
    cases related <;> simp
  have values : ∀ e ∈ m.entries, ∀ d ∈ n.entries, e.1 = d.1 → R e.2 d.2 := by
    rintro ⟨k, v⟩ he ⟨k', w⟩ hd rfl
    have related := h k
    rw [mem_entries_iff.1 he, mem_entries_iff.1 hd] at related
    cases related with
    | some value => exact value
  rw [← List.forall₂_eq_eq_eq, List.forall₂_map_left_iff, List.forall₂_map_right_iff] at keys
  refine List.forall₂_iff_zip.2 ⟨keys.length_eq, fun mem => ?_⟩
  have same := (List.forall₂_iff_zip.1 keys).2 mem
  have ⟨he, hd⟩ := List.of_mem_zip mem
  exact ⟨same, values _ he _ hd same⟩

/-! ## Maps filled from a list -/

/-- A map filled with `insertNew` answers by what it had before, and then by the first element
with the key. -/
theorem find?_foldl_insertNew (key : β → String) (value : β → α) (bs : List β) (m : KeyedMap α)
    (k : String) :
    (bs.foldl (fun m b => m.insertNew (key b) (value b)) m).find? k =
      (m.find? k).or ((bs.find? fun b => key b == k).map value) := by
  induction bs generalizing m with
  | nil => simp
  | cons b bs ih =>
    rw [List.foldl_cons, ih, find?_insertNew, List.find?_cons]
    by_cases eq : k = key b
    · subst eq
      cases m.find? (key b) <;> simp
    · have ne : (key b == k) = false := by simpa using Ne.symm eq
      simp [eq, ne]

/-- A union answers by the first map, and then by the second. -/
theorem find?_union (m n : KeyedMap α) (k : String) :
    (m.union n).find? k = (m.find? k).or (n.find? k) := by
  have second : (n.entries.find? fun e => e.1 == k).map (·.2) = n.find? k := by
    cases found : n.find? k with
    | none =>
      have absent := List.lookup_eq_none_iff.1 found
      have : (n.entries.find? fun e => e.1 == k) = none := by
        simp only [List.find?_eq_none, beq_iff_eq]
        intro e mem eq
        simpa [eq] using absent e mem
      simp [this]
    | some v =>
      have mem := mem_entries_iff.2 found
      cases eq : n.entries.find? fun e => e.1 == k with
      | none => simpa using List.find?_eq_none.1 eq _ mem
      | some e =>
        have key : e.1 = k := by simpa using List.find?_some eq
        have value := mem_entries_iff.1 (List.mem_of_find?_eq_some eq)
        rw [key, found] at value
        simpa using value.symm
  rw [union, find?_foldl_insertNew, second]

/-- A map that is filled on answers by the last entry with the key, and then by what it had
before. -/
theorem find?_foldl_insert (es : List (String × α)) (m : KeyedMap α) (k : String) :
    (es.foldl (fun m e => m.insert e.1 e.2) m).find? k = (es.reverse.lookup k).or (m.find? k) := by
  induction es generalizing m with
  | nil => rfl
  | cons e es ih =>
    obtain ⟨key, v⟩ := e
    rw [List.foldl_cons, ih, find?_insert, List.reverse_cons, List.lookup_append, Option.or_assoc]
    congr 1
    by_cases eq : k = key
    · subst eq
      simp
    · simp [eq, lookup_cons_of_ne eq]

/-- A map of entries answers by the last one with the key. -/
theorem find?_ofList (es : List (String × α)) (k : String) :
    (ofList es).find? k = es.reverse.lookup k := by
  rw [ofList, find?_foldl_insert, find?_empty, Option.or_none]

/-- The entries of a map are among those it was made of. -/
theorem mem_of_mem_entries_ofList {es : List (String × α)} {e : String × α}
    (mem : e ∈ (ofList es).entries) : e ∈ es := by
  obtain ⟨k, v⟩ := e
  rw [mem_entries_iff, find?_ofList] at mem
  obtain ⟨before, after, eq, -⟩ := List.lookup_eq_some_iff.1 mem
  rw [← List.mem_reverse, eq]
  simp

/-- Among entries with keys that pass a test, only such keys are found. -/
theorem lookup_filter_key (test : String → Bool) (es : List (String × α)) (k : String) :
    (es.filter fun e => test e.1).lookup k = if test k then es.lookup k else none := by
  induction es with
  | nil => simp
  | cons e es ih =>
    obtain ⟨key, v⟩ := e
    by_cases eq : k = key
    · subst eq
      cases pass : test k
      · simp [pass, ih]
      · simp [pass]
    · cases pass : test key <;> simp [pass, ih, lookup_cons_of_ne eq]

/-- Leaving out keys before or after a map is made is the same. -/
theorem entries_ofList_filter (test : String → Bool) (es : List (String × α)) :
    (ofList es).entries.filter (fun e => test e.1) =
      (ofList (es.filter fun e => test e.1)).entries := by
  refine entries_ext ((ofList es).ascending.filter _) (ofList _).ascending fun k => ?_
  rw [lookup_filter_key, ← find?, ← find?, find?_ofList, find?_ofList, ← List.filter_reverse,
    lookup_filter_key]

/-- Entries without a repeated key are, in some order, those of their map. -/
theorem entries_ofList_perm {es : List (String × α)} (nodup : (es.map (·.1)).Nodup) :
    (ofList es).entries.Perm es := by
  have distinct : (ofList es).entries.Nodup := List.Nodup.of_map _ (ofList es).nodup_keys
  refine (List.perm_ext_iff_of_nodup distinct (List.Nodup.of_map _ nodup)).2 fun e => ?_
  refine ⟨mem_of_mem_entries_ofList, fun mem => ?_⟩
  obtain ⟨k, v⟩ := e
  obtain ⟨before, after, eq⟩ := List.append_of_mem mem
  have absent : k ∉ after.map (·.1) := by
    rw [eq, List.map_append, List.map_cons] at nodup
    exact (List.nodup_cons.1 (List.nodup_append.1 nodup).2.1).1
  rw [mem_entries_iff, find?_ofList, eq, List.reverse_append, List.reverse_cons, List.append_assoc,
    List.lookup_append]
  have none : after.reverse.lookup k = none := by
    refine List.lookup_eq_none_iff.2 fun d found => ?_
    rw [bne_iff_ne]
    rintro rfl
    exact absent (List.mem_map_of_mem (List.mem_reverse.1 found))
  simp [none]

/-- Counting on adds the number of occurrences to what was there. -/
theorem find?_foldl_count (ks : List String) (m : KeyedMap Nat) (k : String) :
    (ks.foldl (fun m k => m.upsert k fun n => n.getD 0 + 1) m).find? k =
      if k ∈ ks then some ((m.find? k).getD 0 + ks.count k) else m.find? k := by
  induction ks generalizing m with
  | nil => simp
  | cons a ks ih =>
    rw [List.foldl_cons, ih, find?_upsert]
    by_cases eq : k = a
    · subst eq
      by_cases mem : k ∈ ks
      · simp [mem]
        omega
      · simp [mem, List.count_eq_zero_of_not_mem mem]
    · simp [eq, List.count_cons_of_ne (Ne.symm eq)]

/-- A tally answers with the number of occurrences. -/
theorem find?_tally (ks : List String) (k : String) :
    (tally ks).find? k = if k ∈ ks then some (ks.count k) else none := by
  simp [tally, find?_foldl_count]

/-! ## Counts by kind -/

theorem sum_upsertEntries_count (key : String) (es : List (String × Nat)) :
    ((upsertEntries key (fun n => n.getD 0 + 1) es).map (·.2)).sum = (es.map (·.2)).sum + 1 := by
  induction es with
  | nil => rfl
  | cons d rest ih =>
    obtain ⟨k, n⟩ := d
    unfold upsertEntries
    split
    · simp only [Option.getD_none, List.map_cons, List.sum_cons]
      omega
    · split
      · simp only [Option.getD_some, List.map_cons, List.sum_cons]
        omega
      · simp only [List.map_cons, List.sum_cons, ih]
        omega

theorem sum_values_foldl_count (ks : List String) (m : KeyedMap Nat) :
    (ks.foldl (fun m k => m.upsert k fun n => n.getD 0 + 1) m).values.sum =
      m.values.sum + ks.length := by
  induction ks generalizing m with
  | nil => rfl
  | cons k ks ih =>
    have one : (m.upsert k fun n => n.getD 0 + 1).values.sum = m.values.sum + 1 :=
      sum_upsertEntries_count k m.entries
    rw [List.foldl_cons, ih, one, List.length_cons]
    omega

/-- The numbers of a tally add up to the number of all that was counted. -/
theorem sum_values_tally (ks : List String) : (tally ks).values.sum = ks.length := by
  rw [tally, sum_values_foldl_count]
  exact Nat.zero_add _

/-- The numbers of the elements of each kind, under the names of the kinds that occur. -/
structure CountsBy {α κ : Type} [DecidableEq κ] (name : κ → String) (kind : α → κ) (as : List α)
    (counts : KeyedMap Nat) : Prop where
  /-- A kind that occurs has the number of its elements, and one that does not has none. -/
  count : ∀ k, counts.find? (name k) =
    if ∃ a ∈ as, kind a = k then some (as.countP (kind · = k)) else none
  /-- Nothing but kinds is counted. -/
  named : ∀ key, counts.contains key = true → ∃ k, name k = key
  /-- The numbers add up to the number of all elements. -/
  total : counts.values.sum = as.length

/-- A tally of the names of kinds counts by kind, if different kinds have different names. -/
theorem countsBy_tally {α κ : Type} [DecidableEq κ] {name : κ → String}
    (injective : ∀ {j k}, name j = name k → j = k) (kind : α → κ) (as : List α) :
    CountsBy name kind as (tally (as.map fun a => name (kind a))) where
  count k := by
    have occurs : name k ∈ as.map (fun a => name (kind a)) ↔ ∃ a ∈ as, kind a = k := by
      rw [List.mem_map]
      constructor
      · rintro ⟨a, mem, same⟩
        exact ⟨a, mem, injective same⟩
      · rintro ⟨a, mem, rfl⟩
        exact ⟨a, mem, rfl⟩
    have number : (as.map fun a => name (kind a)).count (name k) = as.countP (kind · = k) := by
      rw [List.count, List.countP_map]
      refine List.countP_congr fun a _ => ?_
      rw [Function.comp_apply, beq_iff_eq, decide_eq_true_eq]
      exact ⟨injective, congrArg name⟩
    rw [find?_tally, number]
    simp only [occurs]
  named key counted := by
    obtain ⟨n, found⟩ := Option.isSome_iff_exists.1 counted
    rw [find?_tally] at found
    split at found
    · next mem =>
      obtain ⟨a, -, same⟩ := List.mem_map.1 mem
      exact ⟨kind a, same⟩
    · cases found
  total := by rw [sum_values_tally, List.length_map]

end KnowledgeGraph.KeyedMap
