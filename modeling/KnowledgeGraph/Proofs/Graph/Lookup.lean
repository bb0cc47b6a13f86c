import KnowledgeGraph.Graph.Basic
import KnowledgeGraph.Proofs.KeyedMap

/-!
# Looking up nodes

A key says which reference it is the key of (`Ref.key_injective`), because no name of a kind has a
colon.  So in a graph whose nodes stand under their own keys (`Graph.IsKeyed`) a lookup by
reference finds a node of exactly that reference.  Graphs of fragments and unions are such graphs,
and what a lookup finds in them is a matter of the parts they are made of.
-/

namespace KnowledgeGraph

/-! ## Keys -/

/-- The name of a kind has no colon. -/
theorem NodeKind.colon_not_mem_name (kind : NodeKind) : ':' ∉ kind.name.toList := by
  cases kind <;> decide

/-- A kind is found by its name. -/
theorem NodeKind.ofName?_name (kind : NodeKind) : ofName? kind.name = some kind := by
  cases kind <;> decide

theorem NodeKind.name_injective {j k : NodeKind} (h : j.name = k.name) : j = k := by
  have found := NodeKind.ofName?_name j
  rw [h, NodeKind.ofName?_name k] at found
  exact (Option.some.inj found).symm

theorem EdgeKind.name_injective {j k : EdgeKind} (h : j.name = k.name) : j = k := by
  have found (kind : EdgeKind) : ofName? kind.name = some kind := by cases kind <;> decide
  have same := found j
  rw [h, found k] at same
  exact (Option.some.inj same).symm

/-- The characters before the first colon of a text whose first part has none. -/
theorem takeWhile_append_colon {cs : List Char} (h : ':' ∉ cs) (rest : List Char) :
    (cs ++ ':' :: rest).takeWhile (· != ':') = cs := by
  induction cs with
  | nil => simp
  | cons c cs ih =>
    have ⟨ne, tail⟩ := not_or.1 (fun mem => h (List.mem_cons.2 mem))
    have other : (c != ':') = true := by simpa using Ne.symm ne
    simp [other, ih tail]

/-- Two references with one key are one reference. -/
theorem Ref.key_injective {r s : Ref} (h : r.key = s.key) : r = s := by
  obtain ⟨j, a⟩ := r
  obtain ⟨k, b⟩ := s
  have chars : j.name.toList ++ ':' :: a.toList = k.name.toList ++ ':' :: b.toList := by
    simpa [Ref.key] using congrArg String.toList h
  have names : j.name.toList = k.name.toList := by
    rw [← takeWhile_append_colon j.colon_not_mem_name a.toList, chars,
      takeWhile_append_colon k.colon_not_mem_name b.toList]
  have kinds : j = k := NodeKind.name_injective (String.toList_injective names)
  subst kinds
  have ids : a = b := String.toList_injective (by simpa using chars)
  rw [ids]

@[simp] theorem Ref.key_inj {r s : Ref} : r.key = s.key ↔ r = s :=
  ⟨Ref.key_injective, congrArg Ref.key⟩

/-! ## Nodes under their own keys -/

namespace Graph

/-- Every node stands under its own key. -/
def IsKeyed (g : Graph) : Prop := ∀ entry ∈ g.nodes.entries, entry.2.key = entry.1

instance (g : Graph) : Decidable g.IsKeyed :=
  inferInstanceAs (Decidable (∀ entry ∈ g.nodes.entries, entry.2.key = entry.1))

variable {g h : Graph} {r : Ref} {n : Node}

theorem isKeyed_iff : g.IsKeyed ↔ ∀ key n, g.nodes.find? key = some n → n.key = key := by
  constructor
  · intro keyed key n found
    exact keyed (key, n) (KeyedMap.mem_entries_iff.2 found)
  · rintro keyed ⟨key, n⟩ mem
    exact keyed key n (KeyedMap.mem_entries_iff.1 mem)

/-- A lookup finds a node of exactly the given reference. -/
theorem IsKeyed.ref_eq (keyed : g.IsKeyed) (found : g.node? r = some n) : n.ref = r :=
  Ref.key_injective (isKeyed_iff.1 keyed _ _ found)

/-- Every node is found by its reference. -/
theorem IsKeyed.node?_ref (keyed : g.IsKeyed) (mem : n ∈ g.nodes.values) :
    g.node? n.ref = some n := by
  obtain ⟨key, found⟩ := KeyedMap.mem_values_iff.1 mem
  have own : n.key = key := isKeyed_iff.1 keyed _ _ found
  subst own
  exact found

/-- A node that a lookup finds is a node of the graph. -/
theorem mem_values_of_node? (found : g.node? r = some n) : n ∈ g.nodes.values :=
  KeyedMap.mem_values_iff.2 ⟨_, found⟩

theorem contains_eq (g : Graph) (r : Ref) : g.contains r = (g.node? r).isSome := rfl

/-! ## Nodes that are added one after the other -/

/-- Nodes under their own keys, the first one of a key staying. -/
abbrev nodeMap (ns : List Node) : KeyedMap Node :=
  ns.foldl (fun m n => m.insertNew n.key n) .empty

/-- Of nodes that are added one after the other, the first one with the key is found. -/
theorem find?_nodeMap (ns : List Node) (key : String) :
    (nodeMap ns).find? key = ns.find? (·.key == key) := by
  rw [nodeMap, KeyedMap.find?_foldl_insertNew Node.key fun n => n]
  simp

/-- Of nodes that are added one after the other, the first one with the reference is found. -/
theorem find?_nodeMap_key (ns : List Node) (r : Ref) :
    (nodeMap ns).find? r.key = ns.find? (·.ref = r) := by
  rw [find?_nodeMap]
  congr 1
  funext n
  rw [Bool.eq_iff_iff]
  simp [Node.key]

theorem key_of_find?_nodeMap {ns : List Node} {key : String}
    (found : (nodeMap ns).find? key = some n) : n ∈ ns ∧ n.key = key := by
  rw [find?_nodeMap] at found
  exact ⟨List.mem_of_find?_eq_some found, by simpa using List.find?_some found⟩

/-! ## Graphs of fragments -/

theorem find?_nodes_ofFragments (fs : List Fragment) (key : String) :
    (ofFragments fs).nodes.find? key = (fs.flatMap (·.nodes)).find? (·.key == key) :=
  find?_nodeMap _ _

/-- In a graph of fragments, the first node with a reference is found. -/
theorem node?_ofFragments (fs : List Fragment) (r : Ref) :
    (ofFragments fs).node? r = (fs.flatMap (·.nodes)).find? (·.ref = r) :=
  find?_nodeMap_key _ _

theorem isKeyed_ofFragments (fs : List Fragment) : (ofFragments fs).IsKeyed :=
  isKeyed_iff.2 fun _ _ found => (key_of_find?_nodeMap found).2

/-- A node of a graph of fragments is a node of one of them. -/
theorem mem_of_mem_ofFragments {fs : List Fragment} (mem : n ∈ (ofFragments fs).nodes.values) :
    ∃ f ∈ fs, n ∈ f.nodes := by
  obtain ⟨key, found⟩ := KeyedMap.mem_values_iff.1 mem
  simpa using (key_of_find?_nodeMap found).1

/-- The reference of every node of a fragment is found. -/
theorem contains_ofFragments {fs : List Fragment} {f : Fragment} (hf : f ∈ fs)
    (mem : r ∈ f.nodes.map Node.ref) : (ofFragments fs).contains r = true := by
  obtain ⟨n, hn, rfl⟩ := List.mem_map.1 mem
  rw [contains_eq, node?_ofFragments, List.find?_isSome]
  exact ⟨n, List.mem_flatMap.2 ⟨f, hf, hn⟩, by simp⟩

/-! ## Unions -/

/-- In a union, the first graph is looked up first. -/
theorem node?_union (g h : Graph) (r : Ref) : (g.union h).node? r = (g.node? r).or (h.node? r) :=
  KeyedMap.find?_union _ _ _

theorem IsKeyed.union (hg : g.IsKeyed) (hh : h.IsKeyed) : (g.union h).IsKeyed := by
  refine isKeyed_iff.2 fun key n found => ?_
  rw [Graph.union, KeyedMap.find?_union] at found
  rcases Option.or_eq_some_iff.1 found with first | ⟨-, second⟩
  · exact isKeyed_iff.1 hg key n first
  · exact isKeyed_iff.1 hh key n second

/-- A node of a union is a node of one of the graphs. -/
theorem mem_values_union (mem : n ∈ (g.union h).nodes.values) :
    n ∈ g.nodes.values ∨ n ∈ h.nodes.values := by
  obtain ⟨key, found⟩ := KeyedMap.mem_values_iff.1 mem
  rw [Graph.union, KeyedMap.find?_union] at found
  rcases Option.or_eq_some_iff.1 found with first | ⟨-, second⟩
  · exact .inl (KeyedMap.mem_values_iff.2 ⟨key, first⟩)
  · exact .inr (KeyedMap.mem_values_iff.2 ⟨key, second⟩)

end Graph

end KnowledgeGraph
