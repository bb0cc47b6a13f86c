import KnowledgeGraph.Graph.Document
import KnowledgeGraph.Proofs.Graph.Properties
import KnowledgeGraph.Proofs.Graph.Restriction

/-!
# What a document tells of its graph

In a document the properties of a node or an edge stand beside its kind and its ends, and one of
such a name gives way to them.  Where none has (`Node.HidesNothing`, `Edge.HidesNothing`), kind,
ends and properties can be read off the document again.  So graphs whose nodes stand under their own
keys and which hide nothing are as equal as their documents (`Graph.agrees_of_document`).

There are two ways of being equal: doubles can be compared as values, or as numbers, for which the
two zeros are one.  What is said here holds for every relation between values that looks into texts,
lists and objects (`Json.IsStructural`), so for both.
-/

namespace KnowledgeGraph

open KeyedMap (SameEntry)

/-! ## Relations between values -/

namespace Json

/-- A relation between values that looks into them: related texts are equal, and related lists and
objects have related parts, objects under the same names. -/
structure IsStructural (R : Json → Json → Prop) : Prop where
  /-- Related texts are equal. -/
  text : ∀ {s t}, R (.string s) (.string t) → s = t
  /-- Related lists have related items. -/
  items : ∀ {xs ys}, R (.array xs) (.array ys) → List.Forall₂ R xs ys
  /-- Related objects have the same names, and related values under them. -/
  members : ∀ {ms ns}, R (.object ms) (.object ns) → List.Forall₂ (SameEntry R) ms ns

/-- Whether two values are equal when doubles are compared as numbers. -/
def Same (i j : Json) : Prop := (i == j) = true

theorem isStructural_eq : IsStructural (· = ·) where
  text eq := Json.string.inj eq
  items eq := by
    cases eq
    rw [List.forall₂_eq_eq_eq]
  members eq := by
    cases eq
    exact List.forall₂_same.2 fun _ _ => ⟨rfl, rfl⟩

theorem forall₂_of_sameItems : ∀ {xs ys : List Json}, sameItems xs ys = true →
    List.Forall₂ Same xs ys
  | [], [], _ => .nil
  | [], _ :: _, h => nomatch h
  | _ :: _, [], h => nomatch h
  | x :: xs, y :: ys, h => by
    obtain ⟨first, rest⟩ := (Bool.and_eq_true _ _).mp h
    exact .cons first (forall₂_of_sameItems rest)

theorem forall₂_of_sameMembers : ∀ {ms ns : List (String × Json)}, sameMembers ms ns = true →
    List.Forall₂ (SameEntry Same) ms ns
  | [], [], _ => .nil
  | [], _ :: _, h => nomatch h
  | _ :: _, [], h => nomatch h
  | (k, x) :: ms, (l, y) :: ns, h => by
    obtain ⟨first, rest⟩ := (Bool.and_eq_true _ _).mp h
    obtain ⟨key, value⟩ := (Bool.and_eq_true _ _).mp first
    exact .cons ⟨eq_of_beq key, value⟩ (forall₂_of_sameMembers rest)

theorem isStructural_same : IsStructural Same where
  text same := eq_of_beq same
  items same := forall₂_of_sameItems same
  members same := forall₂_of_sameMembers same

variable {R : Json → Json → Prop}

/-- Objects that are related answer every name with related values. -/
theorem IsStructural.rel_find? (hR : IsStructural R) {m n : KeyedMap Json}
    (related : R (.object m.entries) (.object n.entries)) (key : String) :
    Option.Rel R (m.find? key) (n.find? key) :=
  KeyedMap.rel_lookup (hR.members related) key

/-- A member that is set apart from the others: its values are related, and so are the maps without
it. -/
theorem rel_of_insert {m n : KeyedMap Json} {name : String} {v w : Json}
    (hm : m.find? name = none) (hn : n.find? name = none)
    (related : ∀ key, Option.Rel R ((m.insert name v).find? key) ((n.insert name w).find? key)) :
    R v w ∧ ∀ key, Option.Rel R (m.find? key) (n.find? key) := by
  simp only [KeyedMap.find?_insert] at related
  constructor
  · have own := related name
    rw [if_pos rfl, if_pos rfl] at own
    cases own with
    | some value => exact value
  · intro key
    by_cases eq : key = name
    · rw [eq, hm, hn]
      exact .none
    · have other := related key
      rwa [if_neg eq, if_neg eq] at other

end Json

/-! ## References -/

/-- A reference as it stands in a document. -/
theorem Ref.canonical_write (r : Ref) :
    r.write.canonical = .object [("id", .string r.id), ("type", .string r.kind.name)] := by
  have first : ("id" : String) < "type" ↔ True := by decide
  simp [write, Json.canonical, Json.canonicalMembers, KeyedMap.ofList, KeyedMap.insert,
    KeyedMap.upsert, KeyedMap.upsertEntries, KeyedMap.empty, first]

variable {R : Json → Json → Prop}

theorem Ref.eq_of_canonical_write (hR : Json.IsStructural R) {r s : Ref}
    (related : R r.write.canonical s.write.canonical) : r = s := by
  rw [canonical_write, canonical_write] at related
  cases hR.members related with
  | cons id rest =>
    cases rest with
    | cons kind _ =>
      obtain ⟨j, a⟩ := r
      obtain ⟨k, b⟩ := s
      have ids : a = b := hR.text id.2
      have kinds : j = k := NodeKind.name_injective (hR.text kind.2)
      rw [ids, kinds]

/-! ## Nodes and edges -/

/-- The names that stand for the kind and the identifier of a node in its document. -/
def Node.structuralNames : List String := ["type", "id"]

/-- The names that stand for the kind and the ends of an edge in its document. -/
def Edge.structuralNames : List String := ["type", "from", "to"]

/-- No property of a node gives way in its document. -/
def Node.HidesNothing (n : Node) : Prop :=
  ∀ name ∈ structuralNames, n.properties.find? name = none

/-- No property of an edge gives way in its document. -/
def Edge.HidesNothing (e : Edge) : Prop :=
  ∀ name ∈ structuralNames, e.properties.find? name = none

/-- Nodes with one reference and related properties. -/
structure Node.Agrees (R : Json → Json → Prop) (m n : Node) : Prop where
  /-- The references are equal. -/
  ref : m.ref = n.ref
  /-- The properties have the same names and related values. -/
  properties : List.Forall₂ (SameEntry R) m.properties.entries n.properties.entries

/-- Edges of one kind with the same ends and related properties. -/
structure Edge.Agrees (R : Json → Json → Prop) (d e : Edge) : Prop where
  /-- The kinds are equal. -/
  kind : d.kind = e.kind
  /-- The sources are equal. -/
  source : d.source = e.source
  /-- The targets are equal. -/
  target : d.target = e.target
  /-- The properties have the same names and related values. -/
  properties : List.Forall₂ (SameEntry R) d.properties.entries e.properties.entries

/-- Nodes that hide nothing agree as their documents do. -/
theorem Node.agrees_of_document (hR : Json.IsStructural R) {m n : Node} (hm : m.HidesNothing)
    (hn : n.HidesNothing) (related : R m.document n.document) : m.Agrees R n := by
  have free {n : Node} (h : n.HidesNothing) (v : Json) :
      (n.properties.insert "type" v).find? "id" = none := by
    rw [KeyedMap.find?_insert, if_neg (by decide)]
    exact h "id" (by decide)
  have ⟨id, rest⟩ := Json.rel_of_insert (free hm _) (free hn _) (hR.rel_find? related)
  have ⟨kind, properties⟩ :=
    Json.rel_of_insert (hm "type" (by decide)) (hn "type" (by decide)) rest
  refine ⟨?_, KeyedMap.forall₂_entries properties⟩
  rw [ref, ref, NodeKind.name_injective (hR.text kind), hR.text id]

/-- Edges that hide nothing agree as their documents do. -/
theorem Edge.agrees_of_document (hR : Json.IsStructural R) {d e : Edge} (hd : d.HidesNothing)
    (he : e.HidesNothing) (related : R d.document e.document) : d.Agrees R e := by
  have free {e : Edge} (h : e.HidesNothing) (v : Json) :
      (e.properties.insert "type" v).find? "from" = none := by
    rw [KeyedMap.find?_insert, if_neg (by decide)]
    exact h "from" (by decide)
  have freeTarget {e : Edge} (h : e.HidesNothing) (v w : Json) :
      ((e.properties.insert "type" v).insert "from" w).find? "to" = none := by
    rw [KeyedMap.find?_insert, if_neg (by decide), KeyedMap.find?_insert, if_neg (by decide)]
    exact h "to" (by decide)
  have ⟨target, rest⟩ :=
    Json.rel_of_insert (freeTarget hd _ _) (freeTarget he _ _) (hR.rel_find? related)
  have ⟨source, rest⟩ := Json.rel_of_insert (free hd _) (free he _) rest
  have ⟨kind, properties⟩ :=
    Json.rel_of_insert (hd "type" (by decide)) (he "type" (by decide)) rest
  exact ⟨EdgeKind.name_injective (hR.text kind), Ref.eq_of_canonical_write hR source,
    Ref.eq_of_canonical_write hR target, KeyedMap.forall₂_entries properties⟩

/-! ## Graphs -/

namespace Graph

/-- Graphs of one version whose nodes agree, key by key, and whose edges agree in their order. -/
structure Agrees (R : Json → Json → Prop) (g h : Graph) : Prop where
  /-- The versions of the schema are equal. -/
  version : g.schemaVersion = h.schemaVersion
  /-- The nodes stand under the same keys and agree. -/
  nodes : List.Forall₂ (SameEntry (Node.Agrees R)) g.nodes.entries h.nodes.entries
  /-- The edges agree, one by one. -/
  edges : List.Forall₂ (Edge.Agrees R) g.edges h.edges

/-- No property of a node or an edge gives way in the document of the graph. -/
structure HidesNothing (g : Graph) : Prop where
  /-- No property of a node gives way. -/
  nodes : ∀ n ∈ g.nodes.values, n.HidesNothing
  /-- No property of an edge gives way. -/
  edges : ∀ e ∈ g.edges, e.HidesNothing

/-- What relates elements of two lists one by one may use where they come from. -/
theorem forall₂_imp_of_mem {α β : Type} {P Q : α → β → Prop} {as : List α} {bs : List β}
    (h : List.Forall₂ P as bs) (imp : ∀ a ∈ as, ∀ b ∈ bs, P a b → Q a b) :
    List.Forall₂ Q as bs := by
  refine List.forall₂_iff_zip.2 ⟨h.length_eq, fun mem => ?_⟩
  have ⟨ha, hb⟩ := List.of_mem_zip mem
  exact imp _ ha _ hb ((List.forall₂_iff_zip.1 h).2 mem)

/-- Graphs that hide nothing and whose nodes stand under their own keys agree as their documents
do. -/
theorem agrees_of_document (hR : Json.IsStructural R) {g h : Graph} (keyedG : g.IsKeyed)
    (keyedH : h.IsKeyed) (hidesG : g.HidesNothing) (hidesH : h.HidesNothing)
    (related : R g.document h.document) : g.Agrees R h := by
  cases hR.members related with
  | cons version rest =>
  cases rest with
  | cons nodes rest =>
  cases rest with
  | cons edges _ =>
    have nodes := hR.items nodes.2
    have edges := hR.items edges.2
    rw [KeyedMap.values, KeyedMap.values, List.map_map, List.map_map, List.forall₂_map_left_iff,
      List.forall₂_map_right_iff] at nodes
    rw [List.forall₂_map_left_iff, List.forall₂_map_right_iff] at edges
    refine ⟨hR.text version.2, ?_, ?_⟩
    · refine forall₂_imp_of_mem nodes fun x hx y hy documents => ?_
      have agree := Node.agrees_of_document hR (hidesG.nodes _ (List.mem_map_of_mem hx))
        (hidesH.nodes _ (List.mem_map_of_mem hy)) documents
      refine ⟨?_, agree⟩
      rw [← keyedG x hx, ← keyedH y hy, Node.key, Node.key, agree.ref]
    · exact forall₂_imp_of_mem edges fun d hd e he documents =>
        Edge.agrees_of_document hR (hidesG.edges d hd) (hidesH.edges e he) documents

end Graph

/-! ### Two ways of being equal -/

theorem eq_of_forall₂_sameEntry {α : Type} {es ds : List (String × α)}
    (h : List.Forall₂ (SameEntry (· = ·)) es ds) : es = ds := by
  rw [← List.forall₂_eq_eq_eq]
  exact h.imp fun _ _ same => Prod.ext same.1 same.2

theorem PropertyMap.eq_of_agrees {m n : PropertyMap}
    (h : List.Forall₂ (SameEntry (· = ·)) m.entries n.entries) : m = n := by
  cases m
  cases n
  cases eq_of_forall₂_sameEntry h
  rfl

/-- Graphs that agree when values are compared as they are, are equal. -/
theorem Graph.Agrees.eq {g h : Graph} (agree : g.Agrees (· = ·) h) : g = h := by
  have node {m n : Node} (same : m.Agrees (· = ·) n) : m = n := by
    obtain ⟨j, a, ps⟩ := m
    obtain ⟨k, b, qs⟩ := n
    cases same.ref
    have properties : ps = qs := PropertyMap.eq_of_agrees same.properties
    rw [properties]
  have edge {d e : Edge} (same : d.Agrees (· = ·) e) : d = e := by
    obtain ⟨j, r, s, ps⟩ := d
    obtain ⟨k, r', s', qs⟩ := e
    obtain ⟨kind, source, target, properties⟩ := same
    cases kind
    cases source
    cases target
    have properties : ps = qs := PropertyMap.eq_of_agrees properties
    rw [properties]
  have nodes : g.nodes = h.nodes := by
    have entries := eq_of_forall₂_sameEntry (agree.nodes.imp fun _ _ same => ⟨same.1, node same.2⟩)
    cases g with
    | mk nodes _ _ =>
    cases h with
    | mk nodes' _ _ =>
      cases nodes
      cases nodes'
      cases entries
      rfl
  refine eq_of_fields nodes ?_ agree.version
  rw [← List.forall₂_eq_eq_eq]
  exact agree.edges.imp fun _ _ same => edge same

theorem beq_of_forall₂ {α : Type} [BEq α] {as bs : List α}
    (h : List.Forall₂ (fun a b => (a == b) = true) as bs) : (as == bs) = true := by
  induction h with
  | nil => rfl
  | cons first _ ih =>
    rw [List.cons_beq_cons, first, ih]
    rfl

theorem beq_of_sameEntry {α : Type} [BEq α] {e d : String × α}
    (h : SameEntry (fun v w => (v == w) = true) e d) : (e == d) = true :=
  (Bool.and_eq_true _ _).mpr ⟨beq_iff_eq.2 h.1, h.2⟩

/-- Graphs that agree when doubles are compared as numbers, are equal in that sense. -/
theorem Graph.Agrees.beq {g h : Graph} (agree : g.Agrees Json.Same h) : (g == h) = true := by
  have properties {m n : PropertyMap}
      (same : List.Forall₂ (SameEntry Json.Same) m.entries n.entries) :
      (m.entries == n.entries) = true :=
    beq_of_forall₂ (same.imp fun _ _ => beq_of_sameEntry)
  have node {m n : Node} (same : m.Agrees Json.Same n) : (m == n) = true :=
    (Bool.and_eq_true _ _).mpr ⟨beq_iff_eq.2 same.ref, properties same.properties⟩
  have edge {d e : Edge} (same : d.Agrees Json.Same e) : (d == e) = true := by
    show (d.kind == e.kind && d.source == e.source && d.target == e.target &&
      d.properties.entries == e.properties.entries) = true
    rw [beq_iff_eq.2 same.kind, beq_iff_eq.2 same.source, beq_iff_eq.2 same.target,
      properties same.properties]
    rfl
  have nodes : (g.nodes.entries == h.nodes.entries) = true :=
    beq_of_forall₂ (agree.nodes.imp fun _ _ same => beq_of_sameEntry ⟨same.1, node same.2⟩)
  have edges : (g.edges == h.edges) = true :=
    beq_of_forall₂ (agree.edges.imp fun _ _ => edge)
  show (g.nodes.entries == h.nodes.entries && g.edges == h.edges &&
    g.schemaVersion == h.schemaVersion) = true
  rw [nodes, edges, agree.version, beq_self_eq_true]
  rfl

end KnowledgeGraph
