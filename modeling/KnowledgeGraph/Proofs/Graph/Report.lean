import Mathlib.Data.List.Basic
import KnowledgeGraph.Graph.Wording
import KnowledgeGraph.Proofs.Graph.Lookup

/-!
# What a report says of a graph

A graph may be anything: nodes may stand under keys that are not their own, several nodes may have
one key, and edges may lead nowhere.  The report says exactly what is the case
(`Graph.isReportedBy_report`).

* The graph is sound when its nodes have different keys and both ends of every edge are found.
* There is one line for every key that several nodes have, and one for each of the first ten ends
  that are not found.  If there are more, one line counts the others.
* There is one line for every node under a key that is not its own.
* Nodes and edges are counted by kind.

What a report says is put apart from how it gets there.  `ListsRepeated` and `ListsUnresolved` say
what the lists hold and in which order, so each of them allows one list only.
-/

namespace KnowledgeGraph

/-! ## Ends of edges at their places -/

/-- The two sides of an edge. -/
inductive Side where
  /-- The side that the edge starts from. -/
  | source
  /-- The side that the edge leads to. -/
  | target
deriving DecidableEq

instance {p : Side → Prop} [DecidablePred p] : Decidable (∀ side, p side) :=
  decidable_of_iff (p .source ∧ p .target)
    ⟨fun both side => side.casesOn both.1 both.2, fun all => ⟨all .source, all .target⟩⟩

/-- The word for a side. -/
def Side.word : Side → String
  | .source => "from"
  | .target => "to"

/-- The reference at a side of an edge. -/
def Edge.refAt (e : Edge) : Side → Ref
  | .source => e.source
  | .target => e.target

/-- An end of an edge that has a place among edges. -/
structure EdgeEnd where
  /-- The place of the edge. -/
  index : Nat
  /-- The edge. -/
  edge : Edge
  /-- The side of the edge. -/
  side : Side

namespace EdgeEnd

/-- The reference at the end. -/
def ref (p : EdgeEnd) : Ref := p.edge.refAt p.side

/-- Ends come in the order of their edges, and the source of an edge before its target. -/
def Precedes (p q : EdgeEnd) : Prop :=
  p.index < q.index ∨ p.index = q.index ∧ p.side = .source ∧ q.side = .target

/-- The defect of an end that is not found. -/
def defect (p : EdgeEnd) : Defect := .dangling p.index p.edge.kind p.side.word p.ref

end EdgeEnd

namespace Graph

/-! ## What is the case -/

/-- The number of nodes that have a key, under whatever keys they stand. -/
def multiplicity (g : Graph) (key : String) : Nat := g.nodes.entries.countP (·.2.key = key)

/-- No two nodes have one key. -/
def HasDistinctNodes (g : Graph) : Prop :=
  g.nodes.entries.Pairwise fun x y => x.2.key ≠ y.2.key

/-- Both ends of every edge are found. -/
def ResolvesEnds (g : Graph) : Prop :=
  ∀ e ∈ g.edges, ∀ side, ∃ n, g.node? (e.refAt side) = some n

/-- The keys that several nodes have, in their order. -/
structure ListsRepeated (g : Graph) (keys : List String) : Prop where
  /-- The keys ascend. -/
  ascending : keys.Pairwise (· < ·)
  /-- A key is listed exactly if several nodes have it. -/
  mem_iff : ∀ key, key ∈ keys ↔ 1 < g.multiplicity key

/-- The ends of edges that are not found, in their order. -/
structure ListsUnresolved (g : Graph) (ends : List EdgeEnd) : Prop where
  /-- The ends are in their order. -/
  ordered : ends.Pairwise EdgeEnd.Precedes
  /-- An end is listed exactly if it is the end of an edge of the graph and is not found. -/
  mem_iff : ∀ p, p ∈ ends ↔ g.edges[p.index]? = some p.edge ∧ g.node? p.ref = none

/-- A report on a graph that says exactly what is the case. -/
structure IsReportedBy (g : Graph) (r : Report) : Prop where
  /-- The graph is sound exactly if its nodes have different keys and the ends of its edges are
  found. -/
  sound : r.isSound = true ↔ g.HasDistinctNodes ∧ g.ResolvesEnds
  /-- What is wrong: the keys that several nodes have, then the first ten ends that are not found,
  and the number of the others if there are any. -/
  errors : ∃ repeated unresolved, g.ListsRepeated repeated ∧ g.ListsUnresolved unresolved ∧
    r.defects.map Defect.message =
      repeated.map (fun key => "duplicate node key " ++ key ++ " (" ++
        toString (g.multiplicity key) ++ " nodes)") ++
      (unresolved.take 10).map (fun p => "edge #" ++ toString p.index ++ " (" ++
        p.edge.kind.name ++ ") has dangling " ++ p.side.word ++ " endpoint " ++ p.ref.key) ++
      (if 10 < unresolved.length then
        ["+" ++ toString (unresolved.length - 10) ++ " more dangling edge endpoints"]
      else [])
  /-- What is odd: the nodes under keys that are not their own, and perhaps the number of nodes
  without properties. -/
  warnings : ∃ bare, (bare = [] ∨ bare = [.manyBare r.census.bareNodes r.census.nodes]) ∧
    r.oddities.map Oddity.message =
      (g.nodes.entries.filter fun x => x.2.key ≠ x.1).map
        (fun x => "node " ++ x.2.key ++ " stored under key " ++ x.1) ++ bare.map Oddity.message
  /-- The number of nodes. -/
  nodes : r.census.nodes = g.nodes.entries.length
  /-- The number of edges. -/
  edges : r.census.edges = g.edges.length
  /-- The numbers of nodes of each kind. -/
  nodesByKind :
    KeyedMap.CountsBy NodeKind.name (·.2.kind) g.nodes.entries r.census.nodesByKind
  /-- The numbers of edges of each kind. -/
  edgesByKind : KeyedMap.CountsBy EdgeKind.name Edge.kind g.edges r.census.edgesByKind

variable {g : Graph}

/-! ## Keys that several nodes have -/

theorem multiplicity_eq_count (g : Graph) (key : String) :
    g.multiplicity key = g.ownKeys.count key := by
  rw [multiplicity, ownKeys, KeyedMap.values, List.map_map, List.count, List.countP_map]
  refine List.countP_congr fun x _ => ?_
  rw [decide_eq_true_eq, Function.comp_apply, beq_iff_eq]
  rfl

theorem hasDistinctNodes_iff : g.HasDistinctNodes ↔ g.ownKeys.Nodup := by
  rw [HasDistinctNodes, ownKeys, KeyedMap.values, List.map_map, List.Nodup, List.pairwise_map]
  rfl

/-- No two nodes that stand under their own keys have one key. -/
theorem IsKeyed.hasDistinctNodes (keyed : g.IsKeyed) : g.HasDistinctNodes := by
  refine g.nodes.ascending.imp_of_mem fun {x y} hx hy lt => ?_
  rw [keyed x hx, keyed y hy]
  exact String.ne_of_lt lt

theorem IsKeyed.nodup_ownKeys (keyed : g.IsKeyed) : g.ownKeys.Nodup :=
  hasDistinctNodes_iff.1 keyed.hasDistinctNodes

/-- The keys that several nodes have. -/
def repeatedKeys (g : Graph) : List String :=
  ((KeyedMap.tally g.ownKeys).entries.filter (1 < ·.2)).map (·.1)

theorem mem_entries_tally_ownKeys {key : String} {n : Nat} :
    (key, n) ∈ (KeyedMap.tally g.ownKeys).entries ↔ 0 < n ∧ g.multiplicity key = n := by
  rw [KeyedMap.mem_entries_iff, KeyedMap.find?_tally, multiplicity_eq_count]
  constructor
  · intro found
    split at found
    · next mem =>
      cases found
      exact ⟨List.count_pos_iff.2 mem, rfl⟩
    · cases found
  · rintro ⟨pos, rfl⟩
    rw [if_pos (List.count_pos_iff.1 pos)]

theorem listsRepeated_repeatedKeys (g : Graph) : g.ListsRepeated g.repeatedKeys where
  ascending := by
    rw [repeatedKeys, List.pairwise_map]
    exact (KeyedMap.tally g.ownKeys).ascending.filter _
  mem_iff key := by
    rw [repeatedKeys, List.mem_map]
    constructor
    · rintro ⟨⟨k, n⟩, mem, rfl⟩
      have ⟨mem, many⟩ := List.mem_filter.1 mem
      rw [(mem_entries_tally_ownKeys.1 mem).2]
      exact of_decide_eq_true many
    · intro many
      have mem : (key, g.multiplicity key) ∈ (KeyedMap.tally g.ownKeys).entries :=
        mem_entries_tally_ownKeys.2 ⟨Nat.zero_lt_of_lt many, rfl⟩
      exact ⟨(key, g.multiplicity key), List.mem_filter.2 ⟨mem, decide_eq_true many⟩, rfl⟩

theorem duplicateKeys_eq (g : Graph) :
    g.duplicateKeys = g.repeatedKeys.map fun key => .duplicateKey key (g.multiplicity key) := by
  rw [duplicateKeys, repeatedKeys, List.map_map, ← List.filterMap_eq_map, List.filterMap_filter]
  refine List.filterMap_congr fun x mem => ?_
  obtain ⟨key, n⟩ := x
  rw [Function.comp_apply, Function.comp_apply, (mem_entries_tally_ownKeys.1 mem).2]
  simp only [decide_eq_true_eq]

theorem duplicateKeys_eq_nil_iff : g.duplicateKeys = [] ↔ g.HasDistinctNodes := by
  rw [duplicateKeys_eq, List.map_eq_nil_iff, hasDistinctNodes_iff, List.nodup_iff_count,
    List.eq_nil_iff_forall_not_mem]
  refine forall_congr' fun key => ?_
  rw [(listsRepeated_repeatedKeys g).mem_iff, multiplicity_eq_count, Nat.not_lt]

/-! ## Ends that are not found -/

theorem resolvesEnds_iff : g.ResolvesEnds ↔
    ∀ e ∈ g.edges, g.contains e.source = true ∧ g.contains e.target = true := by
  refine forall_congr' fun e => forall_congr' fun _ => ?_
  rw [contains_eq, contains_eq, Option.isSome_iff_exists, Option.isSome_iff_exists]
  constructor
  · intro found
    exact ⟨found .source, found .target⟩
  · rintro ⟨source, target⟩ side
    cases side with
    | source => exact source
    | target => exact target

/-- The ends of edges that are not found.  `index` is the place of the first of the edges. -/
def unresolvedFrom (g : Graph) : Nat → List Edge → List EdgeEnd
  | _, [] => []
  | index, e :: es =>
      [⟨index, e, .source⟩, ⟨index, e, .target⟩].filter (fun p => (g.node? p.ref).isNone) ++
        g.unresolvedFrom (index + 1) es

theorem mem_ends_iff {p : EdgeEnd} {index : Nat} {e : Edge} :
    p ∈ ([⟨index, e, .source⟩, ⟨index, e, .target⟩] : List EdgeEnd) ↔
      p.index = index ∧ p.edge = e := by
  obtain ⟨i, d, side⟩ := p
  cases side <;> simp

/-- Edges are placed from `index` on. -/
theorem mem_unresolvedFrom {p : EdgeEnd} {index : Nat} {es : List Edge} :
    p ∈ g.unresolvedFrom index es ↔
      (∃ i, p.index = index + i ∧ es[i]? = some p.edge) ∧ g.node? p.ref = none := by
  induction es generalizing index with
  | nil => simp [unresolvedFrom]
  | cons e es ih =>
    rw [unresolvedFrom, List.mem_append, List.mem_filter, mem_ends_iff, ih,
      Option.isNone_iff_eq_none]
    constructor
    · rintro (⟨⟨place, rfl⟩, missing⟩ | ⟨⟨i, place, found⟩, missing⟩)
      · exact ⟨⟨0, place, rfl⟩, missing⟩
      · exact ⟨⟨i + 1, by omega, found⟩, missing⟩
    · rintro ⟨⟨i, place, found⟩, missing⟩
      cases i with
      | zero => exact .inl ⟨⟨place, (Option.some.inj found).symm⟩, missing⟩
      | succ i => exact .inr ⟨⟨i, by omega, found⟩, missing⟩

theorem ordered_unresolvedFrom (g : Graph) (index : Nat) (es : List Edge) :
    (g.unresolvedFrom index es).Pairwise EdgeEnd.Precedes := by
  induction es generalizing index with
  | nil => exact .nil
  | cons e es ih =>
    rw [unresolvedFrom, List.pairwise_append]
    refine ⟨?_, ih (index + 1), ?_⟩
    · have sides : EdgeEnd.Precedes ⟨index, e, .source⟩ ⟨index, e, .target⟩ :=
        .inr ⟨rfl, rfl, rfl⟩
      exact (List.pairwise_pair.2 sides).filter _
    · -- The ends of the first edge come before those of all edges at later places.
      intro p hp q hq
      have first := (mem_ends_iff.1 (List.mem_filter.1 hp).1).1
      obtain ⟨⟨i, later, -⟩, -⟩ := mem_unresolvedFrom.1 hq
      exact .inl (by omega)

theorem danglingFrom_eq (g : Graph) (index : Nat) (es : List Edge) :
    g.danglingFrom index es = (g.unresolvedFrom index es).map EdgeEnd.defect := by
  induction es generalizing index with
  | nil => rfl
  | cons e es ih =>
    rw [danglingFrom, unresolvedFrom, ih, List.map_append, endpoints]
    congr 1
    cases source : g.node? e.source <;> cases target : g.node? e.target <;>
      simp [contains_eq, EdgeEnd.ref, Edge.refAt, source, target, EdgeEnd.defect, Side.word]

/-- The ends of the edges of a graph that are not found. -/
def unresolvedEnds (g : Graph) : List EdgeEnd := g.unresolvedFrom 0 g.edges

theorem listsUnresolved_unresolvedEnds (g : Graph) : g.ListsUnresolved g.unresolvedEnds where
  ordered := ordered_unresolvedFrom g 0 g.edges
  mem_iff p := by
    rw [unresolvedEnds, mem_unresolvedFrom]
    refine and_congr_left fun _ => ?_
    constructor
    · rintro ⟨i, place, found⟩
      rw [place, Nat.zero_add]
      exact found
    · intro found
      exact ⟨p.index, (Nat.zero_add _).symm, found⟩

theorem danglingEnds_eq (g : Graph) : g.danglingEnds = g.unresolvedEnds.map EdgeEnd.defect :=
  danglingFrom_eq g 0 g.edges

theorem danglingEnds_eq_nil_iff : g.danglingEnds = [] ↔ g.ResolvesEnds := by
  rw [danglingEnds_eq, List.map_eq_nil_iff, List.eq_nil_iff_forall_not_mem]
  constructor
  · intro none e he side
    obtain ⟨i, found⟩ := List.getElem?_of_mem he
    have listed := none ⟨i, e, side⟩
    rw [(listsUnresolved_unresolvedEnds g).mem_iff, not_and] at listed
    exact Option.ne_none_iff_exists'.1 (listed found)
  · intro resolved p listed
    have ⟨found, missing⟩ := ((listsUnresolved_unresolvedEnds g).mem_iff p).1 listed
    obtain ⟨n, there⟩ := resolved p.edge (List.mem_of_getElem? found) p.side
    rw [EdgeEnd.ref, there] at missing
    cases missing

/-- The defects that are listed: the first ten, and the number of the others if there are any. -/
theorem capDangling_eq (defects : List Defect) :
    capDangling defects = defects.take 10 ++
      if 10 < defects.length then [.moreDangling (defects.length - 10)] else [] := by
  rw [capDangling, danglingLimit]
  split
  · rfl
  · next few => rw [List.take_of_length_le (Nat.not_lt.1 few), List.append_nil]

theorem capDangling_eq_nil_iff {defects : List Defect} :
    capDangling defects = [] ↔ defects = [] := by
  cases defects with
  | nil => simp [capDangling]
  | cons d ds => simp [capDangling_eq]

/-! ## The report -/

/-- Nothing is wrong with a graph exactly if its nodes have different keys and the ends of its edges
are found. -/
theorem isSound_report_iff : g.report.isSound = true ↔ g.HasDistinctNodes ∧ g.ResolvesEnds := by
  rw [Report.isSound, List.isEmpty_iff, report, List.append_eq_nil_iff, duplicateKeys_eq_nil_iff,
    capDangling_eq_nil_iff, danglingEnds_eq_nil_iff]

theorem foreignKeys_eq (g : Graph) : g.foreignKeys =
    (g.nodes.entries.filter fun x => x.2.key ≠ x.1).map fun x => .foreignKey x.2.key x.1 := by
  rw [foreignKeys, ← List.filterMap_eq_map, List.filterMap_filter]
  refine List.filterMap_congr fun x _ => ?_
  by_cases own : x.2.key = x.1 <;> simp [own]

/-- The report on a graph says exactly what is the case. -/
theorem isReportedBy_report (g : Graph) : g.IsReportedBy g.report where
  sound := isSound_report_iff
  errors := by
    refine ⟨g.repeatedKeys, g.unresolvedEnds, listsRepeated_repeatedKeys g,
      listsUnresolved_unresolvedEnds g, ?_⟩
    rw [report, duplicateKeys_eq, capDangling_eq, danglingEnds_eq, List.length_map,
      List.map_append, List.map_append, List.map_map, ← List.map_take, List.map_map,
      List.append_assoc]
    congr 2
    split <;> rfl
  warnings := by
    refine ⟨bareOddity g.census, ?_, ?_⟩
    · rw [bareOddity]
      split
      · exact .inr rfl
      · exact .inl rfl
    · rw [report, foreignKeys_eq, List.map_append, List.map_map]
      rfl
  nodes := rfl
  edges := rfl
  nodesByKind := by
    have kinds : g.nodes.values.map (·.kind.name) =
        g.nodes.entries.map fun x => x.2.kind.name := List.map_map
    rw [report, census, kinds]
    exact KeyedMap.countsBy_tally NodeKind.name_injective _ _
  edgesByKind := KeyedMap.countsBy_tally EdgeKind.name_injective _ _

end Graph

end KnowledgeGraph
