import Mathlib.Data.List.Induction
import Mathlib.Data.List.Perm.Basic
import KnowledgeGraph.Graph.Basic

/-!
# Neighbors

An edge joins two references if it leads from one of them to the other, whichever it starts from
(`Edge.Joins`).  A loop joins a reference to itself.  The neighbors of a reference are the
references that some edge joins to it, in the order of the first edges that do so, and this allows
one list only (`ListsNeighbors.eq_of_listsNeighbors`).  Nodes play no part in it.

An edge that comes after the others has something to add only if it joins the reference to one that
is no neighbor yet, and then it adds that one at the end (`neighbors_appendEdge`).  No place of a
first edge moves by this, so the order is kept edge by edge (`ListsNeighbors.appendEdge`), and holds
of every graph by induction on its edges from the end (`listsNeighbors_neighbors`).
-/

namespace KnowledgeGraph

/-! ## Joined references -/

/-- An edge leads from one of two references to the other, in either direction. -/
def Edge.Joins (e : Edge) (r s : Ref) : Prop :=
  e.source = r ∧ e.target = s ∨ e.source = s ∧ e.target = r

namespace Edge

variable {e : Edge} {r s : Ref}

instance (e : Edge) (r s : Ref) : Decidable (e.Joins r s) :=
  inferInstanceAs (Decidable (_ ∨ _))

theorem joins_comm : e.Joins r s ↔ e.Joins s r := Or.comm

theorem joins_self_iff : e.Joins r r ↔ e.source = r ∧ e.target = r := or_self_iff

/-- The other end of an edge is what the edge joins the one end to. -/
theorem otherEnd?_eq_some_iff : e.otherEnd? r = some s ↔ e.Joins r s := by
  rw [otherEnd?, Joins]
  split
  · next source =>
    -- Seen from the source of a loop the second direction is the first one.
    constructor
    · intro target
      exact .inl ⟨source, Option.some.inj target⟩
    · rintro (⟨-, target⟩ | ⟨loop, target⟩)
      · rw [target]
      · rw [target, ← source, loop]
  · next source =>
    split
    · next target => simp [source, target]
    · next target => simp [source, target]

end Edge

namespace Graph

variable {g : Graph} {e : Edge} {r s : Ref} {refs : List Ref}

/-- Some edge joins two references. -/
def Joins (g : Graph) (r s : Ref) : Prop := ∃ e ∈ g.edges, e.Joins r s

theorem joins_comm : g.Joins r s ↔ g.Joins s r := by
  simp only [Joins, Edge.joins_comm]

theorem joins_appendEdge : (g.appendEdge e).Joins r s ↔ g.Joins r s ∨ e.Joins r s := by
  simp [Joins, appendEdge, or_and_right, exists_or]

theorem mem_neighbors : s ∈ g.neighbors r ↔ g.Joins r s := by
  simp only [neighbors, mem_distinct, List.mem_filterMap, Edge.otherEnd?_eq_some_iff, Joins]

/-! ## The first edge that joins two references -/

/-- The place of the first edge that joins two references. -/
def firstJoining (g : Graph) (r s : Ref) : Nat := g.edges.findIdx (·.Joins r s)

theorem firstJoining_lt (joined : g.Joins r s) : g.firstJoining r s < g.edges.length := by
  obtain ⟨e, he, joins⟩ := joined
  exact List.findIdx_lt_length_of_exists ⟨e, he, decide_eq_true joins⟩

/-- An edge after the others does not move the first one. -/
theorem firstJoining_appendEdge (joined : g.Joins r s) (e : Edge) :
    (g.appendEdge e).firstJoining r s = g.firstJoining r s := by
  rw [firstJoining, appendEdge, List.findIdx_append]
  exact if_pos (firstJoining_lt joined)

/-- An edge after the others is the first one if no other joins the references. -/
theorem firstJoining_appendEdge_of_not (apart : ¬ g.Joins r s) (joins : e.Joins r s) :
    (g.appendEdge e).firstJoining r s = g.edges.length := by
  have before : g.edges.findIdx (·.Joins r s) = g.edges.length := by
    rw [List.findIdx_eq_length]
    intro d hd
    exact decide_eq_false fun joins => apart ⟨d, hd, joins⟩
  rw [firstJoining, appendEdge, List.findIdx_append, before, if_neg (Nat.lt_irrefl _)]
  simp [joins]

/-! ## Neighbors in their order -/

/-- The neighbors of a reference, in their order. -/
structure ListsNeighbors (g : Graph) (r : Ref) (refs : List Ref) : Prop where
  /-- A reference is listed exactly if some edge joins it to the given one. -/
  mem_iff : ∀ s, s ∈ refs ↔ g.Joins r s
  /-- Of two listed references, the one that an edge joins first comes first. -/
  ordered : refs.Pairwise fun s t => g.firstJoining r s < g.firstJoining r t

namespace ListsNeighbors

theorem nodup (h : g.ListsNeighbors r refs) : refs.Nodup := by
  refine h.ordered.imp fun lt same => ?_
  rw [same] at lt
  exact Nat.lt_irrefl _ lt

/-- There is one list only. -/
theorem eq_of_listsNeighbors {others : List Ref} (h : g.ListsNeighbors r refs)
    (h' : g.ListsNeighbors r others) : refs = others := by
  have perm : refs.Perm others := by
    refine (List.perm_ext_iff_of_nodup h.nodup h'.nodup).2 fun s => ?_
    rw [h.mem_iff, h'.mem_iff]
  refine perm.eq_of_pairwise (fun s t _ _ before after => ?_) h.ordered h'.ordered
  exact absurd before (Nat.lt_asymm after)

/-- The listed references keep their order when an edge is appended. -/
theorem ordered_appendEdge (h : g.ListsNeighbors r refs) (e : Edge) :
    refs.Pairwise fun s t =>
      (g.appendEdge e).firstJoining r s < (g.appendEdge e).firstJoining r t := by
  refine h.ordered.imp_of_mem fun {s t} hs ht before => ?_
  rw [firstJoining_appendEdge ((h.mem_iff s).1 hs), firstJoining_appendEdge ((h.mem_iff t).1 ht)]
  exact before

/-- An edge that joins the reference to nothing new adds nothing. -/
theorem appendEdge (h : g.ListsNeighbors r refs) (known : ∀ s, e.Joins r s → s ∈ refs) :
    (g.appendEdge e).ListsNeighbors r refs where
  mem_iff s := by
    rw [joins_appendEdge, ← h.mem_iff]
    exact (or_iff_left_of_imp (known s)).symm
  ordered := h.ordered_appendEdge e

/-- An edge that joins the reference to another one for the first time adds that one at the end. -/
theorem appendEdge_new (h : g.ListsNeighbors r refs) (new : s ∉ refs) (joins : e.Joins r s) :
    (g.appendEdge e).ListsNeighbors r (refs ++ [s]) where
  mem_iff t := by
    have same : t = s ↔ e.Joins r t := by
      rw [← Edge.otherEnd?_eq_some_iff, Edge.otherEnd?_eq_some_iff.2 joins, Option.some_inj]
      exact eq_comm
    rw [joins_appendEdge, List.mem_append, List.mem_singleton, h.mem_iff, same]
  ordered := by
    refine List.pairwise_append.2 ⟨h.ordered_appendEdge e, List.pairwise_singleton _ _, ?_⟩
    intro t ht last hlast
    have joined : g.Joins r t := (h.mem_iff t).1 ht
    rw [List.mem_singleton.1 hlast, firstJoining_appendEdge joined,
      firstJoining_appendEdge_of_not (fun joined => new ((h.mem_iff s).2 joined)) joins]
    exact firstJoining_lt joined

end ListsNeighbors

/-! ## One edge after the other -/

/-- A graph is its nodes, and then one edge after the other. -/
@[elab_as_elim]
theorem edgeInduction {motive : Graph → Prop} (g : Graph)
    (nodes : ∀ g, g.edges = [] → motive g)
    (edge : ∀ g e, motive g → motive (g.appendEdge e)) : motive g := by
  obtain ⟨ns, es, version⟩ := g
  induction es using List.reverseRecOn with
  | nil => exact nodes _ rfl
  | append_singleton es e ih => exact edge _ e ih

/-- An edge after the others adds its other end, unless that is a neighbor already. -/
theorem neighbors_appendEdge (g : Graph) (e : Edge) (r : Ref) :
    (g.appendEdge e).neighbors r =
      match e.otherEnd? r with
      | none => g.neighbors r
      | some s => if s ∈ g.neighbors r then g.neighbors r else g.neighbors r ++ [s] := by
  rw [neighbors, appendEdge, List.filterMap_append, List.filterMap_cons, List.filterMap_nil]
  cases e.otherEnd? r with
  | none => rw [List.append_nil, neighbors]
  | some s => simp only [neighbors, distinct_concat, mem_distinct]

/-- The neighbors are listed in their order. -/
theorem listsNeighbors_neighbors (g : Graph) (r : Ref) : g.ListsNeighbors r (g.neighbors r) := by
  induction g using edgeInduction with
  | nodes g none => constructor <;> simp [neighbors, Joins, none, distinct]
  | edge g e ih =>
    rw [neighbors_appendEdge]
    cases other : e.otherEnd? r with
    | none =>
      refine ih.appendEdge fun s joins => ?_
      rw [Edge.otherEnd?_eq_some_iff.2 joins] at other
      cases other
    | some s =>
      have joins : e.Joins r s := Edge.otherEnd?_eq_some_iff.1 other
      simp only
      split
      · next mem =>
        refine ih.appendEdge fun t joins => ?_
        rw [Edge.otherEnd?_eq_some_iff.2 joins] at other
        cases other
        exact mem
      · next new => exact ih.appendEdge_new new joins

/-- The neighbors of a reference are those that edges join to it, in the order of the first edges
that do so, and no other list is.  None of them repeats, the reference is one of them exactly if it
has a loop, and it is one of theirs. -/
theorem neighbors_exact (g : Graph) (r : Ref) :
    (∀ refs, g.ListsNeighbors r refs ↔ refs = g.neighbors r) ∧ (g.neighbors r).Nodup ∧
      (r ∈ g.neighbors r ↔ ∃ e ∈ g.edges, e.source = r ∧ e.target = r) ∧
      ∀ s, s ∈ g.neighbors r ↔ r ∈ g.neighbors s := by
  have listed := g.listsNeighbors_neighbors r
  refine ⟨fun refs => ⟨fun h => h.eq_of_listsNeighbors listed, ?_⟩, listed.nodup, ?_, fun s => ?_⟩
  · rintro rfl
    exact listed
  · simp only [mem_neighbors, Joins, Edge.joins_self_iff]
  · rw [mem_neighbors, mem_neighbors, joins_comm]

/-- A loop, two edges in one direction and one in the other. -/
example :
    let p : Ref := ⟨.post, "p"⟩
    let q : Ref := ⟨.post, "q"⟩
    let ann : Ref := ⟨.user, "ann"⟩
    let joined (source target : Ref) : Edge := { kind := .coOccurs, source, target }
    let g : Graph := { edges := [joined q p, joined p ann, joined p p, joined p q, joined p ann] }
    g.neighbors p = [q, ann, p] ∧ g.neighbors q = [p] ∧ g.neighbors ann = [p] := by
  decide

end Graph

end KnowledgeGraph
