import KnowledgeGraph.Proofs.Graph.Append

/-!
# Graphs that are built up step by step

A graph grows by three steps from nothing: a node is inserted, an edge is appended, or a graph that
was itself built in steps is united with it.  What steps offer is a fragment (`offered`): all their
nodes and all their edges, in the order of the steps.  A union offers what the steps of the other
graph offer.

One step adds what it offers to the graph of what was offered before (`take_ofFragments`).  So the
graph after a run is the graph of all that the run offers (`ofSteps_eq`), and everything about a
run can be read off the offers (`followsSteps_ofSteps`): the first node of a key stays, no other
one ever takes its place, and no edge is lost.
-/

namespace KnowledgeGraph.Graph

/-! ## Steps -/

/-- A step that builds up a graph. -/
inductive Step where
  /-- A node is inserted. -/
  | node (n : Node)
  /-- An edge is appended. -/
  | edge (e : Edge)
  /-- A graph that was built in steps is united with the graph. -/
  | union (steps : List Step)

mutual

/-- The graph after a step. -/
def take (g : Graph) : Step → Graph
  | .node n => g.insertNode n
  | .edge e => g.appendEdge e
  | .union steps => g.union (empty.takeAll steps)

/-- The graph after steps, one after the other. -/
def takeAll (g : Graph) : List Step → Graph
  | [] => g
  | step :: steps => (g.take step).takeAll steps

end

/-- The graph that is built by steps from nothing. -/
def ofSteps (steps : List Step) : Graph := empty.takeAll steps

mutual

/-- The nodes and edges that a step offers. -/
def Step.offers : Step → Fragment
  | .node n => ⟨[n], []⟩
  | .edge e => ⟨[], [e]⟩
  | .union steps => offered steps

/-- The nodes and edges that steps offer, in their order. -/
def offered : List Step → Fragment
  | [] => ⟨[], []⟩
  | step :: steps =>
      ⟨step.offers.nodes ++ (offered steps).nodes, step.offers.edges ++ (offered steps).edges⟩

end

/-! ## The graph of what is offered -/

/-- A graph that holds what steps offered, as the steps go. -/
structure FollowsSteps (g : Graph) (steps : List Step) : Prop where
  /-- Every node stands under its own key. -/
  keyed : g.IsKeyed
  /-- Two references have two keys. -/
  keys : ∀ r s : Ref, r ≠ s → r.key ≠ s.key
  /-- The node of a key is the first one that was offered, with all its properties. -/
  first : ∀ key, g.nodes.find? key = (offered steps).nodes.find? (·.key == key)
  /-- A node that was there after some of the steps stays. -/
  stays : ∀ before after, steps = before ++ after → ∀ key n,
    (ofSteps before).nodes.find? key = some n → g.nodes.find? key = some n
  /-- The edges are those that were offered, in order. -/
  edges : g.edges = (offered steps).edges

theorem ofFragments_insertNode (fs : List Fragment) (n : Node) :
    (ofFragments fs).insertNode n = ofFragments (fs ++ [⟨[n], []⟩]) := by
  simp [insertNode, ofFragments]

theorem ofFragments_appendEdge (fs : List Fragment) (e : Edge) :
    (ofFragments fs).appendEdge e = ofFragments (fs ++ [⟨[], [e]⟩]) := by
  simp [appendEdge, ofFragments]

/-- Two fragments in a row are one fragment. -/
theorem ofFragments_join (fs : List Fragment) (f f' : Fragment) :
    ofFragments (fs ++ [f] ++ [f']) =
      ofFragments (fs ++ [⟨f.nodes ++ f'.nodes, f.edges ++ f'.edges⟩]) := by
  simp [ofFragments]

theorem ofFragments_nothing (fs : List Fragment) :
    ofFragments (fs ++ [⟨[], []⟩]) = ofFragments fs := by
  simp [ofFragments]

mutual

/-- A step adds what it offers. -/
theorem take_ofFragments (fs : List Fragment) :
    ∀ step, (ofFragments fs).take step = ofFragments (fs ++ [step.offers])
  | .node n => ofFragments_insertNode fs n
  | .edge e => ofFragments_appendEdge fs e
  | .union steps => by
      -- The other graph starts from nothing, so it is the graph of one fragment.
      have other : empty.takeAll steps = ofFragments [offered steps] := takeAll_ofFragments [] steps
      rw [take, other, Step.offers, ofFragments_append]

/-- Steps add what they offer. -/
theorem takeAll_ofFragments (fs : List Fragment) :
    ∀ steps, (ofFragments fs).takeAll steps = ofFragments (fs ++ [offered steps])
  | [] => (ofFragments_nothing fs).symm
  | step :: steps => by
      rw [takeAll, take_ofFragments fs step, takeAll_ofFragments _ steps, ofFragments_join, offered]

end

/-- The graph after steps is the graph of all that they offer. -/
theorem ofSteps_eq (steps : List Step) : ofSteps steps = ofFragments [offered steps] :=
  takeAll_ofFragments [] steps

theorem find?_ofSteps (steps : List Step) (key : String) :
    (ofSteps steps).nodes.find? key = (offered steps).nodes.find? (·.key == key) := by
  rw [ofSteps_eq, find?_nodes_ofFragments, List.flatMap_singleton]

theorem offered_append (before after : List Step) :
    offered (before ++ after) =
      ⟨(offered before).nodes ++ (offered after).nodes,
        (offered before).edges ++ (offered after).edges⟩ := by
  induction before with
  | nil => rfl
  | cons step before ih => simp only [List.cons_append, offered, ih, List.append_assoc]

/-- The graph that is built by steps holds what the steps offer, as they go. -/
theorem followsSteps_ofSteps (steps : List Step) : (ofSteps steps).FollowsSteps steps where
  keyed := by
    rw [ofSteps_eq]
    exact isKeyed_ofFragments _
  keys r s ne same := ne (Ref.key_injective same)
  first key := find?_ofSteps steps key
  stays before after split key n found := by
    rw [find?_ofSteps] at found
    rw [find?_ofSteps, split, offered_append, List.find?_append, found]
    rfl
  edges := by
    rw [ofSteps_eq]
    exact List.flatMap_singleton _ _

/-- A user is offered again by a graph that is united later.  The first offer stays, and the edges
of both graphs follow each other. -/
example :
    let ann : Node := { kind := .user, id := "ann" }
    let post : Node := { kind := .post, id := "User:ann" }
    let wrote : Edge := { kind := .authoredBy, source := post.ref, target := ann.ref }
    let later : List Step := [.node (ann.set "name" (.string "Ann")), .node post, .edge wrote]
    let g := ofSteps [.node (ann.set "name" (.string "A.")), .edge wrote, .union later]
    (g.node? ann.ref).bind (·.propertyText? "name") = some "A." ∧
      g.nodes.keys = ["Post:User:ann", "User:ann"] ∧ g.edges.length = 2 := by
  decide +kernel

end KnowledgeGraph.Graph
