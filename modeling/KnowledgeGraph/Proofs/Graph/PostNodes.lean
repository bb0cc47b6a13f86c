import Mathlib.Data.List.Nodup
import KnowledgeGraph.Proofs.Graph.PlannedPost
import KnowledgeGraph.Proofs.Time.Written

/-!
# The nodes of posts

A graph of posts has one node for every name of a post (`Graph.mem_ids_ofPosts`).  Where no two
posts have one name, the node of a post is the one that the post gives (`Graph.node?_ofPosts`).  It
carries the time of the post in writing (`Post.timestamp_postNode`).
-/

namespace KnowledgeGraph

variable {posts : List Post} {p q : Post} {id : String}

/-! ## Names -/

theorem map_fst_namedPosts (posts : List Post) :
    (namedPosts posts).map (·.1) = posts.filterMap Post.identifier? := by
  rw [namedPosts, List.map_filterMap]
  refine List.filterMap_congr fun p _ => ?_
  rw [Option.map_map]
  exact Option.map_id'

/-- Where names do not repeat, a name tells the post. -/
theorem eq_of_identifier?_eq (nodup : (posts.filterMap Post.identifier?).Nodup) (hp : p ∈ posts)
    (hq : q ∈ posts) (namedP : p.identifier? = some id) (namedQ : q.identifier? = some id) :
    p = q := by
  rw [← map_fst_namedPosts] at nodup
  have pair :=
    List.inj_on_of_nodup_map nodup (mem_namedPosts hp namedP) (mem_namedPosts hq namedQ) rfl
  exact congrArg Prod.snd pair

/-! ## Nodes -/

theorem find?_eq_some_of_unique {α : Type} {test : α → Bool} {as : List α} {a : α} (mem : a ∈ as)
    (passes : test a = true) (unique : ∀ b ∈ as, test b = true → b = a) :
    as.find? test = some a := by
  cases found : as.find? test with
  | none =>
    have fails := List.find?_eq_none.1 found a mem
    exact absurd passes fails
  | some b =>
    rw [unique b (List.mem_of_find?_eq_some found) (List.find?_some found)]

/-- The node of a post is the one that the post gives. -/
theorem Graph.node?_ofPosts (now : Instant) (settings : Settings)
    (nodup : (posts.filterMap Post.identifier?).Nodup) (hp : p ∈ posts)
    (named : p.identifier? = some id) :
    (Graph.ofPosts now settings posts).node? ⟨.post, id⟩ =
      some (p.postNode settings id (Keyword.ofPost settings p).length) := by
  rw [Graph.ofPosts, node?_ofFragments, List.flatMap_map]
  refine find?_eq_some_of_unique ?_ (by simp [ref_postNode]) fun n mem same => ?_
  · obtain ⟨plan, planned, own⟩ := PlannedPost.exists_plan settings named
    have plans := PlannedPost.plans_of_of? planned
    refine List.mem_flatMap.2 ⟨plan, List.mem_filterMap.2 ⟨p, hp, planned⟩, ?_⟩
    show _ ∈ plan.nodes
    rw [plans.nodes, own]
    simp
  · obtain ⟨plan, hplan, mem⟩ := List.mem_flatMap.1 mem
    obtain ⟨q, hq, plans⟩ := mem_plansOf hplan
    have ref : n.ref = ⟨.post, id⟩ := by simpa using same
    have kind : n.kind = .post := congrArg Ref.kind ref
    have node := plans.eq_postNode mem kind
    have own : plan.post.id = id := congrArg Ref.id ((plans.ref_eq_of_kind mem kind).symm.trans ref)
    rw [own] at node
    have other := plans.identifier
    rw [own] at other
    rw [node, eq_of_identifier?_eq nodup hp hq named other]

/-- Nodes of one kind have different identifiers. -/
theorem Graph.IsKeyed.nodup_ids {g : Graph} (keyed : g.IsKeyed) (kind : NodeKind) :
    ((g.nodesOf kind).map (·.id)).Nodup := by
  have keys : (g.nodesOf kind).map Node.key =
      ((g.nodesOf kind).map (·.id)).map fun id => Ref.key ⟨kind, id⟩ := by
    rw [List.map_map]
    refine List.map_congr_left fun n mem => ?_
    have own : n.kind = kind := by simpa using (List.mem_filter.1 mem).2
    rw [Function.comp, ← own]
    rfl
  refine List.Nodup.of_map (fun id => Ref.key ⟨kind, id⟩) ?_
  rw [← keys]
  exact keyed.nodup_ownKeys.sublist (List.filter_sublist.map _)

/-- A graph of posts has a node for every name of a post, and no other nodes of that kind. -/
theorem Graph.mem_ids_ofPosts {now : Instant} {settings : Settings} :
    id ∈ ((Graph.ofPosts now settings posts).nodesOf .post).map (·.id) ↔
      id ∈ posts.filterMap Post.identifier? := by
  rw [List.mem_map, List.mem_filterMap]
  constructor
  · rintro ⟨n, mem, rfl⟩
    obtain ⟨mem, kind⟩ := List.mem_filter.1 mem
    obtain ⟨p, hp, plan, plans, mem⟩ := exists_plans_of_mem_ofPosts mem
    have own : n.id = plan.post.id := congrArg Ref.id (plans.ref_eq_of_kind mem (eq_of_beq kind))
    exact ⟨p, hp, own ▸ plans.identifier⟩
  · rintro ⟨p, hp, named⟩
    obtain ⟨plan, planned, own⟩ := PlannedPost.exists_plan settings named
    have plans := PlannedPost.plans_of_of? planned
    have added : (⟨.post, id⟩ : Ref) ∈ plan.nodes.map Node.ref := by
      rw [plans.refs_nodes, ← own]
      simp
    have found : (Graph.ofPosts now settings posts).contains ⟨.post, id⟩ = true :=
      contains_ofFragments
        (List.mem_map_of_mem (List.mem_filterMap.2 ⟨p, hp, planned⟩)) added
    obtain ⟨n, found⟩ := Option.isSome_iff_exists.1 found
    have ref := (isKeyed_ofFragments _).ref_eq found
    have kind : n.kind = .post := congrArg Ref.kind ref
    exact ⟨n, List.mem_filter.2 ⟨mem_values_of_node? found, by simp [kind]⟩, congrArg Ref.id ref⟩

/-- The node of a post carries its time in writing. -/
theorem Post.timestamp_postNode (settings : Settings) (p : Post) (id : String) (count : Nat) :
    (p.postNode settings id count).propertyText? "timestamp" = p.instant?.map Instant.written := by
  simp only [Node.propertyText?, postNode, Node.find?_set, Node.find?_setPresent, String.reduceEq,
    if_true, if_false]
  cases p.instant? with
  | none => rfl
  | some t =>
    have worth : Node.isPresent (.string t.written) = true := by
      rw [Node.isPresent, Time.presence?_written]
      rfl
    simp [Option.filter, worth, Json.string?]

end KnowledgeGraph
