import KnowledgeGraph.Graph.Parts
import KnowledgeGraph.Proofs.Graph.Properties
import KnowledgeGraph.Proofs.Graph.WellFormed

/-!
# Nodes and edges that records share

What references the shared parts have, that none of these nodes is bare, and that the edges to
mentioned entities are closed in any nodes that have the record and the entities.
-/

namespace KnowledgeGraph

variable {refs : List Ref}

/-! ## Plain edges and labels -/

@[simp] theorem kind_plainEdge (kind : EdgeKind) (source target : Ref) :
    (plainEdge kind source target).kind = kind := rfl

@[simp] theorem source_plainEdge (kind : EdgeKind) (source target : Ref) :
    (plainEdge kind source target).source = source := rfl

@[simp] theorem target_plainEdge (kind : EdgeKind) (source target : Ref) :
    (plainEdge kind source target).target = target := rfl

section Named

variable {α : Type} {o : Option α} {kind : EdgeKind} {record : Ref} {target : α → Ref} {e : Edge}

/-- The edge from a record to what it names, if it names something. -/
theorem mem_namedEdge : e ∈ (o.map fun a => plainEdge kind record (target a)).toList ↔
    ∃ a, o = some a ∧ plainEdge kind record (target a) = e := by
  rw [Option.mem_toList, Option.map_eq_some_iff]

theorem kind_of_mem_namedEdge
    (he : e ∈ (o.map fun a => plainEdge kind record (target a)).toList) : e.kind = kind := by
  obtain ⟨a, -, rfl⟩ := mem_namedEdge.1 he
  rfl

/-- It joins the record and what the record names. -/
theorem isClosedIn_of_mem_namedEdge
    (he : e ∈ (o.map fun a => plainEdge kind record (target a)).toList) (source : record ∈ refs)
    (named : ∀ a, o = some a → target a ∈ refs)
    (may : ∀ a, o = some a → (record.kind, (target a).kind) ∈ kind.ends) : e.IsClosedIn refs := by
  obtain ⟨a, some, rfl⟩ := mem_namedEdge.1 he
  exact ⟨source, named a some, may a some⟩

end Named

@[simp] theorem ref_labelNode (kind : NodeKind) (property label : String) :
    (labelNode kind property label).ref = ⟨kind, Text.normalize label⟩ := rfl

@[simp] theorem kind_labelNode (kind : NodeKind) (property label : String) :
    (labelNode kind property label).kind = kind := rfl

theorem isBare_labelNode (kind : NodeKind) (property label : String) :
    (labelNode kind property label).isBare = false := Node.isBare_set rfl

/-! ## States -/

theorem kind_of_stateOf? {code : Option String} {n : Node} (h : stateOf? code = some n) :
    n.kind = .state ∧ n.isBare = false := by
  simp only [stateOf?, Option.map_eq_some_iff] at h
  obtain ⟨code, -, rfl⟩ := h
  exact ⟨rfl, Node.isBare_set rfl⟩

/-! ## Mentioned entities -/

/-- A mention has a node exactly if it identifies an entity. -/
theorem Mention.isSome_node? (m : Mention) : m.node?.isSome = m.identifiesEntity := by
  rw [Mention.node?]
  cases m.identifiesEntity with
  | true => rfl
  | false => rfl

/-- The node of a mention is the entity of its identifier, with a type. -/
theorem Mention.ref_of_node? {m : Mention} {n : Node} (h : m.node? = some n) :
    n.ref = ⟨.entity, m.identifier⟩ ∧ n.isBare = false := by
  unfold Mention.node? at h
  split at h
  · obtain rfl := Option.some.inj h
    constructor
    · simp [Node.ref]
    · exact Node.isBare_setPresent (Node.isBare_set rfl)
  · cases h

theorem Mention.kind_of_node? {m : Mention} {n : Node} (h : m.node? = some n) : n.kind = .entity :=
  congrArg Ref.kind (Mention.ref_of_node? h).1

/-- Every mentioned entity comes from a mention of the record. -/
theorem mem_mentionedEntities {ms : List Mention} {p : Node × Mention} :
    p ∈ mentionedEntities ms ↔ p.2 ∈ ms ∧ p.2.node? = some p.1 := by
  obtain ⟨n, m⟩ := p
  simp only [mentionedEntities, List.mem_filterMap, Option.map_eq_some_iff, Prod.mk.injEq]
  constructor
  · rintro ⟨m', mem, n', node, rfl, rfl⟩
    exact ⟨mem, node⟩
  · rintro ⟨mem, node⟩
    exact ⟨m, mem, n, node, rfl, rfl⟩

theorem kind_of_mem_mentionedEntities {ms : List Mention} {p : Node × Mention}
    (h : p ∈ mentionedEntities ms) : p.1.kind = .entity :=
  Mention.kind_of_node? (mem_mentionedEntities.1 h).2

@[simp] theorem Mention.kind_edge (m : Mention) (record entity : Ref) :
    (m.edge record entity).kind = .mentionsEntity := by
  simp [Mention.edge]

@[simp] theorem Mention.source_edge (m : Mention) (record entity : Ref) :
    (m.edge record entity).source = record := by
  simp [Mention.edge]

@[simp] theorem Mention.target_edge (m : Mention) (record entity : Ref) :
    (m.edge record entity).target = entity := by
  simp [Mention.edge]

/-- The edges to mentioned entities join the record and these entities. -/
theorem isClosedIn_of_mem_entityEdges {record : Ref} {ms : List Mention} {e : Edge}
    (he : e ∈ entityEdges record (mentionedEntities ms)) (source : record ∈ refs)
    (may : (record.kind, NodeKind.entity) ∈ EdgeKind.mentionsEntity.ends)
    (targets : (mentionedEntities ms).map (·.1.ref) ⊆ refs) : e.IsClosedIn refs := by
  obtain ⟨⟨n, m⟩, mem, rfl⟩ := List.mem_map.1 he
  have entity : n.ref.kind = .entity := kind_of_mem_mentionedEntities mem
  refine ⟨by simpa using source, ?_, ?_⟩
  · simpa using targets (List.mem_map_of_mem mem)
  · simpa [Edge.IsTyped, entity] using may

end KnowledgeGraph
