import KnowledgeGraph.Graph.OfPolicies
import KnowledgeGraph.Proofs.Graph.Parts
import KnowledgeGraph.Proofs.Text.Normal

/-!
# Resolving the ends of statements

Statements are resolved one after the other, and what has been found grows.  The invariant of the
resolution of a document (`Resolution.IsSound`) says that every name in the index stands for an
entity that the document mentions or that was made for a literal before.  One literal keeps it
(`IsSound.resolve`), so the statements of a document do (`IsSound.statements`), and both ends of
every edge they give are entities that are there at the end.
-/

namespace KnowledgeGraph

/-! ## The index of mentioned entities -/

/-- Every name in the index stands for a mentioned entity. -/
theorem mem_of_find?_nameIndex {entities : List (Node × Mention)} {key : String} {r : Ref}
    (h : (nameIndex entities).find? key = some r) : r ∈ entities.map (·.1.ref) := by
  rw [nameIndex, KeyedMap.find?_foldl_insertNew Prod.fst Prod.snd] at h
  simp only [KeyedMap.find?_empty, Option.none_or, Option.map_eq_some_iff] at h
  obtain ⟨entry, found, rfl⟩ := h
  obtain ⟨⟨n, m⟩, mem, named⟩ := List.mem_flatMap.1 (List.mem_of_find?_eq_some found)
  obtain ⟨name, -, eq⟩ := List.mem_filterMap.1 named
  split at eq
  · cases eq
  · obtain rfl := Option.some.inj eq
    exact List.mem_map_of_mem mem

/-! ## Resolving -/

/-- A mention that consists of a literal is named by it. -/
theorem normalize_identifyingName (literal : String) :
    Text.normalize ({ text := literal, canonicalName := some literal } : Mention).identifyingName =
      Text.normalize literal := by
  cases trimmed : Text.presence? literal with
  | none => simp [Mention.identifyingName, trimmed]
  | some name => simp [Mention.identifyingName, trimmed, Text.normalize_of_presence? trimmed]

theorem isBare_literalNode (literal : String) : (literalNode literal).isBare = false :=
  Node.isBare_set rfl

namespace Resolution

/-- The entities that are known after a resolution, the mentioned ones first. -/
def refs (mentioned : List Ref) (s : Resolution) : List Ref :=
  mentioned ++ s.created.map Node.ref

/-- Names stand for known entities, and nothing but entities is made. -/
structure IsSound (mentioned : List Ref) (s : Resolution) : Prop where
  /-- Every name in the index stands for a known entity. -/
  index : ∀ key r, s.index.find? key = some r → r ∈ s.refs mentioned
  /-- What is known are entities. -/
  kind : ∀ r ∈ s.refs mentioned, r.kind = .entity
  /-- What is made stands for a literal by itself. -/
  made : ∀ n ∈ s.created, ∃ literal, n = literalNode literal

variable {mentioned : List Ref} {s : Resolution}

/-- Mentioned entities are a sound beginning. -/
theorem isSound_nameIndex (ms : List Mention) :
    IsSound ((mentionedEntities ms).map (·.1.ref)) ⟨nameIndex (mentionedEntities ms), []⟩ where
  index key r found := List.mem_append_left _ (mem_of_find?_nameIndex found)
  kind r mem := by
    rw [refs, List.map_nil, List.append_nil] at mem
    obtain ⟨p, hp, rfl⟩ := List.mem_map.1 mem
    exact kind_of_mem_mentionedEntities hp
  made _ mem := nomatch mem

/-- A literal stands for the entity of its name, or for one of its own that gets its name. -/
theorem resolve_cases (s : Resolution) (literal : String) :
    (∃ r, s.index.find? (Text.normalize literal) = some r ∧ s.resolve literal = (r, s)) ∨
      (s.index.find? (Text.normalize literal) = none ∧
        s.resolve literal = ((literalNode literal).ref,
          ⟨s.index.insert (Text.normalize literal) (literalNode literal).ref,
            s.created ++ [literalNode literal]⟩)) := by
  simp only [resolve]
  cases found : s.index.find? (Text.normalize literal) with
  | none => exact .inr ⟨rfl, rfl⟩
  | some r => exact .inl ⟨r, rfl, rfl⟩

/-- Resolving a literal loses nothing. -/
theorem refs_subset_resolve (s : Resolution) (literal : String) :
    s.refs mentioned ⊆ (s.resolve literal).2.refs mentioned := by
  rcases resolve_cases s literal with ⟨r, -, eq⟩ | ⟨-, eq⟩ <;> rw [eq]
  · exact List.Subset.refl _
  · intro r mem
    simp only [refs, List.map_append, ← List.append_assoc]
    exact List.mem_append_left _ mem

/-- Resolving a literal keeps the resolution sound. -/
theorem IsSound.resolve (h : s.IsSound mentioned) (literal : String) :
    (s.resolve literal).2.IsSound mentioned := by
  rcases resolve_cases s literal with ⟨r, -, eq⟩ | ⟨-, eq⟩ <;> rw [eq]
  · exact h
  · have known {r : Ref} : r ∈ refs mentioned
        ⟨s.index.insert (Text.normalize literal) (literalNode literal).ref,
          s.created ++ [literalNode literal]⟩ ↔
        r ∈ s.refs mentioned ∨ r = (literalNode literal).ref := by
      simp [refs, or_assoc]
    refine ⟨fun key r found => ?_, fun r mem => ?_, fun n mem => ?_⟩
    · rw [KeyedMap.find?_insert] at found
      split at found
      · exact known.2 (.inr (Option.some.inj found).symm)
      · exact known.2 (.inl (h.index key r found))
    · rcases known.1 mem with mem | rfl
      · exact h.kind r mem
      · rfl
    · rcases List.mem_append.1 mem with mem | mem
      · exact h.made n mem
      · exact ⟨literal, List.mem_singleton.1 mem⟩

/-- The entity that a literal stands for is known afterwards. -/
theorem IsSound.mem_resolve (h : s.IsSound mentioned) (literal : String) :
    (s.resolve literal).1 ∈ (s.resolve literal).2.refs mentioned := by
  rcases resolve_cases s literal with ⟨r, found, eq⟩ | ⟨-, eq⟩ <;> rw [eq]
  · exact h.index _ r found
  · simp [refs]

end Resolution

/-! ## The statements of a document -/

@[simp] theorem Statement.kind_edge (t : Statement) (docId : String) (source target : Ref) :
    (t.edge docId source target).kind = .policyRelation := by
  simp [Statement.edge]

@[simp] theorem Statement.source_edge (t : Statement) (docId : String) (source target : Ref) :
    (t.edge docId source target).source = source := by
  simp [Statement.edge]

@[simp] theorem Statement.target_edge (t : Statement) (docId : String) (source target : Ref) :
    (t.edge docId source target).target = target := by
  simp [Statement.edge]

/-- One statement resolves its two literals in order, and the rest goes on from there. -/
theorem relationEdges_cons (docId : String) (s : Resolution) (t : Statement)
    (ts : List Statement) :
    relationEdges docId s (t :: ts) =
      match t.ends? with
      | none => relationEdges docId s ts
      | some (subject, object) =>
          let source := s.resolve subject
          let target := source.2.resolve object
          let rest := relationEdges docId target.2 ts
          (t.edge docId source.1 target.1 :: rest.1, rest.2) := by
  cases ends : t.ends? <;> simp only [relationEdges, ends]

/-- The statements of a document keep the resolution sound and lose nothing, and their edges join
entities that are known at the end. -/
theorem Resolution.IsSound.statements {mentioned : List Ref} {s : Resolution}
    (h : s.IsSound mentioned) (docId : String) (ts : List Statement) :
    (relationEdges docId s ts).2.IsSound mentioned ∧
      s.refs mentioned ⊆ (relationEdges docId s ts).2.refs mentioned ∧
      ∀ e ∈ (relationEdges docId s ts).1,
        e.IsClosedIn ((relationEdges docId s ts).2.refs mentioned) := by
  induction ts generalizing s with
  | nil => exact ⟨h, List.Subset.refl _, fun _ he => nomatch he⟩
  | cons t ts ih =>
    rw [relationEdges_cons]
    split
    · exact ih h
    · next subject object _ =>
      have afterSource := h.resolve subject
      have afterTarget := afterSource.resolve object
      have ⟨sound, sub, closed⟩ := ih afterTarget
      have source := sub (Resolution.refs_subset_resolve _ object (h.mem_resolve subject))
      have target := sub (afterSource.mem_resolve object)
      refine ⟨sound, fun r mem => ?_, fun e he => ?_⟩
      · have after := Resolution.refs_subset_resolve _ subject mem
        exact sub (Resolution.refs_subset_resolve _ object after)
      · rcases List.mem_cons.1 he with rfl | he
        · refine ⟨by simpa using source, by simpa using target, ?_⟩
          simp [Edge.IsTyped, sound.kind _ source, sound.kind _ target, EdgeKind.ends]
        · exact closed e he

end KnowledgeGraph
