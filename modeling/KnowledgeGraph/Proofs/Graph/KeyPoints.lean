import KnowledgeGraph.Proofs.Graph.StatementEnds
import KnowledgeGraph.Proofs.Identity

/-!
# Numbered key points

A document leads to its key points by numbered edges.  Key points are told apart by the digests of
their normal forms, so where no two of the digested texts have one digest, the edges of a document
go to its distinct normal forms, each where it comes first, and the numbers have no
gap (`keypointEdges_eq`).

The node of a key point is that of the first document that has it.  Whichever document that is, the
node carries the normal form, because it is what was digested (`Graph.exists_keypoint`).
-/

namespace KnowledgeGraph

open KnowledgeGraph.Graph (Fragment)
open Text (normalize presence?)

/-! ## Key points -/

/-- The key point of a normal form. -/
def keypointRef (normal : String) : Ref :=
  ⟨.keyPoint, contentIdentifier ("policy_keypoint:" ++ normal)⟩

theorem ref_keypointNode (text : String) :
    (keypointNode text).ref = keypointRef (normalize text) := rfl

theorem normalized_keypointNode (text : String) :
    (keypointNode text).propertyText? "normalized" = some (normalize text) := by
  simp [keypointNode, Node.propertyText?, Node.find?_set, Json.string?]

/-- The edges to key points are numbered without a gap. -/
theorem keypointEdges_eq (policy : Ref) (order : Nat) (rs : List Ref) :
    keypointEdges policy order rs = (rs.zipIdx order).map fun (r, k) =>
      (plainEdge .hasKeypoint policy r).set "order" (.ofNat k) := by
  induction rs generalizing order with
  | nil => rfl
  | cons r rs ih => rw [keypointEdges, ih, List.zipIdx_cons, List.map_cons]

theorem targets_keypointEdges (policy : Ref) (order : Nat) (rs : List Ref) :
    (keypointEdges policy order rs).map (·.target) = rs := by
  rw [keypointEdges_eq, List.map_map]
  exact List.zipIdx_map_fst order rs

theorem orders_keypointEdges (policy : Ref) (order : Nat) (rs : List Ref) :
    (keypointEdges policy order rs).map (·.properties.find? "order") =
      (List.range' order rs.length).map fun k => some (.ofNat k) := by
  rw [keypointEdges_eq, List.map_map, ← List.zipIdx_map_snd order rs, List.map_map]
  refine List.map_congr_left fun p _ => ?_
  simp [Edge.find?_set]

theorem source_of_mem_keypointEdges {policy : Ref} {order : Nat} {rs : List Ref} {e : Edge}
    (he : e ∈ keypointEdges policy order rs) : e.source = policy := by
  rw [keypointEdges_eq] at he
  obtain ⟨p, -, rfl⟩ := List.mem_map.1 he
  rfl

namespace PolicyDocument

variable {r : PolicyDocument} {docId : String} {f : Fragment}

/-- The distinct normal forms of the key points of a document, each where it comes first. -/
def keypointForms (r : PolicyDocument) : List String :=
  distinct ((presentTexts r.keyPoints).map normalize)

/-- The node of the document is the only one of its kind. -/
theorem policyNode_of_fragment? (named : presence? r.docId = some docId)
    (h : r.fragment? = some f) : f.nodes.filter (·.kind == .policy) =
      [r.policyNode docId (stateOf? r.state)
        (distinct (((presentTexts r.keyPoints).map keypointNode).map Node.ref)).length] := by
  have ⟨sound, _⟩ := r.isSound_relationEdges docId
  simp only [fragment?, named, Option.map_some, Option.some.injEq] at h
  subst h
  have none_before : ∀ n ∈ (stateOf? r.state).toList ++
      ((r.policyType.bind presence?).map (labelNode .policyType "label")).toList ++
      (presentTexts r.keyPoints).map keypointNode ++ (mentionedEntities r.entities).map (·.1),
      n.kind ≠ .policy := by
    intro n mem
    simp only [List.mem_append, Option.mem_toList] at mem
    rcases mem with ((state | policyType) | keypoint) | entity
    · simp [(kind_of_stateOf? state).1]
    · obtain ⟨label, -, rfl⟩ := Option.map_eq_some_iff.1 policyType
      simp
    · obtain ⟨text, -, rfl⟩ := List.mem_map.1 keypoint
      exact NodeKind.noConfusion
    · obtain ⟨p, hp, rfl⟩ := List.mem_map.1 entity
      simp [kind_of_mem_mentionedEntities hp]
  have none_after : ∀ n ∈ (relationEdges docId ⟨nameIndex (mentionedEntities r.entities), []⟩
      r.relations).2.created, n.kind ≠ .policy := by
    intro n mem
    obtain ⟨literal, rfl⟩ := sound.made n mem
    exact NodeKind.noConfusion
  have policy (n : Nat) : (r.policyNode docId (stateOf? r.state) n).kind = .policy :=
    congrArg Ref.kind (r.ref_policyNode docId _ n)
  have nothing {ns : List Node} (other : ∀ n ∈ ns, n.kind ≠ .policy) :
      ns.filter (·.kind == .policy) = [] := List.filter_eq_nil_iff.2 (by simpa using other)
  rw [List.filter_append, List.filter_append, nothing none_before, nothing none_after]
  simp [policy]

theorem find?_keypointCount_policyNode (r : PolicyDocument) (docId : String) (state : Option Node)
    (n : Nat) :
    (r.policyNode docId state n).properties.find? "keypoint_count" = some (.ofNat n) := by
  simp [policyNode, Node.find?_set]

theorem named_of_fragment? (h : r.fragment? = some f) :
    ∃ docId, presence? r.docId = some docId := by
  simp only [fragment?, Option.map_eq_some_iff] at h
  obtain ⟨docId, named, -⟩ := h
  exact ⟨docId, named⟩

theorem keypointNode_mem (h : r.fragment? = some f) {text : String}
    (ht : text ∈ presentTexts r.keyPoints) : keypointNode text ∈ f.nodes := by
  simp only [fragment?, Option.map_eq_some_iff] at h
  obtain ⟨docId, -, rfl⟩ := h
  simp only [List.mem_append, List.mem_map_of_mem ht, true_or, or_true]

/-- A node of the kind of key points stands for a key point of the document. -/
theorem eq_keypointNode (h : r.fragment? = some f) {n : Node} (mem : n ∈ f.nodes)
    (kind : n.kind = .keyPoint) : ∃ text ∈ presentTexts r.keyPoints, n = keypointNode text := by
  cases nodeOf_of_fragment? h mem with
  | state n state =>
    rw [(kind_of_stateOf? state).1] at kind
    cases kind
  | policyType label _ => cases kind
  | keypoint text ht => exact ⟨text, ht, rfl⟩
  | entity m n _ node =>
    rw [Mention.kind_of_node? node] at kind
    cases kind
  | policy docId state keypoints =>
    have policy := congrArg Ref.kind (r.ref_policyNode docId state keypoints)
    cases policy.symm.trans kind
  | literal literal => cases kind

end PolicyDocument

/-! ## Graphs of policies -/

namespace Graph

/-- The texts that are digested to name key points. -/
def keypointContents (rs : List PolicyDocument) : List String :=
  (rs.filter fun r => (presence? r.docId).isSome).flatMap fun r =>
    (presentTexts r.keyPoints).map keypointContent

/-- The edges of a document to its key points. -/
structure NumbersKeyPoints (g : Graph) (docId : String) (forms : List String)
    (edges : List Edge) : Prop where
  /-- The edges go out from the document. -/
  source : ∀ e ∈ edges, e.source = ⟨.policy, docId⟩
  /-- They lead to the key points, in order. -/
  targets : edges.map (·.target) = forms.map keypointRef
  /-- No two of them lead to one key point. -/
  nodup : (edges.map (·.target)).Nodup
  /-- They are numbered from 1, without a gap. -/
  orders : edges.map (·.properties.find? "order") =
    (List.range' 1 forms.length).map fun k => some (.ofNat k)
  /-- The node of every key point carries its normal form. -/
  found : ∀ form ∈ forms, ∃ n, g.node? (keypointRef form) = some n ∧
    n.propertyText? "normalized" = some form

variable {rs : List PolicyDocument} {r : PolicyDocument} {docId : String}

theorem mem_keypointContents (hr : r ∈ rs) (named : presence? r.docId = some docId) {text : String}
    (ht : text ∈ presentTexts r.keyPoints) : keypointContent text ∈ keypointContents rs := by
  refine List.mem_flatMap.2 ⟨r, List.mem_filter.2 ⟨hr, ?_⟩, List.mem_map_of_mem ht⟩
  rw [named]
  rfl

/-- Two key points of one name have one normal form. -/
theorem form_eq_of_keypointRef_eq (free : CollisionFree (keypointContents rs)) {s t : String}
    (hs : keypointContent s ∈ keypointContents rs) (ht : keypointContent t ∈ keypointContents rs)
    (same : keypointRef (normalize s) = keypointRef (normalize t)) : normalize s = normalize t := by
  rw [keypointRef, keypointRef, Ref.mk.injEq] at same
  have contents : "policy_keypoint:" ++ normalize s = "policy_keypoint:" ++ normalize t :=
    free _ hs _ ht same.2
  have chars := congrArg String.toList contents
  rw [String.toList_append, String.toList_append] at chars
  exact String.toList_inj.1 (List.append_cancel_left chars)

/-- The normal forms of one document have different names. -/
theorem distinct_keypointRefs (free : CollisionFree (keypointContents rs)) (hr : r ∈ rs)
    (named : presence? r.docId = some docId) :
    distinct (((presentTexts r.keyPoints).map keypointNode).map Node.ref) =
      r.keypointForms.map keypointRef := by
  have refs : ((presentTexts r.keyPoints).map keypointNode).map Node.ref =
      ((presentTexts r.keyPoints).map normalize).map keypointRef := by
    rw [List.map_map, List.map_map]
    rfl
  have apart : ∀ form ∈ (presentTexts r.keyPoints).map normalize,
      ∀ other ∈ (presentTexts r.keyPoints).map normalize,
      keypointRef form = keypointRef other → form = other := by
    intro form hform other hother same
    obtain ⟨s, hs, rfl⟩ := List.mem_map.1 hform
    obtain ⟨t, ht, rfl⟩ := List.mem_map.1 hother
    exact form_eq_of_keypointRef_eq free (mem_keypointContents hr named hs)
      (mem_keypointContents hr named ht) same
  rw [refs]
  exact distinct_map apart

/-- The node of a key point carries its normal form, whichever document it is from. -/
theorem exists_keypoint (free : CollisionFree (keypointContents rs)) (hr : r ∈ rs)
    (named : presence? r.docId = some docId) {text : String}
    (ht : text ∈ presentTexts r.keyPoints) :
    ∃ n, (ofPolicies rs).node? (keypointRef (normalize text)) = some n ∧
      n.propertyText? "normalized" = some (normalize text) := by
  obtain ⟨f, given⟩ := r.exists_fragment named
  have own : keypointRef (normalize text) ∈ f.nodes.map Node.ref := by
    rw [← ref_keypointNode]
    exact List.mem_map_of_mem (PolicyDocument.keypointNode_mem given ht)
  obtain ⟨n, found⟩ : ∃ n, (ofPolicies rs).node? (keypointRef (normalize text)) = some n :=
    Option.isSome_iff_exists.1 (contains_ofFragments (List.mem_filterMap.2 ⟨r, hr, given⟩) own)
  refine ⟨n, found, ?_⟩
  -- The node may be from another document, in which its text is spelled in another way.
  have ref : n.ref = keypointRef (normalize text) := (isKeyed_ofFragments _).ref_eq found
  obtain ⟨f', hf', mem⟩ := mem_of_mem_ofFragments (mem_values_of_node? found)
  obtain ⟨r', hr', given'⟩ := List.mem_filterMap.1 hf'
  obtain ⟨docId', named'⟩ := PolicyDocument.named_of_fragment? given'
  obtain ⟨text', ht', rfl⟩ := PolicyDocument.eq_keypointNode given' mem (congrArg Ref.kind ref)
  rw [ref_keypointNode] at ref
  have same : normalize text' = normalize text := form_eq_of_keypointRef_eq free
    (mem_keypointContents hr' named' ht') (mem_keypointContents hr named ht) ref
  rw [normalized_keypointNode, same]

/-- A document of the graph of policies leads to its key points by edges that are numbered without
a gap.  There is one for each distinct normal form, in the order in which the forms come first, and
the document counts as many.  The node of a key point carries that form, also if another document
has it first. -/
theorem keyPoints_ofPolicies (free : CollisionFree (keypointContents rs)) :
    (ofPolicies rs).edgesOf .hasKeypoint = rs.flatMap (·.edgesOf .hasKeypoint) ∧
    ∀ r ∈ rs, ∀ docId, presence? r.docId = some docId →
      (ofPolicies rs).NumbersKeyPoints docId r.keypointForms (r.edgesOf .hasKeypoint) ∧
      ∃ f policy, r.fragment? = some f ∧ f.nodes.filter (·.kind == .policy) = [policy] ∧
        policy.ref = ⟨.policy, docId⟩ ∧
        policy.properties.find? "keypoint_count" = some (.ofNat r.keypointForms.length) := by
  refine ⟨edgesOf_ofPolicies_eq rs .hasKeypoint, fun r hr docId named => ?_⟩
  have refs := distinct_keypointRefs free hr named
  have edges : r.edgesOf .hasKeypoint =
      keypointEdges ⟨.policy, docId⟩ 1 (r.keypointForms.map keypointRef) := by
    rw [PolicyDocument.edgesOf_of_named named, PolicyDocument.edgesFor, refs]
  constructor
  · rw [edges]
    constructor
    · exact fun e he => source_of_mem_keypointEdges he
    · exact targets_keypointEdges _ _ _
    · rw [targets_keypointEdges, ← refs]
      exact nodup_distinct _
    · rw [orders_keypointEdges, List.length_map]
    · intro form hform
      obtain ⟨text, ht, rfl⟩ := List.mem_map.1 (mem_distinct.1 hform)
      exact exists_keypoint free hr named ht
  · obtain ⟨f, given⟩ := r.exists_fragment named
    have policy := PolicyDocument.policyNode_of_fragment? named given
    rw [refs, List.length_map] at policy
    exact ⟨f, _, given, policy, r.ref_policyNode _ _ _, r.find?_keypointCount_policyNode _ _ _⟩

/-- Two documents share a key point in two spellings.  The second one has it after another one,
which it repeats, and after a blank one. -/
theorem keyPoints_ofPolicies_games :
    let first : PolicyDocument := { docId := "d1", keyPoints := ["Open books"] }
    let second : PolicyDocument :=
      { docId := " d2", keyPoints := ["No ads", " ", "OPEN books", "no  Ads"] }
    let g := ofPolicies [first, second]
    CollisionFree (keypointContents [first, second]) ∧
      g.NumbersKeyPoints "d2" ["no ads", "open books"]
        (second.edgesOf .hasKeypoint) ∧
      (g.node? (keypointRef "open books")).bind (·.propertyText? "text") = some "Open books" := by
  intro first second g
  have free : CollisionFree (keypointContents [first, second]) := by decide +kernel
  have named : presence? second.docId = some "d2" := by decide +kernel
  have forms : second.keypointForms = ["no ads", "open books"] := by decide +kernel
  have ⟨numbered, _⟩ := (keyPoints_ofPolicies free).2 second (by simp) "d2" named
  rw [forms] at numbered
  refine ⟨free, numbered, ?_⟩
  show ((ofFragments _).node? _).bind _ = _
  rw [node?_ofFragments]
  decide +kernel

end Graph

end KnowledgeGraph
