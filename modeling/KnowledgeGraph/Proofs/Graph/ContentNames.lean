import KnowledgeGraph.Proofs.Graph.Corpus
import KnowledgeGraph.Proofs.Text.Normal

/-!
# Nodes are named by their properties

A node that stands for content carries the content that names it, so its identifier can be computed
from its properties alone (`Node.recomputed?`).  The identifier and the properties are made on
different ways: an entity is named by the text of its mention as it stood there and shown by the
trimmed one, and a literal of a statement is named as a mention of its own.  They agree because
blanks at the ends of a text do not count in its normal form.

Whatever node of a record comes first, it is kept or dropped as a whole.  So what holds of every
node that a record gives holds of every node of the graphs of a corpus
(`Corpus.mem_fragments_of_gives`).
-/

namespace KnowledgeGraph

open KnowledgeGraph.Graph (Fragment)
open Text (normalize presence?)

/-! ## Identifiers from properties -/

/-- Whether nodes of a kind stand for records, which have identifiers of their own. -/
def NodeKind.isRecord : NodeKind → Bool
  | .post | .marketData | .policy => true
  | _ => false

/-- The property with the label of a node, for the kinds that are named by its normal form. -/
def NodeKind.labelProperty? : NodeKind → Option String
  | .topic | .sentimentTag | .segment | .policyType => some "label"
  | .user => some "username"
  | .subreddit => some "name"
  | _ => none

namespace Node

/-- The identifier of an entity, computed from its properties: its identifier in a knowledge base if
it has one, its name and its type otherwise. -/
def recomputedEntity? (n : Node) : Option String :=
  match n.properties.find? "kb_id" with
  | some id => id.string?.map ("kb:" ++ ·)
  | none => do
      let name ← n.propertyText? "name"
      let type ← n.propertyText? "entity_type"
      return contentIdentifier (normalize name ++ "|" ++ type)

/-- The identifier of a node that stands for content, computed from its properties. -/
def recomputed? (n : Node) : Option String :=
  match n.kind with
  | .keyword => do
      return keywordIdentifier (← n.propertyText? "text") (← n.propertyText? "language")
  | .keyPoint => (n.propertyText? "text").map keypointIdentifier
  | .entity => n.recomputedEntity?
  | .state => n.propertyText? "code"
  | kind => kind.labelProperty?.bind fun property => (n.propertyText? property).map normalize

/-- A node that stands for content has the identifier that its properties give, and a key point
carries the normal form of its text. -/
structure IsNamedByContent (n : Node) : Prop where
  /-- The identifier is the one that the properties give. -/
  identifier : n.kind.isRecord = false → n.recomputed? = some n.id
  /-- The normal form that a key point carries is the one of its text. -/
  normalized : n.kind = .keyPoint →
    ∃ text, n.propertyText? "text" = some text ∧
      n.propertyText? "normalized" = some (normalize text)

variable {n : Node}

/-- A node that stands for a record is not named by content. -/
theorem isNamedByContent_of_isRecord {r : Ref} (ref : n.ref = r) (record : r.kind.isRecord = true) :
    n.IsNamedByContent := by
  have own : n.kind.isRecord = true := by
    rw [← record, ← ref]
    rfl
  constructor
  · intro content
    rw [own] at content
    cases content
  · intro kind
    rw [kind] at own
    cases own

/-- Where the identifier is the one that the properties give, only key points carry more. -/
theorem isNamedByContent_of_ne_keyPoint (h : n.recomputed? = some n.id)
    (kind : n.kind ≠ .keyPoint) : n.IsNamedByContent :=
  ⟨fun _ => h, fun eq => absurd eq kind⟩

theorem recomputed?_of_entity (h : n.kind = .entity) : n.recomputed? = n.recomputedEntity? := by
  rw [recomputed?, h]

/-- A node with a label is named by its content if its identifier is the normal form of the
label. -/
theorem isNamedByContent_of_label (property label : String)
    (kind : n.kind.labelProperty? = some property) (text : n.propertyText? property = some label)
    (id : n.id = normalize label) : n.IsNamedByContent := by
  have recomputed : n.recomputed? = (n.propertyText? property).map normalize := by
    rw [recomputed?]
    cases eq : n.kind <;> rw [eq] at kind <;> cases kind <;> rfl
  refine isNamedByContent_of_ne_keyPoint ?_ fun eq => ?_
  · rw [recomputed, text, id]
    rfl
  · rw [eq] at kind
    cases kind

end Node

/-! ## The nodes that records give -/

theorem propertyText?_labelNode (kind : NodeKind) (property label : String) :
    (labelNode kind property label).propertyText? property = some label := by
  rw [labelNode, Node.propertyText?_set, if_pos rfl]
  rfl

theorem isNamedByContent_labelNode {kind : NodeKind} {property : String} (label : String)
    (h : kind.labelProperty? = some property) :
    (labelNode kind property label).IsNamedByContent :=
  Node.isNamedByContent_of_label property label h (propertyText?_labelNode kind property label) rfl

theorem propertyText?_userNode (platform name : String) :
    (userNode platform name).propertyText? "username" = some name := by
  rw [userNode, Node.propertyText?_setPresent_of_ne _ _ _ (by decide), propertyText?_labelNode]

theorem kind_userNode (platform name : String) : (userNode platform name).kind = .user := by
  rw [userNode, Node.kind_setPresent, kind_labelNode]

theorem isNamedByContent_userNode (platform name : String) :
    (userNode platform name).IsNamedByContent := by
  refine Node.isNamedByContent_of_label "username" name ?_ (propertyText?_userNode platform name) ?_
  · rw [kind_userNode]
    rfl
  · rw [userNode, Node.id_setPresent]
    rfl

theorem isNamedByContent_keywordNode (language : String) (s : Keyword.Slot) :
    (keywordNode language s).IsNamedByContent := by
  have text : (keywordNode language s).propertyText? "text" = some s.normal := by
    simp [keywordNode, Node.propertyText?_set, Json.string?]
  have spoken : (keywordNode language s).propertyText? "language" = some language := by
    simp [keywordNode, Node.propertyText?_set, Json.string?]
  refine Node.isNamedByContent_of_ne_keyPoint ?_ nofun
  show (do return keywordIdentifier (← _) (← _)) = _
  rw [text, spoken]
  rfl

theorem propertyText?_keypointNode (text : String) :
    (keypointNode text).propertyText? "text" = some text := by
  simp [keypointNode, Node.propertyText?_set, Json.string?]

theorem isNamedByContent_keypointNode (text : String) : (keypointNode text).IsNamedByContent := by
  have own := propertyText?_keypointNode text
  have normalized : (keypointNode text).propertyText? "normalized" = some (normalize text) := by
    simp [keypointNode, Node.propertyText?_set, Json.string?]
  have kind : (keypointNode text).kind = .keyPoint := rfl
  refine ⟨fun _ => ?_, fun _ => ⟨text, own, normalized⟩⟩
  simp only [Node.recomputed?, kind, own]
  rfl

theorem isNamedByContent_of_stateOf? {code : Option String} {n : Node}
    (h : stateOf? code = some n) : n.IsNamedByContent := by
  obtain ⟨code, -, rfl⟩ := Option.map_eq_some_iff.1 h
  refine Node.isNamedByContent_of_ne_keyPoint ?_ nofun
  show Node.propertyText? _ "code" = _
  rw [Node.propertyText?_set, if_pos rfl]
  rfl

/-! ### Entities -/

namespace Mention

/-- The name that identifies an entity and the name that it is shown by have one normal form. -/
theorem normalize_shownName (m : Mention) :
    normalize m.shownName = normalize m.identifyingName := by
  rw [shownName, identifyingName]
  cases m.canonicalName.bind presence? with
  | none => exact Text.normalize_trim m.text
  | some name => rw [Option.getD_some, Option.getD_some]

/-- A name that is shown is worth a property. -/
theorem isPresent_shownName {m : Mention} (h : m.shownName ≠ "") :
    Node.isPresent (.string m.shownName) = true := by
  rw [Node.isPresent_string]
  rw [shownName] at h ⊢
  cases usual : m.canonicalName.bind presence? with
  | none =>
    rw [usual] at h
    have left : presence? m.text = some (Text.trim m.text) := by
      simpa [presence?] using h
    exact Text.isSome_presence?_of_presence? left
  | some name =>
    obtain ⟨raw, -, trimmed⟩ := Option.bind_eq_some_iff.1 usual
    exact Text.isSome_presence?_of_presence? trimmed

variable {m : Mention} {n : Node}

/-- The properties of the node of a mention: the identifier in a knowledge base if there is one, the
name if there is not, and the type. -/
theorem properties_of_node? (h : m.node? = some n) :
    n.properties.find? "kb_id" = m.knownId?.map .string ∧
      (m.knownId? = none → n.propertyText? "name" = some m.shownName) ∧
      n.propertyText? "entity_type" = some m.typeLabel := by
  unfold node? at h
  split at h
  · next identifies =>
    cases h
    refine ⟨?_, fun unknown => ?_, ?_⟩
    · have worth : (m.knownId?.map Json.string).filter Node.isPresent = m.knownId?.map .string := by
        cases known : m.knownId? with
        | none => rfl
        | some id =>
          obtain ⟨raw, -, trimmed⟩ := Option.bind_eq_some_iff.1 known
          have left := Text.isSome_presence?_of_presence? trimmed
          simp [Option.filter, Node.isPresent_string, left]
      simp [Node.find?_setPresent, Node.find?_set, worth]
    · have named : m.shownName ≠ "" := by
        simpa [identifiesEntity, unknown] using identifies
      simp [unknown, Node.propertyText?, Node.find?_setPresent, Node.find?_set,
        isPresent_shownName named, Option.filter, Json.string?]
    · rw [Node.propertyText?_setPresent_of_ne _ _ _ (by decide), Node.propertyText?_set, if_pos rfl]
      rfl
  · cases h

theorem isNamedByContent_of_node? (h : m.node? = some n) : n.IsNamedByContent := by
  have kind := kind_of_node? h
  have ⟨ref, _⟩ := ref_of_node? h
  have id : n.id = m.identifier := congrArg Ref.id ref
  have ⟨knownId, name, type⟩ := properties_of_node? h
  refine Node.isNamedByContent_of_ne_keyPoint ?_ (by simp [kind])
  rw [Node.recomputed?_of_entity kind, Node.recomputedEntity?, knownId, id, identifier]
  cases known : m.knownId? with
  | some knownId => rfl
  | none => simp [name known, type, content, normalize_shownName]

end Mention

/-- The node of a literal shows the literal as its name, and no knowledge base names it. -/
theorem properties_literalNode (literal : String) :
    (literalNode literal).propertyText? "name" = some literal ∧
      (literalNode literal).properties.find? "kb_id" = none := by
  constructor
  · simp [literalNode, Node.propertyText?_set, Json.string?]
  · simp [literalNode, Node.find?_set]

/-- The node of a literal is the one of a mention that consists of the literal. -/
theorem isNamedByContent_literalNode (literal : String) :
    (literalNode literal).IsNamedByContent := by
  let m : Mention := { text := literal, canonicalName := some literal }
  have ⟨name, unknown⟩ := properties_literalNode literal
  have type : (literalNode literal).propertyText? "entity_type" = some m.typeLabel := by
    simp [literalNode, Node.propertyText?_set, Json.string?, m, Mention.typeLabel]
  have same : normalize m.identifyingName = normalize literal := normalize_identifyingName literal
  have id : (literalNode literal).id = contentIdentifier m.content := rfl
  refine Node.isNamedByContent_of_ne_keyPoint ?_ nofun
  rw [Node.recomputed?_of_entity rfl, Node.recomputedEntity?, unknown, id, Mention.content, same]
  simp [name, type]

/-! ## The three families -/

theorem PlannedPost.Plans.isNamedByContent {settings : Settings} {p : Post} {plan : PlannedPost}
    (h : Plans settings p plan) {n : Node} (mem : n ∈ plan.nodes) : n.IsNamedByContent := by
  cases h.nodeOf mem with
  | keyword s _ => exact isNamedByContent_keywordNode _ s
  | entity m n _ node => exact Mention.isNamedByContent_of_node? node
  | topic label _ => exact isNamedByContent_labelNode label rfl
  | sentiment tag _ => exact isNamedByContent_labelNode tag rfl
  | user name _ => exact isNamedByContent_userNode _ name
  | subreddit name _ => exact isNamedByContent_labelNode name rfl
  | post => exact Node.isNamedByContent_of_isRecord (ref_postNode settings p _ _) rfl

theorem MarketPoint.isNamedByContent_of_fragment? {r : MarketPoint} {f : Fragment}
    (h : r.fragment? = some f) {n : Node} (mem : n ∈ f.nodes) : n.IsNamedByContent := by
  cases nodeOf_of_fragment? h mem with
  | state n state => exact isNamedByContent_of_stateOf? state
  | segment label _ => exact isNamedByContent_labelNode label rfl
  | entity m n _ node => exact Mention.isNamedByContent_of_node? node
  | data statId state segment =>
    exact Node.isNamedByContent_of_isRecord (r.ref_dataNode statId state segment) rfl

theorem PolicyDocument.isNamedByContent_of_fragment? {r : PolicyDocument} {f : Fragment}
    (h : r.fragment? = some f) {n : Node} (mem : n ∈ f.nodes) : n.IsNamedByContent := by
  cases nodeOf_of_fragment? h mem with
  | state n state => exact isNamedByContent_of_stateOf? state
  | policyType label _ => exact isNamedByContent_labelNode label rfl
  | keypoint text _ => exact isNamedByContent_keypointNode text
  | entity m n _ node => exact Mention.isNamedByContent_of_node? node
  | policy docId state keypoints =>
    exact Node.isNamedByContent_of_isRecord (r.ref_policyNode docId state keypoints) rfl
  | literal literal => exact isNamedByContent_literalNode literal

/-! ## The graphs of a corpus -/

namespace Corpus

variable {c : Corpus} {now : Instant} {settings : Settings} {g : Graph} {n : Node}

/-- Every node of a graph that a corpus gives is one that a record of the corpus gives, as it is
there. -/
theorem mem_fragments_of_gives (h : c.Gives now settings g) (mem : n ∈ g.nodes.values) :
    (∃ p ∈ c.posts, ∃ plan, PlannedPost.Plans settings p plan ∧ n ∈ plan.nodes) ∨
      (∃ r ∈ c.market, ∃ f, r.fragment? = some f ∧ n ∈ f.nodes) ∨
      ∃ r ∈ c.policies, ∃ f, r.fragment? = some f ∧ n ∈ f.nodes := by
  have ofPosts (mem : n ∈ (c.graphs now settings).social.nodes.values) :
      ∃ p ∈ c.posts, ∃ plan, PlannedPost.Plans settings p plan ∧ n ∈ plan.nodes :=
    Graph.exists_plans_of_mem_ofPosts mem
  have ofMarket (mem : n ∈ (c.graphs now settings).market.nodes.values) :
      ∃ r ∈ c.market, ∃ f, r.fragment? = some f ∧ n ∈ f.nodes := by
    obtain ⟨f, hf, mem⟩ := Graph.mem_of_mem_ofFragments mem
    obtain ⟨r, hr, fragment⟩ := List.mem_filterMap.1 hf
    exact ⟨r, hr, f, fragment, mem⟩
  have ofPolicies (mem : n ∈ (c.graphs now settings).policy.nodes.values) :
      ∃ r ∈ c.policies, ∃ f, r.fragment? = some f ∧ n ∈ f.nodes := by
    obtain ⟨f, hf, mem⟩ := Graph.mem_of_mem_ofFragments mem
    obtain ⟨r, hr, fragment⟩ := List.mem_filterMap.1 hf
    exact ⟨r, hr, f, fragment, mem⟩
  induction h with
  | social => exact .inl (ofPosts mem)
  | market => exact .inr (.inl (ofMarket mem))
  | policy => exact .inr (.inr (ofPolicies mem))
  | whole =>
    rcases Graph.mem_values_union mem with mem | mem
    · rcases Graph.mem_values_union mem with mem | mem
      · exact .inl (ofPosts mem)
      · exact .inr (.inl (ofMarket mem))
    · exact .inr (.inr (ofPolicies mem))
  | aroundTopic topic period _ ih => exact ih (Graph.mem_values_aroundTopic mem)

/-- In every graph that a corpus gives, a node that stands for content has the identifier that its
own properties give. -/
theorem nodes_namedByContent (h : c.Gives now settings g) (mem : n ∈ g.nodes.values) :
    n.IsNamedByContent := by
  rcases mem_fragments_of_gives h mem with ⟨p, -, plan, plans, mem⟩ | ⟨r, -, f, fragment, mem⟩ |
    ⟨r, -, f, fragment, mem⟩
  · exact plans.isNamedByContent mem
  · exact MarketPoint.isNamedByContent_of_fragment? fragment mem
  · exact PolicyDocument.isNamedByContent_of_fragment? fragment mem

/-- An entity that a document mentions between blanks, in the graph of all records. -/
theorem nodes_namedByContent_acme :
    let c : Corpus := { policies := [{ docId := "d", entities := [{ text := " Acme\n" }] }] }
    let now : Instant := ⟨0, 0, by decide⟩
    let g := (c.graphs now {}).whole
    ∃ n ∈ g.nodes.values, n.kind = .entity ∧ n.propertyText? "name" = some "Acme" ∧
      n.IsNamedByContent := by
  intro c now g
  obtain ⟨n, mem, kind, name⟩ :
      ∃ n ∈ g.nodes.values, n.kind = .entity ∧ n.propertyText? "name" = some "Acme" := by
    decide +kernel
  have gives : c.Gives now {} g := .whole
  exact ⟨n, mem, kind, name, nodes_namedByContent gives mem⟩

end Corpus

end KnowledgeGraph
