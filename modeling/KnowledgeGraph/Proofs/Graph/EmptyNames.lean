import KnowledgeGraph.Proofs.Graph.ContentNames
import KnowledgeGraph.Proofs.Graph.StatementEnds
import KnowledgeGraph.Proofs.Graph.TopicPeriod
import KnowledgeGraph.Proofs.Text.Content

/-!
# Nodes with empty names

A record gives nodes for the texts of some of its fields.  Whether a text gives one is a matter of
blanks alone, and its name is the normal form of the text, which loses invisible marks too.  So a
field that consists of an invisible mark gives a node whose name is empty, and a topic of that kind
cannot be asked for (`Corpus.not_showsContent`).

The texts that name nodes are known from the records (`Corpus.namingTexts`).  Exactly where all of
them have content, no node has an empty name (`Corpus.showsContent_of_namingTexts`).  For key points
and entities that takes for granted that texts of different normal forms have different names.
-/

namespace KnowledgeGraph

open KnowledgeGraph.Graph (Fragment)
open Text (HasContent normalize presence?)

/-! ## Texts that name nodes -/

/-- The kinds of nodes that are named by the normal form of a label. -/
def NodeKind.labelled : List NodeKind :=
  [.topic, .sentimentTag, .user, .subreddit, .segment, .policyType]

namespace Node

/-- The text that a node is named by: a label, the text of a key point, or the name of an entity
without an identifier in a knowledge base. -/
def namingText? (n : Node) : Option String :=
  match n.kind with
  | .keyPoint => n.propertyText? "text"
  | .entity => if (n.properties.find? "kb_id").isNone then n.propertyText? "name" else none
  | kind => kind.labelProperty?.bind n.propertyText?

/-- The text that a node is named by, after the kind of the node. -/
def naming? (n : Node) : Option (NodeKind × String) := n.namingText?.map (n.kind, ·)

/-- The name of a node is not empty, nor is the normal form of what a key point or an entity shows
of its name. -/
structure ShowsContent (n : Node) : Prop where
  /-- A node with a label has an identifier. -/
  label : n.kind ∈ NodeKind.labelled → n.id ≠ ""
  /-- A key point has a text whose normal form is not empty. -/
  keypoint : n.kind = .keyPoint → ∃ text, n.propertyText? "text" = some text ∧ normalize text ≠ ""
  /-- An entity without an identifier in a knowledge base has a name whose normal form is not
  empty. -/
  entity : n.kind = .entity → n.properties.find? "kb_id" = none →
    ∃ name, n.propertyText? "name" = some name ∧ normalize name ≠ ""

end Node

/-- The name of a mentioned entity that no knowledge base names. -/
def Mention.ownName? (m : Mention) : Option String :=
  if m.identifiesEntity && m.knownId?.isNone then some m.shownName else none

/-- The texts of mentions that name entities. -/
def entityTexts (ms : List Mention) : List (NodeKind × String) :=
  (ms.filterMap Mention.ownName?).map (.entity, ·)

/-- The texts of a post that name nodes. -/
def Post.namingTexts (p : Post) : List (NodeKind × String) :=
  entityTexts p.entities ++ (p.topic.bind presence?).toList.map (.topic, ·) ++
    (presentTexts p.sentimentTags).map (.sentimentTag, ·) ++
    (p.username.bind presence?).toList.map (.user, ·) ++
    (p.subreddit.bind communityName?).toList.map (.subreddit, ·)

/-- The texts of a point of market data that name nodes. -/
def MarketPoint.namingTexts (r : MarketPoint) : List (NodeKind × String) :=
  (r.segment.bind presence?).toList.map (.segment, ·) ++ entityTexts r.entities

/-- The texts of a document that name nodes.  A literal of a statement names one if no mention of
the document answers to it. -/
def PolicyDocument.namingTexts (r : PolicyDocument) : List (NodeKind × String) :=
  (r.policyType.bind presence?).toList.map (.policyType, ·) ++
    (presentTexts r.keyPoints).map (.keyPoint, ·) ++ entityTexts r.entities ++
    r.newLiterals.map (.entity, ·)

/-- The texts of a fragment that name its nodes. -/
def Graph.Fragment.namingTexts (f : Fragment) : List (NodeKind × String) :=
  f.nodes.filterMap Node.naming?

/-! ## The nodes of records -/

/-- Nodes of the other kinds are not named by texts. -/
theorem naming?_eq_none {n : Node} (kind : NodeKind) (own : n.kind = kind)
    (other : kind ∉ [.keyPoint, .entity] ++ NodeKind.labelled) : n.naming? = none := by
  rw [Node.naming?, Node.namingText?, own]
  cases kind <;> first | rfl | exact absurd (by decide) other

theorem naming?_labelNode {kind : NodeKind} {property : String} (label : String)
    (h : kind.labelProperty? = some property) :
    (labelNode kind property label).naming? = some (kind, label) := by
  have text := propertyText?_labelNode kind property label
  rw [Node.naming?, Node.namingText?, kind_labelNode]
  cases kind <;> cases h <;> simp [NodeKind.labelProperty?, text]

theorem naming?_userNode (platform name : String) :
    (userNode platform name).naming? = some (.user, name) := by
  rw [Node.naming?, Node.namingText?, kind_userNode]
  simp [NodeKind.labelProperty?, propertyText?_userNode]

theorem naming?_keypointNode (text : String) :
    (keypointNode text).naming? = some (.keyPoint, text) := by
  have kind : (keypointNode text).kind = .keyPoint := rfl
  simp only [Node.naming?, Node.namingText?, kind, propertyText?_keypointNode, Option.map_some]

theorem naming?_literalNode (literal : String) :
    (literalNode literal).naming? = some (.entity, literal) := by
  have ⟨name, unknown⟩ := properties_literalNode literal
  have kind : (literalNode literal).kind = .entity := rfl
  simp only [Node.naming?, Node.namingText?, kind, name, unknown, Option.isNone_none, if_true,
    Option.map_some]

theorem naming?_of_stateOf? {code : Option String} {n : Node} (h : stateOf? code = some n) :
    n.naming? = none :=
  naming?_eq_none .state (kind_of_stateOf? h).1 (by decide)

/-- The entities that mentions give are named by the texts of the mentions. -/
theorem filterMap_naming?_mentionedEntities (ms : List Mention) :
    ((mentionedEntities ms).map (·.1)).filterMap Node.naming? = entityTexts ms := by
  rw [entityTexts, mentionedEntities, List.filterMap_map, List.filterMap_filterMap,
    List.map_filterMap]
  refine List.filterMap_congr fun m _ => ?_
  cases node : m.node? with
  | none =>
    have unnamed : m.identifiesEntity = false := by rw [← m.isSome_node?, node, Option.isSome_none]
    simp [Mention.ownName?, unnamed]
  | some n =>
    have identifies : m.identifiesEntity = true := by
      rw [← m.isSome_node?, node, Option.isSome_some]
    obtain ⟨knownId, name, -⟩ := Mention.properties_of_node? node
    have kind := Mention.kind_of_node? node
    cases known : m.knownId? with
    | none =>
      rw [known] at knownId
      simp [Node.naming?, Node.namingText?, kind, knownId, name known, Mention.ownName?,
        identifies, known]
    | some id =>
      rw [known] at knownId
      simp [Node.naming?, Node.namingText?, kind, knownId, Mention.ownName?, known]

/-- Nodes that are made of texts are named by them. -/
theorem filterMap_naming?_map {node : String → Node} {kind : NodeKind}
    (named : ∀ text, (node text).naming? = some (kind, text)) (texts : List String) :
    (texts.map node).filterMap Node.naming? = texts.map (kind, ·) := by
  rw [List.filterMap_map]
  simp [named]

theorem filterMap_naming?_labels {kind : NodeKind} {property : String}
    (h : kind.labelProperty? = some property) (texts : List String) :
    (texts.map (labelNode kind property)).filterMap Node.naming? = texts.map (kind, ·) :=
  filterMap_naming?_map (fun text => naming?_labelNode text h) texts

theorem filterMap_naming?_stateOf? (code : Option String) :
    (stateOf? code).toList.filterMap Node.naming? = [] :=
  List.filterMap_eq_nil_iff.2 fun _ mem => naming?_of_stateOf? (Option.mem_toList.1 mem)

theorem filterMap_naming?_keywords (language : String) (slots : List Keyword.Slot) :
    (slots.map (keywordNode language)).filterMap Node.naming? = [] := by
  refine List.filterMap_eq_nil_iff.2 fun n mem => ?_
  obtain ⟨s, -, rfl⟩ := List.mem_map.1 mem
  exact naming?_eq_none .keyword rfl (by decide)

/-- A planned post names its nodes by the texts of the post. -/
theorem PlannedPost.Plans.namingTexts {settings : Settings} {p : Post} {plan : PlannedPost}
    (h : Plans settings p plan) (w : Weighting) :
    (plan.fragment w).namingTexts = p.namingTexts := by
  have post (id : String) (count : Nat) : (p.postNode settings id count).naming? = none :=
    naming?_eq_none .post (congrArg Ref.kind (ref_postNode settings p id count)) (by decide)
  show plan.nodes.filterMap Node.naming? = p.namingTexts
  rw [h.nodes]
  simp (disch := decide) only [Post.namingTexts, List.filterMap_append, Option.toList_map,
    filterMap_naming?_keywords, filterMap_naming?_mentionedEntities, filterMap_naming?_labels,
    filterMap_naming?_map (naming?_userNode p.platform), List.filterMap_cons, post,
    List.filterMap_nil, List.nil_append, List.append_nil]

theorem MarketPoint.namingTexts_of_fragment? {r : MarketPoint} {f : Fragment}
    (h : r.fragment? = some f) : f.namingTexts = r.namingTexts := by
  simp only [fragment?, Option.map_eq_some_iff] at h
  obtain ⟨statId, -, rfl⟩ := h
  have data (state segment : Option Node) : (r.dataNode statId state segment).naming? = none :=
    naming?_eq_none .marketData (congrArg Ref.kind (r.ref_dataNode statId state segment))
      (by decide)
  simp (disch := decide) only [Graph.Fragment.namingTexts, namingTexts, List.filterMap_append,
    Option.toList_map, filterMap_naming?_stateOf?, filterMap_naming?_labels,
    filterMap_naming?_mentionedEntities, List.filterMap_cons, data, List.filterMap_nil,
    List.nil_append, List.append_nil]

theorem PolicyDocument.namingTexts_of_fragment? {r : PolicyDocument} {f : Fragment}
    (h : r.fragment? = some f) : f.namingTexts = r.namingTexts := by
  simp only [fragment?, Option.map_eq_some_iff] at h
  obtain ⟨docId, -, rfl⟩ := h
  have policy (state : Option Node) (keypoints : Nat) :
      (r.policyNode docId state keypoints).naming? = none :=
    naming?_eq_none .policy (congrArg Ref.kind (r.ref_policyNode docId state keypoints)) (by decide)
  simp (disch := decide) only [Graph.Fragment.namingTexts, namingTexts, List.filterMap_append,
    Option.toList_map, filterMap_naming?_stateOf?, filterMap_naming?_labels,
    filterMap_naming?_mentionedEntities, filterMap_naming?_map naming?_keypointNode,
    created_relationEdges, filterMap_naming?_map naming?_literalNode, List.filterMap_cons, policy,
    List.filterMap_nil, List.nil_append, List.append_nil]

/-! ## Nodes with content -/

namespace Node

variable {n : Node}

theorem namingText?_of_keyPoint (kind : n.kind = .keyPoint) :
    n.namingText? = n.propertyText? "text" := by
  rw [namingText?, kind]

theorem namingText?_of_entity (kind : n.kind = .entity) : n.namingText? =
    if (n.properties.find? "kb_id").isNone then n.propertyText? "name" else none := by
  rw [namingText?, kind]

/-- A node with a label is named by the normal form of that. -/
theorem IsNamedByContent.id_eq (h : n.IsNamedByContent) (labelled : n.kind ∈ NodeKind.labelled) :
    ∃ label, n.namingText? = some label ∧ n.id = normalize label := by
  have label : n.recomputed? = n.namingText?.map normalize := by
    rw [recomputed?, namingText?]
    cases kind : n.kind <;> rw [kind] at labelled <;>
      first | exact absurd labelled (by decide) | rfl
  have content : n.kind.isRecord = false := by
    cases kind : n.kind <;> rw [kind] at labelled <;>
      first | exact absurd labelled (by decide) | rfl
  have own := h.identifier content
  rw [label] at own
  obtain ⟨text, naming, id⟩ := Option.map_eq_some_iff.1 own
  exact ⟨text, naming, id.symm⟩

/-- A key point has a text. -/
theorem IsNamedByContent.exists_text (h : n.IsNamedByContent) (kind : n.kind = .keyPoint) :
    ∃ text, n.propertyText? "text" = some text := by
  obtain ⟨text, own, -⟩ := h.normalized kind
  exact ⟨text, own⟩

/-- An entity that no knowledge base names has a name. -/
theorem IsNamedByContent.exists_name (h : n.IsNamedByContent) (kind : n.kind = .entity)
    (unknown : n.properties.find? "kb_id" = none) :
    ∃ name, n.propertyText? "name" = some name := by
  have own := h.identifier (by rw [kind]; rfl)
  rw [recomputed?_of_entity kind, recomputedEntity?, unknown] at own
  obtain ⟨name, has, -⟩ := Option.bind_eq_some_iff.1 own
  exact ⟨name, has⟩

/-- A node that is named by its properties shows content exactly if the text that names it has
some. -/
theorem IsNamedByContent.showsContent_iff (h : n.IsNamedByContent) :
    n.ShowsContent ↔ ∀ text, n.namingText? = some text → HasContent text := by
  simp only [← Text.normalize_ne_empty_iff]
  constructor
  · intro shown text naming
    by_cases labelled : n.kind ∈ NodeKind.labelled
    · obtain ⟨label, own, id⟩ := h.id_eq labelled
      rw [Option.some.inj (naming.symm.trans own), ← id]
      exact shown.label labelled
    · cases kind : n.kind with
      | keyPoint =>
        obtain ⟨own, has, filled⟩ := shown.keypoint kind
        rw [namingText?_of_keyPoint kind, has] at naming
        rwa [← Option.some.inj naming]
      | entity =>
        rw [namingText?_of_entity kind] at naming
        split at naming
        · next unknown =>
          obtain ⟨own, has, filled⟩ := shown.entity kind (Option.isNone_iff_eq_none.1 unknown)
          rw [has] at naming
          rwa [← Option.some.inj naming]
        · cases naming
      | _ =>
        rw [kind] at labelled
        first
        | exact absurd (by decide) labelled
        | (rw [namingText?, kind] at naming; cases naming)
  · intro named
    refine ⟨fun labelled => ?_, fun kind => ?_, fun kind unknown => ?_⟩
    · obtain ⟨label, own, id⟩ := h.id_eq labelled
      rw [id]
      exact named label own
    · obtain ⟨text, has⟩ := h.exists_text kind
      exact ⟨text, has, named text ((namingText?_of_keyPoint kind).trans has)⟩
    · obtain ⟨name, has⟩ := h.exists_name kind unknown
      refine ⟨name, has, named name ?_⟩
      rw [namingText?_of_entity kind, unknown]
      exact has

end Node

/-! ## Graphs of fragments -/

namespace Graph

/-- Nodes of a kind that have one reference are named by texts of one normal form. -/
def NamesApart (kind : NodeKind) (ns : List Node) : Prop :=
  ∀ m ∈ ns, ∀ n ∈ ns, m.kind = kind → m.ref = n.ref →
    m.namingText?.map normalize = n.namingText?.map normalize

variable {fs : List Fragment} {kind : NodeKind}

/-- Labels are told apart by the identifiers, which are their normal forms. -/
theorem namesApart_of_labelled {ns : List Node} (named : ∀ n ∈ ns, n.IsNamedByContent)
    (labelled : kind ∈ NodeKind.labelled) : NamesApart kind ns := by
  intro m hm n hn own same
  have other : n.kind = kind := (congrArg Ref.kind same).symm.trans own
  obtain ⟨text, naming, id⟩ := (named m hm).id_eq (own ▸ labelled)
  obtain ⟨text', naming', id'⟩ := (named n hn).id_eq (other ▸ labelled)
  have ids : m.id = n.id := congrArg Ref.id same
  rw [naming, naming', Option.map_some, Option.map_some, ← id, ← id', ids]

/-- Where all texts that name nodes have content, all nodes show some. -/
theorem showsContent_of_mem_ofFragments (named : ∀ f ∈ fs, ∀ n ∈ f.nodes, n.IsNamedByContent)
    (content : ∀ t ∈ fs.flatMap Fragment.namingTexts, HasContent t.2) {n : Node}
    (mem : n ∈ (ofFragments fs).nodes.values) : n.ShowsContent := by
  obtain ⟨f, hf, mem⟩ := mem_of_mem_ofFragments mem
  refine (named f hf n mem).showsContent_iff.2 fun text naming => ?_
  refine content (n.kind, text) (List.mem_flatMap.2 ⟨f, hf, List.mem_filterMap.2 ⟨n, mem, ?_⟩⟩)
  rw [Node.naming?, naming]
  rfl

/-- Where the nodes of a kind show content and are told apart, the texts that name nodes of that
kind have content: some node stands for each of them. -/
theorem hasContent_of_showsContent (named : ∀ f ∈ fs, ∀ n ∈ f.nodes, n.IsNamedByContent)
    (apart : NamesApart kind (fs.flatMap (·.nodes)))
    (shown : ∀ n ∈ (ofFragments fs).nodes.values, n.kind = kind → n.ShowsContent) {text : String}
    (mem : (kind, text) ∈ fs.flatMap Fragment.namingTexts) : HasContent text := by
  obtain ⟨f, hf, mem⟩ := List.mem_flatMap.1 mem
  obtain ⟨m, hm, pair⟩ := List.mem_filterMap.1 mem
  obtain ⟨own, naming, eq⟩ := Option.map_eq_some_iff.1 pair
  obtain ⟨rfl, rfl⟩ := Prod.mk.inj eq
  obtain ⟨n, found⟩ := Option.isSome_iff_exists.1
    (contains_ofFragments hf (List.mem_map_of_mem hm))
  have same : n.ref = m.ref := (isKeyed_ofFragments fs).ref_eq found
  have hn := mem_values_of_node? found
  obtain ⟨f', hf', hn'⟩ := mem_of_mem_ofFragments hn
  have normal := apart m (List.mem_flatMap.2 ⟨f, hf, hm⟩) n (List.mem_flatMap.2 ⟨f', hf', hn'⟩) rfl
    same.symm
  rw [naming] at normal
  obtain ⟨text, naming', normal⟩ := Option.map_eq_some_iff.1 normal.symm
  have content := (named f' hf' n hn').showsContent_iff.1 (shown n hn (congrArg Ref.kind same)) text
    naming'
  rwa [← Text.normalize_ne_empty_iff, ← normal, Text.normalize_ne_empty_iff]

/-! ## Posts that are found by their topics -/

/-- A post with a topic is found by it exactly if the topic has content. -/
theorem contains_aroundTopic_iff (now : Instant) (settings : Settings) {posts : List Post}
    {p : Post} {id label : String} (hp : p ∈ posts) (named : p.identifier? = some id)
    (has : p.topic.bind presence? = some label) :
    ((ofPosts now settings posts).aroundTopic label none).contains ⟨.post, id⟩ = true ↔
      HasContent label := by
  have wf := isWellFormed_ofPosts now settings posts
  have edge : plainEdge .hasTopic ⟨.post, id⟩ ⟨.topic, normalize label⟩ ∈
      (ofPosts now settings posts).edgesOf .hasTopic :=
    mem_hasTopic_ofPosts.2 ⟨p, hp, id, label, named, has, rfl⟩
  rw [← Text.normalize_ne_empty_iff]
  by_cases empty : normalize label = ""
  · have nothing : (ofPosts now settings posts).aroundTopic label none = Graph.empty := by
      simp [aroundTopic, topicRef, empty]
    rw [nothing]
    exact iff_of_false Bool.false_ne_true (not_not_intro empty)
  · have selected : (⟨.post, id⟩ : Ref) ∈
        (ofPosts now settings posts).topicPosts (topicRef label) none :=
      mem_topicPosts.2
        ⟨⟨_, edge, rfl, rfl⟩, rfl, fun q hq => absurd hq (Option.not_mem_none q)⟩
    have kept := (wf.mem_aroundRefs empty rfl).2 selected
    have source := wf.contains_source (List.mem_filter.1 edge).1
    rw [source_plainEdge] at source
    rw [aroundTopic_eq_restrict, contains_eq, wf.keyed.node?_restrict, if_pos kept, ← contains_eq]
    exact iff_of_true source empty

end Graph

/-! ## The graphs of a corpus -/

/-- The graphs of the three families, one by one. -/
def CorpusGraphs.families (s : CorpusGraphs) : List Graph := [s.social, s.market, s.policy]

namespace Corpus

/-- What the records of each family give, in the order of the families. -/
def families (c : Corpus) (now : Instant) (settings : Settings) : List (List Fragment) :=
  let plans := plansOf settings c.posts
  [plans.map (PlannedPost.fragment (.of now settings plans)),
    c.market.filterMap MarketPoint.fragment?, c.policies.filterMap PolicyDocument.fragment?]

/-- The texts of the records with an identifier that name nodes. -/
def namingTexts (c : Corpus) : List (NodeKind × String) :=
  (c.posts.filter (·.identifier?.isSome)).flatMap Post.namingTexts ++
    (c.market.filter fun r => (presence? r.statId).isSome).flatMap MarketPoint.namingTexts ++
    (c.policies.filter fun r => (presence? r.docId).isSome).flatMap PolicyDocument.namingTexts

/-- Nodes of a kind that records give under one reference are named by texts of one normal form. -/
def NamesApart (c : Corpus) (now : Instant) (settings : Settings) (kind : NodeKind) : Prop :=
  Graph.NamesApart kind ((c.families now settings).flatten.flatMap (·.nodes))

/-- No node of the three graphs has an empty name, and every post with a topic is found by it. -/
structure ShowsContent (c : Corpus) (now : Instant) (settings : Settings) : Prop where
  /-- No node has an empty name. -/
  nodes : ∀ g ∈ (c.graphs now settings).families, ∀ n ∈ g.nodes.values, n.ShowsContent
  /-- Every post with a topic is found by it. -/
  topics : ∀ p ∈ c.posts, ∀ id label, p.identifier? = some id →
    p.topic.bind presence? = some label →
    ((c.graphs now settings).social.aroundTopic label none).contains ⟨.post, id⟩ = true

variable {c : Corpus} {now : Instant} {settings : Settings}

/-- What records give is what the ones that are kept give. -/
theorem flatMap_filterMap_eq {α β γ : Type} {f : α → Option β} {g : β → List γ} {h : α → List γ}
    (same : ∀ a b, f a = some b → g b = h a) (as : List α) :
    (as.filterMap f).flatMap g = (as.filter fun a => (f a).isSome).flatMap h := by
  induction as with
  | nil => rfl
  | cons a as ih =>
    rw [List.filterMap_cons, List.filter_cons]
    cases given : f a with
    | none => simpa using ih
    | some b =>
      rw [Option.isSome_some, if_pos rfl, List.flatMap_cons, List.flatMap_cons, ih, same a b given]

/-- The texts that name the nodes of the graphs are those of the records. -/
theorem namingTexts_families (c : Corpus) (now : Instant) (settings : Settings) :
    (c.families now settings).flatten.flatMap Fragment.namingTexts = c.namingTexts := by
  have posts : ((plansOf settings c.posts).map (PlannedPost.fragment
      (.of now settings (plansOf settings c.posts)))).flatMap Fragment.namingTexts =
      (c.posts.filter (·.identifier?.isSome)).flatMap Post.namingTexts := by
    rw [List.flatMap_map, plansOf, flatMap_filterMap_eq fun p plan planned =>
      (PlannedPost.plans_of_of? planned).namingTexts _]
    simp only [PlannedPost.isSome_of?]
  have market : (c.market.filterMap MarketPoint.fragment?).flatMap Fragment.namingTexts =
      (c.market.filter fun r => (presence? r.statId).isSome).flatMap MarketPoint.namingTexts := by
    rw [flatMap_filterMap_eq fun r f given => MarketPoint.namingTexts_of_fragment? given]
    simp only [MarketPoint.fragment?, Option.isSome_map]
  have policies : (c.policies.filterMap PolicyDocument.fragment?).flatMap Fragment.namingTexts =
      (c.policies.filter fun r => (presence? r.docId).isSome).flatMap
        PolicyDocument.namingTexts := by
    rw [flatMap_filterMap_eq fun r f given => PolicyDocument.namingTexts_of_fragment? given]
    simp only [PolicyDocument.fragment?, Option.isSome_map]
  simp only [families, List.flatten_cons, List.flatten_nil, List.append_nil, List.flatMap_append,
    posts, market, policies, namingTexts, List.append_assoc]

theorem isNamedByContent_families {fs : List Fragment} (family : fs ∈ c.families now settings) :
    ∀ f ∈ fs, ∀ n ∈ f.nodes, n.IsNamedByContent := by
  intro f hf n mem
  simp only [families, List.mem_cons, List.not_mem_nil, or_false] at family
  rcases family with rfl | rfl | rfl
  · obtain ⟨plan, hplan, rfl⟩ := List.mem_map.1 hf
    obtain ⟨p, -, plans⟩ := mem_plansOf hplan
    exact plans.isNamedByContent mem
  · obtain ⟨r, -, given⟩ := List.mem_filterMap.1 hf
    exact MarketPoint.isNamedByContent_of_fragment? given mem
  · obtain ⟨r, -, given⟩ := List.mem_filterMap.1 hf
    exact PolicyDocument.isNamedByContent_of_fragment? given mem

theorem families_graphs (c : Corpus) (now : Instant) (settings : Settings) :
    (c.graphs now settings).families = (c.families now settings).map Graph.ofFragments := rfl

/-- Where the texts that name nodes have content, every node shows some. -/
theorem showsContent_families (content : ∀ t ∈ c.namingTexts, HasContent t.2) :
    ∀ g ∈ (c.graphs now settings).families, ∀ n ∈ g.nodes.values, n.ShowsContent := by
  intro g family n mem
  rw [families_graphs] at family
  obtain ⟨fs, hfs, rfl⟩ := List.mem_map.1 family
  refine Graph.showsContent_of_mem_ofFragments (isNamedByContent_families hfs) (fun t ht => ?_) mem
  refine content t ?_
  rw [← namingTexts_families c now settings]
  obtain ⟨f, hf, mem⟩ := List.mem_flatMap.1 ht
  exact List.mem_flatMap.2 ⟨f, List.mem_flatten.2 ⟨fs, hfs, hf⟩, mem⟩

/-- Where the nodes of a kind show content and are told apart, the texts that name nodes of that
kind have content. -/
theorem hasContent_of_families {kind : NodeKind}
    (apart : kind ∈ NodeKind.labelled ∨ c.NamesApart now settings kind)
    (shown : ∀ g ∈ (c.graphs now settings).families, ∀ n ∈ g.nodes.values,
      n.kind = kind → n.ShowsContent) {text : String} (mem : (kind, text) ∈ c.namingTexts) :
    HasContent text := by
  rw [families_graphs] at shown
  rw [← namingTexts_families c now settings] at mem
  obtain ⟨f, hf, mem⟩ := List.mem_flatMap.1 mem
  obtain ⟨fs, hfs, hf⟩ := List.mem_flatten.1 hf
  have named := isNamedByContent_families hfs
  refine Graph.hasContent_of_showsContent named ?_ (shown _ (List.mem_map_of_mem hfs))
    (List.mem_flatMap.2 ⟨f, hf, mem⟩)
  rcases apart with labelled | apart
  · refine Graph.namesApart_of_labelled (fun n hn => ?_) labelled
    obtain ⟨f', hf', hn⟩ := List.mem_flatMap.1 hn
    exact named f' hf' n hn
  · have given {n : Node} (hn : n ∈ fs.flatMap (·.nodes)) :
        n ∈ (c.families now settings).flatten.flatMap (·.nodes) := by
      obtain ⟨f', hf', hn⟩ := List.mem_flatMap.1 hn
      exact List.mem_flatMap.2 ⟨f', List.mem_flatten.2 ⟨fs, hfs, hf'⟩, hn⟩
    exact fun m hm n hn => apart m (given hm) n (given hn)

/-- Where the texts that name nodes have content, no node of the three graphs has an empty name and
every post with a topic is found by it.  The converse holds kind by kind, for the labelled kinds
always and for the others where texts of different normal forms have different names.  A post is
found by its topic exactly if the topic has content. -/
theorem showsContent_of_namingTexts (c : Corpus) (now : Instant) (settings : Settings) :
    ((∀ t ∈ c.namingTexts, HasContent t.2) → c.ShowsContent now settings) ∧
    (∀ kind, kind ∈ NodeKind.labelled ∨ c.NamesApart now settings kind →
      (∀ g ∈ (c.graphs now settings).families, ∀ n ∈ g.nodes.values,
        n.kind = kind → n.ShowsContent) →
      ∀ text, (kind, text) ∈ c.namingTexts → HasContent text) ∧
    ∀ p ∈ c.posts, ∀ id label, p.identifier? = some id → p.topic.bind presence? = some label →
      (((c.graphs now settings).social.aroundTopic label none).contains ⟨.post, id⟩ = true ↔
        HasContent label) := by
  have found {p : Post} (hp : p ∈ c.posts) {id label : String} (named : p.identifier? = some id)
      (has : p.topic.bind presence? = some label) :=
    Graph.contains_aroundTopic_iff now settings hp named has
  refine ⟨fun content => ⟨showsContent_families content, ?_⟩,
    fun kind apart shown text mem => hasContent_of_families apart shown mem,
    fun p hp id label => found hp⟩
  intro p hp id label named has
  refine (found hp named has).2 (content (.topic, label) ?_)
  have kept : p ∈ c.posts.filter (·.identifier?.isSome) :=
    List.mem_filter.2 ⟨hp, by rw [named]; rfl⟩
  have own : (.topic, label) ∈ p.namingTexts := by
    simp [Post.namingTexts, has]
  exact List.mem_append_left _ (List.mem_append_left _ (List.mem_flatMap.2 ⟨p, kept, own⟩))

/-- A post and a document whose texts have content, though some of them begin with an invisible
mark. -/
theorem showsContent_of_namingTexts_games :
    let c : Corpus :=
      { posts := [{ id := "p", topic := some "\u200bGames", subreddit := some "r/Lottery" }]
        policies := [{ docId := "d", keyPoints := ["\u200bAge limit"]
                       relations := [{ subject := "Acme", object := "Texas" }] }] }
    let now : Instant := ⟨0, 0, by decide⟩
    c.ShowsContent now {} ∧ (.topic, "\u200bGames") ∈ c.namingTexts ∧
      ((c.graphs now {}).social.aroundTopic "\u200bGames" none).contains ⟨.post, "p"⟩ = true := by
  intro c now
  have content : ∀ t ∈ c.namingTexts, HasContent t.2 := by decide +kernel
  have ⟨shown, _, found⟩ := showsContent_of_namingTexts c now {}
  refine ⟨shown content, by decide +kernel, ?_⟩
  exact (found c.posts[0] (by simp [c]) "p" "\u200bGames" (by decide +kernel) (by decide +kernel)).2
    (by decide)

/-- A topic that consists of an invisible mark gives a node whose name is empty. -/
theorem not_showsContent :
    ¬ ∀ (c : Corpus) (now : Instant) (settings : Settings), c.ShowsContent now settings := by
  intro claim
  let c : Corpus := { posts := [{ id := "p", topic := some "\u200b" }] }
  let now : Instant := ⟨0, 0, by decide⟩
  have shown := (claim c now {}).nodes (c.graphs now {}).social (by simp [CorpusGraphs.families])
  obtain ⟨n, mem, labelled, empty⟩ : ∃ n ∈ (c.graphs now {}).social.nodes.values,
      n.kind ∈ NodeKind.labelled ∧ n.id = "" := by decide +kernel
  exact (shown n mem).label labelled empty

end Corpus

end KnowledgeGraph
