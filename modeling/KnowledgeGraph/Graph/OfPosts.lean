import KnowledgeGraph.Graph.Parts
import KnowledgeGraph.Keyword.Collection
import KnowledgeGraph.Keyword.Statistics
import KnowledgeGraph.Record.SourcePost
import KnowledgeGraph.Time.Decay
import KnowledgeGraph.Time.Written

/-!
# Graphs of social posts

A post gives a node for itself and nodes for its keywords, entities, topic, sentiments, author
and community, with an edge to each of them, and edges between keywords that occur together.
A post without a name gives nothing.

The weight of a keyword in a post depends on all posts.  So every post is planned first
(`PlannedPost.of?`), and the keywords of all plans are counted.  Then every plan gives its
edges, with weights from these counts.
-/

namespace KnowledgeGraph

open KnowledgeGraph.Graph (Fragment)
open Text (presence?)

/-! ## Planning -/

/-- A keyword of a planned post. -/
structure KeywordUse where
  /-- The keyword. -/
  node : Ref
  /-- How often it occurs in the post. -/
  occurrences : Nat

/-- What a post gives by itself, before the other posts are looked at. -/
structure PlannedPost where
  /-- The post. -/
  post : Ref
  /-- The nodes of the post and of what it refers to, in the order of adding. -/
  nodes : List Node
  /-- The time of the post. -/
  instant : Option Instant
  /-- The keywords that the post keeps. -/
  keywords : List KeywordUse
  /-- The entities that the post mentions. -/
  entities : List (Node × Mention)
  /-- The topic. -/
  topic : Option Ref
  /-- The names of sentiments. -/
  sentiments : List Ref
  /-- The orientation of the sentiment. -/
  orientation : Option String
  /-- The author. -/
  user : Option Ref
  /-- The community. -/
  subreddit : Option Ref

/-- The language of a post's keywords, in lower case. -/
def Post.keywordLanguage (settings : Settings) (p : Post) : String :=
  Text.lower ((p.language.bind presence?).getD settings.language)

/-- The node of a keyword. -/
def keywordNode (language : String) (s : Keyword.Slot) : Node :=
  { kind := .keyword, id := keywordIdentifier s.normal language : Node }
    |>.set "text" (.string s.normal)
    |>.set "label" (.string s.surface)
    |>.set "language" (.string language)

/-- The beginning of a text, trimmed, of at most `n` characters. -/
def opening (s : String) (n : Nat) : String :=
  String.ofList ((Text.trimChars s.toList).take n)

/-- The node of a post. -/
def Post.postNode (settings : Settings) (p : Post) (id : String)
    (keywordCount : Nat) : Node :=
  { kind := .post, id : Node }
    |>.setPresent "uri" ((presence? p.uri).map .string)
    |>.setPresent "platform" ((presence? p.platform).map .string)
    |>.setPresent "text" (some (.string (opening p.text settings.excerptLimit)))
    |>.setPresent "timestamp" (p.instant?.map fun t => .string t.written)
    |>.setPresent "sentiment" ((p.sentiment.bind presence?).map .string)
    |>.setPresent "sentiment_tags" (presentList? p.sentimentTags)
    |>.setPresent "sentiment_phrases" (presentList? p.sentimentPhrases)
    |>.setPresent "emotion_words" (presentList? p.emotionWords)
    |>.setPresent "topic" ((p.topic.bind presence?).map .string)
    |>.setPresent "username" ((p.username.bind presence?).map .string)
    |>.setPresent "subreddit" ((p.subreddit.bind communityName?).map .string)
    |>.set "language" (.string (p.keywordLanguage settings))
    |>.set "keyword_count" (.ofNat keywordCount)

/-- The node of an author. -/
def userNode (platform username : String) : Node :=
  (labelNode .user "username" username).setPresent "platform"
    ((presence? platform).map .string)

/-- The plan of a post, if it has a name. -/
def PlannedPost.of? (settings : Settings) (p : Post) : Option PlannedPost :=
  p.identifier?.map fun id =>
    let slots := Keyword.ofPost settings p
    let keywords := slots.map (keywordNode (p.keywordLanguage settings))
    let entities := mentionedEntities p.entities
    let topic := (p.topic.bind presence?).map (labelNode .topic "label")
    let sentiments := (presentTexts p.sentimentTags).map (labelNode .sentimentTag "label")
    let user := (p.username.bind presence?).map (userNode p.platform)
    let subreddit := (p.subreddit.bind communityName?).map (labelNode .subreddit "name")
    let post := p.postNode settings id slots.length
    { post := post.ref
      nodes := keywords ++ entities.map (·.1) ++ topic.toList ++ sentiments ++ user.toList ++
        subreddit.toList ++ [post]
      instant := p.instant?
      keywords := keywords.zipWith (fun n s => ⟨n.ref, s.occurrences⟩) slots
      entities
      topic := topic.map Node.ref
      sentiments := distinct (sentiments.map Node.ref)
      orientation := p.sentiment.bind presence?
      user := user.map Node.ref
      subreddit := subreddit.map Node.ref }

/-! ## Weights -/

/-- What the edges of a post depend on beside its plan. -/
structure Weighting where
  /-- Whether keywords are weighted by how rare they are. -/
  byRarity : Bool
  /-- The counts of all posts. -/
  statistics : Keyword.Statistics
  /-- The decay of weights, if there is one. -/
  decay : Option Decay
  /-- How far apart keywords that occur together may stand. -/
  window : Option Nat

/-- The counts of planned posts. -/
def statisticsOf (plans : List PlannedPost) : Keyword.Statistics :=
  plans.foldl (fun s p => s.observe (p.keywords.map (·.node.id))) {}

/-- The weighting for planned posts. -/
def Weighting.of (now : Instant) (settings : Settings) (plans : List PlannedPost) : Weighting where
  byRarity := settings.weighRarity
  statistics := statisticsOf plans
  decay := Decay.of? now settings.tau settings.reference
  window := settings.window

/-! ## Edges -/

/-- The pairs of elements of a list, the first one before the second, that stand at most
`window` places apart. -/
def pairsWithin {α : Type} (window : Option Nat) : List α → List (α × α)
  | [] => []
  | a :: as =>
      (match window with
        | none => as
        | some w => as.take w).map (a, ·) ++ pairsWithin window as

/-- A window as a value. -/
def windowValue : Option Nat → Json
  | some w => .ofNat w
  | none => .string "post"

namespace PlannedPost

/-- The edge to a keyword. -/
def keywordEdge (w : Weighting) (p : PlannedPost) (k : KeywordUse) : Edge :=
  let tf := Keyword.share k.occurrences p.keywords.length
  let rarity := w.statistics.rarity k.node.id
  let factor := w.decay.map (·.factor p.instant)
  let plain := if w.byRarity then tf * rarity else 1.0
  let weight := match factor with
    | some f => plain * f
    | none => plain
  let edge := { kind := .mentionsKeyword, source := p.post, target := k.node : Edge }
    |>.set "occurrences" (.ofNat k.occurrences)
  let edge := if w.byRarity then
      (edge.set "tf" (.ofFloat tf)).set "idf" (.ofFloat rarity)
    else edge
  let edge := match factor with
    | some f => edge.set "decay" (.ofFloat f)
    | none => edge
  edge.setWeight weight

/-- The edge between two keywords that occur together. -/
def pairEdge (w : Weighting) (p : PlannedPost) (pair : KeywordUse × KeywordUse) : Edge :=
  (plainEdge .coOccurs pair.1.node pair.2.node)
    |>.set "window" (windowValue w.window)
    |>.set "post_id" (.string p.post.id)

/-- The edge to the name of a sentiment. -/
def sentimentEdge (p : PlannedPost) (tag : Ref) : Edge :=
  (plainEdge .hasSentiment p.post tag).setPresent "orientation" (p.orientation.map .string)

/-- The edges of a post. -/
def edges (w : Weighting) (p : PlannedPost) : List Edge :=
  p.keywords.map (p.keywordEdge w) ++
    entityEdges p.post p.entities ++
    (p.topic.map (plainEdge .hasTopic p.post)).toList ++
    p.sentiments.map p.sentimentEdge ++
    (p.user.map (plainEdge .authoredBy p.post)).toList ++
    (p.subreddit.map (plainEdge .inSubreddit p.post)).toList ++
    (pairsWithin w.window p.keywords).map (p.pairEdge w)

/-- What a planned post gives to a graph. -/
def fragment (w : Weighting) (p : PlannedPost) : Fragment := ⟨p.nodes, p.edges w⟩

end PlannedPost

/-- The graph of social posts.  `now` is the reference of the decay if the settings have none. -/
def Graph.ofPosts (now : Instant) (settings : Settings) (posts : List Post) : Graph :=
  let plans := posts.filterMap (PlannedPost.of? settings)
  .ofFragments (plans.map (PlannedPost.fragment (.of now settings plans)))

end KnowledgeGraph
