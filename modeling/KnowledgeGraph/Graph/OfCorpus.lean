import KnowledgeGraph.Graph.OfMarket
import KnowledgeGraph.Graph.OfPolicies
import KnowledgeGraph.Graph.OfPosts
import KnowledgeGraph.Record.Corpus

/-!
# Graphs of a corpus

The graphs of the three families of records of a corpus, and their union.  An entity or a
state that occurs in several families is one node there, with the properties of the first
family that has it: social, then market, then policy.
-/

namespace KnowledgeGraph

/-- The graphs of the three families. -/
structure CorpusGraphs where
  /-- The graph of the social posts. -/
  social : Graph
  /-- The graph of the market data. -/
  market : Graph
  /-- The graph of the policies. -/
  policy : Graph

/-- The three graphs as one. -/
def CorpusGraphs.whole (s : CorpusGraphs) : Graph := (s.social.union s.market).union s.policy

/-- The graphs of a corpus. -/
def Corpus.graphs (c : Corpus) (now : Instant) (settings : Settings) : CorpusGraphs where
  social := Graph.ofPosts now settings c.posts
  market := Graph.ofMarket c.market
  policy := Graph.ofPolicies c.policies

end KnowledgeGraph
