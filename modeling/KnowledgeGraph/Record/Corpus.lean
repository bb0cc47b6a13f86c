import KnowledgeGraph.Record.MarketPoint
import KnowledgeGraph.Record.PolicyDocument
import KnowledgeGraph.Record.Post

/-!
# Corpora

The records of all three families together.
-/

namespace KnowledgeGraph

open Json (Codec)

/-- Records of all three families. -/
structure Corpus where
  /-- The social posts. -/
  posts : List Post := []
  /-- The market data. -/
  market : List MarketPoint := []
  /-- The documents of policy. -/
  policies : List PolicyDocument := []
deriving Inhabited

/-- Corpora in JSON. -/
def Corpus.codec : Codec Corpus :=
  .record {} [
    .of "posts" (.list Post.codec) (·.posts) (fun v c => { c with posts := v }),
    .of "market" (.list MarketPoint.codec) (·.market) (fun v c => { c with market := v }),
    .of "policies" (.list PolicyDocument.codec) (·.policies)
      (fun v c => { c with policies := v })]

end KnowledgeGraph
