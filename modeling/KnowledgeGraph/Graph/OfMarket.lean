import KnowledgeGraph.Graph.Parts
import KnowledgeGraph.Record.MarketPoint
import KnowledgeGraph.Time.FreeText
import KnowledgeGraph.Time.Written

/-!
# Graphs of market data

A point of market data gives a node for itself, with edges to its state, its segment and the
entities it mentions.  A point without an identifier gives nothing.
-/

namespace KnowledgeGraph

open KnowledgeGraph.Graph (Fragment)
open Text (presence?)

namespace MarketPoint

/-- The node of a point.  Its state and its segment are known by their identifiers. -/
def dataNode (r : MarketPoint) (statId : String) (state segment : Option Node) : Node :=
  { kind := .marketData, id := statId : Node }
    |>.setPresent "title" ((r.title.bind presence?).map .string)
    |>.setPresent "date" ((Time.ofOptionalText? r.date).map fun t => .string t.writtenDate)
    |>.setPresent "volume" (r.volume.map .ofFloat)
    |>.setPresent "revenue" (r.revenue.map .ofFloat)
    |>.setPresent "jackpot" (r.jackpot.map .ofFloat)
    |>.setPresent "unit_price" (r.unitPrice.map .ofFloat)
    |>.setPresent "source" ((r.source.bind presence?).map .string)
    |>.setPresent "state" (state.map fun n => .string n.id)
    |>.setPresent "segment" (segment.map fun n => .string n.id)

/-- What a point gives to a graph. -/
def fragment? (r : MarketPoint) : Option Fragment :=
  (presence? r.statId).map fun statId =>
    let state := stateOf? r.state
    let segment := (r.segment.bind presence?).map (labelNode .segment "label")
    let entities := mentionedEntities r.entities
    let data := r.dataNode statId state segment
    { nodes := state.toList ++ segment.toList ++ entities.map (·.1) ++ [data]
      edges := (state.map fun n => plainEdge .inState data.ref n.ref).toList ++
        (segment.map fun n => plainEdge .hasSegment data.ref n.ref).toList ++
        entityEdges data.ref entities }

end MarketPoint

/-- The graph of market data. -/
def Graph.ofMarket (rs : List MarketPoint) : Graph :=
  .ofFragments (rs.filterMap MarketPoint.fragment?)

end KnowledgeGraph
