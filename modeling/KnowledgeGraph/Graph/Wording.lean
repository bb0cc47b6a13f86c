import KnowledgeGraph.Graph.Report
import KnowledgeGraph.Number.Binary64

/-!
# The wording of a report

What a report says in words, and the report in JSON.  A share is worded as a percentage with
one decimal place, and a tie goes to the even digit.
-/

namespace KnowledgeGraph

/-- A percentage with one decimal place. -/
def percentText (ratio : Float) : String :=
  let tenths := ((Number.Dyadic.ofFloat? (ratio * 100.0)).map (·.scaledRound 1)).getD 0
  toString (tenths / 10) ++ "." ++ toString (tenths % 10)

/-- What is said of a defect. -/
def Defect.message : Defect → String
  | .duplicateKey key count =>
      "duplicate node key " ++ key ++ " (" ++ toString count ++ " nodes)"
  | .dangling index t side r =>
      "edge #" ++ toString index ++ " (" ++ t.name ++ ") has dangling " ++ side ++
        " endpoint " ++ r.key
  | .moreDangling count => "+" ++ toString count ++ " more dangling edge endpoints"

/-- What is said of an oddity. -/
def Oddity.message : Oddity → String
  | .foreignKey key stored => "node " ++ key ++ " stored under key " ++ stored
  | .manyBare bare total =>
      percentText (Float.ofNat bare / Float.ofNat total) ++ "% of nodes have no properties (" ++
        toString bare ++ " of " ++ toString total ++ ")"

/-- Counts as JSON. -/
def writeCounts (m : KeyedMap Nat) : Json :=
  .object (m.entries.map fun (k, n) => (k, .ofNat n))

/-- The counts of a graph as JSON. -/
def Census.write (s : Census) : Json :=
  .object [("node_count", .ofNat s.nodes), ("edge_count", .ofNat s.edges),
    ("nodes_by_type", writeCounts s.nodesByKind), ("edges_by_type", writeCounts s.edgesByKind),
    ("empty_property_ratio", .ofFloat s.bareShare)]

/-- A report as JSON. -/
def Report.write (r : Report) : Json :=
  .object [("valid", .bool r.isSound), ("errors", .ofStrings (r.defects.map (·.message))),
    ("warnings", .ofStrings (r.oddities.map (·.message))), ("statistics", r.census.write)]

end KnowledgeGraph
