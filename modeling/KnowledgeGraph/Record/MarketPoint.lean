import KnowledgeGraph.Record.Mention

/-!
# Market data

A point of market data: what was sold of a segment in a state on a date.
-/

namespace KnowledgeGraph

open Json (Codec)

/-- A point of market data. -/
structure MarketPoint where
  /-- The identifier. -/
  statId : String := ""
  /-- The code of the state or region. -/
  state : Option String := none
  /-- The segment, such as `draw games`. -/
  segment : Option String := none
  /-- The date. -/
  date : Option String := none
  /-- How much was sold. -/
  volume : Option Float := none
  /-- What was earned. -/
  revenue : Option Float := none
  /-- The jackpot. -/
  jackpot : Option Float := none
  /-- The price of a unit. -/
  unitPrice : Option Float := none
  /-- Where the data come from. -/
  source : Option String := none
  /-- The title. -/
  title : Option String := none
  /-- The entities that are mentioned. -/
  entities : List Mention := []
deriving Inhabited

/-- Points of market data in JSON. -/
def MarketPoint.codec : Codec MarketPoint :=
  .record {} [
    .of "stat_id" .text (·.statId) (fun v r => { r with statId := v }),
    .of "state" (.optional .text) (·.state) (fun v r => { r with state := v }),
    .of "segment" (.optional .text) (·.segment) (fun v r => { r with segment := v }),
    .of "date" (.optional .text) (·.date) (fun v r => { r with date := v }),
    .of "volume" (.optional .number) (·.volume) (fun v r => { r with volume := v }),
    .of "revenue" (.optional .number) (·.revenue) (fun v r => { r with revenue := v }),
    .of "jackpot" (.optional .number) (·.jackpot) (fun v r => { r with jackpot := v }),
    .of "unit_price" (.optional .number) (·.unitPrice) (fun v r => { r with unitPrice := v }),
    .of "source" (.optional .text) (·.source) (fun v r => { r with source := v }),
    .of "title" (.optional .text) (·.title) (fun v r => { r with title := v }),
    .of "entities" (.list Mention.codec) (·.entities)
      (fun v r => { r with entities := v })]

end KnowledgeGraph
