import KnowledgeGraph.Record.Mention

/-!
# Documents of policy

A document of policy, such as a bill, with its key points, the entities it mentions and the
statements it makes about them.  A statement relates two ends, which are free text.
-/

namespace KnowledgeGraph

open Json (Codec)

/-- A statement of a document: a relation between two ends. -/
structure Statement where
  /-- What the relation starts from. -/
  subject : String := ""
  /-- What the relation leads to. -/
  object : String := ""
  /-- The verb. -/
  predicate : Option String := none
  /-- The words that state the relation. -/
  evidence : Option String := none
  /-- How certain the relation is. -/
  confidence : Option Float := none
  /-- The date from which the relation holds. -/
  date : Option String := none
deriving Inhabited

/-- Statements in JSON. -/
def Statement.codec : Codec Statement :=
  .record {} [
    .of "subject" .text (·.subject) (fun v t => { t with subject := v }),
    .of "object" .text (·.object) (fun v t => { t with object := v }),
    .of "predicate" (.optional .text) (·.predicate) (fun v t => { t with predicate := v }),
    .of "evidence" (.optional .text) (·.evidence) (fun v t => { t with evidence := v }),
    .of "confidence" (.optional .number) (·.confidence)
      (fun v t => { t with confidence := v }),
    .of "date" (.optional .text) (·.date) (fun v t => { t with date := v })]

/-- A document of policy. -/
structure PolicyDocument where
  /-- The identifier. -/
  docId : String := ""
  /-- The title. -/
  title : Option String := none
  /-- The code of the state or region. -/
  state : Option String := none
  /-- How far the policy has come, such as `enacted`. -/
  status : Option String := none
  /-- When the document was published. -/
  publishedAt : Option String := none
  /-- When the policy takes effect. -/
  effectiveAt : Option String := none
  /-- The type of policy, such as `legislation`. -/
  policyType : Option String := none
  /-- The key points, the weightiest one first. -/
  keyPoints : List String := []
  /-- The summary. -/
  summary : Option String := none
  /-- Where the document comes from. -/
  source : Option String := none
  /-- The entities that are mentioned. -/
  entities : List Mention := []
  /-- The statements that are made. -/
  relations : List Statement := []
deriving Inhabited

/-- Documents of policy in JSON. -/
def PolicyDocument.codec : Codec PolicyDocument :=
  .record {} [
    .of "doc_id" .text (·.docId) (fun v r => { r with docId := v }),
    .of "title" (.optional .text) (·.title) (fun v r => { r with title := v }),
    .of "state" (.optional .text) (·.state) (fun v r => { r with state := v }),
    .of "status" (.optional .text) (·.status) (fun v r => { r with status := v }),
    .of "published_at" (.optional .text) (·.publishedAt)
      (fun v r => { r with publishedAt := v }),
    .of "effective_at" (.optional .text) (·.effectiveAt)
      (fun v r => { r with effectiveAt := v }),
    .of "policy_type" (.optional .text) (·.policyType) (fun v r => { r with policyType := v }),
    .of "key_points" (.list .text) (·.keyPoints) (fun v r => { r with keyPoints := v }),
    .of "summary" (.optional .text) (·.summary) (fun v r => { r with summary := v }),
    .of "source" (.optional .text) (·.source) (fun v r => { r with source := v }),
    .of "entities" (.list Mention.codec) (·.entities)
      (fun v r => { r with entities := v }),
    .of "relations" (.list Statement.codec) (·.relations)
      (fun v r => { r with relations := v })]

end KnowledgeGraph
