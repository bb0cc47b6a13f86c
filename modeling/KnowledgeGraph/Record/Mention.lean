import KnowledgeGraph.Json.Codec
import KnowledgeGraph.Text.Casing
import KnowledgeGraph.Text.Words

/-!
# Entity mentions

A mention of an entity in a record: the text as it stood there, and what is known of the
entity behind it.  An identifier from an outside knowledge base settles the identity.  A
mention without such an identifier and without any name identifies nothing, and is then not
resolvable.
-/

namespace KnowledgeGraph

open Text (presence? trim)
open Json (Codec)

/-- A mention of an entity. -/
structure Mention where
  /-- The text of the mention. -/
  text : String := ""
  /-- The usual name of the entity. -/
  canonicalName : Option String := none
  /-- The type of the entity, such as `person` or `org`. -/
  entityType : Option String := none
  /-- The identifier of the entity in an outside knowledge base. -/
  kbId : Option String := none
  /-- Where the mention begins and ends in its document. -/
  span : Option (Nat × Nat) := none
  /-- How certain the mention is. -/
  confidence : Option Float := none
deriving Inhabited

namespace Mention

/-- The usual name, or the text if there is none.  Both are trimmed. -/
def shownName (m : Mention) : String :=
  (m.canonicalName.bind presence?).getD (trim m.text)

/-- The identifier in a knowledge base, trimmed, if it is not blank. -/
def knownId? (m : Mention) : Option String := m.kbId.bind presence?

/-- Whether a mention identifies an entity. -/
def identifiesEntity (m : Mention) : Bool := !m.shownName.isEmpty || m.knownId?.isSome

/-- The type of entities whose type is not known. -/
def unknownType : String := "unknown"

/-- The type in lower case. -/
def typeLabel (m : Mention) : String :=
  ((m.entityType.bind presence?).map Text.lower).getD unknownType

/-- Mentions in JSON. -/
def codec : Codec Mention :=
  .record {} [
    .of "text" .text (·.text) (fun v m => { m with text := v }),
    .of "canonical_name" (.optional .text) (·.canonicalName)
      (fun v m => { m with canonicalName := v }),
    .of "type" (.optional .text) (·.entityType) (fun v m => { m with entityType := v }),
    .of "kb_id" (.optional .text) (·.kbId) (fun v m => { m with kbId := v }),
    .of "span" (.optional (.pair .count .count)) (·.span) (fun v m => { m with span := v }),
    .of "confidence" (.optional .number) (·.confidence)
      (fun v m => { m with confidence := v })]

end Mention

end KnowledgeGraph
