import KnowledgeGraph.Digest.Sha256
import KnowledgeGraph.Record.Mention
import KnowledgeGraph.Text.Normal

/-!
# Identity

Nodes that stand for content are named by that content, so that the same content has the same
name in every build.  A name is the digest of a text that says what is named.

* A keyword: its normal form and its language, with a bar between them.
* An entity: the identifier in a knowledge base after `kb:`, without a digest.  An entity
  without one is named by the normal form of its name and its type, with a bar between them.
* A key point: its normal form after a mark of its own, which keeps it apart from a keyword.
-/

namespace KnowledgeGraph

open Text (normalize presence? trim)

/-- The name of a content. -/
def contentIdentifier (s : String) : String := Digest.digest s

/-- The text that names a keyword. -/
def keywordContent (text language : String) : String :=
  normalize text ++ "|" ++ Text.lower (trim language)

/-- The name of a keyword. -/
def keywordIdentifier (text language : String) : String :=
  contentIdentifier (keywordContent text language)

/-- The text that names a key point. -/
def keypointContent (text : String) : String := "policy_keypoint:" ++ normalize text

/-- The name of a key point. -/
def keypointIdentifier (text : String) : String := contentIdentifier (keypointContent text)

namespace Mention

/-- The name that identifies an entity: the usual name, or the text of the mention. -/
def identifyingName (m : Mention) : String := (m.canonicalName.bind presence?).getD m.text

/-- The text that names an entity without an identifier in a knowledge base. -/
def content (m : Mention) : String := normalize m.identifyingName ++ "|" ++ m.typeLabel

/-- The name of an entity. -/
def identifier (m : Mention) : String :=
  match m.knownId? with
  | some id => "kb:" ++ id
  | none => contentIdentifier m.content

end Mention

end KnowledgeGraph
