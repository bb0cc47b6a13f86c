import KnowledgeGraph.Text.Casing
import KnowledgeGraph.Text.Composed
import KnowledgeGraph.Text.Words

/-!
# The normal form of a text

Two spellings name the same thing when they have one normal form.  It is reached in four
steps, in this order.

* The text is put into its composed form.
* Invisible marks are removed.
* The text is put into lower case.
* Its words are joined by single spaces.
-/

namespace KnowledgeGraph.Text

open Character (isInvisible)

/-- The normal form of a text, as characters. -/
def normalChars (cs : List Char) : List Char :=
  unwords (words (lowerChars ((composed cs).filter (!isInvisible ·))))

/-- The normal form of a text. -/
def normalize (s : String) : String := String.ofList (normalChars s.toList)

/-- The normal form of an optional text.  A missing text has the empty one. -/
def normalize? (s : Option String) : String := (s.map normalize).getD ""

example : normalChars "  Mega\u200B   SENA \n".toList = "mega sena".toList := by decide +kernel

end KnowledgeGraph.Text
