import KnowledgeGraph.Settings
import KnowledgeGraph.Keyword.FromText
import KnowledgeGraph.Record.Post

/-!
# The keywords of a post

A post keeps its first distinct keywords, up to a limit.  Two keywords are one when their
normal forms agree.  A keyword is shown in the spelling of its first occurrence, and every
occurrence of a kept keyword counts, also one after the limit was reached.
-/

namespace KnowledgeGraph.Keyword

/-- A keyword that a post keeps. -/
structure Slot where
  /-- The spelling of the first occurrence, trimmed. -/
  surface : String
  /-- The normal form. -/
  normal : String
  /-- The number of occurrences. -/
  occurrences : Nat
deriving DecidableEq, Repr

/-- Counts one more occurrence of a normal form. -/
def countOccurrence (normal : String) : List Slot → List Slot
  | [] => []
  | s :: slots =>
      if s.normal = normal then { s with occurrences := s.occurrences + 1 } :: slots
      else s :: countOccurrence normal slots

/-- Takes up an entry of a list of keywords. -/
def collectEntry (limit : Nat) (slots : List Slot) (entry : String) : List Slot :=
  let normal := Text.normalize entry
  if normal.isEmpty then slots
  else if slots.any (·.normal == normal) then countOccurrence normal slots
  else if slots.length < limit then slots ++ [⟨Text.trim entry, normal, 1⟩]
  else slots

/-- The keywords that are kept of a list. -/
def collect (limit : Nat) (entries : List String) : List Slot :=
  entries.foldl (collectEntry limit) []

/-- The entries of a post.  They are taken from its text if it has none and the settings say
so. -/
def entries (settings : Settings) (post : Post) : List String :=
  if settings.fillKeywords && post.keywords.isEmpty then
    fromText post.text settings.keywordLimit
  else post.keywords

/-- The keywords that a post keeps. -/
def ofPost (settings : Settings) (post : Post) : List Slot :=
  collect settings.keywordLimit (entries settings post)

end KnowledgeGraph.Keyword
