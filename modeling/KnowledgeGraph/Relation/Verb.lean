import KnowledgeGraph.Text.Casing
import KnowledgeGraph.Text.Words

/-!
# Verbs of relations

The verbs of relations come in free spelling.  A verb is put into a token first: lower case,
with a single underscore wherever blanks, hyphens and underscores stood between its words.
The table then gives the canonical verb of every spelling it knows, and the class of the
verb.  A token that the table does not know stands for itself and is of the class `other`.
A verb that is missing or empty is `unknown`.

No spelling occurs in the table twice, so the order of its rows does not matter.
-/

namespace KnowledgeGraph.Relation

/-- The classes of relations. -/
inductive RelationClass where
  /-- Rules and those who set them. -/
  | governance
  /-- Courts, fines and inquiries. -/
  | legal
  /-- Money and property. -/
  | economic
  /-- Belonging and place. -/
  | organizational
  /-- Cause and effect. -/
  | causal
  /-- For and against. -/
  | stance
  /-- Everything else. -/
  | other
deriving DecidableEq, Repr

/-- The name of a class. -/
def RelationClass.name : RelationClass → String
  | .governance => "governance"
  | .legal => "legal"
  | .economic => "economic"
  | .organizational => "organizational"
  | .causal => "causal"
  | .stance => "stance"
  | .other => "other"

/-- A row of the table. -/
structure Entry where
  /-- The canonical verb. -/
  canonical : String
  /-- The class of the verb. -/
  relationClass : RelationClass
  /-- The other spellings of the verb. -/
  aliases : List String

/-- The known verbs. -/
def table : List Entry :=
  [
    ⟨"regulates", .governance,
      ["regulate", "regulated", "regulating", "regulation_of", "oversees", "oversee", "governs",
      "govern", "supervises", "supervise"]⟩,
    ⟨"licenses", .governance,
      ["license", "licensed", "licensing", "authorizes", "authorize", "authorized", "permits",
      "permit", "approves", "approve", "approved"]⟩,
    ⟨"prohibits", .governance,
      ["prohibit", "prohibited", "bans", "ban", "banned", "forbids", "forbid", "outlaws",
      "outlaw", "restricts", "restrict"]⟩,
    ⟨"enacts", .governance,
      ["enact", "enacted", "passes", "pass", "passed", "adopts", "adopt", "adopted", "signs",
      "sign", "signed"]⟩,
    ⟨"amends", .governance,
      ["amend", "amended", "modifies", "modify", "revises", "revise"]⟩,
    ⟨"repeals", .governance,
      ["repeal", "repealed", "rescinds", "rescind", "revokes", "revoke"]⟩,
    ⟨"enforces", .governance,
      ["enforce", "enforced", "implements", "implement"]⟩,
    ⟨"sues", .legal,
      ["sue", "sued", "litigates", "litigate", "files_suit_against"]⟩,
    ⟨"fines", .legal,
      ["fine", "fined", "penalizes", "penalize", "sanctions", "sanction"]⟩,
    ⟨"investigates", .legal,
      ["investigate", "investigated", "audits", "audit", "probes"]⟩,
    ⟨"funds", .economic,
      ["fund", "funded", "finances", "finance", "allocates", "allocate", "invests_in"]⟩,
    ⟨"taxes", .economic,
      ["tax", "taxed", "levies", "levy"]⟩,
    ⟨"owns", .economic,
      ["own", "owned", "acquires", "acquire", "acquired", "operates", "operate"]⟩,
    ⟨"partners_with", .economic,
      ["partner", "partners", "partnered_with", "collaborates_with", "contracts_with"]⟩,
    ⟨"sponsors", .economic,
      ["sponsor", "sponsored"]⟩,
    ⟨"part_of", .organizational,
      ["belongs_to", "member_of", "subsidiary_of", "division_of"]⟩,
    ⟨"located_in", .organizational,
      ["based_in", "headquartered_in", "located"]⟩,
    ⟨"affiliated_with", .organizational,
      ["affiliated", "associated_with", "related_to", "linked_to"]⟩,
    ⟨"causes", .causal,
      ["cause", "caused", "leads_to", "results_in"]⟩,
    ⟨"affects", .causal,
      ["affect", "affected", "impacts", "impact", "influences", "influence"]⟩,
    ⟨"increases", .causal,
      ["increase", "increased", "raises", "raise", "expands", "expand"]⟩,
    ⟨"decreases", .causal,
      ["decrease", "decreased", "reduces", "reduce", "lowers", "lower", "limits", "limit"]⟩,
    ⟨"supports", .stance,
      ["support", "supported", "endorses", "endorse", "backs", "back", "favors"]⟩,
    ⟨"opposes", .stance,
      ["oppose", "opposed", "challenges", "challenge", "criticizes", "criticize", "rejects"]⟩]

/-- Whether a row has a spelling. -/
def Entry.knows (e : Entry) (token : String) : Bool :=
  e.canonical == token || e.aliases.contains token

/-- The row of a spelling. -/
def entryOf? (token : String) : Option Entry := table.find? (·.knows token)

/-- Whether a character sets the words of a verb apart. -/
def isSeparator (c : Char) : Bool := c == '-' || c == '_' || Character.isBlank c

/-- The token of a verb. -/
def token (raw : String) : String :=
  String.ofList (['_'].intercalate (Text.pieces isSeparator (Text.lowerChars raw.toList)))

/-- The canonical verb where none is given. -/
def unknownVerb : String := "unknown"

/-- The canonical verb of a spelling. -/
def canonicalVerb (raw : Option String) : String :=
  let t := token (raw.getD "")
  if t.isEmpty then unknownVerb
  else match entryOf? t with
    | some e => e.canonical
    | none => t

/-- The class of a spelling. -/
def verbClass (raw : Option String) : RelationClass :=
  match entryOf? (canonicalVerb raw) with
  | some e => e.relationClass
  | none => .other

/-- A verb as it was given, its canonical form and its class. -/
structure Annotation where
  /-- The verb as it was given, trimmed. -/
  raw : String
  /-- The canonical verb. -/
  canonical : String
  /-- The class. -/
  relationClass : RelationClass
deriving DecidableEq

/-- The annotation of a spelling. -/
def annotate (raw : Option String) : Annotation :=
  ⟨(raw.map Text.trim).getD "", canonicalVerb raw, verbClass raw⟩

example : canonicalVerb (some "Regulate") = "regulates" := by decide +kernel
example : canonicalVerb (some "spun-off  from") = "spun_off_from" := by decide +kernel

end KnowledgeGraph.Relation
