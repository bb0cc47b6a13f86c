import KnowledgeGraph.KeyedMap
import KnowledgeGraph.Number.Binary64

/-!
# JSON values

A number is either a whole number or a double, and a value keeps which of the two it is.  The
members of an object are a list, so a value can hold the members of a text as they were
written, repeated names included.  The canonical form of a value (`Json.canonical`) sorts the
members of every object by name and keeps the last one of each name.
-/

namespace KnowledgeGraph

/-- A JSON value. -/
inductive Json where
  /-- The value `null`. -/
  | null
  /-- A truth value. -/
  | bool (b : Bool)
  /-- A whole number. -/
  | int (i : Int)
  /-- A number with a fraction or an exponent, or one too large for a whole number. -/
  | float (x : Float)
  /-- A text. -/
  | string (s : String)
  /-- A list of values. -/
  | array (items : List Json)
  /-- Named values, in the order of writing. -/
  | object (members : List (String × Json))
deriving Inhabited

namespace Json

/-- A double as a value.  One that is not finite has no number and becomes `null`. -/
def ofFloat (x : Float) : Json := if Number.isFinite x then .float x else .null

/-- A count as a value. -/
def ofNat (n : Nat) : Json := .int n

/-- An optional value, `null` if it is missing. -/
def ofOption {α : Type} (f : α → Json) : Option α → Json
  | none => .null
  | some a => f a

/-- A list of texts as a value. -/
def ofStrings (ss : List String) : Json := .array (ss.map .string)

/-- Whether a value is `null`. -/
def isNull : Json → Bool
  | .null => true
  | _ => false

/-- The text of a value that is one. -/
def string? : Json → Option String
  | .string s => some s
  | _ => none

/-- The double of a value that is a number. -/
def number? : Json → Option Float
  | .int i => some (Float.ofInt i)
  | .float x => some x
  | _ => none

/-- The last member of a name, in a value that is an object. -/
def member? (name : String) : Json → Option Json
  | .object ms => ms.reverse.lookup name
  | _ => none

mutual

/-- The value with the members of every object sorted by name, the last one of a name
winning. -/
def canonical : Json → Json
  | .array items => .array (canonicalItems items)
  | .object ms => .object (KeyedMap.ofList (canonicalMembers ms)).entries
  | j => j

/-- The canonical forms of the items of a list. -/
def canonicalItems : List Json → List Json
  | [] => []
  | j :: js => canonical j :: canonicalItems js

/-- The members of an object with their canonical forms. -/
def canonicalMembers : List (String × Json) → List (String × Json)
  | [] => []
  | (k, j) :: ms => (k, canonical j) :: canonicalMembers ms

end

mutual

/-- Whether two values are of one kind and equal.  Doubles compare as numbers. -/
def same : Json → Json → Bool
  | .null, .null => true
  | .bool a, .bool b => a == b
  | .int a, .int b => a == b
  | .float x, .float y => x == y
  | .string s, .string t => s == t
  | .array xs, .array ys => sameItems xs ys
  | .object ms, .object ns => sameMembers ms ns
  | _, _ => false

/-- Whether two lists of values are equal. -/
def sameItems : List Json → List Json → Bool
  | [], [] => true
  | x :: xs, y :: ys => same x y && sameItems xs ys
  | _, _ => false

/-- Whether two lists of members are equal. -/
def sameMembers : List (String × Json) → List (String × Json) → Bool
  | [], [] => true
  | (k, x) :: ms, (l, y) :: ns => k == l && same x y && sameMembers ms ns
  | _, _ => false

end

instance : BEq Json := ⟨same⟩

end Json

end KnowledgeGraph
