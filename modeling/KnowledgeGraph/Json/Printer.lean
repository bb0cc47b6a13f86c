import KnowledgeGraph.Json.Basic
import KnowledgeGraph.Json.Escape
import KnowledgeGraph.Number.Shortest

/-!
# Writing JSON

A value is written on one line without spaces, or over several lines with every level
indented by two spaces.  Members are written in their order.  In a text, the quote, the
backslash and the characters below the space are escaped, and everything else stands as it
is.
-/

namespace KnowledgeGraph.Json

/-- A double is positional while its first digit has an exponent from -5 to 15, a whole
double carries `.0`, and one halfway between two shortest decimals is written as the even one. -/
def floatLayout : Number.Layout := ⟨some (-5, 15), true, .even⟩

/-- A double as it is written. -/
def renderFloat (x : Float) : String := (Number.renderFloat? floatLayout x).getD "null"

/-- A character inside quotes. -/
def escapeChar (c : Char) : List Char :=
  match escapeLetter? c with
  | some letter => ['\\', letter]
  | none =>
      if c.toNat < 0x20 then
        ['\\', 'u', '0', '0', Nat.digitChar (c.toNat / 16), Nat.digitChar (c.toNat % 16)]
      else [c]

/-- A text in quotes. -/
def quote (s : String) : String :=
  String.ofList ('"' :: s.toList.flatMap escapeChar ++ ['"'])

/-- How the parts of a list or an object are set apart. -/
inductive Spacing where
  /-- Everything on one line. -/
  | compact
  /-- Every part on a line of its own, the inner ones indented by the given level. -/
  | indented (level : Nat)

/-- The spacing one level further in. -/
def Spacing.inner : Spacing → Spacing
  | .compact => .compact
  | .indented n => .indented (n + 1)

/-- What stands before a part or a closing bracket. -/
def Spacing.lead : Spacing → String
  | .compact => ""
  | .indented n => String.ofList ('\n' :: List.replicate (2 * n) ' ')

/-- What stands between a name and its value. -/
def Spacing.colon : Spacing → String
  | .compact => ":"
  | .indented _ => ": "

/-- Parts between two brackets, with commas between them. -/
def Spacing.enclose (sp : Spacing) (opening closing : String) (parts : List String) : String :=
  match parts with
  | [] => opening ++ closing
  | parts =>
      let lead := sp.inner.lead
      opening ++ lead ++ ("," ++ lead).intercalate parts ++ sp.lead ++ closing

mutual

/-- A value as it is written. -/
def render (sp : Spacing) : Json → String
  | .null => "null"
  | .bool true => "true"
  | .bool false => "false"
  | .int i => toString i
  | .float x => renderFloat x
  | .string s => quote s
  | .array items => sp.enclose "[" "]" (renderItems sp.inner items)
  | .object ms => sp.enclose "\x7b" "\x7d" (renderMembers sp.inner ms)

/-- The items of a list as they are written. -/
def renderItems (sp : Spacing) : List Json → List String
  | [] => []
  | j :: js => render sp j :: renderItems sp js

/-- The members of an object as they are written. -/
def renderMembers (sp : Spacing) : List (String × Json) → List String
  | [] => []
  | (k, j) :: ms => (quote k ++ sp.colon ++ render sp j) :: renderMembers sp ms

end

/-- A value on one line. -/
def compact (j : Json) : String := render .compact j

/-- A value over several lines. -/
def pretty (j : Json) : String := render (.indented 0) j

end KnowledgeGraph.Json
