import KnowledgeGraph.Character.CaseIgnorable
import KnowledgeGraph.Character.Cased
import KnowledgeGraph.Character.LowerCase
import KnowledgeGraph.Character.UpperCase

/-!
# Lower and upper case

Both mappings are the full ones: a character may become several.  One mapping looks at its
context.  `Σ` becomes `ς` at the end of a word and `σ` elsewhere.  A word ends at `Σ` when
the nearest character before it that is not case-ignorable is cased, and the nearest one
after it is not.
-/

namespace KnowledgeGraph.Text

open Character

/-- Whether the first character that is not case-ignorable is cased. -/
def startsCased (cs : List Char) : Bool :=
  match cs.dropWhile isCaseIgnorable with
  | [] => false
  | c :: _ => isCased c

/-- The lower-case form of one character outside any context. -/
def lowerChar (c : Char) : List Char :=
  match lowerCaseRows.find? c.toNat with
  | some codes => codes.map Char.ofNat
  | none => [c]

/-- The lower-case form of the rest of a text.  `before` is the text already read, the last
character first. -/
def lowerAfter (before : List Char) : List Char → List Char
  | [] => []
  | c :: cs =>
      (if c = 'Σ' then
        [if startsCased before && !startsCased cs then 'ς' else 'σ']
      else lowerChar c) ++ lowerAfter (c :: before) cs

/-- The lower-case form of a text, as characters. -/
def lowerChars (cs : List Char) : List Char := lowerAfter [] cs

/-- The lower-case form of a text. -/
def lower (s : String) : String := String.ofList (lowerChars s.toList)

/-- The upper-case form of one character. -/
def upperChar (c : Char) : List Char :=
  match upperCaseRows.find? c.toNat with
  | some codes => codes.map Char.ofNat
  | none => [c]

/-- The upper-case form of a text. -/
def upper (s : String) : String := String.ofList (s.toList.flatMap upperChar)

example : lowerChars "ΟΔΟΣ ΣΑΣ".toList = "οδος σας".toList := by decide +kernel
example : lowerChars ['İ'] = ['i', '\u0307'] := by decide +kernel
example : upperChar 'ß' = ['S', 'S'] := by decide +kernel

end KnowledgeGraph.Text
