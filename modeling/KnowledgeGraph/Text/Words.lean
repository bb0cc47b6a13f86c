import KnowledgeGraph.Character.Blank

/-!
# Words

A text is read as words that blanks separate.  `trim` removes the blanks at both ends,
`words` gives the words in order, and `unwords` joins them again with single spaces.
`presence?` is the usual test of an optional field: the trimmed text, unless nothing is left.
-/

namespace KnowledgeGraph.Text

open Character (isBlank)

/-- The characters of a text from its first one that is not blank. -/
def dropBlanks (cs : List Char) : List Char := cs.dropWhile isBlank

/-- The characters of a text without the blanks at its ends. -/
def trimChars (cs : List Char) : List Char :=
  (dropBlanks (dropBlanks cs).reverse).reverse

/-- A text without the blanks at its ends. -/
def trim (s : String) : String := String.ofList (trimChars s.toList)

/-- The trimmed text, or nothing if it is blank. -/
def presence? (s : String) : Option String :=
  let t := trim s
  if t.isEmpty then none else some t

/-- The stretches of a text between its separators.  Neighbouring separators have an empty
stretch between them. -/
def stretches (isSeparator : Char → Bool) : List Char → List (List Char)
  | [] => [[]]
  | c :: cs =>
      if isSeparator c then [] :: stretches isSeparator cs
      else match stretches isSeparator cs with
        | [] => [[c]]
        | w :: ws => (c :: w) :: ws

/-- The stretches of a text that are not empty. -/
def pieces (isSeparator : Char → Bool) (cs : List Char) : List (List Char) :=
  (stretches isSeparator cs).filter (!·.isEmpty)

/-- The words of a text: its pieces between blanks. -/
def words (cs : List Char) : List (List Char) := pieces isBlank cs

/-- Words joined by single spaces. -/
def unwords (ws : List (List Char)) : List Char := [' '].intercalate ws

example : words " a\tbc  d ".toList = [['a'], ['b', 'c'], ['d']] := by decide
example : trimChars "  a b\n".toList = ['a', ' ', 'b'] := by decide

end KnowledgeGraph.Text
