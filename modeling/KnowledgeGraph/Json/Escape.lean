/-!
# Short escapes

In a JSON text some characters have a short escape: a backslash and one letter.  A writer
escapes the characters of the table, and a reader knows the slash besides, which may be
escaped and need not be.  What a writer escapes, a reader gets back
(`shortEscape?_of_escapeLetter?`).
-/

namespace KnowledgeGraph.Json

/-- The letters of the short escapes, with the characters that they stand for. -/
def shortEscapes : List (Char × Char) :=
  [('"', '"'), ('\\', '\\'), ('n', '\n'), ('r', '\r'), ('t', '\t'), ('b', '\x08'),
    ('f', '\x0c')]

/-- The character that a short escape stands for. -/
def shortEscape? (letter : Char) : Option Char :=
  if letter = '/' then some '/' else shortEscapes.lookup letter

/-- The letter of the short escape of a character. -/
def escapeLetter? (c : Char) : Option Char := (shortEscapes.find? (·.2 == c)).map (·.1)

/-- The short escape of a character stands for that character. -/
theorem shortEscape?_of_escapeLetter? {c letter : Char} (h : escapeLetter? c = some letter) :
    shortEscape? letter = some c := by
  obtain ⟨row, found, rfl⟩ := Option.map_eq_some_iff.1 h
  have mem := List.mem_of_find?_eq_some found
  have same : row.2 = c := by simpa using List.find?_some found
  subst same
  have all : ∀ row ∈ shortEscapes, shortEscape? row.1 = some row.2 := by decide
  exact all row mem

example : escapeLetter? '\n' = some 'n' ∧ escapeLetter? '/' = none := by decide

end KnowledgeGraph.Json
