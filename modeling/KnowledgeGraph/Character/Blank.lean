/-!
# Blank and invisible characters

Blank characters separate words.  Invisible marks take no room and separate nothing: zero
width spaces and joiners, marks of text direction, the byte order mark, the soft hyphen.  No
character is both (`not_isBlank_of_isInvisible`).
-/

namespace KnowledgeGraph.Character

/-- Whether a character has the property `White_Space`. -/
def isBlank (c : Char) : Bool :=
  let n := c.toNat
  (0x09 ≤ n && n ≤ 0x0D) || n == 0x20 || n == 0x85 || n == 0xA0 || n == 0x1680 ||
    (0x2000 ≤ n && n ≤ 0x200A) || n == 0x2028 || n == 0x2029 || n == 0x202F || n == 0x205F ||
    n == 0x3000

/-- Whether a character is a mark that must not tell two texts apart. -/
def isInvisible (c : Char) : Bool :=
  let n := c.toNat
  n == 0xAD || n == 0x34F || n == 0x180E || (0x200B ≤ n && n ≤ 0x200F) ||
    (0x202A ≤ n && n ≤ 0x202E) || (0x2060 ≤ n && n ≤ 0x2064) || (0x2066 ≤ n && n ≤ 0x2069) ||
    n == 0xFEFF

/-- An invisible mark is no blank. -/
theorem not_isBlank_of_isInvisible {c : Char} (h : isInvisible c = true) :
    isBlank c = false := by
  simp only [isInvisible, isBlank, Bool.or_eq_true, Bool.and_eq_true, beq_iff_eq,
    decide_eq_true_eq, Bool.or_eq_false_iff, Bool.and_eq_false_iff, beq_eq_false_iff_ne,
    decide_eq_false_iff_not] at h ⊢
  omega

example : isBlank '\u3000' = true ∧ isBlank '\u200B' = false ∧ isBlank '\x1c' = false := by
  decide

end KnowledgeGraph.Character
