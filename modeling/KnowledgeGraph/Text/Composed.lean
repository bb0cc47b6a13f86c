import KnowledgeGraph.Character.CombiningClass
import KnowledgeGraph.Character.Composition
import KnowledgeGraph.Character.Decomposition

/-!
# The composed form of a text

Texts that differ only in how an accented letter is written have one composed form (the
normalization form C).  It is reached in three steps.

* Every character is replaced by its full canonical decomposition.  A Hangul syllable
  decomposes by arithmetic into two or three letters.
* Every run of marks is sorted by combining class.  The sort is stable.
* From left to right, a character joins the last starter before it when the pair has a
  primary composite and nothing between the two blocks it.  A character is blocked when a
  mark that was left standing before it has at least its own class.
-/

namespace KnowledgeGraph.Text

open Character

/-! ## Hangul syllables -/

/-- A Hangul syllable as its leading consonant, its vowel and, if it has one, its trailing
consonant. -/
def hangulLetters (n : Nat) : List Nat :=
  let i := n - 0xAC00
  let syllable := [0x1100 + i / 588, 0x1161 + i % 588 / 28]
  if i % 28 = 0 then syllable else syllable ++ [0x11A7 + i % 28]

/-- Whether a code point is a Hangul syllable. -/
def isHangulSyllable (n : Nat) : Bool := 0xAC00 ≤ n && n ≤ 0xD7A3

/-- The syllable of a consonant and a vowel, or of such a syllable and a trailing consonant. -/
def hangulComposite? (a b : Nat) : Option Nat :=
  if 0x1100 ≤ a ∧ a ≤ 0x1112 ∧ 0x1161 ≤ b ∧ b ≤ 0x1175 then
    some (0xAC00 + ((a - 0x1100) * 21 + (b - 0x1161)) * 28)
  else if isHangulSyllable a ∧ (a - 0xAC00) % 28 = 0 ∧ 0x11A8 ≤ b ∧ b ≤ 0x11C2 then
    some (a + (b - 0x11A7))
  else none

/-! ## Decomposing and sorting -/

/-- The full canonical decomposition of a character. -/
def decomposition (c : Char) : List Char :=
  if isHangulSyllable c.toNat then (hangulLetters c.toNat).map Char.ofNat
  else match decompositionRows.find? c.toNat with
    | some codes => codes.map Char.ofNat
    | none => [c]

/-- A character put in front of a sorted text.  It moves past the marks of a lower class. -/
def insertMark (c : Char) : List Char → List Char
  | [] => [c]
  | d :: ds =>
      if 0 < combiningClass d ∧ combiningClass d < combiningClass c then d :: insertMark c ds
      else c :: d :: ds

/-- A text with every run of marks sorted by combining class. -/
def sortMarks : List Char → List Char
  | [] => []
  | c :: cs => insertMark c (sortMarks cs)

/-- The decomposed form of a text. -/
def decomposed (cs : List Char) : List Char := sortMarks (cs.flatMap decomposition)

/-! ## Composing -/

/-- The primary composite of a pair, if it has one. -/
def composite? (a b : Char) : Option Char :=
  match hangulComposite? a.toNat b.toNat with
  | some n => some (Char.ofNat n)
  | none =>
      match compositionRows.find? b.toNat with
      | some firsts => (firsts.lookup a.toNat).map Char.ofNat
      | none => none

/-- Whether the marks left standing after a starter, the last one first, keep a character
from joining it. -/
def isBlocked (marks : List Char) (c : Char) : Bool :=
  match marks with
  | [] => false
  | m :: _ => combiningClass c ≤ combiningClass m

/-- Composes the characters after a starter.  `marks` are the marks left standing after the
starter, the last one first. -/
def composeAfter (starter : Char) (marks : List Char) : List Char → List Char
  | [] => starter :: marks.reverse
  | c :: cs =>
      match if isBlocked marks c then none else composite? starter c with
      | some joined => composeAfter joined marks cs
      | none =>
          if isStarter c then starter :: marks.reverse ++ composeAfter c [] cs
          else composeAfter starter (c :: marks) cs

/-- Composes a sorted text.  Marks before the first starter stand as they are. -/
def compose : List Char → List Char
  | [] => []
  | c :: cs => if isStarter c then composeAfter c [] cs else c :: compose cs

/-- The composed form of a text. -/
def composed (cs : List Char) : List Char := compose (decomposed cs)

example : composed ['a', '\u0303'] = ['ã'] := by decide +kernel
example : composed ['q', '\u0307', '\u0323'] = ['q', '\u0323', '\u0307'] := by decide +kernel
example : composed ['\u1112', '\u1161', '\u11AB'] = ['한'] := by decide +kernel
example : composed ['\u212B'] = ['Å'] := by decide +kernel

end KnowledgeGraph.Text
