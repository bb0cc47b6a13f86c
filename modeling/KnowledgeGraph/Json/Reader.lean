import KnowledgeGraph.Json.Escape
import KnowledgeGraph.Json.Lexeme

/-!
# Reading JSON texts

`Draft.ofText` reads a text into a draft and says whether something stands after the value.
Blanks are the space, the tab, the line feed and the carriage return.

Every function takes the rest of the text and answers with what it read and the rest after
it, or with no rest where the text stops being JSON.  The functions that read values call
each other with one unit of fuel less.  At most three calls go by before a character is
taken, so three units per character are enough (`Draft.ofText`).
-/

namespace KnowledgeGraph.Json

/-- Whether a character is a blank of JSON. -/
def isSpace (c : Char) : Bool := c == ' ' || c == '\n' || c == '\t' || c == '\r'

/-- The rest of a text from its first character that is no blank. -/
def dropSpace (cs : List Char) : List Char := cs.dropWhile isSpace

/-- The digit that a character is. -/
def digitValue (c : Char) : Nat := c.toNat - 48

/-- The value of a hexadecimal digit. -/
def hexValue? (c : Char) : Option Nat :=
  if '0' ≤ c ∧ c ≤ '9' then some (c.toNat - 48)
  else if 'a' ≤ c ∧ c ≤ 'f' then some (c.toNat - 87)
  else if 'A' ≤ c ∧ c ≤ 'F' then some (c.toNat - 55)
  else none

/-- The unit that four hexadecimal digits stand for. -/
def hexUnit? (a b c d : Char) : Option Nat := do
  let a ← hexValue? a
  let b ← hexValue? b
  let c ← hexValue? c
  let d ← hexValue? d
  return ((a * 16 + b) * 16 + c) * 16 + d

/-- What a reader answers beside what it read: the rest of the text, or the fault at which it
stopped. -/
abbrev Rest := Except Fault (List Char)

/-- The fault at which a reader stopped. -/
def Rest.fault? : Rest → Option Fault
  | .ok _ => none
  | .error f => some f

/-! ## Lexemes -/

/-- Reads a text in quotes after the opening quote.  An escape of four digits is cut short by
the end of the text only if fewer than four bytes are left. -/
def readPieces : List Char → List Piece × Rest
  | [] => ([], .error .truncated)
  | '"' :: cs => ([], .ok cs)
  | '\\' :: [] => ([], .error .truncated)
  | '\\' :: 'u' :: a :: b :: c :: d :: cs =>
      match hexUnit? a b c d with
      | some u =>
          let (ps, rest) := readPieces cs
          (.unit u :: ps, rest)
      | none => ([], .error .malformed)
  | '\\' :: 'u' :: cs =>
      ([], .error (if (String.ofList cs).utf8ByteSize < 4 then .truncated else .malformed))
  | '\\' :: c :: cs =>
      match shortEscape? c with
      | some e =>
          let (ps, rest) := readPieces cs
          (.char e :: ps, rest)
      | none => ([], .error .malformed)
  | c :: cs =>
      if c.toNat < 0x20 then ([], .error .malformed)
      else
        let (ps, rest) := readPieces cs
        (.char c :: ps, rest)

/-- Reads the letters of a word such as `null`. -/
def readWord : List Char → List Char → Rest
  | [], cs => .ok cs
  | _ :: _, [] => .error .truncated
  | e :: es, c :: cs => if c = e then readWord es cs else .error .malformed

/-- Splits a text after its leading digits. -/
def spanDigits (cs : List Char) : List Nat × List Char :=
  ((cs.takeWhile Char.isDigit).map digitValue, cs.dropWhile Char.isDigit)

/-- A number that stops too early: `truncated` at the end of the text. -/
def cutNumber (rest : List Char) : Except Fault (Numeral × List Char) :=
  .error (if rest.isEmpty then .truncated else .malformed)

/-- Reads the exponent of a number, if one follows. -/
def readExponent (n : Numeral) (cs : List Char) : Except Fault (Numeral × List Char) :=
  let digits (negative : Bool) (cs : List Char) :=
    match spanDigits cs with
    | ([], rest) => cutNumber rest
    | (ds, rest) => .ok ({ n with exponent := some (negative, ds) }, rest)
  let signed (cs : List Char) :=
    match cs with
    | '+' :: cs => digits false cs
    | '-' :: cs => digits true cs
    | cs => digits false cs
  match cs with
  | 'e' :: cs => signed cs
  | 'E' :: cs => signed cs
  | cs => .ok (n, cs)

/-- Reads what follows the digits before the point. -/
def readFraction (n : Numeral) (cs : List Char) : Except Fault (Numeral × List Char) :=
  match cs with
  | '.' :: cs =>
      match spanDigits cs with
      | ([], rest) => cutNumber rest
      | (ds, rest) => readExponent { n with fraction := some ds } rest
  | cs => readExponent n cs

/-- Reads a number after its sign.  A zero in front is the only digit before the point. -/
def readNumeral (negative : Bool) (cs : List Char) : Except Fault (Numeral × List Char) :=
  match spanDigits cs with
  | ([], rest) => cutNumber rest
  | (0 :: _ :: _, _) => .error .malformed
  | (ds, rest) => readFraction ⟨negative, ds, none, none⟩ rest

/-- Reads a number into a draft. -/
def readNumber (cs : List Char) : Draft × Option (List Char) :=
  let read :=
    match cs with
    | '-' :: cs => readNumeral true cs
    | cs => readNumeral false cs
  match read with
  | .ok (n, rest) => (.number n.value none, some rest)
  | .error f => (.number (.error f) (some .malformed), none)

/-- Reads a name after the opening quote. -/
def readLabel (cs : List Char) : Label × Rest :=
  let (ps, rest) := readPieces cs
  (⟨(decodePieces rest.fault? ps).map String.ofList, rest.fault?⟩, rest)

/-! ## Values -/

/-- The draft of a word, and the rest after it. -/
def wordDraft (d : Draft) : Rest → Draft × Option (List Char)
  | .ok cs => (d, some cs)
  | .error f => (.broken f, none)

/-- The items or members of a list or an object, the fault that cuts it short, and the rest
after its closing bracket. -/
abbrev Parts (α : Type) := List α × Option Fault × Option (List Char)

/-- No further parts, because the text stops at a fault. -/
def Parts.cut {α : Type} (f : Fault) : Parts α := ([], some f, none)

mutual

/-- Reads a value. -/
def readValue : Nat → List Char → Draft × Option (List Char)
  | 0, _ => (.broken .truncated, none)
  | fuel + 1, cs =>
      match dropSpace cs with
      | [] => (.broken .truncated, none)
      | 'n' :: cs => wordDraft .null (readWord ['u', 'l', 'l'] cs)
      | 't' :: cs => wordDraft (.bool true) (readWord ['r', 'u', 'e'] cs)
      | 'f' :: cs => wordDraft (.bool false) (readWord ['a', 'l', 's', 'e'] cs)
      | '"' :: cs =>
          let (label, rest) := readLabel cs
          (.string label.name label.passing, rest.toOption)
      | '[' :: cs =>
          let (items, cut, rest) := readItems fuel true cs
          (.array items cut .malformed, rest)
      | '\x7b' :: cs =>
          let (members, cut, rest) := readMembers fuel true cs
          (.object members cut, rest)
      | c :: cs =>
          if c = '-' ∨ c.isDigit then readNumber (c :: cs) else (.broken .malformed, none)

/-- Reads the items of a list up to its closing bracket.  A comma after which no item follows
counts as one that is broken. -/
def readItems : Nat → Bool → List Char → Parts Draft
  | 0, _, _ => Parts.cut .truncated
  | fuel + 1, first, cs =>
      match dropSpace cs with
      | [] => Parts.cut .truncated
      | ']' :: cs => ([], none, some cs)
      | c :: cs =>
          if first then readItem fuel (c :: cs)
          else if c = ',' then
            match dropSpace cs with
            | [] => ([.broken .truncated], some .truncated, none)
            | ']' :: _ => ([.broken .malformed], some .malformed, none)
            | cs => readItem fuel cs
          else Parts.cut .malformed

/-- Reads one item of a list and those after it. -/
def readItem : Nat → List Char → Parts Draft
  | 0, _ => Parts.cut .truncated
  | fuel + 1, cs =>
      match readValue fuel cs with
      | (d, none) => ([d], some .malformed, none)
      | (d, some cs) =>
          let (ds, cut, rest) := readItems fuel false cs
          (d :: ds, cut, rest)

/-- Reads the members of an object up to its closing bracket. -/
def readMembers : Nat → Bool → List Char → Parts (Label × Draft)
  | 0, _, _ => Parts.cut .truncated
  | fuel + 1, first, cs =>
      match dropSpace cs with
      | [] => Parts.cut .truncated
      | '\x7d' :: cs => ([], none, some cs)
      | c :: cs =>
          if first then readMember fuel (c :: cs)
          else if c = ',' then
            match dropSpace cs with
            | [] => Parts.cut .truncated
            | cs => readMember fuel cs
          else Parts.cut .malformed

/-- Reads one member of an object and those after it. -/
def readMember : Nat → List Char → Parts (Label × Draft)
  | 0, _ => Parts.cut .truncated
  | fuel + 1, cs =>
      match cs with
      | '"' :: cs =>
          match readLabel cs with
          | (label, .error f) => ([(label, .broken f)], some f, none)
          | (label, .ok cs) =>
              match dropSpace cs with
              | [] => ([(label, .broken .truncated)], some .truncated, none)
              | ':' :: cs =>
                  match readValue fuel cs with
                  | (d, none) => ([(label, d)], some .malformed, none)
                  | (d, some cs) =>
                      let (ms, cut, rest) := readMembers fuel false cs
                      ((label, d) :: ms, cut, rest)
              | _ => ([(label, .broken .malformed)], some .malformed, none)
      | _ => Parts.cut .malformed

end

/-- The draft of a text, and whether something stands after its value. -/
def Draft.ofText (s : String) : Draft × Bool :=
  let cs := s.toList
  match readValue (3 * cs.length + 3) cs with
  | (d, none) => (d, false)
  | (d, some rest) => (d, !(dropSpace rest).isEmpty)

/-- The value of a text, with at most 127 levels of nesting. -/
def ofText (s : String) : Except Fault Json := do
  let (d, more) := Draft.ofText s
  let j ← d.keep 127
  if more then .error .malformed else return j

end KnowledgeGraph.Json
