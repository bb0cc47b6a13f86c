import KnowledgeGraph.Json.Reader

/-!
# Codecs

A codec writes a value of some type as JSON and reads it back from a draft.  Reading is
strict: there is no coercion between texts, truth values and numbers, and only an optional
value may be `null`.

A record is an object of its fields, or a list of them in their order.  Every field has a
default, so fields may be missing from an object, and a list may stop early.  An object's
members without a field are walked past, and a field may be given once only.  One table of
fields describes writing and both ways of reading.
-/

namespace KnowledgeGraph.Json

/-- How values of a type are written and read. -/
structure Codec (α : Type) where
  /-- The value as JSON. -/
  write : α → Json
  /-- The value of a draft. -/
  read : Draft → Except Fault α

namespace Codec

/-! ## Plain values -/

/-- Texts. -/
def text : Codec String where
  write := .string
  read
    | .string value _ => value
    | d => d.wrongKind

/-- Truth values. -/
def bool : Codec Bool where
  write := .bool
  read
    | .bool b => .ok b
    | d => d.wrongKind

/-- Counts: whole numbers without a sign, of 64 bits. -/
def count : Codec Nat where
  write := .ofNat
  read
    | .number (.ok (.int i)) _ =>
        if Number.IsUnsigned i then .ok i.toNat else .error .mismatch
    | d => d.wrongKind

/-- Doubles.  A whole number is read as the nearest double. -/
def number : Codec Float where
  write := .ofFloat
  read
    | .number (.ok (.int i)) _ => .ok (Float.ofInt i)
    | .number (.ok (.float x)) _ => .ok x
    | d => d.wrongKind

/-! ## Compound values -/

/-- Values that may be missing, which is written `null`. -/
def optional {α : Type} (c : Codec α) : Codec (Option α) where
  write := .ofOption c.write
  read
    | .null => .ok none
    | d => (c.read d).map some

/-- Reads the items of a list in order. -/
def readAll {α : Type} (read : Draft → Except Fault α) : List Draft → Except Fault (List α)
  | [] => .ok []
  | d :: ds => do
      let a ← read d
      return a :: (← readAll read ds)

/-- Lists. -/
def list {α : Type} (c : Codec α) : Codec (List α) where
  write as := .array (as.map c.write)
  read
    | .array items cut _ => do
        let as ← readAll c.read items
        raise cut
        return as
    | d => d.wrongKind

/-- Pairs, as lists of two items. -/
def pair {α β : Type} (c : Codec α) (d : Codec β) : Codec (α × β) where
  write ab := .array [c.write ab.1, d.write ab.2]
  read
    | .array items cut surplus => do
        match items with
        | [] =>
            raise cut
            .error .mismatch
        | [x] =>
            let _ ← c.read x
            raise cut
            .error .mismatch
        | [x, y] =>
            let a ← c.read x
            let b ← d.read y
            raise cut
            return (a, b)
        | x :: y :: _ =>
            let _ ← c.read x
            let _ ← d.read y
            .error surplus
    | d => d.wrongKind

end Codec

/-! ## Records -/

/-- A field of a record of type `α`. -/
structure Field (α : Type) where
  /-- The name of the field. -/
  name : String
  /-- The value of the field as JSON. -/
  write : α → Json
  /-- A record with the field read from a draft. -/
  read : Draft → α → Except Fault α

/-- The field of a name whose value a codec writes and reads. -/
def Field.of {α β : Type} (name : String) (c : Codec β) (get : α → β) (set : β → α → α) :
    Field α where
  name
  write a := c.write (get a)
  read d a := (c.read d).map (set · a)

namespace Field

variable {α : Type}

/-- Reads the members of an object into a record.  `seen` are the fields given so far. -/
def readMembers (fields : List (Field α)) (cut : Option Fault) (seen : List String) (a : α) :
    List (Label × Draft) → Except Fault α
  | [] => do
      raise cut
      return a
  | (label, d) :: ms => do
      let name ← label.name
      match fields.find? (·.name == name) with
      | some f =>
          if seen.contains name then .error .mismatch
          else
            let a ← f.read d a
            readMembers fields cut (name :: seen) a ms
      | none =>
          d.pass
          readMembers fields cut seen a ms

/-- Reads the items of a list into the fields of a record in their order. -/
def readItems (cut : Option Fault) (surplus : Fault) (a : α) :
    List (Field α) → List Draft → Except Fault α
  | f :: fs, d :: ds => do
      let a ← f.read d a
      readItems cut surplus a fs ds
  | [], _ :: _ => .error surplus
  | _, [] => do
      raise cut
      return a

end Field

/-- Records with a default for every field. -/
def Codec.record {α : Type} (default : α) (fields : List (Field α)) : Codec α where
  write a := .object (fields.map fun f => (f.name, f.write a))
  read
    | .object members cut => Field.readMembers fields cut [] default members
    | .array items cut surplus => Field.readItems cut surplus default fields items
    | d => d.wrongKind

/-! ## Decoding -/

/-- What is said of a text or a value that cannot be decoded. -/
def decodeMessage : String := "Falha ao decodificar JSON"

namespace Codec

variable {α : Type}

/-- Reads a text that holds one value and nothing else. -/
def decodeText (c : Codec α) (s : String) : Except Fault α := do
  let (d, more) := Draft.ofText s
  let a ← c.read d
  if more then .error .malformed else return a

/-- Reads a value. -/
def decode (c : Codec α) (j : Json) : Except Fault α := c.read j.draft

end Codec

end KnowledgeGraph.Json
