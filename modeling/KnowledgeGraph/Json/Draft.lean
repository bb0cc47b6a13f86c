import KnowledgeGraph.Json.Basic

/-!
# Drafts of JSON values

A draft is what a reader makes of a text before anything is asked of it.  It has the shape of
a value, and every place where the text stops being JSON stands in it as a fault.  Whoever
walks a draft in the order of the text meets its faults in that order, so the first problem
of a text decides, be it a fault of the text or a value of the wrong kind.

A part that is walked past is held to less than a part whose value is asked for.

* A number that is only walked past may be too large for a double.
* A text that is only walked past may escape half of a surrogate pair.
* Nesting counts only where values are kept (`Draft.keep`).

So the leaves of a draft hold two answers: the value or its fault, and the fault that is left
when the leaf is walked past.

A value is a draft without faults (`Json.draft`).  Where a fixed number of items is expected,
an item too many is `malformed` in a text and a `mismatch` in a value.
-/

namespace KnowledgeGraph.Json

/-- Why a text or a value could not be decoded. -/
inductive Fault where
  /-- The text ends too early. -/
  | truncated
  /-- The text is not JSON. -/
  | malformed
  /-- The value is of the wrong kind. -/
  | mismatch
deriving DecidableEq, Repr

/-- The name of an object's member. -/
structure Label where
  /-- The name, or why it cannot be told. -/
  name : Except Fault String
  /-- The fault that is left when the name is walked past. -/
  passing : Option Fault

/-- A value as far as it can be read. -/
inductive Draft where
  /-- The value `null`. -/
  | null
  /-- A truth value. -/
  | bool (b : Bool)
  /-- A number, or why it cannot be told. -/
  | number (value : Except Fault Json) (passing : Option Fault)
  /-- A text, or why it cannot be told. -/
  | string (value : Except Fault String) (passing : Option Fault)
  /-- A list: its items, the fault that cuts it short, and the fault of an item too many. -/
  | array (items : List Draft) (cut : Option Fault) (surplus : Fault)
  /-- An object: its members and the fault that cuts it short. -/
  | object (members : List (Label × Draft)) (cut : Option Fault)
  /-- No value. -/
  | broken (fault : Fault)

/-- Fails with a fault if there is one. -/
def raise : Option Fault → Except Fault Unit
  | none => .ok ()
  | some f => .error f

namespace Draft

/-! ## Walking past -/

mutual

/-- Walks past a value. -/
def pass : Draft → Except Fault Unit
  | .null => .ok ()
  | .bool _ => .ok ()
  | .number _ passing => raise passing
  | .string _ passing => raise passing
  | .array items cut _ => do
      passItems items
      raise cut
  | .object members cut => do
      passMembers members
      raise cut
  | .broken f => .error f

/-- Walks past the items of a list. -/
def passItems : List Draft → Except Fault Unit
  | [] => .ok ()
  | d :: ds => do
      pass d
      passItems ds

/-- Walks past the members of an object. -/
def passMembers : List (Label × Draft) → Except Fault Unit
  | [] => .ok ()
  | (label, d) :: ms => do
      raise label.passing
      pass d
      passMembers ms

end

/-! ## Keeping -/

mutual

/-- The value of a draft.  Lists and objects may nest `room` deep. -/
def keep (room : Nat) : Draft → Except Fault Json
  | .null => .ok .null
  | .bool b => .ok (.bool b)
  | .number value _ => value
  | .string value _ => value.map .string
  | .array items cut _ =>
      match room with
      | 0 => .error .malformed
      | room + 1 => do
          let values ← keepItems room items
          raise cut
          return .array values
  | .object members cut =>
      match room with
      | 0 => .error .malformed
      | room + 1 => do
          let values ← keepMembers room members
          raise cut
          return .object values
  | .broken f => .error f

/-- The values of the items of a list. -/
def keepItems (room : Nat) : List Draft → Except Fault (List Json)
  | [] => .ok []
  | d :: ds => do
      let j ← keep room d
      return j :: (← keepItems room ds)

/-- The names and values of the members of an object. -/
def keepMembers (room : Nat) : List (Label × Draft) → Except Fault (List (String × Json))
  | [] => .ok []
  | (label, d) :: ms => do
      let name ← label.name
      let j ← keep room d
      return (name, j) :: (← keepMembers room ms)

end

/-- The fault of a value of the wrong kind.  A number or a text is read before it is found to
be one, so a fault of its own comes first. -/
def wrongKind {α : Type} : Draft → Except Fault α
  | .number (.error f) _ => .error f
  | .string (.error f) _ => .error f
  | .broken f => .error f
  | _ => .error .mismatch

end Draft

/-! ## Values as drafts -/

mutual

/-- A value as a draft, which has no fault. -/
def draft : Json → Draft
  | .null => .null
  | .bool b => .bool b
  | .int i => .number (.ok (.int i)) none
  | .float x => .number (.ok (.float x)) none
  | .string s => .string (.ok s) none
  | .array items => .array (draftItems items) none .mismatch
  | .object ms => .object (draftMembers ms) none

/-- The items of a list as drafts. -/
def draftItems : List Json → List Draft
  | [] => []
  | j :: js => draft j :: draftItems js

/-- The members of an object as drafts. -/
def draftMembers : List (String × Json) → List (Label × Draft)
  | [] => []
  | (k, j) :: ms => (⟨.ok k, none⟩, draft j) :: draftMembers ms

end

end KnowledgeGraph.Json
